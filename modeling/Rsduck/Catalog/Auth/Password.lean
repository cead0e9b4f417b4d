import Rsduck.Catalog.Auth.Principal
import Rsduck.Catalog.Mutation.UserRole

/-!
What is stored of a password, and what a credential is checked against.

The Web protocol sends the password itself, which Argon2 checks. The wire protocol sends the
scramble of the password with a nonce; the server keeps the hash of the password's hash, in
hexadecimal digits.
-/

namespace Rsduck.Catalog

/-! ### Hexadecimal digits -/

def hexChar (n : ℕ) : Char := "0123456789abcdef".toList.getD n '0'

def hexEncode (bytes : List UInt8) : List Char :=
  bytes.flatMap fun b => [hexChar (b.toNat / 16), hexChar (b.toNat % 16)]

def hexDigit (c : Char) : Option ℕ :=
  if '0' ≤ c ∧ c ≤ '9' then some (c.toNat - '0'.toNat)
  else if 'a' ≤ c ∧ c ≤ 'f' then some (c.toNat - 'a'.toNat + 10)
  else if 'A' ≤ c ∧ c ≤ 'F' then some (c.toNat - 'A'.toNat + 10)
  else none

def hexDecode : List Char → Option (List UInt8)
  | [] => some []
  | [_] => none
  | c :: d :: r => do
    let high ← hexDigit c
    let low ← hexDigit d
    return UInt8.ofNat (high * 16 + low) :: (← hexDecode r)

lemma hexDigit_hexChar : ∀ n < 16, hexDigit (hexChar n) = some n := by decide

lemma hexDecode_hexEncode (bytes : List UInt8) : hexDecode (hexEncode bytes) = some bytes := by
  induction bytes with
  | nil => rfl
  | cons b bytes ih =>
    have hb := b.toNat_lt
    have hhigh := hexDigit_hexChar (b.toNat / 16) (by omega)
    have hlow := hexDigit_hexChar (b.toNat % 16) (by omega)
    have hbyte : UInt8.ofNat (b.toNat / 16 * 16 + b.toNat % 16) = b := by
      rw [show b.toNat / 16 * 16 + b.toNat % 16 = b.toNat by omega, UInt8.ofNat_toNat]
    change hexDecode (hexChar (b.toNat / 16) :: hexChar (b.toNat % 16) :: hexEncode bytes) = _
    rw [hexDecode, hhigh, hlow, ih]
    change some (UInt8.ofNat (b.toNat / 16 * 16 + b.toNat % 16) :: bytes) = _
    rw [hbyte]

lemma length_hexEncode (bytes : List UInt8) : (hexEncode bytes).length = 2 * bytes.length := by
  induction bytes with
  | nil => rfl
  | cons b bytes ih =>
    change (hexEncode bytes).length + 2 = _
    rw [ih, List.length_cons]
    omega

/-! ### The scramble -/

def xorBytes (a b : List UInt8) : List UInt8 := List.zipWith (· ^^^ ·) a b

lemma xorBytes_xorBytes {a b : List UInt8} (h : a.length = b.length) :
    xorBytes (xorBytes a b) b = a := by
  induction a generalizing b with
  | nil => cases b <;> rfl
  | cons x a ih =>
    rcases b with _ | ⟨y, b⟩
    · cases h
    · have hxy : (x ^^^ y) ^^^ y = x := by
        rw [UInt8.xor_assoc, UInt8.xor_self, UInt8.xor_zero]
      change (x ^^^ y ^^^ y) :: xorBytes (xorBytes a b) b = _
      rw [hxy, ih (by simpa using h)]

section Sha256

variable (sha256 : List UInt8 → List UInt8)

def utf8 (s : String) : List UInt8 := s.toUTF8.data.toList

def mysqlStage2Hash (password : String) : List UInt8 := sha256 (sha256 (utf8 password))

def mysqlCachingSha2Verifier (password : String) : String :=
  String.ofList (hexEncode (mysqlStage2Hash sha256 password))

def verifyMysqlCachingSha2Password (nonce response : List UInt8) (verifierHex : String) : Bool :=
  match hexDecode verifierHex.toList with
  | none => false
  | some verifier =>
    if verifier.length ≠ 32 ∨ response.length ≠ 32 then false
    else sha256 (xorBytes response (sha256 (verifier ++ nonce))) == verifier

/-- What a client answers to a nonce: the hash of the password under that of the nonce. -/
def scramble (nonce : List UInt8) (password : String) : List UInt8 :=
  xorBytes (sha256 (utf8 password)) (sha256 (mysqlStage2Hash sha256 password ++ nonce))

/-- The answer of one password does not pass for another's by a collision of the hash. -/
def TellsApart (nonce : List UInt8) (password other : String) : Prop :=
  sha256 (xorBytes (scramble sha256 nonce other)
      (sha256 (mysqlStage2Hash sha256 password ++ nonce))) = mysqlStage2Hash sha256 password →
    other = password

variable {sha256}

/-- **The wire protocol**: a scramble is the password's. -/
lemma verify_scramble (hlength : ∀ bytes, (sha256 bytes).length = 32) {nonce : List UInt8}
    {password other : String} (hother : TellsApart sha256 nonce password other) :
    verifyMysqlCachingSha2Password sha256 nonce (scramble sha256 nonce other)
        (mysqlCachingSha2Verifier sha256 password) = true ↔ other = password := by
  have hverifier : (mysqlStage2Hash sha256 password).length = 32 := hlength _
  have hresponse : (scramble sha256 nonce other).length = 32 := by
    simp [scramble, xorBytes, hlength]
  unfold verifyMysqlCachingSha2Password mysqlCachingSha2Verifier
  rw [String.toList_ofList, hexDecode_hexEncode]
  simp only [hverifier, hresponse, ne_eq, not_true_eq_false, or_self, if_false, beq_iff_eq]
  constructor
  · exact hother
  · rintro rfl
    rw [scramble, xorBytes_xorBytes (by rw [hlength, hlength])]
    rfl

lemma mysqlCachingSha2Verifier_ne (hlength : ∀ bytes, (sha256 bytes).length = 32)
    (password : String) : mysqlCachingSha2Verifier sha256 password ≠ "" := by
  intro h
  have hempty := congrArg String.toList h
  unfold mysqlCachingSha2Verifier at hempty
  rw [String.toList_ofList] at hempty
  have hlen := congrArg List.length hempty
  rw [length_hexEncode, mysqlStage2Hash, hlength] at hlen
  simp at hlen

end Sha256

/-! ### Argon2 -/

/-- The hash function of the Web protocol, with its salt. -/
structure Argon2 where
  hashPassword : (salt password : String) → Except String String
  verifyPassword : (password encodedHash : String) → Bool

/-- A hash is verified by the password it was made of only. -/
def Argon2.CollisionFree (A : Argon2) : Prop :=
  ∀ salt password hash, A.hashPassword salt password = .ok hash →
    ∀ other, A.verifyPassword other hash = true ↔ other = password

def Argon2.hashing (A : Argon2) (sha256 : List UInt8 → List UInt8) (salt : String) :
    PasswordHashing :=
  ⟨A.hashPassword salt, mysqlCachingSha2Verifier sha256⟩

def Argon2.check (A : Argon2) (sha256 : List UInt8 → List UInt8) : PasswordCheck :=
  ⟨A.verifyPassword, verifyMysqlCachingSha2Password sha256⟩

end Rsduck.Catalog
