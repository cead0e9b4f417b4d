import Rsduck.Db.Binding
import Rsduck.Lib.Wire

/-!
What the literals of texts and blobs denote.

The database reads a literal up to its closing quote, a doubled quote as one. Cast to a blob,
`\xHH` in it is one byte and every other character stands for itself. The encoder writes one
`\x` and then the digits of all bytes.
-/

namespace Rsduck.Db

open Lib.Wire

/-! ### The database's reading -/

/-- The text up to the closing quote, with which the literal ends. -/
def unquoted : List Char → Option (List Char)
  | [] => none
  | '\'' :: '\'' :: r => (unquoted r).map ('\'' :: ·)
  | c :: r => if c = '\'' then (if r = [] then some [] else none) else (unquoted r).map (c :: ·)

/-- The text a string literal denotes. -/
def stringValue : List Char → Option (List Char)
  | '\'' :: r => unquoted r
  | _ => none

def hexValue (c : Char) : Option ℕ :=
  if c.isDigit then some (c.toNat - '0'.toNat)
  else if 'a'.toNat ≤ c.toNat ∧ c.toNat ≤ 'f'.toNat then some (c.toNat - 'a'.toNat + 10)
  else if 'A'.toNat ≤ c.toNat ∧ c.toNat ≤ 'F'.toNat then some (c.toNat - 'A'.toNat + 10)
  else none

/-- The byte of an escape, when the text starts with one. -/
def escapedByte : List Char → Option UInt8
  | '\\' :: 'x' :: h :: l :: _ => do
    return UInt8.ofNat (16 * (← hexValue h) + (← hexValue l))
  | _ => none

/-- The bytes a text denotes when it is cast to a blob; the first argument counts the characters
of an escape that are still to be passed over. -/
def blobFrom : ℕ → List Char → List UInt8
  | _, [] => []
  | k + 1, _ :: r => blobFrom k r
  | 0, c :: r =>
    match escapedByte (c :: r) with
    | some b => b :: blobFrom 3 r
    | none => utf8 [c] ++ blobFrom 0 r

def blobValue (content : List Char) : List UInt8 := blobFrom 0 content

/-! ### Texts -/

lemma unquoted_other {c : Char} (h : c ≠ '\'') (r : List Char) :
    unquoted (c :: r) = (unquoted r).map (c :: ·) := by
  rw [unquoted]
  · rw [if_neg h]
  · intro r' hc
    exact absurd hc h

/-- **A text's literal denotes the text.** -/
lemma stringValue_sqlStringLiteral (s : List Char) : stringValue (sqlStringLiteral s) = some s := by
  have h : unquoted (doubleQuotes s ++ ['\'']) = some s := by
    induction s with
    | nil => rfl
    | cons c r ih =>
      by_cases hc : c = '\''
      · subst hc
        have hd : doubleQuotes ('\'' :: r) ++ ['\''] =
            '\'' :: '\'' :: (doubleQuotes r ++ ['\'']) := rfl
        rw [hd, unquoted, ih]
        rfl
      · have hd : doubleQuotes (c :: r) ++ ['\''] = c :: (doubleQuotes r ++ ['\'']) := by
          simp [doubleQuotes, hc]
        rw [hd, unquoted_other hc, ih]
        rfl
  exact h

/-! ### Bytes -/

lemma hexValue_digitChar {n : ℕ} (h : n < 16) : hexValue (Nat.digitChar n) = some n := by
  have hall : ∀ n < 16, hexValue (Nat.digitChar n) = some n := by decide
  exact hall n h

lemma escapedByte_digits (b : UInt8) (r : List Char) :
    escapedByte ('\\' :: 'x' :: Nat.digitChar (b.toNat / 16) :: Nat.digitChar (b.toNat % 16) :: r) =
      some b := by
  have hb := b.toNat_lt
  have hsum : 16 * (b.toNat / 16) + b.toNat % 16 = b.toNat := by omega
  simp only [escapedByte, hexValue_digitChar (n := b.toNat / 16) (by omega),
    hexValue_digitChar (n := b.toNat % 16) (by omega), Option.bind_eq_bind, Option.bind_some, hsum,
    UInt8.ofNat_toNat]
  rfl

lemma escapedByte_of_ne {c : Char} (h : c ≠ '\\') (r : List Char) :
    escapedByte (c :: r) = none := by
  unfold escapedByte
  split
  · rename_i heq
    cases heq
    exact absurd rfl h
  · rfl

/-- Digits without an escape stand for themselves: two bytes for each byte they encode. -/
lemma length_blobValue_hexEncode (bytes : List UInt8) :
    (blobValue (hexEncode bytes)).length = 2 * bytes.length := by
  have hdigit : ∀ n < 16, Nat.digitChar n ≠ '\\' ∧ (utf8 [Nat.digitChar n]).length = 1 := by
    decide
  unfold blobValue
  induction bytes with
  | nil => rfl
  | cons b bs ih =>
    have hb := b.toNat_lt
    obtain ⟨hne, hlen⟩ := hdigit (b.toNat / 16) (by omega)
    obtain ⟨hne', hlen'⟩ := hdigit (b.toNat % 16) (by omega)
    have hhex : hexEncode (b :: bs) = Nat.digitChar (b.toNat / 16) ::
        Nat.digitChar (b.toNat % 16) :: hexEncode bs := rfl
    rw [hhex, blobFrom, escapedByte_of_ne hne]
    simp only
    rw [blobFrom, escapedByte_of_ne hne']
    simp only [List.length_append, List.length_cons, hlen, hlen', ih]
    omega

/-- The bytes of the blob's literal: the first as it is, the digits of the others. -/
lemma length_blobValue_literal (bytes : List UInt8) :
    (blobValue ('\\' :: 'x' :: hexEncode bytes)).length =
      if bytes = [] then 2 else 2 * bytes.length - 1 := by
  rcases bytes with _ | ⟨b, bs⟩
  · rfl
  · have hhex : hexEncode (b :: bs) = Nat.digitChar (b.toNat / 16) ::
        Nat.digitChar (b.toNat % 16) :: hexEncode bs := rfl
    have hlen := length_blobValue_hexEncode bs
    unfold blobValue at *
    rw [hhex, blobFrom, escapedByte_digits]
    simp only [blobFrom, List.length_cons, hlen]
    rw [if_neg (by simp)]
    omega

/-- The literal of the bytes denotes them. -/
def BytesDenoted (bytes : List UInt8) : Prop :=
  ∃ literal content, sqlParamLiteral (.bytes bytes) = .ok literal ∧
    stringValue literal = some content ∧ blobValue content = bytes

/-- The literal of the text denotes it. -/
def TextDenoted (s : List Char) : Prop :=
  ∃ literal, sqlParamLiteral (.text s) = .ok literal ∧ stringValue literal = some s

lemma bytesDenoted_iff_blobValue (bytes : List UInt8) :
    BytesDenoted bytes ↔ blobValue ('\\' :: 'x' :: hexEncode bytes) = bytes := by
  have hliteral : sqlParamLiteral (.bytes bytes) =
      .ok (sqlStringLiteral ('\\' :: 'x' :: hexEncode bytes)) := by
    rw [sqlParamLiteral, bytes_literal]
  have hvalue := stringValue_sqlStringLiteral ('\\' :: 'x' :: hexEncode bytes)
  constructor
  · rintro ⟨literal, content, h, hcontent, hbytes⟩
    rw [hliteral] at h
    cases h
    rw [hvalue] at hcontent
    cases hcontent
    exact hbytes
  · intro h
    exact ⟨_, _, hliteral, hvalue, h⟩

/-- **Literals denote their values** for every text, and for blobs of exactly one byte. -/
theorem literals_denote_iff (bytes : List UInt8) (s : List Char) :
    BytesDenoted bytes ∧ TextDenoted s ↔ bytes.length = 1 := by
  have htext : TextDenoted s := ⟨_, rfl, stringValue_sqlStringLiteral s⟩
  rw [and_iff_left htext, bytesDenoted_iff_blobValue]
  constructor
  · intro h
    have hlen := length_blobValue_literal bytes
    rw [h] at hlen
    rcases bytes with _ | ⟨b, bs⟩
    · cases hlen
    · rw [if_neg (List.cons_ne_nil b bs)] at hlen
      rw [List.length_cons] at hlen ⊢
      omega
  · intro h
    obtain ⟨b, rfl⟩ := List.length_eq_one_iff.1 h
    have hhex : hexEncode [b] = [Nat.digitChar (b.toNat / 16), Nat.digitChar (b.toNat % 16)] := rfl
    rw [blobValue, hhex, blobFrom, escapedByte_digits]
    rfl

/-- Two bytes are stored as three. -/
theorem two_bytes_not_denoted : ¬ BytesDenoted [0x41, 0x42] := by
  rw [bytesDenoted_iff_blobValue]
  decide

end Rsduck.Db
