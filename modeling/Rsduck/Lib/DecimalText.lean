import Mathlib.Algebra.Order.Field.Rat
import Mathlib.Tactic.FieldSimp
import Mathlib.Tactic.Ring
import Rsduck.Lib.FloatText
import Rsduck.Lib.Text

/-!
Numbers read from decimal text, and numbers written with a fixed number of digits.
-/

namespace Rsduck.Lib.DecimalText

open FloatFormat Text

/-! ### Digits -/

lemma toLower_of_isDigit {c : Char} (h : c.isDigit = true) : c.toLower = c := by
  have hle := toNat_of_isDigit h
  have hnot : ¬ (c.val ≥ 'A'.val ∧ c.val ≤ 'Z'.val) := by
    simp only [ge_iff_le, UInt32.le_iff_toNat_le, not_and]
    intro h65
    have : (65 : ℕ) ≤ c.toNat := h65
    omega
  unfold Char.toLower
  exact dif_neg hnot

lemma isWhitespace_of_isDigit {c : Char} (h : c.isDigit = true) : isWhitespace c = false := by
  have hle := toNat_of_isDigit h
  exact isWhitespace_of_visible (by omega)

lemma trim_digits {s : List Char} (h : AllDigits s) : trim s = s :=
  trim_of_ends (fun c hc => isWhitespace_of_isDigit (h c (List.mem_of_mem_head? hc)))
    fun c hc => isWhitespace_of_isDigit (h c (List.mem_of_getLast? hc))

lemma toAsciiLowercase_digits {s : List Char} (h : AllDigits s) : toAsciiLowercase s = s := by
  unfold toAsciiLowercase
  conv_rhs => rw [← List.map_id s]
  exact List.map_congr_left fun c hc => toLower_of_isDigit (h c hc)

/-! ### Natural numbers and integers -/

def readNat (s : List Char) : Option ℕ :=
  if s ≠ [] ∧ s.all Char.isDigit then some (Nat.ofDigitChars 10 s 0) else none

lemma readNat_of_digits {s : List Char} (hne : s ≠ []) (hd : AllDigits s) :
    readNat s = some (Nat.ofDigitChars 10 s 0) := by
  have hall : s.all Char.isDigit = true := List.all_eq_true.2 hd
  rw [readNat, if_pos ⟨hne, hall⟩]

lemma readNat_toDigits (n : ℕ) : readNat (Nat.toDigits 10 n) = some n := by
  rw [readNat_of_digits Nat.toDigits_ne_nil (allDigits_toDigits n), Nat.ofDigitChars_ten_toDigits]

/-- A minus, and what follows it. -/
def splitSign : List Char → Bool × List Char
  | '-' :: r => (true, r)
  | s => (false, s)

lemma splitSign_append (neg : Bool) {s : List Char} (h : s.head? ≠ some '-') :
    splitSign ((if neg then ['-'] else []) ++ s) = (neg, s) := by
  cases neg with
  | true => rfl
  | false =>
    change splitSign s = (false, s)
    unfold splitSign
    split
    · simp at h
    · rfl

lemma AllDigits.head?_ne {s t : List Char} (hne : s ≠ []) (h : AllDigits s) {c : Char}
    (hc : c.isDigit = false) : (s ++ t).head? ≠ some c := by
  rcases s with _ | ⟨d, s⟩
  · exact absurd rfl hne
  · rintro ⟨⟩
    have := h c List.mem_cons_self
    simp [hc] at this

def readInt (s : List Char) : Option ℤ :=
  (readNat (splitSign s).2).map fun n : ℕ => if (splitSign s).1 then -(n : ℤ) else (n : ℤ)

/-! ### Decimals -/

/-- A sign, digits, and digits after a point. -/
def readDecimal (s : List Char) : Option ℚ :=
  let (neg, s) := splitSign s
  let i := s.takeWhile (· != '.')
  let value (n : ℕ) (k : ℕ) : ℚ := (if neg then -(n : ℚ) else n) / 10 ^ k
  match s.dropWhile (· != '.') with
  | [] => (readNat i).map (value · 0)
  | _ :: f => do
    let _ ← readNat i
    let _ ← readNat f
    return value (Nat.ofDigitChars 10 (i ++ f) 0) f.length

lemma takeWhile_digits {i : List Char} (hi : AllDigits i) (f : List Char) :
    (i ++ fraction f).takeWhile (· != '.') = i ∧ (i ++ fraction f).dropWhile (· != '.') = fraction f := by
  have hne : ∀ c ∈ i, (c != '.') = true := by
    intro c hc
    have := hi c hc
    rw [bne_iff_ne]
    rintro rfl
    simp at this
  rw [List.takeWhile_append_of_pos hne, List.dropWhile_append_of_pos hne]
  rcases f with _ | ⟨d, f⟩ <;> simp [fraction]

/-- Digits with a point between them are the number of all the digits over a power of ten. -/
lemma readDecimal_parts {i f : List Char} (neg : Bool) (hne : i ≠ []) (hi : AllDigits i)
    (hf : AllDigits f) :
    readDecimal ((if neg then ['-'] else []) ++ i ++ fraction f) =
      some ((if neg then -(Nat.ofDigitChars 10 (i ++ f) 0 : ℚ)
        else Nat.ofDigitChars 10 (i ++ f) 0) / 10 ^ f.length) := by
  have hhead := AllDigits.head?_ne (t := fraction f) hne hi (c := '-') rfl
  have hsplit := splitSign_append neg hhead
  obtain ⟨htake, hdrop⟩ := takeWhile_digits hi f
  unfold readDecimal
  rw [List.append_assoc, hsplit]
  simp only [htake, hdrop, readNat_of_digits hne hi]
  rcases f with _ | ⟨d, f⟩
  · simp [fraction]
  · have hfne : d :: f ≠ [] := by simp
    simp only [fraction, readNat_of_digits hfne hf]
    rfl

/-! ### Fixed widths -/

/-- The number with zeros before it. -/
def padded (width n : ℕ) : List Char :=
  List.replicate (width - (Nat.toDigits 10 n).length) '0' ++ Nat.toDigits 10 n

/-- Exactly `width` digits off the front of a text. -/
def fixedDigits (width : ℕ) (s : List Char) : Option (ℕ × List Char) :=
  if (s.take width).length = width ∧ (s.take width).all Char.isDigit then
    some (Nat.ofDigitChars 10 (s.take width) 0, s.drop width)
  else none

lemma length_padded {width n : ℕ} (hw : 0 < width) (h : n < 10 ^ width) :
    (padded width n).length = width := by
  have := (Nat.length_toDigits_le_iff (b := 10) (by decide) hw).2 h
  rw [padded, List.length_append, List.length_replicate]
  omega

lemma allDigits_padded (width n : ℕ) : AllDigits (padded width n) :=
  (allDigits_zeros _).append (allDigits_toDigits n)

lemma ofDigitChars_padded (width n : ℕ) : Nat.ofDigitChars 10 (padded width n) 0 = n := by
  rw [padded, Nat.ofDigitChars_append, Nat.ofDigitChars_replicate_zero, Nat.mul_zero,
    Nat.ofDigitChars_ten_toDigits]

/-- A number written with enough digits is read back. -/
lemma fixedDigits_padded {width n : ℕ} (hw : 0 < width) (h : n < 10 ^ width) (rest : List Char) :
    fixedDigits width (padded width n ++ rest) = some (n, rest) := by
  have hlen := length_padded hw h
  have hall : (padded width n).all Char.isDigit = true := List.all_eq_true.2 (allDigits_padded _ _)
  rw [fixedDigits, List.take_left' hlen, List.drop_left' hlen, if_pos ⟨hlen, hall⟩,
    ofDigitChars_padded]

lemma ofDigitChars_lt {s : List Char} (h : AllDigits s) :
    Nat.ofDigitChars 10 s 0 < 10 ^ s.length := by
  induction s with
  | nil => decide
  | cons c s ih =>
    have hc : c.toNat - '0'.toNat ≤ 9 := by
      have hle := toNat_of_isDigit (h c List.mem_cons_self)
      have h0 : '0'.toNat = 48 := rfl
      omega
    have hs := ih fun d hd => h d (List.mem_cons_of_mem c hd)
    rw [Nat.ofDigitChars_cons, Nat.ofDigitChars_eq_ofDigitChars_zero, Nat.mul_zero, Nat.zero_add,
      List.length_cons, Nat.pow_succ]
    have := Nat.mul_le_mul_left (10 ^ s.length) hc
    omega

/-- Texts of as many digits are in the order of their numbers. -/
lemma ofDigitChars_lt_iff {s t : List Char} (hs : AllDigits s) (ht : AllDigits t)
    (h : s.length = t.length) :
    Nat.ofDigitChars 10 s 0 < Nat.ofDigitChars 10 t 0 ↔ s < t := by
  induction s generalizing t with
  | nil =>
    obtain rfl := List.length_eq_zero_iff.1 h.symm
    simp
  | cons c s ih =>
    rcases t with _ | ⟨d, t⟩
    · cases h
    · have hlen : s.length = t.length := Nat.succ.inj h
      have hs' : AllDigits s := fun x hx => hs x (List.mem_cons_of_mem c hx)
      have ht' : AllDigits t := fun x hx => ht x (List.mem_cons_of_mem d hx)
      have hrest := ih hs' ht' hlen
      have hsmall := ofDigitChars_lt hs'
      have hsmall' := ofDigitChars_lt ht'
      have hc := toNat_of_isDigit (hs c List.mem_cons_self)
      have hd := toNat_of_isDigit (ht d List.mem_cons_self)
      have h0 : '0'.toNat = 48 := rfl
      have hlt : c < d ↔ c.toNat < d.toNat := Iff.rfl
      have heq : c = d ↔ c.toNat = d.toNat := Char.toNat_inj.symm
      rw [List.cons_lt_cons_iff, ← hrest, hlt, heq, Nat.ofDigitChars_cons, Nat.ofDigitChars_cons,
        Nat.ofDigitChars_eq_ofDigitChars_zero, Nat.ofDigitChars_eq_ofDigitChars_zero (l := t),
        Nat.mul_zero, Nat.zero_add, Nat.zero_add, hlen]
      rw [hlen] at hsmall
      rcases Nat.lt_trichotomy c.toNat d.toNat with hcd | hcd | hcd
      · have := Nat.mul_le_mul_left (10 ^ t.length)
          (show c.toNat - '0'.toNat + 1 ≤ d.toNat - '0'.toNat by omega)
        rw [Nat.mul_succ] at this
        omega
      · rw [hcd]
        omega
      · have := Nat.mul_le_mul_left (10 ^ t.length)
          (show d.toNat - '0'.toNat + 1 ≤ c.toNat - '0'.toNat by omega)
        rw [Nat.mul_succ] at this
        omega

lemma fixedDigits_lt {width n : ℕ} {s r : List Char} (h : fixedDigits width s = some (n, r)) :
    n < 10 ^ width := by
  unfold fixedDigits at h
  split_ifs at h with hw
  cases h
  have hd : AllDigits (s.take width) := List.all_eq_true.1 hw.2
  have := ofDigitChars_lt hd
  rwa [hw.1] at this

/-- A number has no fewer digits than the width it is read with. -/
lemma fixedDigits_eq_none {width : ℕ} {c : Char} {s : List Char} (hw : 0 < width)
    (hc : c.isDigit = false) : fixedDigits width (c :: s) = none := by
  obtain ⟨k, rfl⟩ := Nat.exists_eq_succ_of_ne_zero hw.ne'
  rw [fixedDigits, if_neg]
  simp [hc]

end Rsduck.Lib.DecimalText
