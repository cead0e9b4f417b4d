import Mathlib.Algebra.Group.Nat.Defs
import Mathlib.Data.Int.Notation
import Mathlib.Data.List.Basic
import Mathlib.Tactic.Common

/-!
Binary floating-point numbers and their shortest decimal text.

A number is its bits; the text is the shortest run of decimal digits inside the rounding
interval of the number, the one closest to it, written without an exponent.
-/

namespace Rsduck.Lib

/-- The widths of the exponent and of the mantissa field. -/
structure FloatFormat where
  expBits : ℕ
  mantBits : ℕ

namespace FloatFormat

variable (F : FloatFormat)

abbrev Bits := BitVec (1 + F.expBits + F.mantBits)

def mantissa (b : F.Bits) : ℕ := b.toNat % 2 ^ F.mantBits
def exponent (b : F.Bits) : ℕ := b.toNat / 2 ^ F.mantBits % 2 ^ F.expBits
def negative (b : F.Bits) : Bool := b.toNat / 2 ^ (F.expBits + F.mantBits) % 2 == 1

def isFinite (b : F.Bits) : Bool := F.exponent b != 2 ^ F.expBits - 1
def isZero (b : F.Bits) : Bool := F.exponent b == 0 && F.mantissa b == 0

/-- The integer significand. -/
def significand (b : F.Bits) : ℕ :=
  if F.exponent b = 0 then F.mantissa b else F.mantissa b + 2 ^ F.mantBits

/-- The power of two the significand is scaled by. -/
def scale (b : F.Bits) : ℤ :=
  (if F.exponent b = 0 then 1 else F.exponent b : ℤ) - (2 ^ (F.expBits - 1) - 1 : ℕ) - F.mantBits

/-! ### The shortest digits -/

/-- A number in `[lo, hi]` with its centre, as numerators over one denominator. -/
structure Interval where
  lo : ℕ
  mid : ℕ
  hi : ℕ
  den : ℕ
  closed : Bool

/-- What rounds to the number: halfway to its neighbours, the lower one closer at a power of
two. -/
def interval (b : F.Bits) : Interval :=
  let q := F.significand b
  let s := 2 ^ (F.scale b - 2).toNat
  { lo := (4 * q - if F.mantissa b = 0 ∧ 1 < F.exponent b then 1 else 2) * s
    mid := 4 * q * s
    hi := (4 * q + 2) * s
    den := 2 ^ (2 - F.scale b).toNat
    closed := q % 2 == 0 }

/-- The number of digits before the decimal point; at most zero below one tenth. -/
def Interval.magnitude (I : Interval) : ℤ :=
  if I.den ≤ I.mid then (Nat.toDigits 10 (I.mid / I.den)).length
  else -((List.range 400).findIdx fun j => I.den ≤ I.mid * 10 ^ (j + 1))

/-- The best decimal with `k` digits, as digits and an exponent of ten. -/
def Interval.decimal (I : Interval) (k : ℕ) : Option (ℕ × ℤ) :=
  let x := I.magnitude
  let up := 10 ^ (k - x).toNat
  let d := I.den * 10 ^ (x - k).toNat
  let f := I.mid * up / d
  let inside (n : ℕ) := if I.closed then I.lo * up ≤ n * d && n * d ≤ I.hi * up
    else I.lo * up < n * d && n * d < I.hi * up
  let rest := I.mid * up - f * d
  let above := if f + 1 = 10 ^ k then (1, x) else (f + 1, x - k)
  if inside f && (!inside (f + 1) || rest * 2 ≤ d) then some (f, x - k)
  else if inside (f + 1) then some above
  else none

/-- The shortest decimal; `k` digits are enough for a format of that many. -/
def Interval.shortest (I : Interval) (k : ℕ) : ℕ × ℤ :=
  (((List.range k).map (· + 1)).findSome? I.decimal).getD (I.mid / I.den, 0)

/-! ### The text -/

/-- The digits before and after the point of `n * 10 ^ e`. -/
def positional (n : ℕ) (e : ℤ) : List Char × List Char :=
  let ds := Nat.toDigits 10 n
  let k := (-e).toNat
  if 0 ≤ e then (ds ++ List.replicate e.toNat '0', [])
  else if k < ds.length then (ds.take (ds.length - k), ds.drop (ds.length - k))
  else (['0'], List.replicate (k - ds.length) '0' ++ ds)

def magnitudeText (b : F.Bits) : List Char × List Char :=
  if F.isZero b then (['0'], [])
  else
    let (n, e) := (F.interval b).shortest 17
    positional n e

def sign (b : F.Bits) : List Char := if F.negative b then ['-'] else []

def fraction : List Char → List Char
  | [] => []
  | ds => '.' :: ds

/-- The number as text. -/
def display (b : F.Bits) : List Char :=
  if F.isFinite b then
    let (i, f) := F.magnitudeText b
    F.sign b ++ i ++ fraction f
  else if F.mantissa b = 0 then F.sign b ++ "inf".toList
  else "NaN".toList

/-! ### Its shape -/

def AllDigits (s : List Char) : Prop := ∀ c ∈ s, c.isDigit = true

lemma toNat_of_isDigit {c : Char} (h : c.isDigit = true) : 48 ≤ c.toNat ∧ c.toNat ≤ 57 := by
  simpa [Char.isDigit, UInt32.le_iff_toNat_le] using h

lemma allDigits_toDigits (n : ℕ) : AllDigits (Nat.toDigits 10 n) :=
  fun _ => Nat.isDigit_of_mem_toDigits (by decide) (by decide)

lemma allDigits_zeros (n : ℕ) : AllDigits (List.replicate n '0') := by
  intro c hc
  rw [List.eq_of_mem_replicate hc]
  rfl

lemma AllDigits.append {s t : List Char} (hs : AllDigits s) (ht : AllDigits t) :
    AllDigits (s ++ t) :=
  fun c hc => (List.mem_append.1 hc).elim (hs c) (ht c)

lemma positional_digits (n : ℕ) (e : ℤ) :
    (positional n e).1 ≠ [] ∧ AllDigits (positional n e).1 ∧ AllDigits (positional n e).2 := by
  have hd := allDigits_toDigits n
  have hne : 0 < (Nat.toDigits 10 n).length := Nat.length_toDigits_pos
  simp only [positional]
  split_ifs with h1 h2
  · refine ⟨?_, hd.append (allDigits_zeros _), by simp [AllDigits]⟩
    simp [Nat.toDigits_ne_nil]
  · refine ⟨?_, fun c hc => hd c (List.mem_of_mem_take hc),
      fun c hc => hd c (List.mem_of_mem_drop hc)⟩
    intro h
    have := congrArg List.length h
    simp at this
    omega
  · exact ⟨by simp, by simp [AllDigits], (allDigits_zeros _).append hd⟩

/-- **The shape of a finite number's text**: a sign, digits, and digits after a point. -/
theorem magnitudeText_digits (b : F.Bits) :
    (F.magnitudeText b).1 ≠ [] ∧ AllDigits (F.magnitudeText b).1 ∧
      AllDigits (F.magnitudeText b).2 := by
  unfold magnitudeText
  split_ifs
  · exact ⟨by simp, by simp [AllDigits], by simp [AllDigits]⟩
  · exact positional_digits _ _

lemma display_eq {b : F.Bits} (h : F.isFinite b = true) :
    F.display b = F.sign b ++ (F.magnitudeText b).1 ++ fraction (F.magnitudeText b).2 := by
  simp [display, h]

end FloatFormat

/-- IEEE single precision. -/
def f32 : FloatFormat := ⟨8, 23⟩

/-- IEEE double precision. -/
def f64 : FloatFormat := ⟨11, 52⟩

abbrev F32 := f32.Bits
abbrev F64 := f64.Bits

end Rsduck.Lib
