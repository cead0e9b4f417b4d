import Mathlib.Algebra.Order.Field.Rat
import Mathlib.Tactic.FieldSimp
import Mathlib.Tactic.Ring
import Rsduck.Lib.FloatText

/-!
The number that the bits of a float stand for, and bits put together from their fields.
-/

namespace Rsduck.Lib

/-- What a float stands for. A zero has a sign. -/
inductive FloatValue
  | nan
  | infinite (negative : Bool)
  | finite (negative : Bool) (magnitude : ℚ)

namespace FloatFormat

variable (F : FloatFormat)

def value (b : F.Bits) : FloatValue :=
  if F.isFinite b then .finite (F.negative b) (F.significand b * 2 ^ F.scale b)
  else if F.mantissa b = 0 then .infinite (F.negative b)
  else .nan

/-- The number by its fields. -/
def valueAt (negative : Bool) (e m : ℕ) : FloatValue :=
  if e = 2 ^ F.expBits - 1 then if m = 0 then .infinite negative else .nan
  else if e = 0 then
    .finite negative (m * 2 ^ (1 - (2 ^ (F.expBits - 1) - 1 : ℕ) - F.mantBits : ℤ))
  else .finite negative
    ((m + 2 ^ F.mantBits : ℕ) * 2 ^ ((e : ℤ) - (2 ^ (F.expBits - 1) - 1 : ℕ) - F.mantBits))

lemma value_eq (b : F.Bits) : F.value b = F.valueAt (F.negative b) (F.exponent b) (F.mantissa b) := by
  unfold value valueAt isFinite significand scale
  by_cases h : F.exponent b = 2 ^ F.expBits - 1
  · simp [h]
  · by_cases h0 : F.exponent b = 0
    · simp [h0]
    · simp [h, h0]

/-- The bits with the given sign, exponent and mantissa. -/
def ofFields (negative : Bool) (e m : ℕ) : F.Bits :=
  BitVec.ofNat _ ((if negative then 2 ^ (F.expBits + F.mantBits) else 0) + e * 2 ^ F.mantBits + m)

variable {F} {e m : ℕ}

lemma toNat_ofFields (negative : Bool) (he : e < 2 ^ F.expBits) (hm : m < 2 ^ F.mantBits) :
    (F.ofFields negative e m).toNat =
      (if negative then 2 ^ (F.expBits + F.mantBits) else 0) + (e * 2 ^ F.mantBits + m) := by
  have hlow : e * 2 ^ F.mantBits + m < 2 ^ (F.expBits + F.mantBits) := by
    calc e * 2 ^ F.mantBits + m < (e + 1) * 2 ^ F.mantBits := by
          rw [Nat.add_mul]
          omega
      _ ≤ 2 ^ F.expBits * 2 ^ F.mantBits := Nat.mul_le_mul_right _ he
      _ = 2 ^ (F.expBits + F.mantBits) := (pow_add _ _ _).symm
  have htotal : 2 ^ (1 + F.expBits + F.mantBits) = 2 * 2 ^ (F.expBits + F.mantBits) := by
    rw [Nat.add_assoc, pow_add, pow_one]
  rw [ofFields, BitVec.toNat_ofNat, Nat.add_assoc, htotal, Nat.mod_eq_of_lt]
  split_ifs <;> omega

/-- The fields are there. -/
lemma fields_ofFields (negative : Bool) (he : e < 2 ^ F.expBits) (hm : m < 2 ^ F.mantBits) :
    F.negative (F.ofFields negative e m) = negative ∧ F.exponent (F.ofFields negative e m) = e ∧
      F.mantissa (F.ofFields negative e m) = m := by
  have hpow : 2 ^ (F.expBits + F.mantBits) = 2 ^ F.expBits * 2 ^ F.mantBits := pow_add _ _ _
  have hpos : 0 < 2 ^ F.mantBits := Nat.pow_pos (by decide)
  have hpos' : 0 < 2 ^ F.expBits := Nat.pow_pos (by decide)
  have hlow : e * 2 ^ F.mantBits + m < 2 ^ F.expBits * 2 ^ F.mantBits := by
    calc e * 2 ^ F.mantBits + m < (e + 1) * 2 ^ F.mantBits := by
          rw [Nat.add_mul]
          omega
      _ ≤ 2 ^ F.expBits * 2 ^ F.mantBits := Nat.mul_le_mul_right _ he
  have hsplit : (F.ofFields negative e m).toNat =
      2 ^ F.mantBits * ((if negative then 2 ^ F.expBits else 0) + e) + m := by
    rw [toNat_ofFields negative he hm, hpow]
    split_ifs
    · ring
    · ring
  unfold FloatFormat.negative exponent mantissa
  refine ⟨?_, ?_, ?_⟩
  · rw [toNat_ofFields negative he hm, hpow]
    cases negative with
    | true =>
      rw [if_pos rfl, Nat.add_div_left _ (Nat.mul_pos hpos' hpos), Nat.div_eq_of_lt hlow]
      rfl
    | false =>
      rw [if_neg (by decide), Nat.zero_add, Nat.div_eq_of_lt hlow]
      rfl
  · rw [hsplit, Nat.mul_add_div hpos, Nat.div_eq_of_lt hm, Nat.add_zero]
    split_ifs
    · rw [Nat.add_mod_left, Nat.mod_eq_of_lt he]
    · rw [Nat.zero_add, Nat.mod_eq_of_lt he]
  · rw [hsplit, Nat.mul_add_mod, Nat.mod_eq_of_lt hm]

lemma value_ofFields (negative : Bool) (he : e < 2 ^ F.expBits) (hm : m < 2 ^ F.mantBits) :
    F.value (F.ofFields negative e m) = F.valueAt negative e m := by
  obtain ⟨hneg, hexp, hman⟩ := fields_ofFields negative he hm
  rw [value_eq, hneg, hexp, hman]

end FloatFormat

end Rsduck.Lib
