import Mathlib.Tactic.Linarith
import Mathlib.Tactic.NormNum
import Mathlib.Tactic.Positivity
import Rsduck.Lib.DecimalText

/-!
The shortest decimal text of a number is read back as that number.

A number reads a decimal back when the decimal lies in the number's rounding interval. The
search for the shortest digits keeps only such decimals, and seventeen digits are always
enough, so the search ends.
-/

namespace Rsduck.Lib.FloatFormat

open DecimalText

/-- The decimal lies in the interval. -/
def Interval.Inside (I : Interval) (q : ℚ) : Prop :=
  if I.closed then (I.lo : ℚ) ≤ q * I.den ∧ q * I.den ≤ I.hi
  else (I.lo : ℚ) < q * I.den ∧ q * I.den < I.hi

variable (F : FloatFormat)

/-- The decimal rounds to the number: it is on its side of zero and in its interval. -/
def Rounds (b : F.Bits) (q : ℚ) : Prop :=
  F.isFinite b = true ∧ (if F.negative b then q ≤ 0 else 0 ≤ q) ∧ (F.interval b).Inside |q|

/-! ### What the search finds -/

variable {F} {I : Interval}

lemma zpow_mul_toNat (x k : ℤ) :
    (10 : ℚ) ^ (x - k) * 10 ^ (k - x).toNat = 10 ^ (x - k).toNat := by
  rcases le_total x k with h | h
  · have hk : ((k - x).toNat : ℤ) = k - x := Int.toNat_of_nonneg (by omega)
    have h0 : (x - k).toNat = 0 := by omega
    rw [h0, ← zpow_natCast, hk, ← zpow_add₀ (by norm_num)]
    simp
  · have hk : ((x - k).toNat : ℤ) = x - k := Int.toNat_of_nonneg (by omega)
    have h0 : (k - x).toNat = 0 := by omega
    rw [h0, ← zpow_natCast 10 (x - k).toNat, hk]
    simp

/-- The scale of the search with `k` digits. -/
def Interval.up (I : Interval) (k : ℕ) : ℕ := 10 ^ (k - I.magnitude).toNat

/-- The denominator of the search with `k` digits. -/
def Interval.unit (I : Interval) (k : ℕ) : ℕ := I.den * 10 ^ (I.magnitude - k).toNat

/-- The search's test of `n` units. -/
def Interval.test (I : Interval) (k n : ℕ) : Bool :=
  if I.closed then I.lo * I.up k ≤ n * I.unit k && n * I.unit k ≤ I.hi * I.up k
  else I.lo * I.up k < n * I.unit k && n * I.unit k < I.hi * I.up k

/-- `n` units are `n * 10 ^ (x - k)`, over the denominator of the interval. -/
lemma Interval.units_eq (I : Interval) (k n : ℕ) :
    (n : ℚ) * 10 ^ (I.magnitude - k) * I.den * I.up k = (n * I.unit k : ℕ) := by
  have := zpow_mul_toNat I.magnitude k
  rw [Interval.up, Interval.unit]
  push_cast
  rw [← this]
  ring

lemma Interval.inside_of_test {k n : ℕ} (h : I.test k n = true) :
    I.Inside (n * 10 ^ (I.magnitude - k)) := by
  have hup : (0 : ℚ) < I.up k := by
    rw [Interval.up]
    positivity
  have hunits := I.units_eq k n
  unfold Interval.test at h
  unfold Interval.Inside
  by_cases hc : I.closed = true
  · rw [if_pos hc, Bool.and_eq_true, decide_eq_true_eq, decide_eq_true_eq] at h
    rw [if_pos hc]
    constructor
    · refine le_of_mul_le_mul_right ?_ hup
      rw [hunits]
      exact_mod_cast h.1
    · refine le_of_mul_le_mul_right ?_ hup
      rw [hunits]
      exact_mod_cast h.2
  · rw [if_neg hc, Bool.and_eq_true, decide_eq_true_eq, decide_eq_true_eq] at h
    rw [if_neg hc]
    constructor
    · refine lt_of_mul_lt_mul_right ?_ hup.le
      rw [hunits]
      exact_mod_cast h.1
    · refine lt_of_mul_lt_mul_right ?_ hup.le
      rw [hunits]
      exact_mod_cast h.2

lemma Interval.decimal_eq (I : Interval) (k : ℕ) :
    I.decimal k =
      let f := I.mid * I.up k / I.unit k
      if I.test k f && (!I.test k (f + 1) || (I.mid * I.up k - f * I.unit k) * 2 ≤ I.unit k) then
        some (f, I.magnitude - k)
      else if I.test k (f + 1) then
        some (if f + 1 = 10 ^ k then (1, I.magnitude) else (f + 1, I.magnitude - k))
      else none := rfl

/-- What the search finds with `k` digits lies in the interval. -/
lemma Interval.inside_of_decimal {k n : ℕ} {e : ℤ} (h : I.decimal k = some (n, e)) :
    I.Inside (n * 10 ^ e) := by
  rw [Interval.decimal_eq] at h
  simp only at h
  generalize I.mid * I.up k / I.unit k = f at h
  split_ifs at h with hf hf' hten
  · cases h
    rw [Bool.and_eq_true] at hf
    exact Interval.inside_of_test hf.1
  · -- ten to the `k` units are one of the next power of ten
    cases h
    have hin := Interval.inside_of_test hf'
    have hpow : ((f + 1 : ℕ) : ℚ) * 10 ^ (I.magnitude - k) = (1 : ℕ) * 10 ^ I.magnitude := by
      rw [hten, Nat.cast_pow, ← zpow_natCast, Nat.cast_ofNat, ← zpow_add₀ (by norm_num)]
      simp
    rwa [hpow] at hin
  · cases h
    exact Interval.inside_of_test hf'

lemma Interval.test_of_lt {k n : ℕ} (h1 : I.lo * I.up k < n * I.unit k)
    (h2 : n * I.unit k < I.hi * I.up k) : I.test k n = true := by
  unfold Interval.test
  split_ifs
  · simp [h1.le, h2.le]
  · simp [h1, h2]

/-- A search with a unit below the interval's width finds a decimal. -/
lemma Interval.decimal_ne_none {k : ℕ} (hlo : I.lo < I.mid) (hhi : I.mid < I.hi) (hden : 0 < I.den)
    (hwidth : I.unit k < (I.hi - I.lo) * I.up k) : I.decimal k ≠ none := by
  have hup : 0 < I.up k := Nat.pow_pos (by decide)
  have hunit : 0 < I.unit k := Nat.mul_pos hden (Nat.pow_pos (by decide))
  have hlo' : I.lo * I.up k < I.mid * I.up k := Nat.mul_lt_mul_of_pos_right hlo hup
  have hhi' : I.mid * I.up k < I.hi * I.up k := Nat.mul_lt_mul_of_pos_right hhi hup
  have hbelow : I.mid * I.up k / I.unit k * I.unit k ≤ I.mid * I.up k := Nat.div_mul_le_self _ _
  have habove : I.mid * I.up k < (I.mid * I.up k / I.unit k + 1) * I.unit k := by
    rw [Nat.add_mul, Nat.one_mul]
    exact Nat.lt_div_mul_add hunit
  rw [Interval.decimal_eq]
  simp only
  generalize I.mid * I.up k / I.unit k = f at hbelow habove
  -- the units on both sides of the centre cannot both be outside
  have hone : I.test k f = true ∨ I.test k (f + 1) = true := by
    by_contra hno
    rw [not_or] at hno
    have h1 : f * I.unit k ≤ I.lo * I.up k := by
      by_contra h
      exact hno.1 (Interval.test_of_lt (by omega) (by omega))
    have h2 : I.hi * I.up k ≤ (f + 1) * I.unit k := by
      by_contra h
      exact hno.2 (Interval.test_of_lt (by omega) (by omega))
    rw [Nat.sub_mul] at hwidth
    rw [Nat.add_mul] at h2
    omega
  rcases h : I.test k (f + 1) with _ | _
  · have hf : I.test k f = true := by simpa [h] using hone
    simp [hf]
  · rw [if_pos rfl]
    split_ifs <;> simp

lemma Interval.inside_shortest {k : ℕ} (h : I.decimal (k + 1) ≠ none) :
    I.Inside ((I.shortest (k + 1)).1 * 10 ^ (I.shortest (k + 1)).2) := by
  have hsome : (((List.range (k + 1)).map (· + 1)).findSome? I.decimal).isSome := by
    rw [List.isSome_findSome?]
    simp only [List.any_eq_true, List.mem_map, List.mem_range]
    exact ⟨k + 1, ⟨k, by omega, rfl⟩, Option.isSome_iff_ne_none.2 h⟩
  obtain ⟨⟨n, e⟩, hs⟩ := Option.isSome_iff_exists.1 hsome
  obtain ⟨j, -, hj⟩ := List.exists_of_findSome?_eq_some hs
  unfold Interval.shortest
  rw [hs]
  exact Interval.inside_of_decimal hj

/-! ### Seventeen digits are enough -/

/-- A positive number has no more digits than it says. -/
lemma pow_pred_length_le {n : ℕ} (h : 0 < n) : 10 ^ ((Nat.toDigits 10 n).length - 1) ≤ n := by
  have hpos : 0 < (Nat.toDigits 10 n).length := Nat.length_toDigits_pos
  rcases Nat.eq_zero_or_pos ((Nat.toDigits 10 n).length - 1) with h0 | h0
  · rw [h0]
    exact h
  · by_contra hlt
    have := (Nat.length_toDigits_le_iff (b := 10) (n := n) (by decide) h0).2 (by omega)
    omega

/-- The magnitude is a lower bound of the centre. -/
lemma Interval.magnitude_le (hden : 0 < I.den) (hsmall : ∃ j < 400, I.den ≤ I.mid * 10 ^ (j + 1)) :
    (I.den : ℚ) * 10 ^ (I.magnitude - 1) ≤ I.mid := by
  unfold Interval.magnitude
  split_ifs with h
  · have hq : 0 < I.mid / I.den := Nat.div_pos h hden
    have hlen : 0 < (Nat.toDigits 10 (I.mid / I.den)).length := Nat.length_toDigits_pos
    have hle : I.den * 10 ^ ((Nat.toDigits 10 (I.mid / I.den)).length - 1) ≤ I.mid :=
      (Nat.mul_le_mul_left _ (pow_pred_length_le hq)).trans (Nat.mul_div_le _ _)
    have hexp : ((Nat.toDigits 10 (I.mid / I.den)).length : ℤ) - 1 =
        ((Nat.toDigits 10 (I.mid / I.den)).length - 1 : ℕ) := by omega
    rw [hexp, zpow_natCast]
    exact_mod_cast hle
  · set p := fun j : ℕ => decide (I.den ≤ I.mid * 10 ^ (j + 1)) with hp
    obtain ⟨j, hj, hle⟩ := hsmall
    have hlt : (List.range 400).findIdx p < (List.range 400).length :=
      List.findIdx_lt_length_of_exists ⟨j, List.mem_range.2 hj, decide_eq_true hle⟩
    have hfound := List.findIdx_getElem (p := p) (w := hlt)
    rw [List.getElem_range, hp, decide_eq_true_eq, ← hp] at hfound
    generalize (List.range 400).findIdx p = j at hfound ⊢
    have hexp : -(j : ℤ) - 1 = -((j + 1 : ℕ) : ℤ) := by omega
    rw [hexp, zpow_neg, zpow_natCast, mul_inv_le_iff₀ (by positivity)]
    exact_mod_cast hfound

/-- With seventeen digits the unit is below the width of an interval that is not too narrow. -/
lemma Interval.unit_lt (hden : 0 < I.den) (hsmall : ∃ j < 400, I.den ≤ I.mid * 10 ^ (j + 1))
    (hwidth : I.mid < (I.hi - I.lo) * 10 ^ 16) : I.unit 17 < (I.hi - I.lo) * I.up 17 := by
  have hmag := I.magnitude_le hden hsmall
  have hup : (0 : ℚ) < I.up 17 := by
    rw [Interval.up]
    positivity
  have hunit : (I.unit 17 : ℚ) = I.den * 10 ^ (I.magnitude - 17) * I.up 17 := by
    have := I.units_eq 17 1
    push_cast at this
    rw [← one_mul (I.unit 17 : ℚ), ← this]
    ring
  have hscale : (I.den : ℚ) * 10 ^ (I.magnitude - 17) * 10 ^ 16 = I.den * 10 ^ (I.magnitude - 1) := by
    rw [mul_assoc, ← zpow_natCast (10 : ℚ) 16, ← zpow_add₀ (by norm_num)]
    congr 2
    ring
  have hq : (I.den : ℚ) * 10 ^ (I.magnitude - 17) < (I.hi - I.lo : ℕ) := by
    have h16 : (I.mid : ℚ) < (I.hi - I.lo : ℕ) * 10 ^ 16 := by exact_mod_cast hwidth
    refine lt_of_mul_lt_mul_right ?_ (show (0 : ℚ) ≤ 10 ^ 16 by norm_num)
    rw [hscale]
    exact hmag.trans_lt h16
  have : (I.unit 17 : ℚ) < (I.hi - I.lo : ℕ) * I.up 17 := by
    rw [hunit]
    exact mul_lt_mul_of_pos_right hq hup
  exact_mod_cast this

/-- A format no wider than double precision. -/
structure Small (F : FloatFormat) : Prop where
  mant : F.mantBits ≤ 52
  exp : 2 ^ (F.expBits - 1) + F.mantBits ≤ 1200

variable {b : F.Bits}

lemma significand_lt (b : F.Bits) : F.significand b < 2 ^ (F.mantBits + 1) := by
  have hm : F.mantissa b < 2 ^ F.mantBits := Nat.mod_lt _ (Nat.pow_pos (by decide))
  rw [significand, Nat.pow_succ]
  split_ifs <;> omega

lemma significand_pos (h : F.isZero b = false) : 0 < F.significand b := by
  have hp : 0 < 2 ^ F.mantBits := Nat.pow_pos (by decide)
  rw [significand]
  split_ifs with he
  · rw [isZero, he, beq_self_eq_true, Bool.true_and, beq_eq_false_iff_ne] at h
    omega
  · omega

lemma interval_lo_lt (h : F.isZero b = false) : (F.interval b).lo < (F.interval b).mid := by
  have hq := significand_pos h
  have hs : 0 < 2 ^ (F.scale b - 2).toNat := Nat.pow_pos (by decide)
  refine Nat.mul_lt_mul_of_pos_right ?_ hs
  split_ifs <;> omega

lemma interval_mid_lt (b : F.Bits) : (F.interval b).mid < (F.interval b).hi := by
  have hs : 0 < 2 ^ (F.scale b - 2).toNat := Nat.pow_pos (by decide)
  exact Nat.mul_lt_mul_of_pos_right (by omega) hs

/-- The interval is wide enough: one part in ten to the sixteenth of its centre. -/
lemma interval_wide (hF : F.Small) (h : F.isZero b = false) :
    (F.interval b).mid < ((F.interval b).hi - (F.interval b).lo) * 10 ^ 16 := by
  have hq := significand_pos h
  have hlt := significand_lt b
  have hs : 0 < 2 ^ (F.scale b - 2).toNat := Nat.pow_pos (by decide)
  have h53 : 2 ^ (F.mantBits + 1) ≤ 2 ^ 53 := Nat.pow_le_pow_right (by decide) (by
    have := hF.mant
    omega)
  have h52 : 2 ^ F.mantBits ≤ 2 ^ 52 := Nat.pow_le_pow_right (by decide) hF.mant
  have hwide : 4 * F.significand b < (4 * F.significand b + 2 -
      (4 * F.significand b - if F.mantissa b = 0 ∧ 1 < F.exponent b then 1 else 2)) * 10 ^ 16 := by
    split_ifs with h0
    · have : F.significand b = 2 ^ F.mantBits := by
        rw [significand, if_neg (by omega), h0.1, Nat.zero_add]
      omega
    · omega
  calc (F.interval b).mid = 4 * F.significand b * 2 ^ (F.scale b - 2).toNat := rfl
    _ < _ := Nat.mul_lt_mul_of_pos_right hwide hs
    _ = ((F.interval b).hi - (F.interval b).lo) * 10 ^ 16 := by
      rw [Nat.mul_right_comm, Nat.sub_mul]
      rfl

lemma interval_den_le (hF : F.Small) (h : F.isZero b = false) :
    ∃ j < 400, (F.interval b).den ≤ (F.interval b).mid * 10 ^ (j + 1) := by
  have hq := significand_pos h
  have hs : 0 < 2 ^ (F.scale b - 2).toNat := Nat.pow_pos (by decide)
  have hmid : 1 ≤ (F.interval b).mid := Nat.mul_pos (by omega) hs
  have hscale : (2 - F.scale b).toNat ≤ 1200 := by
    have := hF.exp
    have : 0 < 2 ^ (F.expBits - 1) := Nat.pow_pos (by decide)
    unfold scale
    split_ifs <;> omega
  obtain ⟨j, hj, hj'⟩ : ∃ j, j < 400 ∧ 1200 ≤ 3 * (j + 1) := ⟨399, by decide, by decide⟩
  refine ⟨j, hj, ?_⟩
  calc (F.interval b).den = 2 ^ (2 - F.scale b).toNat := rfl
    _ ≤ 2 ^ (3 * (j + 1)) := Nat.pow_le_pow_right (by decide) (hscale.trans hj')
    _ = 8 ^ (j + 1) := by rw [Nat.pow_mul]
    _ ≤ 10 ^ (j + 1) := Nat.pow_le_pow_left (by decide) _
    _ ≤ (F.interval b).mid * 10 ^ (j + 1) := Nat.le_mul_of_pos_left _ hmid

/-- The shortest digits of a number lie in its rounding interval. -/
lemma inside_shortest_interval (hF : F.Small) (h : F.isZero b = false) :
    (F.interval b).Inside
      (((F.interval b).shortest 17).1 * 10 ^ ((F.interval b).shortest 17).2) := by
  have hden : 0 < (F.interval b).den := Nat.pow_pos (by decide)
  exact Interval.inside_shortest (Interval.decimal_ne_none (interval_lo_lt h) (interval_mid_lt b)
    hden (Interval.unit_lt hden (interval_den_le hF h) (interval_wide hF h)))

/-- Zero lies in the interval of zero. -/
lemma inside_zero (h : F.isZero b = true) : (F.interval b).Inside 0 := by
  rw [isZero, Bool.and_eq_true, beq_iff_eq, beq_iff_eq] at h
  have hq : F.significand b = 0 := by rw [significand, if_pos h.1, h.2]
  have hlo : (F.interval b).lo = 0 := by simp [interval, hq]
  have hclosed : (F.interval b).closed = true := by simp [interval, hq]
  rw [Interval.Inside, if_pos hclosed, hlo]
  simp

/-! ### The text reads back -/

/-- The digits of `n * 10 ^ e`, with a point in them, are that number. -/
lemma positional_value (n : ℕ) (e : ℤ) :
    (Nat.ofDigitChars 10 ((positional n e).1 ++ (positional n e).2) 0 : ℚ) /
      10 ^ (positional n e).2.length = n * 10 ^ e := by
  have hn : Nat.ofDigitChars 10 (Nat.toDigits 10 n) 0 = n := Nat.ofDigitChars_ten_toDigits
  simp only [positional]
  split_ifs with h1 h2
  · have he : (10 : ℚ) ^ e = 10 ^ e.toNat := by
      rw [← zpow_natCast, Int.toNat_of_nonneg h1]
    rw [List.append_nil, Nat.ofDigitChars_append, hn, Nat.ofDigitChars_replicate_zero, he]
    push_cast
    simp [mul_comm]
  · have he : (10 : ℚ) ^ e = (10 ^ (-e).toNat)⁻¹ := by
      rw [← zpow_natCast, Int.toNat_of_nonneg (by omega), zpow_neg, inv_inv]
    have hlen : ((Nat.toDigits 10 n).drop ((Nat.toDigits 10 n).length - (-e).toNat)).length =
        (-e).toNat := by
      rw [List.length_drop]
      omega
    rw [List.take_append_drop, hn, hlen, he, div_eq_mul_inv]
  · have he : (10 : ℚ) ^ e = (10 ^ (-e).toNat)⁻¹ := by
      rw [← zpow_natCast, Int.toNat_of_nonneg (by omega), zpow_neg, inv_inv]
    have hlen : (List.replicate ((-e).toNat - (Nat.toDigits 10 n).length) '0' ++
        Nat.toDigits 10 n).length = (-e).toNat := by
      rw [List.length_append, List.length_replicate]
      omega
    have hzero : Nat.ofDigitChars 10 ['0'] 0 = 0 := rfl
    rw [hlen, he, Nat.ofDigitChars_append, hzero, Nat.ofDigitChars_append,
      Nat.ofDigitChars_replicate_zero, Nat.mul_zero, hn, div_eq_mul_inv]

/-- **A finite number's text reads back**: it is a decimal that rounds to the number. -/
theorem readDecimal_display (hF : F.Small) (h : F.isFinite b = true) :
    ∃ q, readDecimal (F.display b) = some q ∧ F.Rounds b q := by
  obtain ⟨hne, hi, hf⟩ := F.magnitudeText_digits b
  have hread := readDecimal_parts (F.negative b) hne hi hf
  set m : ℚ := (Nat.ofDigitChars 10 ((F.magnitudeText b).1 ++ (F.magnitudeText b).2) 0 : ℚ) /
    10 ^ (F.magnitudeText b).2.length with hm
  have hm0 : 0 ≤ m := by positivity
  have hvalue : (F.interval b).Inside m := by
    by_cases hz : F.isZero b = true
    · have : m = 0 := by
        rw [hm, magnitudeText, if_pos hz]
        simp [Nat.ofDigitChars]
      rw [this]
      exact inside_zero hz
    · rw [Bool.not_eq_true] at hz
      have hpos := positional_value ((F.interval b).shortest 17).1 ((F.interval b).shortest 17).2
      have : m = ((F.interval b).shortest 17).1 * 10 ^ ((F.interval b).shortest 17).2 := by
        rw [hm, magnitudeText, if_neg (by simp [hz])]
        exact hpos
      rw [this]
      exact inside_shortest_interval hF hz
  refine ⟨if F.negative b then -m else m, ?_, h, ?_, ?_⟩
  · rw [display_eq F h, sign, hread]
    cases F.negative b <;> simp [hm, neg_div]
  · cases F.negative b <;> simp [hm0]
  · cases F.negative b <;> simpa [abs_of_nonneg hm0] using hvalue

end Rsduck.Lib.FloatFormat
