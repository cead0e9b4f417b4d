import Rsduck.Lib.FloatRounding

/-!
Two numbers with one text are one number.

The rounding intervals of the numbers of one sign lie next to each other, in the order of their
bits. Two neighbours share an edge, and it belongs to the one with the even significand.
-/

namespace Rsduck.Lib.FloatFormat

open DecimalText

variable (F : FloatFormat)

/-! ### Neighbours -/

/-- The place of a number among those of its sign. -/
def index (b : F.Bits) : ℕ := F.mantissa b + 2 ^ F.mantBits * F.exponent b

def significandAt (k : ℕ) : ℕ :=
  if k / 2 ^ F.mantBits = 0 then k % 2 ^ F.mantBits else k % 2 ^ F.mantBits + 2 ^ F.mantBits

def scaleAt (k : ℕ) : ℤ :=
  (if k / 2 ^ F.mantBits = 0 then 1 else k / 2 ^ F.mantBits : ℕ) -
    (2 ^ (F.expBits - 1) - 1 : ℕ) - F.mantBits

/-- The upper end of the interval of a number. -/
def edge (k : ℕ) : ℚ := (4 * F.significandAt k + 2 : ℕ) * 2 ^ (F.scaleAt k - 2)

/-- The lower end; zero, for the first number. -/
def lowerEdge (k : ℕ) : ℚ :=
  (4 * F.significandAt k -
    (if k % 2 ^ F.mantBits = 0 ∧ 1 < k / 2 ^ F.mantBits then 1 else 2) : ℕ) * 2 ^ (F.scaleAt k - 2)

lemma index_div_mod (b : F.Bits) : F.index b / 2 ^ F.mantBits = F.exponent b ∧
    F.index b % 2 ^ F.mantBits = F.mantissa b :=
  (Nat.div_mod_unique (Nat.pow_pos (by decide))).2 ⟨rfl, Nat.mod_lt _ (Nat.pow_pos (by decide))⟩

lemma significandAt_index (b : F.Bits) : F.significandAt (F.index b) = F.significand b := by
  obtain ⟨he, hm⟩ := F.index_div_mod b
  rw [significandAt, significand, he, hm]

lemma scaleAt_index (b : F.Bits) : F.scaleAt (F.index b) = F.scale b := by
  rw [scaleAt, scale, (F.index_div_mod b).1]
  split_ifs <;> simp

/-- **Neighbours share an edge.** -/
lemma lowerEdge_succ (k : ℕ) : F.lowerEdge (k + 1) = F.edge k := by
  have hP : 0 < 2 ^ F.mantBits := Nat.pow_pos (by decide)
  unfold lowerEdge edge significandAt scaleAt
  generalize 2 ^ F.mantBits = P at hP ⊢
  have hk := Nat.mod_add_div k P
  have hr := Nat.mod_lt k hP
  generalize k % P = r at hk hr ⊢
  generalize k / P = d at hk ⊢
  subst hk
  by_cases hlast : r + 1 < P
  · -- the next number has the same exponent
    obtain ⟨hd, hm⟩ : (r + P * d + 1) / P = d ∧ (r + P * d + 1) % P = r + 1 :=
      (Nat.div_mod_unique hP).2 ⟨by omega, hlast⟩
    have hnum : 4 * (if d = 0 then r + 1 else r + 1 + P) - 2 =
        4 * (if d = 0 then r else r + P) + 2 := by
      split_ifs <;> omega
    rw [hd, hm, if_neg (fun h : r + 1 = 0 ∧ 1 < d => Nat.succ_ne_zero r h.1), hnum]
  · -- the next number is a power of two
    obtain ⟨hd, hm⟩ : (r + P * d + 1) / P = d + 1 ∧ (r + P * d + 1) % P = 0 :=
      (Nat.div_mod_unique hP).2 ⟨by rw [Nat.mul_succ]; omega, hP⟩
    rw [hd, hm]
    simp only [Nat.succ_ne_zero, if_false, Nat.zero_add, true_and]
    rcases Nat.eq_zero_or_pos d with rfl | hd0
    · have hnum : 4 * P - 2 = 4 * r + 2 := by omega
      simp only [Nat.zero_add, lt_self_iff_false, if_false, if_true, hnum]
    · have hne : d ≠ 0 := hd0.ne'
      have hlt : 1 < d + 1 := by omega
      have hnum : (4 * P - 1) * 2 = 4 * (r + P) + 2 := by omega
      have hscale (x : ℤ) : (2 : ℚ) ^ (((d + 1 : ℕ) : ℤ) - x - F.mantBits - 2) =
          2 * 2 ^ ((d : ℤ) - x - F.mantBits - 2) := by
        rw [← zpow_one_add₀ (by norm_num)]
        congr 1
        push_cast
        ring
      simp only [hne, hlt, if_true, if_false]
      rw [← hnum, hscale]
      push_cast
      ring

lemma scale_pos (k : ℕ) : (0 : ℚ) < 2 ^ (F.scaleAt k - 2) := zpow_pos (by norm_num) _

lemma lowerEdge_lt_edge (k : ℕ) : F.lowerEdge k < F.edge k := by
  have hlt : 4 * F.significandAt k -
      (if k % 2 ^ F.mantBits = 0 ∧ 1 < k / 2 ^ F.mantBits then 1 else 2) <
        4 * F.significandAt k + 2 := by
    omega
  exact mul_lt_mul_of_pos_right (by exact_mod_cast hlt) (F.scale_pos k)

lemma edge_strictMono : StrictMono F.edge := by
  refine strictMono_nat_of_lt_succ fun k => ?_
  rw [← lowerEdge_succ]
  exact F.lowerEdge_lt_edge (k + 1)

/-- The significands of neighbours are even and odd in turn. -/
lemma significandAt_mod_two (hM : 0 < F.mantBits) (k : ℕ) : F.significandAt k % 2 = k % 2 := by
  obtain ⟨m, hm⟩ := Nat.exists_eq_succ_of_ne_zero hM.ne'
  have hP : 2 ^ F.mantBits = 2 * 2 ^ m := by rw [hm, Nat.pow_succ, Nat.mul_comm]
  have hk := Nat.mod_add_div k (2 * 2 ^ m)
  have hmod : k % (2 * 2 ^ m) % 2 = k % 2 := Nat.mod_mod_of_dvd k (Dvd.intro _ rfl)
  unfold significandAt
  rw [hP]
  split_ifs <;> omega

/-! ### Intervals apart -/

variable {F} {b b' : F.Bits} {x : ℚ}

lemma inside_edges (hx : (F.interval b).Inside x) :
    F.lowerEdge (F.index b) ≤ x ∧ x ≤ F.edge (F.index b) ∧
      (F.significand b % 2 = 1 → F.lowerEdge (F.index b) < x ∧ x < F.edge (F.index b)) := by
  have hden : (0 : ℚ) < (F.interval b).den := by
    exact_mod_cast (Nat.pow_pos (by decide) : 0 < 2 ^ (2 - F.scale b).toNat)
  have hunit : (2 : ℚ) ^ (F.scale b - 2) * (F.interval b).den = 2 ^ (F.scale b - 2).toNat := by
    show (2 : ℚ) ^ (F.scale b - 2) * ((2 ^ (2 - F.scale b).toNat : ℕ) : ℚ) = _
    push_cast
    rw [← zpow_natCast, ← zpow_natCast, ← zpow_add₀ (by norm_num)]
    congr 1
    omega
  have hlo : F.lowerEdge (F.index b) * (F.interval b).den = (F.interval b).lo := by
    obtain ⟨he, hm⟩ := F.index_div_mod b
    rw [lowerEdge, significandAt_index, scaleAt_index, he, hm, mul_assoc, hunit]
    simp [interval]
  have hhi : F.edge (F.index b) * (F.interval b).den = (F.interval b).hi := by
    rw [edge, significandAt_index, scaleAt_index, mul_assoc, hunit]
    simp [interval]
  rw [Interval.Inside, ← hlo, ← hhi] at hx
  split_ifs at hx with hclosed
  · refine ⟨le_of_mul_le_mul_right hx.1 hden, le_of_mul_le_mul_right hx.2 hden, fun hodd => ?_⟩
    simp [interval] at hclosed
    omega
  · have h₁ := lt_of_mul_lt_mul_right hx.1 hden.le
    have h₂ := lt_of_mul_lt_mul_right hx.2 hden.le
    exact ⟨h₁.le, h₂.le, fun _ => ⟨h₁, h₂⟩⟩

/-- **A decimal rounds to one number** of each sign. -/
lemma index_eq_of_inside (hM : 0 < F.mantBits) (h : (F.interval b).Inside x)
    (h' : (F.interval b').Inside x) : F.index b = F.index b' := by
  wlog hlt : F.index b < F.index b' generalizing b b' with hsymm
  · rcases Nat.lt_trichotomy (F.index b) (F.index b') with hlt' | heq | hgt
    · exact absurd hlt' hlt
    · exact heq
    · exact (hsymm h' h hgt).symm
  exfalso
  obtain ⟨k, hk⟩ : ∃ k, F.index b' = k + 1 := ⟨F.index b' - 1, by omega⟩
  obtain ⟨-, hhi, hodd⟩ := inside_edges h
  obtain ⟨hlo, -, hodd'⟩ := inside_edges h'
  rw [hk, lowerEdge_succ] at hlo hodd'
  have hle : F.index b ≤ k := by omega
  have hedge : F.edge (F.index b) = F.edge k :=
    le_antisymm (F.edge_strictMono.monotone hle) (hlo.trans hhi)
  have heq := F.edge_strictMono.injective hedge
  -- of two neighbours one has an odd significand, and an open interval
  have hpar := F.significandAt_mod_two hM (F.index b)
  have hpar' := F.significandAt_mod_two hM (F.index b')
  rw [significandAt_index] at hpar hpar'
  rcases Nat.mod_two_eq_zero_or_one k with hk0 | hk1
  · exact absurd (hodd' (by omega)).1 (not_lt.2 (hhi.trans hedge.le))
  · exact absurd (hodd (by omega)).2 (not_lt.2 (hedge.le.trans hlo))

/-! ### Texts apart -/

lemma eq_of_index (hsign : F.negative b = F.negative b') (h : F.index b = F.index b') : b = b' := by
  have hsplit (c : F.Bits) : c.toNat =
      F.index c + 2 ^ F.mantBits * (2 ^ F.expBits * (if F.negative c then 1 else 0)) := by
    have hlt : c.toNat < 2 ^ F.mantBits * (2 ^ F.expBits * 2) := by
      have hc := c.isLt
      rwa [Nat.pow_add, Nat.pow_add, Nat.pow_one, Nat.mul_comm, Nat.mul_comm 2] at hc
    have h₁ := Nat.mod_add_div c.toNat (2 ^ F.mantBits)
    have h₂ := Nat.mod_add_div (c.toNat / 2 ^ F.mantBits) (2 ^ F.expBits)
    have h₃ : c.toNat / 2 ^ F.mantBits / 2 ^ F.expBits = if F.negative c then 1 else 0 := by
      have hsmall : c.toNat / 2 ^ F.mantBits / 2 ^ F.expBits < 2 :=
        Nat.div_lt_of_lt_mul (Nat.div_lt_of_lt_mul hlt)
      rw [Nat.div_div_eq_div_mul, ← Nat.pow_add] at hsmall ⊢
      rw [negative, Nat.add_comm F.expBits, Nat.mod_eq_of_lt hsmall]
      generalize c.toNat / 2 ^ (F.mantBits + F.expBits) = q at hsmall ⊢
      rcases q with _ | _ | q
      · rfl
      · rfl
      · omega
    rw [h₃] at h₂
    calc c.toNat = F.mantissa c + 2 ^ F.mantBits * (c.toNat / 2 ^ F.mantBits) := h₁.symm
      _ = F.mantissa c + 2 ^ F.mantBits *
          (F.exponent c + 2 ^ F.expBits * if F.negative c then 1 else 0) := by
        rw [exponent, h₂]
      _ = _ := by rw [index, Nat.mul_add, Nat.add_assoc]
  apply BitVec.eq_of_toNat_eq
  rw [hsplit b, hsplit b', hsign, h]

/-- A number that is none. -/
def isNaN (F : FloatFormat) (b : F.Bits) : Bool := !F.isFinite b && F.mantissa b != 0

lemma mem_display (h : F.isFinite b = true) {c : Char} (hc : c ∈ F.display b) :
    c.isDigit = true ∨ c = '-' ∨ c = '.' := by
  obtain ⟨-, hi, hf⟩ := F.magnitudeText_digits b
  rw [display_eq F h, List.mem_append, List.mem_append] at hc
  rcases hc with (hc | hc) | hc
  · rw [sign] at hc
    split_ifs at hc
    · exact .inr (.inl (List.mem_singleton.1 hc))
    · exact absurd hc List.not_mem_nil
  · exact .inl (hi c hc)
  · rcases hfrac : (F.magnitudeText b).2 with _ | ⟨d, ds⟩
    · rw [hfrac] at hc
      exact absurd hc List.not_mem_nil
    · rw [hfrac, fraction, List.mem_cons] at hc
      · exact hc.elim (fun h => .inr (.inr h)) fun h => .inl (hf c (by rw [hfrac]; exact h))
      · exact List.cons_ne_nil d ds

lemma head?_display (h : F.isFinite b = true) :
    (F.display b).head? = some '-' ↔ F.negative b = true := by
  obtain ⟨hne, hi, -⟩ := F.magnitudeText_digits b
  rw [display_eq F h, sign]
  split_ifs with hn
  · simp [hn]
  · have hhead := AllDigits.head?_ne (t := fraction (F.magnitudeText b).2) hne hi (c := '-') rfl
    rw [List.nil_append]
    exact iff_of_false hhead hn

lemma display_finite_inj (hF : F.Small) (hM : 0 < F.mantBits) (h : F.isFinite b = true)
    (h' : F.isFinite b' = true) (heq : F.display b = F.display b') : b = b' := by
  obtain ⟨q, hq, hr⟩ := readDecimal_display hF h
  obtain ⟨q', hq', hr'⟩ := readDecimal_display hF h'
  obtain rfl : q = q' := by
    rw [heq, hq'] at hq
    exact (Option.some.inj hq).symm
  have hsign : F.negative b = F.negative b' := by
    rw [Bool.eq_iff_iff, ← head?_display h, ← head?_display h', heq]
  exact eq_of_index hsign (index_eq_of_inside hM hr.2.2 hr'.2.2)

lemma display_of_not_finite (h : F.isFinite b = false) :
    F.display b = if F.mantissa b = 0 then F.sign b ++ "inf".toList else "NaN".toList := by
  rw [display, if_neg (by simp [h])]

/-- **One text, one number**, the texts of what is no number apart. -/
theorem display_inj (hF : F.Small) (hM : 0 < F.mantBits) (heq : F.display b = F.display b') :
    b = b' ∨ F.isNaN b = true ∧ F.isNaN b' = true := by
  have hletters {c : F.Bits} (hc : F.isFinite c = false) : 'n' ∈ F.display c ∨ 'N' ∈ F.display c := by
    rw [display_of_not_finite hc]
    split_ifs
    · exact .inl (by simp)
    · exact .inr (by simp)
  have hapart {c d : F.Bits} (hc : F.isFinite c = true) (hd : F.isFinite d = false)
      (hcd : F.display c = F.display d) : False := by
    rcases hletters hd with hmem | hmem <;>
    · rw [← hcd] at hmem
      rcases mem_display hc hmem with h | h | h <;> exact absurd h (by decide)
  rcases hb : F.isFinite b with _ | _ <;> rcases hb' : F.isFinite b' with _ | _
  · -- infinities are told apart by their sign
    rw [display_of_not_finite hb, display_of_not_finite hb'] at heq
    have hi (c : F.Bits) : F.sign c ++ "inf".toList ≠ "NaN".toList := by
      intro h
      have hmem : 'i' ∈ F.sign c ++ "inf".toList := by simp
      rw [h] at hmem
      exact absurd hmem (by decide)
    by_cases hm : F.mantissa b = 0 <;> by_cases hm' : F.mantissa b' = 0
    · left
      rw [if_pos hm, if_pos hm'] at heq
      have hsign := congrArg (List.contains · '-') (List.append_cancel_right heq)
      apply eq_of_index
      · unfold sign at hsign
        cases hn : F.negative b <;> cases hn' : F.negative b' <;> simp [hn, hn'] at hsign ⊢
      · simp only [isFinite, bne_eq_false_iff_eq] at hb hb'
        rw [index, index, hm, hm', hb, hb']
    · rw [if_pos hm, if_neg hm'] at heq
      exact (hi b heq).elim
    · rw [if_neg hm, if_pos hm'] at heq
      exact (hi b' heq.symm).elim
    · right
      simp [isNaN, hb, hb', hm, hm']
  · exact (hapart hb' hb heq.symm).elim
  · exact (hapart hb hb' heq).elim
  · exact .inl (display_finite_inj hF hM hb hb' heq)

end Rsduck.Lib.FloatFormat
