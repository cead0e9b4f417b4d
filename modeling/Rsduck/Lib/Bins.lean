import Mathlib.Algebra.BigOperators.Finprod
import Mathlib.Algebra.Order.Group.Multiset
import Mathlib.Data.Set.Card

/-!
Rows that are kept under keys. A key shows its rows, or keeps them aside; of a key whose rows are
gone it stays known that it had some. Where only so many keys are to be kept, the greatest are.
-/

namespace Rsduck.Lib

/-- What there is under a key. -/
inductive Bin (β : Type)
  | shown (rows : Multiset β)
  | aside (rows : Multiset β)
  | gone

namespace Bin

variable {β : Type}

def rows : Bin β → Multiset β
  | shown r | aside r => r
  | gone => 0

def visible : Bin β → Multiset β
  | shown r => r
  | aside _ | gone => 0

end Bin

abbrev Bins (κ β : Type) := κ → Option (Bin β)

namespace Bins

variable {κ β : Type}

def empty : Bins κ β := fun _ => none

def rowsAt (b : Bins κ β) (k : κ) : Multiset β := (b k).elim 0 Bin.rows

def visibleAt (b : Bins κ β) (k : κ) : Multiset β := (b k).elim 0 Bin.visible

/-- All rows, shown or aside. -/
noncomputable def stored (b : Bins κ β) : Multiset β := ∑ᶠ k, b.rowsAt k

/-- The rows that are shown. -/
noncomputable def visible (b : Bins κ β) : Multiset β := ∑ᶠ k, b.visibleAt k

def shownKeys (b : Bins κ β) : Set κ := {k | ∃ r, b k = some (.shown r)}

/-- Only so many keys have rows. -/
def FinitelyMany (b : Bins κ β) : Prop := {k | b k ≠ none}.Finite

/-! ### What can be done -/

open Classical in
/-- The rows of a batch that are for a key. -/
noncomputable def batchAt (rows : List (κ × β)) (k : κ) : Multiset β :=
  ((rows.filter fun r => r.1 = k).map (·.2) : List β)

/-- A batch is for keys that are new, or shown. -/
def Accepts (b : Bins κ β) (rows : List (κ × β)) : Prop :=
  ∀ r ∈ rows, b r.1 = none ∨ r.1 ∈ b.shownKeys

open Classical in
noncomputable def put (rows : List (κ × β)) (b : Bins κ β) : Bins κ β := fun k =>
  if ∃ r ∈ rows, r.1 = k then some (.shown (b.rowsAt k + batchAt rows k)) else b k

open Classical in
/-- Only the greatest of the keys that are shown keep their rows. -/
noncomputable def retain [LT κ] (n : ℕ) (b : Bins κ β) : Bins κ β := fun k =>
  if k ∈ b.shownKeys ∧ n ≤ (b.shownKeys ∩ {k' | k < k'}).ncard then some .gone else b k

def setAside [DecidableEq κ] (k : κ) (b : Bins κ β) : Bins κ β :=
  Function.update b k ((b k).map fun x => .aside x.rows)

/-- A key shows its rows again; where they are gone, it has none. -/
def restore [DecidableEq κ] (k : κ) (b : Bins κ β) : Bins κ β :=
  Function.update b k ((b k).map fun x => .shown x.rows)

lemma setAside_apply [DecidableEq κ] (b : Bins κ β) (k k' : κ) :
    setAside k b k' = if k' = k then (b k).map (fun x => .aside x.rows) else b k' := by
  unfold setAside
  rw [Function.update_apply]

lemma restore_apply [DecidableEq κ] (b : Bins κ β) (k k' : κ) :
    restore k b k' = if k' = k then (b k).map (fun x => .shown x.rows) else b k' := by
  unfold restore
  rw [Function.update_apply]

/-! ### What becomes of the rows -/

section Rows

variable {b : Bins κ β} {rows : List (κ × β)} {k : κ}

lemma batchAt_eq_zero (h : ∀ r ∈ rows, r.1 ≠ k) : batchAt rows k = 0 := by
  unfold batchAt
  rw [List.filter_eq_nil_iff.2 fun r hr => by simpa using h r hr]
  rfl

lemma rowsAt_put : (put rows b).rowsAt k = b.rowsAt k + batchAt rows k := by
  unfold put
  by_cases h : ∃ r ∈ rows, r.1 = k
  · simp [rowsAt, h, Bin.rows]
  · have hnone : batchAt rows k = 0 := batchAt_eq_zero fun r hr heq => h ⟨r, hr, heq⟩
    rw [hnone, add_zero]
    simp [rowsAt, h]

lemma visibleAt_put (h : b.Accepts rows) :
    (put rows b).visibleAt k = b.visibleAt k + batchAt rows k := by
  unfold put
  by_cases hk : ∃ r ∈ rows, r.1 = k
  · obtain ⟨r, hr, rfl⟩ := hk
    have hsame : b.rowsAt r.1 = b.visibleAt r.1 := by
      rcases h r hr with hnone | ⟨rows', hrows⟩
      · simp [rowsAt, visibleAt, hnone]
      · simp [rowsAt, visibleAt, hrows, Bin.rows, Bin.visible]
    have hthere : ∃ r' ∈ rows, r'.1 = r.1 := ⟨r, hr, rfl⟩
    rw [← hsame]
    simp only [visibleAt, if_pos hthere, Option.elim_some, Bin.visible]
  · have hnone : batchAt rows k = 0 := batchAt_eq_zero fun r hr heq => hk ⟨r, hr, heq⟩
    rw [hnone, add_zero]
    simp [visibleAt, hk]

lemma finsum_batchAt (rows : List (κ × β)) :
    {k | batchAt rows k ≠ 0}.Finite ∧ ∑ᶠ k, batchAt rows k = (rows.map (·.2) : List β) := by
  classical
  induction rows with
  | nil =>
    have hzero : ∀ k : κ, batchAt ([] : List (κ × β)) k = 0 := fun k => rfl
    simp [hzero]
  | cons r rows ih =>
    have hcons : ∀ k, batchAt (r :: rows) k =
        (if k = r.1 then ({r.2} : Multiset β) else 0) + batchAt rows k := by
      intro k
      unfold batchAt
      by_cases h : k = r.1
      · subst h
        simp
      · simp [h, Ne.symm h]
    have hone : (Function.support fun k => if k = r.1 then ({r.2} : Multiset β) else 0) ⊆ {r.1} := by
      intro k hk
      by_contra hne
      exact hk (if_neg hne)
    have hfinite := (Set.finite_singleton r.1).subset hone
    constructor
    · refine (hfinite.union ih.1).subset fun k hk => ?_
      by_contra hnot
      simp only [Set.mem_union, not_or, Function.mem_support, not_not, Set.mem_ofPred_eq] at hnot
      exact hk (by rw [hcons, hnot.1, hnot.2, add_zero])
    · rw [finsum_congr hcons, finsum_add_distrib hfinite ih.1, ih.2,
        finsum_eq_single _ r.1 fun k hk => if_neg hk]
      simp

lemma FinitelyMany.finite_elim (h : b.FinitelyMany) (f : Bin β → Multiset β) :
    {k | (b k).elim 0 f ≠ 0}.Finite := by
  refine h.subset fun k hk hnone => hk ?_
  rw [hnone]
  rfl

/-- **A batch is kept**, each of its rows once. -/
theorem stored_put (h : b.FinitelyMany) :
    (put rows b).stored = b.stored + (rows.map (·.2) : List β) := by
  have hfinite : {k | b.rowsAt k ≠ 0}.Finite := h.finite_elim Bin.rows
  unfold stored
  rw [← (finsum_batchAt rows).2, ← finsum_add_distrib hfinite (finsum_batchAt rows).1]
  exact finsum_congr fun k => rowsAt_put

/-- **A batch is shown**, where it is accepted. -/
theorem visible_put (h : b.FinitelyMany) (hb : b.Accepts rows) :
    (put rows b).visible = b.visible + (rows.map (·.2) : List β) := by
  have hfinite : {k | b.visibleAt k ≠ 0}.Finite := h.finite_elim Bin.visible
  unfold visible
  rw [← (finsum_batchAt rows).2, ← finsum_add_distrib hfinite (finsum_batchAt rows).1]
  exact finsum_congr fun k => visibleAt_put hb

lemma stored_update [DecidableEq κ] {f : Bin β → Bin β} (hf : ∀ x, (f x).rows = x.rows) (k' : κ) :
    stored (Function.update b k' ((b k').map f)) = b.stored := by
  refine finsum_congr fun k => ?_
  unfold rowsAt
  rw [Function.update_apply]
  split_ifs with h
  · subst h
    rcases b k with _ | x
    · rfl
    · exact hf x
  · rfl

/-- Rows that are put aside, or shown again, are all there. -/
lemma stored_setAside [DecidableEq κ] (k' : κ) : (setAside k' b).stored = b.stored :=
  stored_update (f := fun x => .aside x.rows) (fun _ => rfl) k'

lemma stored_restore [DecidableEq κ] (k' : κ) : (restore k' b).stored = b.stored :=
  stored_update (f := fun x => .shown x.rows) (fun _ => rfl) k'

/-- What is kept of the rows was there. -/
lemma stored_retain_le [LT κ] (h : b.FinitelyMany) (n : ℕ) : (retain n b).stored ≤ b.stored := by
  have hle : ∀ k, (retain n b).rowsAt k ≤ b.rowsAt k := fun k => by
    unfold rowsAt retain
    split_ifs
    · exact Multiset.zero_le _
    · exact le_refl _
  have hfinite : {k | b.rowsAt k ≠ 0}.Finite := h.finite_elim Bin.rows
  refine finsum_le_finsum' (hfinite.subset fun k hk hzero => hk ?_) hfinite hle
  exact Multiset.le_zero.1 (hzero ▸ hle k)

lemma stored_empty : (empty : Bins κ β).stored = 0 := finsum_eq_zero_of_forall_eq_zero fun _ => rfl

end Rows

/-- The rows that are shown, key by key. -/
lemma visible_eq_sum {b : Bins κ β} {l : List κ} (hl : l.Nodup)
    (h : ∀ k, k ∉ l → b.visibleAt k = 0) : b.visible = (l.map b.visibleAt).sum := by
  classical
  have hsupport : (Function.support fun k => b.visibleAt k) ⊆ (l.toFinset : Set κ) := by
    intro k hk
    by_contra hnot
    exact hk (h k (by simpa using hnot))
  unfold visible
  rw [finsum_eq_sum_of_support_subset _ hsupport, List.sum_toFinset _ hl]

lemma visibleAt_eq_zero {b : Bins κ β} {k : κ} (h : k ∉ b.shownKeys) : b.visibleAt k = 0 := by
  unfold visibleAt
  rcases hb : b k with _ | r | r | _
  · rfl
  · exact absurd ⟨r, hb⟩ h
  · rfl
  · rfl

/-! ### Which keys are shown -/

section Shown

variable {b : Bins κ β}

lemma mem_shownKeys_put {rows : List (κ × β)} {k : κ} (h : k ∈ (put rows b).shownKeys) :
    k ∈ b.shownKeys ∨ ∃ r ∈ rows, r.1 = k := by
  by_cases hthere : ∃ r ∈ rows, r.1 = k
  · exact Or.inr hthere
  · have hsame : put rows b k = b k := if_neg hthere
    obtain ⟨r, hr⟩ := h
    exact Or.inl ⟨r, hsame ▸ hr⟩

lemma shownKeys_retain_subset [LT κ] (n : ℕ) : (retain n b).shownKeys ⊆ b.shownKeys := by
  rintro k ⟨r, hr⟩
  unfold retain at hr
  split_ifs at hr
  · cases hr
  · exact ⟨r, hr⟩

lemma FinitelyMany.finite_shownKeys (h : b.FinitelyMany) : b.shownKeys.Finite := by
  refine h.subset ?_
  rintro k ⟨r, hr⟩ hnone
  rw [hr] at hnone
  cases hnone

/-- **Nothing is taken away** where no more keys are shown than are kept. -/
lemma retain_eq_self [Preorder κ] (h : b.FinitelyMany) {n : ℕ} (hn : b.shownKeys.ncard ≤ n) :
    retain n b = b := by
  funext k
  refine if_neg ?_
  rintro ⟨hk, hmany⟩
  have hless : (b.shownKeys ∩ {k' | k < k'}).ncard < b.shownKeys.ncard := by
    refine Set.ncard_lt_ncard ⟨Set.inter_subset_left, fun hall => ?_⟩ h.finite_shownKeys
    exact lt_irrefl k (hall hk).2
  exact absurd (hmany.trans_lt hless) (not_lt.2 hn)

end Shown

/-! ### Finitely many -/

section Finite

variable {b : Bins κ β}

lemma finitelyMany_empty : (empty : Bins κ β).FinitelyMany := by
  have hnone : {k : κ | (empty : Bins κ β) k ≠ none} = ∅ := by
    ext k
    simp [empty]
  unfold FinitelyMany
  rw [hnone]
  exact Set.finite_empty

lemma FinitelyMany.put (h : b.FinitelyMany) (rows : List (κ × β)) :
    (put rows b).FinitelyMany := by
  refine (h.union (List.finite_toSet (rows.map (·.1)))).subset fun k hk => ?_
  by_cases hthere : ∃ r ∈ rows, r.1 = k
  · obtain ⟨r, hr, rfl⟩ := hthere
    exact Or.inr (List.mem_map_of_mem hr)
  · refine Or.inl ?_
    have hsame : Bins.put rows b k = b k := if_neg hthere
    rw [Set.mem_ofPred_eq, hsame] at hk
    exact hk

lemma FinitelyMany.retain [LT κ] (h : b.FinitelyMany) (n : ℕ) : (retain n b).FinitelyMany := by
  refine h.subset fun k hk hnone => hk ?_
  have hnot : k ∉ b.shownKeys := by
    rintro ⟨r, hr⟩
    rw [hnone] at hr
    cases hr
  unfold Bins.retain
  rw [if_neg fun hboth => hnot hboth.1]
  exact hnone

lemma FinitelyMany.update [DecidableEq κ] (h : b.FinitelyMany) (k : κ) (f : Bin β → Bin β) :
    FinitelyMany (Function.update b k ((b k).map f)) := by
  refine h.subset fun k' hk hnone => hk ?_
  rw [Function.update_apply]
  split_ifs with heq
  · rw [← heq, hnone]
    rfl
  · exact hnone

lemma FinitelyMany.setAside [DecidableEq κ] (h : b.FinitelyMany) (k : κ) :
    (setAside k b).FinitelyMany :=
  h.update k _

lemma FinitelyMany.restore [DecidableEq κ] (h : b.FinitelyMany) (k : κ) :
    (restore k b).FinitelyMany :=
  h.update k _

end Finite

/-! ### Which keys are kept -/

section Greatest

variable [LinearOrder κ]

lemma ncard_of_nodup {l : List κ} (h : l.Nodup) : ({k | k ∈ l} : Set κ).ncard = l.length := by
  have hset : ({k | k ∈ l} : Set κ) = (l.toFinset : Set κ) := by
    ext x
    simp
  rw [hset, Set.ncard_coe_finset, List.toFinset_card_of_nodup h]

/-- In a list that grows, so many from the end are left exactly where so many are greater. -/
lemma mem_take_iff {l : List κ} (h : l.Pairwise (· < ·)) {n : ℕ} {k : κ} :
    k ∈ l.take (l.length - n) ↔ k ∈ l ∧ n ≤ ({k' | k' ∈ l} ∩ {k' | k < k'}).ncard := by
  induction l with
  | nil => simp
  | cons a l ih =>
    obtain ⟨hfirst, hrest⟩ := List.pairwise_cons.1 h
    have hcard : ({k' | k' ∈ l} : Set κ).ncard = l.length := ncard_of_nodup (hrest.imp ne_of_lt)
    by_cases hle : n ≤ l.length
    · have hlen : (a :: l).length - n = (l.length - n) + 1 := by
        rw [List.length_cons]
        omega
      rw [hlen, List.take_succ_cons, List.mem_cons, List.mem_cons]
      rcases eq_or_ne k a with rfl | hne
      · have hall : ({k' | k' ∈ k :: l} ∩ {k' | k < k'} : Set κ) = {k' | k' ∈ l} := by
          ext x
          constructor
          · rintro ⟨hx, hlt⟩
            rcases List.mem_cons.1 hx with rfl | hx
            · exact absurd hlt (lt_irrefl _)
            · exact hx
          · exact fun hx => ⟨List.mem_cons_of_mem _ hx, hfirst x hx⟩
        rw [hall, hcard]
        exact ⟨fun _ => ⟨Or.inl rfl, hle⟩, fun _ => Or.inl rfl⟩
      · rw [or_iff_right hne, ih hrest, or_iff_right hne]
        refine and_congr_right fun hk => ?_
        have hsame : ({k' | k' ∈ a :: l} ∩ {k' | k < k'} : Set κ) =
            {k' | k' ∈ l} ∩ {k' | k < k'} := by
          ext x
          refine and_congr_left fun hlt => ?_
          rw [Set.mem_ofPred_eq, Set.mem_ofPred_eq, List.mem_cons, or_iff_right]
          rintro rfl
          exact lt_asymm hlt (hfirst k hk)
        rw [hsame]
    · have hlen : (a :: l).length - n = 0 := by
        rw [List.length_cons]
        omega
      rw [hlen, List.take_zero]
      refine ⟨fun hk => absurd hk List.not_mem_nil, fun ⟨hk, hmany⟩ => absurd hmany ?_⟩
      have hsub : ({k' | k' ∈ a :: l} ∩ {k' | k < k'} : Set κ) ⊆ {k' | k' ∈ l} := by
        rintro x ⟨hx, hlt⟩
        rcases List.mem_cons.1 hx with rfl | hx
        · rcases List.mem_cons.1 hk with rfl | hk
          · exact absurd hlt (lt_irrefl _)
          · exact absurd hlt (lt_asymm (hfirst k hk))
        · exact hx
      have hbound := Set.ncard_le_ncard hsub (List.finite_toSet l)
      rw [hcard] at hbound
      omega

end Greatest

end Bins

end Rsduck.Lib
