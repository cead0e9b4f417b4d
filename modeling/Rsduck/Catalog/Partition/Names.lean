import Rsduck.Catalog.Partition.Bounds
import Rsduck.Lib.LowerCase

/-!
The physical names of partitions and of their indexes.

All of them are in one schema. The name of a partition is that of its parent and the partition
value, the name of its index goes on with that of the parent's index. Names that differ in letter case are taken for one, as the catalog
compares them; DuckDB itself does so in ASCII only.
-/

namespace Rsduck.Catalog.Partition

open Lib Lib.Calendar Lib.DecimalText Lib.FloatFormat Lib.Text Db

def physicalPartitionName (parent partitionValue : List Char) : List Char :=
  parent ++ '_' :: partitionValue.dropWhile (· == '_')

def partitionIndexName (childRelname parentIndexName : List Char) : List Char :=
  childRelname ++ '_' :: '_' :: parentIndexName

/-- A value that a time is routed to and a partition is created for. -/
def IsPartitionValue (unit : PartitionUnit) (value : List Char) : Prop :=
  ∃ dt b, value = partitionValueForDatetime dt unit ∧ partitionBounds value unit = .ok b

/-- A partitioned relation, with the names that its indexes have or are going to have. -/
structure PartitionedRelation where
  oid : ℤ
  schema : List Char
  name : List Char
  partitionUnit : PartitionUnit
  retentionCount : ℤ
  indexNames : List (List Char)

/-! ### What partition values look like -/

section Values

variable {unit : PartitionUnit} {value : List Char}

def valueLength : PartitionUnit → ℕ
  | .hour => 10
  | .day => 8
  | .month => 6
  | .year => 4

lemma not_hour_of_value (h : IsPartitionValue unit value) : unit ≠ .hour := by
  obtain ⟨dt, b, rfl, hb⟩ := h
  exact (year_of_partitionBounds hb).1

/-- A partition value is some digits, as many as its unit has. -/
lemma digits_of_value (h : IsPartitionValue unit value) :
    AllDigits value ∧ value.length = valueLength unit := by
  obtain ⟨dt, b, rfl, hb⟩ := h
  obtain ⟨hu, hpos, hyear⟩ := year_of_partitionBounds hb
  have hm := dt.date.monthOk
  have hd := dt.date.day_le
  have hyear := length_padded (show 0 < 4 by decide) (show dt.date.year.toNat < 10 ^ 4 by omega)
  have hmonth := length_padded (show 0 < 2 by decide) (show dt.date.month < 10 ^ 2 by omega)
  have hday := length_padded (show 0 < 2 by decide) (show dt.date.day < 10 ^ 2 by omega)
  have hy := allDigits_padded 4 dt.date.year.toNat
  have hmd := allDigits_padded 2 dt.date.month
  have hdd := allDigits_padded 2 dt.date.day
  unfold partitionValueForDatetime
  rw [paddedInt_of_nonneg hpos]
  cases unit with
  | hour => exact absurd rfl hu
  | day =>
    refine ⟨(hy.append hmd).append hdd, ?_⟩
    rw [List.length_append, List.length_append]
    change _ = 8
    omega
  | month =>
    refine ⟨hy.append hmd, ?_⟩
    rw [List.length_append]
    change _ = 6
    omega
  | year => exact ⟨hy, hyear⟩

/-- Every unit but the hour has a value. -/
lemma exists_value (hu : unit ≠ .hour) : ∃ value, IsPartitionValue unit value := by
  let dt : DateTime := ⟨⟨2026, 7, 10, by decide, by decide, by decide⟩, 10, 0, 0, 0, by decide,
    by decide, by decide, by decide⟩
  obtain ⟨b, hb, -⟩ := partitionBounds_value hu (show 0 ≤ dt.date.year ∧ dt.date.year ≤ 9999 from ⟨by decide, by decide⟩)
  exact ⟨_, dt, b, rfl, hb⟩

lemma ne_underscore_of_isDigit {c : Char} (h : c.isDigit = true) : c ≠ '_' := by
  rintro rfl
  exact absurd h (by decide)

lemma dropWhile_underscore_digits (h : AllDigits value) : value.dropWhile (· == '_') = value := by
  rcases value with _ | ⟨c, rest⟩
  · rfl
  · have hc := ne_underscore_of_isDigit (h c List.mem_cons_self)
    rw [List.dropWhile_cons_of_neg (by simpa using hc)]

@[simp] lemma lowercase_underscore (s : List Char) :
    lowercase ('_' :: s) = '_' :: lowercase s := rfl

lemma lowercase_digits {ds : List Char} (h : AllDigits ds) : lowercase ds = ds := by
  have hascii : ∀ c ∈ ds, c.toNat < 128 := fun c hc => by
    have := toNat_of_isDigit (h c hc)
    omega
  rw [lowercase_eq_toAsciiLowercase hascii, toAsciiLowercase_digits h]

/-- A partition's name in lower case. -/
lemma lower_physicalPartitionName (h : IsPartitionValue unit value) (parent : List Char) :
    lowercase (physicalPartitionName parent value) =
      lowercase parent ++ '_' :: value := by
  have hdigits := (digits_of_value h).1
  unfold physicalPartitionName
  rw [dropWhile_underscore_digits hdigits, lowercase_append, lowercase_underscore,
    lowercase_digits hdigits]

lemma lower_partitionIndexName (child index : List Char) :
    lowercase (partitionIndexName child index) =
      lowercase child ++ '_' :: '_' :: lowercase index := by
  unfold partitionIndexName
  rw [lowercase_append, lowercase_underscore, lowercase_underscore]

end Values

/-! ### Which names are one -/

/-- The last underscore parts the name of the parent from the value. -/
lemma parent_value_inj {p p' v v' : List Char} (hv : AllDigits v) (hv' : AllDigits v')
    (h : p ++ '_' :: v = p' ++ '_' :: v') : p = p' ∧ v = v' := by
  have hout : ∀ {w : List Char}, AllDigits w → '_' ∉ w := fun hw hmem =>
    ne_underscore_of_isDigit (hw _ hmem) rfl
  rcases List.append_eq_append_iff.1 h with ⟨q, hp, hq⟩ | ⟨q, hp, hq⟩
  · rcases q with _ | ⟨c, q⟩
    · rw [List.append_nil] at hp
      exact ⟨hp.symm, by simpa using hq⟩
    · have hvq : v = q ++ '_' :: v' := (List.cons.inj hq).2
      exact absurd (by rw [hvq]; simp) (hout hv)
  · rcases q with _ | ⟨c, q⟩
    · rw [List.append_nil] at hp
      exact ⟨hp, (by simpa using hq : v' = v).symm⟩
    · have hvq : v' = q ++ '_' :: v := (List.cons.inj hq).2
      exact absurd (by rw [hvq]; simp) (hout hv')

/-- Digits end where an underscore begins. -/
lemma digits_underscore_inj {v v' r r' : List Char} (hv : AllDigits v) (hv' : AllDigits v')
    (h : v ++ '_' :: r = v' ++ '_' :: r') : v = v' ∧ r = r' := by
  rcases List.append_eq_append_iff.1 h with ⟨q, hq, hr⟩ | ⟨q, hq, hr⟩
  · rcases q with _ | ⟨c, q⟩
    · rw [List.append_nil] at hq
      exact ⟨hq.symm, by simpa using hr⟩
    · obtain rfl : '_' = c := (List.cons.inj hr).1
      exact absurd rfl (ne_underscore_of_isDigit ( hv' '_' (by rw [hq]; simp)))
  · rcases q with _ | ⟨c, q⟩
    · rw [List.append_nil] at hq
      exact ⟨hq, (by simpa using hr : r' = r).symm⟩
    · obtain rfl : '_' = c := (List.cons.inj hr).1
      exact absurd rfl (ne_underscore_of_isDigit (hv '_' (by rw [hq]; simp)))

/-- A parent's name goes on where the index name of the other one ends. -/
lemma continues_of_longer {p v i q v' i' : List Char} (hv : AllDigits v) (hv' : AllDigits v')
    (hne : v' ≠ [])
    (h : v ++ '_' :: '_' :: i = q ++ '_' :: (v' ++ '_' :: '_' :: i')) :
    ∃ rest, p ++ '_' :: q ++ ['_'] = p ++ '_' :: v ++ '_' :: '_' :: rest ∧
      i = rest ++ v' ++ '_' :: '_' :: i' := by
  obtain ⟨d, w, rfl⟩ := List.exists_cons_of_ne_nil hne
  have hd : d ≠ '_' := ne_underscore_of_isDigit (hv' d List.mem_cons_self)
  rcases List.append_eq_append_iff.1 h with ⟨c, hq, hr⟩ | ⟨c, hq, hr⟩
  · -- the longer name goes past the value
    rcases c with _ | ⟨e, c⟩
    · have hdigit := (List.cons.inj (List.cons.inj hr).2).1
      exact absurd hdigit.symm hd
    · obtain ⟨he, htail⟩ := List.cons.inj hr
      subst he
      rcases c with _ | ⟨e, c⟩
      · have hi := (List.cons.inj htail).2
        exact ⟨[], by rw [hq]; simp, by simpa using hi⟩
      · obtain ⟨he, hi⟩ := List.cons.inj htail
        subst he
        exact ⟨c ++ ['_'], by rw [hq]; simp, by rw [hi]; simp⟩
  · -- it cannot end within it
    rcases c with _ | ⟨e, c⟩
    · have hdigit := (List.cons.inj (List.cons.inj hr).2).1
      exact absurd hdigit hd
    · obtain rfl : '_' = e := (List.cons.inj hr).1
      exact absurd rfl (ne_underscore_of_isDigit (hv '_' (by rw [hq]; simp)))

/-- Index names are one when all their parts are, or when one parent's name goes on where the index
name of the other one ends. -/
lemma index_name_cases {p p' v v' i i' : List Char} (hv : AllDigits v) (hv' : AllDigits v')
    (hne : v ≠ []) (hne' : v' ≠ [])
    (h : p ++ '_' :: v ++ '_' :: '_' :: i = p' ++ '_' :: v' ++ '_' :: '_' :: i') :
    (p = p' ∧ v = v' ∧ i = i') ∨
      (∃ rest, p' ++ ['_'] = p ++ '_' :: v ++ '_' :: '_' :: rest ∧
        i = rest ++ v' ++ '_' :: '_' :: i') ∨
      ∃ rest, p ++ ['_'] = p' ++ '_' :: v' ++ '_' :: '_' :: rest ∧
        i' = rest ++ v ++ '_' :: '_' :: i := by
  rw [List.append_assoc, List.append_assoc, List.cons_append, List.cons_append] at h
  rcases List.append_eq_append_iff.1 h with ⟨q, hp, hq⟩ | ⟨q, hp, hq⟩
  · rcases q with _ | ⟨e, q⟩
    · rw [List.append_nil] at hp
      obtain ⟨hvv, hi⟩ := digits_underscore_inj hv hv' (List.cons.inj hq).2
      exact Or.inl ⟨hp.symm, hvv, (List.cons.inj hi).2⟩
    · obtain ⟨he, htail⟩ := List.cons.inj hq
      subst he
      refine Or.inr (Or.inl ?_)
      rw [hp]
      exact continues_of_longer hv hv' hne' htail
  · rcases q with _ | ⟨e, q⟩
    · rw [List.append_nil] at hp
      obtain ⟨hvv, hi⟩ := digits_underscore_inj hv' hv (List.cons.inj hq).2
      exact Or.inl ⟨hp, hvv.symm, (List.cons.inj hi).2.symm⟩
    · obtain ⟨he, htail⟩ := List.cons.inj hq
      subst he
      refine Or.inr (Or.inr ?_)
      rw [hp]
      exact continues_of_longer hv' hv hne htail

/-! ### Two partitioned relations -/

/-- No partition and no partition index of the one has the name of one of the other. -/
structure NamesDistinct (R R' : PartitionedRelation) : Prop where
  partitions : ∀ v v', IsPartitionValue R.partitionUnit v → IsPartitionValue R'.partitionUnit v' →
    lowercase (physicalPartitionName R.name v) ≠
      lowercase (physicalPartitionName R'.name v')
  indexes : ∀ v v', IsPartitionValue R.partitionUnit v → IsPartitionValue R'.partitionUnit v' →
    ∀ i ∈ R.indexNames, ∀ i' ∈ R'.indexNames,
      lowercase (partitionIndexName (physicalPartitionName R.name v) i) ≠
        lowercase (partitionIndexName (physicalPartitionName R'.name v') i')

/-- The name of `R'` with an underscore begins with a partition name of `R` and two underscores, and
the name of an index of `R` goes on from there to the end of an index name of `R'`. -/
def RunsInto (R R' : PartitionedRelation) : Prop :=
  ∃ v v' rest, IsPartitionValue R.partitionUnit v ∧ IsPartitionValue R'.partitionUnit v' ∧
    lowercase R'.name ++ ['_'] =
      lowercase R.name ++ '_' :: v ++ '_' :: '_' :: rest ∧
    ∃ i ∈ R.indexNames, ∃ i' ∈ R'.indexNames,
      lowercase i = rest ++ v' ++ '_' :: '_' :: lowercase i'

/-- The names of two partitioned relations and of their indexes keep their partitions apart. -/
structure NamesApart (R R' : PartitionedRelation) : Prop where
  parents : lowercase R.name = lowercase R'.name →
    R.partitionUnit ≠ R'.partitionUnit ∨ R.partitionUnit = .hour
  left : ¬ RunsInto R R'
  right : ¬ RunsInto R' R

variable {R R' : PartitionedRelation}

lemma value_ne_nil {unit : PartitionUnit} {v : List Char} (h : IsPartitionValue unit v) :
    v ≠ [] := by
  have hlength := (digits_of_value h).2
  rintro rfl
  cases unit <;> cases hlength

lemma length_injective {unit unit' : PartitionUnit} (h : valueLength unit = valueLength unit') :
    unit = unit' := by
  cases unit <;> cases unit' <;> first | rfl | cases h

lemma RunsInto.not_distinct (h : RunsInto R R') : ¬ NamesDistinct R R' := by
  obtain ⟨v, v', rest, hv, hv', hname, i, hi, i', hi', hindex⟩ := h
  intro hdistinct
  refine hdistinct.indexes v v' hv hv' i hi i' hi' ?_
  rw [lower_partitionIndexName, lower_partitionIndexName, lower_physicalPartitionName hv,
    lower_physicalPartitionName hv', hindex]
  have hfront : lowercase R'.name ++ '_' :: v' =
      lowercase R.name ++ '_' :: v ++ '_' :: '_' :: rest ++ v' := by
    rw [← hname, List.append_assoc, List.singleton_append]
  rw [hfront]
  simp

lemma NamesDistinct.symm (h : NamesDistinct R R') : NamesDistinct R' R :=
  ⟨fun v v' hv hv' => (h.partitions v' v hv' hv).symm,
    fun v v' hv hv' i hi i' hi' => (h.indexes v' v hv' hv i' hi' i hi).symm⟩

/-- **Which relations share no physical name.** -/
lemma namesDistinct_iff : NamesDistinct R R' ↔ NamesApart R R' := by
  constructor
  · intro h
    refine ⟨fun hname => ?_, fun hruns => hruns.not_distinct h, fun hruns =>
      hruns.not_distinct h.symm⟩
    by_contra hnot
    push Not at hnot
    obtain ⟨hunit, hhour⟩ := hnot
    obtain ⟨v, hv⟩ := exists_value hhour
    have hv' : IsPartitionValue R'.partitionUnit v := hunit ▸ hv
    refine h.partitions v v hv hv' ?_
    rw [lower_physicalPartitionName hv, lower_physicalPartitionName hv', hname]
  · intro h
    refine ⟨fun v v' hv hv' heq => ?_, fun v v' hv hv' i hi i' hi' heq => ?_⟩
    · rw [lower_physicalPartitionName hv, lower_physicalPartitionName hv'] at heq
      obtain ⟨hname, rfl⟩ := parent_value_inj (digits_of_value hv).1 (digits_of_value hv').1 heq
      have hunit : R.partitionUnit = R'.partitionUnit :=
        length_injective ((digits_of_value hv).2.symm.trans (digits_of_value hv').2)
      rcases h.parents hname with hne | hhour
      · exact hne hunit
      · exact not_hour_of_value hv hhour
    · rw [lower_partitionIndexName, lower_partitionIndexName, lower_physicalPartitionName hv,
        lower_physicalPartitionName hv'] at heq
      rcases index_name_cases (digits_of_value hv).1 (digits_of_value hv').1 (value_ne_nil hv)
        (value_ne_nil hv') heq with ⟨hname, rfl, -⟩ | ⟨rest, hname, hindex⟩ | ⟨rest, hname, hindex⟩
      · have hunit : R.partitionUnit = R'.partitionUnit :=
          length_injective ((digits_of_value hv).2.symm.trans (digits_of_value hv').2)
        rcases h.parents hname with hne | hhour
        · exact hne hunit
        · exact not_hour_of_value hv hhour
      · exact h.left ⟨v, v', rest, hv, hv', hname, i, hi, i', hi', hindex⟩
      · exact h.right ⟨v', v, rest, hv', hv, hname, i', hi', i, hi, hindex⟩

end Rsduck.Catalog.Partition
