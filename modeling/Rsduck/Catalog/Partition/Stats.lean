import Mathlib.Data.Finset.Max
import Mathlib.Order.Bounds.Basic
import Rsduck.Catalog.Partition.Disjoint
import Rsduck.Lib.Run

/-!
What `rs_partition` tells of the rows of the partitions, and how an insert groups its rows.
-/

namespace Rsduck.Catalog.Partition

open Lib Lib.Eff Lib.Calendar Lib.Text

variable {T D B : Type}

/-- The partition keys in the tables of an engine, in microseconds. -/
structure StoredKeys (E : PartitionEngine T D B) where
  keys : T → Multiset ℤ
  key : B → ℤ
  created : ∀ R t, E.createTable R = .ok t → keys t = 0
  inserted : ∀ t rows t', E.insertRows t rows = .ok t' → keys t' = keys t + rows.map key

structure PartitionStats.Exact (stats : PartitionStats) (keys : Multiset ℤ) : Prop where
  rowCount : stats.rowCount = keys.card
  minTs : ∀ m, stats.minTs = some m ↔ IsLeast {k | k ∈ keys} m
  maxTs : ∀ m, stats.maxTs = some m ↔ IsGreatest {k | k ∈ keys} m

/-- Every active partition has its table, and the statistics of the rows in it. -/
def StatsExact {E : PartitionEngine T D B} (K : StoredKeys E) (s : Partitions T D) : Prop :=
  ∀ e ∈ s.entries, e.status = .active → ∃ c content, e.child = some c ∧
    Partitions.findTable c.relname s = some content ∧ e.stats.Exact (K.keys content)

/-- The one time may stand for all the keys that come to those stored: none is earlier or later
than it and the stored ones, nor is it itself where no key is. -/
structure StandsFor (time : ℤ) (keys : List ℤ) (stored : Multiset ℤ) : Prop where
  earliest : ∀ k ∈ keys, time ≤ k ∨ ∃ m ∈ stored, m ≤ k
  latest : ∀ k ∈ keys, k ≤ time ∨ ∃ m ∈ stored, k ≤ m
  notEarlier : time ∈ keys ∨ ∃ m ∈ stored, m ≤ time
  notLater : time ∈ keys ∨ ∃ m ∈ stored, time ≤ m

def storedKeys {E : PartitionEngine T D B} (K : StoredKeys E) (parent : ℤ) (value : List Char)
    (s : Partitions T D) : Multiset ℤ :=
  ((Partitions.entry parent value s).bind (·.child)).elim 0 fun c =>
    (Partitions.findTable c.relname s).elim 0 K.keys

def rowsFor (unit : PartitionUnit) (value : List Char) (rows : List (DateTime × B)) :
    List (DateTime × B) :=
  rows.filter fun row => partitionValueForDatetime row.1 unit == value

/-- What keeps the statistics exact: the first row of an insert for a partition stands for all of
them, and a partition is only made anew where nothing was ever told of its rows. -/
def KeepsStats {E : PartitionEngine T D B} (K : StoredKeys E) (s : Partitions T D)
    (x : PartitionStatement B) : Prop :=
  match x.op with
  | .insert rows => ∀ value row rest,
      rowsFor x.relation.partitionUnit value rows = row :: rest →
        StandsFor row.1.micros ((row :: rest).map fun row => K.key row.2)
          (storedKeys K x.relation.oid value s)
  | .repair value => ∀ e, Partitions.entry x.relation.oid value s = some e → e.child = none →
      e.stats = ⟨0, none, none⟩
  | _ => True

/-- Statements one after the other; one that fails changes nothing. -/
def partitionRuns (E : PartitionEngine T D B) : System (Partitions T D) (PartitionStatement B) where
  step s x := some (x.after E s)

/-! ### Statistics -/

section Statistics

variable {stats : PartitionStats} {stored : Multiset ℤ} {keys : List ℤ} {time : ℤ}

lemma exact_none : PartitionStats.Exact ⟨0, none, none⟩ 0 := by
  refine ⟨rfl, fun m => ?_, fun m => ?_⟩
  · simp [IsLeast]
  · simp [IsGreatest]

/-- The least of what was there and one value is the least of all, where that value may stand for
what comes to it. -/
lemma isLeast_union {α : Type} [LinearOrder α] {old new : Set α} {time m : α}
    (hleast : ∀ k ∈ new, time ≤ k ∨ ∃ l ∈ old, l ≤ k)
    (htime : time ∈ new ∨ ∃ l ∈ old, l ≤ time) (hm : IsLeast old m) :
    IsLeast (old ∪ new) (if time < m then time else m) := by
  obtain ⟨hmem, hle⟩ := hm
  split_ifs with hlt
  · refine ⟨Or.inr (htime.resolve_right ?_), ?_⟩
    · rintro ⟨l, hl, hlt'⟩
      exact absurd ((hle hl).trans hlt') (not_le.2 hlt)
    · rintro k (hk | hk)
      · exact hlt.le.trans (hle hk)
      · rcases hleast k hk with h | ⟨l, hl, hlk⟩
        · exact h
        · exact hlt.le.trans ((hle hl).trans hlk)
  · refine ⟨Or.inl hmem, ?_⟩
    rintro k (hk | hk)
    · exact hle hk
    · rcases hleast k hk with h | ⟨l, hl, hlk⟩
      · exact (not_lt.1 hlt).trans h
      · exact (hle hl).trans hlk

lemma isLeast_empty_union {α : Type} [LinearOrder α] {new : Set α} {time : α}
    (hleast : ∀ k ∈ new, time ≤ k ∨ ∃ l ∈ (∅ : Set α), l ≤ k)
    (htime : time ∈ new ∨ ∃ l ∈ (∅ : Set α), l ≤ time) : IsLeast (∅ ∪ new) time := by
  refine ⟨Or.inr (htime.resolve_right fun ⟨_, hl, _⟩ => hl), ?_⟩
  rintro k (hk | hk)
  · cases hk
  · exact (hleast k hk).resolve_right fun ⟨_, hl, _⟩ => hl

lemma exists_isLeast {α : Type} [LinearOrder α] {stored : Multiset α} (h : stored ≠ 0) :
    ∃ m, IsLeast {k | k ∈ stored} m := by
  obtain ⟨k, hk⟩ := Multiset.exists_mem_of_ne_zero h
  obtain ⟨m, hm, hle⟩ := stored.toFinset.exists_min_image id ⟨k, Multiset.mem_toFinset.2 hk⟩
  exact ⟨m, Multiset.mem_toFinset.1 hm, fun l hl => hle l (Multiset.mem_toFinset.2 hl)⟩

lemma update_isLeast {α : Type} [LinearOrder α] {stored new : Multiset α} {time : α}
    {o : Option α} (hleast : ∀ k ∈ new, time ≤ k ∨ ∃ l ∈ stored, l ≤ k)
    (htime : time ∈ new ∨ ∃ l ∈ stored, l ≤ time) (ho : ∀ m, o = some m ↔ IsLeast {k | k ∈ stored} m)
    (m : α) : some (o.elim time fun least => if time < least then time else least) = some m ↔
      IsLeast {k | k ∈ stored + new} m := by
  have hset : {k | k ∈ stored + new} = {k | k ∈ stored} ∪ {k | k ∈ new} := by
    ext k
    simp
  rcases o with _ | least
  · have hzero : stored = 0 := by
      by_contra hne
      obtain ⟨least, hm⟩ := exists_isLeast hne
      cases (ho least).2 hm
    have hempty : {k | k ∈ stored} = (∅ : Set α) := by simp [hzero]
    have h : IsLeast {k | k ∈ stored + new} time := by
      rw [hset, hempty]
      exact isLeast_empty_union (by simpa [hzero] using hleast) (by simpa [hzero] using htime)
    exact ⟨fun heq => Option.some.inj heq ▸ h, fun hm => congrArg some (h.unique hm)⟩
  · have h : IsLeast {k | k ∈ stored + new} (if time < least then time else least) := by
      rw [hset]
      exact isLeast_union hleast htime ((ho least).1 rfl)
    exact ⟨fun heq => Option.some.inj heq ▸ h, fun hm => congrArg some (h.unique hm)⟩

lemma standsFor_of_update_isLeast {α : Type} [LinearOrder α] {stored new : Multiset α} {time : α}
    {o : Option α} (ho : ∀ m, o = some m ↔ IsLeast {k | k ∈ stored} m)
    (h : IsLeast {k | k ∈ stored + new}
      (o.elim time fun least => if time < least then time else least)) :
    (∀ k ∈ new, time ≤ k ∨ ∃ l ∈ stored, l ≤ k) ∧ (time ∈ new ∨ ∃ l ∈ stored, l ≤ time) := by
  obtain ⟨hmem, hle⟩ := h
  rcases o with _ | least
  · have hzero : stored = 0 := by
      by_contra hne
      obtain ⟨least, hm⟩ := exists_isLeast hne
      cases (ho least).2 hm
    have htime : time ∈ new := by simpa [hzero] using hmem
    exact ⟨fun k hk => Or.inl (hle (by simp [hk])), Or.inl htime⟩
  · obtain ⟨hstored, hleast⟩ := (ho least).1 rfl
    simp only [Option.elim_some] at hmem hle
    split_ifs at hmem hle with hlt
    · refine ⟨fun k hk => Or.inl (hle (by simp [hk])), Or.inl ?_⟩
      rcases Multiset.mem_add.1 hmem with h | h
      · exact absurd (hleast h) (not_le.2 hlt)
      · exact h
    · exact ⟨fun k hk => Or.inr ⟨least, hstored, hle (by simp [hk])⟩,
        Or.inr ⟨least, hstored, not_lt.1 hlt⟩⟩

lemma minTs_update (n : ℤ) (stats : PartitionStats) : (stats.update n (some time)).minTs =
    some (stats.minTs.elim time fun least => if time < least then time else least) := by
  unfold PartitionStats.update
  rcases stats.minTs with _ | least <;> rfl

lemma maxTs_update (n : ℤ) (stats : PartitionStats) : (stats.update n (some time)).maxTs =
    some (stats.maxTs.elim time fun most => if time > most then time else most) := by
  unfold PartitionStats.update
  rcases stats.maxTs with _ | most <;> rfl

/-- **An update** keeps the statistics exact just where its one time stands for its rows. -/
lemma exact_update_iff (hexact : stats.Exact stored) :
    (stats.update keys.length (some time)).Exact (stored + keys) ↔ StandsFor time keys stored := by
  constructor
  · intro h
    obtain ⟨hearliest, hnotEarlier⟩ := standsFor_of_update_isLeast
      hexact.minTs ((h.minTs _).1 (minTs_update _ _))
    obtain ⟨hlatest, hnotLater⟩ := standsFor_of_update_isLeast (α := ℤᵒᵈ)
      hexact.maxTs ((h.maxTs _).1 (maxTs_update _ _))
    exact ⟨hearliest, hlatest, hnotEarlier, hnotLater⟩
  · intro h
    refine ⟨?_, fun m => ?_, fun m => ?_⟩
    · simp [PartitionStats.update, hexact.rowCount]
    · rw [minTs_update]
      exact update_isLeast h.earliest h.notEarlier hexact.minTs m
    · rw [maxTs_update]
      have hlatest : ∀ k ∈ (keys : Multiset ℤ), k ≤ time ∨ ∃ l ∈ stored, k ≤ l := h.latest
      have hnotLater : time ∈ (keys : Multiset ℤ) ∨ ∃ l ∈ stored, time ≤ l := h.notLater
      exact update_isLeast (α := ℤᵒᵈ) hlatest hnotLater hexact.maxTs m

end Statistics

/-! ### The groups of an insert -/

section Groups

variable {unit : PartitionUnit} {rows : List (DateTime × B)} {groups : List (PartitionInsertGroup B)}

structure IsGroupOf (unit : PartitionUnit) (rows : List (DateTime × B))
    (g : PartitionInsertGroup B) : Prop where
  rows_eq : g.rows = (rowsFor unit g.partitionValue rows).map (·.2)
  routeTs_eq : g.routeTs = (rowsFor unit g.partitionValue rows).head?.map (·.1)
  ne_nil : rowsFor unit g.partitionValue rows ≠ []

structure AreGroupsOf (unit : PartitionUnit) (rows : List (DateTime × B))
    (groups : List (PartitionInsertGroup B)) : Prop where
  nodup : (groups.map (·.partitionValue)).Nodup
  group : ∀ g ∈ groups, IsGroupOf unit rows g
  covered : ∀ row ∈ rows, partitionValueForDatetime row.1 unit ∈ groups.map (·.partitionValue)

lemma map_value_push (groups : List (PartitionInsertGroup B)) (route : PartitionRoute) (row : B) :
    (pushPartitionInsertGroup route row groups).map (·.partitionValue) =
      if route.partitionValue ∈ groups.map (·.partitionValue) then groups.map (·.partitionValue)
      else groups.map (·.partitionValue) ++ [route.partitionValue] := by
  induction groups with
  | nil => rfl
  | cons group groups ih =>
    rw [pushPartitionInsertGroup]
    by_cases heq : group.partitionValue = route.partitionValue
    · simp [heq]
    · simp only [beq_iff_eq, heq, if_false, List.map_cons, ih, List.mem_cons, Ne.symm heq, false_or]
      split_ifs <;> rfl

lemma mem_push {route : PartitionRoute} {row : B} (hnodup : (groups.map (·.partitionValue)).Nodup)
    {g : PartitionInsertGroup B} (hg : g ∈ pushPartitionInsertGroup route row groups) :
    (g ∈ groups ∧ g.partitionValue ≠ route.partitionValue) ∨
      g = ⟨route.partitionValue, route.routeTs, [row]⟩ ∧
        route.partitionValue ∉ groups.map (·.partitionValue) ∨
      ∃ g' ∈ groups, g'.partitionValue = route.partitionValue ∧
        g = { g' with routeTs := g'.routeTs <|> route.routeTs, rows := g'.rows ++ [row] } := by
  induction groups with
  | nil =>
    obtain rfl := List.mem_singleton.1 hg
    exact Or.inr (Or.inl ⟨rfl, List.not_mem_nil⟩)
  | cons group groups ih =>
    rw [List.map_cons, List.nodup_cons] at hnodup
    rw [pushPartitionInsertGroup] at hg
    split_ifs at hg with heq
    · have heq : group.partitionValue = route.partitionValue := eq_of_beq heq
      rcases List.mem_cons.1 hg with rfl | hg
      · exact Or.inr (Or.inr ⟨group, List.mem_cons_self, heq, rfl⟩)
      · refine Or.inl ⟨List.mem_cons_of_mem _ hg, fun hvalue => hnodup.1 ?_⟩
        rw [heq, ← hvalue]
        exact List.mem_map_of_mem hg
    · have hne : group.partitionValue ≠ route.partitionValue := by simpa using heq
      rcases List.mem_cons.1 hg with rfl | hg
      · exact Or.inl ⟨List.mem_cons_self, hne⟩
      · rcases ih hnodup.2 hg with ⟨hmem, hvalue⟩ | ⟨rfl, hnew⟩ | ⟨g', hg', hvalue, rfl⟩
        · exact Or.inl ⟨List.mem_cons_of_mem _ hmem, hvalue⟩
        · refine Or.inr (Or.inl ⟨rfl, ?_⟩)
          rw [List.map_cons, List.mem_cons, not_or]
          exact ⟨Ne.symm hne, hnew⟩
        · exact Or.inr (Or.inr ⟨g', List.mem_cons_of_mem _ hg', hvalue, rfl⟩)

lemma rowsFor_append (value : List Char) (rows : List (DateTime × B)) (row : DateTime × B) :
    rowsFor unit value (rows ++ [row]) = rowsFor unit value rows ++
      if (partitionRoute unit row.1).partitionValue = value then [row] else [] := by
  unfold rowsFor partitionRoute
  rw [List.filter_append]
  congr 1
  by_cases h : partitionValueForDatetime row.1 unit = value <;> simp [h]

lemma rowsFor_eq_nil_of_notMem {value : List Char} (h : AreGroupsOf unit rows groups)
    (hnew : value ∉ groups.map (·.partitionValue)) : rowsFor unit value rows = [] := by
  refine List.filter_eq_nil_iff.2 fun row hrow heq => hnew ?_
  rw [← eq_of_beq heq]
  exact h.covered row hrow

lemma areGroupsOf_push (h : AreGroupsOf unit rows groups) (row : DateTime × B) :
    AreGroupsOf unit (rows ++ [row])
      (pushPartitionInsertGroup (partitionRoute unit row.1) row.2 groups) := by
  have hvalues := map_value_push groups (partitionRoute unit row.1) row.2
  refine ⟨?_, fun g hg => ?_, fun r hr => ?_⟩
  · rw [hvalues]
    split_ifs with hmem
    · exact h.nodup
    · exact List.nodup_append.2 ⟨h.nodup, List.nodup_singleton _,
        fun a ha b hb hab => hmem (by rwa [← List.mem_singleton.1 hb, ← hab])⟩
  · rcases mem_push h.nodup hg with ⟨hmem, hne⟩ | ⟨rfl, hnew⟩ | ⟨g', hg', hvalue, rfl⟩
    · have hrows : rowsFor unit g.partitionValue (rows ++ [row]) =
          rowsFor unit g.partitionValue rows := by
        rw [rowsFor_append, if_neg (Ne.symm hne), List.append_nil]
      obtain ⟨h1, h2, h3⟩ := h.group g hmem
      exact ⟨hrows ▸ h1, hrows ▸ h2, hrows ▸ h3⟩
    · have hrows : rowsFor unit (partitionRoute unit row.1).partitionValue (rows ++ [row]) =
          [row] := by
        rw [rowsFor_append, rowsFor_eq_nil_of_notMem h hnew, if_pos rfl]
        rfl
      exact ⟨by rw [hrows]; rfl, by rw [hrows]; rfl, by rw [hrows]; simp⟩
    · have hrows : rowsFor unit g'.partitionValue (rows ++ [row]) =
          rowsFor unit g'.partitionValue rows ++ [row] := by
        rw [rowsFor_append, if_pos hvalue.symm]
      obtain ⟨h1, h2, h3⟩ := h.group g' hg'
      refine ⟨?_, ?_, ?_⟩
      · simp only
        rw [hrows, h1, List.map_append]
        rfl
      · simp only
        rw [hrows, h2, List.head?_append]
        obtain ⟨first, others, hfirst⟩ := List.exists_cons_of_ne_nil h3
        rw [hfirst]
        rfl
      · simp only
        rw [hrows]
        simp
  · rw [hvalues]
    rcases List.mem_append.1 hr with hr | hr
    · have hmem := h.covered r hr
      split_ifs
      · exact hmem
      · exact List.mem_append_left _ hmem
    · rw [List.mem_singleton.1 hr]
      split_ifs with hmem
      · exact hmem
      · exact List.mem_append_right _ (List.mem_singleton.2 rfl)

/-- **The grouping**: for each partition the rows that are routed to it, in their order, with the
time of the first. -/
lemma areGroupsOf_partitionInsertGroups (unit : PartitionUnit) (rows : List (DateTime × B)) :
    AreGroupsOf unit rows (partitionInsertGroups unit rows) := by
  unfold partitionInsertGroups
  induction rows using List.reverseRecOn with
  | nil => exact ⟨List.nodup_nil, fun g hg => (List.not_mem_nil hg).elim,
      fun r hr => (List.not_mem_nil hr).elim⟩
  | append_singleton rows row ih =>
    rw [List.foldl_append]
    exact areGroupsOf_push ih row

end Groups

end Rsduck.Catalog.Partition
