import Rsduck.Catalog.Partition.Physical

/-!
Partitioned relations are independent of each other as long as their names keep their partitions
apart.

What belongs to a relation are its own rows, the tables that have the name of one of its
partitions, and the indexes on these. Its operations are local to that.
-/

namespace Rsduck.Catalog.Partition

open Lib Lib.Eff Lib.Calendar Lib.Text

section Own

variable {T D B : Type}

/-- The name is that of a partition of the relation. -/
def OwnTable (R : PartitionedRelation) (n : List Char) : Prop :=
  ∃ v, IsPartitionValue R.partitionUnit v ∧
    lowercase n = lowercase (physicalPartitionName R.name v)

/-- The name is that of an index of a partition of the relation. -/
def OwnIndex (R : PartitionedRelation) (n : List Char) : Prop :=
  ∃ v, IsPartitionValue R.partitionUnit v ∧ ∃ i ∈ R.indexNames,
    lowercase n = lowercase (partitionIndexName (physicalPartitionName R.name v) i)

open Classical in
noncomputable def isOwnTable (R : PartitionedRelation) (n : List Char) : Bool := decide (OwnTable R n)

open Classical in
lemma isOwnTable_iff {R : PartitionedRelation} {n : List Char} :
    isOwnTable R n = true ↔ OwnTable R n := decide_eq_true_iff

open Classical in
lemma isOwnTable_eq_false {R : PartitionedRelation} {n : List Char} :
    isOwnTable R n = false ↔ ¬ OwnTable R n := decide_eq_false_iff_not

/-- The part of the state that belongs to the relation. -/
noncomputable def ownPart (R : PartitionedRelation) (s : Partitions T D) : Partitions T D where
  nextOid := s.nextOid
  entries := s.entries.filter fun e => e.parentRelid == R.oid
  specs := s.specs.filter fun x => x.1 == R.oid
  tables := s.tables.filter fun t => isOwnTable R t.name
  indexes := s.indexes.filter fun i => isOwnTable R i.table
  entrypoints := s.entrypoints.filter fun x => x.1 == R.oid

/-- What is there beside it; the counter of oids is everyone's. -/
noncomputable def restPart (R : PartitionedRelation) (s : Partitions T D) : Partitions T D where
  nextOid := 0
  entries := s.entries.filter fun e => e.parentRelid != R.oid
  specs := s.specs.filter fun x => x.1 != R.oid
  tables := s.tables.filter fun t => !isOwnTable R t.name
  indexes := s.indexes.filter fun i => !isOwnTable R i.table
  entrypoints := s.entrypoints.filter fun x => x.1 != R.oid

/-- The rows have partition values, their children the names that go with them, and the indexes
the names of partition indexes. -/
structure Tidy (R : PartitionedRelation) (s : Partitions T D) : Prop where
  values : ∀ e ∈ s.entries, IsPartitionValue R.partitionUnit e.partitionValue
  children : ∀ e ∈ s.entries, ∀ c, e.child = some c → OwnTable R c.relname
  specs : ∀ x ∈ s.specs, x.2.indexName ∈ R.indexNames
  indexes : ∀ i ∈ s.indexes, OwnIndex R i.name

/-- No child and no index has a name of the relation. -/
structure Off (R : PartitionedRelation) (s : Partitions T D) : Prop where
  children : ∀ e ∈ s.entries, ∀ c, e.child = some c → ¬ OwnTable R c.relname
  indexes : ∀ i ∈ s.indexes, ¬ OwnIndex R i.name

/-- The part of a relation. -/
noncomputable def partitionsOf (T D : Type) (R : PartitionedRelation) :
    Part (Partitions T D) (Partitions T D) (Partitions T D) where
  own := ownPart R
  rest := restPart R
  tidy := Tidy R
  off := Off R

variable {R : PartitionedRelation}

lemma ownTable_of_sameName {n m : List Char} (h : sameName n m = true) (hn : OwnTable R n) :
    OwnTable R m := by
  obtain ⟨v, hv, hname⟩ := hn
  exact ⟨v, hv, (eq_of_beq h).symm.trans hname⟩

lemma sameName_comm (n m : List Char) : sameName n m = sameName m n := by
  unfold sameName
  exact BEq.comm

lemma ownIndex_of_sameName {n m : List Char} (h : sameName n m = true) (hn : OwnIndex R n) :
    OwnIndex R m := by
  obtain ⟨v, hv, i, hi, hname⟩ := hn
  exact ⟨v, hv, i, hi, (eq_of_beq h).symm.trans hname⟩

/-! ### Lists in two parts -/

section Lists

variable {α : Type} {own : α → Bool} {xs : List α}

lemma find_filter {f : α → Bool} (h : ∀ x, f x = true → own x = true) :
    (xs.filter own).find? f = xs.find? f := by
  induction xs with
  | nil => rfl
  | cons x xs ih =>
    by_cases hx : own x = true
    · rw [List.filter_cons_of_pos hx, List.find?_cons, List.find?_cons, ih]
    · have hf : f x = false := by
        rcases hfx : f x with _ | _
        · rfl
        · exact absurd (h x hfx) hx
      rw [List.filter_cons_of_neg hx, List.find?_cons, hf, ih]

lemma any_filter {f : α → Bool} (h : ∀ x ∈ xs, f x = true → own x = true) :
    (xs.filter own).any f = xs.any f := by
  rw [Bool.eq_iff_iff, List.any_eq_true, List.any_eq_true]
  constructor
  · rintro ⟨x, hx, hf⟩
    exact ⟨x, (List.mem_filter.1 hx).1, hf⟩
  · rintro ⟨x, hx, hf⟩
    exact ⟨x, List.mem_filter.2 ⟨hx, h x hx hf⟩, hf⟩

lemma filter_append_pos {x : α} (h : own x = true) :
    (xs ++ [x]).filter own = xs.filter own ++ [x] := by
  rw [List.filter_append, List.filter_cons_of_pos h, List.filter_nil]

lemma filter_append_neg {x : α} (h : own x = false) : (xs ++ [x]).filter own = xs.filter own := by
  rw [List.filter_append, List.filter_cons_of_neg (by simp [h]), List.filter_nil, List.append_nil]

lemma filter_filter_comm (f : α → Bool) :
    (xs.filter f).filter own = (xs.filter own).filter f := by
  rw [List.filter_filter, List.filter_filter]
  exact List.filter_congr fun x _ => Bool.and_comm _ _

/-- A filter that all of a part passes. -/
lemma filter_filter_of {f : α → Bool} (h : ∀ x ∈ xs, own x = true → f x = true) :
    (xs.filter f).filter own = xs.filter own := by
  rw [List.filter_filter]
  refine List.filter_congr fun x hx => ?_
  rcases hown : own x with _ | _
  · rfl
  · rw [h x hx hown, Bool.and_self]

lemma filter_map_comm {f : α → α} (h : ∀ x, own (f x) = own x) :
    (xs.map f).filter own = (xs.filter own).map f := by
  rw [List.filter_map]
  congr 1
  exact List.filter_congr fun x _ => h x

/-- A map that leaves a part alone. -/
lemma filter_map_of {f : α → α} (h : ∀ x, own (f x) = own x) (hid : ∀ x, own x = true → f x = x) :
    (xs.map f).filter own = xs.filter own := by
  rw [filter_map_comm h]
  conv_rhs => rw [← List.map_id (xs.filter own)]
  exact List.map_congr_left fun x hx => hid x (List.mem_filter.1 hx).2

end Lists

/-! ### Reading and writing within the part -/

section Local

variable {s : Partitions T D}

lemma local_asks_own {γ : Type} {Q : γ → Prop} {g : Partitions T D → γ}
    (hg : ∀ s, Tidy R (ownPart R s) → Off R (restPart R s) → g (ownPart R s) = g s)
    (hq : ∀ o, Tidy R o → Q (g o)) : (partitionsOf T D R).Local (asks g) Q := by
  refine Part.local_asks fun r r' hr hr' s t hst => ?_
  have hs : g (ownPart R s) = g s := hg s hst.tidy (by rwa [← hst.left] at hr)
  have htidy : Tidy R (ownPart R t) := by
    have h := hst.tidy
    rwa [hst.own] at h
  have ht : g (ownPart R t) = g t := hg t htidy (by rwa [← hst.right] at hr')
  have hown : ownPart R s = ownPart R t := hst.own
  refine ⟨?_, ?_⟩
  · rw [← hs, ← ht, hown]
  · rw [← hs]
    exact hq _ hst.tidy

lemma local_modify_own {f : Partitions T D → Partitions T D}
    (hown : ∀ s, ownPart R (f s) = f (ownPart R s)) (hrest : ∀ s, restPart R (f s) = restPart R s)
    (htidy : ∀ o, Tidy R o → Tidy R (f o)) :
    (partitionsOf T D R).Local (modify f) fun _ => True := by
  refine Part.local_modify fun r r' hr hr' s t hst => ⟨?_, ?_, ?_, ?_⟩
  · have h : ownPart R s = ownPart R t := hst.own
    change ownPart R (f s) = ownPart R (f t)
    rw [hown, hown, h]
  · have h : Tidy R (ownPart R s) := hst.tidy
    change Tidy R (ownPart R (f s))
    rw [hown]
    exact htidy _ h
  · exact (hrest s).trans hst.left
  · exact (hrest t).trans hst.right

lemma findTable_own {n : List Char} (hn : OwnTable R n) :
    Partitions.findTable n (ownPart R s) = Partitions.findTable n s := by
  have hown : ∀ t : PhysicalTable T, sameIdentifier n t.name = true → isOwnTable R t.name = true :=
    fun t ht => isOwnTable_iff.2 (ownTable_of_sameName (sameName_of_sameIdentifier ht) hn)
  unfold Partitions.findTable ownPart
  rw [find_filter hown]

lemma relationExists_own {n : List Char} (hn : OwnTable R n) (hoff : Off R (restPart R s)) :
    Partitions.relationExists n (ownPart R s) = Partitions.relationExists n s := by
  unfold Partitions.relationExists
  refine any_filter fun e he hchild => ?_
  by_contra hforeign
  rcases hc : e.child with _ | c
  · rw [hc] at hchild
    cases hchild
  · rw [hc] at hchild
    have hrest : e ∈ (restPart R s).entries :=
      List.mem_filter.2 ⟨he, by simpa using hforeign⟩
    exact hoff.children e hrest c hc (ownTable_of_sameName hchild hn)

/-- An index is looked for by a test that only own names pass. -/
lemma any_index_own {f : List Char → Bool} (hf : ∀ m, f m = true → OwnIndex R m)
    (hoff : Off R (restPart R s)) :
    ((ownPart R s).indexes.any fun i => f i.name) = s.indexes.any fun i => f i.name := by
  refine any_filter fun i hi hname => ?_
  by_contra hforeign
  have hrest : i ∈ (restPart R s).indexes := by
    refine List.mem_filter.2 ⟨hi, ?_⟩
    simpa using hforeign
  exact hoff.indexes i hrest (hf _ hname)

lemma duckdbIndexExists_own {n : List Char} (hn : OwnIndex R n) (hoff : Off R (restPart R s)) :
    Partitions.duckdbIndexExists n (ownPart R s) = Partitions.duckdbIndexExists n s :=
  any_index_own (f := (· == n)) (fun m hm => by rw [eq_of_beq hm]; exact hn) hoff

lemma indexTaken_own {n : List Char} (hn : OwnIndex R n) (hoff : Off R (restPart R s)) :
    Partitions.indexTaken n (ownPart R s) = Partitions.indexTaken n s :=
  any_index_own (f := sameIdentifier n)
    (fun _ hm => ownIndex_of_sameName (sameName_of_sameIdentifier hm) hn) hoff

lemma entriesOf_own : Partitions.entriesOf R.oid (ownPart R s) = Partitions.entriesOf R.oid s := by
  unfold Partitions.entriesOf ownPart
  rw [List.filter_filter]
  simp only [Bool.and_self]

lemma children_own : Partitions.children R.oid (ownPart R s) = Partitions.children R.oid s := by
  unfold Partitions.children
  rw [entriesOf_own]

lemma activeChildren_own :
    Partitions.activeChildren R.oid (ownPart R s) = Partitions.activeChildren R.oid s := by
  unfold Partitions.activeChildren
  rw [children_own]

lemma entry_own (value : List Char) :
    Partitions.entry R.oid value (ownPart R s) = Partitions.entry R.oid value s :=
  find_filter fun _ he => (Bool.and_eq_true_iff.1 he).1

lemma partitionIndexSpecs_own :
    Partitions.partitionIndexSpecs R.oid (ownPart R s) = Partitions.partitionIndexSpecs R.oid s := by
  unfold Partitions.partitionIndexSpecs ownPart
  rw [List.filter_filter]
  simp only [Bool.and_self]

lemma mem_children {o : Partitions T D} {e : PartitionEntry D} {c : ChildRelation D}
    (h : (e, c) ∈ Partitions.children R.oid o) : e ∈ o.entries ∧ e.child = some c := by
  obtain ⟨e', he', hc⟩ := List.mem_filterMap.1 h
  obtain ⟨c', hc', heq⟩ := Option.map_eq_some_iff.1 hc
  cases heq
  exact ⟨(List.mem_filter.1 ((List.mem_insertionSort _).1 he')).1, hc'⟩

lemma sameIdentifier_not_own {n m : List Char} (hn : OwnTable R n)
    (hm : isOwnTable R m = false) : sameIdentifier n m = false := by
  by_contra h
  rw [Bool.not_eq_false] at h
  rw [isOwnTable_iff.2 (ownTable_of_sameName (sameName_of_sameIdentifier h) hn)] at hm
  cases hm

/-! ### The operations -/

lemma local_ensure (c : Bool) (e : String) :
    (partitionsOf T D R).Local (ensure c e) fun _ => True := by
  unfold ensure
  exact Part.local_ite (fun _ => Part.local_pure trivial) fun _ => Part.local_throw e

lemma local_createTable {n : List Char} (hn : OwnTable R n) (content : T) :
    (partitionsOf T D R).Local (createTable n content) fun _ => True := by
  unfold createTable
  refine Part.local_bind (Q := fun _ => True) (local_asks_own (fun s _ _ => ?_) fun _ _ => trivial)
    fun taken _ => Part.local_bind (local_ensure _ _) fun _ _ => ?_
  · rw [findTable_own hn]
  · refine local_modify_own (fun s => ?_) (fun s => ?_) fun o ho => ?_
    · unfold ownPart
      congr 1
      exact filter_append_pos (isOwnTable_iff.2 hn)
    · unfold restPart
      congr 1
      exact filter_append_neg (by rw [isOwnTable_iff.2 hn]; rfl)
    · exact ⟨ho.values, ho.children, ho.specs, ho.indexes⟩

lemma local_dropTable {n : List Char} (hn : OwnTable R n) :
    (partitionsOf T D R).Local (dropTable n) fun _ => True := by
  unfold dropTable
  refine Part.local_bind (Q := fun _ => True) (local_asks_own (fun s _ _ => ?_) fun _ _ => trivial)
    fun there _ => Part.local_bind (local_ensure _ _) fun _ _ => ?_
  · rw [findTable_own hn]
  · refine local_modify_own (fun s => ?_) (fun s => ?_) fun o ho => ?_
    · unfold ownPart
      congr 1
      · exact filter_filter_comm _
      · exact filter_filter_comm _
    · unfold restPart
      congr 1
      · exact filter_filter_of fun t _ ht => by
          rw [sameIdentifier_not_own hn (by simpa using ht)]
          rfl
      · exact filter_filter_of fun i _ hi => by
          rw [sameIdentifier_not_own hn (by simpa using hi)]
          rfl
    · exact ⟨ho.values, ho.children, ho.specs, fun i hi => ho.indexes i (List.mem_filter.1 hi).1⟩

lemma local_tableContent {n : List Char} (hn : OwnTable R n) :
    (partitionsOf T D R).Local (tableContent n) fun _ => True := by
  unfold tableContent
  refine Part.local_bind (Q := fun _ => True) (local_asks_own (fun s _ _ => findTable_own hn)
    fun _ _ => trivial) fun found _ => ?_
  rcases found with _ | content
  · exact Part.local_throw _
  · exact Part.local_pure trivial

variable {E : PartitionEngine T D B}

lemma local_createIndex {n table : List Char} {spec : PartitionIndexSpec} (hn : OwnIndex R n)
    (htable : OwnTable R table) :
    (partitionsOf T D R).Local (createIndex E n table spec) fun _ => True := by
  unfold createIndex
  refine Part.local_bind (local_tableContent htable) fun content _ => ?_
  refine Part.local_bind (Q := fun _ => True) (local_asks_own (fun s _ ho => indexTaken_own hn ho)
    fun _ _ => trivial) fun taken _ => Part.local_bind (local_ensure _ _) fun _ _ => ?_
  refine Part.local_bind (Q := fun _ => True) (Part.local_fromExcept fun _ _ => trivial)
    fun _ _ => local_modify_own (fun s => ?_) (fun s => ?_) fun o ho => ?_
  · unfold ownPart
    congr 1
    exact filter_append_pos (isOwnTable_iff.2 htable)
  · unfold restPart
    congr 1
    exact filter_append_neg (by rw [isOwnTable_iff.2 htable]; rfl)
  · refine ⟨ho.values, ho.children, ho.specs, fun i hi => ?_⟩
    rcases List.mem_append.1 hi with hi | hi
    · exact ho.indexes i hi
    · rw [List.mem_singleton.1 hi]
      exact hn

lemma local_insertInto {n : List Char} (hn : OwnTable R n) (rows : List B) :
    (partitionsOf T D R).Local (insertInto E n rows) fun _ => True := by
  unfold insertInto
  refine Part.local_bind (local_tableContent hn) fun content _ => ?_
  refine Part.local_bind (Q := fun _ => True) (Part.local_fromExcept fun _ _ => trivial)
    fun content' _ => local_modify_own (fun s => ?_) (fun s => ?_) fun o ho => ?_
  · unfold ownPart
    congr 1
    refine filter_map_comm fun t => ?_
    split_ifs
    · rfl
    · rfl
  · unfold restPart
    congr 1
    refine filter_map_of (fun t => ?_) fun t ht => ?_
    · split_ifs
      · rfl
      · rfl
    · rw [sameIdentifier_not_own hn (by simpa using ht)]
      rfl
  · exact ⟨ho.values, ho.children, ho.specs, ho.indexes⟩

lemma local_updateEntry (value : List Char) {f : PartitionEntry D → PartitionEntry D}
    (hparent : ∀ e, (f e).parentRelid = e.parentRelid)
    (hvalue : ∀ e, (f e).partitionValue = e.partitionValue)
    (hchild : ∀ e, e.partitionValue = value → IsPartitionValue R.partitionUnit value →
      (∀ c, e.child = some c → OwnTable R c.relname) →
        ∀ c, (f e).child = some c → OwnTable R c.relname) :
    (partitionsOf T D R).Local (modify (Partitions.updateEntry R.oid value f)) fun _ => True := by
  refine local_modify_own (fun s => ?_) (fun s => ?_) fun o ho => ?_
  · unfold ownPart Partitions.updateEntry
    congr 1
    refine filter_map_comm fun e => ?_
    split_ifs
    · rw [hparent]
    · rfl
  · unfold restPart Partitions.updateEntry
    congr 1
    refine filter_map_of (fun e => ?_) fun e he => ?_
    · split_ifs
      · rw [hparent]
      · rfl
    · have hne : (e.parentRelid == R.oid) = false := by simpa using he
      rw [hne, Bool.false_and]
      rfl
  · refine ⟨fun e he => ?_, fun e he c hc => ?_, ho.specs, ho.indexes⟩
    · obtain ⟨e', he', rfl⟩ := List.mem_map.1 he
      split_ifs
      · rw [hvalue]
        exact ho.values e' he'
      · exact ho.values e' he'
    · obtain ⟨e', he', rfl⟩ := List.mem_map.1 he
      split_ifs at hc with hthis
      · have heq : e'.partitionValue = value := eq_of_beq (Bool.and_eq_true_iff.1 hthis).2
        have hisvalue := ho.values e' he'
        rw [heq] at hisvalue
        exact hchild e' heq hisvalue (ho.children e' he') c hc
      · exact ho.children e' he' c hc

lemma local_allocateOid : (partitionsOf T D R).Local allocateOid fun _ => True := by
  unfold allocateOid
  refine Part.local_bind (Q := fun _ => True) (local_asks_own (fun _ _ _ => rfl) fun _ _ => trivial)
    fun oid _ => ?_
  refine Part.local_bind (Q := fun _ => True) ?_ fun _ _ => Part.local_pure trivial
  exact local_modify_own (fun _ => rfl) (fun _ => rfl) fun o ho =>
    ⟨ho.values, ho.children, ho.specs, ho.indexes⟩

/-- The names of the indexes of an own table. -/
lemma ownIndex_partitionIndexName {child index : List Char} (hchild : OwnTable R child)
    (hindex : index ∈ R.indexNames) : OwnIndex R (partitionIndexName child index) := by
  obtain ⟨v, hv, hname⟩ := hchild
  refine ⟨v, hv, index, hindex, ?_⟩
  rw [lower_partitionIndexName, lower_partitionIndexName, hname]

lemma local_createPartitionIndex {spec : PartitionIndexSpec} {child : List Char}
    (hspec : spec.indexName ∈ R.indexNames) (hchild : OwnTable R child) :
    (partitionsOf T D R).Local (createPartitionIndex E spec child) fun _ => True := by
  have hown := ownIndex_partitionIndexName hchild hspec
  unfold createPartitionIndex
  refine Part.local_bind (Q := fun _ => True)
    (local_asks_own (fun s _ ho => duckdbIndexExists_own hown ho) fun _ _ => trivial) fun there _ => ?_
  refine Part.local_ite (fun _ => Part.local_pure trivial) fun _ => ?_
  exact Part.local_mapError _ (local_createIndex hown hchild)

lemma local_createPartitionIndexes {child : List Char} (hchild : OwnTable R child) :
    (partitionsOf T D R).Local (createPartitionIndexes E R.oid child) fun _ => True := by
  unfold createPartitionIndexes
  refine Part.local_bind (Q := fun specs => ∀ spec ∈ specs, spec.indexName ∈ R.indexNames)
    (local_asks_own (fun s _ _ => partitionIndexSpecs_own) fun o ho spec hspec => ?_)
    fun specs hspecs => Part.local_forM fun spec hspec =>
      local_createPartitionIndex (hspecs spec hspec) hchild
  obtain ⟨x, hx, rfl⟩ := List.mem_map.1 hspec
  exact ho.specs x (List.mem_filter.1 hx).1

/-- The name under which a statement asks for the relation may differ in letter case. -/
lemma ownTable_spelled {name v : List Char} (hname : lowercase name = lowercase R.name)
    (hv : IsPartitionValue R.partitionUnit v) : OwnTable R (physicalPartitionName name v) := by
  refine ⟨v, hv, ?_⟩
  rw [lower_physicalPartitionName hv, lower_physicalPartitionName hv, hname]

variable {name : List Char}

lemma local_createRangePartition (hname : lowercase name = lowercase R.name)
    (dt : DateTime) : (partitionsOf T D R).Local (createRangePartition E { R with name := name }
      (partitionValueForDatetime dt R.partitionUnit)) (OwnTable R) := by
  unfold createRangePartition
  refine Part.local_bind (Q := fun _ => IsPartitionValue R.partitionUnit
    (partitionValueForDatetime dt R.partitionUnit))
    (Part.local_fromExcept fun b hb => ⟨dt, b, rfl, hb⟩) fun _ hv => ?_
  have hown := ownTable_spelled hname hv
  refine Part.local_bind (Q := fun _ => True)
    (local_asks_own (fun s _ ho => relationExists_own hown ho) fun _ _ => trivial) fun there _ => ?_
  refine Part.local_bind (local_ensure _ _) fun _ _ => ?_
  refine Part.local_bind local_allocateOid fun childOid _ => ?_
  refine Part.local_bind local_allocateOid fun _ _ => ?_
  refine Part.local_bind (Q := fun _ => True) (Part.local_fromExcept fun _ _ => trivial)
    fun content _ => ?_
  refine Part.local_bind (Part.local_mapError _ (local_createTable hown content)) fun _ _ => ?_
  refine Part.local_bind (Q := fun _ => True) ?_ fun _ _ =>
    Part.local_bind (local_createPartitionIndexes hown) fun _ _ => Part.local_pure hown
  refine local_modify_own (fun s => ?_) (fun s => ?_) fun o ho => ?_
  · unfold ownPart
    congr 1
    exact filter_append_pos (beq_self_eq_true R.oid)
  · unfold restPart
    congr 1
    exact filter_append_neg (by simp)
  · refine ⟨fun e he => ?_, fun e he c hc => ?_, ho.specs, ho.indexes⟩
    · rcases List.mem_append.1 he with he | he
      · exact ho.values e he
      · rw [List.mem_singleton.1 he]
        exact hv
    · rcases List.mem_append.1 he with he | he
      · exact ho.children e he c hc
      · rw [List.mem_singleton.1 he] at hc
        cases hc
        exact hown

lemma local_ensureActivePartition (hname : lowercase name = lowercase R.name)
    (dt : DateTime) : (partitionsOf T D R).Local (ensureActivePartition E { R with name := name }
      (partitionValueForDatetime dt R.partitionUnit)) (OwnTable R) := by
  unfold ensureActivePartition
  refine Part.local_bind (Q := fun found => ∀ e : PartitionEntry D, found = some e →
      ∀ c, e.child = some c → OwnTable R c.relname)
    (local_asks_own (fun s _ _ => entry_own _) fun o ho e he =>
      ho.children e (List.mem_of_find?_eq_some he)) fun found hfound => ?_
  rcases found with _ | e
  · exact local_createRangePartition hname dt
  · rcases hstatus : e.status <;> rcases hchild : e.child with _ | child
    all_goals simp only [hstatus, hchild]
    all_goals first
      | exact Part.local_throw _
      | exact Part.local_pure (hfound e rfl child hchild)

lemma local_activeChildren : (partitionsOf T D R).Local (asks (Partitions.activeChildren R.oid))
    fun children => ∀ x ∈ children, OwnTable R x.2.relname := by
  refine local_asks_own (fun s _ _ => activeChildren_own) fun o ho x hx => ?_
  obtain ⟨hmem, hchild⟩ := mem_children (List.mem_filter.1 hx).1
  exact ho.children x.1 hmem x.2 hchild

lemma local_contents {xs : List (PartitionEntry D × ChildRelation D)}
    (hxs : ∀ x ∈ xs, OwnTable R x.2.relname) : (partitionsOf T D R).Local
      (xs.mapM fun c => tableContent c.2.relname) fun _ => True := by
  induction xs with
  | nil => exact Part.local_pure trivial
  | cons x xs ih =>
    rw [List.mapM_cons]
    refine Part.local_bind (local_tableContent (hxs x List.mem_cons_self)) fun _ _ => ?_
    refine Part.local_bind (ih fun y hy => hxs y (List.mem_cons_of_mem _ hy)) fun _ _ => ?_
    exact Part.local_pure trivial

lemma local_refreshPartitionEntrypoint : (partitionsOf T D R).Local
    (refreshPartitionEntrypoint E { R with name := name }) fun _ => True := by
  unfold refreshPartitionEntrypoint
  refine Part.local_bind local_activeChildren fun children hchildren => ?_
  refine Part.local_bind (local_contents hchildren) fun contents _ => ?_
  refine Part.local_bind (Q := fun _ => True) (Part.local_fromExcept fun _ _ => trivial) fun _ _ => ?_
  refine local_modify_own (fun s => ?_) (fun s => ?_) fun o ho => ?_
  · unfold ownPart
    congr 1
    refine (filter_append_pos ?_).trans ?_
    · exact beq_self_eq_true R.oid
    · exact congrArg (· ++ [_]) (filter_filter_comm _)
  · unfold restPart
    congr 1
    refine (filter_append_neg ?_).trans ?_
    · simp
    · exact filter_filter_of fun _ _ h => h
  · exact ⟨ho.values, ho.children, ho.specs, ho.indexes⟩

lemma local_expirePartition {x : PartitionEntry D × ChildRelation D}
    (hx : OwnTable R x.2.relname) : (partitionsOf T D R).Local
      (expirePartition { R with name := name } x : Eff (Partitions T D) PUnit) fun _ => True := by
  unfold expirePartition
  refine Part.local_bind (local_updateEntry _ (fun _ => rfl) (fun _ => rfl) fun e _ _ h => h)
    fun _ _ => ?_
  refine Part.local_bind (Part.local_mapError _ (local_dropTable hx)) fun _ _ => ?_
  exact local_updateEntry _ (fun _ => rfl) (fun _ => rfl) fun e _ _ _ c hc => by cases hc

lemma local_expireOldPartitions : (partitionsOf T D R).Local
    (expireOldPartitions { R with name := name }) fun _ => True := by
  unfold expireOldPartitions
  refine Part.local_ite (fun _ => Part.local_pure trivial) fun _ => ?_
  refine Part.local_bind local_activeChildren fun children hchildren => ?_
  exact Part.local_forM fun x hx => local_expirePartition (hchildren x (List.mem_of_mem_take hx))

lemma exists_time_of_push {unit : PartitionUnit} {route : PartitionRoute} {row : B}
    {groups : List (PartitionInsertGroup B)}
    (hroute : ∃ dt, route.partitionValue = partitionValueForDatetime dt unit)
    (hgroups : ∀ g ∈ groups, ∃ dt, g.partitionValue = partitionValueForDatetime dt unit) :
    ∀ g ∈ pushPartitionInsertGroup route row groups,
      ∃ dt, g.partitionValue = partitionValueForDatetime dt unit := by
  induction groups with
  | nil =>
    intro g hg
    obtain rfl := List.mem_singleton.1 hg
    exact hroute
  | cons group groups ih =>
    intro g hg
    rw [pushPartitionInsertGroup] at hg
    split_ifs at hg
    · rcases List.mem_cons.1 hg with rfl | hg
      · exact hgroups group List.mem_cons_self
      · exact hgroups g (List.mem_cons_of_mem _ hg)
    · rcases List.mem_cons.1 hg with rfl | hg
      · exact hgroups g List.mem_cons_self
      · exact ih (fun g hg => hgroups g (List.mem_cons_of_mem _ hg)) g hg

/-- A group is for a partition that a time is routed to. -/
lemma exists_time_of_mem_groups {unit : PartitionUnit} {rows : List (DateTime × B)}
    {g : PartitionInsertGroup B} (hg : g ∈ partitionInsertGroups unit rows) :
    ∃ dt, g.partitionValue = partitionValueForDatetime dt unit := by
  refine List.foldlRecOn rows _ (motive := fun groups => ∀ g ∈ groups,
    ∃ dt, g.partitionValue = partitionValueForDatetime dt unit) ?_ ?_ g hg
  · exact fun g hg => (List.not_mem_nil hg).elim
  · exact fun groups hgroups row _ => exists_time_of_push ⟨row.1, rfl⟩ hgroups

lemma local_insertPartitionedRelation (hname : lowercase name = lowercase R.name)
    (rows : List (DateTime × B)) : (partitionsOf T D R).Local
      (insertPartitionedRelation E { R with name := name } rows) fun _ => True := by
  unfold insertPartitionedRelation
  refine Part.local_bind (Part.local_forM fun group hgroup => ?_) fun _ _ => ?_
  · unfold insertPartitionGroup
    obtain ⟨dt, hdt⟩ := exists_time_of_mem_groups hgroup
    rw [hdt]
    refine Part.local_bind (local_ensureActivePartition hname dt) fun child hchild => ?_
    refine Part.local_bind (Part.local_mapError _ (local_insertInto hchild group.rows)) fun _ _ => ?_
    exact local_updateEntry _ (fun _ => rfl) (fun _ => rfl) fun e _ _ h => h
  · exact Part.local_bind local_expireOldPartitions fun _ _ => local_refreshPartitionEntrypoint

lemma local_maintainPartitionedRelation : (partitionsOf T D R).Local
    (maintainPartitionedRelation E { R with name := name }) fun _ => True :=
  Part.local_bind local_expireOldPartitions fun _ _ => local_refreshPartitionEntrypoint

lemma local_dropPartitionedRelation : (partitionsOf T D R).Local
    (dropPartitionedRelation { R with name := name }) fun _ => True := by
  unfold dropPartitionedRelation
  refine Part.local_bind (Q := fun children => ∀ x ∈ children, OwnTable R x.2.relname)
    (local_asks_own (fun s _ _ => children_own) fun o ho x hx => ?_) fun children hchildren => ?_
  · obtain ⟨hmem, hchild⟩ := mem_children hx
    exact ho.children x.1 hmem x.2 hchild
  · refine Part.local_bind (Q := fun _ => True) (local_modify_own (fun s => ?_) (fun s => ?_)
      fun o ho => ⟨ho.values, ho.children, ho.specs, ho.indexes⟩) fun _ _ => ?_
    · unfold ownPart
      congr 1
      exact filter_filter_comm _
    · unfold restPart
      congr 1
      exact filter_filter_of fun _ _ h => h
    · refine Part.local_bind (Part.local_forM fun x hx =>
        Part.local_mapError _ (local_dropTable (hchildren x hx))) fun _ _ => ?_
      refine local_modify_own (fun s => ?_) (fun s => ?_) fun o ho => ?_
      · unfold ownPart
        congr 1
        · exact filter_filter_comm _
        · exact filter_filter_comm _
      · unfold restPart
        congr 1
        · exact filter_filter_of fun _ _ h => h
        · exact filter_filter_of fun _ _ h => h
      · exact ⟨fun e he => ho.values e (List.mem_filter.1 he).1,
          fun e he => ho.children e (List.mem_filter.1 he).1,
          fun x hx => ho.specs x (List.mem_filter.1 hx).1, ho.indexes⟩

lemma local_validateTablePhysical {child : ChildRelation D} (hchild : OwnTable R child.relname) :
    (partitionsOf T D R).Local (validateTablePhysical E child) fun _ => True := by
  unfold validateTablePhysical
  refine Part.local_bind (Q := fun _ => True) (local_asks_own (fun s _ _ => ?_) fun _ _ => trivial)
    fun found _ => ?_
  · refine find_filter fun t ht => isOwnTable_iff.2 ?_
    rwa [eq_of_beq ht]
  · rcases found with _ | table
    · exact Part.local_throw _
    · exact Part.local_fromExcept fun _ _ => trivial

lemma local_recreatePartition (hname : lowercase name = lowercase R.name)
    {value : List Char} (hvalue : IsPartitionValue R.partitionUnit value) :
    (partitionsOf T D R).Local (recreatePartition E { R with name := name } value)
      fun _ => True := by
  have hown := ownTable_spelled hname hvalue
  unfold recreatePartition
  refine Part.local_bind local_allocateOid fun _ _ => ?_
  refine Part.local_bind (Q := fun _ => True) (Part.local_fromExcept fun _ _ => trivial)
    fun content _ => ?_
  refine Part.local_bind (Part.local_mapError _ (local_createTable hown content)) fun _ _ => ?_
  refine Part.local_bind (local_updateEntry _ (fun _ => rfl) (fun _ => rfl) fun e _ _ _ c hc => ?_)
    fun _ _ => ?_
  · cases hc
    exact hown
  · exact Part.local_bind (Q := fun _ => True) (Part.local_fromExcept fun _ _ => trivial)
      fun _ _ => local_createPartitionIndexes hown

lemma local_validatePartition {value : List Char} {child : Option (ChildRelation D)}
    (hchild : ∀ c, child = some c → OwnTable R c.relname) :
    (partitionsOf T D R).Local (validatePartition E { R with name := name } value child)
      fun _ => True := by
  rcases child with _ | c
  · exact Part.local_throw _
  · exact local_validateTablePhysical (hchild c rfl)

/-- The children keep their names. -/
lemma ownTable_of_map_status {child : Option (ChildRelation D)} {status : Status}
    (h : ∀ c, child = some c → OwnTable R c.relname) {c : ChildRelation D}
    (hc : (child.map fun c => { c with status := status }) = some c) : OwnTable R c.relname := by
  obtain ⟨c', hc', rfl⟩ := Option.map_eq_some_iff.1 hc
  exact h c' hc'

lemma local_repairNonActivePartition (hname : lowercase name = lowercase R.name)
    {value : List Char} (hvalue : IsPartitionValue R.partitionUnit value) {e : PartitionEntry D}
    (hchild : ∀ c, e.child = some c → OwnTable R c.relname) :
    (partitionsOf T D R).Local (repairNonActivePartition E { R with name := name } value e)
      fun _ => True := by
  have hown := ownTable_spelled hname hvalue
  unfold repairNonActivePartition
  refine Part.local_bind (Q := fun _ => True)
    (local_asks_own (fun s _ ho => relationExists_own hown ho) fun _ _ => trivial) fun there _ => ?_
  have hactive : (partitionsOf T D R).Local (modify (Partitions.updateEntry R.oid value fun row =>
      { row with status := .active, child := row.child.map fun c => { c with status := .active } }))
      fun _ => True := local_updateEntry _ (fun _ => rfl) (fun _ => rfl) fun e _ _ h c hc =>
    ownTable_of_map_status h hc
  refine Part.local_ite (fun _ => ?_) fun _ => ?_
  · exact Part.local_bind (local_validatePartition hchild) fun _ _ => hactive
  · exact Part.local_bind (local_recreatePartition hname hvalue) fun _ _ => hactive

lemma local_repairEntry (hname : lowercase name = lowercase R.name)
    {value : List Char} (hvalue : IsPartitionValue R.partitionUnit value) {e : PartitionEntry D}
    (hchild : ∀ c, e.child = some c → OwnTable R c.relname) :
    (partitionsOf T D R).Local (repairEntry E { R with name := name } value e) fun _ => True := by
  unfold repairEntry
  rcases hstatus : e.status <;> rcases hc : e.child with _ | child
  all_goals simp only
  all_goals first
    | exact local_validateTablePhysical (hchild child hc)
    | exact local_repairNonActivePartition hname hvalue hchild
    | exact Part.local_pure trivial

/-- The row of a partition is looked up among the own ones. -/
lemma local_entry (value : List Char) : (partitionsOf T D R).Local
    (asks (Partitions.entry R.oid value)) fun found => ∀ e : PartitionEntry D, found = some e →
      IsPartitionValue R.partitionUnit value ∧ ∀ c, e.child = some c → OwnTable R c.relname := by
  refine local_asks_own (fun s _ _ => entry_own value) fun o ho e he => ?_
  have hmem := List.mem_of_find?_eq_some he
  have htest := List.find?_some he
  have heq : e.partitionValue = value := eq_of_beq (Bool.and_eq_true_iff.1 htest).2
  have hvalue := ho.values e hmem
  rw [heq] at hvalue
  exact ⟨hvalue, ho.children e hmem⟩

lemma local_repairPartition (hname : lowercase name = lowercase R.name)
    (value : List Char) : (partitionsOf T D R).Local
      (repairPartition E { R with name := name } value) fun _ => True := by
  unfold repairPartition
  refine Part.local_bind (local_entry value) fun found hfound => ?_
  rcases found with _ | e
  · exact Part.local_throw _
  · obtain ⟨hvalue, hchild⟩ := hfound e rfl
    exact Part.local_bind (local_repairEntry hname hvalue hchild) fun _ _ =>
      local_refreshPartitionEntrypoint

lemma local_markPartitionUnavailable (value : List Char) : (partitionsOf T D R).Local
    (markPartitionUnavailable E { R with name := name } value) fun _ => True := by
  unfold markPartitionUnavailable
  refine Part.local_bind (local_entry value) fun found _ => ?_
  rcases found.bind (·.child) with _ | c
  · exact Part.local_throw _
  · refine Part.local_bind (local_updateEntry _ (fun _ => rfl) (fun _ => rfl) fun e _ _ h c hc =>
      ownTable_of_map_status h hc) fun _ _ => local_refreshPartitionEntrypoint

lemma local_createIndexOnPartitions {spec : PartitionIndexSpec}
    (hspec : spec.indexName ∈ R.indexNames) : (partitionsOf T D R).Local
      (createIndexOnPartitions E { R with name := name } spec) fun _ => True := by
  unfold createIndexOnPartitions
  refine Part.local_bind local_activeChildren fun children hchildren => ?_
  refine Part.local_bind (Part.local_forM fun x hx =>
    local_createPartitionIndex hspec (hchildren x hx)) fun _ _ => ?_
  refine local_modify_own (fun s => ?_) (fun s => ?_) fun o ho => ?_
  · unfold ownPart
    congr 1
    refine filter_append_pos ?_
    exact beq_self_eq_true R.oid
  · unfold restPart
    congr 1
    refine filter_append_neg ?_
    simp
  · refine ⟨ho.values, ho.children, fun x hx => ?_, ho.indexes⟩
    rcases List.mem_append.1 hx with hx | hx
    · exact ho.specs x hx
    · rw [List.mem_singleton.1 hx]
      exact hspec

/-- The indexes that the operation creates have names among those of the relation. -/
def PartitionOp.Of (R : PartitionedRelation) : PartitionOp B → Prop
  | .createIndex spec => spec.indexName ∈ R.indexNames
  | _ => True

/-- The operations of a relation are local to what belongs to it. -/
lemma local_performPartitionOp (hname : lowercase name = lowercase R.name)
    {op : PartitionOp B} (hop : op.Of R) : (partitionsOf T D R).Local
      (performPartitionOp E { R with name := name } op) fun _ => True := by
  cases op with
  | insert rows => exact local_insertPartitionedRelation hname rows
  | maintain => exact local_maintainPartitionedRelation
  | markUnavailable value => exact local_markPartitionUnavailable value
  | repair value => exact local_repairPartition hname value
  | createIndex spec => exact local_createIndexOnPartitions hop
  | drop => exact local_dropPartitionedRelation

end Local

end Own

end Rsduck.Catalog.Partition
