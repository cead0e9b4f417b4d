import Rsduck.Catalog.Partition.Independence

/-!
Several partitioned relations at once: for which names none of them notices the others.
-/

namespace Rsduck.Catalog.Partition

open Lib Lib.Eff Lib.Calendar Lib.Text

variable {T D B : Type}

/-- A statement: the relation it is about, the spelling of its name there, and what it does. -/
structure PartitionStatement (B : Type) where
  relation : PartitionedRelation
  name : List Char
  op : PartitionOp B

namespace PartitionStatement

/-- The statement is about a relation of the set, and names it. -/
structure Proper (Rs : Set PartitionedRelation) (x : PartitionStatement B) : Prop where
  mem : x.relation ∈ Rs
  spelled : lowercase x.name = lowercase x.relation.name
  of : x.op.Of x.relation

variable (E : PartitionEngine T D B) (x : PartitionStatement B)

def perform : Eff (Partitions T D) PUnit :=
  performPartitionOp E { x.relation with name := x.name } x.op

def outcome (s : Partitions T D) : Except String PUnit := (exec (x.perform E) s).1

/-- What a statement that fails has done is rolled back. -/
def after (s : Partitions T D) : Partitions T D :=
  match x.outcome E s with
  | .ok _ => (exec (x.perform E) s).2
  | .error _ => s

end PartitionStatement

/-- The states that statements about the relations come to. -/
inductive ReachedBy (E : PartitionEngine T D B) (Rs : Set PartitionedRelation) :
    Partitions T D → Prop
  | start (nextOid : ℤ) : ReachedBy E Rs { nextOid := nextOid }
  | step {s : Partitions T D} (x : PartitionStatement B) (hs : ReachedBy E Rs s)
      (hx : x.Proper Rs) : ReachedBy E Rs (x.after E s)

/-- What belongs to the relation; the counter of oids is not its own. -/
noncomputable def belongings (R : PartitionedRelation) (s : Partitions T D) : Partitions T D :=
  { ownPart R s with nextOid := 0 }

/-- What is done with the one relation neither changes what belongs to the other nor depends on
anything but what belongs to the one. -/
structure Undisturbed (E : PartitionEngine T D B) (Rs : Set PartitionedRelation)
    (R R' : PartitionedRelation) : Prop where
  unchanged : ∀ (s : Partitions T D) (x : PartitionStatement B), ReachedBy E Rs s → x.Proper Rs →
    x.relation = R → belongings R' (x.after E s) = belongings R' s
  unread : ∀ (s t : Partitions T D) (x : PartitionStatement B), ReachedBy E Rs s →
    ReachedBy E Rs t → x.Proper Rs → x.relation = R → ownPart R s = ownPart R t →
      x.outcome E s = x.outcome E t ∧ ownPart R (x.after E s) = ownPart R (x.after E t)

/-! ### Everything has its relation -/

/-- What there is belongs to relations of the set. -/
structure Housed (Rs : Set PartitionedRelation) (s : Partitions T D) : Prop where
  entries : ∀ e ∈ s.entries, ∃ R ∈ Rs, e.parentRelid = R.oid ∧
    IsPartitionValue R.partitionUnit e.partitionValue ∧
      ∀ c, e.child = some c → OwnTable R c.relname
  specs : ∀ x ∈ s.specs, ∃ R ∈ Rs, x.1 = R.oid ∧ x.2.indexName ∈ R.indexNames
  indexes : ∀ i ∈ s.indexes, ∃ R ∈ Rs, OwnTable R i.table ∧ OwnIndex R i.name

section Housed

variable {Rs : Set PartitionedRelation} {R R' : PartitionedRelation} {s t : Partitions T D}

lemma NamesDistinct.ownTable (h : NamesDistinct R R') {n : List Char} (hn : OwnTable R n) :
    ¬ OwnTable R' n := by
  obtain ⟨v, hv, hname⟩ := hn
  rintro ⟨v', hv', hname'⟩
  exact h.partitions v v' hv hv' (hname.symm.trans hname')

lemma NamesDistinct.ownIndex (h : NamesDistinct R R') {n : List Char} (hn : OwnIndex R n) :
    ¬ OwnIndex R' n := by
  obtain ⟨v, hv, i, hi, hname⟩ := hn
  rintro ⟨v', hv', i', hi', hname'⟩
  exact h.indexes v v' hv hv' i hi i' hi' (hname.symm.trans hname')

variable (hoid : Set.InjOn PartitionedRelation.oid Rs)
  (hnames : ∀ R ∈ Rs, ∀ R' ∈ Rs, R ≠ R' → NamesDistinct R R')

include hoid hnames in
lemma Housed.tidy (h : Housed Rs s) (hR : R ∈ Rs) : Tidy R (ownPart R s) := by
  have hentry : ∀ e ∈ (ownPart R s).entries, IsPartitionValue R.partitionUnit e.partitionValue ∧
      ∀ c, e.child = some c → OwnTable R c.relname := by
    intro e he
    obtain ⟨hmem, hparent⟩ := List.mem_filter.1 he
    obtain ⟨R', hR', hoid', hown⟩ := h.entries e hmem
    obtain rfl : R' = R := hoid hR' hR (hoid'.symm.trans (eq_of_beq hparent))
    exact hown
  refine ⟨fun e he => (hentry e he).1, fun e he => (hentry e he).2, fun x hx => ?_, fun i hi => ?_⟩
  · obtain ⟨hmem, hparent⟩ := List.mem_filter.1 hx
    obtain ⟨R', hR', hoid', hname⟩ := h.specs x hmem
    obtain rfl : R' = R := hoid hR' hR (hoid'.symm.trans (eq_of_beq hparent))
    exact hname
  · obtain ⟨hmem, htable⟩ := List.mem_filter.1 hi
    obtain ⟨R', hR', htable', hname⟩ := h.indexes i hmem
    by_cases heq : R' = R
    · rwa [heq] at hname
    · exact absurd (isOwnTable_iff.1 htable) ((hnames R' hR' R hR heq).ownTable htable')

include hnames in
lemma Housed.off (h : Housed Rs s) (hR : R ∈ Rs) : Off R (restPart R s) := by
  refine ⟨fun e he c hc => ?_, fun i hi => ?_⟩
  · obtain ⟨hmem, hparent⟩ := List.mem_filter.1 he
    obtain ⟨R', hR', hoid', -, hown⟩ := h.entries e hmem
    have hne : R' ≠ R := by
      rintro rfl
      simp [hoid'] at hparent
    exact (hnames R' hR' R hR hne).ownTable (hown c hc)
  · obtain ⟨hmem, htable⟩ := List.mem_filter.1 hi
    obtain ⟨R', hR', htable', hname⟩ := h.indexes i hmem
    have hne : R' ≠ R := by
      rintro rfl
      rw [isOwnTable_iff.2 htable'] at htable
      cases htable
    exact (hnames R' hR' R hR hne).ownIndex hname

/-- Where only what belongs to one relation of the set has changed. -/
lemma Housed.of_rest (h : Housed Rs s) (hR : R ∈ Rs) (htidy : Tidy R (ownPart R t))
    (hrest : restPart R t = restPart R s) : Housed Rs t := by
  refine ⟨fun e he => ?_, fun x hx => ?_, fun i hi => ?_⟩
  · by_cases hown : e.parentRelid = R.oid
    · have hmem : e ∈ (ownPart R t).entries := List.mem_filter.2 ⟨he, by simpa using hown⟩
      exact ⟨R, hR, hown, htidy.values e hmem, htidy.children e hmem⟩
    · have hmem : e ∈ (restPart R t).entries := List.mem_filter.2 ⟨he, by simpa using hown⟩
      rw [hrest] at hmem
      exact h.entries e (List.mem_filter.1 hmem).1
  · by_cases hown : x.1 = R.oid
    · have hmem : x ∈ (ownPart R t).specs := List.mem_filter.2 ⟨hx, by simpa using hown⟩
      exact ⟨R, hR, hown, htidy.specs x hmem⟩
    · have hmem : x ∈ (restPart R t).specs := List.mem_filter.2 ⟨hx, by simpa using hown⟩
      rw [hrest] at hmem
      exact h.specs x (List.mem_filter.1 hmem).1
  · by_cases hown : OwnTable R i.table
    · have hmem : i ∈ (ownPart R t).indexes :=
        List.mem_filter.2 ⟨hi, isOwnTable_iff.2 hown⟩
      exact ⟨R, hR, hown, htidy.indexes i hmem⟩
    · have hmem : i ∈ (restPart R t).indexes := by
        refine List.mem_filter.2 ⟨hi, ?_⟩
        simpa using isOwnTable_eq_false.2 hown
      rw [hrest] at hmem
      exact h.indexes i (List.mem_filter.1 hmem).1

/-- Where only what belongs to the one relation has changed, the other has kept what it had. -/
lemma belongings_of_rest (hne : R.oid ≠ R'.oid) (hdistinct : NamesDistinct R R')
    (hrest : restPart R t = restPart R s) : belongings R' t = belongings R' s := by
  have hpart : ∀ u : Partitions T D, belongings R' u = belongings R' (restPart R u) := by
    intro u
    have htable : ∀ n, isOwnTable R' n = true → (!isOwnTable R n) = true := by
      intro n hn
      have hother : ¬ OwnTable R n := fun h => hdistinct.ownTable h (isOwnTable_iff.1 hn)
      simpa using isOwnTable_eq_false.2 hother
    have hparent : ∀ oid : ℤ, (oid == R'.oid) = true → (oid != R.oid) = true := by
      intro oid h
      rw [eq_of_beq h]
      simpa using hne.symm
    change Partitions.mk 0 _ _ _ _ _ = Partitions.mk 0 _ _ _ _ _
    congr 1
    · exact (filter_filter_of fun (e : PartitionEntry D) _ h => hparent e.parentRelid h).symm
    · exact (filter_filter_of fun x _ h => hparent x.1 h).symm
    · exact (filter_filter_of fun t _ h => htable t.name h).symm
    · exact (filter_filter_of fun i _ h => htable i.table h).symm
    · exact (filter_filter_of fun x _ h => hparent x.1 h).symm
  rw [hpart t, hpart s, hrest]

end Housed

/-! ### Statements -/

section Statements

variable {E : PartitionEngine T D B} {Rs : Set PartitionedRelation} {x : PartitionStatement B}
  {s t : Partitions T D}

/-- A statement from two states in which its relation has the same. -/
lemma PartitionStatement.after_local (hx : x.Proper Rs)
    (hown : ownPart x.relation s = ownPart x.relation t)
    (htidy : Tidy x.relation (ownPart x.relation s)) (hs : Off x.relation (restPart x.relation s))
    (ht : Off x.relation (restPart x.relation t)) :
    x.outcome E s = x.outcome E t ∧
      ownPart x.relation (x.after E s) = ownPart x.relation (x.after E t) ∧
      Tidy x.relation (ownPart x.relation (x.after E s)) ∧
      restPart x.relation (x.after E s) = restPart x.relation s := by
  have hrun := (local_performPartitionOp (T := T) (D := D) (E := E) hx.spelled hx.of).run
    hown htidy hs ht
  obtain ⟨hout, hafter, htidy', hrest⟩ := hrun
  have hout : x.outcome E s = x.outcome E t := hout
  unfold PartitionStatement.after
  rw [← hout]
  rcases x.outcome E s with e | u
  · exact ⟨rfl, hown, htidy, rfl⟩
  · exact ⟨rfl, hafter, htidy', hrest⟩

variable (hoid : Set.InjOn PartitionedRelation.oid Rs)
  (hnames : ∀ R ∈ Rs, ∀ R' ∈ Rs, R ≠ R' → NamesDistinct R R')

include hoid hnames in
lemma ReachedBy.housed (h : ReachedBy E Rs s) : Housed Rs s := by
  induction h with
  | start nextOid =>
    exact ⟨fun e he => (List.not_mem_nil he).elim, fun x hx => (List.not_mem_nil hx).elim,
      fun i hi => (List.not_mem_nil hi).elim⟩
  | step x hs hx ih =>
    have htidy := ih.tidy hoid hnames hx.mem
    have hoff := ih.off hnames hx.mem
    obtain ⟨-, -, htidy', hrest⟩ := x.after_local (E := E) hx rfl htidy hoff hoff
    exact ih.of_rest hx.mem htidy' hrest

/-- **Which partitioned relations are independent**: those whose names and index names keep the
names of their partitions apart. -/
theorem partitions_independent_iff (hoid : Set.InjOn PartitionedRelation.oid Rs) :
    (∀ R ∈ Rs, ∀ R' ∈ Rs, R ≠ R' → NamesDistinct R R' ∧ Undisturbed E Rs R R') ↔
      ∀ R ∈ Rs, ∀ R' ∈ Rs, R ≠ R' → NamesApart R R' := by
  constructor
  · intro h R hR R' hR' hne
    exact namesDistinct_iff.1 (h R hR R' hR' hne).1
  · intro h
    have hnames : ∀ R ∈ Rs, ∀ R' ∈ Rs, R ≠ R' → NamesDistinct R R' := fun R hR R' hR' hne =>
      namesDistinct_iff.2 (h R hR R' hR' hne)
    refine fun R hR R' hR' hne => ⟨hnames R hR R' hR' hne, ?_, ?_⟩
    · rintro s x hs hx rfl
      have hhoused := hs.housed hoid hnames
      have hoff := hhoused.off hnames hR
      obtain ⟨-, -, -, hrest⟩ :=
        x.after_local (E := E) hx rfl (hhoused.tidy hoid hnames hR) hoff hoff
      have hne' : x.relation.oid ≠ R'.oid := fun heq => hne (hoid hR hR' heq)
      exact belongings_of_rest hne' (hnames x.relation hR R' hR' hne) hrest
    · rintro s t x hs ht hx rfl hown
      have hhoused := hs.housed hoid hnames
      obtain ⟨hout, hafter, -, -⟩ := x.after_local (E := E) hx hown
        (hhoused.tidy hoid hnames hR) (hhoused.off hnames hR)
        ((ht.housed hoid hnames).off hnames hR)
      exact ⟨hout, hafter⟩

end Statements

/-! ### Two schemas -/

/-- An engine that keeps nothing of the rows. -/
def emptyTables : PartitionEngine Unit Unit Unit where
  createTable _ := .ok ()
  loadColumns _ := ()
  columnsMatch _ _ := .ok ()
  insertRows _ _ := .ok ()
  buildIndex _ _ := .ok ()
  unionAll _ := .ok ()

def events (oid : ℤ) (schema : String) : PartitionedRelation where
  oid := oid
  schema := schema.toList
  name := "events".toList
  partitionUnit := .day
  retentionCount := 0
  indexNames := []

def insertEvents (oid : ℤ) (schema : String) (dt : DateTime) : PartitionStatement Unit where
  relation := events oid schema
  name := "events".toList
  op := .insert [(dt, ())]

def tenOClock : DateTime :=
  DateTime.of (Date.of 2026 7 10 (Eq.refl true)) 10 0 0 0 (Eq.refl true)

/-- Tables of one name in two schemas: the partitions of one day have one name, and only one of the
two can be there. -/
theorem events_of_two_schemas :
    ¬ NamesDistinct (events 20001 "a") (events 20002 "b") ∧
      (insertEvents 20002 "b" tenOClock).outcome emptyTables { nextOid := 20003 } = .ok ⟨⟩ ∧
      (insertEvents 20002 "b" tenOClock).outcome emptyTables
          ((insertEvents 20001 "a" tenOClock).after emptyTables { nextOid := 20003 }) =
        .error "managed physical partition relation already exists: rsduck_internal.events_20260710" := by
  refine ⟨fun h => ?_, rfl, rfl⟩
  obtain ⟨v, hv⟩ := exists_value (show PartitionUnit.day ≠ .hour by decide)
  exact h.partitions v v hv hv rfl

/-- The other table with partitions by month. -/
def monthlyEvents : PartitionedRelation := { events 20002 "b" with partitionUnit := .month }

def twoEvents : Set PartitionedRelation := {events 20001 "a", monthlyEvents}

theorem twoEvents_independent :
    NamesDistinct (events 20001 "a") monthlyEvents ∧
      Undisturbed emptyTables twoEvents (events 20001 "a") monthlyEvents := by
  have hnone : ∀ R ∈ twoEvents, R.indexNames = [] := by
    rintro R (rfl | rfl)
    · rfl
    · rfl
  have hruns : ∀ R ∈ twoEvents, ∀ R', ¬ RunsInto R R' := by
    rintro R hR R' ⟨-, -, -, -, -, -, i, hi, -⟩
    rw [hnone R hR] at hi
    cases hi
  have hoid : Set.InjOn PartitionedRelation.oid twoEvents := by
    rintro R (rfl | rfl) R' (rfl | rfl) h
    · rfl
    · exact absurd h (by decide)
    · exact absurd h (by decide)
    · rfl
  have hunits : ∀ R ∈ twoEvents, ∀ R' ∈ twoEvents, R ≠ R' → R.partitionUnit ≠ R'.partitionUnit := by
    rintro R (rfl | rfl) R' (rfl | rfl) hne
    · exact absurd rfl hne
    · decide
    · decide
    · exact absurd rfl hne
  have hne : events 20001 "a" ≠ monthlyEvents := fun h =>
    absurd (congrArg PartitionedRelation.oid h) (by decide)
  exact (partitions_independent_iff hoid).2 (fun R hR R' hR' hne =>
    ⟨fun _ => Or.inl (hunits R hR R' hR' hne), hruns R hR R', hruns R' hR' R⟩)
    _ (Or.inl rfl) _ (Or.inr rfl) hne

end Rsduck.Catalog.Partition
