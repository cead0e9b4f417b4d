import Rsduck.Catalog.Partition.Contents

/-!
What statements do to the contents of partitioned tables, and what a run of them comes to.
-/

namespace Rsduck.Catalog.Partition

open Lib Lib.Eff Lib.Calendar Lib.Text

variable {T D B : Type}

section Placed

variable {E : PartitionEngine T D B} {K : StoredRows E} {Rs : Set PartitionedRelation}
  {s t : Partitions T D} {e f : PartitionEntry D} {parent : ℤ} {value : List Char}

/-- The status of a row goes with its child. -/
def HasItsStatus (e : PartitionEntry D) : Prop :=
  (e.child.isSome ∧ (e.status = .active ∨ e.status = .failed)) ∨
    (e.child = none ∧ e.status = .dropped)

/-- The rows of the partitions are of different tables, and these are there. -/
structure Placed (Rs : Set PartitionedRelation) (s : Partitions T D) : Prop where
  apart : s.entries.Pairwise Apart
  named : ∀ e ∈ s.entries, NamedBy Rs e
  status : ∀ e ∈ s.entries, HasItsStatus e
  tables : ∀ e ∈ s.entries, ∀ c, e.child = some c → (Partitions.findTable c.relname s).isSome

lemma Placed.of_same (h : Placed Rs s) (hsame : rowsAndTables t = rowsAndTables s) :
    Placed Rs t := by
  obtain ⟨hentries, htables⟩ := Prod.mk.inj hsame
  refine ⟨hentries ▸ h.apart, hentries ▸ h.named, hentries ▸ h.status, fun e he c hc => ?_⟩
  rw [findTable_of_tables htables]
  exact h.tables e (hentries ▸ he) c hc

lemma binAt_of_same (hsame : rowsAndTables t = rowsAndTables s) :
    binAt K parent value t = binAt K parent value s := by
  obtain ⟨hentries, htables⟩ := Prod.mk.inj hsame
  have hbin : PartitionEntry.bin K t = PartitionEntry.bin K s := by
    funext e
    unfold PartitionEntry.bin tableRows
    simp only [findTable_of_tables htables]
  unfold binAt Partitions.entry
  rw [hentries, hbin]

lemma Placed.apart_of_ne (h : Placed Rs s) (he : e ∈ s.entries) (hf : f ∈ s.entries)
    (hne : e ≠ f) : Apart e f :=
  h.apart.forall he hf hne

lemma Placed.entry_eq_some_iff (h : Placed Rs s) : Partitions.entry parent value s = some e ↔
    e ∈ s.entries ∧ e.parentRelid = parent ∧ e.partitionValue = value := by
  constructor
  · intro hentry
    have hkey := List.find?_some hentry
    rw [Bool.and_eq_true] at hkey
    exact ⟨List.mem_of_find?_eq_some hentry, eq_of_beq hkey.1, eq_of_beq hkey.2⟩
  · rintro ⟨he, rfl, rfl⟩
    rcases hentry : Partitions.entry e.parentRelid e.partitionValue s with _ | f
    · exact absurd (List.find?_eq_none.1 hentry e he) (by simp)
    · have hkey := List.find?_some hentry
      rw [Bool.and_eq_true] at hkey
      by_contra hne
      have hne : e ≠ f := fun heq => hne (by rw [heq])
      exact (h.apart_of_ne he (List.mem_of_find?_eq_some hentry) hne).key
        ⟨(eq_of_beq hkey.1).symm, (eq_of_beq hkey.2).symm⟩

/-- What the state has for a partition, its row being known. -/
lemma Placed.binAt_of_mem (h : Placed Rs s) (he : e ∈ s.entries) :
    binAt K e.parentRelid e.partitionValue s = some (e.bin K s) := by
  unfold binAt
  rw [h.entry_eq_some_iff.2 ⟨he, rfl, rfl⟩]
  rfl

lemma binAt_eq_none (h : Partitions.entry parent value s = none) :
    binAt K parent value s = none := by
  unfold binAt
  rw [h]
  rfl

/-- A change of the rows one by one. -/
lemma Placed.of_map (h : Placed Rs s) {g : PartitionEntry D → PartitionEntry D}
    (hentries : t.entries = s.entries.map g)
    (hkey : ∀ e, (g e).parentRelid = e.parentRelid ∧ (g e).partitionValue = e.partitionValue)
    (hchild : ∀ e c, (g e).child = some c → ∃ d, e.child = some d ∧ c.relname = d.relname)
    (hstatus : ∀ e ∈ s.entries, HasItsStatus (g e))
    (htables : ∀ e ∈ s.entries, ∀ c, (g e).child = some c →
      (Partitions.findTable c.relname t).isSome) : Placed Rs t := by
  refine ⟨?_, ?_, ?_, ?_⟩
  · rw [hentries, List.pairwise_map]
    refine h.apart.imp fun {e f} hef => ⟨?_, fun c d hc hd => ?_⟩
    · rw [(hkey e).1, (hkey e).2, (hkey f).1, (hkey f).2]
      exact hef.key
    · obtain ⟨c', hc', hname⟩ := hchild e c hc
      obtain ⟨d', hd', hname'⟩ := hchild f d hd
      rw [hname, hname']
      exact hef.names c' d' hc' hd'
  · rw [hentries, List.forall_mem_map]
    intro e he R hR hparent c hc
    obtain ⟨c', hc', hname⟩ := hchild e c hc
    rw [hname, (hkey e).2]
    exact h.named e he R hR ((hkey e).1 ▸ hparent) c' hc'
  · rw [hentries, List.forall_mem_map]
    exact hstatus
  · rw [hentries, List.forall_mem_map]
    exact htables

lemma binAt_of_map {g : PartitionEntry D → PartitionEntry D}
    (hkey : ∀ e, (g e).parentRelid = e.parentRelid ∧ (g e).partitionValue = e.partitionValue)
    (hentries : t.entries = s.entries.map g) :
    binAt K parent value t =
      (Partitions.entry parent value s).map fun e => (g e).bin K t := by
  unfold binAt
  rw [entry_updateEntry hkey hentries, Option.map_map]
  rfl

lemma bin_congr {g : PartitionEntry D} (hstatus : g.status = e.status) (hchild : g.child = e.child)
    (htable : ∀ c, e.child = some c →
      Partitions.findTable c.relname t = Partitions.findTable c.relname s) :
    g.bin K t = e.bin K s := by
  unfold PartitionEntry.bin tableRows
  rw [hchild, hstatus]
  rcases hc : e.child with _ | c
  · rfl
  · simp only [htable c hc]

/-- A partition whose row and table stay has what it had. -/
lemma Placed.binAt_of_map_same (h : Placed Rs s) {g : PartitionEntry D → PartitionEntry D}
    (hkey : ∀ e, (g e).parentRelid = e.parentRelid ∧ (g e).partitionValue = e.partitionValue)
    (hentries : t.entries = s.entries.map g)
    (hsame : ∀ e ∈ s.entries, e.parentRelid = parent → e.partitionValue = value →
      (g e).status = e.status ∧ (g e).child = e.child ∧ ∀ c, e.child = some c →
        Partitions.findTable c.relname t = Partitions.findTable c.relname s) :
    binAt K parent value t = binAt K parent value s := by
  rw [binAt_of_map hkey hentries]
  unfold binAt
  rcases hentry : Partitions.entry parent value s with _ | e
  · rfl
  · obtain ⟨he, hparent, hvalue⟩ := h.entry_eq_some_iff.1 hentry
    obtain ⟨hstatus, hchild, htable⟩ := hsame e he hparent hvalue
    exact congrArg some (bin_congr hstatus hchild htable)

/-- An active partition shows the rows of its table. -/
lemma binAt_of_active {c : ChildRelation D} {content : T}
    (hentry : Partitions.entry parent value s = some e) (hstatus : e.status = .active)
    (hchild : e.child = some c) (htable : Partitions.findTable c.relname s = some content) :
    binAt K parent value s = some (.shown (K.rows content)) := by
  unfold binAt
  rw [hentry, Option.map_some]
  unfold PartitionEntry.bin tableRows
  simp only [hchild, hstatus, htable, Option.elim_some, if_true]

/-- A row, changed where it is the one of the partition. -/
def changed (parent : ℤ) (value : List Char) (f : PartitionEntry D → PartitionEntry D)
    (e : PartitionEntry D) : PartitionEntry D :=
  if e.parentRelid == parent && e.partitionValue == value then f e else e

lemma changed_cases (parent : ℤ) (value : List Char) (f : PartitionEntry D → PartitionEntry D)
    (e : PartitionEntry D) :
    (e.parentRelid = parent ∧ e.partitionValue = value ∧ changed parent value f e = f e) ∨
      (¬ (e.parentRelid = parent ∧ e.partitionValue = value) ∧ changed parent value f e = e) := by
  have hiff : (e.parentRelid == parent && e.partitionValue == value) = true ↔
      e.parentRelid = parent ∧ e.partitionValue = value := by
    rw [Bool.and_eq_true, beq_iff_eq, beq_iff_eq]
  by_cases hthis : e.parentRelid = parent ∧ e.partitionValue = value
  · exact Or.inl ⟨hthis.1, hthis.2, if_pos (hiff.2 hthis)⟩
  · exact Or.inr ⟨hthis, if_neg fun hkey => hthis (hiff.1 hkey)⟩

lemma key_changed (parent : ℤ) (value : List Char) {f : PartitionEntry D → PartitionEntry D}
    (hf : ∀ e, (f e).parentRelid = e.parentRelid ∧ (f e).partitionValue = e.partitionValue)
    (e : PartitionEntry D) : (changed parent value f e).parentRelid = e.parentRelid ∧
      (changed parent value f e).partitionValue = e.partitionValue := by
  rcases changed_cases parent value f e with ⟨-, -, hthis⟩ | ⟨-, hthis⟩
  · rw [hthis]
    exact hf e
  · rw [hthis]
    exact ⟨rfl, rfl⟩

/-- The other partitions, where their tables stay. -/
lemma Placed.binAt_changed_of_ne (h : Placed Rs s) {f : PartitionEntry D → PartitionEntry D}
    (hf : ∀ e, (f e).parentRelid = e.parentRelid ∧ (f e).partitionValue = e.partitionValue)
    (hentries : t.entries = s.entries.map (changed parent value f))
    (hkeep : ∀ m c, Partitions.findTable m s = some c → Partitions.findTable m t = some c)
    {p : ℤ} {w : List Char} (hne : ¬ (p = parent ∧ w = value)) :
    binAt K p w t = binAt K p w s := by
  refine h.binAt_of_map_same (key_changed parent value hf) hentries fun e he hparent hvalue => ?_
  rcases changed_cases parent value f e with ⟨hp, hv, -⟩ | ⟨-, hthis⟩
  · exact absurd ⟨hparent.symm.trans hp, hvalue.symm.trans hv⟩ hne
  · rw [hthis]
    refine ⟨rfl, rfl, fun c hc => ?_⟩
    obtain ⟨content, hfound⟩ := Option.isSome_iff_exists.1 (h.tables e he c hc)
    rw [hfound, hkeep _ _ hfound]

/-- A row and its table come to those that are there. -/
lemma Placed.append (h : Placed Rs s) {g : PartitionEntry D} (hentries : t.entries = s.entries ++ [g])
    (hapart : ∀ e ∈ s.entries, Apart e g) (hnamed : NamedBy Rs g) (hstatus : HasItsStatus g)
    (hother : ∀ m c, Partitions.findTable m s = some c → Partitions.findTable m t = some c)
    (htable : ∀ c, g.child = some c → (Partitions.findTable c.relname t).isSome) : Placed Rs t := by
  refine ⟨?_, ?_, ?_, ?_⟩
  · rw [hentries, List.pairwise_append]
    refine ⟨h.apart, List.pairwise_singleton _ _, fun e he f hf => ?_⟩
    rw [List.mem_singleton.1 hf]
    exact hapart e he
  · rw [hentries, List.forall_mem_append, List.forall_mem_singleton]
    exact ⟨h.named, hnamed⟩
  · rw [hentries, List.forall_mem_append, List.forall_mem_singleton]
    exact ⟨h.status, hstatus⟩
  · rw [hentries, List.forall_mem_append, List.forall_mem_singleton]
    refine ⟨fun e he c hc => ?_, htable⟩
    obtain ⟨content, hfound⟩ := Option.isSome_iff_exists.1 (h.tables e he c hc)
    rw [hother _ _ hfound]
    rfl

/-! ### A new partition -/

variable {R : PartitionedRelation} {name n : List Char} {u : PUnit}

/-- What is there after a partition was made. -/
lemma runs_createRangePartition
    (hrun : Runs (createRangePartition E { R with name := name } value) s n t) :
    ∃ childOid content, E.createTable { R with name := name } = .ok content ∧
      n = physicalPartitionName name value ∧ Partitions.relationExists n s = false ∧
      t.entries = s.entries ++ [⟨R.oid, value, childOid, .active,
        some ⟨n, .active, E.loadColumns content⟩, ⟨0, none, none⟩⟩] ∧
      Partitions.findTable n t = some content ∧
      ∀ m c, Partitions.findTable m s = some c → Partitions.findTable m t = some c := by
  simp only [createRangePartition, runs_fromExcept_bind, runs_asks_bind, runs_ensure_bind] at hrun
  obtain ⟨-, -, hfree, hrun⟩ := hrun
  obtain ⟨childOid, s₁, halloc, hrun⟩ := runs_bind.1 hrun
  obtain ⟨_, s₂, halloc', hrun⟩ := runs_bind.1 hrun
  obtain ⟨content, hcontent, hrun⟩ := runs_fromExcept_bind.1 hrun
  obtain ⟨_, s₃, hcreate, hrun⟩ := runs_bind.1 hrun
  rw [runs_modify_bind] at hrun
  obtain ⟨_, s₄, hindexes, hrun⟩ := runs_bind.1 hrun
  obtain ⟨rfl, rfl⟩ := runs_pure.1 hrun
  obtain ⟨hentries₁, htables₁⟩ := Prod.mk.inj (keeps_allocateOid _ _ _ halloc)
  obtain ⟨hentries₂, htables₂⟩ := Prod.mk.inj (keeps_allocateOid _ _ _ halloc')
  obtain ⟨hentries₃, hnew, hother⟩ := findTable_createTable (runs_mapError.1 hcreate)
  obtain ⟨hentries₄, htables₄⟩ := Prod.mk.inj (keeps_createPartitionIndexes _ _ _ _ _ hindexes)
  refine ⟨childOid, content, hcontent, rfl, by simpa using hfree, ?_, ?_, fun m c hm => ?_⟩
  · rw [hentries₄, hentries₃, hentries₂, hentries₁]
  · rw [findTable_of_tables htables₄]
    exact hnew
  · rw [findTable_of_tables htables₄]
    exact hother m c (by rwa [findTable_of_tables htables₂, findTable_of_tables htables₁])

/-- A partition is found, or made without rows. -/
lemma placed_ensureActivePartition (hoid : Set.InjOn PartitionedRelation.oid Rs) (h : Placed Rs s)
    (hR : R ∈ Rs) (hname : lowercase name = lowercase R.name)
    (hrun : Runs (ensureActivePartition E { R with name := name } value) s n t) :
    Placed Rs t ∧ (∃ e c, Partitions.entry R.oid value t = some e ∧ e.status = .active ∧
        e.child = some c ∧ c.relname = n) ∧
      (∀ p w, ¬ (p = R.oid ∧ w = value) → binAt K p w t = binAt K p w s) ∧
      (binAt K R.oid value s = none ∧ binAt K R.oid value t = some (.shown 0) ∨
        binAt K R.oid value t = binAt K R.oid value s) := by
  simp only [ensureActivePartition, runs_asks_bind] at hrun
  rcases hentry : Partitions.entry R.oid value s with _ | e
  · rw [hentry] at hrun
    obtain ⟨childOid, content, hcontent, rfl, hfree, hentries, hnew, hother⟩ :=
      runs_createRangePartition hrun
    have hfree := relationExists_eq_false_iff.1 hfree
    have hplaced : Placed Rs t := by
      refine h.append hentries (fun e he => ⟨?_, ?_⟩)
        (namedBy_new hoid hR hname rfl fun c hc => by cases hc; rfl)
        (Or.inl ⟨rfl, Or.inl rfl⟩) hother ?_
      · rintro ⟨hparent, hvalue⟩
        rw [h.entry_eq_some_iff.2 ⟨he, hparent, hvalue⟩] at hentry
        cases hentry
      · rintro c d hc hd
        cases hd
        rw [sameName_comm]
        exact hfree e he c hc
      · intro c hc
        cases hc
        rw [hnew]
        rfl
    have hthere : Partitions.entry R.oid value t = some _ :=
      hplaced.entry_eq_some_iff.2 ⟨hentries ▸ List.mem_append_right _ (List.mem_singleton.2 rfl),
        rfl, rfl⟩
    refine ⟨hplaced, ⟨_, _, hthere, rfl, rfl, rfl⟩, fun p w hne => ?_,
      Or.inl ⟨binAt_eq_none hentry, ?_⟩⟩
    · have hsame : Partitions.entry p w t = Partitions.entry p w s :=
        entry_append_of_ne hentries fun heq => hne ⟨heq.1.symm, heq.2.symm⟩
      unfold binAt
      rw [hsame]
      rcases hw : Partitions.entry p w s with _ | f
      · rfl
      · obtain ⟨hf, -, -⟩ := h.entry_eq_some_iff.1 hw
        refine congrArg some (bin_congr rfl rfl fun c hc => ?_)
        obtain ⟨content', hfound⟩ := Option.isSome_iff_exists.1 (h.tables f hf c hc)
        rw [hfound, hother _ _ hfound]
    · rw [binAt_of_active (K := K) hthere rfl rfl hnew, K.created _ _ hcontent]
  · rw [hentry] at hrun
    -- a partition that is there must be active and have its child: all else is refused
    rcases hstatus : e.status <;> rcases hchild : e.child with _ | child
    all_goals simp only [hstatus, hchild, runs_throw] at hrun
    obtain ⟨rfl, rfl⟩ := runs_pure.1 hrun
    exact ⟨h, ⟨e, child, hentry, hstatus, hchild, rfl⟩, fun _ _ _ => rfl, Or.inr rfl⟩

/-- **The rows for one partition** come to those it shows. -/
lemma placed_insertPartitionGroup (hoid : Set.InjOn PartitionedRelation.oid Rs) (h : Placed Rs s)
    (hR : R ∈ Rs) (hname : lowercase name = lowercase R.name)
    {group : PartitionInsertGroup B}
    (hrun : Runs (insertPartitionGroup E { R with name := name } group) s u t) :
    Placed Rs t ∧
      (∀ p w, ¬ (p = R.oid ∧ w = group.partitionValue) → binAt K p w t = binAt K p w s) ∧
      ((binAt K R.oid group.partitionValue s = none ∧
          binAt K R.oid group.partitionValue t = some (.shown (group.rows : List B))) ∨
        ∃ r, binAt K R.oid group.partitionValue s = some (.shown r) ∧
          binAt K R.oid group.partitionValue t = some (.shown (r + (group.rows : List B)))) := by
  obtain ⟨n, s₁, hensure, hrun⟩ := runs_bind.1 hrun
  obtain ⟨_, s₂, hinsert, hupdate⟩ := runs_bind.1 hrun
  obtain ⟨h₁, ⟨e₁, c₁, hentry₁, hstatus₁, hchild₁, rfl⟩, hothers₁, hown₁⟩ :=
    placed_ensureActivePartition (K := K) hoid h hR hname hensure
  obtain ⟨hentries₂, content, content', hcontent, hrows, hcontent', hothers⟩ :=
    findTable_insertInto (runs_mapError.1 hinsert)
  obtain ⟨hmem₁, hparent₁, hvalue₁⟩ := h₁.entry_eq_some_iff.1 hentry₁
  have ht := runs_modify.1 hupdate
  -- only the statistics of one row change
  let f (e : PartitionEntry D) : PartitionEntry D :=
    { e with stats := e.stats.update group.rows.length (group.routeTs.map DateTime.micros) }
  have hkey := key_changed R.oid group.partitionValue (f := f) fun _ => ⟨rfl, rfl⟩
  have hsame (e : PartitionEntry D) : (changed R.oid group.partitionValue f e).child = e.child ∧
      (changed R.oid group.partitionValue f e).status = e.status := by
    rcases changed_cases R.oid group.partitionValue f e with ⟨-, -, hthis⟩ | ⟨-, hthis⟩ <;>
      rw [hthis] <;> exact ⟨rfl, rfl⟩
  have hentries : t.entries = s₁.entries.map (changed R.oid group.partitionValue f) := by
    rw [ht]
    exact congrArg (List.map _) hentries₂
  have htables (m : List Char) : Partitions.findTable m t = Partitions.findTable m s₂ := by
    rw [ht]
    rfl
  have hfound (e : PartitionEntry D) (he : e ∈ s₁.entries) (hne : e ≠ e₁) (c : ChildRelation D)
      (hc : e.child = some c) :
      Partitions.findTable c.relname t = Partitions.findTable c.relname s₁ := by
    have hother := (h₁.apart_of_ne hmem₁ he (Ne.symm hne)).names c₁ c hchild₁ hc
    rw [htables, hothers _ (sameIdentifier_eq_false hother)]
  refine ⟨h₁.of_map hentries hkey (fun e c hc => ⟨c, (hsame e).1 ▸ hc, rfl⟩) (fun e he => ?_)
    fun e he c hc => ?_, fun p w hne => ?_, ?_⟩
  · unfold HasItsStatus
    rw [(hsame e).1, (hsame e).2]
    exact h₁.status e he
  · rw [(hsame e).1] at hc
    by_cases heq : e = e₁
    · subst heq
      obtain rfl : c = c₁ := Option.some.inj (hc.symm.trans hchild₁)
      rw [htables, hcontent']
      rfl
    · rw [hfound e he heq c hc]
      exact h₁.tables e he c hc
  · rw [← hothers₁ p w hne]
    refine h₁.binAt_of_map_same hkey hentries fun e he hp hv =>
      ⟨(hsame e).2, (hsame e).1, hfound e he ?_⟩
    rintro rfl
    exact hne ⟨hp.symm.trans hparent₁, hv.symm.trans hvalue₁⟩
  · have hbefore : binAt K R.oid group.partitionValue s₁ = some (.shown (K.rows content)) :=
      binAt_of_active hentry₁ hstatus₁ hchild₁ hcontent
    have hentry : Partitions.entry R.oid group.partitionValue t =
        some (changed R.oid group.partitionValue f e₁) := by
      rw [entry_updateEntry hkey hentries, hentry₁]
      rfl
    have hafter : binAt K R.oid group.partitionValue t = some (.shown (K.rows content')) :=
      binAt_of_active hentry ((hsame e₁).2.trans hstatus₁) ((hsame e₁).1.trans hchild₁)
        ((htables _).trans hcontent')
    rw [K.inserted _ _ _ hrows] at hafter
    -- the partition was made for these rows, or it was there
    rcases hown₁ with ⟨hnone, hnew⟩ | hold
    · have hzero : K.rows content = 0 := by
        have hboth := hbefore.symm.trans hnew
        simpa using hboth
      rw [hzero, zero_add] at hafter
      exact Or.inl ⟨hnone, hafter⟩
    · exact Or.inr ⟨_, hold ▸ hbefore, hafter⟩

/-- The groups of an insert, one after the other. -/
lemma placed_forM_groups (hoid : Set.InjOn PartitionedRelation.oid Rs) (hR : R ∈ Rs)
    (hname : lowercase name = lowercase R.name)
    {groups : List (PartitionInsertGroup B)} (hnodup : (groups.map (·.partitionValue)).Nodup)
    (h : Placed Rs s)
    (hrun : Runs (groups.forM (insertPartitionGroup E { R with name := name })) s u t) :
    Placed Rs t ∧
      (∀ p w, ¬ (p = R.oid ∧ w ∈ groups.map (·.partitionValue)) →
        binAt K p w t = binAt K p w s) ∧
      ∀ g ∈ groups, (binAt K R.oid g.partitionValue s = none ∧
          binAt K R.oid g.partitionValue t = some (.shown (g.rows : List B))) ∨
        ∃ r, binAt K R.oid g.partitionValue s = some (.shown r) ∧
          binAt K R.oid g.partitionValue t = some (.shown (r + (g.rows : List B))) := by
  induction groups generalizing s with
  | nil =>
    obtain ⟨-, rfl⟩ := runs_pure.1 hrun
    exact ⟨h, fun _ _ _ => rfl, fun g hg => absurd hg List.not_mem_nil⟩
  | cons group groups ih =>
    rw [List.map_cons, List.nodup_cons] at hnodup
    change Runs (insertPartitionGroup E { R with name := name } group >>= fun _ =>
      groups.forM (insertPartitionGroup E { R with name := name })) s u t at hrun
    obtain ⟨_, s₁, hfirst, hrest⟩ := runs_bind.1 hrun
    obtain ⟨h₁, hothers₁, hgroup⟩ := placed_insertPartitionGroup (K := K) hoid h hR hname hfirst
    obtain ⟨ht, hothers, hgroups⟩ := ih hnodup.2 h₁ hrest
    refine ⟨ht, fun p w hne => ?_, fun g hg => ?_⟩
    · rw [List.map_cons, List.mem_cons] at hne
      rw [hothers p w fun hw => hne ⟨hw.1, Or.inr hw.2⟩,
        hothers₁ p w fun hw => hne ⟨hw.1, Or.inl hw.2⟩]
    -- no two groups are for one partition, so the others leave what this one does
    · rcases List.mem_cons.1 hg with rfl | hg
      · have hlast := hothers R.oid g.partitionValue fun hw => hnodup.1 hw.2
        rw [hlast]
        exact hgroup
      · have hfirst := hothers₁ R.oid g.partitionValue fun hw =>
          hnodup.1 (hw.2 ▸ List.mem_map_of_mem hg)
        rw [← hfirst]
        exact hgroups g hg

lemma batchAt_routed (unit : PartitionUnit) (rows : List (DateTime × B)) (k : String) :
    Bins.batchAt (routed unit rows) k = ((rowsFor unit k.toList rows).map (·.2) : List B) := by
  unfold Bins.batchAt routed rowsFor
  rw [List.filter_map, List.map_map]
  congr 2
  refine List.filter_congr fun row _ => ?_
  have hiff : String.ofList (partitionValueForDatetime row.1 unit) = k ↔
      partitionValueForDatetime row.1 unit = k.toList := by
    constructor
    · rintro rfl
      exact String.toList_ofList.symm
    · intro h
      rw [h, String.ofList_toList]
  rw [Function.comp_apply, Bool.eq_iff_iff, beq_iff_eq, ← hiff]
  exact @decide_eq_true_iff _ (Classical.propDecidable _)

/-- The groups of an insert are a batch for what the table holds. -/
lemma contents_put {rows : List (DateTime × B)} {groups : List (PartitionInsertGroup B)}
    (hgrouping : AreGroupsOf R.partitionUnit rows groups)
    (hothers : ∀ w, w ∉ groups.map (·.partitionValue) →
      binAt K R.oid w t = binAt K R.oid w s)
    (hgroups : ∀ g ∈ groups, (binAt K R.oid g.partitionValue s = none ∧
          binAt K R.oid g.partitionValue t = some (.shown (g.rows : List B))) ∨
        ∃ r, binAt K R.oid g.partitionValue s = some (.shown r) ∧
          binAt K R.oid g.partitionValue t = some (.shown (r + (g.rows : List B)))) :
    contents K R t = (contents K R s).put (routed R.partitionUnit rows) ∧
      (contents K R s).Accepts (routed R.partitionUnit rows) := by
  have hgroup (k : String) (hk : ∃ r ∈ routed R.partitionUnit rows, r.1 = k) :
      ∃ g ∈ groups, g.partitionValue = k.toList ∧
        (g.rows : Multiset B) = Bins.batchAt (routed R.partitionUnit rows) k := by
    obtain ⟨r, hr, rfl⟩ := hk
    obtain ⟨row, hrow, rfl⟩ := List.mem_map.1 hr
    obtain ⟨g, hg, hvalue⟩ := List.mem_map.1 (hgrouping.covered row hrow)
    refine ⟨g, hg, by rw [hvalue, String.toList_ofList], ?_⟩
    rw [batchAt_routed, String.toList_ofList, (hgrouping.group g hg).rows_eq, hvalue]
  constructor
  · funext k
    by_cases hk : ∃ r ∈ routed R.partitionUnit rows, r.1 = k
    · obtain ⟨g, hg, hvalue, hrows⟩ := hgroup k hk
      unfold Bins.put
      rw [if_pos hk, ← hrows]
      change binAt K R.oid k.toList t =
        some (.shown ((binAt K R.oid k.toList s).elim 0 Bin.rows + (g.rows : Multiset B)))
      rw [← hvalue]
      rcases hgroups g hg with ⟨hbefore, hafter⟩ | ⟨r, hbefore, hafter⟩
      · rw [hafter, hbefore]
        simp
      · rw [hafter, hbefore]
        rfl
    · unfold Bins.put
      rw [if_neg hk]
      refine hothers _ fun hmem => hk ?_
      obtain ⟨g, hg, hvalue⟩ := List.mem_map.1 hmem
      obtain ⟨row, rest, hfor⟩ := List.exists_cons_of_ne_nil (hgrouping.group g hg).ne_nil
      have hrow : row ∈ rowsFor R.partitionUnit g.partitionValue rows := by
        rw [hfor]
        exact List.mem_cons_self
      obtain ⟨hmem, hroute⟩ := List.mem_filter.1 hrow
      refine ⟨_, List.mem_map_of_mem hmem, ?_⟩
      rw [eq_of_beq hroute, hvalue, String.ofList_toList]
  · intro r hr
    obtain ⟨g, hg, hvalue, -⟩ := hgroup r.1 ⟨r, hr, rfl⟩
    change binAt K R.oid r.1.toList s = none ∨ ∃ r', binAt K R.oid r.1.toList s = some (.shown r')
    rw [← hvalue]
    rcases hgroups g hg with ⟨hbefore, -⟩ | ⟨r', hbefore, -⟩
    · exact Or.inl hbefore
    · exact Or.inr ⟨r', hbefore⟩

/-! ### Expiry -/

/-- The value of a partition. -/
def valueOf (x : PartitionEntry D × ChildRelation D) : String := String.ofList x.1.partitionValue

lemma mem_children_parent {x : PartitionEntry D × ChildRelation D}
    (h : x ∈ Partitions.children parent s) : x.1 ∈ s.entries ∧ x.1.child = some x.2 := by
  obtain ⟨e, he, hc⟩ := List.mem_filterMap.1 h
  obtain ⟨c, hchild, rfl⟩ := Option.map_eq_some_iff.1 hc
  exact ⟨(List.mem_filter.1 ((List.mem_insertionSort _).1 he)).1, hchild⟩

lemma mem_activeChildren {x : PartitionEntry D × ChildRelation D} :
    x ∈ Partitions.activeChildren parent s ↔ x.1 ∈ s.entries ∧ x.1.parentRelid = parent ∧
      x.1.child = some x.2 ∧ x.1.status = .active := by
  unfold Partitions.activeChildren
  rw [List.mem_filter]
  constructor
  · rintro ⟨hx, hactive⟩
    obtain ⟨hmem, hchild⟩ := mem_children_parent hx
    exact ⟨hmem, parentRelid_of_mem_children hx, hchild, eq_of_beq hactive⟩
  · rintro ⟨hmem, hparent, hchild, hactive⟩
    refine ⟨List.mem_filterMap.2 ⟨x.1, ?_, ?_⟩, beq_iff_eq.2 hactive⟩
    · exact (List.mem_insertionSort _).2 (List.mem_filter.2 ⟨hmem, beq_iff_eq.2 hparent⟩)
    · rw [hchild]
      rfl

/-- The active partitions come in the order of their values. -/
lemma Placed.pairwise_activeChildren (h : Placed Rs s) (parent : ℤ) :
    ((Partitions.activeChildren parent s).map valueOf).Pairwise (· < ·) := by
  have hsorted : (Partitions.entriesOf parent s).Pairwise fun e f =>
      String.ofList e.partitionValue ≤ String.ofList f.partitionValue := by
    have : Std.Total fun e f : PartitionEntry D =>
        String.ofList e.partitionValue ≤ String.ofList f.partitionValue := ⟨fun _ _ => le_total _ _⟩
    have : IsTrans (PartitionEntry D) fun e f =>
        String.ofList e.partitionValue ≤ String.ofList f.partitionValue := ⟨fun _ _ _ => le_trans⟩
    exact List.pairwise_insertionSort _ _
  have hdistinct : (Partitions.entriesOf parent s).Pairwise fun e f =>
      e.partitionValue ≠ f.partitionValue := by
    have hperm : (Partitions.entriesOf parent s).Perm
        (s.entries.filter (·.parentRelid == parent)) := List.perm_insertionSort _ _
    refine (hperm.pairwise_iff fun {e f} hef => Ne.symm hef).2 ?_
    refine ((h.apart.filter _).imp_of_mem fun {e f} he hf hef hvalue => ?_)
    have hboth : e.parentRelid = f.parentRelid := by
      rw [eq_of_beq (List.mem_filter.1 he).2, eq_of_beq (List.mem_filter.1 hf).2]
    exact hef.key ⟨hboth, hvalue⟩
  have hstrict : (Partitions.entriesOf parent s).Pairwise fun e f =>
      String.ofList e.partitionValue < String.ofList f.partitionValue := by
    refine (hsorted.and hdistinct).imp fun {e f} hef => lt_of_le_of_ne hef.1 fun heq => hef.2 ?_
    rw [← String.toList_ofList (l := e.partitionValue), heq, String.toList_ofList]
  rw [List.pairwise_map]
  refine List.Pairwise.filter _ (List.pairwise_filterMap.2 (hstrict.imp fun {e f} hef x hx y hy => ?_))
  obtain ⟨c, -, rfl⟩ := Option.map_eq_some_iff.1 hx
  obtain ⟨d, -, rfl⟩ := Option.map_eq_some_iff.1 hy
  exact hef

lemma Placed.bin_of_activeChildren (h : Placed Rs s) {x : PartitionEntry D × ChildRelation D}
    (hx : x ∈ Partitions.activeChildren parent s) :
    binAt K parent x.1.partitionValue s = some (.shown (tableRows K x.2.relname s)) := by
  obtain ⟨hmem, rfl, hchild, hactive⟩ := mem_activeChildren.1 hx
  rw [h.binAt_of_mem hmem]
  unfold PartitionEntry.bin
  simp only [hchild, hactive, if_true]

/-- The keys that are shown are those of the active partitions. -/
lemma Placed.shownKeys_contents (h : Placed Rs s) (R : PartitionedRelation) :
    (contents K R s).shownKeys =
      {k | k ∈ (Partitions.activeChildren R.oid s).map valueOf} := by
  ext k
  rw [Set.mem_ofPred_eq, List.mem_map]
  constructor
  · rintro ⟨r, hr⟩
    obtain ⟨e, hentry, hbin⟩ := Option.map_eq_some_iff.1 hr
    obtain ⟨hmem, hparent, hvalue⟩ := h.entry_eq_some_iff.1 hentry
    unfold PartitionEntry.bin at hbin
    rcases hchild : e.child with _ | c
    · simp [hchild] at hbin
    · by_cases hactive : e.status = .active
      · refine ⟨(e, c), mem_activeChildren.2 ⟨hmem, hparent, hchild, hactive⟩, ?_⟩
        rw [valueOf, hvalue, String.ofList_toList]
      · simp [hchild, hactive] at hbin
  · rintro ⟨x, hx, rfl⟩
    refine ⟨tableRows K x.2.relname s, ?_⟩
    unfold contents valueOf
    rw [String.toList_ofList]
    exact h.bin_of_activeChildren hx

/-- Dropping the tables of some partitions leaves those of the others. -/
lemma Placed.findTable_eq (h : Placed Rs s) {xs : List (PartitionEntry D × ChildRelation D)}
    (hxs : ∀ x ∈ xs, x.1 ∈ s.entries ∧ x.1.child = some x.2)
    (htables : t.tables = s.tables.filter fun y => !xs.any fun x => sameIdentifier x.2.relname y.name)
    (he : e ∈ s.entries) (hne : ∀ x ∈ xs, e ≠ x.1) {c : ChildRelation D} (hc : e.child = some c) :
    Partitions.findTable c.relname t = Partitions.findTable c.relname s := by
  refine findTable_filter (fun y hy => ?_) htables
  rw [Bool.not_eq_true', List.any_eq_false]
  intro x hx hsame
  obtain ⟨hmem, hchild⟩ := hxs x hx
  have hother := (h.apart_of_ne hmem he (Ne.symm (hne x hx))).names x.2 c hchild hc
  have hboth : sameIdentifier x.2.relname c.relname = true :=
    sameIdentifier_eq_true_iff.2
      ((sameIdentifier_eq_true_iff.1 hsame).trans (sameIdentifier_eq_true_iff.1 hy).symm)
  rw [sameIdentifier_eq_false hother] at hboth
  cases hboth

lemma key_expired {parent : ℤ} {xs : List (PartitionEntry D × ChildRelation D)}
    (e : PartitionEntry D) : (expired parent xs e).parentRelid = e.parentRelid ∧
      (expired parent xs e).partitionValue = e.partitionValue := by
  unfold expired
  split_ifs <;> exact ⟨rfl, rfl⟩

/-- The partitions that expire are those with enough newer ones that are shown. -/
lemma Placed.exists_expired_iff (h : Placed Rs s) (R : PartitionedRelation) (n : ℕ) (k : String) :
    (∃ x ∈ (Partitions.activeChildren R.oid s).take
        ((Partitions.activeChildren R.oid s).length - n), x.1.partitionValue = k.toList) ↔
      k ∈ (contents K R s).shownKeys ∧
        n ≤ ((contents K R s).shownKeys ∩ {k' | k < k'}).ncard := by
  rw [h.shownKeys_contents]
  have htake := Bins.mem_take_iff (h.pairwise_activeChildren R.oid) (n := n) (k := k)
  rw [List.length_map, ← List.map_take] at htake
  rw [Set.mem_ofPred_eq, ← htake, List.mem_map]
  refine exists_congr fun x => and_congr_right fun _ => ?_
  unfold valueOf
  constructor
  · intro hvalue
    rw [hvalue, String.ofList_toList]
  · rintro rfl
    exact String.toList_ofList.symm

/-- What is left when some partitions have expired. -/
lemma Placed.contents_expired (h : Placed Rs s) {xs : List (PartitionEntry D × ChildRelation D)}
    {n : ℕ} (hentries : t.entries = s.entries.map (expired R.oid xs))
    (hfound : ∀ e ∈ s.entries,
      ¬ (e.parentRelid = R.oid ∧ ∃ x ∈ xs, x.1.partitionValue = e.partitionValue) →
      ∀ c, e.child = some c →
        Partitions.findTable c.relname t = Partitions.findTable c.relname s)
    (hxs : ∀ k : String, (∃ x ∈ xs, x.1.partitionValue = k.toList) ↔
      k ∈ (contents K R s).shownKeys ∧
        n ≤ ((contents K R s).shownKeys ∩ {k' | k < k'}).ncard) :
    contents K R t = (contents K R s).retain n := by
  funext k
  unfold Bins.retain
  by_cases hgone : ∃ x ∈ xs, x.1.partitionValue = k.toList
  · have hshown := (hxs k).1 hgone
    obtain ⟨r, hr⟩ := hshown.1
    obtain ⟨e, hentry, -⟩ := Option.map_eq_some_iff.1 hr
    obtain ⟨-, hparent, hvalue⟩ := h.entry_eq_some_iff.1 hentry
    rw [if_pos hshown]
    unfold contents binAt
    rw [entry_updateEntry key_expired hentries, hentry, Option.map_some,
      expired_of ⟨hparent, by rwa [hvalue]⟩]
    rfl
  · rw [if_neg fun hboth => hgone ((hxs k).2 hboth)]
    refine h.binAt_of_map_same key_expired hentries fun e he _ hvalue => ?_
    have hstays : ¬ (e.parentRelid = R.oid ∧ ∃ x ∈ xs, x.1.partitionValue = e.partitionValue) := by
      rw [hvalue]
      exact fun hboth => hgone hboth.2
    rw [expired_of_not hstays]
    exact ⟨rfl, rfl, hfound e he hstays⟩

/-- **Expiry** leaves the rows of as many of the newest partitions as are kept. -/
lemma placed_expireOldPartitions (h : Placed Rs s)
    (hrun : Runs (expireOldPartitions R : Eff (Partitions T D) PUnit) s u t) :
    Placed Rs t ∧ contents K R t = retained R (contents K R s) ∧
      ∀ p w, p ≠ R.oid → binAt K p w t = binAt K p w s := by
  simp only [expireOldPartitions, runs_ite, runs_asks_bind] at hrun
  rcases hrun with ⟨hall, hrun⟩ | ⟨hsome, hrun⟩
  · rw [(runs_pure.1 hrun).2]
    refine ⟨h, ?_, fun _ _ _ => rfl⟩
    unfold retained
    rw [if_pos hall]
  obtain ⟨hentries, htables⟩ := runs_forM_expirePartition hrun
  set xs := (Partitions.activeChildren R.oid s).take
    ((Partitions.activeChildren R.oid s).length - R.retentionCount.toNat)
  have hxs : ∀ x ∈ xs, x.1 ∈ s.entries ∧ x.1.child = some x.2 := fun x hx => by
    obtain ⟨hmem, -, hchild, -⟩ := mem_activeChildren.1 (List.mem_of_mem_take hx)
    exact ⟨hmem, hchild⟩
  -- a partition that stays has its table
  have hfound (e : PartitionEntry D) (he : e ∈ s.entries)
      (hstays : ¬ (e.parentRelid = R.oid ∧ ∃ x ∈ xs, x.1.partitionValue = e.partitionValue))
      (c : ChildRelation D) (hc : e.child = some c) :
      Partitions.findTable c.relname t = Partitions.findTable c.relname s := by
    refine h.findTable_eq hxs htables he ?_ hc
    rintro x hx rfl
    exact hstays ⟨(mem_activeChildren.1 (List.mem_of_mem_take hx)).2.1, x, hx, rfl⟩
  refine ⟨h.of_map hentries key_expired (fun e c hc => ?_) (fun e he => ?_) fun e he c hc => ?_, ?_,
    fun p w hp => ?_⟩
  · unfold expired at hc
    split_ifs at hc
    exact ⟨c, hc, rfl⟩
  · unfold expired
    split_ifs
    · exact Or.inr ⟨rfl, rfl⟩
    · exact h.status e he
  · unfold expired at hc
    split_ifs at hc with hstays
    rw [hfound e he hstays c hc]
    exact h.tables e he c hc
  · unfold retained
    rw [if_neg hsome]
    exact h.contents_expired hentries hfound (h.exists_expired_iff R _)
  · refine h.binAt_of_map_same key_expired hentries fun e he hparent _ => ?_
    have hstays : ¬ (e.parentRelid = R.oid ∧
        ∃ x ∈ xs, x.1.partitionValue = e.partitionValue) :=
      fun hboth => hp (hparent.symm.trans hboth.1)
    rw [expired_of_not hstays]
    exact ⟨rfl, rfl, hfound e he hstays⟩

/-! ### Out of use, and in use again -/

/-- A partition whose rows are shown or put aside. -/
lemma placed_setStatus (h : Placed Rs s) {status childStatus : Status}
    (hstatus : status = .active ∨ status = .failed)
    (hchild : ∀ e, Partitions.entry R.oid value s = some e → e.child.isSome)
    (ht : t = Partitions.updateEntry R.oid value (fun row => { row with
      status := status, child := row.child.map fun c => { c with status := childStatus } }) s) :
    Placed Rs t ∧ binAt K R.oid value t = (binAt K R.oid value s).map (fun x =>
        if status = .active then .shown x.rows else .aside x.rows) ∧
      ∀ p w, ¬ (p = R.oid ∧ w = value) → binAt K p w t = binAt K p w s := by
  let f (e : PartitionEntry D) : PartitionEntry D :=
    { e with status := status, child := e.child.map fun c => { c with status := childStatus } }
  have hentries : t.entries = s.entries.map (changed R.oid value f) := by
    rw [ht]
    rfl
  have htables (n : List Char) : Partitions.findTable n t = Partitions.findTable n s := by
    rw [ht]
    rfl
  have hkey := key_changed R.oid value (f := f) fun _ => ⟨rfl, rfl⟩
  have hcases := changed_cases R.oid value f
  have hname (e : PartitionEntry D) (c : ChildRelation D)
      (hc : (changed R.oid value f e).child = some c) :
      ∃ d, e.child = some d ∧ c.relname = d.relname := by
    rcases hcases e with ⟨-, -, hge⟩ | ⟨-, hge⟩ <;> rw [hge] at hc
    · obtain ⟨d, hd, rfl⟩ := Option.map_eq_some_iff.1 hc
      exact ⟨d, hd, rfl⟩
    · exact ⟨c, hc, rfl⟩
  refine ⟨h.of_map hentries hkey hname (fun e he => ?_) fun e he c hc => ?_, ?_, fun p w hne => ?_⟩
  · rcases hcases e with ⟨hparent, hvalue, hge⟩ | ⟨-, hge⟩ <;> rw [hge]
    · have hsome := hchild e (h.entry_eq_some_iff.2 ⟨he, hparent, hvalue⟩)
      exact Or.inl ⟨by rwa [Option.isSome_map], hstatus⟩
    · exact h.status e he
  · obtain ⟨d, hd, hsame⟩ := hname e c hc
    rw [hsame, htables]
    exact h.tables e he d hd
  · rw [binAt_of_map hkey hentries]
    unfold binAt
    rcases hentry : Partitions.entry R.oid value s with _ | e
    · rfl
    · obtain ⟨he, hparent, hvalue⟩ := h.entry_eq_some_iff.1 hentry
      obtain ⟨c, hc⟩ := Option.isSome_iff_exists.1 (hchild e hentry)
      rcases hcases e with ⟨-, -, hge⟩ | ⟨hnot, -⟩
      · rw [Option.map_some, Option.map_some, Option.map_some, hge]
        unfold PartitionEntry.bin tableRows
        simp only [f, hc, htables, Option.map_some]
        split_ifs <;> rfl
      · exact absurd ⟨hparent, hvalue⟩ hnot
  · exact h.binAt_changed_of_ne (f := f) (fun _ => ⟨rfl, rfl⟩) hentries
      (fun n c hn => (htables n).trans hn) hne

/-- The row of a partition gets a child, whose name is free. -/
lemma Placed.of_new_child (hoid : Set.InjOn PartitionedRelation.oid Rs) (h : Placed Rs s)
    (hR : R ∈ Rs) (hname : lowercase name = lowercase R.name) {c : ChildRelation D}
    (hc : c.relname = physicalPartitionName name value)
    (hfree : Partitions.relationExists c.relname s = false)
    (hentries : t.entries = s.entries.map
      (changed R.oid value fun e => { e with status := .active, child := some c }))
    (hkeep : ∀ m d, Partitions.findTable m s = some d → Partitions.findTable m t = some d)
    (htable : (Partitions.findTable c.relname t).isSome) : Placed Rs t := by
  have hfree := relationExists_eq_false_iff.1 hfree
  have hcases := changed_cases R.oid value fun e : PartitionEntry D =>
    { e with status := .active, child := some c }
  refine ⟨?_, ?_, ?_, ?_⟩
  · rw [hentries, List.pairwise_map]
    refine h.apart.imp_of_mem fun {e f} he hf hef => ?_
    rcases hcases e with ⟨hp, hv, hge⟩ | ⟨-, hge⟩ <;>
      rcases hcases f with ⟨hp', hv', hgf⟩ | ⟨-, hgf⟩
    · exact absurd ⟨hp.trans hp'.symm, hv.trans hv'.symm⟩ hef.key
    · rw [hge, hgf]
      refine ⟨hef.key, fun c' d hc' hd => ?_⟩
      obtain rfl := Option.some.inj hc'
      exact hfree f hf d hd
    · rw [hge, hgf]
      refine ⟨hef.key, fun c' d hc' hd => ?_⟩
      obtain rfl := Option.some.inj hd
      rw [sameName_comm]
      exact hfree e he c' hc'
    · rwa [hge, hgf]
  · rw [hentries, List.forall_mem_map]
    intro e he
    rcases hcases e with ⟨hp, rfl, hge⟩ | ⟨-, hge⟩ <;> rw [hge]
    · refine namedBy_new hoid hR hname hp fun c' hc' => ?_
      obtain rfl := Option.some.inj hc'
      exact hc
    · exact h.named e he
  · rw [hentries, List.forall_mem_map]
    intro e he
    rcases hcases e with ⟨-, -, hge⟩ | ⟨-, hge⟩ <;> rw [hge]
    · exact Or.inl ⟨rfl, Or.inl rfl⟩
    · exact h.status e he
  · rw [hentries, List.forall_mem_map]
    intro e he c' hc'
    rcases hcases e with ⟨-, -, hge⟩ | ⟨-, hge⟩ <;> rw [hge] at hc'
    · obtain rfl := Option.some.inj hc'
      exact htable
    · obtain ⟨content, hfound⟩ := Option.isSome_iff_exists.1 (h.tables e he c' hc')
      rw [hkeep _ _ hfound]
      rfl

/-- A partition that has no table any more gets one without rows. -/
lemma placed_recreatePartition (hoid : Set.InjOn PartitionedRelation.oid Rs) (h : Placed Rs s)
    (hR : R ∈ Rs) (hname : lowercase name = lowercase R.name)
    (hfree : Partitions.relationExists (physicalPartitionName name value) s = false)
    (hentry : Partitions.entry R.oid value s = some e) {s₁ : Partitions T D}
    (hrun : Runs (recreatePartition E { R with name := name } value) s u s₁)
    (ht : t = Partitions.updateEntry R.oid value (fun row => { row with
      status := .active, child := row.child.map fun c => { c with status := .active } }) s₁) :
    Placed Rs t ∧ binAt K R.oid value t = some (.shown 0) ∧
      ∀ p w, ¬ (p = R.oid ∧ w = value) → binAt K p w t = binAt K p w s := by
  obtain ⟨childOid, s₂, halloc, hrun⟩ := runs_bind.1 hrun
  obtain ⟨content, hcontent, hrun⟩ := runs_fromExcept_bind.1 hrun
  obtain ⟨_, s₃, hcreate, hrun⟩ := runs_bind.1 hrun
  rw [runs_modify_bind] at hrun
  obtain ⟨-, -, hindexes⟩ := runs_fromExcept_bind.1 hrun
  obtain ⟨hentries₂, htables₂⟩ := Prod.mk.inj (keeps_allocateOid _ _ _ halloc)
  obtain ⟨hentries₃, hnew, hother⟩ := findTable_createTable (runs_mapError.1 hcreate)
  obtain ⟨hentries₄, htables₄⟩ := Prod.mk.inj (keeps_createPartitionIndexes _ _ _ _ _ hindexes)
  -- the row gets its child and its status
  let c : ChildRelation D := ⟨physicalPartitionName name value, .active, E.loadColumns content⟩
  let f (e : PartitionEntry D) : PartitionEntry D := { e with status := .active, child := some c }
  have hentries : t.entries = s.entries.map (changed R.oid value f) := by
    rw [ht]
    unfold Partitions.updateEntry
    simp only [hentries₄]
    unfold Partitions.updateEntry
    simp only [hentries₃, hentries₂, List.map_map]
    refine List.map_congr_left fun e _ => ?_
    simp only [Function.comp_apply, changed, f, c]
    split_ifs <;> simp_all
  have htable : Partitions.findTable c.relname t = some content := by
    rw [ht]
    change Partitions.findTable c.relname s₁ = _
    rw [findTable_of_tables htables₄]
    exact hnew
  have hkeep (n : List Char) (content' : T) (hn : Partitions.findTable n s = some content') :
      Partitions.findTable n t = some content' := by
    rw [ht]
    change Partitions.findTable n s₁ = _
    rw [findTable_of_tables htables₄]
    exact hother n content' (by rwa [findTable_of_tables htables₂])
  have hkey (e : PartitionEntry D) :
      (f e).parentRelid = e.parentRelid ∧ (f e).partitionValue = e.partitionValue := ⟨rfl, rfl⟩
  have hthere : Partitions.entry R.oid value t = some (f e) := by
    obtain ⟨-, hparent, hvalue⟩ := h.entry_eq_some_iff.1 hentry
    rw [entry_updateEntry (key_changed R.oid value hkey) hentries, hentry, Option.map_some]
    rcases changed_cases R.oid value f e with ⟨-, -, hthis⟩ | ⟨hnot, -⟩
    · rw [hthis]
    · exact absurd ⟨hparent, hvalue⟩ hnot
  refine ⟨h.of_new_child hoid hR hname rfl hfree hentries hkeep (by rw [htable]; rfl), ?_,
    fun p w hne => h.binAt_changed_of_ne hkey hentries hkeep hne⟩
  rw [binAt_of_active (K := K) hthere rfl rfl htable, K.created _ _ hcontent]

/-- **A repair** shows the rows again that a partition has kept. -/
lemma placed_repairEntry (hoid : Set.InjOn PartitionedRelation.oid Rs) (h : Placed Rs s)
    (hR : R ∈ Rs) (hname : lowercase name = lowercase R.name)
    (hentry : Partitions.entry R.oid value s = some e)
    (hrun : Runs (repairEntry E { R with name := name } value e) s u t) :
    Placed Rs t ∧
      binAt K R.oid value t = (binAt K R.oid value s).map (fun x => .shown x.rows) ∧
      ∀ p w, ¬ (p = R.oid ∧ w = value) → binAt K p w t = binAt K p w s := by
  obtain ⟨hmem, hparent, hvalue⟩ := h.entry_eq_some_iff.1 hentry
  have hbin : binAt K R.oid value s = some (e.bin K s) := by
    unfold binAt
    rw [hentry]
    rfl
  unfold repairEntry at hrun
  split at hrun
  -- an active partition is only looked at
  case h_1 child hactive hchild =>
    have hsame := keeps_validateTablePhysical _ _ _ _ hrun
    refine ⟨h.of_same hsame, ?_, fun p w _ => binAt_of_same hsame⟩
    rw [binAt_of_same hsame, hbin, Option.map_some]
    unfold PartitionEntry.bin
    simp only [hactive, hchild, if_true, Bin.rows]
  case h_2 hactive hchild =>
    rcases h.status e hmem with ⟨hsome, -⟩ | ⟨-, hdropped⟩
    · rw [hchild] at hsome
      cases hsome
    · rw [hactive] at hdropped
      cases hdropped
  case h_3 =>
    simp only [repairNonActivePartition, runs_asks_bind] at hrun
    split_ifs at hrun with hthere
    · obtain ⟨_, s₁, hvalid, hactivate⟩ := runs_bind.1 hrun
      rcases hchild : e.child with _ | c
      · simp [hchild, validatePartition] at hvalid
      · rw [hchild] at hvalid
        have hsame := keeps_validateTablePhysical _ _ _ _ hvalid
        have hentry₁ : Partitions.entry R.oid value s₁ = some e := by
          unfold Partitions.entry
          rw [(Prod.mk.inj hsame).1]
          exact hentry
        obtain ⟨hplaced, hown, hothers⟩ := placed_setStatus (K := K) (h.of_same hsame)
          (Or.inl rfl) (fun f hf => by
            obtain rfl := Option.some.inj (hentry₁.symm.trans hf)
            rw [hchild]
            rfl) (runs_modify.1 hactivate)
        refine ⟨hplaced, ?_, fun p w hne => ?_⟩
        · rw [hown, binAt_of_same hsame]
          rfl
        · rw [hothers p w hne, binAt_of_same hsame]
    · obtain ⟨_, s₁, hrecreate, hactivate⟩ := runs_bind.1 hrun
      have hfree : Partitions.relationExists (physicalPartitionName name value) s = false := by
        simpa using hthere
      -- no table has its name, so its rows are gone
      have hnone : e.child = none := by
        rcases hchild : e.child with _ | c
        · rfl
        · have hdifferent := relationExists_eq_false_iff.1 hfree e hmem c hchild
          have hsame : sameName (physicalPartitionName name value) c.relname = true := by
            rw [sameName_eq_true_iff, h.named e hmem R hR hparent c hchild, hvalue]
            exact sameName_physicalPartitionName value hname
          rw [hdifferent] at hsame
          cases hsame
      obtain ⟨hplaced, hown, hothers⟩ := placed_recreatePartition (K := K) hoid h hR hname hfree
        hentry hrecreate (runs_modify.1 hactivate)
      refine ⟨hplaced, ?_, hothers⟩
      rw [hown, hbin, Option.map_some]
      unfold PartitionEntry.bin
      simp only [hnone, Bin.rows]

/-- A relation goes with its partitions and their tables. -/
lemma placed_dropPartitionedRelation (h : Placed Rs s)
    (hrun : Runs (dropPartitionedRelation R : Eff (Partitions T D) PUnit) s u t) :
    Placed Rs t ∧ (∀ w, Partitions.entry R.oid w t = none) ∧
      ∀ p w, p ≠ R.oid → binAt K p w t = binAt K p w s := by
  simp only [dropPartitionedRelation, runs_asks_bind, runs_modify_bind] at hrun
  obtain ⟨_, s₁, hdrop, hdelete⟩ := runs_bind.1 hrun
  obtain ⟨hentries, htables⟩ := runs_forM_dropTable hdrop
  have hentries' : t.entries = s.entries.filter (·.parentRelid != R.oid) := by
    rw [runs_modify.1 hdelete]
    exact congrArg _ hentries
  have htables' : t.tables = s.tables.filter fun y =>
      !(Partitions.children R.oid s).any fun x => sameIdentifier x.2.relname y.name := by
    rw [runs_modify.1 hdelete]
    exact htables
  have hmem (e : PartitionEntry D) (he : e ∈ t.entries) :
      e ∈ s.entries ∧ e.parentRelid ≠ R.oid := by
    rw [hentries'] at he
    simpa using he
  have hfound (e : PartitionEntry D) (he : e ∈ s.entries) (hother : e.parentRelid ≠ R.oid)
      (c : ChildRelation D) (hc : e.child = some c) :
      Partitions.findTable c.relname t = Partitions.findTable c.relname s := by
    refine h.findTable_eq (fun x hx => mem_children_parent hx) htables' he ?_ hc
    rintro x hx rfl
    exact hother (parentRelid_of_mem_children hx)
  refine ⟨⟨?_, fun e he => h.named e (hmem e he).1, fun e he => h.status e (hmem e he).1,
    fun e he c hc => ?_⟩, fun w => ?_, fun p w hp => ?_⟩
  · rw [hentries']
    exact h.apart.filter _
  · obtain ⟨hes, hother⟩ := hmem e he
    rw [hfound e hes hother c hc]
    exact h.tables e hes c hc
  · refine List.find?_eq_none.2 fun e he hkey => (hmem e he).2 ?_
    rw [Bool.and_eq_true] at hkey
    exact eq_of_beq hkey.1
  · have hentry : Partitions.entry p w t = Partitions.entry p w s := by
      unfold Partitions.entry
      rw [hentries', List.find?_filter]
      refine congrArg (s.entries.find? ·) (funext fun e => ?_)
      rw [Bool.eq_iff_iff]
      simp only [decide_eq_true_eq, Bool.and_eq_true, bne_iff_ne, beq_iff_eq]
      refine ⟨fun hboth => hboth.2, fun hkey => ⟨?_, hkey⟩⟩
      rw [hkey.1]
      exact hp
    unfold binAt
    rw [hentry]
    rcases hw : Partitions.entry p w s with _ | e
    · rfl
    · obtain ⟨he, hparent, -⟩ := h.entry_eq_some_iff.1 hw
      exact congrArg some (bin_congr rfl rfl (hfound e he (hparent ▸ hp)))

/-! ### Statements -/

lemma retained_finitelyMany {b : Bins String B} (h : b.FinitelyMany) :
    (retained R b).FinitelyMany := by
  unfold retained
  split_ifs
  · exact h
  · exact h.retain _

lemma finitelyMany_effect {b : Bins String B} (h : b.FinitelyMany) (op : PartitionOp B) :
    (op.effect R b).FinitelyMany := by
  cases op with
  | insert rows => exact retained_finitelyMany (h.put _)
  | maintain => exact retained_finitelyMany h
  | markUnavailable value => exact h.setAside _
  | repair value => exact h.restore _
  | createIndex spec => exact h
  | drop => exact Bins.finitelyMany_empty

/-- The view is made anew over the tables of the active partitions. -/
lemma runs_refreshPartitionEntrypoint
    (hrun : Runs (refreshPartitionEntrypoint E R) s u t) :
    viewTables R t = (Partitions.activeChildren R.oid t).map (·.2.relname) := by
  have hsame := keeps_refreshPartitionEntrypoint _ _ _ _ hrun
  simp only [refreshPartitionEntrypoint, runs_asks_bind] at hrun
  obtain ⟨contents, s', -, hrun⟩ := runs_bind.1 hrun
  simp only [runs_fromExcept_bind, runs_modify] at hrun
  obtain ⟨-, -, ht⟩ := hrun
  have hactive : Partitions.activeChildren R.oid t = Partitions.activeChildren R.oid s := by
    unfold Partitions.activeChildren Partitions.children Partitions.entriesOf
    rw [(Prod.mk.inj hsame).1]
  have hnone : (s'.entrypoints.filter fun x => x.1 != R.oid).find? (fun x => x.1 == R.oid) =
      none := by
    refine List.find?_eq_none.2 fun x hx => ?_
    simpa using (List.mem_filter.1 hx).2
  rw [hactive]
  unfold viewTables
  rw [ht]
  simp only [List.find?_append, hnone, Option.none_or]
  simp

lemma entrypoints_createIndexOnPartitions {spec : PartitionIndexSpec}
    (hrun : Runs (createIndexOnPartitions E R spec) s u t) : t.entrypoints = s.entrypoints := by
  have hcontent (n : List Char) :
      Keeps (Same Partitions.entrypoints) (tableContent n : Eff (Partitions T D) T) := by
    refine keeps_bind (keeps_asks _) fun found => ?_
    rcases found with _ | content
    · exact keeps_throw _
    · exact keeps_pure _
  have hindex (child : List Char) :
      Keeps (Same Partitions.entrypoints) (createPartitionIndex E spec child) :=
    keeps_bind (keeps_asks _) fun _ => keeps_ite (keeps_pure _) <| keeps_mapError <|
      keeps_bind (hcontent _) fun _ => keeps_bind (keeps_asks _) fun _ =>
        keeps_bind (keeps_ensure _ _) fun _ => keeps_bind (keeps_fromExcept _) fun _ =>
          keeps_modify_of fun _ => rfl
  have hkeeps : Keeps (Same Partitions.entrypoints) (createIndexOnPartitions E R spec) :=
    keeps_bind (keeps_asks _) fun _ => keeps_bind (keeps_forM fun c _ => hindex _) fun _ =>
      keeps_modify_of fun _ => rfl
  exact hkeeps _ _ _ hrun

lemma viewTables_dropPartitionedRelation
    (hrun : Runs (dropPartitionedRelation R : Eff (Partitions T D) PUnit) s u t) :
    viewTables R t = [] := by
  simp only [dropPartitionedRelation, runs_asks_bind, runs_modify_bind] at hrun
  obtain ⟨_, s₁, hdrop, hdelete⟩ := runs_bind.1 hrun
  have hkeeps : Keeps (Same Partitions.entrypoints)
      ((Partitions.children R.oid s).forM fun c =>
        mapError (fun e => "execute DuckDB DROP physical partition rsduck_internal." ++
          String.ofList c.2.relname ++ " failed: " ++ e)
          (dropTable c.2.relname : Eff (Partitions T D) PUnit)) :=
    keeps_forM fun c _ => keeps_mapError <| keeps_bind (keeps_asks _) fun _ =>
      keeps_bind (keeps_ensure _ _) fun _ => keeps_modify_of fun _ => rfl
  have hviews : t.entrypoints = s.entrypoints.filter (·.1 != R.oid) := by
    rw [runs_modify.1 hdelete]
    exact hkeeps _ _ _ hdrop
  have hnone : t.entrypoints.find? (fun x => x.1 == R.oid) = none := by
    rw [hviews]
    refine List.find?_eq_none.2 fun x hx => ?_
    simpa using (List.mem_filter.1 hx).2
  unfold viewTables
  rw [hnone]
  rfl

/-- The state of an insert before its view is made anew. -/
lemma placed_insertGroups (hoid : Set.InjOn PartitionedRelation.oid Rs) (h : Placed Rs s)
    (hR : R ∈ Rs) (hname : lowercase name = lowercase R.name)
    {rows : List (DateTime × B)}
    (hrun : Runs ((partitionInsertGroups R.partitionUnit rows).forM
      (insertPartitionGroup E { R with name := name })) s u t) :
    Placed Rs t ∧ contents K R t = (contents K R s).put (routed R.partitionUnit rows) ∧
      (contents K R s).Accepts (routed R.partitionUnit rows) ∧
      ∀ p w, p ≠ R.oid → binAt K p w t = binAt K p w s := by
  have hgrouping := areGroupsOf_partitionInsertGroups R.partitionUnit rows
  obtain ⟨ht, hothers, hgroups⟩ := placed_forM_groups (K := K) hoid hR hname hgrouping.nodup h hrun
  obtain ⟨hput, haccepts⟩ := contents_put hgrouping
    (fun w hw => hothers R.oid w fun hboth => hw hboth.2) hgroups
  exact ⟨ht, hput, haccepts, fun p w hp => hothers p w fun hboth => hp hboth.1⟩

lemma contents_of_same (hsame : rowsAndTables t = rowsAndTables s) :
    contents K R t = contents K R s :=
  funext fun _ => binAt_of_same hsame

lemma contents_update {b : Option (Bin B)} (hown : binAt K R.oid value t = b)
    (hothers : ∀ p w, ¬ (p = R.oid ∧ w = value) → binAt K p w t = binAt K p w s) (k : String) :
    contents K R t k = if k = String.ofList value then b else contents K R s k := by
  by_cases hk : k = String.ofList value
  · rw [if_pos hk, hk, ← hown]
    unfold contents
    rw [String.toList_ofList]
  · rw [if_neg hk]
    refine hothers _ _ fun hboth => hk ?_
    rw [← hboth.2, String.ofList_toList]

/-- What an insert that succeeds was given: rows for partitions that are new or active. -/
def PartitionOp.IsAccepted (R : PartitionedRelation) (op : PartitionOp B) (b : Bins String B) :
    Prop :=
  match op with
  | .insert rows => b.Accepts (routed R.partitionUnit rows)
  | _ => True

/-- **A statement that succeeds** does to what its table holds what it says, and nothing to what the
others hold. -/
lemma placed_performPartitionOp (hoid : Set.InjOn PartitionedRelation.oid Rs) (h : Placed Rs s)
    (hR : R ∈ Rs) (hname : lowercase name = lowercase R.name) (op : PartitionOp B)
    (hview : viewTables R s = (Partitions.activeChildren R.oid s).map (·.2.relname))
    (hrun : Runs (performPartitionOp E { R with name := name } op) s u t) :
    Placed Rs t ∧ contents K R t = op.effect R (contents K R s) ∧
      op.IsAccepted R (contents K R s) ∧
      (∀ p w, p ≠ R.oid → binAt K p w t = binAt K p w s) ∧
      viewTables R t = (Partitions.activeChildren R.oid t).map (·.2.relname) := by
  cases op with
  | insert rows =>
    obtain ⟨_, s₁, hgroups, hrun⟩ := runs_bind.1 hrun
    obtain ⟨_, s₂, hexpire, hrefresh⟩ := runs_bind.1 hrun
    obtain ⟨h₁, hput, haccepts, hothers₁⟩ := placed_insertGroups (K := K) hoid h hR hname hgroups
    obtain ⟨h₂, hretained, hothers₂⟩ := placed_expireOldPartitions (K := K) h₁ hexpire
    have hsame := keeps_refreshPartitionEntrypoint _ _ _ _ hrefresh
    refine ⟨h₂.of_same hsame, ?_, haccepts, fun p w hp => ?_,
      runs_refreshPartitionEntrypoint hrefresh⟩
    · rw [contents_of_same hsame]
      exact hretained.trans (congrArg (retained R) hput)
    · rw [binAt_of_same hsame, hothers₂ p w hp, hothers₁ p w hp]
  | maintain =>
    obtain ⟨_, s₁, hexpire, hrefresh⟩ := runs_bind.1 hrun
    obtain ⟨h₁, hretained, hothers⟩ := placed_expireOldPartitions (K := K) h hexpire
    have hsame := keeps_refreshPartitionEntrypoint _ _ _ _ hrefresh
    refine ⟨h₁.of_same hsame, ?_, trivial, fun p w hp => ?_,
      runs_refreshPartitionEntrypoint hrefresh⟩
    · rw [contents_of_same hsame]
      exact hretained
    · rw [binAt_of_same hsame, hothers p w hp]
  | markUnavailable value =>
    simp only [performPartitionOp, markPartitionUnavailable, runs_asks_bind] at hrun
    rcases hchild : (Partitions.entry R.oid value s).bind (·.child) with _ | c
    · simp [hchild] at hrun
    · simp only [hchild, runs_modify_bind] at hrun
      obtain ⟨e, hentry, hc⟩ := Option.bind_eq_some_iff.1 hchild
      obtain ⟨h₁, hown, hothers⟩ := placed_setStatus (K := K) h (Or.inr rfl) (fun f hf => by
        obtain rfl := Option.some.inj (hentry.symm.trans hf)
        rw [hc]
        rfl) rfl
      have hsame := keeps_refreshPartitionEntrypoint _ _ _ _ hrun
      refine ⟨h₁.of_same hsame, ?_, trivial, fun p w hp => ?_,
        runs_refreshPartitionEntrypoint hrun⟩
      · rw [contents_of_same hsame]
        funext k
        rw [contents_update hown hothers]
        change _ = Bins.setAside (String.ofList value) (contents K R s) k
        rw [Bins.setAside_apply]
        unfold contents
        rw [String.toList_ofList]
        rfl
      · rw [binAt_of_same hsame]
        exact hothers p w fun hboth => hp hboth.1
  | repair value =>
    simp only [performPartitionOp, repairPartition, runs_asks_bind] at hrun
    rcases hentry : Partitions.entry R.oid value s with _ | e
    · simp [hentry] at hrun
    · rw [hentry] at hrun
      obtain ⟨_, s₁, hrepair, hrefresh⟩ := runs_bind.1 hrun
      obtain ⟨h₁, hown, hothers⟩ := placed_repairEntry (K := K) hoid h hR hname hentry hrepair
      have hsame := keeps_refreshPartitionEntrypoint _ _ _ _ hrefresh
      refine ⟨h₁.of_same hsame, ?_, trivial, fun p w hp => ?_,
        runs_refreshPartitionEntrypoint hrefresh⟩
      · rw [contents_of_same hsame]
        funext k
        rw [contents_update hown hothers]
        change _ = Bins.restore (String.ofList value) (contents K R s) k
        rw [Bins.restore_apply]
        unfold contents
        rw [String.toList_ofList]
      · rw [binAt_of_same hsame]
        exact hothers p w fun hboth => hp hboth.1
  | createIndex spec =>
    have hsame := keeps_createIndexOnPartitions spec _ _ _ hrun
    refine ⟨h.of_same hsame, contents_of_same hsame, trivial, fun p w _ => binAt_of_same hsame, ?_⟩
    have hactive : Partitions.activeChildren R.oid t = Partitions.activeChildren R.oid s := by
      unfold Partitions.activeChildren Partitions.children Partitions.entriesOf
      rw [(Prod.mk.inj hsame).1]
    have hviews := entrypoints_createIndexOnPartitions hrun
    rw [hactive, ← hview]
    unfold viewTables
    rw [hviews]
  | drop =>
    obtain ⟨h₁, hnone, hothers⟩ := placed_dropPartitionedRelation (K := K) h hrun
    have hempty : Partitions.activeChildren R.oid t = [] := by
      refine List.eq_nil_iff_forall_not_mem.2 fun x hx => ?_
      obtain ⟨hmem, hparent, -, -⟩ := mem_activeChildren.1 hx
      have hentry := h₁.entry_eq_some_iff.2 ⟨hmem, hparent, rfl⟩
      rw [hnone] at hentry
      cases hentry
    refine ⟨h₁, funext fun k => binAt_eq_none (hnone _), trivial, hothers, ?_⟩
    rw [hempty]
    exact viewTables_dropPartitionedRelation hrun

/-! ### Runs -/

/-- The rows and the tables are in their places, and each view is over the tables of the active
partitions. -/
structure Held (Rs : Set PartitionedRelation) (s : Partitions T D) : Prop where
  placed : Placed Rs s
  views : ∀ R ∈ Rs, viewTables R s = (Partitions.activeChildren R.oid s).map (·.2.relname)

lemma held_start (nextOid : ℤ) : Held Rs ({ nextOid := nextOid } : Partitions T D) := by
  refine ⟨⟨List.Pairwise.nil, ?_, ?_, ?_⟩, fun R _ => rfl⟩ <;>
    exact fun e he => absurd he List.not_mem_nil

lemma finitelyMany_contents (R : PartitionedRelation) (s : Partitions T D) :
    (contents K R s).FinitelyMany := by
  refine (List.finite_toSet (s.entries.map fun e => String.ofList e.partitionValue)).subset ?_
  intro k hk
  rcases hentry : Partitions.entry R.oid k.toList s with _ | e
  · exact absurd (binAt_eq_none hentry) hk
  · have hkey := List.find?_some hentry
    rw [Bool.and_eq_true] at hkey
    refine List.mem_map.2 ⟨e, List.mem_of_find?_eq_some hentry, ?_⟩
    rw [eq_of_beq hkey.2, String.ofList_toList]

/-- **The view** shows the rows of the partitions that are shown. -/
lemma Held.viewRows_eq (h : Held Rs s) (hR : R ∈ Rs) :
    viewRows K R s = (contents K R s).visible := by
  have hnodup : ((Partitions.activeChildren R.oid s).map valueOf).Nodup :=
    (h.placed.pairwise_activeChildren R.oid).imp ne_of_lt
  have hsum := Bins.visible_eq_sum (b := contents K R s) hnodup fun k hk =>
    Bins.visibleAt_eq_zero (by rwa [h.placed.shownKeys_contents])
  rw [hsum]
  unfold viewRows
  rw [h.views R hR, List.map_map, List.map_map]
  congr 1
  refine List.map_congr_left fun x hx => ?_
  have hbin := h.placed.bin_of_activeChildren (K := K) hx
  simp only [Function.comp_apply, Bins.visibleAt, contents, valueOf, String.toList_ofList, hbin,
    Option.elim_some, Bin.visible]

/-- What there is of a relation that a statement leaves alone. -/
lemma views_of_besides {R' : PartitionedRelation} (hne : R'.oid ≠ R.oid)
    (h : besides R.oid t = besides R.oid s) : viewTables R' t = viewTables R' s ∧
      Partitions.activeChildren R'.oid t = Partitions.activeChildren R'.oid s := by
  obtain ⟨hentries, hviews⟩ := Prod.mk.inj h
  have hparent (oid : ℤ) (hoid : (oid == R'.oid) = true) : (oid != R.oid) = true := by
    rw [eq_of_beq hoid]
    simpa using hne
  constructor
  · have hfind (u : Partitions T D) : u.entrypoints.find? (fun x => x.1 == R'.oid) =
        (u.entrypoints.filter fun x => x.1 != R.oid).find? fun x => x.1 == R'.oid :=
      (find_filter fun x hx => hparent x.1 hx).symm
    unfold viewTables
    rw [hfind t, hfind s, hviews]
  · have hfilter (u : Partitions T D) : (u.entries.filter fun e => e.parentRelid == R'.oid) =
        (u.entries.filter fun e => e.parentRelid != R.oid).filter fun e =>
          e.parentRelid == R'.oid :=
      (filter_filter_of fun e _ he => hparent e.parentRelid he).symm
    unfold Partitions.activeChildren Partitions.children Partitions.entriesOf
    rw [hfilter t, hfilter s, hentries]

/-- **A statement**, whether it succeeds or not. -/
lemma Held.step (hoid : Set.InjOn PartitionedRelation.oid Rs) (h : Held Rs s)
    {x : PartitionStatement B} (hx : x.Proper Rs) :
    Held Rs (x.after E s) ∧
      (∀ R ∈ Rs, x.relation ≠ R → contents K R (x.after E s) = contents K R s) ∧
      (x.outcome E s = .ok ⟨⟩ → x.op.IsAccepted x.relation (contents K x.relation s) ∧
        contents K x.relation (x.after E s) = x.op.effect x.relation (contents K x.relation s)) ∧
      (x.outcome E s ≠ .ok ⟨⟩ → x.after E s = s) := by
  obtain ⟨R, name, op⟩ := x
  obtain ⟨hR, hname, -⟩ := hx
  unfold PartitionStatement.after
  rcases hout : PartitionStatement.outcome E ⟨R, name, op⟩ s with error | u
  · refine ⟨h, fun _ _ _ => rfl, fun hok => ?_, fun _ => rfl⟩
    cases hok
  · have hrun : Runs (performPartitionOp E { R with name := name } op) s u
        (exec (PartitionStatement.perform E ⟨R, name, op⟩) s).2 := Prod.ext hout rfl
    set t := (exec (PartitionStatement.perform E ⟨R, name, op⟩) s).2 with htdef
    obtain ⟨ht, heffect, haccepted, hothers, hview⟩ :=
      placed_performPartitionOp (K := K) hoid h.placed hR hname op (h.views R hR) hrun
    have hbesides : besides R.oid t = besides R.oid s :=
      besides_performPartitionOp (R := { R with name := name }) op _ _ _ hrun
    refine ⟨⟨ht, fun R' hR' => ?_⟩, fun R' hR' hne => ?_, fun _ => ⟨haccepted, heffect⟩,
      fun hnot => absurd rfl hnot⟩
    · by_cases heq : R' = R
      · rw [heq]
        exact hview
      · obtain ⟨hviews, hactive⟩ :=
          views_of_besides (fun hsame => heq (hoid hR' hR hsame)) hbesides
        rw [hviews, hactive]
        exact h.views R' hR'
    · exact funext fun k => hothers R'.oid k.toList fun hsame => hne (hoid hR hR' hsame.symm)

lemma ReachedBy.held (hoid : Set.InjOn PartitionedRelation.oid Rs) (K : StoredRows E)
    (h : ReachedBy E Rs s) : Held Rs s := by
  induction h with
  | start nextOid => exact held_start nextOid
  | step x hs hx ih => exact (ih.step (K := K) hoid hx).1

open Classical in
/-- What the statements of a run that succeed do to the one relation. -/
noncomputable def succeeded (E : PartitionEngine T D B) (R : PartitionedRelation) :
    Partitions T D → List (PartitionStatement B) → List (PartitionOp B)
  | _, [] => []
  | s, x :: xs =>
    if x.relation = R ∧ x.outcome E s = .ok ⟨⟩ then x.op :: succeeded E R (x.after E s) xs
    else succeeded E R (x.after E s) xs

/-- The contents after a run, from those before it. -/
lemma Held.run (hoid : Set.InjOn PartitionedRelation.oid Rs) (h : Held Rs s)
    {xs : List (PartitionStatement B)} (hproper : ∀ x ∈ xs, x.Proper Rs)
    (hrun : (partitionRuns E).run s xs = some t) (hR : R ∈ Rs) :
    Held Rs t ∧ contents K R t =
      (succeeded E R s xs).foldl (fun b op => op.effect R b) (contents K R s) := by
  induction xs generalizing s with
  | nil =>
    cases hrun
    exact ⟨h, rfl⟩
  | cons x xs ih =>
    obtain ⟨s₁, hstep, hrest⟩ := (System.run_cons_eq_some _).1 hrun
    cases hstep
    obtain ⟨h₁, hothers, hok, hfail⟩ :=
      h.step (E := E) (K := K) hoid (hproper x List.mem_cons_self)
    obtain ⟨ht, hcontents⟩ := ih h₁ (fun y hy => hproper y (List.mem_cons_of_mem _ hy)) hrest
    refine ⟨ht, ?_⟩
    rw [hcontents, succeeded]
    by_cases hout : x.outcome E s = .ok ⟨⟩
    · by_cases heq : x.relation = R
      · subst heq
        rw [if_pos ⟨rfl, hout⟩, List.foldl_cons, (hok hout).2]
      · rw [if_neg fun hboth => heq hboth.1, hothers R hR heq]
    · rw [if_neg fun hboth => hout hboth.2, hfail hout]

/-- **Partitioned tables are stores of rows.** After every run of statements, a partitioned table
holds what the statements about it that succeeded make of nothing, whatever the others did; and its
view shows the rows of the partitions that are shown. -/
theorem contents_of_run (hoid : Set.InjOn PartitionedRelation.oid Rs) (K : StoredRows E)
    {nextOid : ℤ} {xs : List (PartitionStatement B)} (hproper : ∀ x ∈ xs, x.Proper Rs)
    (hrun : (partitionRuns E).run { nextOid := nextOid } xs = some t) (hR : R ∈ Rs) :
    contents K R t = (succeeded E R { nextOid := nextOid } xs).foldl (fun b op => op.effect R b)
        Bins.empty ∧
      viewRows K R t = (contents K R t).visible := by
  obtain ⟨ht, hcontents⟩ := (held_start nextOid).run (K := K) hoid hproper hrun hR
  exact ⟨hcontents, ht.viewRows_eq hR⟩

/-- No more partitions are shown than are kept. -/
def WithinRetention (R : PartitionedRelation) (b : Bins String B) : Prop :=
  R.retentionCount ≤ 0 ∨ b.shownKeys.ncard ≤ R.retentionCount.toNat

lemma retained_eq_self {b : Bins String B} (hb : b.FinitelyMany) (h : WithinRetention R b) :
    retained R b = b := by
  unfold retained
  split_ifs with hcount
  · rfl
  · exact Bins.retain_eq_self hb (h.resolve_left hcount)

/-- **An insert is all or nothing.** In every state that statements come to, an insert that succeeds
and after which no partition expires adds its rows to those that the view shows, each once and none
of another table; one that fails changes nothing; and one with a row for a partition that is out of
use or gone fails. -/
theorem viewRows_insert (hoid : Set.InjOn PartitionedRelation.oid Rs) (K : StoredRows E)
    (hs : ReachedBy E Rs s) {x : PartitionStatement B} (hx : x.Proper Rs)
    {rows : List (DateTime × B)} (hop : x.op = .insert rows) :
    (x.outcome E s = .ok ⟨⟩ →
        WithinRetention x.relation
          ((contents K x.relation s).put (routed x.relation.partitionUnit rows)) →
      viewRows K x.relation (x.after E s) =
        viewRows K x.relation s + (rows.map (·.2) : List B)) ∧
      (x.outcome E s ≠ .ok ⟨⟩ → x.after E s = s) ∧
      (∀ R ∈ Rs, x.relation ≠ R → viewRows K R (x.after E s) = viewRows K R s) ∧
      ((∃ row ∈ rows, ∃ b ∈ contents K x.relation s
          (String.ofList (partitionValueForDatetime row.1 x.relation.partitionUnit)),
          ∀ r, b ≠ .shown r) → x.outcome E s ≠ .ok ⟨⟩) := by
  have hheld := hs.held hoid K
  obtain ⟨hafter, hothers, hok, hfail⟩ := hheld.step (E := E) (K := K) hoid hx
  rw [hop] at hok
  refine ⟨fun hout hkeep => ?_, hfail, fun R hR hne => ?_, ?_⟩
  · obtain ⟨haccepts, heffect⟩ := hok hout
    have hfinite := finitelyMany_contents (K := K) x.relation s
    have hput : contents K x.relation (x.after E s) =
        (contents K x.relation s).put (routed x.relation.partitionUnit rows) :=
      heffect.trans (retained_eq_self (hfinite.put _) hkeep)
    rw [hafter.viewRows_eq hx.mem, hheld.viewRows_eq hx.mem, hput,
      Bins.visible_put hfinite haccepts]
    unfold routed
    rw [List.map_map]
    rfl
  · rw [hafter.viewRows_eq hR, hheld.viewRows_eq hR, hothers R hR hne]
  · rintro ⟨row, hrow, b, hb, hhidden⟩ hout
    have haccepted := (hok hout).1 _ (List.mem_map_of_mem hrow)
    rcases haccepted with hnone | ⟨r, hr⟩
    · rw [hnone] at hb
      cases hb
    · rw [hr] at hb
      exact hhidden r (Option.some.inj hb).symm

/-- The rows that a statement brings. -/
def PartitionOp.newRows (op : PartitionOp B) : Multiset B :=
  match op with
  | .insert rows => (rows.map (·.2) : List B)
  | _ => 0

/-- The statement takes no rows away: the table is not dropped and none of its partitions expires. -/
def PartitionOp.TakesNothing (R : PartitionedRelation) (op : PartitionOp B) (b : Bins String B) :
    Prop :=
  match op with
  | .insert rows => WithinRetention R (b.put (routed R.partitionUnit rows))
  | .maintain => WithinRetention R b
  | .drop => False
  | _ => True

/-- No statement takes rows away. -/
def TakeNothing (R : PartitionedRelation) : Bins String B → List (PartitionOp B) → Prop
  | _, [] => True
  | b, op :: ops => op.TakesNothing R b ∧ TakeNothing R (op.effect R b) ops

lemma stored_retained_le {b : Bins String B} (hb : b.FinitelyMany) :
    (retained R b).stored ≤ b.stored := by
  unfold retained
  split_ifs
  · exact le_refl _
  · exact Bins.stored_retain_le hb _

lemma stored_put_routed {b : Bins String B} (hb : b.FinitelyMany) (unit : PartitionUnit)
    (rows : List (DateTime × B)) :
    (b.put (routed unit rows)).stored = b.stored + (PartitionOp.insert rows).newRows := by
  rw [Bins.stored_put hb]
  unfold routed
  rw [List.map_map]
  rfl

/-- Rows come from inserts only. -/
lemma stored_effect_le {b : Bins String B} (hb : b.FinitelyMany) (op : PartitionOp B) :
    (op.effect R b).stored ≤ b.stored + op.newRows := by
  cases op with
  | insert rows =>
    rw [← stored_put_routed hb R.partitionUnit]
    exact stored_retained_le (hb.put _)
  | maintain => exact (stored_retained_le hb).trans_eq (add_zero _).symm
  | markUnavailable value => exact ((Bins.stored_setAside _).trans (add_zero _).symm).le
  | repair value => exact ((Bins.stored_restore _).trans (add_zero _).symm).le
  | createIndex spec => exact (add_zero _).symm.le
  | drop => exact Bins.stored_empty.trans_le (Multiset.zero_le _)

/-- Only expiry and a drop take rows away. -/
lemma stored_effect {b : Bins String B} (hb : b.FinitelyMany) {op : PartitionOp B}
    (h : op.TakesNothing R b) : (op.effect R b).stored = b.stored + op.newRows := by
  cases op with
  | insert rows =>
    rw [← stored_put_routed hb R.partitionUnit]
    exact congrArg Bins.stored (retained_eq_self (hb.put _) h)
  | maintain => exact (congrArg Bins.stored (retained_eq_self hb h)).trans (add_zero _).symm
  | markUnavailable value => exact (Bins.stored_setAside _).trans (add_zero _).symm
  | repair value => exact (Bins.stored_restore _).trans (add_zero _).symm
  | createIndex spec => exact (add_zero _).symm
  | drop => exact absurd h not_false

lemma stored_foldl_le {ops : List (PartitionOp B)} {b : Bins String B} (hb : b.FinitelyMany) :
    (ops.foldl (fun b op => op.effect R b) b).stored ≤
      b.stored + (ops.map PartitionOp.newRows).sum := by
  induction ops generalizing b with
  | nil => exact (add_zero _).symm.le
  | cons op ops ih =>
    rw [List.foldl_cons, List.map_cons, List.sum_cons, ← add_assoc]
    exact (ih (finitelyMany_effect hb op)).trans (add_le_add_left (stored_effect_le hb op) _)

lemma stored_foldl {ops : List (PartitionOp B)} {b : Bins String B} (hb : b.FinitelyMany)
    (h : TakeNothing R b ops) :
    (ops.foldl (fun b op => op.effect R b) b).stored =
      b.stored + (ops.map PartitionOp.newRows).sum := by
  induction ops generalizing b with
  | nil => exact (add_zero _).symm
  | cons op ops ih =>
    rw [List.foldl_cons, List.map_cons, List.sum_cons, ← add_assoc,
      ih (finitelyMany_effect hb op) h.2, stored_effect hb h.1]

/-- **No row is stored twice**: after every run a partitioned table holds no more than the rows of the
inserts that succeeded; **and none is lost** where the table is not dropped and no partition
expires: it holds all of them, those of partitions that are out of use among them. -/
theorem stored_of_run (hoid : Set.InjOn PartitionedRelation.oid Rs) (K : StoredRows E)
    {nextOid : ℤ} {xs : List (PartitionStatement B)} (hproper : ∀ x ∈ xs, x.Proper Rs)
    (hrun : (partitionRuns E).run { nextOid := nextOid } xs = some t) (hR : R ∈ Rs) :
    (contents K R t).stored ≤
        ((succeeded E R { nextOid := nextOid } xs).map PartitionOp.newRows).sum ∧
      (TakeNothing R Bins.empty (succeeded E R { nextOid := nextOid } xs) →
        (contents K R t).stored =
          ((succeeded E R { nextOid := nextOid } xs).map PartitionOp.newRows).sum) := by
  obtain ⟨-, hcontents⟩ := (held_start nextOid).run (K := K) hoid hproper hrun hR
  have hstart : contents K R ({ nextOid := nextOid } : Partitions T D) = Bins.empty := rfl
  rw [hcontents, hstart]
  refine ⟨(stored_foldl_le Bins.finitelyMany_empty).trans_eq ?_, fun h => ?_⟩
  · rw [Bins.stored_empty, zero_add]
  · rw [stored_foldl Bins.finitelyMany_empty h, Bins.stored_empty, zero_add]

end Placed

/-! ### The days of a table -/

lemma coe_createTable_keyTables (R : PartitionedRelation) (t : List ℤ)
    (h : keyTables.createTable R = .ok t) : (t : Multiset ℤ) = 0 := by
  cases h
  rfl

lemma coe_insertRows_keyTables (t new t' : List ℤ) (h : keyTables.insertRows t new = .ok t') :
    (t' : Multiset ℤ) = t + (new : Multiset ℤ) := by
  cases h
  exact (Multiset.coe_add t new).symm

/-- The tables of keys, as rows. -/
def rowsOfTables : StoredRows keyTables where
  rows content := content
  created := coe_createTable_keyTables
  inserted := coe_insertRows_keyTables

/-- Two days, of which one is kept; the first is repaired after it has expired. -/
def expiredAndRepaired : List (PartitionStatement ℤ) :=
  [insertTimes 1 [tenOClock], insertTimes 1 [nextDay], onEvents 1 (.repair "20260710".toList)]

theorem contents_of_run_expired : ∃ t, (partitionRuns keyTables).run { nextOid := 20002 }
      expiredAndRepaired = some t ∧
    contents rowsOfTables (dailyEvents 1) t =
        (succeeded keyTables (dailyEvents 1) { nextOid := 20002 } expiredAndRepaired).foldl
          (fun b op => op.effect (dailyEvents 1) b) Bins.empty ∧
      viewRows rowsOfTables (dailyEvents 1) t =
        (contents rowsOfTables (dailyEvents 1) t).visible := by
  have hproper : ∀ x ∈ expiredAndRepaired, x.Proper {dailyEvents 1} := by
    intro x hx
    simp only [expiredAndRepaired, List.mem_cons, List.not_mem_nil, or_false] at hx
    rcases hx with rfl | rfl | rfl <;> exact proper_onEvents 1 trivial
  exact ⟨_, rfl, contents_of_run (Set.injOn_singleton _ _) rowsOfTables hproper rfl
    (Set.mem_singleton _)⟩

/-- All of one day. -/
lemma withinRetention_of_subset {b : Bins String ℤ} (h : b.shownKeys ⊆ {"20260710"}) :
    WithinRetention (dailyEvents 1) b :=
  Or.inr ((Set.ncard_le_ncard h).trans_eq (Set.ncard_singleton _))

lemma shownKeys_put_tenth {b : Bins String ℤ} (h : b.shownKeys ⊆ {"20260710"}) {dt : DateTime}
    (hdt : partitionValueForDatetime dt .day = "20260710".toList) :
    (b.put (routed .day [(dt, dt.micros)])).shownKeys ⊆ {"20260710"} := by
  intro k hk
  rcases Bins.mem_shownKeys_put hk with hk | ⟨r, hr, rfl⟩
  · exact h hk
  · obtain rfl := List.mem_singleton.1 hr
    exact congrArg String.ofList hdt

lemma shownKeys_empty : (Bins.empty : Bins String ℤ).shownKeys ⊆ {"20260710"} := by
  rintro k ⟨r, hr⟩
  cases hr

/-- The first row of a table. -/
theorem viewRows_insert_first :
    viewRows rowsOfTables (dailyEvents 1)
        ((insertTimes 1 [tenOClock]).after keyTables { nextOid := 20002 }) =
      viewRows rowsOfTables (dailyEvents 1) { nextOid := 20002 } + {tenOClock.micros} := by
  have hproper : (insertTimes 1 [tenOClock]).Proper {dailyEvents 1} := proper_onEvents 1 trivial
  exact (viewRows_insert (Set.injOn_singleton _ _) rowsOfTables (.start 20002) hproper rfl).1 rfl
    (withinRetention_of_subset (shownKeys_put_tenth shownKeys_empty (by rfl)))

lemma succeeded_two : succeeded keyTables (dailyEvents 1) { nextOid := 20002 }
      [insertTimes 1 [tenOClock], insertTimes 1 [nineOClock]] =
    [(insertTimes 1 [tenOClock]).op, (insertTimes 1 [nineOClock]).op] := by
  have hsecond : (insertTimes 1 [nineOClock]).outcome keyTables
      ((insertTimes 1 [tenOClock]).after keyTables { nextOid := 20002 }) = .ok ⟨⟩ := by rfl
  rw [succeeded, if_pos ⟨rfl, rfl⟩, succeeded, if_pos ⟨rfl, hsecond⟩, succeeded]

/-- Two rows of a day, in two statements. -/
theorem stored_of_run_two : ∃ t, (partitionRuns keyTables).run { nextOid := 20002 }
      [insertTimes 1 [tenOClock], insertTimes 1 [nineOClock]] = some t ∧
    (contents rowsOfTables (dailyEvents 1) t).stored =
      {tenOClock.micros} + ({nineOClock.micros} + 0) := by
  have hproper : ∀ x ∈ [insertTimes 1 [tenOClock], insertTimes 1 [nineOClock]],
      x.Proper {dailyEvents 1} := by
    intro x hx
    rcases List.mem_pair.1 hx with rfl | rfl <;> exact proper_onEvents 1 trivial
  obtain ⟨t, hrun⟩ : ∃ t, (partitionRuns keyTables).run { nextOid := 20002 }
      [insertTimes 1 [tenOClock], insertTimes 1 [nineOClock]] = some t := ⟨_, rfl⟩
  have hall := (stored_of_run (Set.injOn_singleton _ _) rowsOfTables hproper hrun
    (Set.mem_singleton (dailyEvents 1))).2
  rw [succeeded_two] at hall
  have htenth : partitionValueForDatetime tenOClock .day = "20260710".toList := by rfl
  have hfirst := shownKeys_put_tenth shownKeys_empty htenth
  have hkept : (retained (dailyEvents 1) (Bins.empty.put (routed .day
      [(tenOClock, tenOClock.micros)]))).shownKeys ⊆ {"20260710"} :=
    (Bins.shownKeys_retain_subset 1).trans hfirst
  exact ⟨t, hrun, hall ⟨withinRetention_of_subset hfirst,
    withinRetention_of_subset (shownKeys_put_tenth hkept (by rfl)), trivial⟩⟩

end Rsduck.Catalog.Partition
