import Rsduck.Catalog.Partition.Stats

/-!
The statistics of the partitions along runs: what each statement does to the rows of the catalog and
the tables, and that the statistics stay those of the tables.
-/

namespace Rsduck.Catalog.Partition

open Lib Lib.Eff Lib.Calendar Lib.Text

variable {T D B : Type}

/-! ### Names and tables -/

section Tables

variable {s t : Partitions T D} {n m : List Char}

lemma sameName_eq_true_iff : sameName n m = true ↔ lowercase n = lowercase m := by
  unfold sameName
  exact beq_iff_eq

lemma sameIdentifier_eq_true_iff :
    sameIdentifier n m = true ↔ toAsciiLowercase n = toAsciiLowercase m := by
  unfold sameIdentifier eqIgnoreAsciiCase
  exact beq_iff_eq

lemma sameIdentifier_self (n : List Char) : sameIdentifier n n = true := beq_self_eq_true _

lemma sameIdentifier_eq_false (h : sameName n m = false) : sameIdentifier n m = false := by
  by_contra hsame
  rw [sameName_of_sameIdentifier (Bool.not_eq_false _ ▸ hsame)] at h
  cases h

lemma sameName_physicalPartitionName (value : List Char)
    (h : lowercase n = lowercase m) :
    lowercase (physicalPartitionName n value) =
      lowercase (physicalPartitionName m value) := by
  unfold physicalPartitionName
  unfold lowercase at h ⊢
  rw [List.map_append, List.map_append, h]

lemma findTable_of_tables (h : t.tables = s.tables) :
    Partitions.findTable n t = Partitions.findTable n s := by
  unfold Partitions.findTable
  rw [h]

/-- A new table is found under its name, every other as before. -/
lemma findTable_createTable {content : T} {u : PUnit}
    (h : Runs (createTable n content) s u t) :
    t.entries = s.entries ∧ Partitions.findTable n t = some content ∧
      ∀ m c, Partitions.findTable m s = some c → Partitions.findTable m t = some c := by
  simp only [createTable, runs_asks_bind, runs_ensure_bind, runs_modify] at h
  obtain ⟨hfree, rfl⟩ := h
  refine ⟨rfl, ?_, fun m c hc => ?_⟩
  · have hnone : s.tables.find? (fun t => sameIdentifier n t.name) = none := by
      simpa [Partitions.findTable] using hfree
    unfold Partitions.findTable
    rw [List.find?_append, hnone, List.find?_singleton, sameIdentifier_self]
    rfl
  · unfold Partitions.findTable at hc ⊢
    obtain ⟨found, hfound, rfl⟩ := Option.map_eq_some_iff.1 hc
    rw [List.find?_append, hfound]
    rfl

/-- Tables of other names are found as before. -/
lemma findTable_filter {p : PhysicalTable T → Bool}
    (hp : ∀ x : PhysicalTable T, sameIdentifier n x.name = true → p x = true)
    (h : t.tables = s.tables.filter p) :
    Partitions.findTable n t = Partitions.findTable n s := by
  unfold Partitions.findTable
  rw [h, find_filter hp]

lemma findTable_insertInto {E : PartitionEngine T D B} {rows : List B} {u : PUnit}
    (h : Runs (insertInto E n rows) s u t) :
    t.entries = s.entries ∧ ∃ content content', Partitions.findTable n s = some content ∧
      E.insertRows content rows = .ok content' ∧ Partitions.findTable n t = some content' ∧
      ∀ m, sameIdentifier n m = false → Partitions.findTable m t = Partitions.findTable m s := by
  simp only [insertInto, tableContent, runs_bind (m := _ >>= _), runs_asks_bind, runs_fromExcept_bind,
    runs_modify] at h
  obtain ⟨content, s', hfound, content', hinsert, rfl⟩ := h
  rcases htable : Partitions.findTable n s with _ | found
  · simp [htable] at hfound
  · simp only [htable, runs_pure] at hfound
    obtain ⟨rfl, hs⟩ := hfound
    subst s'
    let write (x : PhysicalTable T) : PhysicalTable T :=
      if sameIdentifier n x.name then ⟨x.name, content'⟩ else x
    have hname (x : PhysicalTable T) : (write x).name = x.name := by
      simp only [write]
      split_ifs <;> rfl
    have hfind (k : List Char) : (s.tables.map write).find? (fun x => sameIdentifier k x.name) =
        (s.tables.find? fun x => sameIdentifier k x.name).map write := by
      rw [List.find?_map]
      exact congrArg (Option.map write) (congrArg (s.tables.find? ·) (funext fun x => by
        rw [Function.comp_apply, hname]))
    refine ⟨rfl, content, content', rfl, hinsert, ?_, fun m hm => ?_⟩
    · obtain ⟨x, hx, -⟩ := Option.map_eq_some_iff.1 htable
      have hsame : sameIdentifier n x.name = true := by simpa using List.find?_some hx
      change ((s.tables.map write).find? fun x => sameIdentifier n x.name).map (·.content) = _
      simp [hfind, hx, write, hsame]
    · change ((s.tables.map write).find? fun x => sameIdentifier m x.name).map (·.content) = _
      rw [hfind, Partitions.findTable]
      rcases hx : s.tables.find? fun x => sameIdentifier m x.name with _ | x
      · rw [hx]
        rfl
      · have hsame : sameIdentifier m x.name = true := by simpa using List.find?_some hx
        have hother : sameIdentifier n x.name = false := by
          rw [Bool.eq_false_iff, Ne, sameIdentifier_eq_true_iff] at hm ⊢
          rwa [← sameIdentifier_eq_true_iff.1 hsame]
        simp [hx, write, hother]

end Tables

/-! ### What the statements keep -/

section Kept

variable {E : PartitionEngine T D B} {K : StoredKeys E} {Rs : Set PartitionedRelation}
  {s t : Partitions T D} {e f : PartitionEntry D} {parent : ℤ} {value : List Char}

/-- The rows of the partitions and the tables, without the rest of the state. -/
def rowsAndTables (s : Partitions T D) : List (PartitionEntry D) × List (PhysicalTable T) :=
  (s.entries, s.tables)

/-- Two rows are of different partitions, with tables of different names. -/
structure Apart (e f : PartitionEntry D) : Prop where
  key : ¬ (e.parentRelid = f.parentRelid ∧ e.partitionValue = f.partitionValue)
  names : ∀ c d, e.child = some c → f.child = some d → sameName c.relname d.relname = false

/-- The child of the row has the name that its relation gives it. -/
def NamedBy (Rs : Set PartitionedRelation) (e : PartitionEntry D) : Prop :=
  ∀ R ∈ Rs, e.parentRelid = R.oid → ∀ c, e.child = some c →
    lowercase c.relname = lowercase (physicalPartitionName R.name e.partitionValue)

/-- The table of the row is there, with the rows that the statistics tell of. -/
def ExactIn (K : StoredKeys E) (s : Partitions T D) (e : PartitionEntry D) : Prop :=
  ∀ c, e.child = some c → ∃ content, Partitions.findTable c.relname s = some content ∧
    e.stats.Exact (K.keys content)

structure Kept (K : StoredKeys E) (Rs : Set PartitionedRelation) (s : Partitions T D) : Prop where
  apart : s.entries.Pairwise Apart
  named : ∀ e ∈ s.entries, NamedBy Rs e
  active : ∀ e ∈ s.entries, e.status = .active → e.child.isSome
  exact : ∀ e ∈ s.entries, ExactIn K s e

lemma Kept.statsExact (h : Kept K Rs s) : StatsExact K s := by
  intro e he hactive
  obtain ⟨c, hc⟩ := Option.isSome_iff_exists.1 (h.active e he hactive)
  obtain ⟨content, hfound, hexact⟩ := h.exact e he c hc
  exact ⟨c, content, hc, hfound, hexact⟩

lemma exactIn_of_tables (h : t.tables = s.tables) (he : ExactIn K s e) : ExactIn K t e := by
  intro c hc
  obtain ⟨content, hfound, hexact⟩ := he c hc
  exact ⟨content, by rw [findTable_of_tables h, hfound], hexact⟩

/-- Only the rows and the tables matter. -/
lemma Kept.of_same (h : Kept K Rs s) (hsame : rowsAndTables t = rowsAndTables s) :
    Kept K Rs t := by
  obtain ⟨hentries, htables⟩ := Prod.mk.inj hsame
  refine ⟨hentries ▸ h.apart, hentries ▸ h.named, hentries ▸ h.active, fun e he => ?_⟩
  exact exactIn_of_tables htables (h.exact e (hentries ▸ he))

instance : Std.Symm (Apart (D := D)) where
  symm e f h := by
    refine ⟨fun hkey => h.key ⟨hkey.1.symm, hkey.2.symm⟩, fun c d hc hd => ?_⟩
    rw [sameName_comm]
    exact h.names d c hd hc

lemma Kept.apart_of_ne (h : Kept K Rs s) (he : e ∈ s.entries) (hf : f ∈ s.entries)
    (hne : e ≠ f) : Apart e f :=
  h.apart.forall he hf hne

/-- A partition has one row. -/
lemma Kept.entry_eq_some_iff (h : Kept K Rs s) : Partitions.entry parent value s = some e ↔
    e ∈ s.entries ∧ e.parentRelid = parent ∧ e.partitionValue = value := by
  constructor
  · intro hentry
    have hkey := List.find?_some hentry
    rw [Bool.and_eq_true] at hkey
    exact ⟨List.mem_of_find?_eq_some hentry, eq_of_beq hkey.1, eq_of_beq hkey.2⟩
  · rintro ⟨he, rfl, rfl⟩
    rcases hentry : Partitions.entry e.parentRelid e.partitionValue s with _ | f
    · exact absurd (List.find?_eq_none.1 hentry e he) (by simp)
    · have hkey := List.find?_some hentry
      rw [Bool.and_eq_true] at hkey
      by_contra hne
      have hne : e ≠ f := fun heq => hne (by rw [heq])
      exact (h.apart_of_ne he (List.mem_of_find?_eq_some hentry) hne).key
        ⟨(eq_of_beq hkey.1).symm, (eq_of_beq hkey.2).symm⟩

/-- A change of the rows one by one. -/
lemma Kept.of_map (h : Kept K Rs s) {g : PartitionEntry D → PartitionEntry D}
    (hentries : t.entries = s.entries.map g)
    (hapart : ∀ e ∈ s.entries, ∀ f ∈ s.entries, Apart e f → Apart (g e) (g f))
    (hnamed : ∀ e ∈ s.entries, NamedBy Rs (g e))
    (hactive : ∀ e ∈ s.entries, (g e).status = .active → (g e).child.isSome)
    (hexact : ∀ e ∈ s.entries, ExactIn K t (g e)) : Kept K Rs t := by
  refine ⟨?_, ?_, ?_, ?_⟩
  · rw [hentries, List.pairwise_map]
    exact h.apart.imp_of_mem fun he hf hef => hapart _ he _ hf hef
  · rw [hentries, List.forall_mem_map]
    exact hnamed
  · rw [hentries, List.forall_mem_map]
    exact hactive
  · rw [hentries, List.forall_mem_map]
    exact hexact

/-- A change that leaves the names of the tables, or takes a table away. -/
lemma Kept.of_map_names (h : Kept K Rs s) {g : PartitionEntry D → PartitionEntry D}
    (hentries : t.entries = s.entries.map g)
    (hkey : ∀ e, (g e).parentRelid = e.parentRelid ∧ (g e).partitionValue = e.partitionValue)
    (hchild : ∀ e c, (g e).child = some c → ∃ d, e.child = some d ∧ c.relname = d.relname)
    (hactive : ∀ e ∈ s.entries, (g e).status = .active → (g e).child.isSome)
    (hexact : ∀ e ∈ s.entries, ExactIn K t (g e)) : Kept K Rs t := by
  refine h.of_map hentries (fun e _ f _ hef => ⟨?_, fun c d hc hd => ?_⟩) (fun e he => ?_) hactive
    hexact
  · rw [(hkey e).1, (hkey e).2, (hkey f).1, (hkey f).2]
    exact hef.key
  · obtain ⟨c', hc', hname⟩ := hchild e c hc
    obtain ⟨d', hd', hname'⟩ := hchild f d hd
    rw [hname, hname']
    exact hef.names c' d' hc' hd'
  · intro R hR hparent c hc
    obtain ⟨c', hc', hname⟩ := hchild e c hc
    rw [hname, (hkey e).2]
    exact h.named e he R hR ((hkey e).1 ▸ hparent) c' hc'

/-! ### Operations that leave the rows and the tables -/

lemma keeps_allocateOid : Keeps (Same rowsAndTables) (allocateOid : Eff (Partitions T D) ℤ) := by
  intro s oid t h
  simp only [allocateOid, runs_asks_bind, runs_modify_bind, runs_pure] at h
  rw [h.2]
  rfl

lemma keeps_createPartitionIndex (spec : PartitionIndexSpec) (child : List Char) :
    Keeps (Same rowsAndTables) (createPartitionIndex E spec child) := by
  intro s u t h
  simp only [createPartitionIndex, runs_asks_bind] at h
  split_ifs at h
  · rw [(runs_pure.1 h).2]
    rfl
  · simp only [runs_mapError, createIndex, tableContent] at h
    obtain ⟨content, s', hcontent, h⟩ := runs_bind.1 h
    simp only [runs_asks_bind, runs_ensure_bind, runs_fromExcept_bind, runs_modify] at h hcontent
    obtain ⟨-, -, -, rfl⟩ := h
    rcases hfound : Partitions.findTable child s with _ | found
    · simp [hfound] at hcontent
    · simp only [hfound, runs_pure] at hcontent
      rw [← hcontent.2]
      rfl

lemma keeps_createPartitionIndexes (parent : ℤ) (child : List Char) :
    Keeps (Same rowsAndTables) (createPartitionIndexes E parent child) := by
  intro s u t h
  simp only [createPartitionIndexes, runs_asks_bind] at h
  exact keeps_forM (fun spec _ => keeps_createPartitionIndex spec child) s u t h

lemma keeps_tableContent (n : List Char) :
    Keeps (Same rowsAndTables) (tableContent n : Eff (Partitions T D) T) := by
  intro s content t h
  simp only [tableContent, runs_asks_bind] at h
  rcases hfound : Partitions.findTable n s with _ | found
  · simp [hfound] at h
  · simp only [hfound, runs_pure] at h
    rw [h.2]
    rfl

lemma keeps_contents (ns : List (PartitionEntry D × ChildRelation D)) :
    Keeps (Same rowsAndTables)
      (ns.mapM fun c => (tableContent c.2.relname : Eff (Partitions T D) T)) := by
  induction ns with
  | nil => exact keeps_pure _
  | cons c ns ih =>
    rw [List.mapM_cons]
    exact keeps_bind (keeps_tableContent _) fun _ => keeps_bind ih fun _ => keeps_pure _

lemma keeps_refreshPartitionEntrypoint (R : PartitionedRelation) :
    Keeps (Same rowsAndTables) (refreshPartitionEntrypoint E R : Eff (Partitions T D) PUnit) := by
  intro s u t h
  simp only [refreshPartitionEntrypoint, runs_asks_bind] at h
  obtain ⟨contents, s', hcontents, h⟩ := runs_bind.1 h
  simp only [runs_fromExcept_bind, runs_modify] at h
  obtain ⟨-, -, rfl⟩ := h
  have hsame := keeps_contents _ _ _ _ hcontents
  exact hsame

lemma keeps_validateTablePhysical (child : ChildRelation D) :
    Keeps (Same rowsAndTables) (validateTablePhysical E child) := by
  intro s u t h
  simp only [validateTablePhysical, runs_asks_bind] at h
  rcases hfound : s.tables.find? (·.name == child.relname) with _ | table
  · simp [hfound] at h
  · simp only [hfound, runs_fromExcept] at h
    rw [h.2]
    rfl

/-! ### A new partition -/

variable {R : PartitionedRelation} {name n : List Char} {u : PUnit}

lemma relationExists_eq_false_iff : Partitions.relationExists n s = false ↔
    ∀ e ∈ s.entries, ∀ c, e.child = some c → sameName n c.relname = false := by
  unfold Partitions.relationExists
  rw [List.any_eq_false]
  refine forall₂_congr fun e _ => ?_
  rcases e.child with _ | c
  · simp
  · simp

/-- What a spelling of its relation's name gives a new partition as its name. -/
lemma namedBy_new (hoid : Set.InjOn PartitionedRelation.oid Rs) (hR : R ∈ Rs)
    (hname : lowercase name = lowercase R.name) (hparent : e.parentRelid = R.oid)
    (hchild : ∀ c, e.child = some c → c.relname = physicalPartitionName name e.partitionValue) :
    NamedBy Rs e := by
  intro R' hR' hparent' c hc
  obtain rfl : R' = R := hoid hR' hR (hparent'.symm.trans hparent)
  rw [hchild c hc]
  exact sameName_physicalPartitionName e.partitionValue hname

lemma entry_append_of_ne {g : PartitionEntry D}
    (hentries : t.entries = s.entries ++ [g])
    (hne : ¬ (g.parentRelid = parent ∧ g.partitionValue = value)) :
    Partitions.entry parent value t = Partitions.entry parent value s := by
  unfold Partitions.entry
  have hlast : (g.parentRelid == parent && g.partitionValue == value) = false := by
    rw [Bool.and_eq_false_iff, beq_eq_false_iff_ne, beq_eq_false_iff_ne]
    exact not_and_or.1 hne
  rw [hentries, List.find?_append, List.find?_singleton, hlast]
  simp

lemma Kept.append (h : Kept K Rs s) {g : PartitionEntry D} (hentries : t.entries = s.entries ++ [g])
    (hapart : ∀ e ∈ s.entries, Apart e g) (hnamed : NamedBy Rs g)
    (hactive : g.status = .active → g.child.isSome)
    (hother : ∀ m c, Partitions.findTable m s = some c → Partitions.findTable m t = some c)
    (hexact : ExactIn K t g) : Kept K Rs t := by
  refine ⟨?_, ?_, ?_, ?_⟩
  · rw [hentries, List.pairwise_append]
    refine ⟨h.apart, List.pairwise_singleton _ _, fun e he f hf => ?_⟩
    rw [List.mem_singleton.1 hf]
    exact hapart e he
  · rw [hentries, List.forall_mem_append, List.forall_mem_singleton]
    exact ⟨h.named, hnamed⟩
  · rw [hentries, List.forall_mem_append, List.forall_mem_singleton]
    exact ⟨h.active, hactive⟩
  · rw [hentries, List.forall_mem_append, List.forall_mem_singleton]
    refine ⟨fun e he c hc => ?_, hexact⟩
    obtain ⟨content, hfound, hstats⟩ := h.exact e he c hc
    exact ⟨content, hother _ _ hfound, hstats⟩

lemma storedKeys_of_found {c : ChildRelation D} {content : T}
    (hentry : Partitions.entry parent value s = some e) (hc : e.child = some c)
    (hfound : Partitions.findTable c.relname s = some content) :
    storedKeys K parent value s = K.keys content := by
  simp [storedKeys, hentry, hc, hfound]

lemma storedKeys_of_none (hnone : (Partitions.entry parent value s).bind (·.child) = none) :
    storedKeys K parent value s = 0 := by
  unfold storedKeys
  rw [hnone]
  rfl

/-- A partition has the same keys where its row and its table are the same. -/
lemma Kept.storedKeys_eq (h : Kept K Rs s)
    (hentry : (Partitions.entry parent value t).bind (·.child) =
      (Partitions.entry parent value s).bind (·.child))
    (hfound : ∀ e c content, Partitions.entry parent value s = some e → e.child = some c →
      Partitions.findTable c.relname s = some content →
        Partitions.findTable c.relname t = some content) :
    storedKeys K parent value t = storedKeys K parent value s := by
  rcases hs : (Partitions.entry parent value s).bind (·.child) with _ | c
  · rw [storedKeys_of_none hs, storedKeys_of_none (hentry.trans hs)]
  · obtain ⟨e, he, hc⟩ := Option.bind_eq_some_iff.1 hs
    obtain ⟨hmem, -, -⟩ := h.entry_eq_some_iff.1 he
    obtain ⟨content, hcontent, -⟩ := h.exact e hmem c hc
    unfold storedKeys
    rw [hentry, hs]
    simp only [Option.elim_some]
    rw [hcontent, hfound e c content he hc hcontent]

lemma kept_createRangePartition (hoid : Set.InjOn PartitionedRelation.oid Rs) (h : Kept K Rs s)
    (hR : R ∈ Rs) (hname : lowercase name = lowercase R.name)
    (hnone : Partitions.entry R.oid value s = none)
    (hrun : Runs (createRangePartition E { R with name := name } value) s n t) :
    Kept K Rs t ∧ (∃ e c, Partitions.entry R.oid value t = some e ∧ e.child = some c ∧
      c.relname = n) ∧ ∀ p w, storedKeys K p w t = storedKeys K p w s := by
  simp only [createRangePartition, runs_fromExcept_bind, runs_asks_bind, runs_ensure_bind] at hrun
  obtain ⟨-, -, hfree, hrun⟩ := hrun
  obtain ⟨childOid, s₁, halloc, hrun⟩ := runs_bind.1 hrun
  obtain ⟨_, s₂, halloc', hrun⟩ := runs_bind.1 hrun
  obtain ⟨content, hcontent, hrun⟩ := runs_fromExcept_bind.1 hrun
  obtain ⟨_, s₃, hcreate, hrun⟩ := runs_bind.1 hrun
  rw [runs_modify_bind] at hrun
  obtain ⟨_, s₄, hindexes, hrun⟩ := runs_bind.1 hrun
  obtain ⟨rfl, rfl⟩ := runs_pure.1 hrun
  -- the state after the statement: a row more, and its table
  let g : PartitionEntry D := ⟨R.oid, value, childOid, .active,
    some ⟨physicalPartitionName name value, .active, E.loadColumns content⟩, ⟨0, none, none⟩⟩
  obtain ⟨hentries₁, htables₁⟩ := Prod.mk.inj (keeps_allocateOid _ _ _ halloc)
  obtain ⟨hentries₂, htables₂⟩ := Prod.mk.inj (keeps_allocateOid _ _ _ halloc')
  obtain ⟨hentries₃, hnew, hother⟩ := findTable_createTable (runs_mapError.1 hcreate)
  obtain ⟨hentries₄, htables₄⟩ := Prod.mk.inj (keeps_createPartitionIndexes _ _ _ _ _ hindexes)
  have hentries : t.entries = s.entries ++ [g] := by
    rw [hentries₄, hentries₃, hentries₂, hentries₁]
  have htable : Partitions.findTable (physicalPartitionName name value) t = some content := by
    rw [findTable_of_tables htables₄]
    exact hnew
  have hkeep (m : List Char) (c : T) (hm : Partitions.findTable m s = some c) :
      Partitions.findTable m t = some c := by
    rw [findTable_of_tables htables₄]
    exact hother m c (by rwa [findTable_of_tables htables₂, findTable_of_tables htables₁])
  have hfree := relationExists_eq_false_iff.1 (by simpa using hfree)
  have hkeys : K.keys content = 0 := K.created _ _ hcontent
  have hkept : Kept K Rs t := by
    refine h.append hentries (fun e he => ⟨?_, ?_⟩)
      (namedBy_new hoid hR hname rfl fun c hc => by cases hc; rfl) (fun _ => rfl) hkeep ?_
    · rintro ⟨hparent, hvalue⟩
      rw [h.entry_eq_some_iff.2 ⟨he, hparent, hvalue⟩] at hnone
      cases hnone
    · rintro c d hc hd
      cases hd
      rw [sameName_comm]
      exact hfree e he c hc
    · intro c hc
      cases hc
      exact ⟨content, htable, hkeys ▸ exact_none⟩
  have hentry : Partitions.entry R.oid value t = some g :=
    hkept.entry_eq_some_iff.2 ⟨by rw [hentries]; simp, rfl, rfl⟩
  refine ⟨hkept, ⟨g, _, hentry, rfl, rfl⟩, fun p w => ?_⟩
  by_cases heq : R.oid = p ∧ value = w
  · obtain ⟨rfl, rfl⟩ := heq
    rw [storedKeys_of_found hentry rfl htable, hkeys, storedKeys_of_none (by rw [hnone]; rfl)]
  · refine h.storedKeys_eq (by rw [entry_append_of_ne hentries heq]) fun e c content _ _ => ?_
    exact hkeep _ _

lemma kept_ensureActivePartition (hoid : Set.InjOn PartitionedRelation.oid Rs) (h : Kept K Rs s)
    (hR : R ∈ Rs) (hname : lowercase name = lowercase R.name)
    (hrun : Runs (ensureActivePartition E { R with name := name } value) s n t) :
    Kept K Rs t ∧ (∃ e c, Partitions.entry R.oid value t = some e ∧ e.child = some c ∧
      c.relname = n) ∧ ∀ p w, storedKeys K p w t = storedKeys K p w s := by
  simp only [ensureActivePartition, runs_asks_bind] at hrun
  rcases hentry : Partitions.entry R.oid value s with _ | e
  · rw [hentry] at hrun
    exact kept_createRangePartition hoid h hR hname hentry hrun
  · rw [hentry] at hrun
    rcases hstatus : e.status <;> rcases hchild : e.child with _ | child
    all_goals simp only [hstatus, hchild, runs_throw] at hrun
    obtain ⟨rfl, rfl⟩ := runs_pure.1 hrun
    exact ⟨h, ⟨e, child, hentry, hchild, rfl⟩, fun _ _ => rfl⟩

/-! ### Rows -/

/-- The row of a partition after a change. -/
lemma entry_updateEntry {g : PartitionEntry D → PartitionEntry D}
    (hkey : ∀ e, (g e).parentRelid = e.parentRelid ∧ (g e).partitionValue = e.partitionValue)
    (hentries : t.entries = s.entries.map g) :
    Partitions.entry parent value t = (Partitions.entry parent value s).map g := by
  unfold Partitions.entry
  rw [hentries, List.find?_map]
  refine congrArg (Option.map g) (congrArg (s.entries.find? ·) (funext fun e => ?_))
  rw [Function.comp_apply, (hkey e).1, (hkey e).2]

/-- **The rows for one partition** are counted, where the first stands for all of them. -/
lemma kept_insertPartitionGroup (hoid : Set.InjOn PartitionedRelation.oid Rs) (h : Kept K Rs s)
    (hR : R ∈ Rs) (hname : lowercase name = lowercase R.name)
    {group : PartitionInsertGroup B} {dt : DateTime} (hts : group.routeTs = some dt)
    (hstands : StandsFor dt.micros (group.rows.map K.key)
      (storedKeys K R.oid group.partitionValue s))
    (hrun : Runs (insertPartitionGroup E { R with name := name } group) s u t) :
    Kept K Rs t ∧ ∀ p w, ¬ (p = R.oid ∧ w = group.partitionValue) →
      storedKeys K p w t = storedKeys K p w s := by
  obtain ⟨n, s₁, hensure, hrun⟩ := runs_bind.1 hrun
  obtain ⟨_, s₂, hinsert, hupdate⟩ := runs_bind.1 hrun
  obtain ⟨h₁, ⟨e₁, c₁, hentry₁, hchild₁, rfl⟩, hkeys₁⟩ :=
    kept_ensureActivePartition hoid h hR hname hensure
  obtain ⟨hentries₂, content, content', hcontent, hrows, hcontent', hothers⟩ :=
    findTable_insertInto (runs_mapError.1 hinsert)
  obtain ⟨hmem₁, hparent₁, hvalue₁⟩ := h₁.entry_eq_some_iff.1 hentry₁
  have ht := runs_modify.1 hupdate
  -- the rows of the catalog after the statement
  let g (e : PartitionEntry D) : PartitionEntry D :=
    if e.parentRelid == R.oid && e.partitionValue == group.partitionValue then
      { e with stats := e.stats.update group.rows.length (some dt.micros) }
    else e
  have hkey (e : PartitionEntry D) :
      (g e).parentRelid = e.parentRelid ∧ (g e).partitionValue = e.partitionValue := by
    simp only [g]
    split_ifs <;> exact ⟨rfl, rfl⟩
  have hchild (e : PartitionEntry D) : (g e).child = e.child := by
    simp only [g]
    split_ifs <;> rfl
  have hstatus (e : PartitionEntry D) : (g e).status = e.status := by
    simp only [g]
    split_ifs <;> rfl
  have hentries : t.entries = s₁.entries.map g := by
    rw [ht, hts]
    exact congrArg (List.map g) hentries₂
  have htables (m : List Char) : Partitions.findTable m t = Partitions.findTable m s₂ := by
    rw [ht]
    rfl
  have hname_ne (e : PartitionEntry D) (he : e ∈ s₁.entries) (hne : e ≠ e₁) (c : ChildRelation D)
      (hc : e.child = some c) : sameIdentifier c₁.relname c.relname = false :=
    sameIdentifier_eq_false ((h₁.apart_of_ne hmem₁ he (Ne.symm hne)).names c₁ c hchild₁ hc)
  refine ⟨h₁.of_map_names hentries hkey (fun e c hc => ⟨c, hchild e ▸ hc, rfl⟩)
    (fun e he hactive => ?_) (fun e he c hc => ?_), fun p w hne => ?_⟩
  · rw [hchild]
    exact h₁.active e he (hstatus e ▸ hactive)
  · rw [hchild] at hc
    rw [htables]
    by_cases heq : e = e₁
    · subst heq
      obtain rfl : c = c₁ := Option.some.inj (hc.symm.trans hchild₁)
      obtain ⟨content'', hfound, hexact⟩ := h₁.exact e he c hc
      obtain rfl : content'' = content := Option.some.inj (hfound.symm.trans hcontent)
      refine ⟨content', hcontent', ?_⟩
      have hstats : (g e).stats =
          e.stats.update (group.rows.map K.key).length (some dt.micros) := by
        simp only [g, hparent₁, hvalue₁, beq_self_eq_true, Bool.and_self, if_true, List.length_map]
      rw [hstats, K.inserted _ _ _ hrows]
      refine (exact_update_iff hexact).2 ?_
      rwa [← storedKeys_of_found (K := K) hentry₁ hchild₁ hcontent, hkeys₁]
    · obtain ⟨content'', hfound, hexact⟩ := h₁.exact e he c hc
      have hother : (e.parentRelid == R.oid && e.partitionValue == group.partitionValue) = false := by
        by_contra hmatch
        rw [Bool.not_eq_false, Bool.and_eq_true] at hmatch
        have hentry := h₁.entry_eq_some_iff.2 ⟨he, eq_of_beq hmatch.1, eq_of_beq hmatch.2⟩
        exact heq (Option.some.inj (hentry.symm.trans hentry₁))
      have hsame : g e = e := if_neg (by rw [hother]; decide)
      exact ⟨content'', by rw [hothers _ (hname_ne e he heq c hc), hfound], by rwa [hsame]⟩
  · rw [← hkeys₁]
    refine h₁.storedKeys_eq ?_ fun e c content'' he hc hfound => ?_
    · rw [entry_updateEntry hkey hentries, Option.bind_map]
      exact congrArg _ (funext fun e => hchild e)
    · obtain ⟨hmem, hparent, hvalue⟩ := h₁.entry_eq_some_iff.1 he
      have hneq : e ≠ e₁ := by
        rintro rfl
        exact hne ⟨hparent.symm.trans hparent₁, hvalue.symm.trans hvalue₁⟩
      rw [htables, hothers _ (hname_ne e hmem hneq c hc), hfound]

/-- The groups of an insert, one after the other. -/
lemma kept_forM_groups (hoid : Set.InjOn PartitionedRelation.oid Rs) (hR : R ∈ Rs)
    (hname : lowercase name = lowercase R.name)
    {groups : List (PartitionInsertGroup B)} (hnodup : (groups.map (·.partitionValue)).Nodup)
    (hstands : ∀ g ∈ groups, ∃ dt : DateTime, g.routeTs = some dt ∧
      StandsFor dt.micros (g.rows.map K.key) (storedKeys K R.oid g.partitionValue s))
    (h : Kept K Rs s)
    (hrun : Runs (groups.forM (insertPartitionGroup E { R with name := name })) s u t) :
    Kept K Rs t := by
  induction groups generalizing s with
  | nil =>
    obtain ⟨-, rfl⟩ := runs_pure.1 hrun
    exact h
  | cons group groups ih =>
    rw [List.map_cons, List.nodup_cons] at hnodup
    change Runs (insertPartitionGroup E { R with name := name } group >>= fun _ =>
      groups.forM (insertPartitionGroup E { R with name := name })) s u t at hrun
    obtain ⟨_, s₁, hfirst, hrest⟩ := runs_bind.1 hrun
    obtain ⟨dt, hts, hgroup⟩ := hstands group List.mem_cons_self
    obtain ⟨h₁, hkeys⟩ := kept_insertPartitionGroup hoid h hR hname hts hgroup hfirst
    refine ih hnodup.2 (fun g hg => ?_) h₁ hrest
    obtain ⟨dt', hts', hg'⟩ := hstands g (List.mem_cons_of_mem _ hg)
    refine ⟨dt', hts', ?_⟩
    rw [hkeys]
    · exact hg'
    · rintro ⟨-, hvalue⟩
      exact hnodup.1 (hvalue ▸ List.mem_map_of_mem hg)

/-! ### Expiry -/

/-- Tables that are dropped are found no more, the others as before. -/
lemma runs_dropTable (hrun : Runs (dropTable n : Eff (Partitions T D) PUnit) s u t) :
    t.entries = s.entries ∧ t.tables = s.tables.filter fun x => !sameIdentifier n x.name := by
  simp only [dropTable, runs_asks_bind, runs_ensure_bind, runs_modify] at hrun
  rw [hrun.2]
  exact ⟨rfl, rfl⟩

/-- The row of an expired partition. -/
def expired (parent : ℤ) (xs : List (PartitionEntry D × ChildRelation D)) (e : PartitionEntry D) :
    PartitionEntry D :=
  if e.parentRelid = parent ∧ ∃ x ∈ xs, x.1.partitionValue = e.partitionValue then
    { e with status := .dropped, child := none }
  else e

lemma expired_of_not {xs : List (PartitionEntry D × ChildRelation D)}
    (h : ¬ (e.parentRelid = parent ∧ ∃ x ∈ xs, x.1.partitionValue = e.partitionValue)) :
    expired parent xs e = e := if_neg h

lemma expired_of {xs : List (PartitionEntry D × ChildRelation D)}
    (h : e.parentRelid = parent ∧ ∃ x ∈ xs, x.1.partitionValue = e.partitionValue) :
    expired parent xs e = { e with status := .dropped, child := none } := if_pos h

lemma runs_expirePartition {x : PartitionEntry D × ChildRelation D}
    (hrun : Runs (expirePartition R x : Eff (Partitions T D) PUnit) s u t) :
    t.entries = s.entries.map (expired R.oid [x]) ∧
      t.tables = s.tables.filter fun y => !sameIdentifier x.2.relname y.name := by
  simp only [expirePartition, runs_modify_bind] at hrun
  obtain ⟨_, s₁, hdrop, hrun⟩ := runs_bind.1 hrun
  obtain ⟨hentries, htables⟩ := runs_dropTable (runs_mapError.1 hdrop)
  rw [runs_modify.1 hrun]
  refine ⟨?_, htables⟩
  simp only [Partitions.updateEntry, hentries, List.map_map]
  refine List.map_congr_left fun e _ => ?_
  rw [Function.comp_apply]
  by_cases hkey : e.parentRelid = R.oid ∧ x.1.partitionValue = e.partitionValue
  · simp [expired, hkey.1, hkey.2]
  · have hother : (e.parentRelid == R.oid && e.partitionValue == x.1.partitionValue) = false := by
      rw [Bool.and_eq_false_iff, beq_eq_false_iff_ne, beq_eq_false_iff_ne]
      exact not_and_or.1 fun h => hkey ⟨h.1, h.2.symm⟩
    simp [expired, hother, hkey]

lemma expired_expired (parent : ℤ) (x : PartitionEntry D × ChildRelation D)
    (xs : List (PartitionEntry D × ChildRelation D)) (e : PartitionEntry D) :
    expired parent xs (expired parent [x] e) = expired parent (x :: xs) e := by
  by_cases hx : e.parentRelid = parent ∧ x.1.partitionValue = e.partitionValue
  · rw [expired_of ⟨hx.1, x, List.mem_singleton.2 rfl, hx.2⟩,
      expired_of ⟨hx.1, x, List.mem_cons_self, hx.2⟩]
    unfold expired
    split_ifs <;> rfl
  · have hfirst : expired parent [x] e = e := by
      refine expired_of_not ?_
      rintro ⟨hparent, y, hy, hvalue⟩
      rw [List.mem_singleton.1 hy] at hvalue
      exact hx ⟨hparent, hvalue⟩
    rw [hfirst]
    refine if_congr (and_congr_right fun hparent => ?_) rfl rfl
    have hne : x.1.partitionValue ≠ e.partitionValue := fun hvalue => hx ⟨hparent, hvalue⟩
    simp [hne]

/-- After the loop the partitions have no child and their tables are gone. -/
lemma runs_forM_expirePartition {xs : List (PartitionEntry D × ChildRelation D)}
    (hrun : Runs (xs.forM (expirePartition R) : Eff (Partitions T D) PUnit) s u t) :
    t.entries = s.entries.map (expired R.oid xs) ∧
      t.tables = s.tables.filter fun y => !xs.any fun x => sameIdentifier x.2.relname y.name := by
  induction xs generalizing s with
  | nil =>
    obtain ⟨-, rfl⟩ := runs_pure.1 hrun
    refine ⟨?_, by simp⟩
    conv_lhs => rw [← List.map_id t.entries]
    exact List.map_congr_left fun e _ => (expired_of_not (by simp)).symm
  | cons x xs ih =>
    change Runs (expirePartition R x >>= fun _ => xs.forM (expirePartition R)) s u t at hrun
    obtain ⟨_, s₁, hfirst, hrest⟩ := runs_bind.1 hrun
    obtain ⟨hentries, htables⟩ := runs_expirePartition hfirst
    obtain ⟨hentries', htables'⟩ := ih hrest
    refine ⟨?_, ?_⟩
    · rw [hentries', hentries, List.map_map]
      exact List.map_congr_left fun e _ => expired_expired R.oid x xs e
    · rw [htables', htables, List.filter_filter]
      refine List.filter_congr fun y _ => ?_
      rw [List.any_cons, Bool.not_or, Bool.and_comm]

/-- Dropping the tables of some partitions of a relation leaves those of the others. -/
lemma Kept.findTable_eq (h : Kept K Rs s) {xs : List (PartitionEntry D × ChildRelation D)}
    (hxs : ∀ x ∈ xs, x.1 ∈ s.entries ∧ x.1.child = some x.2)
    (htables : t.tables = s.tables.filter fun y => !xs.any fun x => sameIdentifier x.2.relname y.name)
    (he : e ∈ s.entries) (hne : ∀ x ∈ xs, e ≠ x.1) {c : ChildRelation D} (hc : e.child = some c) :
    Partitions.findTable c.relname t = Partitions.findTable c.relname s := by
  refine findTable_filter (fun y hy => ?_) htables
  rw [Bool.not_eq_true', List.any_eq_false]
  intro x hx hsame
  obtain ⟨hmem, hchild⟩ := hxs x hx
  have hother := (h.apart_of_ne hmem he (Ne.symm (hne x hx))).names x.2 c hchild hc
  have hboth : sameIdentifier x.2.relname c.relname = true :=
    sameIdentifier_eq_true_iff.2
      ((sameIdentifier_eq_true_iff.1 hsame).trans (sameIdentifier_eq_true_iff.1 hy).symm)
  rw [sameIdentifier_eq_false hother] at hboth
  cases hboth

lemma parentRelid_of_mem_children {x : PartitionEntry D × ChildRelation D}
    (h : x ∈ Partitions.children parent s) : x.1.parentRelid = parent := by
  obtain ⟨e, he, hc⟩ := List.mem_filterMap.1 h
  obtain ⟨c, -, rfl⟩ := Option.map_eq_some_iff.1 hc
  exact eq_of_beq (List.mem_filter.1 ((List.mem_insertionSort _).1 he)).2

lemma kept_expireOldPartitions (h : Kept K Rs s)
    (hrun : Runs (expireOldPartitions R : Eff (Partitions T D) PUnit) s u t) : Kept K Rs t := by
  simp only [expireOldPartitions, runs_ite, runs_asks_bind] at hrun
  rcases hrun with ⟨-, hrun⟩ | ⟨-, hrun⟩
  · rw [(runs_pure.1 hrun).2]
    exact h
  · obtain ⟨hentries, htables⟩ := runs_forM_expirePartition hrun
    set xs := (Partitions.activeChildren R.oid s).take
      ((Partitions.activeChildren R.oid s).length - R.retentionCount.toNat) with hxsdef
    have hxs : ∀ x ∈ xs, x.1 ∈ s.entries ∧ x.1.child = some x.2 := fun x hx =>
      mem_children (List.mem_filter.1 (List.mem_of_mem_take hx)).1
    refine h.of_map_names hentries (fun e => ?_) (fun e c hc => ?_) (fun e he hactive => ?_)
      fun e he c hc => ?_
    · unfold expired
      split_ifs <;> exact ⟨rfl, rfl⟩
    · unfold expired at hc
      split_ifs at hc
      exact ⟨c, hc, rfl⟩
    · unfold expired at hactive ⊢
      split_ifs at hactive ⊢
      exact h.active e he hactive
    · unfold expired at hc ⊢
      split_ifs at hc ⊢ with hgone
      obtain ⟨content, hfound, hexact⟩ := h.exact e he c hc
      refine ⟨content, ?_, hexact⟩
      rw [h.findTable_eq hxs htables he ?_ hc, hfound]
      rintro x hx rfl
      have hchild := (List.mem_filter.1 (List.mem_of_mem_take hx)).1
      exact hgone ⟨parentRelid_of_mem_children hchild, x, hx, rfl⟩

/-! ### Statements -/

lemma kept_insertPartitionedRelation (hoid : Set.InjOn PartitionedRelation.oid Rs)
    (h : Kept K Rs s) (hR : R ∈ Rs) (hname : lowercase name = lowercase R.name)
    {rows : List (DateTime × B)}
    (hstands : ∀ value row rest, rowsFor R.partitionUnit value rows = row :: rest →
      StandsFor row.1.micros ((row :: rest).map fun row => K.key row.2)
        (storedKeys K R.oid value s))
    (hrun : Runs (insertPartitionedRelation E { R with name := name } rows) s u t) :
    Kept K Rs t := by
  obtain ⟨_, s₁, hgroups, hrun⟩ := runs_bind.1 hrun
  obtain ⟨_, s₂, hexpire, hrefresh⟩ := runs_bind.1 hrun
  have hgrouping := areGroupsOf_partitionInsertGroups R.partitionUnit rows
  have h₁ : Kept K Rs s₁ := by
    refine kept_forM_groups hoid hR hname hgrouping.nodup (fun g hg => ?_) h hgroups
    obtain ⟨hrows, hts, hne⟩ := hgrouping.group g hg
    obtain ⟨row, rest, hfor⟩ := List.exists_cons_of_ne_nil hne
    refine ⟨row.1, by rw [hts, hfor]; rfl, ?_⟩
    rw [hrows, List.map_map, hfor]
    exact hstands g.partitionValue row rest hfor
  exact (kept_expireOldPartitions h₁ hexpire).of_same
    (keeps_refreshPartitionEntrypoint _ _ _ _ hrefresh)

lemma kept_maintainPartitionedRelation (h : Kept K Rs s)
    (hrun : Runs (maintainPartitionedRelation E R) s u t) : Kept K Rs t := by
  obtain ⟨_, s₁, hexpire, hrefresh⟩ := runs_bind.1 hrun
  exact (kept_expireOldPartitions h hexpire).of_same
    (keeps_refreshPartitionEntrypoint _ _ _ _ hrefresh)

/-- A change of the status of one partition. -/
lemma Kept.setStatus (h : Kept K Rs s) (status childStatus : Status)
    (hactive : ∀ e ∈ s.entries, e.parentRelid = parent → e.partitionValue = value →
      status = .active → e.child.isSome)
    (ht : t = Partitions.updateEntry parent value (fun row => { row with
      status := status, child := row.child.map fun c => { c with status := childStatus } }) s) :
    Kept K Rs t := by
  let g (e : PartitionEntry D) : PartitionEntry D :=
    if e.parentRelid == parent && e.partitionValue == value then
      { e with status := status, child := e.child.map fun c => { c with status := childStatus } }
    else e
  have hentries : t.entries = s.entries.map g := by
    rw [ht]
    rfl
  have htables : t.tables = s.tables := by
    rw [ht]
    rfl
  have hkey (e : PartitionEntry D) :
      (g e).parentRelid = e.parentRelid ∧ (g e).partitionValue = e.partitionValue := by
    simp only [g]
    split_ifs <;> exact ⟨rfl, rfl⟩
  have hchild (e : PartitionEntry D) (c : ChildRelation D) (hc : (g e).child = some c) :
      ∃ d, e.child = some d ∧ c.relname = d.relname := by
    simp only [g] at hc
    split_ifs at hc
    · obtain ⟨d, hd, rfl⟩ := Option.map_eq_some_iff.1 hc
      exact ⟨d, hd, rfl⟩
    · exact ⟨c, hc, rfl⟩
  have hstats (e : PartitionEntry D) : (g e).stats = e.stats := by
    simp only [g]
    split_ifs <;> rfl
  refine h.of_map_names hentries hkey hchild (fun e he hstatus => ?_) fun e he c hc => ?_
  · simp only [g] at hstatus ⊢
    split_ifs at hstatus ⊢ with hthis
    · rw [Bool.and_eq_true] at hthis
      rw [Option.isSome_map]
      exact hactive e he (eq_of_beq hthis.1) (eq_of_beq hthis.2) hstatus
    · exact h.active e he hstatus
  · obtain ⟨d, hd, hname⟩ := hchild e c hc
    obtain ⟨content, hfound, hexact⟩ := h.exact e he d hd
    exact ⟨content, by rw [hname, findTable_of_tables htables, hfound], by rwa [hstats]⟩

lemma kept_markPartitionUnavailable (h : Kept K Rs s)
    (hrun : Runs (markPartitionUnavailable E R value) s u t) : Kept K Rs t := by
  simp only [markPartitionUnavailable, runs_asks_bind] at hrun
  rcases hchild : (Partitions.entry R.oid value s).bind (·.child) with _ | c
  · simp [hchild] at hrun
  · simp only [hchild, runs_modify_bind] at hrun
    refine Kept.of_same ?_ (keeps_refreshPartitionEntrypoint _ _ _ _ hrun)
    exact h.setStatus .failed .unavailable (fun _ _ _ _ heq => by cases heq) rfl

/-- A partition made anew has no rows, and nothing may be told of any. -/
lemma kept_recreatePartition (hoid : Set.InjOn PartitionedRelation.oid Rs) (h : Kept K Rs s)
    (hR : R ∈ Rs) (hname : lowercase name = lowercase R.name)
    (hfree : Partitions.relationExists (physicalPartitionName name value) s = false)
    (hstats : ∀ e ∈ s.entries, e.parentRelid = R.oid → e.partitionValue = value →
      e.stats = ⟨0, none, none⟩)
    (hrun : Runs (recreatePartition E { R with name := name } value) s u t) :
    Kept K Rs t ∧ ∀ e ∈ t.entries, e.parentRelid = R.oid → e.partitionValue = value →
      e.child.isSome := by
  obtain ⟨childOid, s₁, halloc, hrun⟩ := runs_bind.1 hrun
  obtain ⟨content, hcontent, hrun⟩ := runs_fromExcept_bind.1 hrun
  obtain ⟨_, s₂, hcreate, hrun⟩ := runs_bind.1 hrun
  rw [runs_modify_bind] at hrun
  obtain ⟨-, -, hindexes⟩ := runs_fromExcept_bind.1 hrun
  obtain ⟨hentries₁, htables₁⟩ := Prod.mk.inj (keeps_allocateOid _ _ _ halloc)
  obtain ⟨hentries₂, hnew, hother⟩ := findTable_createTable (runs_mapError.1 hcreate)
  obtain ⟨hentries₃, htables₃⟩ := Prod.mk.inj (keeps_createPartitionIndexes _ _ _ _ _ hindexes)
  let child : ChildRelation D :=
    ⟨physicalPartitionName name value, .active, E.loadColumns content⟩
  let g (e : PartitionEntry D) : PartitionEntry D :=
    if e.parentRelid == R.oid && e.partitionValue == value then { e with child := some child } else e
  have hentries : t.entries = s.entries.map g := by
    rw [hentries₃]
    change s₂.entries.map g = _
    rw [hentries₂, hentries₁]
  have hkeep (m : List Char) (c : T) (hm : Partitions.findTable m s = some c) :
      Partitions.findTable m t = some c := by
    rw [findTable_of_tables htables₃]
    exact hother m c (by rwa [findTable_of_tables htables₁])
  have htable : Partitions.findTable (physicalPartitionName name value) t = some content := by
    rw [findTable_of_tables htables₃]
    exact hnew
  have hcases (e : PartitionEntry D) : (e.parentRelid = R.oid ∧ e.partitionValue = value ∧
      g e = { e with child := some child }) ∨
      (¬ (e.parentRelid = R.oid ∧ e.partitionValue = value) ∧ g e = e) := by
    by_cases hkey : e.parentRelid = R.oid ∧ e.partitionValue = value
    · exact Or.inl ⟨hkey.1, hkey.2, by simp [g, hkey.1, hkey.2]⟩
    · exact Or.inr ⟨hkey, if_neg (by simpa using hkey)⟩
  have hnone := relationExists_eq_false_iff.1 hfree
  refine ⟨h.of_map hentries (fun e he f hf hef => ?_) (fun e he => ?_) (fun e he hactive => ?_)
    fun e he => ?_, ?_⟩
  · rcases hcases e with ⟨hp, hv, hge⟩ | ⟨-, hge⟩ <;> rcases hcases f with ⟨hp', hv', hgf⟩ | ⟨-, hgf⟩
    · exact absurd ⟨hp.trans hp'.symm, hv.trans hv'.symm⟩ hef.key
    · rw [hge, hgf]
      refine ⟨hef.key, fun c d hc hd => ?_⟩
      cases hc
      exact hnone f hf d hd
    · rw [hge, hgf]
      refine ⟨hef.key, fun c d hc hd => ?_⟩
      cases hd
      rw [sameName_comm]
      exact hnone e he c hc
    · rwa [hge, hgf]
  · rcases hcases e with ⟨hp, rfl, hge⟩ | ⟨-, hge⟩
    · rw [hge]
      exact namedBy_new hoid hR hname hp fun c hc => by cases hc; rfl
    · rw [hge]
      exact h.named e he
  · rcases hcases e with ⟨-, -, hge⟩ | ⟨-, hge⟩
    · rw [hge]
      rfl
    · rw [hge] at hactive ⊢
      exact h.active e he hactive
  · rcases hcases e with ⟨hp, hv, hge⟩ | ⟨-, hge⟩
    · rw [hge]
      intro c hc
      cases hc
      refine ⟨content, htable, ?_⟩
      rw [K.created _ _ hcontent]
      exact hstats e he hp hv ▸ exact_none
    · rw [hge]
      intro c hc
      obtain ⟨content', hfound, hexact⟩ := h.exact e he c hc
      exact ⟨content', hkeep _ _ hfound, hexact⟩
  · rw [hentries, List.forall_mem_map]
    intro e he hp hv
    rcases hcases e with ⟨-, -, hge⟩ | ⟨hnot, hge⟩
    · rw [hge]
      rfl
    · rw [hge] at hp hv
      exact absurd ⟨hp, hv⟩ hnot

lemma kept_repairNonActivePartition (hoid : Set.InjOn PartitionedRelation.oid Rs) (h : Kept K Rs s)
    (hR : R ∈ Rs) (hname : lowercase name = lowercase R.name)
    (hentry : Partitions.entry R.oid value s = some e)
    (hstats : e.child = none → e.stats = ⟨0, none, none⟩)
    (hrun : Runs (repairNonActivePartition E { R with name := name } value e) s u t) :
    Kept K Rs t := by
  have honly (f : PartitionEntry D) (hf : f ∈ s.entries) (hp : f.parentRelid = R.oid)
      (hv : f.partitionValue = value) : f = e :=
    Option.some.inj ((h.entry_eq_some_iff.2 ⟨hf, hp, hv⟩).symm.trans hentry)
  obtain ⟨hmem, hparent, hvalue⟩ := h.entry_eq_some_iff.1 hentry
  simp only [repairNonActivePartition, runs_asks_bind] at hrun
  split_ifs at hrun with hthere
  · obtain ⟨_, s₁, hvalid, hactivate⟩ := runs_bind.1 hrun
    rcases hchild : e.child with _ | c
    · simp [hchild, validatePartition] at hvalid
    · rw [hchild] at hvalid
      have hsame := keeps_validateTablePhysical _ _ _ _ hvalid
      refine (h.of_same hsame).setStatus _ _ (fun f hf hp hv _ => ?_) (runs_modify.1 hactivate)
      rw [(Prod.mk.inj hsame).1] at hf
      rw [honly f hf hp hv, hchild]
      rfl
  · obtain ⟨_, s₁, hrecreate, hactivate⟩ := runs_bind.1 hrun
    have hfree : Partitions.relationExists (physicalPartitionName name value) s = false := by
      simpa using hthere
    have hnone : e.child = none := by
      rcases hchild : e.child with _ | c
      · rfl
      · have hdifferent := relationExists_eq_false_iff.1 hfree e hmem c hchild
        have hsame : sameName (physicalPartitionName name value) c.relname = true := by
          rw [sameName_eq_true_iff, h.named e hmem R hR hparent c hchild, hvalue]
          exact sameName_physicalPartitionName value hname
        rw [hdifferent] at hsame
        cases hsame
    obtain ⟨h₁, hchildren⟩ := kept_recreatePartition hoid h hR hname hfree
      (fun f hf hp hv => honly f hf hp hv ▸ hstats hnone) hrecreate
    exact h₁.setStatus _ _ (fun f hf hp hv _ => hchildren f hf hp hv) (runs_modify.1 hactivate)

lemma kept_repairPartition (hoid : Set.InjOn PartitionedRelation.oid Rs) (h : Kept K Rs s)
    (hR : R ∈ Rs) (hname : lowercase name = lowercase R.name)
    (hstats : ∀ e, Partitions.entry R.oid value s = some e → e.child = none →
      e.stats = ⟨0, none, none⟩)
    (hrun : Runs (repairPartition E { R with name := name } value) s u t) : Kept K Rs t := by
  simp only [repairPartition, runs_asks_bind] at hrun
  rcases hentry : Partitions.entry R.oid value s with _ | e
  · simp [hentry] at hrun
  · rw [hentry] at hrun
    obtain ⟨_, s₁, hrepair, hrefresh⟩ := runs_bind.1 hrun
    refine Kept.of_same ?_ (keeps_refreshPartitionEntrypoint _ _ _ _ hrefresh)
    unfold repairEntry at hrepair
    split at hrepair
    · exact h.of_same (keeps_validateTablePhysical _ _ _ _ hrepair)
    · rw [(runs_pure.1 hrepair).2]
      exact h
    · exact kept_repairNonActivePartition hoid h hR hname hentry (hstats e hentry) hrepair

lemma keeps_createIndexOnPartitions (spec : PartitionIndexSpec) :
    Keeps (Same rowsAndTables) (createIndexOnPartitions E R spec) := by
  intro s u t h
  simp only [createIndexOnPartitions, runs_asks_bind] at h
  obtain ⟨_, s₁, hindexes, hspec⟩ := runs_bind.1 h
  have ht := runs_modify.1 hspec
  have hsame : Keeps (Same rowsAndTables) ((Partitions.activeChildren R.oid s).forM fun c =>
      createPartitionIndex E spec c.2.relname) :=
    keeps_forM fun c _ => keeps_createPartitionIndex spec c.2.relname
  have hs₁ : rowsAndTables s₁ = rowsAndTables s := hsame _ _ _ hindexes
  rw [ht]
  exact hs₁

lemma runs_forM_dropTable {xs : List (PartitionEntry D × ChildRelation D)}
    {message : PartitionEntry D × ChildRelation D → String → String}
    (hrun : Runs (xs.forM fun c => mapError (message c)
      (dropTable c.2.relname : Eff (Partitions T D) PUnit)) s u t) :
    t.entries = s.entries ∧
      t.tables = s.tables.filter fun y => !xs.any fun x => sameIdentifier x.2.relname y.name := by
  induction xs generalizing s with
  | nil =>
    obtain ⟨-, rfl⟩ := runs_pure.1 hrun
    exact ⟨rfl, by simp⟩
  | cons x xs ih =>
    obtain ⟨_, s₁, hfirst, hrest⟩ := runs_bind.1 hrun
    obtain ⟨hentries, htables⟩ := runs_dropTable (runs_mapError.1 hfirst)
    obtain ⟨hentries', htables'⟩ := ih hrest
    refine ⟨hentries'.trans hentries, ?_⟩
    rw [htables', htables, List.filter_filter]
    refine List.filter_congr fun y _ => ?_
    rw [List.any_cons, Bool.not_or, Bool.and_comm]

/-- A relation goes with its partitions and their tables. -/
lemma kept_dropPartitionedRelation (h : Kept K Rs s)
    (hrun : Runs (dropPartitionedRelation R : Eff (Partitions T D) PUnit) s u t) :
    Kept K Rs t := by
  simp only [dropPartitionedRelation, runs_asks_bind, runs_modify_bind] at hrun
  obtain ⟨_, s₁, hdrop, hdelete⟩ := runs_bind.1 hrun
  obtain ⟨hentries, htables⟩ := runs_forM_dropTable hdrop
  have hentries' : t.entries = s.entries.filter (·.parentRelid != R.oid) := by
    rw [runs_modify.1 hdelete]
    exact congrArg _ hentries
  have htables' : t.tables = s.tables.filter fun y =>
      !(Partitions.children R.oid s).any fun x => sameIdentifier x.2.relname y.name := by
    rw [runs_modify.1 hdelete]
    exact htables
  have hmem (e : PartitionEntry D) (he : e ∈ t.entries) :
      e ∈ s.entries ∧ e.parentRelid ≠ R.oid := by
    rw [hentries'] at he
    simpa using he
  refine ⟨?_, fun e he => h.named e (hmem e he).1, fun e he => h.active e (hmem e he).1,
    fun e he c hc => ?_⟩
  · rw [hentries']
    exact h.apart.filter _
  · obtain ⟨hes, hother⟩ := hmem e he
    obtain ⟨content, hfound, hexact⟩ := h.exact e hes c hc
    refine ⟨content, ?_, hexact⟩
    rw [h.findTable_eq (fun x hx => mem_children hx) htables' hes ?_ hc, hfound]
    rintro x hx rfl
    exact hother (parentRelid_of_mem_children hx)

/-- **A statement** keeps the statistics exact under its condition. -/
lemma Kept.step (hoid : Set.InjOn PartitionedRelation.oid Rs) (h : Kept K Rs s)
    {x : PartitionStatement B} (hx : x.Proper Rs) (hok : KeepsStats K s x) :
    Kept K Rs (x.after E s) := by
  obtain ⟨R, name, op⟩ := x
  obtain ⟨hR, hname, -⟩ := hx
  unfold PartitionStatement.after
  rcases hout : PartitionStatement.outcome E ⟨R, name, op⟩ s with error | u
  · exact h
  · have hrun : Runs (performPartitionOp E { R with name := name } op) s u
        (exec (PartitionStatement.perform E ⟨R, name, op⟩) s).2 := Prod.ext hout rfl
    cases op with
    | insert rows => exact kept_insertPartitionedRelation hoid h hR hname hok hrun
    | maintain => exact kept_maintainPartitionedRelation h hrun
    | markUnavailable value => exact kept_markPartitionUnavailable h hrun
    | repair value => exact kept_repairPartition hoid h hR hname hok hrun
    | createIndex spec => exact h.of_same (keeps_createIndexOnPartitions spec _ _ _ hrun)
    | drop => exact kept_dropPartitionedRelation h hrun

/-- **Statistics are exact** after every run whose statements meet the condition. -/
theorem statsExact_of_run (hoid : Set.InjOn PartitionedRelation.oid Rs) (K : StoredKeys E)
    {xs : List (PartitionStatement B)} (hproper : ∀ x ∈ xs, x.Proper Rs)
    (hs : s.entries = []) (hok : (partitionRuns E).Along (KeepsStats K) s xs)
    (hrun : (partitionRuns E).run s xs = some t) : StatsExact K t := by
  have hkept : Kept K Rs s := by
    refine ⟨?_, ?_, ?_, ?_⟩ <;> rw [hs] <;> simp
  have hall : (partitionRuns E).Along (fun s x => x.Proper Rs ∧ KeepsStats K s x) s xs :=
    System.along_and (System.along_of_forall (fun x hx _ => hproper x hx) s) hok
  have hstep (s : Partitions T D) (x : PartitionStatement B) (t : Partitions T D) (h : Kept K Rs s)
      (hx : x.Proper Rs ∧ KeepsStats K s x) (hstep : (partitionRuns E).step s x = some t) :
      Kept K Rs t := by
    cases hstep
    exact h.step hoid hx.1 hx.2
  exact (System.invariant hstep hkept hall hrun).statsExact

end Kept

/-! ### Two rows in one statement -/

/-- An engine whose tables are the keys of their rows. -/
def keyTables : PartitionEngine (List ℤ) Unit ℤ where
  createTable _ := .ok []
  loadColumns _ := ()
  columnsMatch _ _ := .ok ()
  insertRows content rows := .ok (content ++ rows)
  buildIndex _ _ := .ok ()
  unionAll _ := .ok ()

def keysOfTables : StoredKeys keyTables where
  keys content := content
  key row := row
  created _ _ h := by cases h; rfl
  inserted _ _ _ h := by cases h; simp

/-- The table `events` by day, of which the last `retentionCount` days are kept. -/
def dailyEvents (retentionCount : ℤ) : PartitionedRelation :=
  { events 20001 "a" with retentionCount := retentionCount }

def onEvents (retentionCount : ℤ) (op : PartitionOp ℤ) : PartitionStatement ℤ where
  relation := dailyEvents retentionCount
  name := "events".toList
  op := op

/-- An insert of rows with these times. -/
def insertTimes (retentionCount : ℤ) (times : List DateTime) : PartitionStatement ℤ :=
  onEvents retentionCount (.insert (times.map fun dt => (dt, dt.micros)))

def nineOClock : DateTime := { tenOClock with hour := 9, hourOk := by decide }

def nextDay : DateTime :=
  { tenOClock with date := Date.of 2026 7 11 (Eq.refl true) }

lemma standsFor_self (k : ℤ) (stored : Multiset ℤ) : StandsFor k [k] stored where
  earliest _ hl := Or.inl (List.mem_singleton.1 hl).ge
  latest _ hl := Or.inl (List.mem_singleton.1 hl).le
  notEarlier := Or.inl (List.mem_singleton.2 rfl)
  notLater := Or.inl (List.mem_singleton.2 rfl)

/-- One row a statement. -/
lemma keepsStats_insertTimes (retentionCount : ℤ) (dt : DateTime) (s : Partitions (List ℤ) Unit) :
    KeepsStats keysOfTables s (insertTimes retentionCount [dt]) := by
  intro value row rest hrows
  change rowsFor PartitionUnit.day value [(dt, dt.micros)] = row :: rest at hrows
  have hone : rowsFor PartitionUnit.day value [(dt, dt.micros)] = [(dt, dt.micros)] ∨
      rowsFor PartitionUnit.day value [(dt, dt.micros)] = [] := by
    unfold rowsFor
    rw [List.filter_cons, List.filter_nil]
    split_ifs <;> simp
  rcases hone with h | h
  · obtain ⟨rfl, rfl⟩ := List.cons.inj (h.symm.trans hrows)
    exact standsFor_self _ _
  · rw [h] at hrows
    cases hrows

lemma proper_onEvents (retentionCount : ℤ) {op : PartitionOp ℤ}
    (h : op.Of (dailyEvents retentionCount)) :
    (onEvents retentionCount op).Proper {dailyEvents retentionCount} :=
  ⟨rfl, rfl, h⟩

/-- Two rows of a day, the later one first, in two statements. -/
theorem statsExact_of_run_two : ∃ t, (partitionRuns keyTables).run { nextOid := 20002 }
      [insertTimes 1 [tenOClock], insertTimes 1 [nineOClock]] = some t ∧
    StatsExact keysOfTables t := by
  have hproper : ∀ x ∈ [insertTimes 1 [tenOClock], insertTimes 1 [nineOClock]],
      x.Proper {dailyEvents 1} := by
    intro x hx
    rcases List.mem_pair.1 hx with rfl | rfl <;> exact proper_onEvents 1 trivial
  have hok : (partitionRuns keyTables).Along (KeepsStats keysOfTables) { nextOid := 20002 }
      [insertTimes 1 [tenOClock], insertTimes 1 [nineOClock]] := by
    refine System.along_of_forall (fun x hx s => ?_) _
    rcases List.mem_pair.1 hx with rfl | rfl <;> exact keepsStats_insertTimes 1 _ s
  exact ⟨_, rfl, statsExact_of_run (Set.injOn_singleton _ _) keysOfTables hproper rfl hok rfl⟩

/-- The partition of the tenth of July, with these statistics. -/
def tenthOfJuly (status : Status) (childRelid : ℤ) (stats : PartitionStats) :
    PartitionEntry Unit where
  parentRelid := 20001
  partitionValue := "20260710".toList
  childRelid := childRelid
  status := status
  child := some ⟨"events_20260710".toList, .active, ()⟩
  stats := stats

/-- After the two statements and the repair. -/
def afterRepair : Partitions (List ℤ) Unit :=
  (onEvents 1 (.repair "20260710".toList)).after keyTables
    ((insertTimes 1 [nextDay]).after keyTables
      ((insertTimes 1 [tenOClock]).after keyTables { nextOid := 20002 }))

lemma not_exact_two_times : ¬ PartitionStats.Exact
    ⟨2, some tenOClock.micros, some tenOClock.micros⟩ {tenOClock.micros, nineOClock.micros} := by
  intro h
  have hleast := ((h.minTs _).1 rfl).2
  have hle : tenOClock.micros ≤ nineOClock.micros := hleast (by simp)
  exact absurd hle (by decide)

/-- In one statement the earlier one is not told of; and a partition that was dropped and is
repaired keeps the statistics of the rows it had. -/
theorem stats_of_first_row :
    (∃ t, (partitionRuns keyTables).run { nextOid := 20002 }
        [insertTimes 1 [tenOClock, nineOClock]] = some t ∧ ¬ StatsExact keysOfTables t) ∧
      ∃ t, (partitionRuns keyTables).run { nextOid := 20002 }
        [insertTimes 1 [tenOClock], insertTimes 1 [nextDay],
          onEvents 1 (.repair "20260710".toList)] = some t ∧ ¬ StatsExact keysOfTables t := by
  constructor
  · refine ⟨(insertTimes 1 [tenOClock, nineOClock]).after keyTables { nextOid := 20002 }, rfl,
      fun h => ?_⟩
    have hentries : ((insertTimes 1 [tenOClock, nineOClock]).after keyTables
          { nextOid := 20002 }).entries =
        [tenthOfJuly .active 20002 ⟨2, some tenOClock.micros, some tenOClock.micros⟩] := by rfl
    obtain ⟨c, content, hc, hfound, hexact⟩ :=
      h _ (hentries ▸ List.mem_singleton.2 rfl) rfl
    cases hc
    cases hfound
    exact not_exact_two_times hexact
  · refine ⟨afterRepair, rfl, fun h => ?_⟩
    have hentries : afterRepair.entries.head? =
        some (tenthOfJuly .active 20002 ⟨1, some tenOClock.micros, some tenOClock.micros⟩) := by rfl
    obtain ⟨c, content, hc, hfound, hexact⟩ := h _ (List.mem_of_head? hentries) rfl
    cases hc
    cases hfound
    exact absurd hexact.rowCount (by decide)

end Rsduck.Catalog.Partition
