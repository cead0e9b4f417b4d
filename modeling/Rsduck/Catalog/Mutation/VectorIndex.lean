import Rsduck.Catalog.Mutation.Executor
import Rsduck.Db.Vector

/-!
Building a vector index anew, and compacting it.

Both set the status of the index before and after the work, each time in a statement of its
own; when the work fails, the index keeps the status `failed` and the error.
-/

namespace Rsduck.Catalog

open Lib Lib.Eff Db

/-- The engine's vector indexes. -/
structure IndexEngine (P : Type) extends VectorEngine P where
  loadedVssVersion : P → Except String String
  dropIndexIfExists : (indexName : String) → P → Except String P
  createHnswIndex : VectorIndexStatus → P → Except String P
  compactHnswIndex : (indexName : String) → P → Except String P

/-! ### The status of an index -/

def vectorIndexTransitionAllowed (current next : BuildStatus) : Bool :=
  match current, next with
  | .pending, .building | .pending, .failed | .pending, .unavailable
  | .building, .active | .building, .failed | .building, .unavailable
  | .active, .rebuilding | .active, .compacting | .active, .stale | .active, .unavailable
  | .rebuilding, .active | .rebuilding, .failed | .rebuilding, .unavailable
  | .compacting, .active | .compacting, .failed | .compacting, .unavailable
  | .stale, .rebuilding | .stale, .unavailable
  | .failed, .rebuilding | .failed, .unavailable
  | .unavailable, .rebuilding => true
  | _, _ => false

def VectorIndexRow.setStatus (status : BuildStatus) (errorMessage : String) (v : VectorIndexRow) :
    VectorIndexRow :=
  { v with buildStatus := status, errorMessage }

def transitionVectorIndexStatus (indexOid : ℤ) (next : BuildStatus) (errorMessage : String) :
    Eff Catalog PUnit := do
  let current ← queryRow Slot.vectorIndex "read vector index runtime status failed: "
    (·.indexrelid == indexOid)
  ensure (vectorIndexTransitionAllowed current.buildStatus next)
    ("INVALID_INDEX_STATE_TRANSITION: " ++ current.buildStatus.text ++ " -> " ++ next.text)
  updateRows Slot.vectorIndex (·.indexrelid == indexOid) (.setStatus next errorMessage)
    fun _ _ => rfl
  refreshCatalogChecksum

/-! ### Rebuilding and compacting -/

section Maintenance

variable {P : Type} (V : IndexEngine P)

/-- A change of the engine's own state. -/
def onPhysical (context : String) (f : P → Except String P) : Eff (Db P) PUnit := do
  let d ← get
  let p ← mapError (context ++ ·) (fromExcept (f d.phys))
  set { d with phys := p }

/-- The transaction of a rebuild. -/
def rebuildTransaction (status : VectorIndexStatus) (vectorSpace : String) :
    Eff (Db P) PUnit := do
  let journalId ← onCatalog (insertJournal "rebuild_vector_index" status.indexOid vectorSpace)
  onPhysical "drop HNSW index for rebuild failed: " (V.dropIndexIfExists status.indexName)
  onPhysical "recreate HNSW index failed: " (V.createHnswIndex status)
  let vectorCount : ℤ := (← vectorRows V.toVectorEngine status).countP fun r => r.embedding.isSome
  let extensionVersion ← fromExcept (V.loadedVssVersion (← get).phys)
  onCatalog (updateRows Slot.vectorIndex (·.indexrelid == status.indexOid)
    (fun v => { v with generation := v.generation + 1, extensionVersion, vectorCount })
    fun _ _ => rfl)
  onCatalog (transitionVectorIndexStatus status.indexOid .active "")
  onCatalog (updateRows Slot.relation (·.oid == status.indexOid)
    (fun r => { r with status := .active, errorMessage := "" }) fun _ _ => rfl)
  onCatalog (finishJournal journalId)

def rebuildVectorIndex (vectorSpace : String) : Eff (Session (Db P)) VectorIndexStatus := do
  let status ← Session.statement (onCatalog (vectorIndexStatus vectorSpace))
  Session.statement (onCatalog (transitionVectorIndexStatus status.indexOid .rebuilding ""))
  match ← attempt (runCatalogTx V.refuse { run := rebuildTransaction V status vectorSpace }) with
  | .ok _ => Session.statement (onCatalog (vectorIndexStatus vectorSpace))
  | .error e =>
    Session.statement (onCatalog (transitionVectorIndexStatus status.indexOid .failed e))
    throw e

def compactVectorIndex (vectorSpace : String) : Eff (Session (Db P)) VectorIndexStatus := do
  let status ← Session.statement (onCatalog (vectorIndexStatus vectorSpace))
  ensure (status.buildStatus == .active)
    ("INDEX_UNAVAILABLE: vector space " ++ vectorSpace ++ " status=" ++ status.buildStatus.text)
  Session.statement (onCatalog (transitionVectorIndexStatus status.indexOid .compacting ""))
  match ← attempt (Session.statement
      (onPhysical "compact HNSW index failed: " (V.compactHnswIndex status.indexName))) with
  | .ok _ =>
    Session.statement (onCatalog (transitionVectorIndexStatus status.indexOid .active ""))
    Session.statement (onCatalog (vectorIndexStatus vectorSpace))
  | .error e =>
    Session.statement (onCatalog (transitionVectorIndexStatus status.indexOid .failed e))
    throw e

end Maintenance

/-! ### What a failure leaves -/

/-- The catalog with the index's status set, and its checksum brought up to date. -/
def markVectorIndex (indexOid : ℤ) (status : BuildStatus) (errorMessage : String) (c : Catalog) :
    Catalog :=
  let marked := { c with
    rsVectorIndex := c.rsVectorIndex.update (·.indexrelid == indexOid)
      (.setStatus status errorMessage) fun _ _ => rfl }
  setCatalogChecksum (calculateCatalogChecksum marked) marked

lemma runs_transitionVectorIndexStatus {indexOid : ℤ} {next : BuildStatus} {errorMessage : String}
    {c c' : Catalog} {u : PUnit} :
    Runs (transitionVectorIndexStatus indexOid next errorMessage) c u c' ↔
      ∃ v, c.rsVectorIndex.find (·.indexrelid == indexOid) = some v ∧
        vectorIndexTransitionAllowed v.buildStatus next = true ∧
          c' = markVectorIndex indexOid next errorMessage c := by
  unfold transitionVectorIndexStatus
  simp only [runs_bind, runs_queryRow, runs_ensure, runs_refreshCatalogChecksum]
  constructor
  · rintro ⟨v, _, ⟨hv, rfl⟩, _, _, ⟨hallowed, rfl⟩, _, _, hupdate, rfl⟩
    obtain rfl := runs_updateRows.1 hupdate
    exact ⟨v, hv, hallowed, rfl⟩
  · rintro ⟨v, hv, hallowed, rfl⟩
    exact ⟨v, c, ⟨hv, rfl⟩, ⟨⟩, c, ⟨hallowed, rfl⟩, ⟨⟩, _, runs_updateRows.2 rfl, rfl⟩

lemma find_markVectorIndex {indexOid : ℤ} {status : BuildStatus} {errorMessage : String}
    {c : Catalog} {v : VectorIndexRow}
    (h : c.rsVectorIndex.find (·.indexrelid == indexOid) = some v) :
    (markVectorIndex indexOid status errorMessage c).rsVectorIndex.find (·.indexrelid == indexOid) =
      some (v.setStatus status errorMessage) := by
  unfold Table.find at h ⊢
  have hv : (v.indexrelid == indexOid) = true :=
    List.find?_some (p := fun x : VectorIndexRow => x.indexrelid == indexOid) h
  change List.find? _ (List.map _ _) = _
  rw [List.find?_map]
  have hsame : ((fun x : VectorIndexRow => x.indexrelid == indexOid) ∘ fun r =>
      if r.indexrelid == indexOid then r.setStatus status errorMessage else r) =
        fun x => x.indexrelid == indexOid := by
    funext r
    rw [Function.comp_apply]
    split_ifs <;> rfl
  rw [hsame, h, Option.map_some, if_pos hv]

/-- Only the last of two statuses is left. -/
lemma markVectorIndex_markVectorIndex (indexOid : ℤ) (status status' : BuildStatus)
    (e e' : String) (c : Catalog) :
    markVectorIndex indexOid status e (markVectorIndex indexOid status' e' c) =
      markVectorIndex indexOid status e c := by
  have htable := Table.update_update (·.indexrelid == indexOid)
    (VectorIndexRow.setStatus status' e') (VectorIndexRow.setStatus status e) (fun _ _ => rfl)
    (fun _ _ => rfl) (fun _ => rfl) (fun _ => rfl) c.rsVectorIndex
  have hmarked : ∀ x M, ({ setCatalogChecksum x M with
      rsVectorIndex := (setCatalogChecksum x M).rsVectorIndex.update (·.indexrelid == indexOid)
        (.setStatus status e) fun _ _ => rfl } : Catalog) =
      setCatalogChecksum x { M with
        rsVectorIndex := M.rsVectorIndex.update (·.indexrelid == indexOid)
          (.setStatus status e) fun _ _ => rfl } := fun _ _ => rfl
  unfold markVectorIndex
  simp only [hmarked, calculate_setCatalogChecksum, setCatalogChecksum_setCatalogChecksum, htable]


/-! ### Vector spaces stay known -/

/-- Whatever changes, the indexes keep their vector spaces and their places. -/
structure KeepsVectorIndexes (c c' : Catalog) : Prop where
  index : c'.rsIndex = c.rsIndex
  schema : c'.rsSchema = c.rsSchema
  column : c'.rsColumn = c.rsColumn
  vectorIndex : ∀ v ∈ c.rsVectorIndex.rows, ∃ v' ∈ c'.rsVectorIndex.rows,
    v'.indexrelid = v.indexrelid ∧ v'.vectorSpace = v.vectorSpace
  relation : ∀ r ∈ c.rsRelation.rows, ∃ r' ∈ c'.rsRelation.rows,
    r'.oid = r.oid ∧ r'.relnamespace = r.relnamespace

instance : Frame KeepsVectorIndexes where
  refl _ := ⟨rfl, rfl, rfl, fun v hv => ⟨v, hv, rfl, rfl⟩, fun r hr => ⟨r, hr, rfl, rfl⟩⟩
  trans h h' := by
    refine ⟨h'.index.trans h.index, h'.schema.trans h.schema, h'.column.trans h.column,
      fun v hv => ?_, fun r hr => ?_⟩
    · obtain ⟨v', hv', hid, hspace⟩ := h.vectorIndex v hv
      obtain ⟨v'', hv'', hid', hspace'⟩ := h'.vectorIndex v' hv'
      exact ⟨v'', hv'', hid'.trans hid, hspace'.trans hspace⟩
    · obtain ⟨r', hr', hid, hns⟩ := h.relation r hr
      obtain ⟨r'', hr'', hid', hns'⟩ := h'.relation r' hr'
      exact ⟨r'', hr'', hid'.trans hid, hns'.trans hns⟩

lemma mem_vectorIndexRows {c : Catalog} {vectorSpace : String} {s : VectorIndexStatus}
    (h : s ∈ vectorIndexRows c vectorSpace) :
    ∃ v ∈ c.rsVectorIndex.rows, v.vectorSpace = vectorSpace ∧
      ∃ x ∈ c.rsIndex.rows, x.indexrelid = v.indexrelid ∧
      ∃ i ∈ c.rsRelation.rows, i.oid = v.indexrelid ∧
      ∃ t ∈ c.rsRelation.rows, t.oid = x.indrelid ∧
      ∃ n ∈ c.rsSchema.rows, n.oid = t.relnamespace ∧
      ∃ a ∈ c.rsColumn.rows, a.attrelid = t.oid ∧ toString a.attnum = x.indkey := by
  simp only [vectorIndexRows, joinVectorIndex, Table.select, List.mem_flatMap, List.mem_map,
    List.mem_filter, beq_iff_eq, Bool.and_eq_true] at h
  obtain ⟨v, ⟨hv, hspace⟩, x, ⟨hx, hxv⟩, i, ⟨hi, hiv⟩, t, ⟨ht, htx⟩, n, ⟨hn, hnt⟩, a,
    ⟨ha, hat, hax⟩, -⟩ := h
  exact ⟨v, hv, hspace, x, hx, hxv, i, hi, hiv, t, ht, htx, n, hn, hnt, a, ha, hat, hax⟩

/-- A vector space that had an index has one. -/
lemma KeepsVectorIndexes.rows_ne_nil {c c' : Catalog} (h : KeepsVectorIndexes c c')
    {vectorSpace : String} (hc : vectorIndexRows c vectorSpace ≠ []) :
    vectorIndexRows c' vectorSpace ≠ [] := by
  obtain ⟨s, hs⟩ := List.exists_mem_of_ne_nil _ hc
  obtain ⟨v, hv, hspace, x, hx, hxv, i, hi, hiv, t, ht, htx, n, hn, hnt, a, ha, hat, hax⟩ :=
    mem_vectorIndexRows hs
  obtain ⟨v', hv', hvid, hvspace⟩ := h.vectorIndex v hv
  obtain ⟨i', hi', hiid, -⟩ := h.relation i hi
  obtain ⟨t', ht', htid, htns⟩ := h.relation t ht
  rw [← h.index] at hx
  rw [← h.schema] at hn
  rw [← h.column] at ha
  refine List.ne_nil_of_mem (a := { s with
    indexOid := v'.indexrelid, vectorSpace := v'.vectorSpace, schema := n.nspname
    table := t'.relname, column := a.attname, indexName := i'.relname
    embeddingModel := v'.embeddingModel, modelVersion := v'.modelVersion
    dimension := v'.dimension, metric := v'.metric, m := v'.m, m0 := v'.m0
    efConstruction := v'.efConstruction, defaultEfSearch := v'.defaultEfSearch
    definitionVersion := v'.definitionVersion, generation := v'.generation
    extensionVersion := v'.extensionVersion, buildStatus := v'.buildStatus
    vectorCount := v'.vectorCount, errorMessage := v'.errorMessage }) ?_
  simp only [vectorIndexRows, joinVectorIndex, Table.select, List.mem_flatMap, List.mem_map,
    List.mem_filter, beq_iff_eq, Bool.and_eq_true]
  exact ⟨v', ⟨hv', hvspace.trans hspace⟩, x, ⟨hx, hxv.trans hvid.symm⟩, i',
    ⟨hi', hiid.trans (hiv.trans hvid.symm)⟩, t', ⟨ht', htid.trans htx⟩, n,
    ⟨hn, hnt.trans htns.symm⟩, a, ⟨ha, hat.trans htid.symm, hax⟩, rfl⟩

/-- Other tables do not matter. -/
lemma keepsVectorIndexes_of_eq {c c' : Catalog} (hi : c'.rsIndex = c.rsIndex)
    (hs : c'.rsSchema = c.rsSchema) (hc : c'.rsColumn = c.rsColumn)
    (hv : c'.rsVectorIndex = c.rsVectorIndex) (hr : c'.rsRelation = c.rsRelation) :
    KeepsVectorIndexes c c' :=
  ⟨hi, hs, hc, fun v h => ⟨v, hv ▸ h, rfl, rfl⟩, fun r h => ⟨r, hr ▸ h, rfl, rfl⟩⟩

lemma keeps_updateVectorIndex (p : VectorIndexRow → Bool) (f : VectorIndexRow → VectorIndexRow)
    (hf : Table.KeepsKey f) (hid : ∀ v, (f v).indexrelid = v.indexrelid)
    (hspace : ∀ v, (f v).vectorSpace = v.vectorSpace) :
    Keeps KeepsVectorIndexes (updateRows Slot.vectorIndex p f hf) := by
  intro c _ c' h
  obtain rfl := runs_updateRows.1 h
  refine ⟨rfl, rfl, rfl, fun v hv => ?_, fun r hr => ⟨r, hr, rfl, rfl⟩⟩
  refine ⟨_, List.mem_map_of_mem hv, ?_⟩
  split_ifs
  · exact ⟨hid v, hspace v⟩
  · exact ⟨rfl, rfl⟩

lemma keeps_updateRelation (p : RelationRow → Bool) (f : RelationRow → RelationRow)
    (hf : Table.KeepsKey f) (hid : ∀ r, (f r).oid = r.oid)
    (hns : ∀ r, (f r).relnamespace = r.relnamespace) :
    Keeps KeepsVectorIndexes (updateRows Slot.relation p f hf) := by
  intro c _ c' h
  obtain rfl := runs_updateRows.1 h
  refine ⟨rfl, rfl, rfl, fun v hv => ⟨v, hv, rfl, rfl⟩, fun r hr => ?_⟩
  refine ⟨_, List.mem_map_of_mem hr, ?_⟩
  split_ifs
  · exact ⟨hid r, hns r⟩
  · exact ⟨rfl, rfl⟩

instance : SeesNoJournal KeepsVectorIndexes where
  oidAlloc _ _ := keepsVectorIndexes_of_eq rfl rfl rfl rfl rfl
  journal _ _ := keepsVectorIndexes_of_eq rfl rfl rfl rfl rfl
  version _ _ := keepsVectorIndexes_of_eq rfl rfl rfl rfl rfl

lemma keepsVectorIndexes_markVectorIndex (indexOid : ℤ) (status : BuildStatus) (e : String)
    (c : Catalog) : KeepsVectorIndexes c (markVectorIndex indexOid status e c) := by
  refine ⟨rfl, rfl, rfl, fun v hv => ?_, fun r hr => ⟨r, hr, rfl, rfl⟩⟩
  refine ⟨_, List.mem_map_of_mem hv, ?_⟩
  split_ifs
  · exact ⟨rfl, rfl⟩
  · exact ⟨rfl, rfl⟩

lemma keeps_transitionVectorIndexStatus (indexOid : ℤ) (next : BuildStatus) (e : String) :
    Keeps KeepsVectorIndexes (transitionVectorIndexStatus indexOid next e) := by
  intro c _ c' h
  obtain ⟨v, -, -, rfl⟩ := runs_transitionVectorIndexStatus.1 h
  exact keepsVectorIndexes_markVectorIndex indexOid next e c

/-- A relation between catalogs, as one between databases. -/
def OnCatalog {P : Type} (R : Catalog → Catalog → Prop) (d d' : Db P) : Prop := R d.cat d'.cat

instance {P : Type} (R : Catalog → Catalog → Prop) [Frame R] : Frame (OnCatalog (P := P) R) where
  refl d := Frame.refl (R := R) d.cat
  trans h h' := Frame.trans (R := R) h h'

lemma keeps_onCatalog {P α : Type} {R : Catalog → Catalog → Prop} {m : Eff Catalog α}
    (hm : Keeps R m) : Keeps (OnCatalog (P := P) R) (Db.onCatalog m) := by
  intro d a d' h
  exact hm _ _ _ (Db.runs_onCatalog.1 h).1

section Maintenance

variable {P : Type} (V : IndexEngine P)

lemma keeps_onPhysical {R : Catalog → Catalog → Prop} [Frame R] (context : String)
    (f : P → Except String P) : Keeps (OnCatalog R) (onPhysical context f) := by
  intro d _ d' h
  simp only [onPhysical, runs_bind, runs_get, runs_mapError, runs_fromExcept, runs_set] at h
  obtain ⟨_, _, ⟨rfl, rfl⟩, p, _, ⟨-, rfl⟩, rfl⟩ := h
  exact Frame.refl (R := R) _

lemma keeps_rebuildTransaction (status : VectorIndexStatus) (vectorSpace : String) :
    Keeps (OnCatalog KeepsVectorIndexes) (rebuildTransaction V status vectorSpace) := by
  refine keeps_bind (keeps_onCatalog (keeps_insertJournal _ _ _)) fun journalId => ?_
  refine keeps_bind (keeps_onPhysical _ _) fun _ => ?_
  refine keeps_bind (keeps_onPhysical _ _) fun _ => ?_
  refine keeps_bind (keeps_bind keeps_get fun _ => keeps_pure _) fun _ => ?_
  refine keeps_bind keeps_get fun _ => ?_
  refine keeps_bind (keeps_fromExcept _) fun _ => ?_
  refine keeps_bind (keeps_onCatalog
    (keeps_updateVectorIndex _ _ _ (fun _ => rfl) fun _ => rfl)) fun _ => ?_
  refine keeps_bind (keeps_onCatalog (keeps_transitionVectorIndexStatus _ _ _)) fun _ => ?_
  refine keeps_bind (keeps_onCatalog
    (keeps_updateRelation _ _ _ (fun _ => rfl) fun _ => rfl)) fun _ => ?_
  exact keeps_onCatalog (keeps_finishJournal journalId)

/-- The session whose index has the failed status and nothing else changed. -/
def markFailed (indexOid : ℤ) (e : String) (s : Session (Db P)) : Session (Db P) :=
  { s with now := { s.now with cat := markVectorIndex indexOid .failed e s.now.cat } }

/-- A vector space stays known to the lookup. -/
lemma exec_vectorIndexStatus_ok {vectorSpace : String} {c : Catalog} {status : VectorIndexStatus}
    (h : Runs (vectorIndexStatus vectorSpace) c status c) {s : Session (Db P)}
    (hkeep : KeepsVectorIndexes c s.now.cat) :
    ∃ status', exec (Session.statement (Db.onCatalog (vectorIndexStatus vectorSpace))) s =
      (.ok status', s) := by
  obtain ⟨hne, hhead, -⟩ := runs_vectorIndexStatus.1 h
  have hrows : vectorIndexRows c (Text.trimString vectorSpace) ≠ [] := by
    intro hnil
    rw [hnil] at hhead
    cases hhead
  obtain ⟨status', hstatus'⟩ := Option.ne_none_iff_exists'.1
    (mt List.head?_eq_none_iff.1 (hkeep.rows_ne_nil hrows))
  have hruns : Runs (Db.onCatalog (P := P) (vectorIndexStatus vectorSpace)) s.now status' s.now :=
    Db.runs_onCatalog.2 ⟨runs_vectorIndexStatus.2 ⟨hne, hstatus', rfl⟩, rfl⟩
  exact ⟨status', Session.exec_statement_ok hruns⟩

/-- A transition is a statement that sets the mark, or fails. -/
lemma exec_transition (indexOid : ℤ) (next : BuildStatus) (e : String) (s : Session (Db P)) :
    (∃ e', exec (Session.statement
        (Db.onCatalog (transitionVectorIndexStatus indexOid next e))) s = (.error e', s)) ∨
      ∃ v, s.now.cat.rsVectorIndex.find (·.indexrelid == indexOid) = some v ∧
        exec (Session.statement (Db.onCatalog (transitionVectorIndexStatus indexOid next e))) s =
          (.ok ⟨⟩, { s with now := { s.now with
            cat := markVectorIndex indexOid next e s.now.cat } }) := by
  rcases Session.exec_statement
    (Db.onCatalog (P := P) (transitionVectorIndexStatus indexOid next e)) s with h | ⟨_, t, h, h'⟩
  · exact Or.inl h
  · obtain ⟨hrun, hphys⟩ := Db.runs_onCatalog.1 h
    obtain ⟨v, hv, -, hcat⟩ := runs_transitionVectorIndexStatus.1 hrun
    refine Or.inr ⟨v, hv, ?_⟩
    rw [h']
    obtain ⟨cat, phys⟩ := t
    simp only at hcat hphys
    rw [hcat, hphys]

/-- From the status of its work an index may go on. -/
lemma exec_transition_marked {indexOid : ℤ} {working next : BuildStatus} {e₀ e : String}
    {c : Catalog} {v : VectorIndexRow}
    (hv : c.rsVectorIndex.find (·.indexrelid == indexOid) = some v)
    (hallowed : vectorIndexTransitionAllowed working next = true) {s : Session (Db P)}
    (hs : s.now.cat = markVectorIndex indexOid working e₀ c) :
    exec (Session.statement (Db.onCatalog (transitionVectorIndexStatus indexOid next e))) s =
      (.ok ⟨⟩, { s with now := { s.now with cat := markVectorIndex indexOid next e c } }) := by
  have hrun : Runs (transitionVectorIndexStatus indexOid next e) s.now.cat ⟨⟩
      (markVectorIndex indexOid next e c) := by
    rw [hs]
    exact runs_transitionVectorIndexStatus.2 ⟨_, find_markVectorIndex hv, hallowed,
      (markVectorIndex_markVectorIndex ..).symm⟩
  have hruns : Runs (Db.onCatalog (P := P) (transitionVectorIndexStatus indexOid next e)) s.now ⟨⟩
      { s.now with cat := markVectorIndex indexOid next e c } := Db.runs_onCatalog.2 ⟨hrun, rfl⟩
  rw [Session.exec_statement_ok hruns]

/-- The lookup changes nothing. -/
lemma exec_vectorIndexStatus (vectorSpace : String) (s : Session (Db P)) :
    (∃ e, exec (Session.statement (Db.onCatalog (vectorIndexStatus vectorSpace))) s =
        (.error e, s)) ∨
      ∃ status, Runs (vectorIndexStatus vectorSpace) s.now.cat status s.now.cat ∧
        exec (Session.statement (Db.onCatalog (vectorIndexStatus vectorSpace))) s =
          (.ok status, s) := by
  rcases Session.exec_statement (Db.onCatalog (P := P) (vectorIndexStatus vectorSpace)) s with
    h | ⟨status, t, h, h'⟩
  · exact Or.inl h
  · obtain ⟨hrun, hphys⟩ := Db.runs_onCatalog.1 h
    obtain ⟨hne, hhead, hcat⟩ := runs_vectorIndexStatus.1 hrun
    refine Or.inr ⟨status, runs_vectorIndexStatus.2 ⟨hne, hhead, rfl⟩, ?_⟩
    rw [h']
    obtain ⟨cat, phys⟩ := t
    simp only at hcat hphys
    rw [hcat, hphys]

/-- What maintenance of an index leaves: outside any transaction, and where it failed either
nothing changed or the index's failed status. -/
def FailsMarked {α : Type} (m : Eff (Session (Db P)) α) (s : Session (Db P)) : Prop :=
  (exec m s).2.saved = none ∧ ∀ e, (exec m s).1 = .error e →
    (exec m s).2 = s ∨ ∃ indexOid, (exec m s).2 = markFailed indexOid e s

/-- **A rebuild** that fails leaves nothing but the failed status. -/
lemma failsMarked_rebuildVectorIndex (vectorSpace : String) {s : Session (Db P)}
    (hs : s.saved = none) : FailsMarked (rebuildVectorIndex V vectorSpace) s := by
  unfold FailsMarked rebuildVectorIndex
  rw [exec_bind]
  rcases exec_vectorIndexStatus vectorSpace s with ⟨e, h⟩ | ⟨status, hstatus, h⟩
  · rw [h]
    exact ⟨hs, fun _ _ => Or.inl rfl⟩
  rw [h]
  simp only
  rw [exec_bind]
  rcases exec_transition status.indexOid .rebuilding "" s with ⟨e, h⟩ | ⟨v, hv, h⟩
  · rw [h]
    exact ⟨hs, fun _ _ => Or.inl rfl⟩
  rw [h]
  simp only
  rw [exec_bind, exec_attempt]
  -- the session in which the index is being rebuilt
  set s₁ : Session (Db P) := { s with now := { s.now with
    cat := markVectorIndex status.indexOid .rebuilding "" s.now.cat } } with hs₁
  rcases Session.exec_bracket (catalogTransactions V.refuse)
      { run := rebuildTransaction V status vectorSpace } s₁ with
    ⟨e, h⟩ | ⟨_, t, -, hrun, h⟩ | ⟨_, _, -, h, -⟩
  · rw [runCatalogTx, h]
    simp only
    rw [exec_bind, exec_transition_marked hv rfl rfl]
    refine ⟨hs, fun e' he' => Or.inr ⟨status.indexOid, ?_⟩⟩
    have hee : e = e' := by simpa using he'
    rw [← hee]
    rfl
  · rw [runCatalogTx, h]
    simp only
    have hkeep : KeepsVectorIndexes s.now.cat t.cat :=
      Frame.trans (R := KeepsVectorIndexes)
        (keepsVectorIndexes_markVectorIndex _ _ _ _)
        (keeps_rebuildTransaction V status vectorSpace _ _ _ hrun)
    obtain ⟨status', h'⟩ := exec_vectorIndexStatus_ok hstatus (s := { s₁ with now := t }) hkeep
    rw [h']
    exact ⟨hs, fun e he => by simp at he⟩
  · cases h

/-- **A compaction** that fails leaves nothing but the failed status. -/
lemma failsMarked_compactVectorIndex (vectorSpace : String) {s : Session (Db P)}
    (hs : s.saved = none) : FailsMarked (compactVectorIndex V vectorSpace) s := by
  unfold FailsMarked compactVectorIndex
  rw [exec_bind]
  rcases exec_vectorIndexStatus vectorSpace s with ⟨e, h⟩ | ⟨status, hstatus, h⟩
  · rw [h]
    exact ⟨hs, fun _ _ => Or.inl rfl⟩
  rw [h]
  simp only
  by_cases hactive : (status.buildStatus == .active) = true
  swap
  · simp only [ensure, hactive, if_false, Bool.false_eq_true]
    exact ⟨hs, fun _ _ => Or.inl rfl⟩
  simp only [ensure, hactive, if_true, pure_bind]
  rw [exec_bind]
  rcases exec_transition status.indexOid .compacting "" s with ⟨e, h⟩ | ⟨v, hv, h⟩
  · rw [h]
    exact ⟨hs, fun _ _ => Or.inl rfl⟩
  rw [h]
  simp only
  rw [exec_bind, exec_attempt]
  -- the session in which the index is being compacted
  set s₁ : Session (Db P) := { s with now := { s.now with
    cat := markVectorIndex status.indexOid .compacting "" s.now.cat } } with hs₁
  rcases Session.exec_statement
      (onPhysical "compact HNSW index failed: " (V.compactHnswIndex status.indexName)) s₁ with
    ⟨e, h⟩ | ⟨_, t, hrun, h⟩
  · rw [h]
    simp only
    rw [exec_bind, exec_transition_marked hv rfl rfl]
    refine ⟨hs, fun e' he' => Or.inr ⟨status.indexOid, ?_⟩⟩
    have hee : e = e' := by simpa using he'
    rw [← hee]
    rfl
  · rw [h]
    simp only
    have hcat : t.cat = s₁.now.cat := by
      simp only [onPhysical, runs_bind, runs_get, runs_mapError, runs_fromExcept, runs_set] at hrun
      obtain ⟨_, _, ⟨rfl, rfl⟩, p, _, ⟨-, rfl⟩, rfl⟩ := hrun
      rfl
    rw [exec_bind, exec_transition_marked (s := { s₁ with now := t }) hv rfl hcat]
    simp only
    obtain ⟨status', h'⟩ := exec_vectorIndexStatus_ok hstatus
      (s := { s₁ with now := { t with
        cat := markVectorIndex status.indexOid .active "" s.now.cat } })
      (keepsVectorIndexes_markVectorIndex _ _ _ _)
    rw [h']
    exact ⟨hs, fun e he => by simp at he⟩

end Maintenance

end Rsduck.Catalog
