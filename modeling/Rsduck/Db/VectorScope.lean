import Mathlib.Data.List.Find
import Rsduck.Catalog.Mutation.VectorIndex
import Rsduck.Db.VectorSearch
import Rsduck.Db.VectorTable
import Rsduck.Lib.TwoRuns

/-!
A batch, and the tenants and agents it names.

A batch changes only rows of the pairs of its keys, and its outcome comes from these rows alone,
as long as the table's unique constraints keep to one pair.
-/

namespace Rsduck.Db

open Lib Lib.Eff Lib.Text Catalog Mysql

/-! ### Rows of a scope -/

/-- The tenant and the agent of a key. -/
def pairOf (key : VectorKey) : ℤ × ℤ := (key.1, key.2.1)

/-- The tenant and the agent of a row that has both. -/
def VectorRow.pair (r : VectorRow) : Option (ℤ × ℤ) := do
  return (← r.tenantId, ← r.agentId)

def rowsWithin (pairs : List (ℤ × ℤ)) (rs : List VectorRow) : List VectorRow :=
  rs.filter fun r => decide (r.pair ∈ pairs.map some)

def rowsOutside (pairs : List (ℤ × ℤ)) (rs : List VectorRow) : List VectorRow :=
  rs.filter fun r => !decide (r.pair ∈ pairs.map some)

section Rows

variable {pairs : List (ℤ × ℤ)} {rs ts : List VectorRow} {key : VectorKey} {row : VectorRow}

lemma pair_of_key {r : VectorRow} (h : r.key = some key) : r.pair = some (pairOf key) := by
  obtain ⟨tenant, agent, memory, version, hash, embedding⟩ := r
  rcases tenant with _ | tenant
  · cases h
  rcases agent with _ | agent
  · cases h
  rcases memory with _ | memory
  · cases h
  · cases h
    rfl

lemma pair_mem_of_key {r : VectorRow} (h : r.key = some key) :
    r.pair ∈ pairs.map some ↔ pairOf key ∈ pairs := by
  simp [pair_of_key h]

lemma find?_rowsWithin (hkey : pairOf key ∈ pairs) :
    (rowsWithin pairs rs).find? (·.key == some key) = rs.find? (·.key == some key) := by
  unfold rowsWithin
  rw [List.find?_filter]
  congr 1
  ext r
  by_cases h : r.key = some key
  · simp only [decide_eq_true ((pair_mem_of_key h).2 hkey), h, true_and, Bool.decide_eq_true]
  · simp [h]

lemma rowsWithin_remove :
    rowsWithin pairs (rs.filter fun r => r.key != some key) =
      (rowsWithin pairs rs).filter fun r => r.key != some key := by
  unfold rowsWithin
  rw [List.filter_filter, List.filter_filter]
  exact List.filter_congr fun r _ => Bool.and_comm _ _

lemma rowsOutside_remove (hkey : pairOf key ∈ pairs) :
    rowsOutside pairs (rs.filter fun r => r.key != some key) = rowsOutside pairs rs := by
  unfold rowsOutside
  rw [List.filter_filter]
  refine List.filter_congr fun r _ => ?_
  by_cases h : r.key = some key
  · simp only [decide_eq_true ((pair_mem_of_key h).2 hkey), Bool.not_true, Bool.false_and]
  · simp [h]

lemma rowsOutside_append (hrow : row.pair ∈ pairs.map some) :
    rowsOutside pairs (rs ++ [row]) = rowsOutside pairs rs := by
  simp only [rowsOutside, List.filter_append, List.filter_singleton, hrow, decide_true,
    Bool.not_true, cond_false, List.append_nil]

/-- The columns of a pair. -/
def pairColumns : List VectorColumn := [.tenantId, .agentId]

lemma pair_eq_of_sameOn {columns : List VectorColumn} {r : VectorRow}
    (h : r.sameOn columns row = true) (hpair : pairColumns ⊆ columns) : r.pair = row.pair := by
  have htenant := eq_of_map_inl (cell_eq_of_sameOn (c := .tenantId) h (hpair (by decide)))
  have hagent := eq_of_map_inl (cell_eq_of_sameOn (c := .agentId) h (hpair (by decide)))
  simp only [VectorRow.pair, htenant, hagent]

/-- Unique constraints over the pair do not look at the rows of other pairs. -/
lemma brokenKey_rowsWithin {keys : List (List VectorColumn)}
    (hkeys : ∀ columns ∈ keys, pairColumns ⊆ columns) (hrow : row.pair ∈ pairs.map some) :
    brokenKey keys (rowsWithin pairs rs) row = brokenKey keys rs row := by
  refine List.find?_congr fun columns hcolumns => ?_
  unfold rowsWithin
  rw [List.any_filter]
  congr 1
  ext r
  by_cases h : r.sameOn columns row = true
  · simp only [h, pair_eq_of_sameOn h (hkeys columns hcolumns), hrow, decide_true, Bool.and_self]
  · simp [h]

end Rows

/-! ### One item -/

section Items

variable {P : Type} {V : VectorEngine P} {index : VectorIndexStatus} {pairs : List (ℤ × ℤ)}
  {d d' : Db P}

/-- The rows after an insertion, or why it is refused. -/
def insertedRows (V : VectorEngine P) (index : VectorIndexStatus)
    (keys : List (List VectorColumn)) (rs : List VectorRow) (item : VectorUpsertItem) :
    Except String (List VectorRow) :=
  match vectorText index item.embedding with
  | .error e => .error e
  | .ok text => match V.castFloatArray text with
    | .error e => .error ("insert vector row failed: " ++ e)
    | .ok embedding => match brokenKey keys rs (item.row embedding) with
      | some columns =>
        .error ("insert vector row failed: " ++ V.duplicateKey columns (item.row embedding))
      | none => .ok (rs ++ [item.row embedding])

lemma exec_insertVectorRow (item : VectorUpsertItem) (d : Db P) :
    exec (insertVectorRow V index item) d =
      match insertedRows V index (V.uniqueKeys d.phys index.schema index.table) (rowsOf V index d)
        item with
      | .ok rs => (.ok (), withRows V index d rs)
      | .error e => (.error e, d) := by
  unfold insertedRows insertVectorRow
  rw [exec_bind, exec_fromExcept]
  rcases vectorText index item.embedding with e | text
  · rfl
  simp only
  rcases hcast : V.castFloatArray text with e | embedding
  · rfl
  · change exec (match brokenKey (V.uniqueKeys d.phys index.schema index.table) (rowsOf V index d)
      (item.row embedding) with
      | some columns =>
        throw ("insert vector row failed: " ++ V.duplicateKey columns (item.row embedding))
      | none => putVectorRows V index (rowsOf V index d ++ [item.row embedding])) d = _
    simp only
    rcases brokenKey (V.uniqueKeys d.phys index.schema index.table) (rowsOf V index d)
      (item.row embedding) with _ | columns
    · rfl
    · rfl

variable (V index) in
/-- An insertion adds a row of its pair, and is refused because of rows of its pair at most. -/
lemma insertedRows_rowsWithin {keys : List (List VectorColumn)} (rs : List VectorRow)
    {item : VectorUpsertItem} (hkeys : ∀ columns ∈ keys, pairColumns ⊆ columns)
    (hpair : pairOf item.key ∈ pairs) :
    (insertedRows V index keys rs item).map (rowsWithin pairs) =
      insertedRows V index keys (rowsWithin pairs rs) item := by
  unfold insertedRows
  rcases vectorText index item.embedding with e | text
  · rfl
  simp only
  rcases V.castFloatArray text with e | embedding
  · rfl
  have hrow : (item.row embedding).pair ∈ pairs.map some := List.mem_map_of_mem hpair
  simp only
  rw [brokenKey_rowsWithin hkeys hrow]
  rcases brokenKey keys rs (item.row embedding) with _ | columns
  · simp [rowsWithin, Except.map, hrow]
  · rfl

lemma insertedRows_rowsOutside {keys : List (List VectorColumn)} {rs ts : List VectorRow}
    {item : VectorUpsertItem} (hpair : pairOf item.key ∈ pairs)
    (h : insertedRows V index keys rs item = .ok ts) :
    rowsOutside pairs ts = rowsOutside pairs rs := by
  unfold insertedRows at h
  rcases htext : vectorText index item.embedding with e | text
  · simp [htext] at h
  rcases hcast : V.castFloatArray text with e | embedding
  · simp [htext, hcast] at h
  rcases hbroken : brokenKey keys rs (item.row embedding) with _ | columns
  · obtain rfl : rs ++ [item.row embedding] = ts := by simpa [htext, hcast, hbroken] using h
    exact rowsOutside_append (List.mem_map_of_mem hpair)
  · simp [htext, hcast, hbroken] at h

/-- The two tables have the same rows of the pairs, under the same unique constraints. -/
structure AgreeOn (V : VectorEngine P) (index : VectorIndexStatus) (pairs : List (ℤ × ℤ))
    (d d' : Db P) : Prop where
  keys : V.uniqueKeys d.phys index.schema index.table =
    V.uniqueKeys d'.phys index.schema index.table
  rows : rowsWithin pairs (rowsOf V index d) = rowsWithin pairs (rowsOf V index d')

/-- The unique constraints of the table as it is are over these columns, and maybe more. -/
def KeysOver (V : VectorEngine P) (index : VectorIndexStatus) (columns : List VectorColumn)
    (d : Db P) : Prop :=
  ∀ key ∈ V.uniqueKeys d.phys index.schema index.table, columns ⊆ key

lemma AgreeOn.withRows {rs rs' : List VectorRow} (h : AgreeOn V index pairs d d')
    (hrows : rowsWithin pairs rs = rowsWithin pairs rs') :
    AgreeOn V index pairs (withRows V index d rs) (withRows V index d' rs') := by
  refine ⟨?_, ?_⟩
  · change V.uniqueKeys (V.put d.phys _ _ _ rs) _ _ = V.uniqueKeys (V.put d'.phys _ _ _ rs') _ _
    rw [V.uniqueKeys_put, V.uniqueKeys_put, h.keys]
  · rw [rowsOf_withRows, rowsOf_withRows, hrows]

lemma KeysOver.withRows {columns : List VectorColumn} (h : KeysOver V index columns d)
    (rs : List VectorRow) : KeysOver V index columns (withRows V index d rs) := by
  unfold KeysOver
  change ∀ key ∈ V.uniqueKeys (V.put d.phys _ _ _ rs) _ _, _
  rw [V.uniqueKeys_put]
  exact h

/-- The stored version is read from the rows of its pair. -/
lemma alike_existingVectorVersion {L : Db P → Db P → Prop} {key : VectorKey} (hL : L d d')
    (h : AgreeOn V index pairs d d') (hkey : pairOf key ∈ pairs) :
    Alike L (existingVectorVersion V index key) (existingVectorVersion V index key) d d' := by
  refine alike_of_exec (exec_existingVectorVersion V index key d) ?_ hL
  rw [exec_existingVectorVersion, ← find?_rowsWithin hkey, ← h.rows, find?_rowsWithin hkey]

lemma agreeOn_deleteVectorRow {key : VectorKey} (h : AgreeOn V index pairs d d') :
    AgreeOn V index pairs
      (withRows V index d ((rowsOf V index d).filter fun r => r.key != some key))
      (withRows V index d' ((rowsOf V index d').filter fun r => r.key != some key)) :=
  h.withRows (by rw [rowsWithin_remove, rowsWithin_remove, h.rows])

/-- What an upsert does from two states. -/
def UpsertsAlike (V : VectorEngine P) (index : VectorIndexStatus) (pairs : List (ℤ × ℤ))
    (d d' : Db P) : Prop :=
  AgreeOn V index pairs d d' ∧ KeysOver V index pairColumns d

lemma alike_insertVectorRow {item : VectorUpsertItem} (h : UpsertsAlike V index pairs d d')
    (hpair : pairOf item.key ∈ pairs) :
    Alike (UpsertsAlike V index pairs) (insertVectorRow V index item) (insertVectorRow V index item)
      d d' := by
  obtain ⟨hagree, hkeys⟩ := h
  have hkeys' : KeysOver V index pairColumns d' := fun key hkey => hkeys key (hagree.keys ▸ hkey)
  have hleft : exec (insertVectorRow V index item) d = _ := exec_insertVectorRow item d
  have hright : exec (insertVectorRow V index item) d' = _ := exec_insertVectorRow item d'
  have hwithin := insertedRows_rowsWithin V index (rowsOf V index d) hkeys hpair
  have hwithin' := insertedRows_rowsWithin V index (rowsOf V index d') hkeys' hpair
  rw [hagree.rows, hagree.keys, ← hwithin'] at hwithin
  rw [hagree.keys] at hleft
  set keys := V.uniqueKeys d'.phys index.schema index.table
  rcases hrs : insertedRows V index keys (rowsOf V index d) item with e | rs <;>
    rcases hrs' : insertedRows V index keys (rowsOf V index d') item with e' | rs' <;>
    rw [hrs, hrs'] at hwithin <;> rw [hrs] at hleft <;> rw [hrs'] at hright
  · cases hwithin
    exact alike_of_exec hleft hright ⟨hagree, hkeys⟩
  · cases hwithin
  · cases hwithin
  · exact alike_of_exec hleft hright ⟨hagree.withRows (Except.ok.inj hwithin), hkeys.withRows rs⟩

lemma alike_upsertVector {item : VectorUpsertItem} (h : UpsertsAlike V index pairs d d')
    (hpair : pairOf item.key ∈ pairs) :
    Alike (UpsertsAlike V index pairs) (upsertVector V index item) (upsertVector V index item)
      d d' := by
  unfold upsertVector
  refine alike_bind (alike_existingVectorVersion h h.1 hpair) fun stored d d' h => ?_
  rcases stored with _ | ⟨storedVersion, storedHash⟩
  · exact alike_bind (alike_insertVectorRow h hpair) fun _ _ _ h => alike_pure h true
  refine alike_ite (alike_throw h _)
    (alike_ite (alike_ite (alike_throw h _) (alike_pure h false)) ?_)
  refine alike_bind (alike_of_exec (runs_deleteVectorRow V index d item.key)
    (runs_deleteVectorRow V index d' item.key) ⟨agreeOn_deleteVectorRow h.1, h.2.withRows _⟩)
    fun _ _ _ h => ?_
  exact alike_bind (alike_insertVectorRow h hpair) fun _ _ _ h => alike_pure h true

lemma alike_deleteVector {item : VectorDeleteItem} (h : AgreeOn V index pairs d d')
    (hpair : pairOf item.key ∈ pairs) :
    Alike (AgreeOn V index pairs) (deleteVector V index item) (deleteVector V index item) d d' := by
  unfold deleteVector
  refine alike_bind (alike_existingVectorVersion h h hpair) fun stored d d' h => ?_
  rcases stored with _ | ⟨storedVersion, storedHash⟩
  · exact alike_pure h false
  exact alike_ite (alike_throw h _) (alike_bind
    (alike_of_exec (runs_deleteVectorRow V index d item.key)
      (runs_deleteVectorRow V index d' item.key) (agreeOn_deleteVectorRow h))
    fun _ _ _ h => alike_pure h true)

/-- The rows of other pairs than these. -/
def othersOf (V : VectorEngine P) (index : VectorIndexStatus) (pairs : List (ℤ × ℤ)) (d : Db P) :
    List VectorRow :=
  rowsOutside pairs (rowsOf V index d)

lemma keeps_deleteVectorRow {key : VectorKey} (hkey : pairOf key ∈ pairs) :
    Keeps (Same (othersOf V index pairs)) (deleteVectorRow V index key) := by
  intro s a s' h
  have hrun := runs_deleteVectorRow V index s key
  rw [Runs] at h hrun
  rw [hrun] at h
  obtain rfl := (Prod.mk.inj h).2
  unfold Same othersOf
  rw [rowsOf_withRows, rowsOutside_remove hkey]

lemma keeps_insertVectorRow {item : VectorUpsertItem} (hpair : pairOf item.key ∈ pairs) :
    Keeps (Same (othersOf V index pairs)) (insertVectorRow V index item) := by
  intro s a s' h
  rw [Runs, exec_insertVectorRow] at h
  rcases hrs : insertedRows V index (V.uniqueKeys s.phys index.schema index.table) (rowsOf V index s)
    item with e | rs
  · rw [hrs] at h
    cases h
  · rw [hrs] at h
    obtain rfl := (Prod.mk.inj h).2
    unfold Same othersOf
    rw [rowsOf_withRows, insertedRows_rowsOutside hpair hrs]

lemma keeps_existingVectorVersion {R : Db P → Db P → Prop} [Frame R] (key : VectorKey) :
    Keeps R (existingVectorVersion V index key) := by
  intro s a s' h
  rw [Runs, exec_existingVectorVersion] at h
  obtain rfl := (Prod.mk.inj h).2
  exact Frame.refl s

lemma keeps_upsertVector {item : VectorUpsertItem} (hpair : pairOf item.key ∈ pairs) :
    Keeps (Same (othersOf V index pairs)) (upsertVector V index item) := by
  have hinsert : Keeps (Same (othersOf V index pairs)) (insertVectorRow V index item) :=
    keeps_insertVectorRow hpair
  unfold upsertVector
  refine keeps_bind (keeps_existingVectorVersion item.key) fun stored => ?_
  rcases stored with _ | ⟨storedVersion, storedHash⟩
  · exact keeps_bind hinsert fun _ => keeps_pure true
  · refine keeps_ite (keeps_throw _) (keeps_ite (keeps_ite (keeps_throw _) (keeps_pure false)) ?_)
    exact keeps_bind (keeps_deleteVectorRow hpair) fun _ =>
      keeps_bind hinsert fun _ => keeps_pure true

lemma keeps_deleteVector {item : VectorDeleteItem} (hpair : pairOf item.key ∈ pairs) :
    Keeps (Same (othersOf V index pairs)) (deleteVector V index item) := by
  unfold deleteVector
  refine keeps_bind (keeps_existingVectorVersion item.key) fun stored => ?_
  rcases stored with _ | ⟨storedVersion, storedHash⟩
  · exact keeps_pure false
  · exact keeps_ite (keeps_throw _)
      (keeps_bind (keeps_deleteVectorRow hpair) fun _ => keeps_pure true)

end Items

/-! ### A batch -/

section Batches

variable {P ι : Type} {V : VectorEngine P} {index : VectorIndexStatus} {pairs : List (ℤ × ℤ)}
  {item : ι → Eff (Db P) Bool} {items : List ι}

/-- What a batch says beside the row count of the whole table. -/
def VectorMutationResult.counts (r : VectorMutationResult) : String × ℕ × ℕ :=
  (r.vectorSpace, r.applied, r.idempotent)

/-- A batch changes rows of the pairs of its items only. -/
lemma within_runVectorTransaction
    (hitem : ∀ i ∈ items, Keeps (Same (othersOf V index pairs)) (item i)) (s : Session (Db P)) :
    Within (Same fun s => othersOf V index pairs s.now) (runVectorTransaction V index item items)
      s := by
  unfold runVectorTransaction
  rcases Session.exec_transact (vectorTransactions V) (do
    let counts ← items.foldlM (fun counts i => do return countItem counts (← item i)) (0, 0)
    let vectorCount ← updateVectorCount V index
    return { vectorSpace := index.vectorSpace, applied := counts.1, idempotent := counts.2
             vectorCount := vectorCount : VectorMutationResult }) s with ⟨e, h⟩ | ⟨a, t, -, hrun, h⟩
  · exact within_of_exec (congrArg Prod.snd h)
  · unfold Within
    rw [h]
    obtain ⟨counts, u, hfold, hrest⟩ := runs_bind.1 hrun
    obtain ⟨n, u', hcount, hpure⟩ := runs_bind.1 hrest
    obtain ⟨-, rfl⟩ := runs_pure.1 hpure
    have hloop : Same (othersOf V index pairs) s.now u := keeps_foldlM (fun b i hi =>
      keeps_bind (hitem i hi) fun _ => keeps_pure _) _ _ _ hfold
    have hm := runs_updateVectorCount V index u
    rw [Runs] at hm hcount
    rw [hm] at hcount
    obtain rfl := (Prod.mk.inj hcount).2
    exact hloop

/-- The outcome of a batch, up to the row count, comes from what its items find alike. -/
lemma outcome_runVectorTransaction {L : Db P → Db P → Prop}
    (hitem : ∀ i ∈ items, ∀ d d', L d d' → Alike L (item i) (item i) d d')
    (hrefuse : ∀ d d', V.refuse d = V.refuse d') {s s' : Session (Db P)}
    (hopen : s.saved.isSome = s'.saved.isSome) (h : L s.now s'.now) :
    (exec (runVectorTransaction V index item items) s).1.map VectorMutationResult.counts =
      (exec (runVectorTransaction V index item items) s').1.map VectorMutationResult.counts := by
  refine Session.outcome_transact hopen ?_ (hrefuse _ _)
  have hloop : Alike L (items.foldlM (fun counts i => do return countItem counts (← item i)) (0, 0))
      (items.foldlM (fun counts i => do return countItem counts (← item i)) (0, 0)) s.now s'.now :=
    alike_foldlM (fun i hi counts d d' h =>
      alike_bind (hitem i hi d d' h) fun _ _ _ h => alike_pure h _) (0, 0) h
  obtain ⟨hout, -⟩ := hloop
  rw [exec_bind, exec_bind]
  rcases hl : exec (items.foldlM (fun counts i => do return countItem counts (← item i)) (0, 0))
    s.now with ⟨r, d⟩
  rcases hr : exec (items.foldlM (fun counts i => do return countItem counts (← item i)) (0, 0))
    s'.now with ⟨r', d'⟩
  rw [hl, hr] at hout
  simp only at hout
  subst hout
  rcases r with e | counts
  · rfl
  · simp only [exec_bind_of_runs (runs_updateVectorCount V index _), exec_pure]
    rfl

end Batches

/-! ### The index of a vector space -/

section Index

variable {P : Type} {V : VectorEngine P}

/-- What a lookup of the vector space gives. -/
def foundIndex (c : Catalog) (vectorSpace : String) : Except String VectorIndexStatus :=
  (exec (vectorIndexStatus vectorSpace) c).1

lemma exec_lookup (vectorSpace : String) (s : Session (Db P)) :
    exec (Session.statement (Db.onCatalog (vectorIndexStatus vectorSpace))) s =
      (foundIndex s.now.cat vectorSpace, s) := by
  have hout : (exec (Session.statement (Db.onCatalog (vectorIndexStatus vectorSpace))) s).1 =
      foundIndex s.now.cat vectorSpace := by
    unfold foundIndex
    rcases h : exec (vectorIndexStatus vectorSpace) s.now.cat with ⟨r, c⟩
    simp only [exec] at h
    rcases r with e | index <;> simp [exec, Session.statement, Db.onCatalog, h]
  refine Prod.ext hout ?_
  rcases exec_vectorIndexStatus vectorSpace s with ⟨e, h⟩ | ⟨index, -, h⟩
  · rw [h]
  · rw [h]

/-- The catalog with other row counts of the indexes, and another version row. -/
def withCounts (counts : ℤ → ℤ) (version : Table VersionRow) (c : Catalog) : Catalog :=
  { c with
    rsVectorIndex := c.rsVectorIndex.update (fun _ => true)
      (fun v => v.setVectorCount (counts v.indexrelid)) fun _ _ => rfl
    rsCatalogVersion := version }

/-- The catalogs differ in nothing but what follows the rows of the vector tables: the row counts
of the indexes, and the checksum in the version row. -/
def SameButCounts (c c' : Catalog) : Prop :=
  ∃ counts version, c' = withCounts counts version c

lemma vectorIndexRows_withCounts (counts : ℤ → ℤ) (version : Table VersionRow) (c : Catalog)
    (vectorSpace : String) : vectorIndexRows (withCounts counts version c) vectorSpace =
      (vectorIndexRows c vectorSpace).map fun s => { s with vectorCount := counts s.indexOid } := by
  have hselect := Table.select_update (fun _ => true) (·.vectorSpace == vectorSpace)
    (fun v : VectorIndexRow => v.setVectorCount (counts v.indexrelid)) (fun _ _ => rfl)
    (fun _ => rfl) c.rsVectorIndex
  unfold vectorIndexRows withCounts
  rw [hselect, List.flatMap_map, List.map_flatMap]
  refine List.flatMap_congr fun v _ => ?_
  change joinVectorIndex c (v.setVectorCount (counts v.indexrelid)) = _
  rw [joinVectorIndex_setVectorCount]
  refine List.map_congr_left fun s hs => ?_
  rw [indexOid_of_mem_join hs]

lemma foundIndex_withCounts (counts : ℤ → ℤ) (version : Table VersionRow) (c : Catalog)
    (vectorSpace : String) : foundIndex (withCounts counts version c) vectorSpace =
      (foundIndex c vectorSpace).map fun s => { s with vectorCount := counts s.indexOid } := by
  unfold foundIndex vectorIndexStatus
  by_cases hne : (trimString vectorSpace != "") = true
  · simp only [exec_bind, exec_get, ensure, if_pos hne, exec_pure, vectorIndexRows_withCounts,
      List.head?_map]
    rcases (vectorIndexRows c (trimString vectorSpace)).head? with _ | status
    · rfl
    · rfl
  · simp only [exec_bind, ensure, if_neg hne, exec_throw]
    rfl

lemma validateUpsertItems_counted (index : VectorIndexStatus) (n : ℤ) (keys : List VectorKey)
    (items : List VectorUpsertItem) :
    validateUpsertItems { index with vectorCount := n } keys items =
      validateUpsertItems index keys items := by
  induction items generalizing keys with
  | nil => rfl
  | cons item items ih =>
    unfold validateUpsertItems
    rw [ih]
    rfl

/-- A batch: a lookup, checks, one transaction. -/
def runBatch {ι : Type} (V : VectorEngine P) (vectorSpace : String)
    (check : VectorIndexStatus → Except String Unit)
    (item : VectorIndexStatus → ι → Eff (Db P) Bool) (items : List ι) :
    Eff (Session (Db P)) VectorMutationResult := do
  let index ← Session.statement (Db.onCatalog (vectorIndexStatus vectorSpace))
  ensure (index.buildStatus == .active) (indexStatusError index)
  fromExcept (check index)
  runVectorTransaction V index (item index) items

lemma upsertVectorsBlocking_eq (request : VectorUpsertRequest) :
    upsertVectorsBlocking V request = runBatch V request.vectorSpace (validateUpsertRequest request)
      (upsertVector V) request.items := rfl

lemma deleteVectorsBlocking_eq (request : VectorDeleteRequest) :
    deleteVectorsBlocking V request = runBatch V request.vectorSpace
      (fun _ => validateDeleteRequest request) (deleteVector V) request.items := rfl

variable {ι : Type} {vectorSpace : String} {check : VectorIndexStatus → Except String Unit}
  {item : VectorIndexStatus → ι → Eff (Db P) Bool} {items : List ι} {index : VectorIndexStatus}
  {pairs : List (ℤ × ℤ)} {s s' : Session (Db P)}

lemma exec_runBatch_of_found (hfound : foundIndex s.now.cat vectorSpace = .ok index) :
    exec (runBatch V vectorSpace check item items) s = exec (do
      ensure (index.buildStatus == .active) (indexStatusError index)
      fromExcept (check index)
      runVectorTransaction V index (item index) items) s := by
  unfold runBatch
  rw [exec_bind, exec_lookup, hfound]

lemma within_runBatch (hfound : foundIndex s.now.cat vectorSpace = .ok index)
    (hitem : ∀ i ∈ items, Keeps (Same (othersOf V index pairs)) (item index i)) :
    Within (Same fun s => othersOf V index pairs s.now) (runBatch V vectorSpace check item items)
      s := by
  have hbody : Within (Same fun s : Session (Db P) => othersOf V index pairs s.now) (do
      ensure (index.buildStatus == .active) (indexStatusError index)
      fromExcept (check index)
      runVectorTransaction V index (item index) items) s := by
    refine within_bind (within_ensure _ _) fun _ t ht => ?_
    obtain ⟨-, rfl⟩ := runs_ensure.1 ht
    refine within_bind (within_fromExcept _) fun _ u hu => ?_
    obtain ⟨-, rfl⟩ := runs_fromExcept.1 hu
    exact within_runVectorTransaction hitem u
  unfold Within at hbody ⊢
  rw [exec_runBatch_of_found hfound]
  exact hbody

/-- A batch on a table that agrees on what the items find has the same outcome. -/
lemma outcome_runBatch {L : VectorIndexStatus → Db P → Db P → Prop}
    (hcat : SameButCounts s.now.cat s'.now.cat)
    (hcheck : ∀ (index : VectorIndexStatus) n, check { index with vectorCount := n } = check index)
    (hcount : ∀ (index : VectorIndexStatus) n, item { index with vectorCount := n } = item index)
    (hopen : s.saved.isSome = s'.saved.isSome) (hrefuse : ∀ d d', V.refuse d = V.refuse d')
    (hL : ∀ index, foundIndex s.now.cat vectorSpace = .ok index →
      L index s.now s'.now ∧
        ∀ i ∈ items, ∀ d d', L index d d' → Alike (L index) (item index i) (item index i) d d') :
    (exec (runBatch V vectorSpace check item items) s).1.map VectorMutationResult.counts =
      (exec (runBatch V vectorSpace check item items) s').1.map VectorMutationResult.counts := by
  obtain ⟨counts, version, hcounted⟩ := hcat
  have hcounts : foundIndex s'.now.cat vectorSpace = (foundIndex s.now.cat vectorSpace).map
      fun i => { i with vectorCount := counts i.indexOid } := by
    rw [hcounted, foundIndex_withCounts]
  rcases hfound : foundIndex s.now.cat vectorSpace with e | index
  · unfold runBatch
    rw [exec_bind, exec_bind, exec_lookup, exec_lookup, hcounts, hfound]
    rfl
  · obtain ⟨hnow, hitem⟩ := hL index hfound
    have hfound' : foundIndex s'.now.cat vectorSpace =
        .ok { index with vectorCount := counts index.indexOid } := by
      rw [hcounts, hfound]
      rfl
    rw [exec_runBatch_of_found hfound, exec_runBatch_of_found hfound',
      hcheck index (counts index.indexOid), hcount index (counts index.indexOid)]
    change _ = (exec (do
      ensure (index.buildStatus == .active) (indexStatusError index)
      fromExcept (check index)
      runVectorTransaction V index (item index) items) s').1.map VectorMutationResult.counts
    rcases index.buildStatus == .active with _ | _
    · rfl
    · rcases hchecked : check index with e | ⟨⟩
      · simp only [ensure, exec_bind, exec_fromExcept, if_true, exec_pure]
      · simp only [ensure, exec_bind, exec_fromExcept, if_true, exec_pure]
        exact outcome_runVectorTransaction hitem hrefuse hopen hnow

end Index

/-! ### A search -/

/-- The query for the nearest vectors of a tenant's agent. -/
structure NearestQuery where
  schema : String
  table : String
  column : String
  function : String
  vector : List Char
  tenantId : ℤ
  agentId : ℤ
  limit : ℕ

def NearestQuery.sql (q : NearestQuery) : List Char :=
  "SELECT memory_id, ".toList ++ q.function.toList ++
    '(' :: sqlIdent q.column.toList ++ ", ".toList ++ q.vector ++ ") AS distance FROM ".toList ++
    sqlIdent q.schema.toList ++ '.' :: sqlIdent q.table.toList ++
    " WHERE tenant_id = ".toList ++ intText q.tenantId ++ " AND agent_id = ".toList ++
    intText q.agentId ++ " ORDER BY distance ASC, memory_id ASC LIMIT ".toList ++
    Nat.toDigits 10 q.limit

/-- The engine's distances, and their order. -/
structure Distances (C : Crates) where
  distance : (function : String) → (vector : List Char) → Option (List (Option F32)) →
    Except String (ValueRef C)
  lt : ValueRef C → ValueRef C → Bool
  columns : List SqlColumn

section Search

variable {C : Crates} {P K : Type} (E : Distances C)

/-- The order of memories, NULL last. -/
def memoryLe : Option ℤ → Option ℤ → Bool
  | _, none => true
  | none, some _ => false
  | some a, some b => decide (a ≤ b)

/-- What the query asks for: the rows of the pair, each with its distance, the nearest first. -/
def NearestQuery.answer (q : NearestQuery) (rs : List VectorRow) : Except String (Opened C) := do
  let found ← (rowsWithin [(q.tenantId, q.agentId)] rs).mapM fun r => do
    return (← E.distance q.function q.vector r.embedding, r.memoryId)
  let sorted := found.mergeSort fun x y => E.lt x.1 y.1 || (!E.lt y.1 x.1 && memoryLe x.2 y.2)
  return { columns := E.columns
           rows := (sorted.take q.limit).map fun x =>
             [x.2.elim .null fun memoryId => .bigInt (Int64.ofInt memoryId), x.1] }

def VectorSearchRequest.nearest (request : VectorSearchRequest) (index : VectorIndexStatus)
    (vector : List Char) : NearestQuery :=
  ⟨index.schema, index.table, index.column, distanceFunction index.metric (request.mode == "ann"),
    vector, request.tenantId, request.agentId, request.topK⟩

lemma searchSql_eq (index : VectorIndexStatus) (request : VectorSearchRequest)
    (vector : List Char) : searchSql index request vector = (request.nearest index vector).sql := rfl

/-- In this state the engine answers the search's query as it reads. -/
def AnswersSearch (D : DuckDb C P K) (V : VectorEngine P) (index : VectorIndexStatus)
    (request : VectorSearchRequest) (s : Conn P K) : Prop :=
  ∀ vector, vectorText index request.embedding = .ok vector →
    (exec (D.query (request.nearest index vector).sql) s).1 =
      (request.nearest index vector).answer E (rowsOf V index s.session.now)

variable {E} {D : DuckDb C P K} {V : VectorEngine P} {request : VectorSearchRequest}
  {s s' : Conn P K}

lemma exec_queryVectorMatches_fst (sql : List Char) (s : Conn P K) :
    (exec (queryVectorMatches D sql) s).1 =
      match (exec (D.query sql) s).1 with
      | .error e => .error ("execute vector search failed: " ++ e)
      | .ok opened =>
        (readMatches opened).mapError ("read vector search result failed: " ++ ·) := by
  unfold queryVectorMatches
  rw [exec_bind, exec_mapError]
  rcases exec (D.query sql) s with ⟨e | opened, t⟩
  · rfl
  · simp only [Except.mapError, exec_fromExcept]

lemma prepareSearch_ok {index : VectorIndexStatus} {sql : List Char}
    (h : prepareSearch index request = .ok sql) :
    ∃ vector, vectorText index request.embedding = .ok vector ∧
      sql = (request.nearest index vector).sql := by
  unfold prepareSearch at h
  split_ifs at h
  rcases hvector : vectorText index request.embedding with e | vector
  · rw [hvector] at h
    cases h
  · rw [hvector] at h
    cases h
    exact ⟨vector, rfl, searchSql_eq index request vector⟩

/-- **An exact search** has one outcome on two tables with the same rows of its pair. -/
lemma outcome_searchVectorsBlocking (hexact : request.mode = "exact")
    (hcat : SameButCounts s.session.now.cat s'.session.now.cat)
    (hagree : ∀ index, foundIndex s.session.now.cat request.vectorSpace = .ok index →
      AgreeOn V index [(request.tenantId, request.agentId)] s.session.now s'.session.now ∧
        AnswersSearch E D V index request s ∧ AnswersSearch E D V index request s') :
    (exec (searchVectorsBlocking D request) s).1 = (exec (searchVectorsBlocking D request) s').1 := by
  have hmode : request.mode ≠ "ann" := by
    rw [hexact]
    decide
  unfold searchVectorsBlocking
  rw [exec_bind, exec_bind, exec_fromExcept, exec_fromExcept]
  rcases validateSearchRequest request with e | ⟨⟩
  · rfl
  obtain ⟨counts, version, hcounted⟩ := hcat
  simp only [exec_bind, exec_onSession, exec_lookup, hcounted, foundIndex_withCounts]
  rcases hfound : foundIndex s.session.now.cat request.vectorSpace with e | index
  · rfl
  obtain ⟨hrows, hanswer, hanswer'⟩ := hagree index hfound
  have hprepare : prepareSearch { index with vectorCount := counts index.indexOid } request =
      prepareSearch index request := rfl
  simp only [exec_fromExcept, Except.map, hprepare]
  rcases hsql : prepareSearch index request with e | sql
  · rfl
  obtain ⟨vector, hvector, rfl⟩ := prepareSearch_ok hsql
  have hopened : (exec (D.query (request.nearest index vector).sql) s).1 =
      (exec (D.query (request.nearest index vector).sql) s').1 := by
    rw [hanswer vector hvector, hanswer' vector hvector]
    unfold NearestQuery.answer
    exact congrArg (fun rs => (List.mapM _ rs >>= _ : Except String (Opened C))) hrows.rows
  have hmatches : (exec (queryVectorMatches D (request.nearest index vector).sql) s).1 =
      (exec (queryVectorMatches D (request.nearest index vector).sql) s').1 := by
    rw [exec_queryVectorMatches_fst, exec_queryVectorMatches_fst, hopened]
  simp only [runSearch, hmode, if_false]
  rcases hl : exec (queryVectorMatches D (request.nearest index vector).sql) s with ⟨r, t⟩
  rcases hr : exec (queryVectorMatches D (request.nearest index vector).sql) s' with ⟨r', t'⟩
  rw [hl, hr] at hmatches
  simp only at hmatches
  subst hmatches
  rcases r with e | rows <;> rfl

end Search

end Rsduck.Db
