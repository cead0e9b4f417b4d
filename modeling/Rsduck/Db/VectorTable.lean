import Rsduck.Db.Vector

/-!
The steps of a batch, as what they do to the rows of the index's table.
-/

namespace Rsduck.Db

open Lib Lib.Eff Catalog

section Rows

variable {P : Type} (V : VectorEngine P)

/-- The rows of the index's table. -/
def rowsOf (index : VectorIndexStatus) (d : Db P) : List VectorRow :=
  V.rows d.phys index.schema index.table index.column

/-- The database with these rows in the index's table. -/
def withRows (index : VectorIndexStatus) (d : Db P) (rs : List VectorRow) : Db P :=
  { d with phys := V.put d.phys index.schema index.table index.column rs }

@[simp] lemma rowsOf_withRows (index : VectorIndexStatus) (d : Db P) (rs : List VectorRow) :
    rowsOf V index (withRows V index d rs) = rs :=
  V.rows_put _ _ _ _ _

@[simp] lemma cat_withRows (index : VectorIndexStatus) (d : Db P) (rs : List VectorRow) :
    (withRows V index d rs).cat = d.cat := rfl

variable {V} {index : VectorIndexStatus}

lemma runs_vectorRows {d d' : Db P} {rs : List VectorRow} :
    Runs (vectorRows V index) d rs d' ↔ rs = rowsOf V index d ∧ d' = d := by
  have h : exec (vectorRows V index) d = (.ok (rowsOf V index d), d) := rfl
  simp [Runs, h, eq_comm]

/-- The version read is that of the first row of the key. -/
lemma exec_existingVectorVersion (V : VectorEngine P) (index : VectorIndexStatus) (key : VectorKey)
    (d : Db P) : exec (existingVectorVersion V index key) d =
      (match (rowsOf V index d).find? (·.key == some key) with
        | none => .ok none
        | some r => r.version.map some, d) := by
  have hrows : Runs (vectorRows V index) d (rowsOf V index d) d := runs_vectorRows.2 ⟨rfl, rfl⟩
  unfold existingVectorVersion
  rw [exec_bind_of_runs hrows]
  rcases hfind : (rowsOf V index d).find? (·.key == some key) with _ | r
  · simp only [hfind, exec_pure]
  · simp only [hfind, exec_bind, exec_fromExcept]
    rcases r.version with e | v <;> rfl

lemma runs_existingVectorVersion_none {d : Db P} {key : VectorKey}
    (h : (rowsOf V index d).find? (·.key == some key) = none) :
    Runs (existingVectorVersion V index key) d none d := by
  rw [Runs, exec_existingVectorVersion, h]

lemma runs_existingVectorVersion {d : Db P} {key : VectorKey} {r : VectorRow} {v : ℤ × String}
    (h : (rowsOf V index d).find? (·.key == some key) = some r) (hv : r.version = .ok v) :
    Runs (existingVectorVersion V index key) d (some v) d := by
  rw [Runs, exec_existingVectorVersion, h]
  simp only [hv, Except.map]

lemma version_eq_ok {r : VectorRow} {v : ℤ × String} :
    r.version = .ok v ↔ r.sourceVersion = some v.1 ∧ r.contentHash = some v.2 := by
  unfold VectorRow.version
  rcases r.sourceVersion with _ | version <;> rcases r.contentHash with _ | hash <;>
    simp [Prod.ext_iff]

lemma runs_putVectorRows {d d' : Db P} {rs : List VectorRow} {u : Unit} :
    Runs (putVectorRows V index rs) d u d' ↔ d' = withRows V index d rs := by
  unfold putVectorRows
  exact runs_modify

lemma runs_deleteVectorRow (V : VectorEngine P) (index : VectorIndexStatus) (d : Db P) (key : VectorKey) :
    Runs (deleteVectorRow V index key) d ()
      (withRows V index d ((rowsOf V index d).filter fun r => r.key != some key)) := by
  simp only [deleteVectorRow, runs_bind, runs_vectorRows, runs_putVectorRows]
  exact ⟨_, d, ⟨rfl, rfl⟩, rfl⟩

/-- Every unique constraint of the index's table is over these columns, and maybe more. -/
def KeyedBy (V : VectorEngine P) (index : VectorIndexStatus) (columns : List VectorColumn) : Prop :=
  ∀ p, ∀ key ∈ V.uniqueKeys p index.schema index.table, columns ⊆ key

/-- The columns of a key. -/
def keyColumns : List VectorColumn := [.tenantId, .agentId, .memoryId]

lemma cell_eq_of_sameOn {columns : List VectorColumn} {r t : VectorRow} {c : VectorColumn}
    (h : r.sameOn columns t = true) (hc : c ∈ columns) : r.cell c = t.cell c := by
  have hcell := List.all_eq_true.1 h c hc
  simp only [Bool.and_eq_true, decide_eq_true_eq] at hcell
  exact hcell.2

lemma eq_of_map_inl {a b : Option ℤ} (h : a.map (Sum.inl (β := String)) = b.map Sum.inl) : a = b :=
  Option.map_injective (fun _ _ => Sum.inl.inj) h

lemma key_eq_of_sameOn {columns : List VectorColumn} (hkey : keyColumns ⊆ columns)
    {r t : VectorRow} (h : r.sameOn columns t = true) : r.key = t.key := by
  have htenant := eq_of_map_inl (cell_eq_of_sameOn (c := .tenantId) h (hkey (by decide)))
  have hagent := eq_of_map_inl (cell_eq_of_sameOn (c := .agentId) h (hkey (by decide)))
  have hmemory := eq_of_map_inl (cell_eq_of_sameOn (c := .memoryId) h (hkey (by decide)))
  simp only [VectorRow.key, htenant, hagent, hmemory]

/-- A row with a key of its own breaks no unique constraint. -/
lemma brokenKey_eq_none {keys : List (List VectorColumn)} (hkeys : ∀ key ∈ keys, keyColumns ⊆ key)
    {rs : List VectorRow} {row : VectorRow} (h : ∀ r ∈ rs, r.key ≠ row.key) :
    brokenKey keys rs row = none := by
  refine List.find?_eq_none.2 fun columns hcolumns hany => ?_
  obtain ⟨r, hr, hsame⟩ := List.any_eq_true.1 hany
  exact h r hr (key_eq_of_sameOn (hkeys columns hcolumns) hsame)

lemma runs_insertVectorRow {item : VectorUpsertItem} {es : List F32}
    (hkeys : KeyedBy V index keyColumns)
    (h : (vectorText index item.embedding).bind V.castFloatArray = .ok es) {d : Db P}
    (hfree : ∀ r ∈ rowsOf V index d, r.key ≠ some item.key) :
    Runs (insertVectorRow V index item) d ()
      (withRows V index d (rowsOf V index d ++ [item.row es])) := by
  rcases ht : vectorText index item.embedding with e | text
  · simp [ht, Except.bind] at h
  · have hc : V.castFloatArray text = .ok es := by simpa [ht, Except.bind] using h
    have hbroken : brokenKey (V.uniqueKeys d.phys index.schema index.table) (rowsOf V index d)
        (item.row es) = none := brokenKey_eq_none (hkeys d.phys) hfree
    simp only [insertVectorRow, runs_bind, runs_fromExcept, runs_mapError, runs_vectorRows,
      runs_get]
    refine ⟨text, d, ⟨ht, rfl⟩, es, d, ⟨hc, rfl⟩, _, d, ⟨rfl, rfl⟩, d, d, ⟨rfl, rfl⟩, ?_⟩
    rw [hbroken]
    exact runs_putVectorRows.2 rfl

/-- The catalog after the row count of an index was brought up to date. -/
def recounted (indexOid n : ℤ) (c : Catalog) : Catalog :=
  let c := { c with
    rsVectorIndex := c.rsVectorIndex.update (·.indexrelid == indexOid) (.setVectorCount n)
      (keepsKey_setVectorCount n) }
  setCatalogChecksum (calculateCatalogChecksum c) c

/-- How many rows have an embedding. -/
def embedded (rs : List VectorRow) : ℤ := rs.countP fun r => r.embedding.isSome

lemma runs_updateVectorCount (V : VectorEngine P) (index : VectorIndexStatus) (d : Db P) :
    Runs (updateVectorCount V index) d (embedded (rowsOf V index d))
      { d with cat := recounted index.indexOid (embedded (rowsOf V index d)) d.cat } := by
  simp only [updateVectorCount, runs_bind, runs_vectorRows, runs_onCatalog, runs_pure]
  exact ⟨_, d, ⟨rfl, rfl⟩, (), { d with cat := _ }, ⟨runs_updateRows.2 rfl, rfl⟩, (),
    { d with cat := _ }, ⟨runs_refreshCatalogChecksum.2 rfl, rfl⟩, rfl, rfl⟩

end Rows

end Rsduck.Db
