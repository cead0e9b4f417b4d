import Rsduck.Catalog.Journal
import Rsduck.Lib.Text

/-!
Looking up a vector index by its vector space.
-/

namespace Rsduck.Catalog

open Lib Lib.Eff

structure VectorIndexStatus where
  indexOid : ℤ
  vectorSpace : String
  schema : String
  table : String
  column : String
  indexName : String
  embeddingModel : String
  modelVersion : String
  dimension : ℕ
  metric : Metric
  m : ℤ
  m0 : ℤ
  efConstruction : ℤ
  defaultEfSearch : ℤ
  definitionVersion : ℤ
  generation : ℤ
  extensionVersion : String
  buildStatus : BuildStatus
  vectorCount : ℤ
  errorMessage : String
  deriving DecidableEq

/-- A vector index row joined with its index, table, schema and column. -/
def joinVectorIndex (c : Catalog) (v : VectorIndexRow) : List VectorIndexStatus :=
  (c.rsIndex.select (·.indexrelid == v.indexrelid)).flatMap fun x =>
    (c.rsRelation.select (·.oid == v.indexrelid)).flatMap fun i =>
      (c.rsRelation.select (·.oid == x.indrelid)).flatMap fun t =>
        (c.rsSchema.select (·.oid == t.relnamespace)).flatMap fun n =>
          (c.rsColumn.select fun a => a.attrelid == t.oid && toString a.attnum == x.indkey).map
            fun a =>
              { indexOid := v.indexrelid, vectorSpace := v.vectorSpace, schema := n.nspname
                table := t.relname, column := a.attname, indexName := i.relname
                embeddingModel := v.embeddingModel, modelVersion := v.modelVersion
                dimension := v.dimension, metric := v.metric, m := v.m, m0 := v.m0
                efConstruction := v.efConstruction, defaultEfSearch := v.defaultEfSearch
                definitionVersion := v.definitionVersion, generation := v.generation
                extensionVersion := v.extensionVersion, buildStatus := v.buildStatus
                vectorCount := v.vectorCount, errorMessage := v.errorMessage }

def vectorIndexRows (c : Catalog) (vectorSpace : String) : List VectorIndexStatus :=
  (c.rsVectorIndex.select (·.vectorSpace == vectorSpace)).flatMap (joinVectorIndex c)

def vectorIndexStatus (vectorSpace : String) : Eff Catalog VectorIndexStatus := do
  let vectorSpace := Text.trimString vectorSpace
  ensure (vectorSpace != "") "vector_space cannot be empty"
  match (vectorIndexRows (← get) vectorSpace).head? with
  | some status => pure status
  | none => throw ("vector space not found: " ++ vectorSpace ++ ": " ++ noRows)

def VectorIndexRow.setVectorCount (n : ℤ) (v : VectorIndexRow) : VectorIndexRow :=
  { v with vectorCount := n }

lemma keepsKey_setVectorCount (n : ℤ) : Table.KeepsKey (VectorIndexRow.setVectorCount n) :=
  fun _ _ => rfl

/-- `UPDATE rs_vector_index SET vector_count = n WHERE indexrelid = indexOid`. -/
def setVectorCount (indexOid n : ℤ) : Eff Catalog PUnit :=
  updateRows Slot.vectorIndex (·.indexrelid == indexOid) (.setVectorCount n) fun _ _ => rfl

lemma runs_vectorIndexStatus {vectorSpace : String} {c c' : Catalog} {s : VectorIndexStatus} :
    Runs (vectorIndexStatus vectorSpace) c s c' ↔
      (Text.trimString vectorSpace != "") = true ∧
        (vectorIndexRows c (Text.trimString vectorSpace)).head? = some s ∧ c' = c := by
  unfold vectorIndexStatus
  simp only [runs_bind, runs_ensure, runs_get]
  rcases hr : (vectorIndexRows c (Text.trimString vectorSpace)).head? with _ | t
  · constructor
    · rintro ⟨-, _, ⟨-, rfl⟩, _, _, ⟨rfl, rfl⟩, h⟩
      simp [hr] at h
    · simp
  · constructor
    · rintro ⟨-, _, ⟨hne, rfl⟩, _, _, ⟨rfl, rfl⟩, h⟩
      simp only [hr, runs_pure] at h
      exact ⟨hne, by rw [h.1], h.2⟩
    · rintro ⟨hne, hs, rfl⟩
      exact ⟨⟨⟩, _, ⟨hne, rfl⟩, _, _, ⟨rfl, rfl⟩, by simpa [hr, eq_comm] using hs⟩

/-- The status after its row count was set, when it is that index's. -/
def VectorIndexStatus.counted (indexOid n : ℤ) (s : VectorIndexStatus) : VectorIndexStatus :=
  if s.indexOid == indexOid then { s with vectorCount := n } else s

lemma joinVectorIndex_setVectorCount (c : Catalog) (v : VectorIndexRow) (n : ℤ) :
    joinVectorIndex c (v.setVectorCount n) =
      (joinVectorIndex c v).map fun s => { s with vectorCount := n } := by
  simp only [joinVectorIndex, List.map_flatMap, List.map_map]
  rfl

lemma indexOid_of_mem_join {c : Catalog} {v : VectorIndexRow} {s : VectorIndexStatus}
    (h : s ∈ joinVectorIndex c v) : s.indexOid = v.indexrelid := by
  simp only [joinVectorIndex, List.mem_flatMap, List.mem_map] at h
  obtain ⟨_, _, _, _, _, _, _, _, _, _, rfl⟩ := h
  rfl

/-- Setting a row count changes nothing else about an index. -/
lemma vectorIndexRows_setVectorCount (c : Catalog) (vectorSpace : String) (indexOid n : ℤ) :
    vectorIndexRows
        { c with
          rsVectorIndex := c.rsVectorIndex.update (·.indexrelid == indexOid) (.setVectorCount n)
            fun _ _ => rfl } vectorSpace =
      (vectorIndexRows c vectorSpace).map (.counted indexOid n) := by
  have hselect := Table.select_update (·.indexrelid == indexOid) (·.vectorSpace == vectorSpace)
    (VectorIndexRow.setVectorCount n) (fun _ _ => rfl) (fun _ => rfl) c.rsVectorIndex
  unfold vectorIndexRows
  rw [hselect, List.flatMap_map, List.map_flatMap]
  refine List.flatMap_congr fun v _ => ?_
  change joinVectorIndex c _ = _
  by_cases hv : v.indexrelid == indexOid
  · rw [if_pos hv, joinVectorIndex_setVectorCount]
    refine List.map_congr_left fun s hs => ?_
    rw [VectorIndexStatus.counted, indexOid_of_mem_join hs, if_pos hv]
  · rw [if_neg hv]
    refine (List.map_id _).symm.trans (List.map_congr_left fun s hs => ?_)
    rw [VectorIndexStatus.counted, indexOid_of_mem_join hs, if_neg hv]
    rfl

end Rsduck.Catalog
