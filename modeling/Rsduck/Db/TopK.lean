import Mathlib.Data.Int.ConditionallyCompleteOrder
import Rsduck.Db.Transactions
import Rsduck.Db.VectorScope
import Rsduck.Lib.Arranged

/-!
What an exact search finds among the rows of a vector table.
-/

namespace Rsduck.Db

open Lib Lib.Eff Catalog Mysql

/-- A row of a vector table; none of these columns has to be NOT NULL, and no number of an embedding. -/
structure StoredVector where
  tenantId : Option Int64
  agentId : Option Int64
  memoryId : Option Int64
  embedding : Option (List (Option F32))

/-- The embedding, when all of it is there. -/
def StoredVector.vector (r : StoredVector) : Option (List F32) := r.embedding.bind (·.mapM id)

def StoredVector.key (r : StoredVector) : Option (Int64 × Int64 × Int64) := do
  return (← r.tenantId, ← r.agentId, ← r.memoryId)

/-- `UNIQUE(tenant_id, agent_id, memory_id)`, which says nothing of keys with a NULL. -/
def KeysUnique (rs : List StoredVector) : Prop :=
  rs.Pairwise fun a b => ∀ k, a.key = some k → b.key ≠ some k

/-- The distance of two vectors in a metric, and the engine's order of such values. -/
structure ExactDistance (ω : Type) where
  distance : Metric → (query embedding : List F32) → F32
  rank : F32 → ω

section TopK

variable {C : Crates} {P K ω : Type} (E : ExactDistance ω) (index : VectorIndexStatus)
  (request : VectorSearchRequest)

/-- The rows of the requested tenant and agent. -/
def scopeRows (rs : List StoredVector) : List StoredVector :=
  rs.filter fun r => r.tenantId.map Int64.toInt == some request.tenantId &&
    r.agentId.map Int64.toInt == some request.agentId

def StoredVector.distance (r : StoredVector) : Option F32 :=
  r.vector.map (E.distance index.metric request.embedding)

/-- What the search sorts by: the distance and then the memory, NULL last. -/
def StoredVector.sortKey (r : StoredVector) : WithTop ω ×ₗ WithTop ℤ :=
  toLex (nullsLast ((r.distance E index request).map E.rank), nullsLast (r.memoryId.map Int64.toInt))

/-- The row as the query gives it. -/
def StoredVector.cells (r : StoredVector) : List (ValueRef C) :=
  [r.memoryId.elim .null .bigInt, (r.distance E index request).elim .null .float]

/-- In this state the engine answers the search's query as it reads where it can compare all the
embeddings it comes to; its list functions refuse a NULL among them. -/
structure AnswersNearest [LinearOrder ω] (D : DuckDb C P K) (rs : List StoredVector)
    (s : Conn P K) : Prop where
  answers : ∀ vector, vectorText index request.embedding = .ok vector →
    (∀ r ∈ scopeRows request rs, r.vector.isSome = true) →
    ∃ xs columns, Arranges (StoredVector.sortKey E index request) (scopeRows request rs) xs ∧
      (exec (D.query (searchSql index request vector)) s).1 =
        .ok ⟨columns, (xs.take request.topK).map (StoredVector.cells E index request), none⟩
  refuses : ∀ vector, vectorText index request.embedding = .ok vector →
    ¬ (∀ r ∈ scopeRows request rs, r.vector.isSome = true) →
    ∃ e, (exec (D.query (searchSql index request vector)) s).1 = .error e

/-- An exact request that passes every check. -/
structure ValidExact : Prop where
  valid : validateSearchRequest request = .ok ()
  exact : request.mode = "exact"
  prepared : ∃ sql, prepareSearch index request = .ok sql

/-- The answer is the first `top_k` of the rows with an embedding, however these are arranged. -/
def FindsTopK [LinearOrder ω] (rs : List StoredVector) (r : Except String VectorSearchResult) :
    Prop :=
  ∃ found, r = .ok ⟨index.vectorSpace, request.mode, index.buildStatus, found⟩ ∧
    ∀ xs, Arranges (StoredVector.sortKey E index request)
        ((scopeRows request rs).filter (·.vector.isSome)) xs →
      found.map (fun m => (some m.memoryId, some m.distance)) =
        (xs.take request.topK).map fun r => (r.memoryId, r.distance E index request)

/-- No row of the scope lacks its embedding, and at least `top_k` rows come before each that lacks
its memory. -/
structure Searchable [LinearOrder ω] (rs : List StoredVector) : Prop where
  embedded : ∀ r ∈ scopeRows request rs, r.vector.isSome = true
  memories : ∀ r ∈ scopeRows request rs, r.memoryId = none →
    request.topK ≤ (scopeRows request rs).countP fun x =>
      decide (x.sortKey E index request < r.sortKey E index request)

variable {E index request} {rs xs : List StoredVector} {x y r : StoredVector}

/-! ### The order of the rows -/

lemma tenantId_of_mem_scopeRows (h : x ∈ scopeRows request rs) :
    x ∈ rs ∧ x.tenantId.map Int64.toInt = some request.tenantId ∧
      x.agentId.map Int64.toInt = some request.agentId := by
  simpa [scopeRows] using h

lemma eq_of_map_toInt_eq {a b : Option Int64} (h : a.map Int64.toInt = b.map Int64.toInt) :
    a = b :=
  Option.map_injective (fun _ _ => Int64.toInt_inj.1) h

lemma sortKey_eq_iff : x.sortKey E index request = y.sortKey E index request ↔
    (x.distance E index request).map E.rank = (y.distance E index request).map E.rank ∧
      x.memoryId = y.memoryId := by
  unfold StoredVector.sortKey
  rw [toLex_inj, Prod.mk.injEq, nullsLast_injective.eq_iff, nullsLast_injective.eq_iff]
  exact and_congr_right fun _ => ⟨eq_of_map_toInt_eq, fun h => by rw [h]⟩

/-- The unique key and the order tell the rows apart that have a memory. -/
lemma eq_of_sortKey_eq (hunique : KeysUnique rs) (hx : x ∈ scopeRows request rs)
    (hy : y ∈ scopeRows request rs) (hmemory : x.memoryId ≠ none)
    (h : x.sortKey E index request = y.sortKey E index request) : x = y := by
  obtain ⟨hxrs, hxtenant, hxagent⟩ := tenantId_of_mem_scopeRows hx
  obtain ⟨hyrs, hytenant, hyagent⟩ := tenantId_of_mem_scopeRows hy
  have htenant : x.tenantId = y.tenantId := eq_of_map_toInt_eq (hxtenant.trans hytenant.symm)
  have hagent : x.agentId = y.agentId := eq_of_map_toInt_eq (hxagent.trans hyagent.symm)
  have hsame : x.memoryId = y.memoryId := (sortKey_eq_iff.1 h).2
  obtain ⟨tenant, ht, -⟩ := Option.map_eq_some_iff.1 hxtenant
  obtain ⟨agent, ha, -⟩ := Option.map_eq_some_iff.1 hxagent
  obtain ⟨memory, hm⟩ := Option.ne_none_iff_exists'.1 hmemory
  have hkey : x.key = some (tenant, agent, memory) := by simp [StoredVector.key, ht, ha, hm]
  have hkey' : y.key = some (tenant, agent, memory) := by
    simp [StoredVector.key, ← htenant, ← hagent, ← hsame, ht, ha, hm]
  by_contra hne
  have : Std.Symm fun a b : StoredVector => ∀ k, a.key = some k → b.key ≠ some k :=
    ⟨fun a b hab k hb ha => hab k ha hb⟩
  exact hunique.forall hxrs hyrs hne _ hkey hkey'

/-! ### Reading the answer -/

lemma vectorMatch_cells (m : VectorMatch) :
    vectorMatch (C := C) (r.cells E index request) = .ok m ↔
      (some m.memoryId, some m.distance) = (r.memoryId, r.distance E index request) := by
  obtain ⟨id, d⟩ := m
  unfold StoredVector.cells
  rcases r.memoryId with _ | memory
  · rcases r.distance E index request with _ | distance <;> simp [vectorMatch]
  · rcases r.distance E index request with _ | distance <;> simp [vectorMatch, eq_comm]

lemma readMatches_cells (columns : List SqlColumn) (found : List VectorMatch) :
    readMatches (C := C) ⟨columns, xs.map (StoredVector.cells E index request), none⟩ = .ok found ↔
      found.map (fun m => (some m.memoryId, some m.distance)) =
        xs.map fun r => (r.memoryId, r.distance E index request) := by
  have hread : readMatches (C := C) ⟨columns, xs.map (StoredVector.cells E index request), none⟩ =
      (xs.map (StoredVector.cells E index request)).mapM (vectorMatch (C := C)) := by
    simp only [readMatches, bind_pure]
  rw [hread, mapM_eq_ok, List.forall₂_map_left_iff, ← List.forall₂_eq_eq_eq,
    List.forall₂_map_left_iff, List.forall₂_map_right_iff]
  simp only [vectorMatch_cells]
  exact ⟨List.Forall₂.flip, List.Forall₂.flip⟩

/-- What is read has its memory. -/
lemma memory_of_found {found : List VectorMatch}
    (h : found.map (fun m => (some m.memoryId, some m.distance)) =
      xs.map fun r => (r.memoryId, r.distance E index request)) (hx : x ∈ xs) :
    x.memoryId ≠ none := by
  have hmem : (x.memoryId, x.distance E index request) ∈
      found.map fun m => (some m.memoryId, some m.distance) := by
    rw [h]
    exact List.mem_map_of_mem hx
  obtain ⟨m, -, hm⟩ := List.mem_map.1 hmem
  rw [← (Prod.mk.inj hm).1]
  exact Option.some_ne_none _

lemma exists_found (h : ∀ x ∈ xs, x.vector.isSome = true ∧ x.memoryId ≠ none) :
    ∃ found : List VectorMatch, found.map (fun m => (some m.memoryId, some m.distance)) =
      xs.map fun r => (r.memoryId, r.distance E index request) := by
  induction xs with
  | nil => exact ⟨[], rfl⟩
  | cons x xs ih =>
    obtain ⟨found, hfound⟩ := ih fun y hy => h y (List.mem_cons_of_mem x hy)
    obtain ⟨hvector, hmemory⟩ := h x List.mem_cons_self
    obtain ⟨vector, hvector⟩ := Option.isSome_iff_exists.1 hvector
    obtain ⟨memory, hmemory⟩ := Option.ne_none_iff_exists'.1 hmemory
    refine ⟨⟨memory, E.distance index.metric request.embedding vector⟩ :: found, ?_⟩
    simp [hfound, hmemory, StoredVector.distance, hvector]

/-! ### The search -/

variable [LinearOrder ω] {D : DuckDb C P K} {s : Conn P K}

/-- What becomes of a search that passes its checks is what becomes of its query. -/
lemma exec_exactSearch (hfound : foundIndex s.session.now.cat request.vectorSpace = .ok index)
    (hvalid : ValidExact index request) :
    ∃ vector, vectorText index request.embedding = .ok vector ∧
      (exec (searchVectorsBlocking D request) s).1 =
        (exec (queryVectorMatches D (searchSql index request vector)) s).1.map
          fun found => ⟨index.vectorSpace, request.mode, index.buildStatus, found⟩ := by
  have hmode : request.mode ≠ "ann" := by
    rw [hvalid.exact]
    decide
  obtain ⟨sql, hsql⟩ := hvalid.prepared
  obtain ⟨vector, hvector, rfl⟩ := prepareSearch_ok hsql
  refine ⟨vector, hvector, ?_⟩
  unfold searchVectorsBlocking
  rw [exec_bind, exec_fromExcept, hvalid.valid]
  simp only [exec_bind, exec_onSession, exec_lookup, hfound, exec_fromExcept, hsql, runSearch,
    hmode, if_false]
  rw [← searchSql_eq]
  rcases exec (queryVectorMatches D (searchSql index request vector)) s with ⟨e | found, t⟩ <;> rfl

/-- A row without embedding makes the search fail. -/
lemma not_findsTopK_of_refused
    (hfound : foundIndex s.session.now.cat request.vectorSpace = .ok index)
    (hvalid : ValidExact index request) (hanswer : AnswersNearest E index request D rs s)
    (hnull : ¬ ∀ r ∈ scopeRows request rs, r.vector.isSome = true) :
    ¬ FindsTopK E index request rs (exec (searchVectorsBlocking D request) s).1 := by
  obtain ⟨vector, hvector, hexec⟩ := exec_exactSearch (D := D) hfound hvalid
  obtain ⟨e, he⟩ := hanswer.refuses vector hvector hnull
  rw [hexec, exec_queryVectorMatches_fst, he]
  rintro ⟨found, hr, -⟩
  cases hr

lemma exec_exactSearch_of_embedded
    (hfound : foundIndex s.session.now.cat request.vectorSpace = .ok index)
    (hvalid : ValidExact index request) (hanswer : AnswersNearest E index request D rs s)
    (hembedded : ∀ r ∈ scopeRows request rs, r.vector.isSome = true) :
    ∃ xs columns, Arranges (StoredVector.sortKey E index request) (scopeRows request rs) xs ∧
      (exec (searchVectorsBlocking D request) s).1 =
        ((readMatches (C := C) ⟨columns, (xs.take request.topK).map
          (StoredVector.cells E index request), none⟩).mapError
            ("read vector search result failed: " ++ ·)).map
          fun found => ⟨index.vectorSpace, request.mode, index.buildStatus, found⟩ := by
  obtain ⟨vector, hvector, hexec⟩ := exec_exactSearch (D := D) hfound hvalid
  obtain ⟨xs, columns, hxs, hopened⟩ := hanswer.answers vector hvector hembedded
  refine ⟨xs, columns, hxs, ?_⟩
  rw [hexec, exec_queryVectorMatches_fst, hopened]

/-- **Exact search is the top k** exactly where every row of the scope has its embedding and those
without a memory come late enough. -/
theorem exactSearch_iff (hfound : foundIndex s.session.now.cat request.vectorSpace = .ok index)
    (hvalid : ValidExact index request) (hanswer : AnswersNearest E index request D rs s)
    (hunique : KeysUnique rs) :
    FindsTopK E index request rs (exec (searchVectorsBlocking D request) s).1 ↔
      Searchable E index request rs := by
  by_cases hembedded : ∀ r ∈ scopeRows request rs, r.vector.isSome = true
  swap
  · exact iff_of_false (not_findsTopK_of_refused hfound hvalid hanswer hembedded)
      fun h => hembedded h.embedded
  obtain ⟨xs, columns, hxs, hexec⟩ := exec_exactSearch_of_embedded hfound hvalid hanswer hembedded
  rw [hexec]
  constructor
  · rintro ⟨found, hr, -⟩
    have hread : readMatches (C := C) ⟨columns, (xs.take request.topK).map
        (StoredVector.cells E index request), none⟩ = .ok found := by
      rcases hread : readMatches (C := C) ⟨columns, (xs.take request.topK).map
        (StoredVector.cells E index request), none⟩ with e | found'
      · rw [hread] at hr
        cases hr
      · rw [hread] at hr
        cases hr
        rfl
    have hmemory (y : StoredVector) (hy : y ∈ xs.take request.topK) : y.memoryId ≠ none :=
      memory_of_found ((readMatches_cells columns found).1 hread) hy
    refine ⟨hembedded, fun r hscope hnone => ?_⟩
    refine hxs.le_countP hscope (fun y hy hle => decide_eq_true ?_) fun hmem => hmemory r hmem hnone
    refine lt_of_le_of_ne hle fun heq => hmemory y hy ?_
    rw [(sortKey_eq_iff.1 heq).2, hnone]
  · rintro ⟨-, hlast⟩
    have hmem (y : StoredVector) (hy : y ∈ xs.take request.topK) : y ∈ scopeRows request rs :=
      hxs.perm.mem_iff.1 (List.mem_of_mem_take hy)
    have hmemory (y : StoredVector) (hy : y ∈ xs.take request.topK) : y.memoryId ≠ none :=
      fun hnone => absurd (hxs.countP_lt hy) (not_lt.2 (hlast y (hmem y hy) hnone))
    obtain ⟨found, hmatches⟩ : ∃ found : List VectorMatch,
        found.map (fun m => (some m.memoryId, some m.distance)) =
          (xs.take request.topK).map fun r => (r.memoryId, r.distance E index request) :=
      exists_found fun y hy => ⟨hembedded y (hmem y hy), hmemory y hy⟩
    refine ⟨found, by rw [(readMatches_cells columns found).2 hmatches]; rfl, fun ys hys => ?_⟩
    rw [List.filter_eq_self.2 hembedded] at hys
    have hkeys : (xs.take request.topK).map (StoredVector.sortKey E index request) =
        (ys.take request.topK).map (StoredVector.sortKey E index request) := by
      rw [List.map_take, List.map_take, hxs.map_key_eq hys]
    have hfirst : xs.take request.topK = ys.take request.topK :=
      eq_of_map_key_eq hkeys fun x hx y hy heq => eq_of_sortKey_eq hunique (hmem x hx)
        (hys.perm.mem_iff.1 (List.mem_of_mem_take hy)) (hmemory x hx) heq
    rw [hmatches, hfirst]

end TopK

/-! ### A row without embedding -/

/-- All vectors are equally far. -/
def equalDistance : ExactDistance ℕ := ⟨fun _ _ _ => 0, fun d => d.toNat⟩

/-- The index that `indexedCatalog` has. -/
def vectorsIndex : VectorIndexStatus :=
  ⟨101, "v", "main", "t", "embedding", "i", "", "", 1, .cosine, 16, 32, 128, 64, 1, 1, "", .active,
    0, ""⟩

/-- The nearest vector of tenant 1 and agent 1. -/
def nearestOne : VectorSearchRequest := ⟨"v", 1, 1, [0x3f800000#32], 1, "exact", none⟩

def nullRefused : String :=
  "Invalid Input Error: list_cosine_distance: left argument can not contain NULL values"

/-- An engine that knows that search, over one table of vectors. -/
def nearestEngine : DuckDb plainCrates (List StoredVector) Unit where
  query _ s :=
    let found := scopeRows nearestOne s.session.now.phys
    let sorted := found.mergeSort fun x y =>
      decide (x.sortKey equalDistance vectorsIndex nearestOne ≤
        y.sortKey equalDistance vectorsIndex nearestOne)
    if found.all (·.vector.isSome) then
      (.ok ⟨[], (sorted.take 1).map (StoredVector.cells equalDistance vectorsIndex nearestOne),
        none⟩, s)
    else
      (.error nullRefused, s)
  execute _ s := (.error "not a statement", s)
  refuse _ := none
  readText _ _ := .ok ""
  partitionTimes _ := []

def vectorsConn (rows : List StoredVector) : Conn (List StoredVector) Unit :=
  ⟨⟨⟨indexedCatalog, rows⟩, none⟩, ()⟩

lemma foundIndex_vectors (rows : List StoredVector) :
    foundIndex (vectorsConn rows).session.now.cat nearestOne.vectorSpace = .ok vectorsIndex := by
  change foundIndex indexedCatalog "v" = .ok vectorsIndex
  decide

lemma validExact_nearestOne : ValidExact vectorsIndex nearestOne :=
  ⟨by decide, by decide, ⟨_, rfl⟩⟩

lemma answersNearest_nearestEngine (rows : List StoredVector) :
    AnswersNearest equalDistance vectorsIndex nearestOne nearestEngine rows (vectorsConn rows) where
  answers _ _ hall := by
    refine ⟨_, [], arranges_mergeSort _ _, ?_⟩
    have hall : (scopeRows nearestOne (vectorsConn rows).session.now.phys).all (·.vector.isSome) =
        true := List.all_eq_true.2 hall
    unfold nearestEngine
    simp only [exec, hall, if_true]
    rfl
  refuses _ _ hnull := by
    have hnull : ¬ (scopeRows nearestOne (vectorsConn rows).session.now.phys).all
        (·.vector.isSome) = true := fun h => hnull (List.all_eq_true.1 h)
    refine ⟨nullRefused, ?_⟩
    unfold nearestEngine
    simp only [exec, hnull]
    rfl

/-- The memory 5 of tenant 1 and agent 1, of which only the embedding may be missing. -/
def memoryFive (embedding : Option (List (Option F32))) : StoredVector :=
  ⟨some 1, some 1, some 5, embedding⟩

def unitVector : List (Option F32) := [some 0x3f800000#32]

/-- With its embedding, it is what the search finds. -/
theorem exactSearch_iff_memoryFive :
    FindsTopK equalDistance vectorsIndex nearestOne [memoryFive (some unitVector)]
      (exec (searchVectorsBlocking nearestEngine nearestOne)
        (vectorsConn [memoryFive (some unitVector)])).1 := by
  have hscope : scopeRows nearestOne [memoryFive (some unitVector)] =
      [memoryFive (some unitVector)] := rfl
  refine (exactSearch_iff (foundIndex_vectors _) validExact_nearestOne
    (answersNearest_nearestEngine _) (List.pairwise_singleton _ _)).2 ⟨?_, ?_⟩
  · rw [hscope]
    exact List.forall_mem_singleton.2 rfl
  · rw [hscope]
    refine List.forall_mem_singleton.2 fun hnone => ?_
    cases hnone

/-- Beside another memory that has its embedding, the row without one makes the search fail, though
the nearest memory is there to be found. -/
theorem exactSearch_without_embedding :
    let rows := [memoryFive none, { memoryFive (some unitVector) with memoryId := some 6 }]
    foundIndex (vectorsConn rows).session.now.cat nearestOne.vectorSpace = .ok vectorsIndex ∧
      ValidExact vectorsIndex nearestOne ∧
      AnswersNearest equalDistance vectorsIndex nearestOne nearestEngine rows (vectorsConn rows) ∧
      KeysUnique rows ∧
      ¬ FindsTopK equalDistance vectorsIndex nearestOne rows
        (exec (searchVectorsBlocking nearestEngine nearestOne) (vectorsConn rows)).1 := by
  intro rows
  have hanswer := answersNearest_nearestEngine rows
  refine ⟨foundIndex_vectors _, validExact_nearestOne, hanswer, ?_, ?_⟩
  · refine List.pairwise_pair.2 fun k hk hk' => ?_
    cases hk
    cases hk'
  · refine not_findsTopK_of_refused (foundIndex_vectors _) validExact_nearestOne hanswer fun h => ?_
    have hnull := h (memoryFive none) List.mem_cons_self
    cases hnull

end Rsduck.Db
