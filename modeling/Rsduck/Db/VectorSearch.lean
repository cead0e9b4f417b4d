import Rsduck.Db.Execute
import Rsduck.Db.Vector

/-!
Searching a vector table for the nearest vectors.
-/

namespace Rsduck.Db

open Lib Lib.Eff Lib.Text Catalog Mysql

structure VectorSearchRequest where
  vectorSpace : String
  tenantId : ℤ
  agentId : ℤ
  embedding : List F32
  topK : ℕ
  mode : String
  efSearch : Option ℤ

structure VectorMatch where
  memoryId : Int64
  distance : F32

structure VectorSearchResult where
  vectorSpace : String
  mode : String
  indexStatus : BuildStatus
  vectorMatches : List VectorMatch

def maxVectorTopK : ℕ := 1000

def validateSearchRequest (request : VectorSearchRequest) : Except String Unit :=
  if trimString request.vectorSpace = "" then
    .error "VECTOR_SPACE_NOT_FOUND: vector_space cannot be empty"
  else if request.embedding = [] then
    .error "INVALID_VECTOR_VALUE: embedding cannot be empty"
  else
    match request.embedding.find? fun value => !f32.isFinite value with
    | some value => .error ("INVALID_VECTOR_VALUE: embedding contains non-finite value: " ++
        String.ofList (f32.display value))
    | none =>
      if request.topK = 0 ∨ maxVectorTopK < request.topK then
        .error "INVALID_TOP_K: top_k must be between 1 and 1000"
      else if request.mode ≠ "ann" ∧ request.mode ≠ "exact" then
        .error "INVALID_SEARCH_MODE: mode must be ann or exact"
      else if request.efSearch.any (· ≤ 0) then
        .error "INVALID_EF_SEARCH: ef_search must be greater than zero"
      else .ok ()

def distanceFunction : Metric → (ann : Bool) → String
  | .cosine, true => "array_cosine_distance"
  | .l2sq, true => "array_distance"
  | .ip, true => "array_negative_inner_product"
  | .cosine, false => "list_cosine_distance"
  | .l2sq, false => "list_distance"
  | .ip, false => "list_negative_inner_product"

/-- The query for the nearest vectors of an agent. -/
def searchSql (index : VectorIndexStatus) (request : VectorSearchRequest) (vector : List Char) :
    List Char :=
  "SELECT memory_id, ".toList ++ (distanceFunction index.metric (request.mode == "ann")).toList ++
    '(' :: sqlIdent index.column.toList ++ ", ".toList ++ vector ++ ") AS distance FROM ".toList ++
    sqlIdent index.schema.toList ++ '.' :: sqlIdent index.table.toList ++
    " WHERE tenant_id = ".toList ++ intText request.tenantId ++ " AND agent_id = ".toList ++
    intText request.agentId ++ " ORDER BY distance ASC, memory_id ASC LIMIT ".toList ++
    Nat.toDigits 10 request.topK

def setEfSearchSql (efSearch : ℤ) : List Char :=
  "SET hnsw_ef_search = ".toList ++ intText efSearch ++ [';']

section Search

variable {C : Crates} {P K : Type} (D : DuckDb C P K)

/-- The fields of a row, which has a BIGINT and a FLOAT, or NULL in their place. -/
def vectorMatch : List (ValueRef C) → Except String VectorMatch
  | [.bigInt memoryId, .float distance] => .ok ⟨memoryId, distance⟩
  | [.bigInt _, _] => .error (invalidColumnType 1 "distance")
  | _ => .error (invalidColumnType 0 "memory_id")

/-- The rows up to the first that cannot be read. -/
def readMatches (opened : Opened C) : Except String (List VectorMatch) := do
  let found ← opened.rows.mapM vectorMatch
  match opened.failure with
  | some e => throw e
  | none => return found

def queryVectorMatches (sql : List Char) : Eff (Conn P K) (List VectorMatch) := do
  let opened ← mapError ("execute vector search failed: " ++ ·) (D.query sql)
  fromExcept ((readMatches opened).mapError ("read vector search result failed: " ++ ·))

/-- What is checked before a search, and its query. -/
def prepareSearch (index : VectorIndexStatus) (request : VectorSearchRequest) :
    Except String (List Char) :=
  if request.mode = "ann" ∧ index.buildStatus ≠ .active then .error (indexStatusError index)
  else if request.embedding.length ≠ index.dimension then
    .error ("VECTOR_DIMENSION_MISMATCH: expected=" ++ toString index.dimension ++ ", actual=" ++
      toString request.embedding.length)
  else if index.metric = .cosine ∧ request.embedding.all f32.isZero then
    .error "INVALID_VECTOR_VALUE: cosine query vector cannot be all zero"
  else do return searchSql index request (← vectorText index request.embedding)

/-- The search itself; the setting of an approximate search is taken back in any case. -/
def runSearch (index : VectorIndexStatus) (request : VectorSearchRequest) (sql : List Char) :
    Eff (Conn P K) (List VectorMatch) := do
  if request.mode = "ann" then
    let _ ← mapError ("set HNSW ef_search failed: " ++ ·)
      (D.execute (setEfSearchSql (request.efSearch.getD index.defaultEfSearch)))
    let result ← attempt (queryVectorMatches D sql)
    let reset ← attempt (mapError ("reset HNSW ef_search failed: " ++ ·)
      (D.execute "RESET hnsw_ef_search;".toList))
    let found ← fromExcept result
    let _ ← fromExcept reset
    return found
  else queryVectorMatches D sql

def searchVectorsBlocking (request : VectorSearchRequest) :
    Eff (Conn P K) VectorSearchResult := do
  fromExcept (validateSearchRequest request)
  let index ← onSession (Session.statement (Db.onCatalog (vectorIndexStatus request.vectorSpace)))
  let sql ← fromExcept (prepareSearch index request)
  let found ← runSearch D index request sql
  return { vectorSpace := index.vectorSpace, mode := request.mode
           indexStatus := index.buildStatus, vectorMatches := found }

end Search

end Rsduck.Db
