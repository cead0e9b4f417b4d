import Rsduck.Catalog.Auth.Principal
import Rsduck.Catalog.Mutation.VectorIndex
import Rsduck.Db.VectorSearch

/-!
The commands of a worker, one after the other on its connection.

A command ends with a reply; what unwinds is caught and becomes a failure like any other.
-/

namespace Rsduck.Db

open Lib Lib.Eff Lib.Text Catalog Mysql

structure ParquetImportSource where
  table : String
  path : String

structure VectorIndexCreateRequest where
  vectorSpace : String
  schema : String
  table : String
  column : String
  indexName : String
  embeddingModel : String
  modelVersion : String
  metric : String
  m : ℤ
  m0 : ℤ
  efConstruction : ℤ
  defaultEfSearch : ℤ

/-- A command; an authentication carries the time it is handled at. -/
inductive SqlCommand
  | runTyped (username : String) (sql : List Char) (route : SqlRoute) (command : String)
  | authenticate (request : AuthRequest) (time : ℤ)
  | describe (username : String) (sql : List Char) (route : SqlRoute)
  | importParquet (username schema : String) (sources : List ParquetImportSource)
  | createVectorIndex (username : String) (request : VectorIndexCreateRequest)
  | vectorIndexStatus (username vectorSpace : String)
  | vectorSearch (username : String) (request : VectorSearchRequest)
  | vectorUpsert (username : String) (request : VectorUpsertRequest)
  | vectorDelete (username : String) (request : VectorDeleteRequest)
  | rebuildVectorIndex (username vectorSpace : String)
  | compactVectorIndex (username vectorSpace : String)

inductive Reply (C : Crates)
  | typed (result : SqlTypedResult C)
  | principal (principal : AuthenticatedPrincipal)
  | columns (columns : List SqlColumn)
  | rows (affectedRows : ℕ)
  | index (index : VectorIndexStatus)
  | matches (result : VectorSearchResult)
  | mutation (result : VectorMutationResult)

/-- The workers a command may be sent to: the writer's are all but reads. -/
def SqlCommand.toWriter : SqlCommand → Bool
  | .runTyped _ _ route _ | .describe _ _ route => route == .write
  | .vectorIndexStatus _ _ | .vectorSearch _ _ => false
  | _ => true

/-- What the workers share beside the service: the passwords, the vector indexes, and the two
mutations that are no statements. -/
structure Workers (C : Crates) (P K : Type) extends Service P where
  engine : DuckDb C P K
  passwords : PasswordCheck
  vectors : IndexEngine P
  importParquetTables : (username schema : String) → List ParquetImportSource → Mutation P
  buildVectorIndex : VectorIndexCreateRequest → (owner : ℤ) →
    Db P → Except String (Session.Body (Db P) VectorIndexStatus)
  maxResultRows : ℕ

section Worker

variable {C : Crates} {P K : Type} (W : Workers C P K)

/-- The database as the connection sees it. -/
def current : Eff (Conn P K) (Db P) := do
  return (← get).session.now

/-- The index of a vector space, once the user may act on its table. -/
def authorizedIndex (right : Catalog → String → String → Except String Unit)
    (vectorSpace : String) : Eff (Conn P K) VectorIndexStatus := do
  let index ← onSession (Session.statement (Db.onCatalog (vectorIndexStatus vectorSpace)))
  fromExcept (right (← current).cat index.schema index.table)
  return index

lemma exec_authorizedIndex (right : Catalog → String → String → Except String Unit)
    (vectorSpace : String) (s : Conn P K) :
    (exec (authorizedIndex right vectorSpace) s).2 = s := by
  unfold authorizedIndex current
  rw [exec_bind, exec_onSession]
  rcases exec_vectorIndexStatus vectorSpace s.session with ⟨e, h⟩ | ⟨index, -, h⟩
  · rw [h]
  · rw [h]
    simp only [exec_bind, exec_get, exec_pure, exec_fromExcept]
    rcases right s.session.now.cat index.schema index.table with e | ⟨⟩
    · rfl
    · rfl

/-- The work of a command. -/
def handle : SqlCommand → Eff (Conn P K) (Reply C)
  | .runTyped username sql route command => do
    return .typed (← executeTypedSqlBlocking W.engine W.toService username sql route command
      W.maxResultRows)
  | .authenticate request time => do
    return .principal (← onSession (Session.statement
      (Db.onCatalog (Catalog.authenticate W.passwords time request))))
  | .describe username sql route => do
    return .columns (← describeSqlBlocking W.engine W.toService username sql route)
  | .importParquet username schema sources => do
    return .rows (← onSession
      ((W.importParquetTables username schema sources).exec W.engine.refuse))
  | .createVectorIndex username request => do
    let d ← current
    let owner ← fromExcept (authorizeVectorIndexManagement d.cat username)
    let b ← fromExcept (W.buildVectorIndex request owner d)
    return .index (← onSession (runCatalogTx W.engine.refuse b))
  | .vectorIndexStatus username vectorSpace => do
    let _ ← fromExcept (authorizeVectorIndexManagement (← current).cat username)
    return .index (← onSession (Session.statement
      (Db.onCatalog (Catalog.vectorIndexStatus vectorSpace))))
  | .vectorSearch username request => do
    let _ ← authorizedIndex (fun c => authorizeVectorSearch c username) request.vectorSpace
    return .matches (← searchVectorsBlocking W.engine request)
  | .vectorUpsert username request => do
    let _ ← authorizedIndex (fun c => authorizeVectorWrite c username) request.vectorSpace
    return .mutation (← onSession (upsertVectorsBlocking W.vectors.toVectorEngine request))
  | .vectorDelete username request => do
    let _ ← authorizedIndex (fun c => authorizeVectorWrite c username) request.vectorSpace
    return .mutation (← onSession (deleteVectorsBlocking W.vectors.toVectorEngine request))
  | .rebuildVectorIndex username vectorSpace => do
    let _ ← fromExcept (authorizeVectorIndexManagement (← current).cat username)
    return .index (← onSession (Catalog.rebuildVectorIndex W.vectors vectorSpace))
  | .compactVectorIndex username vectorSpace => do
    let _ ← fromExcept (authorizeVectorIndexManagement (← current).cat username)
    return .index (← onSession (Catalog.compactVectorIndex W.vectors vectorSpace))

/-- The connection after a command. -/
def after (s : Conn P K) (c : SqlCommand) : Conn P K := (exec (handle W c) s).2

/-- The connection after the commands, in their order. -/
def afterAll (s : Conn P K) (cs : List SqlCommand) : Conn P K := cs.foldl (after W) s

end Worker

end Rsduck.Db
