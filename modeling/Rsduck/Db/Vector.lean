import Rsduck.Catalog.VectorIndex
import Rsduck.Db.Params

/-!
The vector table and its batches.

The rows of a vector table are seen through the columns the service uses. A batch runs in one
transaction: each item is compared with the stored version of its key, then the row count of
the index and the catalog checksum are brought up to date.
-/

namespace Rsduck.Db

open Lib Lib.Eff Catalog Rsduck.Db

/-! ### Rows and requests -/

/-- A row of a vector table; none of these columns has to be NOT NULL. -/
structure VectorRow where
  tenantId : Option ℤ
  agentId : Option ℤ
  memoryId : Option ℤ
  sourceVersion : Option ℤ
  contentHash : Option String
  embedding : Option (List (Option F32))
  deriving DecidableEq

/-- What identifies a vector: tenant, agent and memory. -/
abbrev VectorKey := ℤ × ℤ × ℤ

def VectorRow.key (r : VectorRow) : Option VectorKey := do
  return (← r.tenantId, ← r.agentId, ← r.memoryId)

structure VectorUpsertItem where
  tenantId : ℤ
  agentId : ℤ
  memoryId : ℤ
  sourceVersion : ℤ
  contentHash : String
  embedding : List F32
  deriving DecidableEq

def VectorUpsertItem.key (i : VectorUpsertItem) : VectorKey := (i.tenantId, i.agentId, i.memoryId)

structure VectorUpsertRequest where
  vectorSpace : String
  items : List VectorUpsertItem

structure VectorDeleteItem where
  tenantId : ℤ
  agentId : ℤ
  memoryId : ℤ
  sourceVersion : ℤ
  deriving DecidableEq

def VectorDeleteItem.key (i : VectorDeleteItem) : VectorKey := (i.tenantId, i.agentId, i.memoryId)

structure VectorDeleteRequest where
  vectorSpace : String
  items : List VectorDeleteItem

structure VectorMutationResult where
  vectorSpace : String
  applied : ℕ
  idempotent : ℕ
  vectorCount : ℤ

/-- The columns that a unique constraint of a vector table may be over. -/
inductive VectorColumn
  | tenantId | agentId | memoryId | sourceVersion | contentHash
  deriving DecidableEq

def VectorRow.cell (r : VectorRow) : VectorColumn → Option (ℤ ⊕ String)
  | .tenantId => r.tenantId.map .inl
  | .agentId => r.agentId.map .inl
  | .memoryId => r.memoryId.map .inl
  | .sourceVersion => r.sourceVersion.map .inl
  | .contentHash => r.contentHash.map .inr

/-- The two rows are the same to a unique constraint, to which a NULL is like nothing. -/
def VectorRow.sameOn (columns : List VectorColumn) (r t : VectorRow) : Bool :=
  columns.all fun c => (r.cell c).isSome && decide (r.cell c = t.cell c)

/-- The engine's vector tables: their rows and unique constraints, and the cast of a text to
`FLOAT[n]`. -/
structure VectorEngine (P : Type) where
  /-- The rows of the table `schema.table`, with the vector column `column`. -/
  rows : P → String → String → String → List VectorRow
  put : P → String → String → String → List VectorRow → P
  rows_put : ∀ p schema table column rs, rows (put p schema table column rs) schema table column = rs
  uniqueKeys : P → String → String → List (List VectorColumn)
  uniqueKeys_put : ∀ p schema table column rs,
    uniqueKeys (put p schema table column rs) schema table = uniqueKeys p schema table
  /-- What is said of a row that a unique constraint keeps out. -/
  duplicateKey : List VectorColumn → VectorRow → String
  castFloatArray : List Char → Except String (List F32)
  /-- The engine may refuse a commit. -/
  refuse : Db P → Option String

/-! ### Checks on a request -/

def maxVectorBatchSize : ℕ := 1000

def validateBatch (vectorSpace : String) (len : ℕ) : Except String Unit :=
  if Text.trimString vectorSpace = "" then
    .error "VECTOR_SPACE_NOT_FOUND: vector_space cannot be empty"
  else if len = 0 ∨ maxVectorBatchSize < len then
    .error "INVALID_BATCH_SIZE: batch size must be between 1 and 1000"
  else .ok ()

def duplicateVectorKey (memoryId : ℤ) : String :=
  "DUPLICATE_VECTOR_KEY: memory_id=" ++ toString memoryId ++ " appears more than once in the batch"

def validateUpsertItem (index : VectorIndexStatus) (item : VectorUpsertItem) :
    Except String Unit :=
  if item.sourceVersion < 0 then
    .error "INVALID_SOURCE_VERSION: source_version cannot be negative"
  else if Text.trimString item.contentHash = "" then
    .error "INVALID_CONTENT_HASH: content_hash cannot be empty"
  else if item.embedding.length ≠ index.dimension then
    .error ("VECTOR_DIMENSION_MISMATCH: memory_id=" ++ toString item.memoryId ++ ", expected=" ++
      toString index.dimension ++ ", actual=" ++ toString item.embedding.length)
  else
    match item.embedding.find? fun value => !f32.isFinite value with
    | some value => .error ("INVALID_VECTOR_VALUE: memory_id=" ++ toString item.memoryId ++
        " contains non-finite value: " ++ String.ofList (f32.display value))
    | none =>
      if index.metric = .cosine ∧ item.embedding.all f32.isZero then
        .error ("INVALID_VECTOR_VALUE: memory_id=" ++ toString item.memoryId ++
          " cosine vector cannot be all zero")
      else .ok ()

/-- The items one after the other, with the keys of those before. -/
def validateUpsertItems (index : VectorIndexStatus) :
    List VectorKey → List VectorUpsertItem → Except String Unit
  | _, [] => .ok ()
  | keys, item :: items =>
    if item.key ∈ keys then .error (duplicateVectorKey item.memoryId)
    else do
      validateUpsertItem index item
      validateUpsertItems index (item.key :: keys) items

def validateUpsertRequest (request : VectorUpsertRequest) (index : VectorIndexStatus) :
    Except String Unit := do
  validateBatch request.vectorSpace request.items.length
  validateUpsertItems index [] request.items

def validateDeleteItems : List VectorKey → List VectorDeleteItem → Except String Unit
  | _, [] => .ok ()
  | keys, item :: items =>
    if item.key ∈ keys then .error (duplicateVectorKey item.memoryId)
    else if item.sourceVersion < 0 then
      .error "INVALID_SOURCE_VERSION: source_version cannot be negative"
    else validateDeleteItems (item.key :: keys) items

def validateDeleteRequest (request : VectorDeleteRequest) : Except String Unit := do
  validateBatch request.vectorSpace request.items.length
  validateDeleteItems [] request.items

/-! ### Batches -/

section Batches

variable {P : Type} (V : VectorEngine P)

def indexStatusError (index : VectorIndexStatus) : String :=
  let code := match index.buildStatus with
    | .pending | .building | .rebuilding => "INDEX_BUILDING"
    | .stale => "INDEX_STALE"
    | _ => "INDEX_UNAVAILABLE"
  code ++ ": vector space " ++ index.vectorSpace ++ " status=" ++ index.buildStatus.text

def vectorRows (index : VectorIndexStatus) : Eff (Db P) (List VectorRow) := do
  return V.rows (← get).phys index.schema index.table index.column

def putVectorRows (index : VectorIndexStatus) (rs : List VectorRow) : Eff (Db P) Unit :=
  modify fun d => { d with phys := V.put d.phys index.schema index.table index.column rs }

def invalidColumnType (index : ℕ) (name : String) : String :=
  "Invalid column type Null at index: " ++ toString index ++ ", name: " ++ name

/-- The version and the hash of a row, neither of which may be NULL here. -/
def VectorRow.version (r : VectorRow) : Except String (ℤ × String) :=
  match r.sourceVersion, r.contentHash with
  | none, _ => .error ("read source_version failed: " ++ invalidColumnType 0 "source_version")
  | some _, none => .error ("read content_hash failed: " ++ invalidColumnType 1 "content_hash")
  | some version, some hash => .ok (version, hash)

def existingVectorVersion (index : VectorIndexStatus) (key : VectorKey) :
    Eff (Db P) (Option (ℤ × String)) := do
  match (← vectorRows V index).find? (·.key == some key) with
  | none => return none
  | some r => return some (← fromExcept r.version)

def deleteVectorRow (index : VectorIndexStatus) (key : VectorKey) : Eff (Db P) Unit := do
  putVectorRows V index ((← vectorRows V index).filter fun r => r.key != some key)

def staleSourceVersion (memoryId stored incoming : ℤ) : String :=
  "STALE_SOURCE_VERSION: memory_id=" ++ toString memoryId ++ ", stored=" ++ toString stored ++
    ", incoming=" ++ toString incoming

/-- The text of a vector: an array literal and its cast to the index's dimension. -/
def vectorText (index : VectorIndexStatus) (embedding : List F32) :
    Except String (List Char) := do
  return (← sqlParamLiteral (.floatArray embedding)) ++ "::FLOAT[".toList ++
    Nat.toDigits 10 index.dimension ++ "]".toList

/-- The row an upsert stores. -/
def VectorUpsertItem.row (item : VectorUpsertItem) (embedding : List F32) : VectorRow :=
  { tenantId := some item.tenantId, agentId := some item.agentId, memoryId := some item.memoryId
    sourceVersion := some item.sourceVersion, contentHash := some item.contentHash
    embedding := some (embedding.map some) }

@[simp] lemma VectorUpsertItem.key_row (item : VectorUpsertItem) (embedding : List F32) :
    (item.row embedding).key = some item.key := rfl

/-- The first unique constraint that a row would break beside the others. -/
def brokenKey (keys : List (List VectorColumn)) (rs : List VectorRow) (row : VectorRow) :
    Option (List VectorColumn) :=
  keys.find? fun columns => rs.any (·.sameOn columns row)

def insertVectorRow (index : VectorIndexStatus) (item : VectorUpsertItem) : Eff (Db P) Unit := do
  let text ← fromExcept (vectorText index item.embedding)
  let embedding ← mapError ("insert vector row failed: " ++ ·) (fromExcept (V.castFloatArray text))
  let row := item.row embedding
  let rs ← vectorRows V index
  match brokenKey (V.uniqueKeys (← get).phys index.schema index.table) rs row with
  | some columns => throw ("insert vector row failed: " ++ V.duplicateKey columns row)
  | none => putVectorRows V index (rs ++ [row])

/-- One item of an upsert; whether it was applied. -/
def upsertVector (index : VectorIndexStatus) (item : VectorUpsertItem) : Eff (Db P) Bool := do
  match ← existingVectorVersion V index item.key with
  | some (storedVersion, storedHash) =>
    if item.sourceVersion < storedVersion then
      throw (staleSourceVersion item.memoryId storedVersion item.sourceVersion)
    else if storedVersion = item.sourceVersion then
      if storedHash ≠ item.contentHash then
        throw ("SOURCE_VERSION_CONFLICT: memory_id=" ++ toString item.memoryId ++
          " has different content_hash for version " ++ toString item.sourceVersion)
      else return false
    else
      deleteVectorRow V index item.key
      insertVectorRow V index item
      return true
  | none =>
    insertVectorRow V index item
    return true

/-- One item of a deletion; whether it was applied. -/
def deleteVector (index : VectorIndexStatus) (item : VectorDeleteItem) : Eff (Db P) Bool := do
  match ← existingVectorVersion V index item.key with
  | some (storedVersion, _) =>
    if item.sourceVersion < storedVersion then
      throw (staleSourceVersion item.memoryId storedVersion item.sourceVersion)
    else
      deleteVectorRow V index item.key
      return true
  | none => return false

/-- The counts of applied and of idempotent items. -/
def countItem (counts : ℕ × ℕ) (applied : Bool) : ℕ × ℕ :=
  if applied then (counts.1 + 1, counts.2) else (counts.1, counts.2 + 1)

def updateVectorCount (index : VectorIndexStatus) : Eff (Db P) ℤ := do
  let vectorCount : ℤ := (← vectorRows V index).countP fun r => r.embedding.isSome
  onCatalog (setVectorCount index.indexOid vectorCount)
  onCatalog refreshCatalogChecksum
  return vectorCount

def vectorTransactions : Session.Engine (Db P) where
  beginError := "begin vector mutation failed: "
  commitError := "commit vector mutation failed: "
  refuse := V.refuse

/-- The items of a batch, then the count of the index, in one transaction. -/
def runVectorTransaction {ι : Type} (index : VectorIndexStatus) (item : ι → Eff (Db P) Bool)
    (items : List ι) : Eff (Session (Db P)) VectorMutationResult :=
  Session.transact (vectorTransactions V) do
    let counts ← items.foldlM (fun counts i => do return countItem counts (← item i)) (0, 0)
    let vectorCount ← updateVectorCount V index
    return { vectorSpace := index.vectorSpace, applied := counts.1, idempotent := counts.2
             vectorCount }

def upsertVectorsBlocking (request : VectorUpsertRequest) :
    Eff (Session (Db P)) VectorMutationResult := do
  let index ← Session.statement (onCatalog (vectorIndexStatus request.vectorSpace))
  ensure (index.buildStatus == .active) (indexStatusError index)
  fromExcept (validateUpsertRequest request index)
  runVectorTransaction V index (upsertVector V index) request.items

def deleteVectorsBlocking (request : VectorDeleteRequest) :
    Eff (Session (Db P)) VectorMutationResult := do
  let index ← Session.statement (onCatalog (vectorIndexStatus request.vectorSpace))
  ensure (index.buildStatus == .active) (indexStatusError index)
  fromExcept (validateDeleteRequest request)
  runVectorTransaction V index (deleteVector V index) request.items

end Batches

end Rsduck.Db
