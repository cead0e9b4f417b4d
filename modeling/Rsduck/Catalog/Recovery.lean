import Mathlib.Data.List.Dedup
import Rsduck.Catalog.ColumnTypes
import Rsduck.Catalog.Mutation.VectorIndex
import Rsduck.Lib.Sweep

/-!
What is done with a catalog when the program starts.

The catalog is checked, mutations that were not finished are closed, and a relation that DuckDB
does not have as the catalog describes it becomes unavailable. The view over the partitions of a
table is built anew where it is not the one that the catalog asks for.
-/

namespace Rsduck.Catalog.Recovery

open Lib Lib.Eff Lib.Text ColumnTypes

/-! ### DuckDB at the start -/

/-- What the start asks of DuckDB, and the statements that it has executed. Names are compared as
they are written. -/
structure StartEngine (P : Type) where
  /-- How many entries `duckdb_tables()` has for a name, and `duckdb_views()`. -/
  tables : P → (schema relname : String) → ℕ
  views : P → (schema relname : String) → ℕ
  /-- What `duckdb_columns()` has for a name, in the order of the columns. -/
  columns : P → (schema relname : String) → List DuckdbColumn
  indexes : P → (schema indexName : String) → ℕ
  loadedVssVersion : P → Except String String
  /-- The tables that are neither the program's nor DuckDB's own. -/
  userTables : P → ℕ
  execute : (sql : String) → P → Except String P

/-! ### Texts -/

def objectRelationKind : ℤ := 1259
def objectConstraintKind : ℤ := 2606
def objectSchemaKind : ℤ := 2615

/-- The numbers in a list of columns, as texts. -/
def listedNumbers (list : String) : List (List Char) := list.toList.splitOn ','

def quoteIdent (value : String) : String :=
  "\"" ++ String.ofList (value.toList.flatMap fun c => if c = '"' then ['"', '"'] else [c]) ++ "\""

def quoteQualified (schema relation : String) : String :=
  quoteIdent schema ++ "." ++ quoteIdent relation

def relationUnavailableMessage (relOid : ℤ) (reason : String) : String :=
  if contains "RS-CATALOG-" reason.toList then reason
  else "RS-CATALOG-" ++ toString relOid ++ ": " ++ reason

def partitionIndexName (childRelname parentIndexName : String) : String :=
  childRelname ++ "__" ++ parentIndexName

/-- The statement that makes a view. -/
def viewSql (schema relname query : String) : String :=
  "CREATE OR REPLACE VIEW " ++ quoteQualified schema relname ++ " AS " ++ query

def partitionEntrypointSql (schema table : String) (partitions : List (String × String)) : String :=
  viewSql schema table (" UNION ALL ".intercalate
    (partitions.map fun p => "SELECT * FROM " ++ quoteQualified p.1 p.2))

/-! ### Reading the catalog -/

structure PhysicalRelation where
  oid : ℤ
  schema : String
  relname : String
  relkind : RelKind

/-- The active relations of some kinds, with the names of their schemas, by their oids. -/
def activeRelations (kinds : List RelKind) (c : Catalog) : List PhysicalRelation :=
  ((c.rsRelation.select fun r => r.status == .active && kinds.contains r.relkind).insertionSort
    fun r s => r.oid ≤ s.oid).filterMap fun r =>
      (c.rsSchema.find (·.oid == r.relnamespace)).map fun n =>
        ⟨r.oid, n.nspname, r.relname, r.relkind⟩

structure ActivePartitionChild where
  childOid : ℤ
  schema : String
  relname : String
  childStatus : Status

/-- The partition of no value comes last. -/
def partitionBefore (p q : PartitionRow) : Bool :=
  if p.isNullPartition = q.isNullPartition then decide (p.partitionValue ≤ q.partitionValue)
  else q.isNullPartition

def activePartitionChild (c : Catalog) (p : PartitionRow) : Option ActivePartitionChild := do
  let r ← c.rsRelation.find (·.oid == p.childRelid)
  let n ← c.rsSchema.find (·.oid == r.relnamespace)
  return ⟨p.childRelid, n.nspname, r.relname, r.status⟩

def activePartitionChildren (c : Catalog) (parentOid : ℤ) : List ActivePartitionChild :=
  ((c.rsPartition.select fun p => p.parentRelid == parentOid && p.status == .active).mergeSort
    partitionBefore).filterMap (activePartitionChild c)

def partitionEntrypointSqlFromCatalog (c : Catalog) (parentOid : ℤ) (schema table : String)
    (partitions : List ActivePartitionChild) : String :=
  if !partitions.isEmpty then
    partitionEntrypointSql schema table (partitions.map fun p => (p.schema, p.relname))
  else
    viewSql schema table ("SELECT " ++ ", ".intercalate ((catalogColumns c parentOid).map fun col =>
      "CAST(NULL AS " ++ col.duckdbType ++ ") AS " ++ quoteIdent col.name) ++ " WHERE FALSE")

/-- `rs_index.indkey` of an index. -/
def parseAttnumList (attnums : String) : Except String (List ℤ) :=
  if trim attnums.toList = [] then .ok []
  else (listedNumbers attnums).mapM fun part =>
    match parseI32 (trim part) with
    | some n => .ok n
    | none => .error ("invalid attnum in constraint key: " ++ attnums)

def columnNameByAttnum (c : Catalog) (relOid attnum : ℤ) : Except String String :=
  match c.rsColumn.find fun a => a.attrelid == relOid && a.attnum == attnum && !a.attisdropped with
  | some a => .ok a.attname
  | none => .error ("column attnum does not exist in catalog: rel=" ++ toString relOid ++ " attnum=" ++
      toString attnum ++ ": " ++ noRows)

structure PartitionIndexSpec where
  indexOid : ℤ
  indexName : String
  columns : List String
  unique : Bool

def partitionIndexSpec (c : Catalog) (parentOid : ℤ) (i : IndexRow) (r : RelationRow) :
    Except String PartitionIndexSpec := do
  let attnums ← parseAttnumList i.indkey
  let columns ← attnums.mapM (columnNameByAttnum c parentOid)
  return ⟨i.indexrelid, r.relname, columns, i.indisunique⟩

/-- The indexes of a relation, each with the row of an active relation. -/
def activeIndexes (c : Catalog) (parentOid : ℤ) : List (IndexRow × RelationRow) :=
  ((c.rsIndex.select (·.indrelid == parentOid)).insertionSort
    fun i j => i.indexrelid ≤ j.indexrelid).filterMap fun i =>
      (c.rsRelation.find fun r => r.oid == i.indexrelid && r.status == .active).map fun r => (i, r)

def partitionIndexSpecs (c : Catalog) (parentOid : ℤ) : Except String (List PartitionIndexSpec) :=
  (activeIndexes c parentOid).mapM fun x => partitionIndexSpec c parentOid x.1 x.2

def partitionedIndexParent (c : Catalog) (indexOid : ℤ) : Option ℤ :=
  (c.rsIndex.find fun i => i.indexrelid == indexOid &&
    c.rsRelation.exists? fun r => r.oid == i.indrelid && r.relkind == .partitioned).map (·.indrelid)

/-! ### Marks -/

def markRelationUnavailable (relOid : ℤ) (reason : String) : Eff Catalog PUnit :=
  updateRows Slot.relation (·.oid == relOid)
    (fun r => { r with status := .unavailable
                       errorMessage := relationUnavailableMessage relOid reason }) fun _ _ => rfl

def markPartitionFailed (parentOid childOid : ℤ) (reason : String) : Eff Catalog PUnit :=
  updateRows Slot.partition (fun p => p.parentRelid == parentOid && p.childRelid == childOid)
    (fun p => { p with status := .failed, errorMessage := reason }) fun _ _ => rfl

lemma keepsKey_setStatus (status : BuildStatus) (reason : String) :
    Table.KeepsKey (VectorIndexRow.setStatus status reason) := fun _ _ => rfl

def markVectorIndexRecoveryStatus (indexOid : ℤ) (status : BuildStatus) (reason : String) :
    Eff Catalog PUnit :=
  updateRows Slot.vectorIndex (·.indexrelid == indexOid) (.setStatus status reason)
    (keepsKey_setStatus status reason)

/-- An operation on a vector index that was under way. -/
def interrupted : BuildStatus → Bool
  | .pending | .building | .rebuilding | .compacting => true
  | .active | .stale | .failed | .unavailable => false

/-! ### The catalog by itself -/

/-- An object of a dependency that the catalog does not have. -/
def dangling (c : Catalog) (kind classid objid : ℤ) : Bool :=
  classid == kind &&
    (if kind = objectRelationKind then !c.rsRelation.exists? (·.oid == objid)
    else if kind = objectConstraintKind then !c.rsConstraint.exists? (·.oid == objid)
    else !c.rsSchema.exists? (·.oid == objid))

def supportedClass (classid : ℤ) : Bool :=
  [objectRelationKind, objectConstraintKind, objectSchemaKind].contains classid

/-- The names of the active relations, in lower case. -/
def activeNames (c : Catalog) : List (ℤ × String) :=
  (c.rsRelation.select (·.status == .active)).map fun r => (r.relnamespace, sqlLower r.relname)

/-- What the catalog must not have: how many rows violate a rule, and the rule. -/
def integrityRules (c : Catalog) : List (ℕ × String) :=
  [((c.rsRelation.select fun r => !c.rsSchema.exists? (·.oid == r.relnamespace)).length,
      "rs_relation.relnamespace must reference rs_schema"),
    ((c.rsColumn.select fun a => !c.rsRelation.exists? (·.oid == a.attrelid)).length,
      "rs_column.attrelid must reference rs_relation"),
    ((c.rsColumn.select fun a => !c.rsType.exists? (·.oid == a.atttypid)).length,
      "rs_column.atttypid must reference rs_type"),
    ((c.rsVectorIndex.select fun v => !c.rsIndex.exists? (·.indexrelid == v.indexrelid)).length,
      "rs_vector_index.indexrelid must reference rs_index"),
    ((c.rsVectorIndex.select fun v => v.dimension == 0).length,
      "rs_vector_index definition and status must be valid"),
    (((activeNames c).dedup.filter fun k => decide (1 < (activeNames c).count k)).length,
      "active relation names must be unique per namespace"),
    ((c.rsDependency.select fun d => !supportedClass d.classid || !supportedClass d.refclassid).length,
      "rs_dependency classid/refclassid must reference supported catalog classes"),
    ((c.rsDependency.select fun d => dangling c objectRelationKind d.classid d.objid).length,
      "rs_dependency relation object must reference rs_relation"),
    ((c.rsDependency.select fun d => dangling c objectRelationKind d.refclassid d.refobjid).length,
      "rs_dependency referenced relation object must reference rs_relation"),
    ((c.rsDependency.select fun d => dangling c objectConstraintKind d.classid d.objid).length,
      "rs_dependency constraint object must reference rs_constraint"),
    ((c.rsDependency.select fun d => dangling c objectConstraintKind d.refclassid d.refobjid).length,
      "rs_dependency referenced constraint object must reference rs_constraint"),
    ((c.rsDependency.select fun d => dangling c objectSchemaKind d.classid d.objid).length,
      "rs_dependency schema object must reference rs_schema"),
    ((c.rsDependency.select fun d => dangling c objectSchemaKind d.refclassid d.refobjid).length,
      "rs_dependency referenced schema object must reference rs_schema")]

def ensureCatalogCountZero (rule : ℕ × String) : Eff Catalog PUnit :=
  ensure (rule.1 == 0) ("catalog integrity violation: " ++ rule.2 ++ "; invalid rows=" ++
    toString rule.1)

def validateCatalogIntegrity : Eff Catalog PUnit := do
  (integrityRules (← get)).forM ensureCatalogCountZero

def pendingJournal (c : Catalog) : List JournalRow :=
  (c.rsCatalogJournal.select (·.status == .pending)).insertionSort fun r s => r.journalId ≤ s.journalId

def journalSummary (r : JournalRow) : String :=
  "#" ++ toString r.journalId ++ " " ++ r.mutationType ++ " " ++ r.status.text ++ ": " ++ r.errorMessage

/-- Mutations that were not finished have failed. -/
def validateCatalogJournalState : Eff Catalog PUnit := do
  let pending := pendingJournal (← get)
  if pending.isEmpty then return ⟨⟩
  else
    let summary := "; ".intercalate ((pending.take 5).map journalSummary)
    updateRows Slot.journal (·.status == .pending)
      (fun r => { r with status := .failed, errorMessage := "recovered at startup: " ++ summary })
      fun _ _ => rfl
    refreshCatalogChecksum

def validateCatalogChecksum : Eff Catalog PUnit := do
  let v ← queryRow Slot.version "read catalog checksum failed: " (·.id == 1)
  let actual := calculateCatalogChecksum (← get)
  ensure (v.catalogChecksum == actual) ("catalog checksum mismatch: expected=" ++ v.catalogChecksum ++
    ", actual=" ++ actual)

/-! ### The catalog beside DuckDB -/

section Physical

variable {P : Type} (E : StartEngine P)

def validateColumns (relOid : ℤ) (schema relname : String) : Eff (Db P) PUnit := do
  let d ← get
  Db.onCatalog (validateCatalogColumnsMatchDuckdb relOid schema relname
    (E.columns d.phys schema relname))

def validateTablePhysical (relOid : ℤ) (schema relname : String) : Eff (Db P) PUnit := do
  ensure (E.tables (← get).phys schema relname != 0) "missing DuckDB physical table"
  validateColumns E relOid schema relname

def validateViewPhysical (relOid : ℤ) (schema relname : String) : Eff (Db P) PUnit := do
  ensure (E.views (← get).phys schema relname != 0) "missing DuckDB physical view"
  validateColumns E relOid schema relname

def validatePartitionIndex (spec : PartitionIndexSpec) (p : P) (child : ActivePartitionChild) :
    Except String PUnit :=
  let childIndex := partitionIndexName child.relname spec.indexName
  if E.indexes p "rsduck_internal" childIndex ≠ 0 then .ok ⟨⟩
  else .error ("missing DuckDB physical partition index: rsduck_internal." ++ childIndex)

def validateIndexPhysical (indexOid : ℤ) (schema relname : String) (d : Db P) :
    Except String PUnit :=
  match partitionedIndexParent d.cat indexOid with
  | some parentOid => do
    let specs ← partitionIndexSpecs d.cat parentOid
    match specs.find? (·.indexOid == indexOid) with
    | none => .error ("missing partitioned index metadata: " ++ schema ++ "." ++ relname)
    | some spec =>
      (activePartitionChildren d.cat parentOid).forM (validatePartitionIndex E spec d.phys)
  | none =>
    if E.indexes d.phys schema relname ≠ 0 then .ok ⟨⟩
    else .error "missing DuckDB physical index"

def reconcileVectorIndexRuntimeStatus (indexOid : ℤ) : Eff (Db P) PUnit := do
  let d ← get
  match d.cat.rsVectorIndex.find (·.indexrelid == indexOid) with
  | none => return ⟨⟩
  | some v =>
    if interrupted v.buildStatus then
      Db.onCatalog (markVectorIndexRecoveryStatus indexOid .unavailable
        ("interrupted vector index operation: " ++ v.buildStatus.text))
    else if v.buildStatus ≠ .active then return ⟨⟩
    else
      let loaded ← mapError ("read loaded VSS version at startup failed: " ++ ·)
        (fromExcept (E.loadedVssVersion d.phys))
      if loaded ≠ v.extensionVersion then
        Db.onCatalog (markVectorIndexRecoveryStatus indexOid .stale
          ("VSS extension version changed: stored=" ++ v.extensionVersion ++ ", loaded=" ++ loaded))
      else return ⟨⟩

def validatePhysical (r : PhysicalRelation) : Eff (Db P) PUnit :=
  match r.relkind with
  | .table => validateTablePhysical E r.oid r.schema r.relname
  | .view => validateViewPhysical E r.oid r.schema r.relname
  | .index => do fromExcept (validateIndexPhysical E r.oid r.schema r.relname (← get))
  | .partitioned => return ⟨⟩

def validatePhysicalRelation (r : PhysicalRelation) : Eff (Db P) PUnit := do
  match ← attempt (validatePhysical E r) with
  | .error reason =>
    Db.onCatalog (markRelationUnavailable r.oid reason)
    if r.relkind = .index then
      Db.onCatalog (markVectorIndexRecoveryStatus r.oid .unavailable reason)
    else return ⟨⟩
  | .ok _ =>
    if r.relkind = .index then reconcileVectorIndexRuntimeStatus E r.oid else return ⟨⟩

def physicalKinds : List RelKind := [.table, .view, .index]

def validatePhysicalRelations : Eff (Db P) PUnit := do
  (activeRelations physicalKinds (← get).cat).forM (validatePhysicalRelation E)

/-! ### Partitioned tables -/

def validatePartitionChild (parentOid : ℤ) (partition : ActivePartitionChild) :
    Eff (Db P) PUnit := do
  let name := partition.schema ++ "." ++ partition.relname
  if partition.childStatus ≠ .active then
    let reason := "active partition child is not active: " ++ name ++ " status=" ++
      partition.childStatus.text
    Db.onCatalog (markPartitionFailed parentOid partition.childOid reason)
    throw reason
  else
    match ← attempt (validateTablePhysical E partition.childOid partition.schema
        partition.relname) with
    | .error reason =>
      Db.onCatalog (markRelationUnavailable partition.childOid reason)
      Db.onCatalog (markPartitionFailed parentOid partition.childOid reason)
      throw ("active partition child unavailable: " ++ name ++ ": " ++ reason)
    | .ok _ => return ⟨⟩

def rebuildPartitionEntrypoint (parentOid : ℤ) (expectedSql : String) : Eff (Db P) PUnit := do
  onPhysical "rebuild partition entrypoint failed: " (E.execute expectedSql)
  Db.onCatalog (updateRows Slot.relationExt (·.relid == parentOid)
    (fun e => { e with generatedSql := expectedSql }) fun _ _ => rfl)

/-- What says that a partitioned table is made of its partition. -/
def partitionDependency (parentOid : ℤ) (partition : ActivePartitionChild) : DependencyRow :=
  ⟨objectRelationKind, parentOid, 0, objectRelationKind, partition.childOid, 0, "n"⟩

/-- A dependency of a relation on relations. -/
def isRelationDependency (parentOid : ℤ) (d : DependencyRow) : Bool :=
  d.classid == objectRelationKind && d.objid == parentOid && d.refclassid == objectRelationKind

def syncPartitionDependencies (parentOid : ℤ) (partitions : List ActivePartitionChild) :
    Eff Catalog PUnit := do
  deleteRows Slot.dependency (isRelationDependency parentOid)
  partitions.forM fun p =>
    insertRow Slot.dependency "write partition dependency failed: " (partitionDependency parentOid p)

/-- The view over the partitions is made anew where it is not the one that it should be. -/
def validateEntrypoint (r : PhysicalRelation) (expectedSql : String) : Eff (Db P) PUnit := do
  let ext ← Db.onCatalog (queryRow Slot.relationExt "read partition entrypoint SQL failed: "
    (·.relid == r.oid))
  if trimString ext.generatedSql ≠ expectedSql then rebuildPartitionEntrypoint E r.oid expectedSql
  else
    match ← attempt (validateViewPhysical E r.oid r.schema r.relname) with
    | .error _ => rebuildPartitionEntrypoint E r.oid expectedSql
    | .ok _ => return ⟨⟩

def validatePartitionedRelation (r : PhysicalRelation) : Eff (Db P) PUnit := do
  let partitions := activePartitionChildren (← get).cat r.oid
  partitions.forM (validatePartitionChild E r.oid)
  let expectedSql := partitionEntrypointSqlFromCatalog (← get).cat r.oid r.schema r.relname partitions
  validateEntrypoint E r expectedSql
  validateViewPhysical E r.oid r.schema r.relname
  Db.onCatalog (syncPartitionDependencies r.oid partitions)

def validatePartitioned (r : PhysicalRelation) : Eff (Db P) PUnit := do
  match ← attempt (validatePartitionedRelation E r) with
  | .error reason => Db.onCatalog (markRelationUnavailable r.oid reason)
  | .ok _ => return ⟨⟩

def validatePartitionedRelations : Eff (Db P) PUnit := do
  (activeRelations [.partitioned] (← get).cat).forM (validatePartitioned E)

/-! ### The start -/

/-- The checks of what a catalog says of itself. -/
def validateCatalog : Eff Catalog PUnit := do
  let v ← queryRow Slot.version "read catalog version failed: " (·.id == 1)
  ensure (v.schemaVersion == catalogVersion) ("unsupported rsduck catalog schema version: " ++
    toString v.schemaVersion ++ ", expected " ++ toString catalogVersion)
  ensure (v.snapshotFormatVersion == snapshotFormatVersion)
    ("unsupported rsduck catalog snapshot format version: " ++ toString v.snapshotFormatVersion ++
      ", expected " ++ toString snapshotFormatVersion)
  ensure (v.status == "ready") ("rsduck catalog status is not ready: " ++ v.status)
  validateCatalogJournalState
  validateCatalogIntegrity
  validateCatalogChecksum

/-- `validate_after_start`, where there is a catalog. -/
def validateStored : Eff (Db P) PUnit := do
  Db.onCatalog validateCatalog
  validatePhysicalRelations E
  validatePartitionedRelations E
  Db.onCatalog refreshCatalogChecksum

/-- The database that a start ends with, given what is stored. What is written of the password of
`admin` comes with the start. -/
def validateAfterStart (adminPasswordHash adminMysqlAuthString : String) (stored : Option Catalog)
    (p : P) : Except String (Db P) := do
  let c ← match stored with
    | some c => .ok c
    | none =>
      if E.userTables p ≠ 0 then
        .error "rsduck catalog is missing but DuckDB already contains user objects"
      else .ok (insertBootstrapRows adminPasswordHash adminMysqlAuthString)
  settled (exec (validateStored E) ⟨c, p⟩)

end Physical

end Rsduck.Catalog.Recovery
