import Mathlib.Data.List.Sort
import Rsduck.Catalog.Partition.Names
import Rsduck.Lib.Part

/-!
The partitions of the partitioned relations: their rows in the catalog, and the tables and indexes
DuckDB has for them in `rsduck_internal`.

A row of `rs_partition` is kept with the relation row of its child, if that is there: no relation is
in `rsduck_internal` but the child of a partition. What is in a table, how its columns are
described and what DuckDB makes of rows is left open. The rows of an insert come with the times that
their keys are read as.
-/

namespace Rsduck.Catalog.Partition

open Lib Lib.Eff Lib.Calendar Lib.Text

structure ChildRelation (D : Type) where
  relname : List Char
  status : Status
  columns : D

/-- What `rs_partition` tells of the rows of a partition. -/
structure PartitionStats where
  rowCount : ℤ
  minTs : Option ℤ
  maxTs : Option ℤ

structure PartitionEntry (D : Type) where
  parentRelid : ℤ
  partitionValue : List Char
  childRelid : ℤ
  status : Status
  child : Option (ChildRelation D)
  stats : PartitionStats

structure PartitionIndexSpec where
  indexOid : ℤ
  indexName : List Char
  columns : List (List Char)
  unique : Bool

structure PhysicalTable (T : Type) where
  name : List Char
  content : T

structure PhysicalIndex where
  name : List Char
  table : List Char
  columns : List (List Char)
  unique : Bool

structure Partitions (T D : Type) where
  nextOid : ℤ
  entries : List (PartitionEntry D) := []
  /-- the indexes of the partitioned relations, each with the oid of its relation -/
  specs : List (ℤ × PartitionIndexSpec) := []
  tables : List (PhysicalTable T) := []
  indexes : List PhysicalIndex := []
  /-- the entrypoint views: over which tables, for each relation -/
  entrypoints : List (ℤ × List (List Char)) := []

/-- What DuckDB does with the contents of tables; `B` is a row of an insert. -/
structure PartitionEngine (T D B : Type) where
  createTable : PartitionedRelation → Except String T
  loadColumns : T → D
  columnsMatch : D → T → Except String Unit
  insertRows : T → List B → Except String T
  buildIndex : T → PartitionIndexSpec → Except String Unit
  unionAll : List T → Except String Unit

section Operations

variable {T D B : Type}

/-- The catalog's comparison of names. -/
def sameName (n m : List Char) : Bool := lowercase n == lowercase m

/-- DuckDB's comparison of names. -/
def sameIdentifier (n m : List Char) : Bool := eqIgnoreAsciiCase n m

lemma sameName_of_sameIdentifier {n m : List Char} (h : sameIdentifier n m = true) :
    sameName n m = true :=
  beq_iff_eq.2 (lowercase_congr (eq_of_beq h))

namespace Partitions

def findTable (n : List Char) (s : Partitions T D) : Option T :=
  (s.tables.find? fun t => sameIdentifier n t.name).map (·.content)

/-- `relation_exists` in `rsduck_internal` -/
def relationExists (n : List Char) (s : Partitions T D) : Bool :=
  s.entries.any fun e => e.child.any fun c => sameName n c.relname

def duckdbIndexExists (n : List Char) (s : Partitions T D) : Bool := s.indexes.any (·.name == n)

def indexTaken (n : List Char) (s : Partitions T D) : Bool :=
  s.indexes.any fun i => sameIdentifier n i.name

/-- The rows of a relation in the order of their values. -/
def entriesOf (parent : ℤ) (s : Partitions T D) : List (PartitionEntry D) :=
  (s.entries.filter (·.parentRelid == parent)).insertionSort fun e f : PartitionEntry D =>
    String.ofList e.partitionValue ≤ String.ofList f.partitionValue

/-- The partitions of a relation whose child is there. -/
def children (parent : ℤ) (s : Partitions T D) : List (PartitionEntry D × ChildRelation D) :=
  (s.entriesOf parent).filterMap fun e => e.child.map fun c => (e, c)

def activeChildren (parent : ℤ) (s : Partitions T D) :
    List (PartitionEntry D × ChildRelation D) :=
  (s.children parent).filter (·.1.status == .active)

/-- The row of a partition. -/
def entry (parent : ℤ) (value : List Char) (s : Partitions T D) : Option (PartitionEntry D) :=
  s.entries.find? fun e => e.parentRelid == parent && e.partitionValue == value

def partitionIndexSpecs (parent : ℤ) (s : Partitions T D) : List PartitionIndexSpec :=
  (s.specs.filter (·.1 == parent)).map (·.2)

/-- The row of a partition is changed. -/
def updateEntry (parent : ℤ) (value : List Char) (f : PartitionEntry D → PartitionEntry D)
    (s : Partitions T D) : Partitions T D :=
  { s with entries := s.entries.map fun e =>
      if e.parentRelid == parent && e.partitionValue == value then f e else e }

end Partitions

open Partitions

/-! ### DuckDB's statements -/

def createTable (n : List Char) (content : T) : Eff (Partitions T D) PUnit := do
  let taken ← asks fun s => (findTable n s).isSome
  ensure (!taken) ("Table with name \"" ++ String.ofList n ++ "\" already exists!")
  modify fun s => { s with tables := s.tables ++ [⟨n, content⟩] }

/-- A table goes with its indexes. -/
def dropTable (n : List Char) : Eff (Partitions T D) PUnit := do
  let there ← asks fun s => (findTable n s).isSome
  ensure there ("Table with name " ++ String.ofList n ++ " does not exist!")
  modify fun s => { s with
    tables := s.tables.filter fun t => !sameIdentifier n t.name
    indexes := s.indexes.filter fun i => !sameIdentifier n i.table }

def tableContent (n : List Char) : Eff (Partitions T D) T := do
  let found ← asks (findTable n)
  match found with
  | none => throw ("Table with name " ++ String.ofList n ++ " does not exist!")
  | some content => return content

/-! ### The rows of an insert -/

structure PartitionRoute where
  partitionValue : List Char
  routeTs : Option DateTime

/-- The rows for one partition, and the time of the first of them. -/
structure PartitionInsertGroup (B : Type) where
  partitionValue : List Char
  routeTs : Option DateTime
  rows : List B

/-- The route of a key that is read as this time. -/
def partitionRoute (unit : PartitionUnit) (dt : DateTime) : PartitionRoute :=
  ⟨partitionValueForDatetime dt unit, some dt⟩

def pushPartitionInsertGroup (route : PartitionRoute) (row : B) :
    List (PartitionInsertGroup B) → List (PartitionInsertGroup B)
  | [] => [⟨route.partitionValue, route.routeTs, [row]⟩]
  | group :: groups =>
    if group.partitionValue == route.partitionValue then
      { group with routeTs := group.routeTs <|> route.routeTs, rows := group.rows ++ [row] } :: groups
    else group :: pushPartitionInsertGroup route row groups

def partitionInsertGroups (unit : PartitionUnit) (rows : List (DateTime × B)) :
    List (PartitionInsertGroup B) :=
  rows.foldl (fun groups row => pushPartitionInsertGroup (partitionRoute unit row.1) row.2 groups) []

/-- `row_count`, `min_ts` and `max_ts` after an update with rows of which one time is known. -/
def PartitionStats.update (insertedRows : ℤ) (routeTs : Option ℤ) (s : PartitionStats) :
    PartitionStats where
  rowCount := s.rowCount + insertedRows
  minTs := match routeTs, s.minTs with
    | none, m => m
    | some t, none => some t
    | some t, some m => some (if t < m then t else m)
  maxTs := match routeTs, s.maxTs with
    | none, m => m
    | some t, none => some t
    | some t, some m => some (if t > m then t else m)

def updatePartitionStats (parent : ℤ) (value : List Char) (insertedRows : ℕ)
    (routeTs : Option DateTime) : Eff (Partitions T D) PUnit :=
  modify (updateEntry parent value fun row =>
    { row with stats := row.stats.update insertedRows (routeTs.map DateTime.micros) })

/-! ### DuckDB's indexes and rows -/

variable (E : PartitionEngine T D B)

def createIndex (n table : List Char) (spec : PartitionIndexSpec) : Eff (Partitions T D) PUnit := do
  let content ← tableContent table
  let taken ← asks (indexTaken n)
  ensure (!taken) ("Index with name \"" ++ String.ofList n ++ "\" already exists!")
  fromExcept (E.buildIndex content spec)
  modify fun s => { s with indexes := s.indexes ++ [⟨n, table, spec.columns, spec.unique⟩] }

def insertInto (n : List Char) (rows : List B) : Eff (Partitions T D) PUnit := do
  let content ← tableContent n
  let content ← fromExcept (E.insertRows content rows)
  modify fun s => { s with
    tables := s.tables.map fun t => if sameIdentifier n t.name then ⟨t.name, content⟩ else t }

/-! ### Operations of a partitioned relation -/

def allocateOid : Eff (Partitions T D) ℤ := do
  let oid ← asks Partitions.nextOid
  modify fun s => { s with nextOid := s.nextOid + 1 }
  return oid

def createPartitionIndex (spec : PartitionIndexSpec) (childRelname : List Char) :
    Eff (Partitions T D) PUnit := do
  let childIndex := partitionIndexName childRelname spec.indexName
  let there ← asks (duckdbIndexExists childIndex)
  if there then pure ⟨⟩
  else mapError (fun e => "execute DuckDB CREATE partition index rsduck_internal." ++
    String.ofList childIndex ++ " failed: " ++ e) (createIndex E childIndex childRelname spec)

def createPartitionIndexes (parent : ℤ) (childRelname : List Char) :
    Eff (Partitions T D) PUnit := do
  let specs ← asks (partitionIndexSpecs parent)
  specs.forM fun spec => createPartitionIndex E spec childRelname

def createRangePartition (R : PartitionedRelation) (value : List Char) :
    Eff (Partitions T D) (List Char) := do
  let _ ← fromExcept (partitionBounds value R.partitionUnit)
  let childRelname := physicalPartitionName R.name value
  let there ← asks (Partitions.relationExists childRelname)
  ensure (!there) ("managed physical partition relation already exists: rsduck_internal." ++
    String.ofList childRelname)
  let childOid ← allocateOid
  let _ ← allocateOid
  let content ← fromExcept (E.createTable R)
  mapError ("execute DuckDB CREATE partition failed: " ++ ·) (createTable childRelname content)
  modify fun s => { s with entries := s.entries ++
    [⟨R.oid, value, childOid, .active, some ⟨childRelname, .active, E.loadColumns content⟩,
      ⟨0, none, none⟩⟩] }
  createPartitionIndexes E R.oid childRelname
  return childRelname

def ensureActivePartition (R : PartitionedRelation) (value : List Char) :
    Eff (Partitions T D) (List Char) := do
  let found ← asks (entry R.oid value)
  match found with
  | none => createRangePartition E R value
  | some e =>
    match e.status, e.child with
    | .active, some child => return child.relname
    | status, _ =>
      throw ("managed partition already exists with non-active status: " ++ String.ofList R.name ++
        " partition_value=" ++ String.ofList value ++ " status=" ++ status.text ++
        "; explicit repair or retry is required")

def refreshPartitionEntrypoint (R : PartitionedRelation) : Eff (Partitions T D) PUnit := do
  let children ← asks (activeChildren R.oid)
  let contents ← children.mapM fun c => tableContent c.2.relname
  fromExcept (E.unionAll contents)
  modify fun s => { s with entrypoints := s.entrypoints.filter (·.1 != R.oid) ++
    [(R.oid, children.map (·.2.relname))] }

def expirePartition (R : PartitionedRelation) (e : PartitionEntry D × ChildRelation D) :
    Eff (Partitions T D) PUnit := do
  modify (updateEntry R.oid e.1.partitionValue fun row => { row with status := .expiring })
  mapError (fun error => "execute DuckDB DROP expired partition rsduck_internal." ++
    String.ofList e.2.relname ++ " failed: " ++ error) (dropTable e.2.relname)
  modify (updateEntry R.oid e.1.partitionValue fun row =>
    { row with status := .dropped, child := none })

def expireOldPartitions (R : PartitionedRelation) : Eff (Partitions T D) PUnit := do
  if R.retentionCount ≤ 0 then pure ⟨⟩
  else do
    let partitions ← asks (activeChildren R.oid)
    (partitions.take (partitions.length - R.retentionCount.toNat)).forM (expirePartition R)

def insertPartitionGroup (R : PartitionedRelation) (group : PartitionInsertGroup B) :
    Eff (Partitions T D) PUnit := do
  let childRelname ← ensureActivePartition E R group.partitionValue
  mapError ("insert partition rows failed: " ++ ·) (insertInto E childRelname group.rows)
  updatePartitionStats R.oid group.partitionValue group.rows.length group.routeTs

/-- An insert of rows, each with its time. -/
def insertPartitionedRelation (R : PartitionedRelation) (rows : List (DateTime × B)) :
    Eff (Partitions T D) PUnit := do
  (partitionInsertGroups R.partitionUnit rows).forM (insertPartitionGroup E R)
  expireOldPartitions R
  refreshPartitionEntrypoint E R

/-- The maintenance of one relation. -/
def maintainPartitionedRelation (R : PartitionedRelation) : Eff (Partitions T D) PUnit := do
  expireOldPartitions R
  refreshPartitionEntrypoint E R

def dropPartitionedRelation (R : PartitionedRelation) : Eff (Partitions T D) PUnit := do
  let children ← asks (Partitions.children R.oid)
  modify fun s => { s with entrypoints := s.entrypoints.filter (·.1 != R.oid) }
  children.forM fun c => mapError (fun e => "execute DuckDB DROP physical partition rsduck_internal." ++
    String.ofList c.2.relname ++ " failed: " ++ e) (dropTable c.2.relname)
  modify fun s => { s with
    entries := s.entries.filter (·.parentRelid != R.oid)
    specs := s.specs.filter (·.1 != R.oid) }

/-- The table is there under this very name, with the columns the catalog has. -/
def validateTablePhysical (child : ChildRelation D) : Eff (Partitions T D) PUnit := do
  let found ← asks fun s => s.tables.find? (·.name == child.relname)
  match found with
  | none => throw "missing DuckDB physical table"
  | some table => fromExcept (E.columnsMatch child.columns table.content)

/-- A partition that has no relation any more gets one again. -/
def recreatePartition (R : PartitionedRelation) (value : List Char) :
    Eff (Partitions T D) PUnit := do
  let childRelname := physicalPartitionName R.name value
  let _ ← allocateOid
  let content ← fromExcept (E.createTable R)
  mapError ("execute DuckDB CREATE repaired partition failed: " ++ ·)
    (createTable childRelname content)
  modify (updateEntry R.oid value fun row =>
    { row with child := some ⟨childRelname, .active, E.loadColumns content⟩ })
  let _ ← fromExcept (partitionBounds value R.partitionUnit)
  createPartitionIndexes E R.oid childRelname

/-- A partition whose name is in use must be there itself. -/
def validatePartition (R : PartitionedRelation) (value : List Char)
    (child : Option (ChildRelation D)) : Eff (Partitions T D) PUnit :=
  match child with
  | some child => validateTablePhysical E child
  | none => throw ("physical partition exists without catalog relation: rsduck_internal." ++
      String.ofList (physicalPartitionName R.name value))

def repairNonActivePartition (R : PartitionedRelation) (value : List Char)
    (e : PartitionEntry D) : Eff (Partitions T D) PUnit := do
  let there ← asks (Partitions.relationExists (physicalPartitionName R.name value))
  if there then validatePartition E R value e.child else recreatePartition E R value
  modify (updateEntry R.oid value fun row =>
    { row with status := .active, child := row.child.map fun c => { c with status := .active } })

def repairEntry (R : PartitionedRelation) (value : List Char) (e : PartitionEntry D) :
    Eff (Partitions T D) PUnit :=
  match e.status, e.child with
  | .active, some child => validateTablePhysical E child
  | .active, none => pure ⟨⟩
  | _, _ => repairNonActivePartition E R value e

def repairPartition (R : PartitionedRelation) (value : List Char) :
    Eff (Partitions T D) PUnit := do
  let found ← asks (entry R.oid value)
  match found with
  | none => throw ("partition metadata does not exist: " ++ String.ofList R.name ++
      " partition_value=" ++ String.ofList value)
  | some e => do
    repairEntry E R value e
    refreshPartitionEntrypoint E R

/-- A partition is taken out of use until it is repaired. -/
def markPartitionUnavailable (R : PartitionedRelation) (value : List Char) :
    Eff (Partitions T D) PUnit := do
  let found ← asks (entry R.oid value)
  match found.bind (·.child) with
  | none => throw ("partition does not exist: " ++ String.ofList R.schema ++ "." ++
      String.ofList R.name ++ " " ++ String.ofList value)
  | some _ => do
    modify (updateEntry R.oid value fun row => { row with
      status := .failed, child := row.child.map fun c => { c with status := .unavailable } })
    refreshPartitionEntrypoint E R

/-- The partition indexes of a new index of the relation. -/
def createIndexOnPartitions (R : PartitionedRelation) (spec : PartitionIndexSpec) :
    Eff (Partitions T D) PUnit := do
  let children ← asks (activeChildren R.oid)
  children.forM fun c => createPartitionIndex E spec c.2.relname
  modify fun s => { s with specs := s.specs ++ [(R.oid, spec)] }

/-- What can be done with a partitioned relation. -/
inductive PartitionOp (B : Type)
  | insert (rows : List (DateTime × B))
  | maintain
  | markUnavailable (value : List Char)
  | repair (value : List Char)
  | createIndex (spec : PartitionIndexSpec)
  | drop

def performPartitionOp (R : PartitionedRelation) : PartitionOp B → Eff (Partitions T D) PUnit
  | .insert rows => insertPartitionedRelation E R rows
  | .maintain => maintainPartitionedRelation E R
  | .markUnavailable value => markPartitionUnavailable E R value
  | .repair value => repairPartition E R value
  | .createIndex spec => createIndexOnPartitions E R spec
  | .drop => dropPartitionedRelation R

end Operations

end Rsduck.Catalog.Partition
