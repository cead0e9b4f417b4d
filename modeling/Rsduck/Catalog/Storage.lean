import Rsduck.Lib.Table

/-!
The tables of the `rsduck_catalog` schema.

A row holds every column the program reads or checksums, and the time of a user's last login;
the creation and update times, which no statement decides on, are left out. The key constraints are those of the tables'
`CREATE` statements. A column of kinds or states, which is a free `VARCHAR` there, is an inductive
type of the values that statements write, and `text` is the value as stored.
-/

namespace Rsduck.Catalog

open Lib

/-! ### Stored enumerations -/

inductive JournalStatus
  | pending | applied | failed
  deriving DecidableEq

def JournalStatus.text : JournalStatus → String
  | .pending => "pending"
  | .applied => "applied"
  | .failed => "failed"

/-- `relkind`: an ordinary table, a partitioned table, a view or an index. -/
inductive RelKind
  | table | partitioned | view | index
  deriving DecidableEq

def RelKind.text : RelKind → String
  | .table => "r"
  | .partitioned => "p"
  | .view => "v"
  | .index => "i"

/-- The status of a relation or of a partition. -/
inductive Status
  | pending | active | unavailable | failed | expiring | dropped
  deriving DecidableEq

def Status.text : Status → String
  | .pending => "pending"
  | .active => "active"
  | .unavailable => "unavailable"
  | .failed => "failed"
  | .expiring => "expiring"
  | .dropped => "dropped"

inductive ConType
  | primaryKey | unique | check | foreignKey
  deriving DecidableEq

def ConType.text : ConType → String
  | .primaryKey => "p"
  | .unique => "u"
  | .check => "c"
  | .foreignKey => "f"

/-- The build status of a vector index. -/
inductive BuildStatus
  | pending | building | active | rebuilding | compacting | stale | failed | unavailable
  deriving DecidableEq

def BuildStatus.text : BuildStatus → String
  | .pending => "pending"
  | .building => "building"
  | .active => "active"
  | .rebuilding => "rebuilding"
  | .compacting => "compacting"
  | .stale => "stale"
  | .failed => "failed"
  | .unavailable => "unavailable"

inductive Metric
  | cosine | l2sq | ip
  deriving DecidableEq

def Metric.text : Metric → String
  | .cosine => "cosine"
  | .l2sq => "l2sq"
  | .ip => "ip"

inductive PrincipalType
  | user | role
  deriving DecidableEq

def PrincipalType.text : PrincipalType → String
  | .user => "user"
  | .role => "role"

/-- What a privilege is about. -/
inductive PrivilegeObject
  | system | schema | relation
  deriving DecidableEq

def PrivilegeObject.text : PrivilegeObject → String
  | .system => "system"
  | .schema => "schema"
  | .relation => "relation"

inductive PrivilegeAction
  | read | write | ddl | manageSnapshot | manageCatalog | manageUser
  deriving DecidableEq

def PrivilegeAction.text : PrivilegeAction → String
  | .read => "read"
  | .write => "write"
  | .ddl => "ddl"
  | .manageSnapshot => "manage_snapshot"
  | .manageCatalog => "manage_catalog"
  | .manageUser => "manage_user"

/-- What the program manages a relation as. -/
inductive ManagedKind
  | ordinary | rangePartitionedTable | physicalPartition | generatedView
  deriving DecidableEq

def ManagedKind.text : ManagedKind → String
  | .ordinary => "ordinary"
  | .rangePartitionedTable => "range_partitioned_table"
  | .physicalPartition => "physical_partition"
  | .generatedView => "generated_view"

inductive Visibility
  | user | internal
  deriving DecidableEq

def Visibility.text : Visibility → String
  | .user => "user"
  | .internal => "internal"

inductive PartitionUnit
  | hour | day | month | year
  deriving DecidableEq

def PartitionUnit.text : PartitionUnit → String
  | .hour => "hour"
  | .day => "day"
  | .month => "month"
  | .year => "year"

/-! ### Rows -/

structure VersionRow where
  id : ℤ
  schemaVersion : ℤ
  snapshotFormatVersion : ℤ
  catalogEpoch : ℤ
  catalogChecksum : String
  status : String
  deriving DecidableEq

structure OidAllocRow where
  id : ℤ
  nextOid : ℤ
  deriving DecidableEq

structure JournalRow where
  journalId : ℤ
  catalogEpoch : ℤ
  mutationType : String
  targetOid : ℤ
  requestJson : String
  status : JournalStatus
  errorMessage : String
  deriving DecidableEq

structure SchemaRow where
  oid : ℤ
  nspname : String
  nspowner : ℤ
  nspacl : String
  deriving DecidableEq

structure TypeRow where
  oid : ℤ
  typname : String
  typnamespace : ℤ
  typowner : ℤ
  typlen : ℤ
  typbyval : Bool
  typtype : String
  typcategory : String
  typisdefined : Bool
  typrelid : ℤ
  typelem : ℤ
  typarray : ℤ
  rsduckPhysicalType : String
  deriving DecidableEq

structure RelationRow where
  oid : ℤ
  relname : String
  relnamespace : ℤ
  reltype : ℤ
  relowner : ℤ
  relkind : RelKind
  relpersistence : String
  relnatts : ℤ
  reltuples : ℤ
  relhasindex : Bool
  relispartition : Bool
  relpartbound : String
  reloptions : String
  status : Status
  errorMessage : String
  deriving DecidableEq

structure ColumnRow where
  attrelid : ℤ
  attname : String
  atttypid : ℤ
  attnum : ℤ
  atttypmod : ℤ
  attnotnull : Bool
  atthasdef : Bool
  attisdropped : Bool
  attidentity : String
  attgenerated : String
  attoptions : String
  deriving DecidableEq

structure ColumnDefaultRow where
  oid : ℤ
  adrelid : ℤ
  adnum : ℤ
  adbin : String
  deriving DecidableEq

structure ConstraintRow where
  oid : ℤ
  conname : String
  connamespace : ℤ
  contype : ConType
  conrelid : ℤ
  conindid : ℤ
  conkey : String
  confrelid : ℤ
  confkey : String
  convalidated : Bool
  conbin : String
  deriving DecidableEq

structure IndexRow where
  indexrelid : ℤ
  indrelid : ℤ
  indnatts : ℤ
  indnkeyatts : ℤ
  indisunique : Bool
  indisprimary : Bool
  indisvalid : Bool
  indkey : String
  indexprs : String
  indpred : String
  deriving DecidableEq

structure VectorIndexRow where
  indexrelid : ℤ
  vectorSpace : String
  embeddingModel : String
  modelVersion : String
  dimension : ℕ
  metric : Metric
  m : ℤ
  m0 : ℤ
  efConstruction : ℤ
  defaultEfSearch : ℤ
  definitionVersion : ℤ
  generation : ℤ
  extensionVersion : String
  buildStatus : BuildStatus
  vectorCount : ℤ
  errorMessage : String
  deriving DecidableEq

structure DependencyRow where
  classid : ℤ
  objid : ℤ
  objsubid : ℤ
  refclassid : ℤ
  refobjid : ℤ
  refobjsubid : ℤ
  deptype : String
  deriving DecidableEq

structure CommentRow where
  objoid : ℤ
  classoid : ℤ
  objsubid : ℤ
  description : String
  deriving DecidableEq

structure RelationExtRow where
  relid : ℤ
  managedKind : ManagedKind
  storageMode : String
  visibility : Visibility
  partitionKey : String
  partitionKeyType : String
  partitionUnit : Option PartitionUnit
  retentionCount : ℤ
  generatedSql : String
  propertiesJson : String
  deriving DecidableEq

/-- Times are microseconds since the epoch. -/
structure PartitionRow where
  parentRelid : ℤ
  childRelid : ℤ
  partitionValue : String
  partitionUnit : PartitionUnit
  lowerBound : Option ℤ
  upperBound : Option ℤ
  isNullPartition : Bool
  status : Status
  rowCount : ℤ
  minTs : Option ℤ
  maxTs : Option ℤ
  checksum : String
  errorMessage : String
  deriving DecidableEq

structure UserRow where
  userId : ℤ
  username : String
  passwordHash : String
  passwordAlgo : String
  mysqlAuthPlugin : String
  mysqlAuthString : String
  status : String
  isBuiltin : Bool
  lastLoginAt : Option ℤ := none
  deriving DecidableEq

structure RoleRow where
  roleId : ℤ
  roleName : String
  description : String
  isBuiltin : Bool
  deriving DecidableEq

structure UserRoleRow where
  userId : ℤ
  roleId : ℤ
  grantedBy : ℤ
  deriving DecidableEq

structure PrivilegeRow where
  privilegeId : ℤ
  principalType : PrincipalType
  principalId : ℤ
  objectType : PrivilegeObject
  objectId : ℤ
  action : PrivilegeAction
  grantedBy : ℤ
  deriving DecidableEq

/-! ### Key constraints -/

instance : Keyed VersionRow := Keyed.of (·.id)
instance : Keyed OidAllocRow := Keyed.of (·.id)
instance : Keyed JournalRow := Keyed.of (·.journalId)
instance : Keyed SchemaRow := Keyed.of₂ (·.oid) (·.nspname)
instance : Keyed TypeRow := Keyed.of₂ (·.oid) fun t => (t.typnamespace, t.typname)
instance : Keyed RelationRow := Keyed.of₂ (·.oid) fun r => (r.relnamespace, r.relname)
instance : Keyed ColumnRow := Keyed.of fun c => (c.attrelid, c.attnum)
instance : Keyed ColumnDefaultRow := Keyed.of₂ (·.oid) fun d => (d.adrelid, d.adnum)
instance : Keyed ConstraintRow := Keyed.of (·.oid)
instance : Keyed IndexRow := Keyed.of (·.indexrelid)
instance : Keyed VectorIndexRow := Keyed.of₂ (·.indexrelid) (·.vectorSpace)
instance : Keyed DependencyRow :=
  Keyed.of fun d => (d.classid, d.objid, d.objsubid, d.refclassid, d.refobjid, d.refobjsubid)
instance : Keyed CommentRow := Keyed.of fun c => (c.objoid, c.classoid, c.objsubid)
instance : Keyed RelationExtRow := Keyed.of (·.relid)
instance : Keyed PartitionRow :=
  Keyed.of₂ (fun p => (p.parentRelid, p.childRelid)) fun p => (p.parentRelid, p.partitionValue)
instance : Keyed UserRow := Keyed.of₂ (·.userId) (·.username)
instance : Keyed RoleRow := Keyed.of₂ (·.roleId) (·.roleName)
instance : Keyed UserRoleRow := Keyed.of fun u => (u.userId, u.roleId)
instance : Keyed PrivilegeRow := Keyed.of₂ (·.privilegeId) fun p =>
  (p.principalType, p.principalId, p.objectType, p.objectId, p.action)

end Rsduck.Catalog

namespace Rsduck

open Lib Catalog

/-- The catalog: the nineteen tables of the schema `rsduck_catalog`. -/
structure Catalog where
  rsCatalogVersion : Table VersionRow := Table.empty
  rsOidAlloc : Table OidAllocRow := Table.empty
  rsCatalogJournal : Table JournalRow := Table.empty
  rsSchema : Table SchemaRow := Table.empty
  rsType : Table TypeRow := Table.empty
  rsRelation : Table RelationRow := Table.empty
  rsColumn : Table ColumnRow := Table.empty
  rsColumnDefault : Table ColumnDefaultRow := Table.empty
  rsConstraint : Table ConstraintRow := Table.empty
  rsIndex : Table IndexRow := Table.empty
  rsVectorIndex : Table VectorIndexRow := Table.empty
  rsDependency : Table DependencyRow := Table.empty
  rsComment : Table CommentRow := Table.empty
  rsRelationExt : Table RelationExtRow := Table.empty
  rsPartition : Table PartitionRow := Table.empty
  rsUser : Table UserRow := Table.empty
  rsRole : Table RoleRow := Table.empty
  rsUserRole : Table UserRoleRow := Table.empty
  rsPrivilege : Table PrivilegeRow := Table.empty

end Rsduck
