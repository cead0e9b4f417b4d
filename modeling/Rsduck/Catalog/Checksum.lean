import Mathlib.Data.Int.Order.Basic
import Mathlib.Data.List.Lex
import Rsduck.Catalog.Storage
import Rsduck.Lib.Effect

/-!
The catalog checksum: FNV-1a over the rows of the catalog's tables.

Every table is read in the order of its key; each cell goes into the hash with its length
before it. The checksum itself is the one column of `rs_catalog_version` left out.
-/

namespace Rsduck.Catalog

open Lib Lib.Eff

def fnv64Offset : UInt64 := 0xcbf29ce484222325
def fnv64Prime : UInt64 := 0x00000100000001b3

def hashChecksumByte (state : UInt64) (byte : UInt8) : UInt64 :=
  (state ^^^ byte.toUInt64) * fnv64Prime

def hashChecksumBytes (state : UInt64) (bytes : List UInt8) : UInt64 :=
  bytes.foldl hashChecksumByte state

/-- The bytes of one part of the stream: its length, then the part. -/
def checksumPartBytes (value : String) : List UInt8 :=
  (toString value.utf8ByteSize ++ ":" ++ value ++ ";").toUTF8.data.toList

def hashChecksumPart (state : UInt64) (value : String) : UInt64 :=
  hashChecksumBytes state (checksumPartBytes value)

/-! ### Cells -/

def cellBool (b : Bool) : String := if b then "true" else "false"

def cellTime : Option ℤ → String
  | none => "<null>"
  | some t => toString t ++ " Microsecond"

namespace Cells

def version (r : VersionRow) : List String :=
  [toString r.id, toString r.schemaVersion, toString r.snapshotFormatVersion,
    toString r.catalogEpoch, r.status]

def oidAlloc (r : OidAllocRow) : List String := [toString r.id, toString r.nextOid]

def journal (r : JournalRow) : List String :=
  [toString r.journalId, toString r.catalogEpoch, r.mutationType, toString r.targetOid,
    r.requestJson, r.status.text, r.errorMessage]

def schema (r : SchemaRow) : List String :=
  [toString r.oid, r.nspname, toString r.nspowner, r.nspacl]

def type (r : TypeRow) : List String :=
  [toString r.oid, r.typname, toString r.typnamespace, toString r.typowner, toString r.typlen,
    cellBool r.typbyval, r.typtype, r.typcategory, cellBool r.typisdefined, toString r.typrelid,
    toString r.typelem, toString r.typarray, r.rsduckPhysicalType]

def relation (r : RelationRow) : List String :=
  [toString r.oid, r.relname, toString r.relnamespace, toString r.reltype, toString r.relowner,
    r.relkind.text, r.relpersistence, toString r.relnatts, toString r.reltuples,
    cellBool r.relhasindex, cellBool r.relispartition, r.relpartbound, r.reloptions,
    r.status.text, r.errorMessage]

def column (r : ColumnRow) : List String :=
  [toString r.attrelid, r.attname, toString r.atttypid, toString r.attnum, toString r.atttypmod,
    cellBool r.attnotnull, cellBool r.atthasdef, cellBool r.attisdropped, r.attidentity,
    r.attgenerated, r.attoptions]

def columnDefault (r : ColumnDefaultRow) : List String :=
  [toString r.oid, toString r.adrelid, toString r.adnum, r.adbin]

def constraint (r : ConstraintRow) : List String :=
  [toString r.oid, r.conname, toString r.connamespace, r.contype.text, toString r.conrelid,
    toString r.conindid, r.conkey, toString r.confrelid, r.confkey, cellBool r.convalidated,
    r.conbin]

def index (r : IndexRow) : List String :=
  [toString r.indexrelid, toString r.indrelid, toString r.indnatts, toString r.indnkeyatts,
    cellBool r.indisunique, cellBool r.indisprimary, cellBool r.indisvalid, r.indkey, r.indexprs,
    r.indpred]

def vectorIndex (r : VectorIndexRow) : List String :=
  [toString r.indexrelid, r.vectorSpace, r.embeddingModel, r.modelVersion, toString r.dimension,
    r.metric.text, toString r.m, toString r.m0, toString r.efConstruction,
    toString r.defaultEfSearch, toString r.definitionVersion, toString r.generation,
    r.extensionVersion, r.buildStatus.text, toString r.vectorCount, r.errorMessage]

def dependency (r : DependencyRow) : List String :=
  [toString r.classid, toString r.objid, toString r.objsubid, toString r.refclassid,
    toString r.refobjid, toString r.refobjsubid, r.deptype]

def comment (r : CommentRow) : List String :=
  [toString r.objoid, toString r.classoid, toString r.objsubid, r.description]

def relationExt (r : RelationExtRow) : List String :=
  [toString r.relid, r.managedKind.text, r.storageMode, r.visibility.text, r.partitionKey,
    r.partitionKeyType, (r.partitionUnit.map PartitionUnit.text).getD "",
    toString r.retentionCount, r.generatedSql, r.propertiesJson]

def partition (r : PartitionRow) : List String :=
  [toString r.parentRelid, toString r.childRelid, r.partitionValue, r.partitionUnit.text,
    cellTime r.lowerBound, cellTime r.upperBound, cellBool r.isNullPartition, r.status.text,
    toString r.rowCount, cellTime r.minTs, cellTime r.maxTs, r.checksum, r.errorMessage]

def user (r : UserRow) : List String :=
  [toString r.userId, r.username, r.passwordHash, r.passwordAlgo, r.mysqlAuthPlugin,
    r.mysqlAuthString, r.status, cellBool r.isBuiltin]

def role (r : RoleRow) : List String :=
  [toString r.roleId, r.roleName, r.description, cellBool r.isBuiltin]

def userRole (r : UserRoleRow) : List String :=
  [toString r.userId, toString r.roleId, toString r.grantedBy]

def privilege (r : PrivilegeRow) : List String :=
  [toString r.privilegeId, r.principalType.text, toString r.principalId, r.objectType.text,
    toString r.objectId, r.action.text, toString r.grantedBy]

end Cells

/-! ### The stream -/

/-- One query of the checksum: a label, then the rows in the order of their keys. -/
def checksumQuery {ρ : Type} [Keyed ρ] (label : String) (key : ρ → List ℤ)
    (cells : ρ → List String) (t : Table ρ) : List String :=
  label :: (t.rows.mergeSort fun a b => decide (key a ≤ key b)).flatMap fun r => "row" :: cells r

def catalogChecksumQueries (c : Catalog) : List (List String) :=
  [checksumQuery "rs_catalog_version" (fun r => [r.id]) Cells.version c.rsCatalogVersion,
    checksumQuery "rs_oid_alloc" (fun r => [r.id]) Cells.oidAlloc c.rsOidAlloc,
    checksumQuery "rs_catalog_journal" (fun r => [r.journalId]) Cells.journal c.rsCatalogJournal,
    checksumQuery "rs_schema" (fun r => [r.oid]) Cells.schema c.rsSchema,
    checksumQuery "rs_type" (fun r => [r.oid]) Cells.type c.rsType,
    checksumQuery "rs_relation" (fun r => [r.oid]) Cells.relation c.rsRelation,
    checksumQuery "rs_column" (fun r => [r.attrelid, r.attnum]) Cells.column c.rsColumn,
    checksumQuery "rs_column_default" (fun r => [r.oid]) Cells.columnDefault c.rsColumnDefault,
    checksumQuery "rs_constraint" (fun r => [r.oid]) Cells.constraint c.rsConstraint,
    checksumQuery "rs_index" (fun r => [r.indexrelid]) Cells.index c.rsIndex,
    checksumQuery "rs_vector_index" (fun r => [r.indexrelid]) Cells.vectorIndex c.rsVectorIndex,
    checksumQuery "rs_dependency"
      (fun r => [r.classid, r.objid, r.objsubid, r.refclassid, r.refobjid, r.refobjsubid])
      Cells.dependency c.rsDependency,
    checksumQuery "rs_comment" (fun r => [r.objoid, r.classoid, r.objsubid]) Cells.comment
      c.rsComment,
    checksumQuery "rs_relation_ext" (fun r => [r.relid]) Cells.relationExt c.rsRelationExt,
    checksumQuery "rs_partition" (fun r => [r.parentRelid, r.childRelid]) Cells.partition
      c.rsPartition,
    checksumQuery "rs_user" (fun r => [r.userId]) Cells.user c.rsUser,
    checksumQuery "rs_role" (fun r => [r.roleId]) Cells.role c.rsRole,
    checksumQuery "rs_user_role" (fun r => [r.userId, r.roleId]) Cells.userRole c.rsUserRole,
    checksumQuery "rs_privilege" (fun r => [r.privilegeId]) Cells.privilege c.rsPrivilege]

def checksumParts (c : Catalog) : List String := (catalogChecksumQueries c).flatten

/-- Sixteen lower-case hexadecimal digits. -/
def hex16 (n : UInt64) : String :=
  let ds := Nat.toDigits 16 n.toNat
  String.ofList (List.replicate (16 - ds.length) '0' ++ ds)

def calculateCatalogChecksum (c : Catalog) : String :=
  "fnv1a64:" ++ hex16 ((checksumParts c).foldl hashChecksumPart fnv64Offset)

/-- `UPDATE rs_catalog_version SET catalog_checksum = x WHERE id = 1`. -/
def setCatalogChecksum (x : String) (c : Catalog) : Catalog :=
  { c with
    rsCatalogVersion := c.rsCatalogVersion.update (·.id == 1)
      (fun v => { v with catalogChecksum := x }) fun _ _ => rfl }

def refreshCatalogChecksum : Eff Catalog PUnit :=
  modify fun c => setCatalogChecksum (calculateCatalogChecksum c) c

lemma runs_refreshCatalogChecksum {c c' : Catalog} {u : PUnit} :
    Runs refreshCatalogChecksum c u c' ↔
      c' = setCatalogChecksum (calculateCatalogChecksum c) c := by
  unfold refreshCatalogChecksum
  exact runs_modify

/-- An update that touches no cell of the stream leaves it as it was. -/
lemma checksumQuery_update {ρ : Type} [Keyed ρ] {label : String} {key : ρ → List ℤ}
    {cells : ρ → List String} (t : Table ρ) (p : ρ → Bool) (f : ρ → ρ) (hf : Table.KeepsKey f)
    (hk : ∀ r, key (f r) = key r) (hc : ∀ r, cells (f r) = cells r) :
    checksumQuery label key cells (t.update p f hf) = checksumQuery label key cells t := by
  have hk' : ∀ r, key (if p r then f r else r) = key r := fun r => by split_ifs <;> simp [hk]
  have hc' : ∀ r, cells (if p r then f r else r) = cells r := fun r => by split_ifs <;> simp [hc]
  unfold checksumQuery
  rw [Table.rows_update, ← List.map_mergeSort (f := fun r => if p r then f r else r)
    (r := fun a b => decide (key a ≤ key b)) (fun a _ b _ => by simp [hk'])]
  simp [List.flatMap_map, hc']

/-- The stored checksum is no part of the checksummed content. -/
lemma calculate_setCatalogChecksum (c : Catalog) (x : String) :
    calculateCatalogChecksum (setCatalogChecksum x c) = calculateCatalogChecksum c := by
  have h : checksumQuery "rs_catalog_version" (fun r => [r.id]) Cells.version
      (setCatalogChecksum x c).rsCatalogVersion = checksumQuery "rs_catalog_version"
      (fun r => [r.id]) Cells.version c.rsCatalogVersion :=
    checksumQuery_update c.rsCatalogVersion (·.id == 1) (fun v => { v with catalogChecksum := x })
      (fun _ _ => rfl) (fun _ => rfl) fun _ => rfl
  unfold calculateCatalogChecksum checksumParts catalogChecksumQueries
  rw [h]
  rfl

lemma setCatalogChecksum_setCatalogChecksum (x y : String) (c : Catalog) :
    setCatalogChecksum y (setCatalogChecksum x c) = setCatalogChecksum y c := by
  have htable := Table.update_update (·.id == 1)
    (fun v : VersionRow => { v with catalogChecksum := x })
    (fun v : VersionRow => { v with catalogChecksum := y }) (fun _ _ => rfl) (fun _ _ => rfl)
    (fun _ => rfl) (fun _ => rfl) c.rsCatalogVersion
  exact congrArg (fun t => ({ c with rsCatalogVersion := t } : Catalog)) htable

end Rsduck.Catalog
