import Rsduck.Catalog.ChecksumHash
import Rsduck.Lib.FloatApart
import Rsduck.Lib.Wire

/-!
The stream of the catalog checksum has room for one content only.

The contents are those of the tables as they are created. Every part of the stream stands behind
its length, a table has as many cells in every row, and no two values of a column have one text.
-/

namespace Rsduck.Catalog.ChecksumStream

open Lib Lib.Wire Lib.DecimalText Lib.FloatFormat

/-! ### The tables -/

inductive ColumnType
  | bigint | int | varchar | boolean | double | timestamp
  deriving DecidableEq

structure ColumnDef where
  name : String
  type : ColumnType
  nullable : Bool
  deriving DecidableEq

/-- A table by its columns and its primary key, whose columns are never null. -/
structure TableDef where
  name : String
  columns : List ColumnDef
  primaryKey : List String
  deriving DecidableEq

def bigint (name : String) : ColumnDef := ⟨name, .bigint, false⟩
def int (name : String) : ColumnDef := ⟨name, .int, false⟩
def varchar (name : String) : ColumnDef := ⟨name, .varchar, false⟩
def boolean (name : String) : ColumnDef := ⟨name, .boolean, false⟩
def double (name : String) : ColumnDef := ⟨name, .double, false⟩
def timestamp (name : String) : ColumnDef := ⟨name, .timestamp, false⟩
def timestampNull (name : String) : ColumnDef := ⟨name, .timestamp, true⟩

def rsCatalogVersion : TableDef :=
  ⟨"rs_catalog_version", [bigint "id", bigint "schema_version", bigint "snapshot_format_version",
      bigint "catalog_epoch", varchar "catalog_checksum", varchar "status",
      timestamp "created_at", timestamp "updated_at"], ["id"]⟩

def rsOidAlloc : TableDef :=
  ⟨"rs_oid_alloc", [bigint "id", bigint "next_oid", timestamp "updated_at"], ["id"]⟩

def rsCatalogJournal : TableDef :=
  ⟨"rs_catalog_journal", [bigint "journal_id", bigint "catalog_epoch", varchar "mutation_type",
      bigint "target_oid", varchar "request_json", varchar "status", varchar "error_message",
      timestamp "created_at", timestampNull "applied_at"], ["journal_id"]⟩

def rsSchema : TableDef :=
  ⟨"rs_schema", [bigint "oid", varchar "nspname", bigint "nspowner", varchar "nspacl"], ["oid"]⟩

def rsType : TableDef :=
  ⟨"rs_type", [bigint "oid", varchar "typname", bigint "typnamespace", bigint "typowner",
      int "typlen", boolean "typbyval", varchar "typtype", varchar "typcategory",
      boolean "typisdefined", bigint "typrelid", bigint "typelem", bigint "typarray",
      varchar "rsduck_physical_type"], ["oid"]⟩

def rsRelation : TableDef :=
  ⟨"rs_relation", [bigint "oid", varchar "relname", bigint "relnamespace", bigint "reltype",
      bigint "relowner", varchar "relkind", varchar "relpersistence", int "relnatts",
      double "reltuples", boolean "relhasindex", boolean "relispartition", varchar "relpartbound",
      varchar "reloptions", varchar "status", varchar "error_message"], ["oid"]⟩

def rsColumn : TableDef :=
  ⟨"rs_column", [bigint "attrelid", varchar "attname", bigint "atttypid", int "attnum",
      int "atttypmod", boolean "attnotnull", boolean "atthasdef", boolean "attisdropped",
      varchar "attidentity", varchar "attgenerated", varchar "attoptions"],
    ["attrelid", "attnum"]⟩

def rsColumnDefault : TableDef :=
  ⟨"rs_column_default", [bigint "oid", bigint "adrelid", int "adnum", varchar "adbin"], ["oid"]⟩

def rsConstraint : TableDef :=
  ⟨"rs_constraint", [bigint "oid", varchar "conname", bigint "connamespace", varchar "contype",
      bigint "conrelid", bigint "conindid", varchar "conkey", bigint "confrelid",
      varchar "confkey", boolean "convalidated", varchar "conbin"], ["oid"]⟩

def rsIndex : TableDef :=
  ⟨"rs_index", [bigint "indexrelid", bigint "indrelid", int "indnatts", int "indnkeyatts",
      boolean "indisunique", boolean "indisprimary", boolean "indisvalid", varchar "indkey",
      varchar "indexprs", varchar "indpred"], ["indexrelid"]⟩

def rsVectorIndex : TableDef :=
  ⟨"rs_vector_index", [bigint "indexrelid", varchar "vector_space", varchar "embedding_model",
      varchar "model_version", int "dimension", varchar "metric", int "m", int "m0",
      int "ef_construction", int "default_ef_search", bigint "definition_version",
      bigint "generation", varchar "extension_version", varchar "build_status",
      bigint "vector_count", timestampNull "built_at", timestamp "updated_at",
      varchar "error_message"], ["indexrelid"]⟩

def rsDependency : TableDef :=
  ⟨"rs_dependency", [bigint "classid", bigint "objid", int "objsubid", bigint "refclassid",
      bigint "refobjid", int "refobjsubid", varchar "deptype"],
    ["classid", "objid", "objsubid", "refclassid", "refobjid", "refobjsubid"]⟩

def rsComment : TableDef :=
  ⟨"rs_comment", [bigint "objoid", bigint "classoid", int "objsubid", varchar "description"],
    ["objoid", "classoid", "objsubid"]⟩

def rsRelationExt : TableDef :=
  ⟨"rs_relation_ext", [bigint "relid", varchar "managed_kind", varchar "storage_mode",
      varchar "visibility", varchar "partition_key", varchar "partition_key_type",
      varchar "partition_unit", int "retention_count", varchar "generated_sql",
      varchar "properties_json", timestamp "created_at", timestamp "updated_at"], ["relid"]⟩

def rsPartition : TableDef :=
  ⟨"rs_partition", [bigint "parent_relid", bigint "child_relid", varchar "partition_value",
      varchar "partition_unit", timestampNull "lower_bound", timestampNull "upper_bound",
      boolean "is_null_partition", varchar "status", bigint "row_count", timestampNull "min_ts",
      timestampNull "max_ts", varchar "checksum", timestamp "created_at",
      timestampNull "activated_at", timestampNull "dropped_at", varchar "error_message"],
    ["parent_relid", "child_relid"]⟩

def rsUser : TableDef :=
  ⟨"rs_user", [bigint "user_id", varchar "username", varchar "password_hash",
      varchar "password_algo", varchar "mysql_auth_plugin", varchar "mysql_auth_string",
      varchar "status", boolean "is_builtin", timestamp "created_at", timestamp "updated_at",
      timestampNull "last_login_at"], ["user_id"]⟩

def rsRole : TableDef :=
  ⟨"rs_role", [bigint "role_id", varchar "role_name", varchar "description", boolean "is_builtin",
      timestamp "created_at", timestamp "updated_at"], ["role_id"]⟩

def rsUserRole : TableDef :=
  ⟨"rs_user_role", [bigint "user_id", bigint "role_id", bigint "granted_by",
      timestamp "created_at"], ["user_id", "role_id"]⟩

def rsPrivilege : TableDef :=
  ⟨"rs_privilege", [bigint "privilege_id", varchar "principal_type", bigint "principal_id",
      varchar "object_type", bigint "object_id", varchar "action", bigint "granted_by",
      timestamp "created_at"], ["privilege_id"]⟩

/-- What `create_catalog_storage` creates. -/
def catalogStorage : List TableDef :=
  [rsCatalogVersion, rsOidAlloc, rsCatalogJournal, rsSchema, rsType, rsRelation, rsColumn,
    rsColumnDefault, rsConstraint, rsIndex, rsVectorIndex, rsDependency, rsComment, rsRelationExt,
    rsPartition, rsUser, rsRole, rsUserRole, rsPrivilege]

/-! ### Values -/

/-- The bits of a number; those of what is no number are one value. -/
structure Double where
  bits : F64
  nan : f64.isNaN bits = true → bits = 0x7ff8000000000000#64

/-- Timestamps are microseconds. -/
inductive Value
  | null
  | bigint (v : Int64)
  | int (v : Int32)
  | varchar (v : String)
  | boolean (v : Bool)
  | double (v : Double)
  | timestamp (v : Int64)

def Value.type : Value → Option ColumnType
  | .null => none
  | .bigint _ => some .bigint
  | .int _ => some .int
  | .varchar _ => some .varchar
  | .boolean _ => some .boolean
  | .double _ => some .double
  | .timestamp _ => some .timestamp

/-- The values a column may have. -/
def ColumnDef.Holds (c : ColumnDef) (v : Value) : Prop :=
  v.type = some c.type ∨ c.nullable = true ∧ v = .null

/-- A row by the names of its columns. -/
abbrev Row := String → Value

def project (names : List String) (r : Row) : List Value := names.map r

/-- What a table may hold. -/
structure TableRows (t : TableDef) where
  rows : List Row
  holds : ∀ r ∈ rows, ∀ c ∈ t.columns, c.Holds (r c.name)
  keyed : (rows.map (project t.primaryKey)).Nodup

/-- The contents of all tables. -/
abbrev Contents := ∀ t : TableDef, TableRows t

/-! ### The stream -/

structure ChecksumQuery where
  label : String
  table : TableDef
  columns : List String
  orderBy : List String
  deriving DecidableEq

def catalogChecksumQueries : List ChecksumQuery :=
  [⟨"rs_catalog_version", rsCatalogVersion, ["id", "schema_version", "snapshot_format_version",
        "catalog_epoch", "status"], ["id"]⟩,
    ⟨"rs_oid_alloc", rsOidAlloc, ["id", "next_oid"], ["id"]⟩,
    ⟨"rs_catalog_journal", rsCatalogJournal, ["journal_id", "catalog_epoch", "mutation_type",
        "target_oid", "request_json", "status", "error_message"], ["journal_id"]⟩,
    ⟨"rs_schema", rsSchema, ["oid", "nspname", "nspowner", "nspacl"], ["oid"]⟩,
    ⟨"rs_type", rsType, ["oid", "typname", "typnamespace", "typowner", "typlen", "typbyval",
        "typtype", "typcategory", "typisdefined", "typrelid", "typelem", "typarray",
        "rsduck_physical_type"], ["oid"]⟩,
    ⟨"rs_relation", rsRelation, ["oid", "relname", "relnamespace", "reltype", "relowner",
        "relkind", "relpersistence", "relnatts", "reltuples", "relhasindex", "relispartition",
        "relpartbound", "reloptions", "status", "error_message"], ["oid"]⟩,
    ⟨"rs_column", rsColumn, ["attrelid", "attname", "atttypid", "attnum", "atttypmod",
        "attnotnull", "atthasdef", "attisdropped", "attidentity", "attgenerated", "attoptions"],
      ["attrelid", "attnum"]⟩,
    ⟨"rs_column_default", rsColumnDefault, ["oid", "adrelid", "adnum", "adbin"], ["oid"]⟩,
    ⟨"rs_constraint", rsConstraint, ["oid", "conname", "connamespace", "contype", "conrelid",
        "conindid", "conkey", "confrelid", "confkey", "convalidated", "conbin"], ["oid"]⟩,
    ⟨"rs_index", rsIndex, ["indexrelid", "indrelid", "indnatts", "indnkeyatts", "indisunique",
        "indisprimary", "indisvalid", "indkey", "indexprs", "indpred"], ["indexrelid"]⟩,
    ⟨"rs_vector_index", rsVectorIndex, ["indexrelid", "vector_space", "embedding_model",
        "model_version", "dimension", "metric", "m", "m0", "ef_construction", "default_ef_search",
        "definition_version", "generation", "extension_version", "build_status", "vector_count",
        "error_message"], ["indexrelid"]⟩,
    ⟨"rs_dependency", rsDependency, ["classid", "objid", "objsubid", "refclassid", "refobjid",
        "refobjsubid", "deptype"],
      ["classid", "objid", "objsubid", "refclassid", "refobjid", "refobjsubid"]⟩,
    ⟨"rs_comment", rsComment, ["objoid", "classoid", "objsubid", "description"],
      ["objoid", "classoid", "objsubid"]⟩,
    ⟨"rs_relation_ext", rsRelationExt, ["relid", "managed_kind", "storage_mode", "visibility",
        "partition_key", "partition_key_type", "partition_unit", "retention_count",
        "generated_sql", "properties_json"], ["relid"]⟩,
    ⟨"rs_partition", rsPartition, ["parent_relid", "child_relid", "partition_value",
        "partition_unit", "lower_bound", "upper_bound", "is_null_partition", "status",
        "row_count", "min_ts", "max_ts", "checksum", "error_message"],
      ["parent_relid", "child_relid"]⟩,
    ⟨"rs_user", rsUser, ["user_id", "username", "password_hash", "password_algo",
        "mysql_auth_plugin", "mysql_auth_string", "status", "is_builtin"], ["user_id"]⟩,
    ⟨"rs_role", rsRole, ["role_id", "role_name", "description", "is_builtin"], ["role_id"]⟩,
    ⟨"rs_user_role", rsUserRole, ["user_id", "role_id", "granted_by"], ["user_id", "role_id"]⟩,
    ⟨"rs_privilege", rsPrivilege, ["privilege_id", "principal_type", "principal_id",
        "object_type", "object_id", "action", "granted_by"], ["privilege_id"]⟩]

def checksumValueToString : Value → String
  | .null => "<null>"
  | .boolean v => cellBool v
  | .int v => toString v.toInt
  | .bigint v => toString v.toInt
  | .double v => String.ofList (f64.display v.bits)
  | .timestamp v => toString v.toInt ++ " Microsecond"
  | .varchar v => v

/-- The number that a key is ordered by. -/
def Value.number : Value → ℤ
  | .int v => v.toInt
  | .bigint v => v.toInt
  | _ => 0

/-- An order in which the database may answer a query. -/
structure Answers (q : ChecksumQuery) (rows answer : List Row) : Prop where
  perm : answer.Perm rows
  ordered : answer.Pairwise fun a b =>
    (project q.orderBy a).map Value.number ≤ (project q.orderBy b).map Value.number

/-! ### Parts of the stream -/

lemma toUTF8_toList (s : String) : s.toUTF8.data.toList = utf8 s.toList := by
  have h : s.toUTF8 = s.toList.utf8Encode := by
    rw [String.toUTF8, ← String.toByteArray_ofList, String.ofList_toList]
  rw [h]
  simp [List.utf8Encode, utf8]

lemma toDigits_injective {m n : ℕ} (h : Nat.toDigits 10 m = Nat.toDigits 10 n) : m = n := by
  rw [← Nat.ofDigitChars_ten_toDigits (n := m), h, Nat.ofDigitChars_ten_toDigits]

lemma toList_toString (n : ℕ) : (toString n).toList = Nat.toDigits 10 n := String.toList_ofList

lemma checksumPartBytes_eq (v : String) : checksumPartBytes v =
    utf8 (Nat.toDigits 10 (utf8 v.toList).length) ++ 58 :: (utf8 v.toList ++ [59]) := by
  have hsize : v.utf8ByteSize = (utf8 v.toList).length := by
    rw [← toUTF8_toList]
    rfl
  unfold checksumPartBytes
  rw [toUTF8_toList, String.toList_append, String.toList_append, String.toList_append,
    toList_toString, hsize]
  have hcolon : String.utf8EncodeChar ':' = [58] := by decide
  have hend : String.utf8EncodeChar ';' = [59] := by decide
  simp [utf8, hcolon, hend]

/-- The colon after the length is the first one. -/
lemma colon_notMem_digits (n : ℕ) : 58 ∉ utf8 (Nat.toDigits 10 n) := by
  intro hmem
  obtain ⟨c, hc, hcolon⟩ := List.mem_flatMap.1 hmem
  have hdigit := toNat_of_isDigit (allDigits_toDigits n c hc)
  rw [utf8EncodeChar_of_ascii (by omega), List.mem_singleton] at hcolon
  have hnat := congrArg UInt8.toNat hcolon
  rw [UInt8.toNat_ofNat', Nat.mod_eq_of_lt (by omega)] at hnat
  change 58 = c.toNat at hnat
  omega

lemma utf8_injective {s t : List Char} (h : utf8 s = utf8 t) : s = t := by
  have hread := congrArg ofUtf8 h
  rw [ofUtf8_utf8, ofUtf8_utf8] at hread
  exact Option.some.inj hread

lemma append_cons_inj {α : Type} {x : α} {u u' v v' : List α} (hu : x ∉ u) (hu' : x ∉ u')
    (h : u ++ x :: v = u' ++ x :: v') : u = u' ∧ v = v' := by
  induction u generalizing u' with
  | nil =>
    rcases u' with _ | ⟨y, u'⟩
    · exact ⟨rfl, (List.cons.inj h).2⟩
    · exact absurd (List.mem_cons.2 (.inl (List.cons.inj h).1)) hu'
  | cons y u ih =>
    rcases u' with _ | ⟨y', u'⟩
    · exact absurd (List.mem_cons.2 (.inl (List.cons.inj h).1.symm)) hu
    · obtain ⟨rfl, htail⟩ := List.cons.inj h
      obtain ⟨rfl, hrest⟩ := ih (fun h => hu (List.mem_cons_of_mem y h))
        (fun h => hu' (List.mem_cons_of_mem y h)) htail
      exact ⟨rfl, hrest⟩

/-- **A part is read off the front of the stream in one way.** -/
lemma checksumPartBytes_append_inj {v v' : String} {rest rest' : List UInt8}
    (h : checksumPartBytes v ++ rest = checksumPartBytes v' ++ rest') : v = v' ∧ rest = rest' := by
  rw [checksumPartBytes_eq, checksumPartBytes_eq, List.append_assoc, List.append_assoc,
    List.cons_append, List.cons_append] at h
  obtain ⟨hlen, hbody⟩ := append_cons_inj (colon_notMem_digits _) (colon_notMem_digits _) h
  rw [List.append_assoc, List.append_assoc] at hbody
  have hlen' := toDigits_injective (utf8_injective hlen)
  obtain ⟨htext, hrest⟩ := List.append_inj hbody hlen'
  exact ⟨String.toList_inj.1 (utf8_injective htext), (List.cons.inj hrest).2⟩

lemma partsBytes_injective {ps ps' : List String}
    (h : ps.flatMap checksumPartBytes = ps'.flatMap checksumPartBytes) : ps = ps' := by
  have hne (v : String) (rest : List UInt8) : checksumPartBytes v ++ rest ≠ [] := by
    rw [checksumPartBytes_eq]
    simp
  induction ps generalizing ps' with
  | nil =>
    rcases ps' with _ | ⟨v', ps'⟩
    · rfl
    · exact absurd h.symm (hne v' _)
  | cons v ps ih =>
    rcases ps' with _ | ⟨v', ps'⟩
    · exact absurd h (hne v _)
    · obtain ⟨rfl, hrest⟩ := checksumPartBytes_append_inj h
      rw [ih hrest]

/-- The parts of a table: the label, then the rows with a mark before each. -/
def tableParts (label : String) (rows : List (List String)) : List String :=
  label :: rows.flatMap ("row" :: ·)

/-- **The rows are read off the parts in one way**: all have one length, and what follows the table
is no row. -/
lemma rowsParts_append_inj {n : ℕ} {xs ys : List (List String)} {rest rest' : List String}
    (hx : ∀ r ∈ xs, r.length = n) (hy : ∀ r ∈ ys, r.length = n)
    (hrest : rest.head? ≠ some "row") (hrest' : rest'.head? ≠ some "row")
    (h : xs.flatMap ("row" :: ·) ++ rest = ys.flatMap ("row" :: ·) ++ rest') :
    xs = ys ∧ rest = rest' := by
  induction xs generalizing ys with
  | nil =>
    rcases ys with _ | ⟨y, ys⟩
    · exact ⟨rfl, h⟩
    · exact absurd (congrArg List.head? h) hrest
  | cons x xs ih =>
    rcases ys with _ | ⟨y, ys⟩
    · exact absurd (congrArg List.head? h).symm hrest'
    · rw [List.flatMap_cons, List.flatMap_cons, List.cons_append, List.cons_append, List.cons_append,
        List.cons_append, List.append_assoc, List.append_assoc] at h
      have hlen : x.length = y.length := by
        rw [hx x List.mem_cons_self, hy y List.mem_cons_self]
      obtain ⟨rfl, htail⟩ := List.append_inj (List.cons.inj h).2 hlen
      obtain ⟨rfl, hend⟩ := ih (fun r hr => hx r (List.mem_cons_of_mem x hr))
        (fun r hr => hy r (List.mem_cons_of_mem x hr)) htail
      exact ⟨rfl, hend⟩

/-- The texts of the rows of an answer. -/
def ChecksumQuery.cells (q : ChecksumQuery) (answer : List Row) : List (List String) :=
  answer.map fun r => (project q.columns r).map checksumValueToString

/-- A stream of bytes that the hash may be fed with, in these contents. -/
def Streams (c : Contents) (stream : List UInt8) : Prop :=
  ∃ answer : ChecksumQuery → List Row,
    (∀ q ∈ catalogChecksumQueries, Answers q (c q.table).rows (answer q)) ∧
      stream = (catalogChecksumQueries.flatMap fun q =>
        tableParts q.label (q.cells (answer q))).flatMap checksumPartBytes

/-! ### Texts of values -/

lemma toString_int_injective {m n : ℤ} (h : toString m = toString n) : m = n := by
  have hne (k l : ℕ) : toString k ≠ "-" ++ toString l := by
    intro heq
    have hlist := congrArg String.toList heq
    rw [toList_toString, String.toList_append] at hlist
    have hmem : '-' ∈ Nat.toDigits 10 k := by
      rw [hlist]
      exact List.mem_append_left _ (by decide)
    exact absurd (allDigits_toDigits k '-' hmem) (by decide)
  rcases m with m | m <;> rcases n with n | n
  · have hlist := congrArg String.toList (show toString m = toString n from h)
    rw [toList_toString, toList_toString] at hlist
    rw [toDigits_injective hlist]
  · exact absurd h (hne m (n + 1))
  · exact absurd h.symm (hne n (m + 1))
  · have hrest : toString (m + 1) = toString (n + 1) := (String.append_right_inj "-").1 h
    have hlist := congrArg String.toList hrest
    rw [toList_toString, toList_toString] at hlist
    have hsucc := toDigits_injective hlist
    rw [Nat.succ.inj hsucc]

lemma int64_of_toString {v w : Int64} (h : toString v.toInt = toString w.toInt) : v = w :=
  Int64.toInt_inj.1 (toString_int_injective h)

lemma double_of_display {v w : Double} (h : f64.display v.bits = f64.display w.bits) : v = w := by
  have hbits : v.bits = w.bits := by
    rcases display_inj ⟨by decide, by decide⟩ (by decide) h with hbits | ⟨hv, hw⟩
    · exact hbits
    · rw [v.nan hv, w.nan hw]
  rcases v with ⟨v, _⟩
  rcases w with ⟨w, _⟩
  cases hbits
  rfl

/-- No two values of a type have one text. -/
lemma eq_of_type {v w : Value} (htype : v.type = w.type)
    (h : checksumValueToString v = checksumValueToString w) : v = w := by
  cases v <;> cases w <;> cases htype
  case null.null => rfl
  case bigint.bigint v w => rw [int64_of_toString h]
  case int.int v w => rw [Int32.toInt_inj.1 (toString_int_injective h)]
  case varchar.varchar v w => exact congrArg Value.varchar h
  case boolean.boolean v w =>
    cases v <;> cases w <;> first | rfl | exact absurd h (by decide)
  case double.double v w => rw [double_of_display (String.ofList_injective h)]
  case timestamp.timestamp v w => rw [int64_of_toString ((String.append_left_inj _).1 h)]

lemma null_ne_timestamp (v : Int64) :
    checksumValueToString .null ≠ checksumValueToString (.timestamp v) := by
  intro h
  have hlast := congrArg (fun s : String => s.toList.getLast?) h
  simp [checksumValueToString] at hlast

/-- **A column's values have texts of their own**, where only a timestamp can be null. -/
lemma eq_of_holds {c : ColumnDef} {v w : Value} (hnull : c.nullable = true → c.type = .timestamp)
    (hv : c.Holds v) (hw : c.Holds w)
    (h : checksumValueToString v = checksumValueToString w) : v = w := by
  have hapart {x : Value} (hn : c.nullable = true) (hx : x.type = some c.type) :
      checksumValueToString .null ≠ checksumValueToString x := by
    rw [hnull hn] at hx
    cases x <;> cases hx
    exact null_ne_timestamp _
  rcases hv with hv | ⟨hn, rfl⟩ <;> rcases hw with hw | ⟨hn', rfl⟩
  · exact eq_of_type (hv.trans hw.symm) h
  · exact absurd h.symm (hapart hn' hv)
  · exact absurd h (hapart hn hw)
  · rfl

/-! ### The queries -/

/-- A query reads columns of its table, and is ordered by the primary key, which is of numbers. -/
structure ChecksumQuery.Sound (q : ChecksumQuery) : Prop where
  label : q.label ≠ "row"
  columns : ∀ n ∈ q.columns, ∃ c ∈ q.table.columns, c.name = n ∧
    (c.nullable = true → c.type = .timestamp)
  orderBy : q.orderBy = q.table.primaryKey
  read : q.orderBy ⊆ q.columns
  keys : ∀ n ∈ q.orderBy, ∃ c ∈ q.table.columns, c.name = n ∧ c.nullable = false ∧
    (c.type = .bigint ∨ c.type = .int)

lemma sound_catalogChecksumQueries : ∀ q ∈ catalogChecksumQueries, q.Sound := by
  have hall : ∀ q ∈ catalogChecksumQueries, q.label ≠ "row" ∧
      (∀ n ∈ q.columns, ∃ c ∈ q.table.columns, c.name = n ∧
        (c.nullable = true → c.type = .timestamp)) ∧
      q.orderBy = q.table.primaryKey ∧ (∀ n ∈ q.orderBy, n ∈ q.columns) ∧
      ∀ n ∈ q.orderBy, ∃ c ∈ q.table.columns, c.name = n ∧ c.nullable = false ∧
        (c.type = .bigint ∨ c.type = .int) := by
    decide +kernel
  intro q hq
  obtain ⟨hlabel, hcolumns, horder, hread, hkeys⟩ := hall q hq
  exact ⟨hlabel, hcolumns, horder, fun n hn => hread n hn, hkeys⟩

/-- The tables of the stream are taken apart at the labels. -/
lemma cells_eq_of_parts {qs : List ChecksumQuery} {f g : ChecksumQuery → List (List String)}
    (hlabel : ∀ q ∈ qs, q.label ≠ "row")
    (hf : ∀ q ∈ qs, ∀ r ∈ f q, r.length = q.columns.length)
    (hg : ∀ q ∈ qs, ∀ r ∈ g q, r.length = q.columns.length)
    (h : (qs.flatMap fun q => tableParts q.label (f q)) =
      qs.flatMap fun q => tableParts q.label (g q)) : ∀ q ∈ qs, f q = g q := by
  induction qs with
  | nil => exact fun q hq => absurd hq List.not_mem_nil
  | cons q qs ih =>
    have htail : ∀ p ∈ qs, p.label ≠ "row" := fun p hp => hlabel p (List.mem_cons_of_mem q hp)
    have hhead (k : ChecksumQuery → List (List String)) :
        (qs.flatMap fun q => tableParts q.label (k q)).head? ≠ some "row" := by
      rcases qs with _ | ⟨p, qs⟩
      · simp
      · intro hrow
        exact htail p List.mem_cons_self (Option.some.inj hrow)
    rw [List.flatMap_cons, List.flatMap_cons, tableParts, tableParts, List.cons_append,
      List.cons_append] at h
    obtain ⟨hfirst, hrest⟩ := rowsParts_append_inj (hf q List.mem_cons_self)
      (hg q List.mem_cons_self) (hhead f) (hhead g) (List.cons.inj h).2
    rw [List.forall_mem_cons]
    exact ⟨hfirst, ih htail (fun p hp => hf p (List.mem_cons_of_mem q hp))
      (fun p hp => hg p (List.mem_cons_of_mem q hp)) hrest⟩

section Query

variable {q : ChecksumQuery}

/-- The rows stand in one table. -/
def HoldsAll (q : ChecksumQuery) (rows : List Row) : Prop :=
  ∀ r ∈ rows, ∀ c ∈ q.table.columns, c.Holds (r c.name)

lemma project_eq_of_texts (hq : q.Sound) {r r' : Row}
    (hr : ∀ c ∈ q.table.columns, c.Holds (r c.name))
    (hr' : ∀ c ∈ q.table.columns, c.Holds (r' c.name))
    (h : (project q.columns r).map checksumValueToString =
      (project q.columns r').map checksumValueToString) :
    project q.columns r = project q.columns r' := by
  rw [project, project, List.map_map, List.map_map, List.map_inj_left] at h
  refine List.map_congr_left fun n hn => ?_
  obtain ⟨c, hc, rfl, hnull⟩ := hq.columns n hn
  exact eq_of_holds hnull (hr c hc) (hr' c hc) (h c.name hn)

lemma projects_eq_of_cells (hq : q.Sound) {rows rows' : List Row} (hr : HoldsAll q rows)
    (hr' : HoldsAll q rows') (h : q.cells rows = q.cells rows') :
    rows.map (project q.columns) = rows'.map (project q.columns) := by
  unfold ChecksumQuery.cells at h
  induction rows generalizing rows' with
  | nil =>
    rcases rows' with _ | ⟨r', rows'⟩
    · rfl
    · cases h
  | cons r rows ih =>
    rcases rows' with _ | ⟨r', rows'⟩
    · cases h
    · obtain ⟨hhead, htail⟩ := List.cons.inj h
      rw [List.map_cons, List.map_cons,
        project_eq_of_texts hq (hr r List.mem_cons_self) (hr' r' List.mem_cons_self) hhead,
        ih (fun x hx => hr x (List.mem_cons_of_mem r hx))
          (fun x hx => hr' x (List.mem_cons_of_mem r' hx)) htail]

/-- Numbers tell keys apart. -/
lemma orderBy_eq_of_numbers (hq : q.Sound) {r r' : Row}
    (hr : ∀ c ∈ q.table.columns, c.Holds (r c.name))
    (hr' : ∀ c ∈ q.table.columns, c.Holds (r' c.name))
    (h : (project q.orderBy r).map Value.number = (project q.orderBy r').map Value.number) :
    project q.orderBy r = project q.orderBy r' := by
  rw [project, project, List.map_map, List.map_map, List.map_inj_left] at h
  refine List.map_congr_left fun n hn => ?_
  obtain ⟨c, hc, rfl, hnull, htype⟩ := hq.keys n hn
  have hnum : (r c.name).number = (r' c.name).number := h c.name hn
  have hv : (r c.name).type = some c.type := (hr c hc).resolve_right fun h => by simp [hnull] at h
  have hv' : (r' c.name).type = some c.type := (hr' c hc).resolve_right fun h => by simp [hnull] at h
  generalize r c.name = v at hv hnum ⊢
  generalize r' c.name = w at hv' hnum ⊢
  rcases htype with htype | htype <;> rw [htype] at hv hv' <;> cases v <;> cases hv <;> cases w <;>
    cases hv'
  · rw [Int64.toInt_inj.1 hnum]
  · rw [Int32.toInt_inj.1 hnum]

/-- The key of a row, from the columns that were read. -/
def readKey (q : ChecksumQuery) (values : List Value) : List ℤ :=
  q.orderBy.map fun n => (values.getD (q.columns.idxOf n) .null).number

lemma readKey_project (hq : q.Sound) (r : Row) :
    readKey q (project q.columns r) = (project q.orderBy r).map Value.number := by
  rw [readKey, project, project, List.map_map]
  refine List.map_congr_left fun n hn => ?_
  have hlt : q.columns.idxOf n < q.columns.length := List.idxOf_lt_length_iff.2 (hq.read hn)
  simp [List.getD_eq_getElem?_getD, hlt]

/-- **The order is total**: the same rows have one answer. -/
lemma answers_unique (hq : q.Sound) {t t' : TableRows q.table} {answer answer' : List Row}
    (h : Answers q t.rows answer) (h' : Answers q t'.rows answer')
    (hperm : (t.rows.map (project q.columns)).Perm (t'.rows.map (project q.columns))) :
    answer.map (project q.columns) = answer'.map (project q.columns) := by
  have hsorted {rows a : List Row} (ha : Answers q rows a) :
      (a.map (project q.columns)).Pairwise fun x y => readKey q x ≤ readKey q y := by
    rw [List.pairwise_map]
    refine ha.ordered.imp fun {x y} hxy => ?_
    rw [readKey_project hq, readKey_project hq]
    exact hxy
  refine List.Perm.eq_of_pairwise ?_ (hsorted h) (hsorted h')
    (((h.perm.map _).trans hperm).trans (h'.perm.map _).symm)
  intro x y hx hy hxy hyx
  obtain ⟨r, hr, rfl⟩ := List.mem_map.1 hx
  have hmem : y ∈ t.rows.map (project q.columns) := by
    rw [hperm.mem_iff, ← (h'.perm.map _).mem_iff]
    exact hy
  obtain ⟨r', hr', rfl⟩ := List.mem_map.1 hmem
  have hr₁ := h.perm.mem_iff.1 hr
  have hkey := le_antisymm hxy hyx
  rw [readKey_project hq, readKey_project hq] at hkey
  have hpk := orderBy_eq_of_numbers hq (t.holds r hr₁) (t.holds r' hr') hkey
  rw [hq.orderBy] at hpk
  rw [List.inj_on_of_nodup_map t.keyed hr₁ hr' hpk]

lemma exists_answers (q : ChecksumQuery) (rows : List Row) : ∃ answer, Answers q rows answer := by
  refine ⟨rows.mergeSort fun a b => decide
    ((project q.orderBy a).map Value.number ≤ (project q.orderBy b).map Value.number),
    List.mergeSort_perm _ _, ?_⟩
  refine (List.pairwise_mergeSort ?_ ?_ rows).imp fun h => of_decide_eq_true h
  · intro a b c hab hbc
    exact decide_eq_true (le_trans (of_decide_eq_true hab) (of_decide_eq_true hbc))
  · intro a b
    rw [Bool.or_eq_true, decide_eq_true_eq, decide_eq_true_eq]
    exact le_total _ _

end Query

/-! ### Contents and streams -/

/-- The same rows, in the columns that go into the checksum. -/
def SameContents (c c' : Contents) : Prop :=
  ∀ q ∈ catalogChecksumQueries, ((c q.table).rows.map (project q.columns)).Perm
    ((c' q.table).rows.map (project q.columns))

variable {c c' : Contents} {stream stream' : List UInt8}

lemma length_cells (q : ChecksumQuery) (answer : List Row) :
    ∀ r ∈ q.cells answer, r.length = q.columns.length := by
  intro r hr
  obtain ⟨x, -, rfl⟩ := List.mem_map.1 hr
  rw [List.length_map, project, List.length_map]

lemma sameContents_of_streams (h : Streams c stream) (h' : Streams c' stream) :
    SameContents c c' := by
  obtain ⟨answer, hanswer, hstream⟩ := h
  obtain ⟨answer', hanswer', hstream'⟩ := h'
  have hparts := partsBytes_injective (hstream.symm.trans hstream')
  have hcells := cells_eq_of_parts (fun q hq => (sound_catalogChecksumQueries q hq).label)
    (fun q _ => length_cells q (answer q)) (fun q _ => length_cells q (answer' q)) hparts
  intro q hq
  have hperm := (hanswer q hq).perm
  have hperm' := (hanswer' q hq).perm
  have hproject := projects_eq_of_cells (sound_catalogChecksumQueries q hq)
    (fun r hr => (c q.table).holds r (hperm.mem_iff.1 hr))
    (fun r hr => (c' q.table).holds r (hperm'.mem_iff.1 hr)) (hcells q hq)
  have hsame := (hperm.map (project q.columns)).symm
  rw [hproject] at hsame
  exact hsame.trans (hperm'.map (project q.columns))

lemma streams_unique (hsame : SameContents c c') (h : Streams c stream) (h' : Streams c' stream') :
    stream = stream' := by
  obtain ⟨answer, hanswer, rfl⟩ := h
  obtain ⟨answer', hanswer', rfl⟩ := h'
  congr 1
  refine List.flatMap_congr fun q hq => ?_
  have hproject := answers_unique (sound_catalogChecksumQueries q hq) (hanswer q hq) (hanswer' q hq)
    (hsame q hq)
  have hcells (a : List Row) : q.cells a =
      (a.map (project q.columns)).map fun values => values.map checksumValueToString := by
    rw [ChecksumQuery.cells, List.map_map]
    rfl
  rw [hcells, hcells, hproject]

lemma exists_streams (c : Contents) : ∃ stream, Streams c stream :=
  ⟨_, fun q => (exists_answers q (c q.table).rows).choose,
    fun q _ => (exists_answers q (c q.table).rows).choose_spec, rfl⟩

/-- **The checksum stream determines the catalog**: contents have a stream, the same contents have
one, and two contents with one stream have the same rows in every table. -/
theorem checksumStream_determines :
    (∀ c c' stream, Streams c stream → Streams c' stream → SameContents c c') ∧
      (∀ c c' stream stream', SameContents c c' → Streams c stream → Streams c' stream' →
        stream = stream') ∧
      (∀ c, ∃ stream, Streams c stream) ∧
      catalogChecksumQueries.map ChecksumQuery.table = catalogStorage :=
  ⟨fun _ _ _ => sameContents_of_streams, fun _ _ _ _ => streams_unique, exists_streams,
    by decide +kernel⟩

/-! ### Grants of a role -/

/-- The row of a user who was granted a role, by whom and when. -/
def grantedRole (userId grantedBy createdAt : Int64) : Row := fun n =>
  if n = "user_id" then .bigint userId
  else if n = "granted_by" then .bigint grantedBy
  else if n = "created_at" then .timestamp createdAt
  else .bigint 1

lemma holds_grantedRole (userId grantedBy createdAt : Int64) :
    ∀ c ∈ rsUserRole.columns, c.Holds (grantedRole userId grantedBy createdAt c.name) := by
  intro c hc
  simp only [rsUserRole, List.mem_cons, List.not_mem_nil, or_false] at hc
  rcases hc with rfl | rfl | rfl | rfl
  · exact .inl rfl
  · exact .inl rfl
  · exact .inl rfl
  · exact .inl rfl

/-- The rows of a user, who granted the role, and when. -/
def grantedRoles (grants : List (Int64 × Int64 × Int64)) : List Row :=
  grants.map fun g => grantedRole g.1 g.2.1 g.2.2

lemma holds_grantedRoles (grants : List (Int64 × Int64 × Int64)) :
    ∀ r ∈ grantedRoles grants, ∀ c ∈ rsUserRole.columns, c.Holds (r c.name) := by
  intro r hr
  obtain ⟨g, -, rfl⟩ := List.mem_map.1 hr
  exact holds_grantedRole _ _ _

lemma keyed_grantedRoles {grants : List (Int64 × Int64 × Int64)}
    (h : (grants.map Prod.fst).Nodup) :
    ((grantedRoles grants).map (project rsUserRole.primaryKey)).Nodup := by
  have hkeys : (grantedRoles grants).map (project rsUserRole.primaryKey) =
      (grants.map Prod.fst).map fun u => [Value.bigint u, Value.bigint 1] := by
    rw [grantedRoles, List.map_map, List.map_map]
    rfl
  rw [hkeys]
  refine h.map fun u v huv => ?_
  simpa using huv

/-- Contents with these rows in `rs_user_role` and none elsewhere. -/
def grantsOf (grants : List (Int64 × Int64 × Int64)) (h : (grants.map Prod.fst).Nodup) : Contents :=
  fun t =>
    if ht : t = rsUserRole then
      { rows := grantedRoles grants
        holds := ht ▸ holds_grantedRoles grants
        keyed := ht ▸ keyed_grantedRoles h }
    else ⟨[], fun _ hr => absurd hr List.not_mem_nil, List.nodup_nil⟩

lemma rows_grantsOf {grants : List (Int64 × Int64 × Int64)} (h : (grants.map Prod.fst).Nodup)
    (t : TableDef) : (grantsOf grants h t).rows = if t = rsUserRole then grantedRoles grants else [] := by
  unfold grantsOf
  split_ifs
  · rfl
  · rfl

/-- The same grants but for their order and times are the same contents, another grantor is not. -/
lemma sameContents_grantsOf {grants grants' : List (Int64 × Int64 × Int64)}
    (h : (grants.map Prod.fst).Nodup) (h' : (grants'.map Prod.fst).Nodup) :
    SameContents (grantsOf grants h) (grantsOf grants' h') ↔
      (grants.map fun g => (g.1, g.2.1)).Perm (grants'.map fun g => (g.1, g.2.1)) := by
  have hcells (gs : List (Int64 × Int64 × Int64)) :
      (grantedRoles gs).map (project ["user_id", "role_id", "granted_by"]) =
        (gs.map fun g => (g.1, g.2.1)).map fun x =>
          [Value.bigint x.1, Value.bigint 1, Value.bigint x.2] := by
    rw [grantedRoles, List.map_map, List.map_map]
    rfl
  have hcolumns : ∀ q ∈ catalogChecksumQueries, q.table = rsUserRole →
      q.columns = ["user_id", "role_id", "granted_by"] := by decide +kernel
  constructor
  · intro hsame
    have hquery : (⟨"rs_user_role", rsUserRole, ["user_id", "role_id", "granted_by"],
        ["user_id", "role_id"]⟩ : ChecksumQuery) ∈ catalogChecksumQueries := by decide +kernel
    have hperm := hsame _ hquery
    simp only [rows_grantsOf, if_true, hcells] at hperm
    refine (List.map_perm_map_iff fun x y hxy => ?_).1 hperm
    simpa [Prod.ext_iff] using hxy
  · intro hperm q hq
    rw [rows_grantsOf, rows_grantsOf]
    split_ifs with ht
    · rw [hcolumns q hq ht, hcells, hcells]
      exact hperm.map _
    · exact List.Perm.refl _

/-- The theorem at two grants and the same in another order, at other times; and at one by another
grantor. -/
theorem checksumStream_determines_grants :
    let granted := grantsOf [(1, 7, 0), (2, 7, 5)] (by decide)
    (∃ stream, Streams granted stream ∧
        Streams (grantsOf [(2, 7, 9), (1, 7, 8)] (by decide)) stream) ∧
      ¬ ∃ stream, Streams granted stream ∧
        Streams (grantsOf [(1, 7, 0), (2, 8, 5)] (by decide)) stream := by
  obtain ⟨hsame, hunique, hexists, -⟩ := checksumStream_determines
  constructor
  · obtain ⟨stream, hstream⟩ := hexists (grantsOf [(1, 7, 0), (2, 7, 5)] (by decide))
    obtain ⟨stream', hstream'⟩ := hexists (grantsOf [(2, 7, 9), (1, 7, 8)] (by decide))
    have heq := hunique _ _ _ _ ((sameContents_grantsOf _ _).2 (by decide)) hstream hstream'
    exact ⟨stream, hstream, heq ▸ hstream'⟩
  · rintro ⟨stream, hstream, hstream'⟩
    have hperm := (sameContents_grantsOf _ _).1 (hsame _ _ _ hstream hstream')
    revert hperm
    decide

end Rsduck.Catalog.ChecksumStream
