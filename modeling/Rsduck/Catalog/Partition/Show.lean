import Rsduck.Catalog.Guard
import Rsduck.Mysql.Compat

/-!
`SHOW PARTITIONS FROM table`.
-/

namespace Rsduck.Catalog

open Lib Lib.Text Sql Db Mysql

/-! ### The statement -/

/-- What is left after `n` bytes, when a character ends there. -/
def dropBytes : ℕ → List Char → Option (List Char)
  | 0, s => some s
  | _ + 1, [] => some []
  | n + 1, c :: r => if c.utf8Size ≤ n + 1 then dropBytes (n + 1 - c.utf8Size) r else none
  termination_by _ s => s.length

namespace ShowPartitions

/-- Through the closing quote; a doubled one stands for itself. -/
def readQuotedIdentifier (quote : Char) : List Char → Except String (List Char × List Char)
  | [] => .error "unterminated quoted identifier"
  | [c] => if c = quote then .ok ([], []) else .error "unterminated quoted identifier"
  | c :: d :: r =>
    if c ≠ quote then (readQuotedIdentifier quote (d :: r)).map fun x => (c :: x.1, x.2)
    else if d = quote then (readQuotedIdentifier quote r).map fun x => (quote :: x.1, x.2)
    else .ok ([], d :: r)

def parseIdentifierPart (s : List Char) : Except String (List Char × List Char) :=
  match skipAsciiWs s with
  | [] => .error "expected identifier"
  | c :: r =>
    if c = '"' ∨ c = '`' then readQuotedIdentifier c r
    else if isIdentByte c then .ok ((c :: r).takeWhile isIdentByte, (c :: r).dropWhile isIdentByte)
    else .error ("expected identifier at: " ++ String.ofList (trim (c :: r)))

/-- The parts of a dotted name, and what follows it. -/
def parseIdentifierParts : ℕ → List Char → Except String (List (List Char) × List Char)
  | 0, s => .ok ([], s)
  | fuel + 1, s => do
    let (part, r) ← parseIdentifierPart s
    match skipAsciiWs r with
    | '.' :: r => do
      let (parts, r) ← parseIdentifierParts fuel (skipAsciiWs r)
      return (part :: parts, r)
    | r => return ([part], r)

end ShowPartitions

open ShowPartitions in
def parseShowPartitions (sql : List Char) : Except String RelationName := do
  let trimmed := bareStatement sql
  if !startsWith "show partitions from" (normalizeShowPartitions trimmed) then
    .error "SHOW PARTITIONS syntax: SHOW PARTITIONS FROM table_name"
  else
    -- the length of the prefix with single blanks, also where the text has more
    match dropBytes "show partitions from".length trimmed with
    | none => .error "duckdb worker panicked: byte index 20 is not a char boundary"
    | some rest => do
      let (parts, trailing) ← parseIdentifierParts (trimmed.length + 1) (skipAsciiWs rest)
      if trim trailing ≠ [] then
        .error ("unexpected text after SHOW PARTITIONS table name: " ++
          String.ofList (trim trailing))
      else
        match parts with
        | [table] => .ok ("main".toList, table)
        | [schema, table] => .ok (schema, table)
        | _ => .error "SHOW PARTITIONS only supports table or schema.table"

/-! ### The result -/

def relationKind (c : Catalog) (relOid : ℤ) : Except String RelKind :=
  match c.rsRelation.find (·.oid == relOid) with
  | some r => .ok r.relkind
  | none => .error ("read relation kind failed: " ++ noRows)

def showPartitionsColumns : List SqlColumn :=
  [("schema_name", .text), ("table_name", .text), ("partition_value", .text),
    ("physical_schema", .text), ("physical_table", .text), ("status", .text),
    ("row_count", .int8), ("is_null_partition", .bool), ("created_at", .text),
    ("activated_at", .text), ("dropped_at", .text), ("error_message", .text)].map
    fun (x : String × SqlType) => ⟨x.1.toList, x.2⟩

section Result

variable {C : Crates} (times : PartitionRow → List (SqlValue C))

/-- A partition joined with its two relations and their schemas; `times` gives the three columns
of times. -/
def showPartitionRows (c : Catalog) (p : PartitionRow) : List (List (SqlValue C)) :=
  (c.rsRelation.select (·.oid == p.parentRelid)).flatMap fun parent =>
    (c.rsSchema.select (·.oid == parent.relnamespace)).flatMap fun pn =>
      (c.rsRelation.select (·.oid == p.childRelid)).flatMap fun child =>
        (c.rsSchema.select (·.oid == child.relnamespace)).map fun cn =>
          [.text pn.nspname.toList, .text parent.relname.toList, .text p.partitionValue.toList,
            .text cn.nspname.toList, .text child.relname.toList, .text p.status.text.toList,
            .int64 (Int64.ofInt p.rowCount), .bool p.isNullPartition] ++ times p ++
            [.text p.errorMessage.toList]

def showPartitionsResult (c : Catalog) (username : String) (sql : List Char) :
    Except String (Option (SqlTypedResult C)) :=
  if !looksLikeShowPartitions sql then .ok none
  else do
    let (schema, table) ← parseShowPartitions sql
    rejectReservedSchema schema
    let principal ← principalForUsername c username
    requireOn c principal (schema, table) .read
    let parentOid ← relationOid c (String.ofList schema) (String.ofList table)
    if (← relationKind c parentOid) ≠ .partitioned then
      .error ("SHOW PARTITIONS requires a partitioned table: " ++ String.ofList schema ++ "." ++
        String.ofList table)
    else
      let partitions := (c.rsPartition.select (·.parentRelid == parentOid)).mergeSort fun a b =>
        if a.isNullPartition = b.isNullPartition then decide (a.partitionValue ≤ b.partitionValue)
        else !a.isNullPartition
      return some (.query showPartitionsColumns (partitions.flatMap (showPartitionRows times c)))

end Result

end Rsduck.Catalog
