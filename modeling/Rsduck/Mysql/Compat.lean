import Rsduck.Db.Value
import Rsduck.Mysql.Show

/-!
The MySQL metadata a client asks for, answered from the catalog.

A `SHOW` statement becomes a query over one of the projections; elsewhere the names of the
metadata relations are replaced by their projections, wherever the text has them.
-/

namespace Rsduck.Mysql

open Lib.Text Db

/-! ### Results -/

inductive SqlTypedResult (C : Crates)
  | query (columns : List SqlColumn) (rows : List (List (SqlValue C)))
  | execute (command : String) (affectedRows : ℕ)

/-- The columns a description of the result gives. -/
def SqlTypedResult.columns {C : Crates} : SqlTypedResult C → List SqlColumn
  | .query columns _ => columns
  | .execute _ _ => []

def mysqlEnginesResult (C : Crates) : SqlTypedResult C :=
  .query
    (["ENGINE", "SUPPORT", "COMMENT", "TRANSACTIONS", "XA", "SAVEPOINTS"].map fun name =>
      ⟨name.toList, .text⟩)
    [["InnoDB", "DEFAULT", "rsduck MySQL protocol compatibility engine", "YES", "NO", "YES"].map
      fun value => .text value.toList]

/-- Without white space and name quotes, in lower case. -/
def compactSql (sql : List Char) : List Char :=
  toAsciiLowercase (sql.filter fun c => !isAsciiWhitespace c && c != '`' && c != '"')

def referencesInformationSchemaEngines (sql : List Char) : Bool :=
  contains "information_schema.engines" (compactSql sql)

def compatResult (C : Crates) (sql : List Char) : Option (SqlTypedResult C) :=
  if referencesInformationSchemaEngines sql ∨
      toAsciiLowercase (bareStatement sql) = "show engines".toList then
    some (mysqlEnginesResult C)
  else none

def mysqlSystemRelations : List String :=
  ["user", "role_edges", "default_roles", "db", "procs_priv", "tables_priv", "columns_priv"]

def isMysqlSystemProjection (sql : List Char) : Bool :=
  mysqlSystemRelations.any fun relation => contains ("mysql." ++ relation) (compactSql sql)

/-! ### Projections -/

/-- The texts the statements are built from: the projections of the metadata relations for a
user, and the queries over them that the `SHOW` statements filter. -/
structure MetadataTexts where
  schemata : List Char
  tables : List Char → List Char
  views : List Char → List Char
  routines : List Char
  parameters : List Char
  columns : List Char → List Char
  statistics : List Char → List Char
  tableConstraints : List Char → List Char
  keyColumnUsage : List Char → List Char
  roleEdges : List Char
  defaultRoles : List Char
  procsPriv : List Char
  tablesPriv : List Char
  columnsPriv : List Char
  user : List Char
  db : List Char
  showTables : (full : Bool) → (schema username : List Char) → List Char
  showTableStatus : (schema username : List Char) → List Char
  showTableDetail : (schema table username : List Char) → List Char
  showColumns : (full : Bool) → (schema table username : List Char) → List Char
  showIndex : (schema table username : List Char) → List Char
  showFunctionStatus : (schema : List Char) → List Char
  showProcedureStatus : List Char

/-- Texts that project nothing. -/
instance : Inhabited MetadataTexts where
  default :=
    { schemata := [], tables := fun _ => [], views := fun _ => [], routines := []
      parameters := [], columns := fun _ => [], statistics := fun _ => []
      tableConstraints := fun _ => [], keyColumnUsage := fun _ => [], roleEdges := []
      defaultRoles := [], procsPriv := [], tablesPriv := [], columnsPriv := [], user := []
      db := [], showTables := fun _ _ _ => [], showTableStatus := fun _ _ => []
      showTableDetail := fun _ _ _ => [], showColumns := fun _ _ _ _ => []
      showIndex := fun _ _ _ => [], showFunctionStatus := fun _ => []
      showProcedureStatus := [] }

/-! ### `SHOW` -/

def sqlIdent (value : List Char) : List Char :=
  '"' :: value.flatMap (fun c => if c = '"' then [c, c] else [c]) ++ ['"']

def sqlLiteral (value : List Char) : List Char :=
  '\'' :: value.flatMap (fun c => if c = '\'' then [c, c] else [c]) ++ ['\'']

def applyShowFilter (out : List Char) (filter : ShowFilter) (likeColumn : List Char) : List Char :=
  match filter with
  | .none => out
  | .like pattern => out ++ " WHERE ".toList ++ likeColumn ++ " LIKE ".toList ++ sqlLiteral pattern
  | .where expr => out ++ " WHERE ".toList ++ expr

section Show

variable (T : MetadataTexts) (sql currentSchema username : List Char)

def showTablesSql : Option (List Char) := do
  let parsed ← parseShowTablesQuery sql
  let schema := parsed.schema.getD currentSchema
  let nameIdent := sqlIdent ("Tables_in_".toList ++ schema)
  return applyShowFilter (T.showTables parsed.full schema username) parsed.filter nameIdent ++
    " ORDER BY ".toList ++ nameIdent

def showTableStatusSql : Option (List Char) := do
  let parsed ← parseShowTableStatusQuery sql
  let schema := parsed.schema.getD currentSchema
  return applyShowFilter (T.showTableStatus schema username) parsed.filter "\"Name\"".toList ++
    " ORDER BY \"Name\"".toList

def showTableDetailSql : Option (List Char) := do
  let parsed ← parseShowTableDetailQuery sql
  return T.showTableDetail (parsed.schema.getD currentSchema) parsed.table username

def showColumnsSql : Option (List Char) := do
  let parsed ← parseShowColumnsQuery sql
  let schema := parsed.schema.getD currentSchema
  return applyShowFilter (T.showColumns parsed.full schema parsed.table username) parsed.filter
    "\"Field\"".toList ++ " ORDER BY \"__ordinal\"".toList

def showIndexSql : Option (List Char) := do
  let parsed ← parseShowIndexQuery sql
  let schema := parsed.schema.getD currentSchema
  return applyShowFilter (T.showIndex schema parsed.table username) parsed.filter
    "\"Key_name\"".toList ++ " ORDER BY \"Key_name\", \"Seq_in_index\"".toList

/-- Whether `SHOW … STATUS` is about functions, and its filter. -/
def parseShowRoutineStatus : Option (Bool × ShowFilter) := do
  let s ← keyword "show" (bareStatement sql)
  let (isFunction, s) ← (keyword "function" s).map (true, ·) <|>
    (keyword "procedure" s).map (false, ·)
  return (isFunction, ← parseShowFilter (← consumeKeyword "status" s))

def showRoutineStatusSql : Option (List Char) := do
  let (isFunction, filter) ← parseShowRoutineStatus sql
  let source := if isFunction then T.showFunctionStatus currentSchema else T.showProcedureStatus
  return applyShowFilter ("SELECT * FROM (".toList ++ source ++
    ") rsduck_mysql_routine_status".toList) filter "\"Name\"".toList ++
    " ORDER BY \"Db\", \"Name\"".toList

end Show

/-! ### Metadata relations -/

/-- Every place where the text has the needle, in any case, gets the replacement; the first
argument counts the characters still to be passed over. -/
def replaceFrom (needle replacement : List Char) : ℕ → List Char → List Char
  | _, [] => []
  | k + 1, _ :: r => replaceFrom needle replacement k r
  | 0, c :: r =>
    if eqIgnoreAsciiCase ((c :: r).take needle.length) needle then
      replacement ++ replaceFrom needle replacement (needle.length - 1) r
    else c :: replaceFrom needle replacement 0 r

def replaceIgnoreAsciiCase (input needle replacement : List Char) : List Char :=
  replaceFrom needle replacement 0 input

def backquoted (name : List Char) : List Char := '`' :: name ++ ['`']

/-- The relation under each of its four spellings. -/
def replaceSchemaRelation (sql : List Char) (schema relation : String) (projection : List Char) :
    List Char :=
  let replacement := '(' :: projection ++ [')']
  let s := schema.toList
  let r := relation.toList
  [s ++ '.' :: r, s ++ '.' :: backquoted r, backquoted s ++ '.' :: r,
    backquoted s ++ '.' :: backquoted r].foldl
      (fun out needle => replaceIgnoreAsciiCase out needle replacement) sql

/-- The relations one after the other; a result only when the text changed. -/
def replaceRelations (schema : String) (projections : List (String × List Char))
    (sql : List Char) : Option (List Char) :=
  let step (state : List Char × Bool) (p : String × List Char) : List Char × Bool :=
    let next := replaceSchemaRelation state.1 schema p.1 p.2
    if next = state.1 then state else (next, true)
  match projections.foldl step (sql, false) with
  | (rewritten, true) => some rewritten
  | (_, false) => none

def rewriteMysqlSystemSql (T : MetadataTexts) (sql : List Char) : Option (List Char) :=
  replaceRelations "mysql"
    [("role_edges", T.roleEdges), ("default_roles", T.defaultRoles), ("procs_priv", T.procsPriv),
      ("tables_priv", T.tablesPriv), ("columns_priv", T.columnsPriv), ("user", T.user),
      ("db", T.db)] sql

def rewriteInformationSchemaSql (T : MetadataTexts) (sql username : List Char) :
    Option (List Char) :=
  replaceRelations "information_schema"
    [("schemata", T.schemata), ("tables", T.tables username), ("views", T.views username),
      ("routines", T.routines), ("parameters", T.parameters), ("columns", T.columns username),
      ("statistics", T.statistics username),
      ("table_constraints", T.tableConstraints username),
      ("key_column_usage", T.keyColumnUsage username)] sql

def rewriteSql (T : MetadataTexts) (sql currentSchema username : List Char) : Option (List Char) :=
  showTableStatusSql T sql currentSchema username <|>
    showTableDetailSql T sql currentSchema username <|>
    showTablesSql T sql currentSchema username <|>
    showColumnsSql T sql currentSchema username <|>
    showIndexSql T sql currentSchema username <|>
    showRoutineStatusSql T sql currentSchema <|>
    rewriteMysqlSystemSql T sql <|> rewriteInformationSchemaSql T sql username

/-! ### Texts without a dot -/

lemma not_eqIgnoreAsciiCase_of_dot {s needle : List Char} (hs : '.' ∉ s) (hn : '.' ∈ needle) :
    eqIgnoreAsciiCase s needle = false := by
  unfold eqIgnoreAsciiCase
  rw [beq_eq_false_iff_ne]
  intro h
  have hdot : '.' ∈ toAsciiLowercase needle := List.mem_map_of_mem (f := Char.toLower) hn
  rw [← h] at hdot
  obtain ⟨c, hc, hlower⟩ := List.mem_map.1 hdot
  exact hs (eq_of_toLower_eq (by decide) hlower ▸ hc)

lemma replaceIgnoreAsciiCase_of_dot {s needle : List Char} (replacement : List Char)
    (hs : '.' ∉ s) (hn : '.' ∈ needle) : replaceIgnoreAsciiCase s needle replacement = s := by
  unfold replaceIgnoreAsciiCase
  induction s with
  | nil => rfl
  | cons c r ih =>
    have htake : '.' ∉ (c :: r).take needle.length := fun h => hs (List.mem_of_mem_take h)
    rw [replaceFrom, not_eqIgnoreAsciiCase_of_dot htake hn]
    simp [ih (fun h => hs (by simp [h]))]

lemma replaceSchemaRelation_of_dot {sql : List Char} (schema relation : String)
    (projection : List Char) (hs : '.' ∉ sql) :
    replaceSchemaRelation sql schema relation projection = sql := by
  simp [replaceSchemaRelation, replaceIgnoreAsciiCase_of_dot, hs]

/-- A text without a dot names no metadata relation. -/
lemma replaceRelations_of_dot {sql : List Char} (schema : String)
    (projections : List (String × List Char)) (hs : '.' ∉ sql) :
    replaceRelations schema projections sql = none := by
  unfold replaceRelations
  have hfold : ∀ ps : List (String × List Char),
      ps.foldl (fun (state : List Char × Bool) p =>
        let next := replaceSchemaRelation state.1 schema p.1 p.2
        if next = state.1 then state else (next, true)) (sql, false) = (sql, false) := by
    intro ps
    induction ps with
    | nil => rfl
    | cons p ps ih =>
      rw [List.foldl_cons]
      simp only [replaceSchemaRelation_of_dot _ _ _ hs, if_true]
      exact ih
  simp only [hfold]

end Rsduck.Mysql
