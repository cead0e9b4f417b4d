import Rsduck.Mysql.Show
import Rsduck.Sql.Syntax
import Rsduck.Sql.Text

/-!
Routing a statement to a read worker or to the write worker.
-/

namespace Rsduck

open Sql Lib

/-- The parser of SQL: the statements of a text. -/
structure SqlParser where
  parse : List Char → Except String (List Statement)

/-- A parser that knows the text of one statement. -/
def SqlParser.knows (s : Statement) : SqlParser where
  parse sql := if sql = s.print then .ok [s] else .error "Expected: an SQL statement"

inductive SqlRoute
  | read | write
  deriving DecidableEq

structure SqlRouteDecision where
  route : SqlRoute
  command : String
  deriving DecidableEq

/-- The constructors, of those without a case of their own, that are routed to a reader. -/
def readKinds : List StatementKind :=
  [.explainTable, .fetch, .showFunctions, .showVariable, .showStatus, .showVariables, .showCreate,
    .showColumns, .showCatalogs, .showDatabases, .showProcessList, .showSchemas, .showCharset,
    .showObjects, .showTables, .showViews, .showCollation, .exportData]

def statementRoute : Statement → SqlRoute
  | .query _ => .read
  | .explain analyze _ _ statement => if analyze then statementRoute statement else .read
  | .copy isTo _ => if isTo then .read else .write
  | .pragma value _ => if value then .write else .read
  | .other kind _ => if kind ∈ readKinds then .read else .write
  | _ => .write

def kindCommand : StatementKind → String
  | .analyze => "ANALYZE"
  | .set => "SET"
  | .truncate => "TRUNCATE"
  | .install => "INSTALL"
  | .load | .directory => "LOAD"
  | .call => "CALL"
  | .createUser | .createVirtualTable | .createRole | .createSecret
  | .createServer | .createPolicy | .createConnector | .createOperator | .createOperatorFamily
  | .createOperatorClass | .createExtension | .createCollation | .createSchema | .createDatabase
  | .createFunction | .createTrigger | .createProcedure | .createMacro | .createStage
  | .createSequence | .createDomain | .createType => "CREATE"
  | .alterTable | .alterSchema | .alterIndex | .alterView | .alterUser | .alterFunction
  | .alterType | .alterCollation | .alterOperator | .alterOperatorFamily | .alterOperatorClass
  | .alterRole | .alterPolicy | .alterConnector | .alterSession => "ALTER"
  | .attachDatabase | .attachDuckDBDatabase => "ATTACH"
  | .detachDuckDBDatabase => "DETACH"
  | .dropFunction | .dropDomain | .dropProcedure | .dropSecret | .dropPolicy
  | .dropConnector | .dropExtension | .dropOperator | .dropOperatorFamily
  | .dropOperatorClass => "DROP"
  | .explainTable => "EXPLAIN"
  | .cache => "CACHE"
  | .unCache => "UNCACHE"
  | .use => "USE"
  | .commit => "COMMIT"
  | .rollback => "ROLLBACK"
  | .grant => "GRANT"
  | .deny => "DENY"
  | .revoke => "REVOKE"
  | .exportData => "EXPORT"
  | .showFunctions | .showVariable | .showStatus | .showVariables | .showCreate | .showColumns
  | .showCatalogs | .showDatabases | .showProcessList | .showSchemas | .showCharset
  | .showObjects | .showTables | .showViews | .showCollation => "SHOW"
  | .fetch | .execute | .unlisted => "OK"

def statementCommand : Statement → String
  | .query _ => "SELECT"
  | .insert _ _ => "INSERT"
  | .update _ _ => "UPDATE"
  | .delete _ _ => "DELETE"
  | .merge _ _ => "MERGE"
  | .createTable _ _ | .createView _ _ | .createIndex _ _ => "CREATE"
  | .comment _ _ _ _ => "OK"
  | .drop _ _ _ => "DROP"
  | .explain _ _ _ _ => "EXPLAIN"
  | .copy _ _ => "COPY"
  | .pragma _ _ => "PRAGMA"
  | .startTransaction begins _ => if begins then "BEGIN" else "START"
  | .other kind _ => kindCommand kind

/-- Texts that are recognised before the parser as statements that write. -/
def writtenByText (sql : List Char) : Bool :=
  looksLikeManagedPartitionCreate sql || looksLikeCommentOn sql || looksLikeDropRoleCascade sql

/-- Texts that are recognised before the parser as statements that show. -/
def shownByText (sql : List Char) : Bool :=
  looksLikeShowPartitions sql || Mysql.isShowTableDetail sql

def routeSql (P : SqlParser) (sql : List Char) : Except String SqlRouteDecision :=
  if looksLikeManagedPartitionCreate sql then .ok ⟨.write, "CREATE"⟩
  else if looksLikeCommentOn sql then .ok ⟨.write, "COMMENT"⟩
  else if looksLikeDropRoleCascade sql then .ok ⟨.write, "DROP"⟩
  else if looksLikeShowPartitions sql then .ok ⟨.read, "SHOW"⟩
  else if Mysql.isShowTableDetail sql then .ok ⟨.read, "SHOW"⟩
  else
    match P.parse sql with
    | .error e => .error ("sql parse failed: " ++ e)
    | .ok [statement] => .ok ⟨statementRoute statement, statementCommand statement⟩
    | .ok statements => .error ("only one SQL statement is supported, got " ++
        toString statements.length)

/-! ### Where a modification is not seen -/

/-- The tree modifies data, and only below a statement that is routed to a reader: inside a query
(its body, a bound query or a subquery), under `EXPLAIN` without `ANALYZE`, inside `COPY … TO` or
the filter of a `SHOW`. -/
def hidesWrite : Statement → Bool
  | .query q => q.modifies
  | .explain analyze _ _ statement =>
    if analyze then hidesWrite statement else statement.modifies
  | .copy isTo parts => isTo && partsModify parts
  | .other kind parts => kind ∈ readKinds && partsModify parts
  | _ => false

/-- A modification goes to a reader exactly where it is not seen. -/
lemma statementRoute_of_modifies {s : Statement} (h : s.modifies = true) :
    statementRoute s = .write ↔ hidesWrite s = false := by
  fun_induction hidesWrite s with
  | case1 q => simpa [statementRoute, Statement.modifies] using h
  | case2 options opening s ih => simpa [statementRoute] using ih h
  | case3 analyze options opening s hanalyze =>
    have hs : s.modifies = true := h
    simp [statementRoute, hanalyze, hs]
  | case4 isTo parts =>
    have hp : partsModify parts = true := h
    cases isTo <;> simp [statementRoute, hp]
  | case5 kind parts =>
    have hp : partsModify parts = true := h
    simp [statementRoute, hp]
  | case6 s =>
    cases s with
    | explain analyze options opening s => cases analyze <;> simp_all
    | pragma value text => cases h
    | startTransaction begins text => cases h
    | _ => simp_all [statementRoute]

/-- **Routing a modification**: a text whose one statement modifies data is routed to the write
worker, or refused, exactly when it is recognised from its text as one that writes, or is not
recognised as a `SHOW` and shows its modification at the outermost statement. -/
theorem routeSql_write_iff {P : SqlParser} {sql : List Char} {s : Statement}
    (hparse : P.parse sql = .ok [s]) (hmod : s.modifies = true) :
    (∀ d, routeSql P sql = .ok d → d.route = .write) ↔
      writtenByText sql = true ∨ shownByText sql = false ∧ hidesWrite s = false := by
  unfold routeSql writtenByText shownByText
  rw [← statementRoute_of_modifies hmod]
  split_ifs <;> simp_all

/-! ### A modification under `WITH` -/

/-- `INSERT INTO t SELECT 1`. -/
def insertOne : Statement :=
  .insert [⟨['t'], none⟩]
    [.text "INSERT INTO ".toList, .target [⟨['t'], none⟩], .text [' '],
      .query (.mk false [] (.select [.text "SELECT 1".toList]) [])]

/-- `WITH x AS (SELECT 1) INSERT INTO t SELECT 1`. -/
def withInsertOne : Statement :=
  .query (.mk false
    [.mk ⟨['x'], none⟩ " AS (".toList (.mk false [] (.select [.text "SELECT 1".toList]) []) [')']]
    (.insert insertOne) [])

/-- The insertion is routed to a reader. -/
theorem routeSql_with_insert :
    withInsertOne.print = "WITH x AS (SELECT 1) INSERT INTO t SELECT 1".toList ∧
      withInsertOne.modifies = true ∧
      routeSql (.knows withInsertOne) "WITH x AS (SELECT 1) INSERT INTO t SELECT 1".toList =
        .ok ⟨.read, "SELECT"⟩ :=
  ⟨by decide, by decide, by rfl⟩

/-- Without the `WITH` it is routed to the write worker. -/
theorem routeSql_insert :
    insertOne.print = "INSERT INTO t SELECT 1".toList ∧
      ∀ d, routeSql (.knows insertOne) "INSERT INTO t SELECT 1".toList = .ok d →
        d.route = .write := by
  have hmod : insertOne.modifies = true := by rfl
  exact ⟨by decide, (routeSql_write_iff (s := insertOne) rfl hmod).2
    (Or.inr ⟨by decide, by decide⟩)⟩

end Rsduck
