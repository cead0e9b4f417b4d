import Rsduck.Db.Binding
import Rsduck.Db.Ways
import Rsduck.Mysql.Command
import Rsduck.Mysql.TextRow

/-!
Preparing and executing a statement over the MySQL protocol.

A preparation describes the statement, and a description opens its query. So a preparation
has an effect exactly when the text it opens has one.
-/

namespace Rsduck.Mysql

open Lib Lib.Eff Lib.Text Catalog Db

variable {C : Crates} {P K : Type} (D : DuckDb C P K) (S : Service P)

structure PreparedStatement where
  boundSql : List Char
  paramCount : ℕ
  columns : List SqlColumn

/-- The text a statement is prepared as, and its number of parameters. -/
def preparedText (session : MySqlSession) (payload : List Char) : List Char × ℕ :=
  let (numbered, paramCount) := rewriteMysqlPlaceholders (trim payload)
  (mysqlExecutionSql S.texts numbered session, paramCount)

/-- `COM_STMT_PREPARE`. -/
def handleStmtPrepare (session : MySqlSession) (payload : List Char) :
    Eff (Conn P K) PreparedStatement := do
  let (boundSql, paramCount) := preparedText S session payload
  let columns ← describeSqlWithParamsAs D S (String.ofList session.username) boundSql
    (dummyParamsForDescribe boundSql paramCount)
  return { boundSql, paramCount, columns }

/-- `COM_STMT_EXECUTE` of a prepared statement, its parameters read. -/
def handleStmtExecute (session : MySqlSession) (statement : PreparedStatement)
    (params : List SqlParam) (maxResultRows : ℕ) : Eff (Conn P K) (SqlTypedResult C) :=
  executeTypedSqlWithParamsAs D S (String.ofList session.username) statement.boundSql params
    maxResultRows

/-! ### What a preparation leaves -/

variable (session : MySqlSession) (payload : List Char)

/-- The way of the text a statement is prepared as, with the values it is described with. -/
def preparedWay (s : Conn P K) : Except String (Way C) :=
  wayOf D S (String.ofList session.username) s.session.now (preparedText S session payload).1
    (dummyParamsForDescribe (preparedText S session payload).1 (preparedText S session payload).2)

lemma preparedWay_with (query : List Char → Eff (Conn P K) (Opened C))
    (execute : List Char → Eff (Conn P K) ℕ) (mutations : Mutations P) (s : Conn P K) :
    preparedWay { D with query, execute } { S with mutations } session payload s =
      preparedWay D S session payload s := by
  unfold preparedWay
  rw [wayOf_with]
  rfl

/-- The statement executed with one list of parameters after the other. -/
def executions (statement : PreparedStatement) (runs : List (List SqlParam × ℕ)) (s : Conn P K) :
    Conn P K :=
  runs.foldl (fun t run => (exec (handleStmtExecute D S session statement run.1 run.2) t).2) s

/-- What a text does once with the parameters. -/
def textLeaves (text : List Char) (s : Conn P K) (params : List SqlParam) : Conn P K :=
  match wayOf D S (String.ofList session.username) s.session.now text params with
  | .ok way => way.leaves D S (String.ofList session.username) s
  | .error _ => s

/-- Preparing leaves the connection as it was, and whatever is executed afterwards does what the text
does, once for each execution. -/
def PrepareHasNoEffect (s : Conn P K) : Prop :=
  (exec (handleStmtPrepare D S session payload) s).2 = s ∧
    ∀ statement t, Runs (handleStmtPrepare D S session payload) s statement t →
      ∀ runs, executions D S session statement runs t =
        (runs.map Prod.fst).foldl (textLeaves D S session (preparedText S session payload).1) s

variable {session payload}

lemma exec_handleStmtPrepare (s : Conn P K) :
    exec (handleStmtPrepare D S session payload) s =
      match preparedWay D S session payload s with
      | .error e => (.error e, s)
      | .ok way =>
        match exec (way.describe D) s with
        | (.error e, t) => (.error e, t)
        | (.ok columns, t) => (.ok ⟨(preparedText S session payload).1,
            (preparedText S session payload).2, columns⟩, t) := by
  unfold handleStmtPrepare preparedWay
  simp only [exec_bind, exec_describeSqlWithParamsAs]
  rcases wayOf D S (String.ofList session.username) s.session.now _ _ with e | way
  · rfl
  · simp only
    rcases exec (way.describe D) s with ⟨_ | columns, t⟩
    · rfl
    · rfl

/-- Only a text that is opened as a query can have an effect when it is prepared. -/
lemma handleStmtPrepare_unchanged_iff (s : Conn P K) :
    (exec (handleStmtPrepare D S session payload) s).2 = s ↔
      ∀ sql, preparedWay D S session payload s = .ok (.query sql) →
        (exec (D.query sql) s).2 = s := by
  rw [exec_handleStmtPrepare]
  rcases preparedWay D S session payload s with e | way
  · simp
  · simp only [Except.ok.injEq]
    rw [← exec_describe]
    rcases exec (way.describe D) s with ⟨_ | columns, t⟩
    · rfl
    · rfl

/-- An execution does once what its text does. -/
lemma exec_handleStmtExecute (statement : PreparedStatement) (params : List SqlParam)
    (maxResultRows : ℕ) (s : Conn P K) :
    (exec (handleStmtExecute D S session statement params maxResultRows) s).2 =
      textLeaves D S session statement.boundSql s params := by
  unfold handleStmtExecute textLeaves
  rw [exec_executeTypedSqlWithParamsAs]
  rcases wayOf D S (String.ofList session.username) s.session.now statement.boundSql params with
    e | way
  · rfl
  · exact exec_execute D S way maxResultRows (String.ofList session.username) s

lemma executions_eq (statement : PreparedStatement) (runs : List (List SqlParam × ℕ))
    (s : Conn P K) :
    executions D S session statement runs s =
      (runs.map Prod.fst).foldl (textLeaves D S session statement.boundSql) s := by
  have hstep : (fun (t : Conn P K) (run : List SqlParam × ℕ) =>
      (exec (handleStmtExecute D S session statement run.1 run.2) t).2) =
        fun t run => textLeaves D S session statement.boundSql t run.1 := by
    funext t run
    exact exec_handleStmtExecute D S statement run.1 run.2 t
  unfold executions
  rw [hstep, List.foldl_map]

lemma boundSql_of_runs {s t : Conn P K} {statement : PreparedStatement}
    (h : Runs (handleStmtPrepare D S session payload) s statement t) :
    statement.boundSql = (preparedText S session payload).1 := by
  rw [Runs, exec_handleStmtPrepare] at h
  generalize preparedWay D S session payload s = way at h
  rcases way with e | way
  · simp at h
  · simp only at h
    generalize exec (way.describe D) s = described at h
    obtain ⟨_ | columns, u⟩ := described
    · simp at h
    · simp only [Prod.mk.injEq, Except.ok.injEq] at h
      rw [← h.1]

lemma prepareHasNoEffect_iff_unchanged (s : Conn P K) :
    PrepareHasNoEffect D S session payload s ↔
      (exec (handleStmtPrepare D S session payload) s).2 = s := by
  refine ⟨And.left, fun h => ⟨h, fun statement t hrun runs => ?_⟩⟩
  have ht : t = s := by
    rw [hrun] at h
    exact h
  rw [ht, executions_eq, boundSql_of_runs D S hrun]

variable (session payload)

/-- **When preparing has no effect**, whatever the engine does with texts that do more than read:
exactly when the text is not opened as a query, or only reads. -/
theorem prepareHasNoEffect_iff (R : EngineReading P K) (s : Conn P K) :
    (∀ query, R.ReadsQuietly query →
        PrepareHasNoEffect { D with query } S session payload s) ↔
      ∀ sql, preparedWay D S session payload s = .ok (.query sql) → R.ReadsOnly s sql := by
  have hprepare (query : List Char → Eff (Conn P K) (Opened C)) :
      PrepareHasNoEffect { D with query } S session payload s ↔
        ∀ sql, preparedWay D S session payload s = .ok (.query sql) →
          (exec (query sql) s).2 = s := by
    rw [prepareHasNoEffect_iff_unchanged, handleStmtPrepare_unchanged_iff, preparedWay_with]
  constructor
  · intro h sql hway
    by_contra hreads
    have hsame := (hprepare R.restless).1 (h R.restless R.readsQuietly_restless) sql hway
    rw [R.exec_restless_of_not_readsOnly hreads] at hsame
    exact EngineReading.stirred_ne s hsame
  · intro h query hquery
    exact (hprepare query).2 fun sql hway => hquery s sql (h sql hway)

/-! ### A modification under `WITH` -/

def withInsertText : List Char := "WITH x AS (SELECT 1) INSERT INTO t SELECT 1".toList

/-- An engine whose database is the number of rows of the table `t`. -/
def countingEngine : DuckDb plainCrates ℕ Unit where
  query sql s :=
    if sql = withInsertText then
      (.ok { columns := [⟨"Count".toList, .int8⟩], rows := [[.bigInt 1]] },
        { s with session := { s.session with
          now := { s.session.now with phys := s.session.now.phys + 1 } } })
    else (.error "not a query", s)
  execute _ s := (.error "not a statement", s)
  refuse _ := none
  readText _ _ := .ok ""
  partitionTimes _ := []

/-- The one statement of its parser is the insertion. -/
def insertService : Service ℕ where
  texts := default
  inconsistency _ := []
  parser := .knows withInsertOne
  mutations := default

/-- A catalog with one user, who has no rights. -/
def oneUser : Catalog :=
  { rsUser := ⟨[⟨10001, "u", "", "argon2id", "caching_sha2_password", "", "active", false, none⟩],
      by simp⟩ }

def freshConn : Conn ℕ Unit := ⟨⟨⟨oneUser, 0⟩, none⟩, ()⟩

lemma rewriteSql_withInsertText (T : MetadataTexts) :
    rewriteSql T withInsertText "main".toList "u".toList = none := by
  have hdot : '.' ∉ withInsertText := by decide
  have hsystem : rewriteMysqlSystemSql T withInsertText = none :=
    replaceRelations_of_dot _ _ hdot
  have hinformation : rewriteInformationSchemaSql T withInsertText "u".toList = none :=
    replaceRelations_of_dot _ _ hdot
  unfold rewriteSql
  rw [hsystem, hinformation]
  rfl

lemma preparedText_withInsertText :
    preparedText insertService ⟨"u".toList, []⟩ withInsertText = (withInsertText, 0) := by
  have hplaceholders : rewriteMysqlPlaceholders (trim withInsertText) = (withInsertText, 0) := by
    rfl
  have hcatalog : mysqlCatalogQuerySql insertService.texts withInsertText ⟨"u".toList, []⟩ =
      none := rewriteSql_withInsertText _
  have hlimit : rewriteMysqlLimitOffsetComma withInsertText = none := by rfl
  have hquoted : rewriteMysqlQuotedIdentifiers withInsertText = withInsertText := by rfl
  have hnone : ((none : Option (List Char)) <|> none).getD withInsertText = withInsertText := rfl
  simp only [preparedText, hplaceholders, mysqlExecutionSql, hcatalog, hlimit, hnone, hquoted]

lemma routeRequest_withInsertText :
    routeRequest insertService.parser withInsertText [] =
      .ok (withInsertText, ⟨.read, "SELECT"⟩) := by
  have htrim : trim withInsertText = withInsertText := by rfl
  have hroute : routeSql insertService.parser withInsertText = .ok ⟨.read, "SELECT"⟩ := by rfl
  have hne : withInsertText ≠ [] := by decide
  have hbind : bindSqlParams withInsertText [] = .ok withInsertText :=
    bindSqlParams_self (by rfl)
  simp only [routeRequest, htrim, hne, if_false, hbind]
  simp [hroute, bind, Except.bind, pure, Except.pure]

lemma shortcut_withInsertText :
    shortcut countingEngine insertService "u" ⟨oneUser, 0⟩ withInsertText = .ok none := by
  have hcompat : compatResult plainCrates withInsertText = none := by rfl
  have hpartitions : showPartitionsResult countingEngine.partitionTimes oneUser "u"
      withInsertText = .ok none := by rfl
  have hrewrite : rewriteSql insertService.texts withInsertText "main".toList "u".toList = none :=
    rewriteSql_withInsertText _
  have hdiagnostic : isReservedDiagnosticRead withInsertText = false := by rfl
  simp only [shortcut, hcompat, hpartitions, hrewrite, hdiagnostic]
  rfl

/-- How that engine reads: the insertion is the only text it knows, and nothing acts by its name. -/
def countingReading : EngineReading ℕ Unit where
  parse := (SqlParser.knows withInsertOne).parse
  acts _ _ := False
  actsWhenRead _ _ := False

lemma readsQuietly_countingEngine : countingReading.ReadsQuietly countingEngine.query := by
  intro s text h
  by_cases htext : text = withInsertText
  · subst htext
    have hreads := (h [withInsertOne] (by rfl)).1 withInsertOne List.mem_cons_self
    exact absurd hreads.1 (by decide)
  · simp only [countingEngine, exec, if_neg htext]

lemma preparedWay_withInsertText :
    preparedWay countingEngine insertService ⟨"u".toList, []⟩ withInsertText freshConn =
      .ok (.query withInsertText) := by
  have hguard : passGuard insertService "u" oneUser withInsertText = .ok () := by rfl
  have htrim : trim withInsertText = withInsertText := by rfl
  have hne : withInsertText ≠ [] := by decide
  have hdummy : dummyParamsForDescribe withInsertText 0 = [] := by rfl
  unfold preparedWay wayOf
  simp only [preparedText_withInsertText, hdummy, routeRequest_withInsertText, htrim, hne, if_false,
    freshConn, String.ofList_toList, shortcut_withInsertText, hguard]

/-- Preparing the insertion inserts its row, though the engine leaves alone what only reads. -/
theorem prepareHasNoEffect_withInsertText :
    withInsertOne.print = withInsertText ∧
      countingReading.ReadsQuietly countingEngine.query ∧
      ¬ PrepareHasNoEffect countingEngine insertService ⟨"u".toList, []⟩ withInsertText
        freshConn := by
  refine ⟨by decide, readsQuietly_countingEngine, fun h => ?_⟩
  have hsame := (handleStmtPrepare_unchanged_iff _ _ _).1 h.1 withInsertText
    preparedWay_withInsertText
  -- the engine has added the row
  have hrow := congrArg (fun s : Conn ℕ Unit => s.session.now.phys) hsame
  simp [exec, countingEngine, freshConn] at hrow

end Rsduck.Mysql
