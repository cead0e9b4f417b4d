import Rsduck.Db.EngineReading

/-!
The way of a text through the service.

A text is refused, or answered without the engine, or a query of the engine, or a write. Running it
and describing it go the same way, and what running it leaves is what its way does once.
-/

namespace Rsduck.Db

open Lib Lib.Eff Lib.Text Catalog Mysql

inductive Way (C : Crates)
  | answer (result : SqlTypedResult C)
  | query (sql : List Char)
  | write (sql : List Char) (command : String)

section Ways

variable {C : Crates} {P K : Type} (D : DuckDb C P K) (S : Service P)

/-- Where a text goes from a database, unless it is refused. -/
def wayOf (username : String) (d : Db P) (text : List Char) (params : List SqlParam) :
    Except String (Way C) :=
  match routeRequest S.parser text params with
  | .error e => .error e
  | .ok (bound, decision) =>
    if trim bound = [] then .error "empty sql"
    else
      match shortcut D S username d (trim bound) with
      | .error e => .error e
      | .ok (some (.answer result)) => .ok (.answer result)
      | .ok (some (.query query)) => .ok (.query query)
      | .ok none =>
        match passGuard S username d.cat (trim bound), decision.route with
        | .error e, _ => .error e
        | .ok _, .read => .ok (.query (trim bound))
        | .ok _, .write => .ok (.write (trim bound) decision.command)

lemma shortcut_with (query : List Char → Eff (Conn P K) (Opened C))
    (execute : List Char → Eff (Conn P K) ℕ) (mutations : Mutations P) :
    shortcut { D with query, execute } { S with mutations } = shortcut D S := by
  funext username d sql
  simp only [shortcut, validateMetadataProjection]

lemma passGuard_with (mutations : Mutations P) :
    passGuard { S with mutations } = passGuard S := by
  funext username c sql
  simp only [passGuard]

/-- The way does not depend on what queries, statements and mutations do. -/
lemma wayOf_with (query : List Char → Eff (Conn P K) (Opened C))
    (execute : List Char → Eff (Conn P K) ℕ) (mutations : Mutations P) :
    wayOf { D with query, execute } { S with mutations } = wayOf D S := by
  funext username d text params
  simp only [wayOf, shortcut_with, passGuard_with]

def Way.execute (maxResultRows : ℕ) (username : String) :
    Way C → Eff (Conn P K) (SqlTypedResult C)
  | .answer result => pure result
  | .query sql => queryTypedSqlBlocking D sql maxResultRows
  | .write sql command => do return .execute command (← executeWrite D S username sql)

def Way.describe : Way C → Eff (Conn P K) (List SqlColumn)
  | .answer result => pure result.columns
  | .query sql => describeQuerySqlBlocking D sql
  | .write _ _ => pure []

/-- What the way leaves: its query is opened once, its write is done once. -/
def Way.leaves (username : String) (s : Conn P K) : Way C → Conn P K
  | .answer _ => s
  | .query sql => (exec (D.query sql) s).2
  | .write sql _ => (exec (executeWrite D S username sql) s).2

/-- A text is run by its way. -/
lemma exec_executeTypedSqlWithParamsAs (username : String) (text : List Char)
    (params : List SqlParam) (maxResultRows : ℕ) (s : Conn P K) :
    exec (executeTypedSqlWithParamsAs D S username text params maxResultRows) s =
      match wayOf D S username s.session.now text params with
      | .ok way => exec (way.execute D S maxResultRows username) s
      | .error e => (.error e, s) := by
  unfold executeTypedSqlWithParamsAs wayOf
  rw [exec_bind, exec_fromExcept]
  rcases routeRequest S.parser text params with e | ⟨bound, decision⟩
  · rfl
  · unfold executeTypedSqlBlocking
    by_cases hempty : trim bound = []
    · simp only [hempty, if_true, exec_throw]
    · simp only [hempty, if_false, exec_bind, exec_get, exec_fromExcept]
      rcases shortcut D S username s.session.now (trim bound) with e | _ | result | query
      · rfl
      · simp only [exec_bind, exec_fromExcept]
        rcases passGuard S username s.session.now.cat (trim bound) with e | ⟨⟩
        · rfl
        · rcases decision.route with _ | _
          · rfl
          · rfl
      · rfl
      · rfl

/-- A text is described by its way. -/
lemma exec_describeSqlWithParamsAs (username : String) (text : List Char)
    (params : List SqlParam) (s : Conn P K) :
    exec (describeSqlWithParamsAs D S username text params) s =
      match wayOf D S username s.session.now text params with
      | .ok way => exec (way.describe D) s
      | .error e => (.error e, s) := by
  unfold describeSqlWithParamsAs wayOf
  rw [exec_bind, exec_fromExcept]
  rcases routeRequest S.parser text params with e | ⟨bound, decision⟩
  · rfl
  · unfold describeSqlBlocking
    by_cases hempty : trim bound = []
    · simp only [hempty, if_true, exec_throw]
    · simp only [hempty, if_false, exec_bind, exec_get, exec_fromExcept]
      rcases shortcut D S username s.session.now (trim bound) with e | _ | result | query
      · rfl
      · simp only [exec_bind, exec_fromExcept]
        rcases passGuard S username s.session.now.cat (trim bound) with e | ⟨⟩
        · rfl
        · rcases decision.route with _ | _
          · rfl
          · rfl
      · rfl
      · rfl

/-! ### What is left -/

/-- A query leaves what opening it leaves. -/
lemma exec_queryTypedSqlBlocking (sql : List Char) (maxResultRows : ℕ) (s : Conn P K) :
    (exec (queryTypedSqlBlocking D sql maxResultRows) s).2 = (exec (D.query sql) s).2 := by
  unfold queryTypedSqlBlocking
  rw [exec_bind]
  rcases exec (D.query sql) s with ⟨e | opened, t⟩
  · rfl
  · simp only
    split_ifs
    · rfl
    · rcases opened.failure with _ | e
      · rfl
      · rfl

lemma exec_describeQuerySqlBlocking (sql : List Char) (s : Conn P K) :
    exec (describeQuerySqlBlocking D sql) s =
      match exec (D.query sql) s with
      | (.ok opened, t) => (.ok opened.columns, t)
      | (.error e, t) => (.error e, t) := by
  unfold describeQuerySqlBlocking
  rw [exec_bind]
  rcases exec (D.query sql) s with ⟨_ | opened, t⟩
  · rfl
  · rfl

lemma exec_execute (way : Way C) (maxResultRows : ℕ) (username : String) (s : Conn P K) :
    (exec (way.execute D S maxResultRows username) s).2 = way.leaves D S username s := by
  cases way with
  | answer result => rfl
  | query sql => exact exec_queryTypedSqlBlocking D sql maxResultRows s
  | write sql command =>
    simp only [Way.execute, Way.leaves, exec_bind]
    rcases exec (executeWrite D S username sql) s with ⟨_ | affectedRows, t⟩
    · rfl
    · rfl

/-- Only a query is run when it is described. -/
lemma exec_describe (way : Way C) (s : Conn P K) :
    (exec (way.describe D) s).2 = s ↔ ∀ sql, way = .query sql → (exec (D.query sql) s).2 = s := by
  cases way with
  | answer result => simp [Way.describe]
  | query sql =>
    have hdescribe : (exec (describeQuerySqlBlocking D sql) s).2 = (exec (D.query sql) s).2 := by
      rw [exec_describeQuerySqlBlocking]
      rcases exec (D.query sql) s with ⟨_ | opened, t⟩
      · rfl
      · rfl
    simp [Way.describe, hdescribe]
  | write sql command => simp [Way.describe]

end Ways

end Rsduck.Db
