import Rsduck.Catalog.Mutation.Executor
import Rsduck.Catalog.Partition.Show
import Rsduck.Db.Params

/-!
Running and describing one statement on a worker's connection.

The text goes through the compatibility answers, the metadata rewrites and the diagnostic
reads first; what is left passes the guard and the authorization, and is then a query or a
write.
-/

namespace Rsduck.Db

open Lib Lib.Eff Lib.Text Catalog Mysql

structure Conn (P K : Type) where
  session : Session (Db P)
  settings : K

structure Opened (C : Crates) where
  columns : List SqlColumn
  rows : List (List (ValueRef C))
  failure : Option String := none

/-- DuckDB, as the service uses it. -/
structure DuckDb (C : Crates) (P K : Type) where
  /-- Preparing a text and opening its query; the statement has run by then. -/
  query : List Char → Eff (Conn P K) (Opened C)
  /-- Running a text; the rows it affected. -/
  execute : List Char → Eff (Conn P K) ℕ
  /-- Why a commit is refused. -/
  refuse : Db P → Option String
  /-- The one text that a query of the service's own gives. -/
  readText : List Char → Db P → Except String String
  /-- The three times of a partition, which the catalog's rows leave out. -/
  partitionTimes : PartitionRow → List (SqlValue C)

def onSession {P K α : Type} (m : Eff (Session (Db P)) α) : Eff (Conn P K) α := fun s =>
  match exec m s.session with
  | (r, t) => (r, { s with session := t })

lemma exec_onSession {P K α : Type} (m : Eff (Session (Db P)) α) (s : Conn P K) :
    exec (onSession m) s = ((exec m s.session).1, { s with session := (exec m s.session).2 }) :=
  rfl

section Execute

variable {C : Crates} {P K : Type} (D : DuckDb C P K)

/-! ### Queries -/

def readRow (columns : List SqlColumn) (row : List (ValueRef C)) : List (SqlValue C) :=
  (row.zip columns).map fun x => valueRefToSqlValue x.1 x.2.dataType

def queryTypedSqlBlocking (sql : List Char) (maxResultRows : ℕ) :
    Eff (Conn P K) (SqlTypedResult C) := do
  let opened ← D.query sql
  if maxResultRows < opened.rows.length then
    throw ("result row limit exceeded: " ++ toString maxResultRows)
  else
    match opened.failure with
    | some e => throw e
    | none => return .query opened.columns (opened.rows.map (readRow opened.columns))

def describeQuerySqlBlocking (sql : List Char) : Eff (Conn P K) (List SqlColumn) := do
  return (← D.query sql).columns

/-! ### The way of a statement -/

/-- What the service knows beside the engine: the metadata texts, the query that compares the
catalog with the engine for a user, the parser and the catalog's mutations. -/
structure Service (P : Type) where
  texts : MetadataTexts
  inconsistency : List Char → List Char
  parser : SqlParser
  mutations : Mutations P

variable (S : Service P) (username : String)

def validateMetadataProjection (d : Db P) : Except String Unit :=
  match D.readText (S.inconsistency username.toList) d with
  | .error e => .error ("validate metadata projection failed: " ++ e)
  | .ok message =>
    if message = "" then .ok () else .error ("metadata projection inconsistent: " ++ message)

/-- What a text is taken for before the guard looks at it. -/
inductive Shortcut (C : Crates)
  | answer (result : SqlTypedResult C)
  | query (sql : List Char)

def shortcut (d : Db P) (sql : List Char) : Except String (Option (Shortcut C)) :=
  match compatResult C sql with
  | some result => .ok (some (.answer result))
  | none => do
    match ← showPartitionsResult D.partitionTimes d.cat username sql with
    | some result => return some (.answer result)
    | none =>
      match rewriteSql S.texts sql "main".toList username.toList with
      | some rewritten => do
        if isMysqlSystemProjection sql then authorizeUserMetadata d.cat username
        else authorizeCatalogProjection d.cat username
        validateMetadataProjection D S username d
        return some (.query rewritten)
      | none =>
        if isReservedDiagnosticRead sql then do
          authorizeReservedDiagnostic d.cat username
          return some (.query sql)
        else return none

def passGuard (c : Catalog) (sql : List Char) : Except String Unit := do
  guardExternalSql sql
  rejectUnhandledCatalogProjection sql
  authorizeSql S.parser c username sql

def executeWrite (sql : List Char) : Eff (Conn P K) ℕ := do
  match ← onSession (executeCatalogAwareWriteAs S.mutations S.parser D.refuse username sql) with
  | some affectedRows => return affectedRows
  | none => D.execute sql

def executeAdmitted (sql : List Char) (route : SqlRoute) (command : String)
    (maxResultRows : ℕ) : Eff (Conn P K) (SqlTypedResult C) :=
  match route with
  | .read => queryTypedSqlBlocking D sql maxResultRows
  | .write => do return .execute command (← executeWrite D S username sql)

def executeTypedSqlBlocking (sql : List Char) (route : SqlRoute) (command : String)
    (maxResultRows : ℕ) : Eff (Conn P K) (SqlTypedResult C) := do
  let sql := trim sql
  if sql = [] then throw "empty sql"
  else
    let d := (← get).session.now
    match ← fromExcept (shortcut D S username d sql) with
    | some (.answer result) => return result
    | some (.query query) => queryTypedSqlBlocking D query maxResultRows
    | none =>
      fromExcept (passGuard S username d.cat sql)
      executeAdmitted D S username sql route command maxResultRows

def describeSqlBlocking (sql : List Char) (route : SqlRoute) :
    Eff (Conn P K) (List SqlColumn) := do
  let sql := trim sql
  if sql = [] then throw "empty sql"
  else
    let d := (← get).session.now
    match ← fromExcept (shortcut D S username d sql) with
    | some (.answer result) => return result.columns
    | some (.query query) => describeQuerySqlBlocking D query
    | none =>
      fromExcept (passGuard S username d.cat sql)
      match route with
      | .read => describeQuerySqlBlocking D sql
      | .write => return []

/-! ### Requests -/

def routeRequest (Q : SqlParser) (sql : List Char) (params : List SqlParam) :
    Except String (List Char × SqlRouteDecision) :=
  let sql := trim sql
  if sql = [] then .error "empty sql"
  else do
    let bound ← bindSqlParams sql params
    return (bound, ← routeSql Q bound)

/-- Run on the connection of the worker the statement is routed to. -/
def executeTypedSqlWithParamsAs (sql : List Char) (params : List SqlParam) (maxResultRows : ℕ) :
    Eff (Conn P K) (SqlTypedResult C) := do
  let (bound, decision) ← fromExcept (routeRequest S.parser sql params)
  executeTypedSqlBlocking D S username bound decision.route decision.command maxResultRows

def describeSqlWithParamsAs (sql : List Char) (params : List SqlParam) :
    Eff (Conn P K) (List SqlColumn) := do
  let (bound, decision) ← fromExcept (routeRequest S.parser sql params)
  describeSqlBlocking D S username bound decision.route

end Execute

end Rsduck.Db
