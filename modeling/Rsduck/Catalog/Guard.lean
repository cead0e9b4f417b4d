import Rsduck.Catalog.Auth.Authorize
import Rsduck.Catalog.Mutation.Parser

/-!
The guard of external statements: reserved schemas, and the rights a statement needs.

The relations a statement reads are found by scanning the text it is printed with.
-/

namespace Rsduck.Catalog

open Lib Lib.Text Sql

/-! ### Scanning a printed statement -/

def spaceTokens (c : Char) : List Char :=
  if c = ',' then [' '] else if c = '(' ∨ c = ')' then [' ', c, ' '] else [c]

def sqlTokens (sql : List Char) : List (List Char) :=
  ((words (sql.flatMap spaceTokens)).map fun token =>
    trim (trimMatches (· == ',') (trimMatches (· == ';') token))).filter (· != [])

def normalizeRelationIdentifier (part : List Char) : List Char :=
  undouble '"' (undouble '`' (trimMatches (fun c => c == '"' || c == '`') (trim part)))

/-- Words that end a list of relations or start something else. -/
def notRelations : List String :=
  ["duckdb_functions", "unnest", "select", "where", "on", "using", "values", "set", "returning",
    "if", "not", "exists"]

def relationFromToken (token : List Char) : Option RelationName :=
  let token := trim (trimMatches (· == ')') (trimMatches (· == '(')
    (trimMatches (· == ',') (trimMatches (· == ';') (trim token)))))
  if token = [] ∨ token.head? = some '$' then none
  else if String.ofList (toAsciiLowercase token) ∈ notRelations ∨ '(' ∈ token then none
  else
    match (token.splitOnP (· == '.')).map normalizeRelationIdentifier with
    | [relation] => if relation = [] then none else some ("main".toList, relation)
    | [schema, relation] => if schema = [] ∨ relation = [] then none else some (schema, relation)
    | _ => none

/-- The relation named by each word after `FROM` or `JOIN`. -/
def readRelationsOf : List (List Char) → List RelationName
  | token :: next :: tokens =>
    let lower := toAsciiLowercase token
    if lower = "from".toList ∨ lower = "join".toList then
      (relationFromToken next).toList ++ readRelationsOf (next :: tokens)
    else readRelationsOf (next :: tokens)
  | _ => []

def extractReadRelations (sql : List Char) : List RelationName := readRelationsOf (sqlTokens sql)

/-- The relation named by the word after the first `keyword`. -/
def extractRelationAfter (sql : List Char) (keyword : String) : Option RelationName :=
  match (sqlTokens sql).dropWhile fun token => !eqIgnoreAsciiCase token keyword.toList with
  | _ :: next :: _ => relationFromToken next
  | _ => none

def extractFirstRelationForDdl (sql : List Char) : Option RelationName :=
  extractRelationAfter sql "table" <|> extractRelationAfter sql "view" <|>
    extractRelationAfter sql "index" <|> extractRelationAfter sql "on"

/-! ### Reserved schemas -/

def isCatalogProjectionRead (normalizedSql : List Char) : Bool :=
  startsWith "select " normalizedSql || startsWith "with " normalizedSql

def reservedSchema (schema : String) : String :=
  "reserved schema is managed by rsduck: " ++ schema

def isReservedSchema (schema : List Char) : Bool :=
  ["pg_catalog", "information_schema", "rsduck_catalog", "rsduck_internal"].contains
    (String.ofList (toAsciiLowercase schema))

def rejectReservedSchema (schema : List Char) : Except String Unit :=
  if isReservedSchema schema then .error (reservedSchema (String.ofList schema)) else .ok ()

def guardExternalSql (sql : List Char) : Except String Unit :=
  let normalized := normalizeForGuard sql
  if contains "rsduck_catalog." normalized then .error (reservedSchema "rsduck_catalog")
  else if contains "rsduck_internal." normalized then .error (reservedSchema "rsduck_internal")
  else if contains "pg_catalog." normalized ∧ !isCatalogProjectionRead normalized then
    .error (reservedSchema "pg_catalog")
  else if contains "information_schema." normalized ∧ !isCatalogProjectionRead normalized then
    .error (reservedSchema "information_schema")
  else .ok ()

def isReservedDiagnosticRead (sql : List Char) : Bool :=
  let normalized := normalizeForGuard sql
  isCatalogProjectionRead normalized &&
    (contains "rsduck_catalog." normalized || contains "rsduck_internal." normalized)

def authorizeReservedDiagnostic (c : Catalog) (username : String) : Except String Unit := do
  let principal ← principalForUsername c username
  requireSystemAction c principal .manageCatalog

def unsupportedCatalogRelation (sql : List Char) (catalogSchema : String) : Option (List Char) :=
  ((extractReadRelations sql).find? fun r => eqIgnoreAsciiCase r.1 catalogSchema.toList).map (·.2)

def rejectUnhandledCatalogProjection (sql : List Char) : Except String Unit :=
  let normalized := normalizeForGuard sql
  match unsupportedCatalogRelation normalized "pg_catalog" with
  | some name => .error ("unsupported pg_catalog relation: " ++ String.ofList name)
  | none =>
    match unsupportedCatalogRelation normalized "information_schema" with
    | some name => .error ("unsupported information_schema relation: " ++ String.ofList name)
    | none =>
      if contains "pg_catalog." normalized then .error "unsupported pg_catalog query"
      else if contains "information_schema." normalized then
        .error "unsupported information_schema query"
      else .ok ()

/-! ### Management calls -/

def managementCalls : List String :=
  ["rsduck_run_partition_maintenance", "rsduck_mark_partition_unavailable",
    "rsduck_repair_partition"]

/-- The name of a management call. -/
def parseCatalogManagementCall (sql : List Char) : Option String :=
  match stripPrefix "call " (normalizeForGuard sql) with
  | none => none
  | some body =>
    if '(' ∈ body then
      let name := String.ofList (trim (body.takeWhile (· != '(')))
      if name ∈ managementCalls then some name else none
    else none

def looksLikeCatalogManagementCall (sql : List Char) : Bool :=
  (parseCatalogManagementCall sql).isSome

/-! ### Rights -/

def requireOn (c : Catalog) (p : SessionPrincipal) (r : RelationName) (action : PrivilegeAction) :
    Except String Unit :=
  requireRelationAction c p (String.ofList r.1) (String.ofList r.2) action

/-- The statement's target, as its text names it. -/
def requireTarget (c : Catalog) (p : SessionPrincipal) (statement : String)
    (target : Option RelationName) (action : PrivilegeAction) : Except String Unit :=
  match target with
  | some r => requireOn c p r action
  | none => .error ("cannot determine " ++ statement ++ " target relation")

/-- The name of a statement's kind in a refusal. -/
def guardCommand : Statement → String
  | .createTable _ _ | .createView _ _ | .createIndex _ _ => "CREATE"
  | .drop _ _ _ => "DROP"
  | .comment _ _ _ _ => "COMMENT"
  | .other kind _ =>
    match kind with
    | .createSchema | .createUser => "CREATE"
    | .alterTable | .alterSchema | .alterIndex | .alterView | .alterUser => "ALTER"
    | .grant => "GRANT"
    | .revoke => "REVOKE"
    | _ => "SQL"
  | _ => "SQL"

/-- `SHOW` statements need no right of their own. -/
def showKinds : List StatementKind :=
  [.showFunctions, .showVariable, .showStatus, .showVariables, .showCreate, .showColumns,
    .showCatalogs, .showDatabases, .showProcessList, .showSchemas, .showCharset, .showObjects,
    .showTables, .showViews, .showCollation]

def authorizeOther (p : SessionPrincipal) (statement : Statement) : Except String Unit :=
  if p.isAdmin then .ok ()
  else .error ("permission denied for statement type: " ++ guardCommand statement)

def authorizeKind (c : Catalog) (p : SessionPrincipal) (kind : StatementKind) (parts : List Part)
    (normalizedSql : List Char) : Except String Unit :=
  if kind = .explainTable then
    (extractReadRelations normalizedSql).forM fun r => requireOn c p r .read
  else if kind ∈ showKinds then .ok ()
  else if kind = .createSchema then requireSystemAction c p .manageCatalog
  else if kind ∈ [.createUser, .createRole, .alterUser, .grant, .revoke] then
    requireSystemAction c p .manageUser
  else if kind ∈ [.alterTable, .alterSchema, .alterIndex, .alterView] then
    match extractFirstRelationForDdl normalizedSql with
    | some r => requireOn c p r .ddl
    | none => requireSystemAction c p .manageCatalog
  else if kind ∈ [.set, .use] then .ok ()
  else if kind = .call ∧ looksLikeCatalogManagementCall normalizedSql then
    requireSystemAction c p .manageCatalog
  else authorizeOther p (.other kind parts)

def authorizeStatement (c : Catalog) (p : SessionPrincipal) (statement : Statement)
    (normalizedSql : List Char) : Except String Unit :=
  match statement with
  | .query _ | .explain _ _ _ _ =>
    (extractReadRelations normalizedSql).forM fun r => requireOn c p r .read
  | .insert _ _ => requireTarget c p "INSERT" (extractRelationAfter normalizedSql "into") .write
  | .update _ _ => requireTarget c p "UPDATE" (extractRelationAfter normalizedSql "update") .write
  | .delete _ _ => requireTarget c p "DELETE" (extractRelationAfter normalizedSql "from") .write
  | .copy isTo _ =>
    requireTarget c p "COPY" (extractRelationAfter normalizedSql "copy")
      (if isTo then .read else .write)
  | .createTable name _ | .createView name _ => do
    let (schema, _) ← relationName name
    requireSchemaAction c p (String.ofList schema) .ddl
  | .createIndex tableName _ => do requireOn c p (← relationName tableName) .ddl
  | .comment objectType objectName _ _ =>
    match objectType with
    | .schema => do
      requireSchemaAction c p (String.ofList (← singleNamePart objectName)) .ddl
    | .table | .view | .index | .column => do
      requireOn c p (← commentRelationName objectType objectName) .ddl
    | .other name => .error ("COMMENT ON " ++ String.ofList name ++ " is not supported")
  | .drop objectType _ _ =>
    if objectType = .user ∨ objectType = .role then requireSystemAction c p .manageUser
    else
      match extractFirstRelationForDdl normalizedSql with
      | some r => requireOn c p r .ddl
      | none => requireSystemAction c p .manageCatalog
  | .pragma _ _ => .ok ()
  | .other kind parts => authorizeKind c p kind parts normalizedSql
  | .merge _ _ | .startTransaction _ _ => authorizeOther p statement

def authorizeSql (P : SqlParser) (c : Catalog) (username : String) (sql : List Char) :
    Except String Unit := do
  let principal ← principalForUsername c username
  match ← parseManagedPartitionCreate sql with
  | some partitioned =>
    match ← parseOneStatement P partitioned.baseSql with
    | (.createTable name _, _) => do
      let (schema, _) ← relationName name
      requireSchemaAction c principal (String.ofList schema) .ddl
    | _ => .error "managed partitioned table base DDL must be CREATE TABLE"
  | none => do
    let (statement, normalizedSql) ← parseOneStatement P sql
    authorizeStatement c principal statement normalizedSql

/-! ### Rights of the other entry points -/

def authorizeCatalogProjection (c : Catalog) (username : String) : Except String Unit := do
  let _ ← principalForUsername c username

def authorizeUserMetadata (c : Catalog) (username : String) : Except String Unit := do
  requireSystemAction c (← principalForUsername c username) .manageUser

/-- The user's id. -/
def authorizeVectorIndexManagement (c : Catalog) (username : String) : Except String ℤ := do
  let principal ← principalForUsername c username
  requireSystemAction c principal .manageCatalog
  return principal.userId

def authorizeVectorSearch (c : Catalog) (username schema table : String) : Except String Unit := do
  requireRelationAction c (← principalForUsername c username) schema table .read

def authorizeVectorWrite (c : Catalog) (username schema table : String) : Except String Unit := do
  requireRelationAction c (← principalForUsername c username) schema table .write

end Rsduck.Catalog
