import Rsduck.Mysql.Parameters
import Rsduck.Mysql.Prepare
import Rsduck.Mysql.Slices

/-!
The command loop of a connection.

Each packet of the client is one command. Its handler writes packets and changes the session, or
ends with an error, which ends the connection.
-/

namespace Rsduck.Mysql

open Lib.Text Lib.Wire Lib.Wire.Reader Db

/-! ### Packets -/

def serverStatusAutocommit : ℕ := 0x0002

def okPacketWithRows (affectedRows : ℕ) : List UInt8 :=
  0x00 :: putLenencInt affectedRows ++ putLenencInt 0 ++ leBytes 2 serverStatusAutocommit ++
    leBytes 2 0

def okPacket : List UInt8 := okPacketWithRows 0

def eofPacket : List UInt8 := 0xfe :: leBytes 2 0 ++ leBytes 2 serverStatusAutocommit

/-- The state is cut or filled up to five bytes. -/
def errPacket (code : ℕ) (state : String) (message : List Char) : List UInt8 :=
  let given := (utf8 state.toList).take 5
  0xff :: leBytes 2 code ++ 0x23 :: (given ++ (utf8 "HY000".toList).drop given.length) ++
    utf8 message

def resultsetHeader (columnCount : ℕ) : List UInt8 := putLenencInt columnCount

def paramColumnDefinition (idx : ℕ) : List UInt8 :=
  columnDefinition [] ⟨'?' :: Nat.toDigits 10 (idx + 1), .text⟩

/-- The numbers are written as `u16`. -/
def prepareOk (id columns params : ℕ) : List UInt8 :=
  0x00 :: leBytes 4 id ++ leBytes 2 columns ++ leBytes 2 params ++ 0x00 :: leBytes 2 0

/-! ### Answers without the database -/

variable {C : Crates}

def singleTextRow (C : Crates) (column : String) (value : List Char) : SqlTypedResult C :=
  .query [⟨column.toList, .text⟩] [[.text value]]

def mysqlSystemVariables : List (String × String) :=
  [("character_set_client", "utf8mb4"), ("character_set_connection", "utf8mb4"),
    ("character_set_database", "utf8mb4"), ("character_set_results", "utf8mb4"),
    ("character_set_server", "utf8mb4"), ("collation_connection", "utf8mb4_general_ci"),
    ("collation_database", "utf8mb4_general_ci"), ("collation_server", "utf8mb4_general_ci"),
    ("lower_case_file_system", "ON"), ("lower_case_table_names", "1"),
    ("max_allowed_packet", "16777216"), ("sql_mode", ""), ("system_time_zone", "UTC"),
    ("time_zone", "SYSTEM"), ("transaction_isolation", "READ-COMMITTED"),
    ("version", "8.0.34-rsduck"), ("version_comment", "rsduck MySQL protocol")]

/-- `%` stands for any text, `_` for one character, and a backslash takes the next as it is. -/
def mysqlLikeMatches : List Char → List Char → Bool
  | [], value => value.isEmpty
  | p :: ps, value =>
    if p = '%' then value.tails.any (mysqlLikeMatches ps)
    else
      match value with
      | [] => false
      | v :: vs =>
        if p = '_' then mysqlLikeMatches ps vs
        else
          match p, ps with
          | '\\', q :: qs => eqIgnoreAsciiCase [q] [v] && mysqlLikeMatches qs vs
          | p, ps => eqIgnoreAsciiCase [p] [v] && mysqlLikeMatches ps vs

def systemVariablesResult (C : Crates) (pattern : Option (List Char)) : SqlTypedResult C :=
  .query [⟨"Variable_name".toList, .text⟩, ⟨"Value".toList, .text⟩]
    ((mysqlSystemVariables.filter fun x =>
        pattern.all fun pattern => mysqlLikeMatches pattern x.1.toList).map fun x =>
      [.text x.1.toList, .text x.2.toList])

def showVariablesLikePattern (sql : List Char) : Option (List Char) :=
  let trimmed := bareStatement sql
  if startsWith "show variables like" (toAsciiLowercase trimmed) then
    parseSingleQuotedLiteral (trim (trimmed.drop "show variables like".length))
  else none

def isMysqlSessionStatement (sql : List Char) : Bool :=
  let normalized := toAsciiLowercase (bareStatement sql)
  startsWith "set " normalized || normalized == "begin".toList ||
    normalized == "commit".toList || normalized == "rollback".toList

def mysqlCompatResult (C : Crates) (sql : List Char) (session : MySqlSession) :
    Option (SqlTypedResult C) :=
  let normalized := toAsciiLowercase (bareStatement sql)
  match compatResult C sql with
  | some result => some result
  | none =>
    match showVariablesLikePattern sql with
    | some pattern => some (systemVariablesResult C (some pattern))
    | none =>
      if normalized = "show variables".toList then some (systemVariablesResult C none)
      else if normalized = "select database()".toList then
        some (singleTextRow C "DATABASE()" session.database)
      else if normalized = "select @@version_comment".toList then
        some (singleTextRow C "@@version_comment" "rsduck MySQL protocol".toList)
      else if normalized = "select version()".toList then
        some (singleTextRow C "version()" "8.0.34-rsduck".toList)
      else none

/-! ### The session and the database -/

/-- A prepared statement, and the parameter types it was last executed with. -/
structure OpenStatement where
  statement : PreparedStatement
  paramTypes : List UInt8

/-- What a connection keeps between its commands. -/
structure CommandSession extends MySqlSession where
  statements : ℕ → Option OpenStatement
  nextStatementId : ℕ

/-- The statement under the next id. -/
def CommandSession.openStatement (s : CommandSession) (statement : PreparedStatement) :
    CommandSession :=
  { s with
    statements := Function.update s.statements s.nextStatementId (some ⟨statement, []⟩)
    nextStatementId := max ((s.nextStatementId + 1) % 2 ^ 32) 1 }

def CommandSession.new (username : List Char) (database : Option (List Char)) :
    CommandSession where
  username
  database := database.getD "memory".toList
  statements _ := none
  nextStatementId := 1

/-- The columns and rows of a result are as the database gives them: at least one column, rows
of a cell for each, and texts no longer than memory. -/
def SqlTypedResult.Sound : SqlTypedResult C → Prop
  | .query columns rows =>
    columns ≠ [] ∧ columns.length < 2 ^ 64 ∧ (∀ c ∈ columns, (utf8 c.name).length < 2 ^ 64) ∧
      ∀ row ∈ rows, row.length = columns.length ∧
        ∀ v ∈ row, (utf8 (v.textValue.getD [])).length < 2 ^ 64
  | .execute _ affectedRows => affectedRows < 2 ^ 64

/-- The calls of the database while one command is handled, each with any outcome it can have. -/
structure DbCalls (C : Crates) where
  describe : (username sql : List Char) → List SqlParam → Except (List Char) (List SqlColumn)
  execute : (username sql : List Char) → Except (List Char) (SqlTypedResult C)
  executeWithParams : (username sql : List Char) → List SqlParam →
    Except (List Char) (SqlTypedResult C)
  describe_sound : ∀ {username sql params columns}, describe username sql params = .ok columns →
    ∀ c ∈ columns, (utf8 c.name).length < 2 ^ 64
  execute_sound : ∀ {username sql result}, execute username sql = .ok result → result.Sound
  executeWithParams_sound : ∀ {username sql params result},
    executeWithParams username sql params = .ok result → result.Sound

/-! ### Handlers -/

/-- How a handler leaves the loop. -/
inductive Failure
  | error (text : String)
  | panic

abbrev Handled := Except Failure (List (List UInt8) × CommandSession)

def comQuit : UInt8 := 0x01
def comInitDb : UInt8 := 0x02
def comQuery : UInt8 := 0x03
def comPing : UInt8 := 0x0e
def comStmtPrepare : UInt8 := 0x16
def comStmtExecute : UInt8 := 0x17
def comStmtSendLongData : UInt8 := 0x18
def comStmtClose : UInt8 := 0x19
def comStmtReset : UInt8 := 0x1a

/-- The payload as a text. -/
def decodeText (what : String) (payload : List UInt8) : Except Failure (List Char) :=
  match ofUtf8 payload with
  | some text => .ok text
  | none => .error (.error what)

/-- What a reader makes of the payload. -/
def readPayload {α : Type} (r : Reader α) (payload : List UInt8) :
    Except Failure (α × List UInt8) :=
  match r.run payload with
  | .ok x => .ok x
  | .error e => .error (.error e)

def sendResult (result : Except (List Char) (SqlTypedResult C)) (binary : Bool) :
    List (List UInt8) :=
  match result with
  | .ok (.query columns rows) =>
    resultsetHeader columns.length :: columns.map (columnDefinition "memory".toList) ++
      eofPacket :: rows.map (if binary then binaryRow else textRow) ++ [eofPacket]
  | .ok (.execute _ affectedRows) => [okPacketWithRows affectedRows]
  | .error e => [errPacket 1105 "HY000" e]

section Handlers

variable (T : MetadataTexts) (db : DbCalls C) (s : CommandSession)

/-- The text that is run, or the end of the connection. -/
def executionText (sql : List Char) : Except Failure (List Char) :=
  match slicedExecutionSql T sql s.toMySqlSession with
  | .ok text => .ok text
  | .error _ => .error .panic

def handleQuery (payload : List UInt8) : Handled := do
  let sql := trim (← decodeText "invalid COM_QUERY SQL UTF-8" payload)
  if isMysqlSessionStatement sql then return ([okPacket], s)
  match mysqlCompatResult C sql s.toMySqlSession with
  | some result => return (sendResult (.ok result) false, s)
  | none =>
    let text ← executionText T s sql
    return (sendResult (db.execute s.username text) false, s)

/-- The packets of a prepared statement. -/
def prepareReply (database : List Char) (id paramCount : ℕ) (columns : List SqlColumn) :
    List (List UInt8) :=
  prepareOk id columns.length paramCount :: (List.range paramCount).map paramColumnDefinition ++
    (if 0 < paramCount then [eofPacket] else []) ++ columns.map (columnDefinition database) ++
    (if columns.isEmpty then [] else [eofPacket])

def stmtPrepare (payload : List UInt8) : Handled := do
  let original := trim (← decodeText "invalid COM_STMT_PREPARE SQL UTF-8" payload)
  let (numbered, paramCount) := rewriteMysqlPlaceholders original
  let boundSql ← executionText T s numbered
  match db.describe s.username boundSql (dummyParamsForDescribe boundSql paramCount) with
  | .error e => throw (.error (String.ofList e))
  | .ok columns =>
    return (prepareReply s.database s.nextStatementId paramCount columns,
      s.openStatement { boundSql, paramCount, columns })

/-- Statement id, flags and iteration count. -/
def readExecuteHead : Reader ℕ := do
  let id ← getLe 4
  let _ ← takeByte
  let _ ← getLe 4
  return id

def stmtExecute (payload : List UInt8) : Handled := do
  let (id, payload) ← readPayload readExecuteHead payload
  match s.statements id with
  | none => throw (.error s!"unknown prepared statement id: {id}")
  | some entry =>
    let ((params, types), _) ←
      readPayload (parseExecuteParams entry.statement.paramCount entry.paramTypes) payload
    return (sendResult (db.executeWithParams s.username entry.statement.boundSql params) true,
      { s with
        statements := Function.update s.statements id (some { entry with paramTypes := types }) })

def stmtClose (payload : List UInt8) : Handled := do
  let (id, _) ← readPayload (getLe 4) payload
  return ([], { s with statements := Function.update s.statements id none })

def stmtReset (payload : List UInt8) : Handled := do
  let (id, _) ← readPayload (getLe 4) payload
  return ([okPacket],
    { s with
      statements := Function.update s.statements id
        ((s.statements id).map fun entry => { entry with paramTypes := [] }) })

def handleCommand (command : UInt8) (payload : List UInt8) : Handled :=
  if command = comPing then .ok ([okPacket], s)
  else if command = comInitDb then do
    let database ← decodeText "invalid database name" payload
    return ([okPacket], { s with database })
  else if command = comQuery then handleQuery T db s payload
  else if command = comStmtPrepare then stmtPrepare T db s payload
  else if command = comStmtExecute then stmtExecute db s payload
  else if command = comStmtClose then stmtClose s payload
  else if command = comStmtReset then stmtReset s payload
  else if command = comStmtSendLongData then
    .ok ([errPacket 1235 "0A000" "COM_STMT_SEND_LONG_DATA is not supported".toList], s)
  else
    .ok ([errPacket 1047 "08S01"
      ("unsupported MySQL command: ".toList ++ Nat.toDigits 10 command.toNat)], s)

/-- What the loop does with a packet: it ends, or writes a reply and goes on. -/
inductive Next
  | quit
  | leave (failure : Failure)
  | goOn (reply : List (List UInt8)) (s : CommandSession)

/-- One turn of the loop. A packet without a byte is passed over. -/
def commandStep : List UInt8 → Next
  | [] => .goOn [] s
  | command :: payload =>
    if command = comQuit then .quit
    else
      match handleCommand T db s command payload with
      | .ok (reply, s) => .goOn reply s
      | .error failure => .leave failure

end Handlers

end Rsduck.Mysql
