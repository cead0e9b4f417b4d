import Rsduck.Lib.Text

/-!
The MySQL `SHOW` and `DESCRIBE` statements, read from their text.

A reader takes the text from its position on and returns what it read with the rest.
-/

namespace Rsduck.Mysql

open Lib.Text

inductive ShowFilter
  | none
  | like (pattern : List Char)
  | where (expr : List Char)
  deriving DecidableEq

structure ShowTablesQuery where
  full : Bool
  schema : Option (List Char)
  filter : ShowFilter
  deriving DecidableEq

structure ShowColumnsQuery where
  full : Bool
  schema : Option (List Char)
  table : List Char
  filter : ShowFilter
  deriving DecidableEq

structure ShowTableDetailQuery where
  schema : Option (List Char)
  table : List Char
  deriving DecidableEq

structure ShowIndexQuery where
  schema : Option (List Char)
  table : List Char
  filter : ShowFilter
  deriving DecidableEq

/-! ### Words of a statement -/

def isMysqlIdentChar (c : Char) : Bool := c.isAlphanum || c == '_' || c == '$'

def skipMysqlSpace (s : List Char) : List Char := s.dropWhile isAsciiWhitespace

/-- The keyword, not followed by a letter of a longer word. -/
def consumeKeyword (keyword : String) (s : List Char) : Option (List Char) :=
  if eqIgnoreAsciiCase (s.take keyword.length) keyword.toList &&
      !(s.drop keyword.length).head?.any isMysqlIdentChar then
    some (s.drop keyword.length)
  else none

/-- The keyword and the white space after it. -/
def keyword (keyword : String) (s : List Char) : Option (List Char) :=
  (consumeKeyword keyword s).map skipMysqlSpace

/-- Through the closing backquote. The bytes of the name are read as characters. -/
def readBackquoted : List Char → Option (List Char × List Char)
  | [] => none
  | '`' :: '`' :: r => (readBackquoted r).map fun x => ('`' :: x.1, x.2)
  | '`' :: r => some ([], r)
  | c :: r => (readBackquoted r).map fun x =>
      ((String.utf8EncodeChar c).map (fun b => Char.ofNat b.toNat) ++ x.1, x.2)

def parseMysqlIdentifier (s : List Char) : Option (List Char × List Char) :=
  match s with
  | '`' :: r => readBackquoted r
  | _ =>
    let name := s.takeWhile isMysqlIdentChar
    if name = [] then none else some (name, s.dropWhile isMysqlIdentChar)

def parseMysqlQualifiedIdentifier (s : List Char) :
    Option (Option (List Char) × List Char × List Char) := do
  let (first, s) ← parseMysqlIdentifier s
  match skipMysqlSpace s with
  | '.' :: r =>
    let (second, r) ← parseMysqlIdentifier (skipMysqlSpace r)
    return (some first, second, r)
  | r => return (none, first, r)

/-- The text of a quoted literal that nothing but white space follows. -/
def readLiteral : List Char → Option (List Char)
  | [] => none
  | '\'' :: '\'' :: r => (readLiteral r).map ('\'' :: ·)
  | '\'' :: r => if trim r = [] then some [] else none
  | c :: r => (readLiteral r).map (c :: ·)

def parseSingleQuotedLiteral : List Char → Option (List Char)
  | '\'' :: r => readLiteral r
  | _ => none

def parseOptionalSchemaClause (s : List Char) : Option (Option (List Char) × List Char) :=
  match consumeKeyword "from" s <|> consumeKeyword "in" s with
  | some r => do
    let (schema, r) ← parseMysqlIdentifier (skipMysqlSpace r)
    return (some schema, skipMysqlSpace r)
  | none => some (none, s)

def parseShowFilter (s : List Char) : Option ShowFilter :=
  let s := skipMysqlSpace s
  if s = [] then some .none
  else
    match consumeKeyword "like" s with
    | some r => (parseSingleQuotedLiteral (skipMysqlSpace r)).map .like
    | none =>
      match consumeKeyword "where" s with
      | some r => if trim r = [] then none else some (.where (trim r))
      | none => none

/-! ### Statements -/

/-- Without a semicolon and white space at the ends. -/
def bareStatement (sql : List Char) : List Char := trim (trimEndMatches ';' (trim sql))

/-- An optional keyword: whether it was there, and the rest. -/
def optionalKeyword (kw : String) (s : List Char) : Bool × List Char :=
  match keyword kw s with
  | some r => (true, r)
  | none => (false, s)

def parseShowTablesQuery (sql : List Char) : Option ShowTablesQuery := do
  let s ← keyword "show" (bareStatement sql)
  let (full, s) := optionalKeyword "full" s
  let s ← keyword "tables" s
  let (schema, s) ← parseOptionalSchemaClause s
  return { full, schema, filter := ← parseShowFilter s }

def parseShowTableStatusQuery (sql : List Char) : Option ShowTablesQuery := do
  let s ← keyword "show" (bareStatement sql)
  let (_, s) := optionalKeyword "extended" s
  let s ← keyword "table" s
  let s ← keyword "status" s
  let (schema, s) ← parseOptionalSchemaClause s
  return { full := false, schema, filter := ← parseShowFilter s }

def parseShowTableDetailQuery (sql : List Char) : Option ShowTableDetailQuery := do
  let s ← keyword "show" (bareStatement sql)
  let s ← keyword "table" s
  let (schema, table, s) ← parseMysqlQualifiedIdentifier s
  if skipMysqlSpace s = [] then return { schema, table } else none

/-- The table of a `SHOW … FROM`, its schema given before the name or after it. -/
def parseShowSource (s : List Char) : Option (Option (List Char) × List Char × List Char) := do
  let s ← keyword "from" s <|> keyword "in" s
  let (schema, table, s) ← parseMysqlQualifiedIdentifier s
  let s := skipMysqlSpace s
  match schema with
  | some _ => return (schema, table, s)
  | none =>
    let (schema, s) ← parseOptionalSchemaClause s
    return (schema, table, s)

def parseShowColumnsQuery (sql : List Char) : Option ShowColumnsQuery :=
  let s := bareStatement sql
  match keyword "describe" s <|> keyword "desc" s with
  | some s => do
    let (schema, table, s) ← parseMysqlQualifiedIdentifier s
    return { full := false, schema, table, filter := ← parseShowFilter s }
  | none => do
    let s ← keyword "show" s
    let (_, s) := optionalKeyword "extended" s
    let (full, s) := optionalKeyword "full" s
    let s ← keyword "columns" s <|> keyword "fields" s
    let (schema, table, s) ← parseShowSource s
    return { full, schema, table, filter := ← parseShowFilter s }

def parseShowIndexQuery (sql : List Char) : Option ShowIndexQuery := do
  let s ← keyword "show" (bareStatement sql)
  let s ← keyword "index" s <|> keyword "indexes" s <|> keyword "keys" s
  let (schema, table, s) ← parseShowSource s
  return { schema, table, filter := ← parseShowFilter s }

def isShowTableDetail (sql : List Char) : Bool :=
  (parseShowTableStatusQuery sql).isNone && (parseShowTableDetailQuery sql).isSome

/-- `SHOW TABLE STATUS` is a statement of its own. -/
example : isShowTableDetail "SHOW TABLE main.t;".toList = true ∧
    isShowTableDetail "SHOW TABLE STATUS".toList = false := by decide

end Rsduck.Mysql
