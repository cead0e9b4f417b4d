import Rsduck.Db.Params
import Rsduck.Mysql.Compat

/-!
What the MySQL protocol does with the text of a statement: placeholders, `LIMIT a, b`,
backquoted names, and the values a description is made with.
-/

namespace Rsduck.Mysql

open Lib.Text Db

/-! ### Placeholders -/

inductive ScanState
  | normal | singleQuote | doubleQuote | lineComment | blockComment
  deriving DecidableEq

/-- Text before the rest of an output. -/
def push (text : List Char) (out : List Char × ℕ) : List Char × ℕ := (text ++ out.1, out.2)

/-- `count` placeholders have been numbered so far. -/
def rewritePlaceholdersFrom (state : ScanState) (count : ℕ) (s : List Char) : List Char × ℕ :=
  match state, s with
  | _, [] => ([], count)
  | .normal, '-' :: '-' :: r => push "--".toList (rewritePlaceholdersFrom .lineComment count r)
  | .normal, '/' :: '*' :: r => push "/*".toList (rewritePlaceholdersFrom .blockComment count r)
  | .normal, c :: r =>
    if c = '?' then
      push ('$' :: Nat.toDigits 10 (count + 1)) (rewritePlaceholdersFrom .normal (count + 1) r)
    else
      let next := if c = '\'' then .singleQuote else if c = '"' then .doubleQuote else .normal
      push [c] (rewritePlaceholdersFrom next count r)
  | .singleQuote, '\'' :: '\'' :: r =>
    push "''".toList (rewritePlaceholdersFrom .singleQuote count r)
  | .singleQuote, c :: r =>
    push [c] (rewritePlaceholdersFrom (if c = '\'' then .normal else .singleQuote) count r)
  | .doubleQuote, '"' :: '"' :: r =>
    push "\"\"".toList (rewritePlaceholdersFrom .doubleQuote count r)
  | .doubleQuote, c :: r =>
    push [c] (rewritePlaceholdersFrom (if c = '"' then .normal else .doubleQuote) count r)
  | .lineComment, c :: r =>
    push [c] (rewritePlaceholdersFrom (if c = '\n' then .normal else .lineComment) count r)
  | .blockComment, '*' :: '/' :: r => push "*/".toList (rewritePlaceholdersFrom .normal count r)
  | .blockComment, c :: r => push [c] (rewritePlaceholdersFrom .blockComment count r)

/-- The text with `$1`, `$2`, … for its question marks, and their number. -/
def rewriteMysqlPlaceholders (sql : List Char) : List Char × ℕ :=
  rewritePlaceholdersFrom .normal 0 sql

/-! ### Passing over quotes and comments -/

/-- Through the closing quote, or to the end: what was passed, and the rest. -/
def skipSqlQuoted (quote : Char) (backslashEscape : Bool) : List Char → List Char × List Char
  | [] => ([], [])
  | [c] => ([c], [])
  | c :: d :: r =>
    if backslashEscape ∧ c = '\\' ∨ c = quote ∧ d = quote then
      (skipSqlQuoted quote backslashEscape r).map (c :: d :: ·) id
    else if c = quote then ([c], d :: r)
    else (skipSqlQuoted quote backslashEscape (d :: r)).map (c :: ·) id

/-- Through the end of the line. -/
def skipLineComment (s : List Char) : List Char × List Char :=
  (s.takeWhile (· != '\n') ++ (s.dropWhile (· != '\n')).take 1, (s.dropWhile (· != '\n')).tail)

/-- Through the end of the comment. -/
def skipBlockComment : List Char → List Char × List Char
  | '*' :: '/' :: r => ("*/".toList, r)
  | [] => ([], [])
  | c :: r => (skipBlockComment r).map (c :: ·) id

/-- The quoted text or comment the text starts with, and the rest. -/
def skipOpaque : List Char → Option (List Char × List Char)
  | '\'' :: r => some ((skipSqlQuoted '\'' true r).map ('\'' :: ·) id)
  | '"' :: r => some ((skipSqlQuoted '"' false r).map ('"' :: ·) id)
  | '`' :: r => some ((skipSqlQuoted '`' false r).map ('`' :: ·) id)
  | '-' :: '-' :: r => some ((skipLineComment r).map ("--".toList ++ ·) id)
  | '#' :: r => some ((skipLineComment r).map ('#' :: ·) id)
  | '/' :: '*' :: r => some ((skipBlockComment r).map ("/*".toList ++ ·) id)
  | _ => none

/-! ### `LIMIT offset, count` -/

/-- The keyword where no word ends right before it. -/
def consumeWord (keyword : String) (prev : Option Char) (s : List Char) : Option (List Char) :=
  if prev.any isMysqlIdentChar then none else consumeKeyword keyword s

def depthAfter (depth : ℕ) (c : Char) : ℕ :=
  if c = '(' then depth + 1 else if c = ')' then depth - 1 else depth

/-- Up to the comma outside parentheses, and what follows it. -/
def findLimitComma : ℕ → ℕ → List Char → Option (List Char × List Char)
  | 0, _, _ | _, _, [] => none
  | fuel + 1, depth, c :: r =>
    match skipOpaque (c :: r) with
    | some (passed, rest) => (findLimitComma fuel depth rest).map fun x => (passed ++ x.1, x.2)
    | none =>
      if c = ',' ∧ depth = 0 then some ([], r)
      else if c = ';' ∧ depth = 0 then none
      else (findLimitComma fuel (depthAfter depth c) r).map fun x => (c :: x.1, x.2)

def limitTailKeywords : List String :=
  ["for", "lock", "procedure", "into", "union", "except", "intersect"]

/-- A comment that ends the count. -/
def startsComment : List Char → Bool
  | '-' :: '-' :: _ | '#' :: _ | '/' :: '*' :: _ => true
  | _ => false

/-- Up to the end of the count, and the rest. -/
def findLimitCountEnd : ℕ → ℕ → List Char → List Char × List Char
  | 0, _, s => ([], s)
  | _, _, [] => ([], [])
  | fuel + 1, depth, c :: r =>
    if startsComment (c :: r) ∧ depth = 0 then ([], c :: r)
    else
      match skipOpaque (c :: r) with
      | some (passed, rest) => (findLimitCountEnd fuel depth rest).map (passed ++ ·) id
      | none =>
        if c = ';' ∧ depth = 0 then ([], c :: r)
        else if isAsciiWhitespace c ∧ depth = 0 then
          let rest := skipMysqlSpace (c :: r)
          if limitTailKeywords.any fun kw => (consumeKeyword kw rest).isSome then ([], c :: r)
          else
            (findLimitCountEnd fuel depth rest).map
              ((c :: r).takeWhile isAsciiWhitespace ++ ·) id
        else (findLimitCountEnd fuel (depthAfter depth c) r).map (c :: ·) id

def trimAsciiSpaceEnd (s : List Char) : List Char := s.rdropWhile isAsciiWhitespace

/-- The terms after `LIMIT`, and the text from the end of the count on. -/
def parseMysqlLimitCommaTerms (s : List Char) : Option (List Char × List Char × List Char) := do
  let (offset, afterComma) ← findLimitComma s.length 0 (skipMysqlSpace s)
  let (count, rest) := findLimitCountEnd afterComma.length 0 (skipMysqlSpace afterComma)
  if trimAsciiSpaceEnd offset = [] ∨ trimAsciiSpaceEnd count = [] then none
  else
    return (trimAsciiSpaceEnd offset, trimAsciiSpaceEnd count,
      count.drop (trimAsciiSpaceEnd count).length ++ rest)

/-- The rewritten text and whether anything was; `prev` is the character before the text. -/
def rewriteLimitFrom : ℕ → Option Char → List Char → List Char × Bool
  | 0, _, s => (s, false)
  | _, _, [] => ([], false)
  | fuel + 1, prev, c :: r =>
    match skipOpaque (c :: r) with
    | some (passed, rest) => (rewriteLimitFrom fuel passed.getLast? rest).map (passed ++ ·) id
    | none =>
      match (consumeWord "limit" prev (c :: r)).bind parseMysqlLimitCommaTerms with
      | some (offset, count, rest) =>
        ("LIMIT ".toList ++ trim count ++ " OFFSET ".toList ++ trim offset ++
          (rewriteLimitFrom fuel count.getLast? rest).1, true)
      | none => (rewriteLimitFrom fuel (some c) r).map (c :: ·) id

def rewriteMysqlLimitOffsetComma (sql : List Char) : Option (List Char) :=
  match rewriteLimitFrom sql.length none sql with
  | (out, true) => some out
  | _ => none

/-! ### Backquoted names -/

/-- Inside the given quote, or outside any; a name that is not closed gives nothing. -/
def rewriteQuotedFrom : Option Char → List Char → Option (List Char)
  | some '`', [] => none
  | _, [] => some []
  | some '`', '`' :: '`' :: r => (rewriteQuotedFrom (some '`') r).map ('`' :: ·)
  | some '`', c :: r =>
    if c = '`' then (rewriteQuotedFrom none r).map ('"' :: ·)
    else (rewriteQuotedFrom (some '`') r).map (c :: ·)
  | none, c :: r =>
    if c = '`' then (rewriteQuotedFrom (some '`') r).map ('"' :: ·)
    else (rewriteQuotedFrom (if c = '\'' ∨ c = '"' then some c else none) r).map (c :: ·)
  | some _, [c] => some [c]
  | some quote, c :: d :: r =>
    if c = quote ∧ d = quote then (rewriteQuotedFrom (some quote) r).map (c :: d :: ·)
    else (rewriteQuotedFrom (if c = quote then none else some quote) (d :: r)).map (c :: ·)

def rewriteMysqlQuotedIdentifiers (sql : List Char) : List Char :=
  (rewriteQuotedFrom none sql).getD sql

/-! ### The text that is run -/

/-- What a connection's session keeps for its statements. -/
structure MySqlSession where
  username : List Char
  database : List Char

def currentMysqlSchema (session : MySqlSession) : List Char :=
  if session.database = [] ∨ eqIgnoreAsciiCase session.database "memory".toList then "main".toList
  else session.database

def mysqlCatalogQuerySql (T : MetadataTexts) (sql : List Char) (session : MySqlSession) :
    Option (List Char) :=
  rewriteSql T sql (currentMysqlSchema session) session.username

def mysqlExecutionSql (T : MetadataTexts) (sql : List Char) (session : MySqlSession) :
    List Char :=
  rewriteMysqlQuotedIdentifiers
    ((mysqlCatalogQuerySql T sql session <|> rewriteMysqlLimitOffsetComma sql).getD sql)

/-! ### Values for a description -/

def isTypeNameChar (c : Char) : Bool := c.isAlphanum || c == '_'

/-- What follows the first place where the text has the needle. -/
def afterFirst (needle : List Char) : List Char → Option (List Char)
  | [] => none
  | c :: r =>
    if needle.isPrefixOf (c :: r) then some ((c :: r).drop needle.length)
    else afterFirst needle r

/-- The type a placeholder is cast to, as the text has it. -/
def castTypeAfterPlaceholder (sql : List Char) (paramNumber : ℕ) : Option (List Char) := do
  let rest ← afterFirst ('$' :: Nat.toDigits 10 paramNumber) sql
  let rest ← stripPrefix "::" (skipMysqlSpace rest)
  let name := (skipMysqlSpace rest).takeWhile isTypeNameChar
  if name = [] then none else return name

def dummyParam (typeName : String) : SqlParam :=
  if typeName ∈ ["bool", "boolean"] then .bool false
  else if typeName ∈ ["tinyint", "smallint", "int2", "int4", "int8", "integer", "int", "bigint"]
    then .integer 0
  else if typeName ∈ ["float", "real", "double", "float4", "float8", "numeric", "decimal"] then
    .float 0
  else if typeName ∈ ["blob", "bytea"] then .bytes []
  else if typeName = "date" then .text "1970-01-01".toList
  else if typeName = "time" then .text "00:00:00".toList
  else if typeName ∈ ["timestamp", "datetime", "timestamptz"] then
    .text "1970-01-01 00:00:00".toList
  else if typeName = "uuid" then .text "00000000-0000-0000-0000-000000000000".toList
  else .text []

def dummyParamsForDescribe (sql : List Char) (paramCount : ℕ) : List SqlParam :=
  (List.range paramCount).map fun i =>
    dummyParam (String.ofList ((castTypeAfterPlaceholder sql (i + 1)).getD []))

/-- A `LIMIT` with a comma, and a backquoted name. -/
example : rewriteMysqlLimitOffsetComma "SELECT 1 LIMIT 2, 3 FOR UPDATE".toList =
      some "SELECT 1 LIMIT 3 OFFSET 2 FOR UPDATE".toList ∧
    rewriteMysqlQuotedIdentifiers "SELECT `a``b`".toList = "SELECT \"a`b\"".toList ∧
    rewriteMysqlPlaceholders "SELECT ?, '?', ?::int".toList =
      ("SELECT $1, '?', $2::int".toList, 2) := by decide

end Rsduck.Mysql
