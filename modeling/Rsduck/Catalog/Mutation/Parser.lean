import Mathlib.Algebra.Group.Int.Defs
import Mathlib.Algebra.Group.Nat.Defs
import Mathlib.Data.Int.Notation
import Rsduck.Sql.Names
import Rsduck.Sql.Text
import Rsduck.SqlRoute

/-!
Statements the catalog reads from their text: managed partitioned tables, `COMMENT ON` and
`DROP ROLE … CASCADE`. Everything else is left to the parser.
-/

namespace Rsduck.Catalog

open Lib.Text Sql

/-! ### Pieces of a text -/

def skipAsciiWs (s : List Char) : List Char := s.dropWhile isAsciiWhitespace

/-- Through the parenthesis that closes the text's depth, outside quotes: the inside and the
rest. -/
def readSegment : QuoteState → ℤ → List Char → Option (List Char × List Char)
  | _, _, [] => none
  | .single, depth, '\'' :: '\'' :: r =>
    (readSegment .single depth r).map fun x => ('\'' :: '\'' :: x.1, x.2)
  | .single, depth, c :: r =>
    (readSegment (if c = '\'' then .none else .single) depth r).map fun x => (c :: x.1, x.2)
  | .double, depth, '"' :: '"' :: r =>
    (readSegment .double depth r).map fun x => ('"' :: '"' :: x.1, x.2)
  | .double, depth, c :: r =>
    (readSegment (if c = '"' then .none else .double) depth r).map fun x => (c :: x.1, x.2)
  | .none, depth, c :: r =>
    if c = ')' then
      if depth - 1 = 0 then some ([], r)
      else (readSegment .none (depth - 1) r).map fun x => (c :: x.1, x.2)
    else
      let quotes := if c = '\'' then QuoteState.single else if c = '"' then .double else .none
      let depth := if c = '(' then depth + 1 else depth
      (readSegment quotes depth r).map fun x => (c :: x.1, x.2)

def parseParenthesizedSegment : List Char → Except String (List Char × List Char)
  | '(' :: r =>
    match readSegment .none 1 r with
    | some x => .ok x
    | none => .error "unclosed parenthesized segment"
  | _ => .error "expected '('"

/-- The text up to the first `target` outside quotes and parentheses, and what follows it. -/
def breakTopLevel (target : Char) :
    QuoteState → ℤ → List Char → List Char × Option (List Char)
  | _, _, [] => ([], none)
  | .single, depth, '\'' :: '\'' :: r =>
    let x := breakTopLevel target .single depth r
    ('\'' :: '\'' :: x.1, x.2)
  | .single, depth, c :: r =>
    let x := breakTopLevel target (if c = '\'' then .none else .single) depth r
    (c :: x.1, x.2)
  | .double, depth, '"' :: '"' :: r =>
    let x := breakTopLevel target .double depth r
    ('"' :: '"' :: x.1, x.2)
  | .double, depth, c :: r =>
    let x := breakTopLevel target (if c = '"' then .none else .double) depth r
    (c :: x.1, x.2)
  | .none, depth, c :: r =>
    if c = target ∧ depth = 0 then ([], some r)
    else
      let quotes := if c = '\'' then QuoteState.single else if c = '"' then .double else .none
      let depth := if c = '(' then depth + 1 else if c = ')' then depth - 1 else depth
      let x := breakTopLevel target quotes depth r
      (c :: x.1, x.2)

/-- The pieces between delimiters, at most as many as the text has characters. -/
def splitTopLevelFrom (delimiter : Char) : ℕ → List Char → List (List Char)
  | 0, s => [trim s]
  | fuel + 1, s =>
    match breakTopLevel delimiter .none 0 s with
    | (part, none) => [trim part]
    | (part, some r) => trim part :: splitTopLevelFrom delimiter fuel r

def splitTopLevel (delimiter : Char) (s : List Char) : List (List Char) :=
  (splitTopLevelFrom delimiter s.length s).filter (· != [])

def splitKeyValue (s : List Char) : Option (List Char × List Char) :=
  match breakTopLevel '=' .none 0 s with
  | (key, some value) => some (key, value)
  | (_, none) => none

/-- Doubled quotes become single. -/
def undouble (quote : Char) : List Char → List Char
  | [] => []
  | [c] => [c]
  | c :: d :: r => if c = quote ∧ d = quote then quote :: undouble quote r
    else c :: undouble quote (d :: r)

/-- The inside of a text between two quotes. -/
def quoted? (quote : Char) (s : List Char) : Option (List Char) :=
  if s.head? = some quote ∧ s.getLast? = some quote ∧ 2 ≤ s.length then
    some (undouble quote s.tail.dropLast)
  else none

def parseSimpleIdentifierText (value : List Char) : Except String (List Char) :=
  let value := trim value
  if value = [] then .error "empty identifier"
  else
    match quoted? '"' value with
    | some name => .ok name
    | none =>
      if value.all isIdentByte then .ok value
      else .error ("expected a single identifier, got: " ++ String.ofList value)

def parseOptionValue (value : List Char) : Except String (List Char) :=
  match quoted? '\'' (trim value) with
  | some v => .ok v
  | none => parseSimpleIdentifierText (trim value)

/-- A decimal number with an optional sign, of 32 bits. -/
def parseI32 (s : List Char) : Option ℤ :=
  let (sign, ds) : ℤ × List Char :=
    match s with
    | '-' :: r => (-1, r)
    | '+' :: r => (1, r)
    | _ => (1, s)
  if ds = [] ∨ !ds.all Char.isDigit then none
  else
    let n : ℤ := sign * (ds.foldl (fun n d => 10 * n + (d.toNat - '0'.toNat)) 0 : ℕ)
    if -2 ^ 31 ≤ n ∧ n < 2 ^ 31 then some n else none

/-! ### Managed partitioned tables -/

structure ManagedPartitionCreate where
  baseSql : List Char
  partitionKey : List Char
  partitionUnit : List Char
  retentionCount : ℤ
  deriving DecidableEq

/-- The options so far: the unit and the retention. -/
abbrev PartitionOptions := Option (List Char) × Option (List Char)

def addPartitionOption (options : PartitionOptions) (option : List Char) :
    Except String PartitionOptions :=
  match splitKeyValue option with
  | none => .error ("invalid managed partition option: " ++ String.ofList option)
  | some (key, value) => do
    let key := toAsciiLowercase (← parseSimpleIdentifierText key)
    let value ← parseOptionValue value
    if key = "partition_unit".toList then
      if options.1.isSome then .error "duplicate partition_unit option"
      else .ok (some value, options.2)
    else if key = "retention".toList then
      if options.2.isSome then .error "duplicate retention option"
      else .ok (options.1, some value)
    else .error ("unsupported managed partition option: " ++ String.ofList key)

def parsePartitionOptions (optionsText : List Char) : Except String (List Char × ℤ) := do
  let options ← (splitTopLevel ',' optionsText).foldlM addPartitionOption (none, none)
  match options.1 with
  | none => .error "managed partitioned table requires partition_unit"
  | some unit =>
    if unit ∉ ["hour".toList, "day".toList, "month".toList, "year".toList] then
      .error ("partition_unit must be one of hour, day, month, year: " ++ String.ofList unit)
    else
      match options.2 with
      | none => .error "managed partitioned table requires retention"
      | some retention =>
        match parseI32 retention with
        | none => .error ("retention must be a positive integer: " ++ String.ofList retention)
        | some n =>
          if n ≤ 0 then .error ("retention must be a positive integer: " ++ String.ofList retention)
          else .ok (unit, n)

def parseManagedPartitionCreate (sql : List Char) :
    Except String (Option ManagedPartitionCreate) :=
  if !looksLikeManagedPartitionCreate sql then .ok none
  else
    match findKeywordPhrase "partition by range" sql with
    | none => .error "PARTITION BY RANGE clause is required"
    | some idx => do
      let r := skipAsciiWs (sql.drop (idx + "partition by range".length))
      if r.head? ≠ some '(' then
        .error "PARTITION BY RANGE requires a single parenthesized column"
      else
        let (keyText, afterKey) ← parseParenthesizedSegment r
        let partitionKey ← parseSimpleIdentifierText keyText
        match findKeywordPhraseFrom "with".toList .none (some ')') afterKey with
        | none => .error "managed partitioned table requires WITH options"
        | some withIdx =>
          let r := skipAsciiWs (afterKey.drop (withIdx + "with".length))
          if r.head? ≠ some '(' then
            .error "managed partitioned table WITH options must be parenthesized"
          else
            let (optionsText, trailing) ← parseParenthesizedSegment r
            let trailing := trim trailing
            if trailing ≠ [] ∧ trailing ≠ [';'] then
              .error ("unexpected text after managed partition options: " ++ String.ofList trailing)
            else
              let (partitionUnit, retentionCount) ← parsePartitionOptions optionsText
              .ok (some { baseSql := trimEndMatches ';' (trimEnd (sql.take idx))
                          partitionKey, partitionUnit, retentionCount })

/-! ### `COMMENT ON` -/

/-- The keyword after white space. -/
def expectKeyword (keyword : String) (s : List Char) : Except String (List Char) :=
  let s := skipAsciiWs s
  if eqIgnoreAsciiCase (s.take keyword.length) keyword.toList &&
      !(s.drop keyword.length).head?.any isIdentByte then
    .ok (s.drop keyword.length)
  else .error ("expected keyword " ++ keyword)

def parseCommentObjectType (s : List Char) : Except String (CommentObject × List Char) :=
  let s := skipAsciiWs s
  let word := s.takeWhile Char.isAlpha
  let r := s.dropWhile Char.isAlpha
  if s = [] then .error "expected keyword"
  else if word = [] then .error ("expected keyword at: " ++ String.ofList (trim s))
  else if eqIgnoreAsciiCase word "schema".toList then .ok (.schema, r)
  else if eqIgnoreAsciiCase word "table".toList then .ok (.table, r)
  else if eqIgnoreAsciiCase word "view".toList then .ok (.view, r)
  else if eqIgnoreAsciiCase word "index".toList then .ok (.index, r)
  else if eqIgnoreAsciiCase word "column".toList then .ok (.column, r)
  else .error ("COMMENT ON only supports SCHEMA, TABLE, VIEW, INDEX, and COLUMN, got: " ++
    String.ofList word)

/-- Through the closing quote. -/
def readQuotedName (quote : Char) : List Char → Option (List Char × List Char)
  | [] => none
  | [c] => if c = quote then some ([], []) else none
  | c :: d :: r =>
    if c ≠ quote then (readQuotedName quote (d :: r)).map fun x => (c :: x.1, x.2)
    else if d = quote then (readQuotedName quote r).map fun x => (quote :: x.1, x.2)
    else some ([], d :: r)

def parseIdentifierPart (s : List Char) : Except String (Ident × List Char) :=
  match skipAsciiWs s with
  | [] => .error "expected identifier"
  | c :: r =>
    if c = '"' ∨ c = '`' then
      match readQuotedName c r with
      | some (value, r) => .ok (⟨value, some c⟩, r)
      | none => .error "unclosed quoted identifier"
    else if isIdentByte c then
      .ok (⟨c :: r.takeWhile isIdentByte, none⟩, r.dropWhile isIdentByte)
    else .error ("expected identifier at: " ++ String.ofList (trim (c :: r)))

/-- The parts of a name, at most as many as the text has characters. -/
def parseObjectNameText : ℕ → List Char → Except String (ObjectName × List Char)
  | 0, _ => .error "expected identifier"
  | fuel + 1, s => do
    let (ident, r) ← parseIdentifierPart s
    match skipAsciiWs r with
    | '.' :: r' => do
      let (parts, r'') ← parseObjectNameText fuel (skipAsciiWs r')
      return (ident :: parts, r'')
    | r' => return ([ident], r')

def parseCommentValue (s : List Char) : Except String (Option (List Char) × List Char) :=
  match expectKeyword "null" s with
  | .ok r => .ok (none, r)
  | .error _ =>
    match skipAsciiWs s with
    | '\'' :: r =>
      match readQuotedName '\'' r with
      | some (value, r) => .ok (some value, r)
      | none => .error "unclosed COMMENT ON string"
    | _ => .error "COMMENT ON value must be a single-quoted string or NULL"

def parseCommentOnStatement (sql : List Char) : Except String Statement := do
  let s ← expectKeyword "comment" sql
  let s ← expectKeyword "on" s
  let (objectType, s) ← parseCommentObjectType s
  let (objectName, s) ← parseObjectNameText sql.length s
  let s ← expectKeyword "is" s
  let (comment, s) ← parseCommentValue s
  let trailing := match skipAsciiWs s with
    | ';' :: r => skipAsciiWs r
    | r => r
  if trailing ≠ [] then
    .error ("unexpected text after COMMENT ON statement: " ++ String.ofList (trim trailing))
  else
    let value := match comment with
      | some c => '\'' :: c ++ ['\'']
      | none => "NULL".toList
    return .comment objectType objectName comment
      [.text ("COMMENT ON ".toList ++ objectType.text ++ [' ']), .target objectName,
        .text (" IS ".toList ++ value)]

/-! ### `DROP ROLE … CASCADE` -/

def stripDropRoleCascade (sql : List Char) : Option (List Char) :=
  let trimmed := trimEnd (trimEndMatches ';' (trim sql))
  let lower := toAsciiLowercase trimmed
  if !startsWith "drop role" lower || !"cascade".toList.isSuffixOf lower then none
  else
    let before := trimmed.take (trimmed.length - "cascade".length)
    if before.getLast?.any isAsciiWhitespace then some (trimEnd before) else none

def oneStatement (P : SqlParser) (sql : List Char) : Except String Statement :=
  match P.parse sql with
  | .error e => .error ("catalog sql parse failed: " ++ e)
  | .ok [statement] => .ok statement
  | .ok statements => .error ("only one SQL statement is supported, got " ++
      toString statements.length)

def parseCustomStatement (P : SqlParser) (sql : List Char) :
    Except String (Option (Statement × List Char)) :=
  if looksLikeCommentOn sql then do
    let statement ← parseCommentOnStatement sql
    return some (statement, statement.print)
  else
    match stripDropRoleCascade sql with
    | none => .ok none
    | some sqlWithoutCascade => do
      match ← oneStatement P sqlWithoutCascade with
      | .drop objectType _ parts =>
        if objectType ≠ .role then .error "CASCADE is only supported here for DROP ROLE"
        else return some (.drop .role true parts, trim (trimEndMatches ';' (trim sql)))
      | _ => .error "DROP ROLE CASCADE requires a DROP ROLE statement"

/-- The one statement of a text, and the text it is printed with. -/
def parseOneStatement (P : SqlParser) (sql : List Char) : Except String (Statement × List Char) := do
  match ← parseCustomStatement P sql with
  | some custom => return custom
  | none =>
    let statement ← oneStatement P sql
    return (statement, statement.print)

end Rsduck.Catalog
