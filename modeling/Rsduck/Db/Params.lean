import Rsduck.Sql.Lexical
import Rsduck.Lib.FloatText

/-!
Binding parameters: `$n` outside quotes and comments becomes the literal of the n-th value.
-/

namespace Rsduck.Db

open Lib Sql

inductive SqlParam
  | null
  | text (value : List Char)
  | bool (value : Bool)
  | integer (value : ℤ)
  | float (value : F64)
  | floatArray (values : List F32)
  | bytes (value : List UInt8)
  deriving DecidableEq

/-! ### Literals -/

/-- `value.replace('\'', "''")`. -/
def doubleQuotes (value : List Char) : List Char :=
  value.flatMap fun c => if c = '\'' then ['\'', '\''] else [c]

def sqlStringLiteral (value : List Char) : List Char := '\'' :: doubleQuotes value ++ ['\'']

def hexEncode (bytes : List UInt8) : List Char :=
  bytes.flatMap fun b => [Nat.digitChar (b.toNat / 16), Nat.digitChar (b.toNat % 16)]

/-- An integer as text. -/
def intText (n : ℤ) : List Char := (if n < 0 then ['-'] else []) ++ Nat.toDigits 10 n.natAbs

def floatArrayText (values : List F32) : List Char :=
  '[' :: List.intercalate [','] (values.map f32.display) ++ "]::FLOAT[]".toList

def sqlParamLiteral : SqlParam → Except String (List Char)
  | .null => .ok "NULL".toList
  | .text value => .ok (sqlStringLiteral value)
  | .bool value => .ok (if value then "true".toList else "false".toList)
  | .integer value => .ok (intText value)
  | .float value =>
    if f64.isFinite value then .ok (f64.display value)
    else .error ("non-finite SQL parameter is not supported: " ++ String.ofList (f64.display value))
  | .floatArray values =>
    if values = [] then .error "FLOAT array SQL parameter cannot be empty"
    else
      match values.find? fun value => !f32.isFinite value with
      | some value => .error ("non-finite FLOAT array SQL parameter is not supported: " ++
          String.ofList (f32.display value))
      | none => .ok (floatArrayText values)
  | .bytes value => .ok ("'\\x".toList ++ hexEncode value ++ ['\''])

/-! ### The scanner -/

inductive SqlScanState
  | normal | singleQuote | doubleQuote | lineComment | blockComment
  deriving DecidableEq

/-- Output followed by what the rest of the text gives. -/
def emit (text : List Char) : Except String (List Char × ℕ) → Except String (List Char × ℕ)
  | .ok (out, n) => .ok (text ++ out, n)
  | .error e => .error e

/-- The number after a dollar sign, in the range of a `usize`. -/
def parseParamNumber (digits : List Char) : Except String ℕ :=
  let n := Nat.ofDigitChars 10 digits 0
  if 2 ^ 64 ≤ n then .error ("invalid SQL parameter: $" ++ String.ofList digits)
  else if n = 0 then .error "invalid SQL parameter: $0"
  else .ok n

/-- What a placeholder becomes: a value's literal, or itself when there are no values. -/
def paramText (params : Option (List SqlParam)) (digits : List Char) (n : ℕ) :
    Except String (List Char) :=
  match params with
  | none => .ok ('$' :: digits)
  | some values =>
    match values[n - 1]? with
    | none => .error ("missing SQL parameter: $" ++ toString n)
    | some p => sqlParamLiteral p

/-- The loop over the text, with the highest number so far. -/
def scanFrom (params : Option (List SqlParam)) (state : SqlScanState) (s : List Char)
    (maxParam : ℕ) : Except String (List Char × ℕ) :=
  match s with
  | [] => .ok ([], maxParam)
  | c :: r =>
    match state with
    | .normal =>
      if c = '\'' then emit [c] (scanFrom params .singleQuote r maxParam)
      else if c = '"' then emit [c] (scanFrom params .doubleQuote r maxParam)
      else if c = '-' ∧ r.head? = some '-' then
        emit [c, '-'] (scanFrom params .lineComment r.tail maxParam)
      else if c = '/' ∧ r.head? = some '*' then
        emit [c, '*'] (scanFrom params .blockComment r.tail maxParam)
      else if c = '$' ∧ r.head?.any Char.isDigit then
        match parseParamNumber (r.takeWhile Char.isDigit) with
        | .error e => .error e
        | .ok n =>
          match paramText params (r.takeWhile Char.isDigit) n with
          | .error e => .error e
          | .ok lit => emit lit (scanFrom params .normal (r.dropWhile Char.isDigit) (max maxParam n))
      else emit [c] (scanFrom params .normal r maxParam)
    | .singleQuote =>
      if c = '\'' then
        if r.head? = some '\'' then emit [c, '\''] (scanFrom params .singleQuote r.tail maxParam)
        else emit [c] (scanFrom params .normal r maxParam)
      else emit [c] (scanFrom params .singleQuote r maxParam)
    | .doubleQuote =>
      if c = '"' then
        if r.head? = some '"' then emit [c, '"'] (scanFrom params .doubleQuote r.tail maxParam)
        else emit [c] (scanFrom params .normal r maxParam)
      else emit [c] (scanFrom params .doubleQuote r maxParam)
    | .lineComment =>
      emit [c] (scanFrom params (if c = '\n' then .normal else .lineComment) r maxParam)
    | .blockComment =>
      if c = '*' ∧ r.head? = some '/' then
        emit [c, '/'] (scanFrom params .normal r.tail maxParam)
      else emit [c] (scanFrom params .blockComment r maxParam)
termination_by s.length
decreasing_by
  all_goals simp_wf
  all_goals
    have hdigits := List.length_dropWhile_le Char.isDigit r
    omega

def scanSqlParams (sql : List Char) (params : Option (List SqlParam)) :
    Except String (List Char × ℕ) :=
  match scanFrom params .normal sql 0 with
  | .error e => .error e
  | .ok (out, maxParam) =>
    match params with
    | some values =>
      if maxParam < values.length then
        .error ("too many SQL parameters: got " ++ toString values.length ++ ", used " ++
          toString maxParam)
      else .ok (out, maxParam)
    | none => .ok (out, maxParam)

def bindSqlParams (sql : List Char) (params : List SqlParam) : Except String (List Char) :=
  (scanSqlParams sql (some params)).map Prod.fst

end Rsduck.Db
