import Rsduck.Mysql.Row

/-!
A client of the protocol, and when it has recovered a cell.

The client knows a column by its definition. It reads a text row as length-encoded texts that
it takes for the announced type, and a binary row by the layout of that type. This is the
protocol's side of the rows, stated on its own.
-/

namespace Rsduck.Mysql

open Lib Lib.Calendar Lib.DecimalText Lib.FloatFormat Lib.JsonText Lib.Wire Lib.Wire.Reader Db

/-! ### Parts of a packet -/

def malformed : String := "malformed packet"

def readByte : Reader UInt8 := do
  return (← take 1 malformed).headD 0

def readLe (k : ℕ) : Reader ℕ := ofLeBytes <$> take k malformed

def readLenencInt : Reader ℕ := do
  let first ← readByte
  if first = 0xfc then readLe 2
  else if first = 0xfd then readLe 3
  else if first = 0xfe then readLe 8
  else if first = 0xff ∨ first = 0xfb then throw malformed
  else return first.toNat

def readLenencBytes : Reader (List UInt8) := do
  take (← readLenencInt) malformed

/-- What the computation gives, or a malformed packet. -/
def expect {α : Type} : Option α → Reader α
  | some a => pure a
  | none => throw malformed

def readLenencText : Reader (List Char) := do
  expect (ofUtf8 (← readLenencBytes))

/-! ### Columns -/

/-- How the values of a type stand in a row. -/
inductive Layout
  | tiny | short | long | longlong | float | double | decimal | text | blob | date | dateTime
  | time
  deriving DecidableEq

def layouts : List (UInt8 × Layout) :=
  [(mysqlTypeTiny, .tiny), (mysqlTypeShort, .short), (mysqlTypeLong, .long),
    (mysqlTypeLonglong, .longlong), (mysqlTypeFloat, .float), (mysqlTypeDouble, .double),
    (mysqlTypeNewdecimal, .decimal), (mysqlTypeVarString, .text), (mysqlTypeJson, .text),
    (mysqlTypeBlob, .blob), (mysqlTypeDate, .date), (mysqlTypeDatetime, .dateTime),
    (mysqlTypeTimestamp, .dateTime), (mysqlTypeTime, .time)]

/-- The layout a column definition announces. -/
def readColumnDefinition : Reader Layout := do
  let _ ← readLenencBytes
  let _ ← readLenencBytes
  let _ ← readLenencBytes
  let _ ← readLenencBytes
  let _ ← readLenencBytes
  let _ ← readLenencBytes
  -- the length of what follows, the character set and the display width
  let _ ← take 7 malformed
  let code ← readByte
  let _ ← take 5 malformed
  expect ((layouts.find? (·.1 == code)).map (·.2))

/-! ### Values -/

/-- A recovered value; a time of day in microseconds. -/
inductive ClientValue
  | null
  | int (n : ℤ)
  | float (b : F32)
  | double (b : F64)
  | number (q : ℚ)
  | text (t : List Char)
  | blob (bytes : List UInt8)
  | date (d : Date)
  | dateTime (t : DateTime)
  | time (micros : ℤ)

/-- Two's complement of `k` bytes. -/
def signed (k n : ℕ) : ℤ := if n < 2 ^ (8 * k - 1) then n else (n : ℤ) - 2 ^ (8 * k)

/-- Year, month and day. -/
def readDateBytes : Reader Date := do
  let year ← readLe 2
  let month ← readByte
  let day ← readByte
  expect (Date.ofYmd? year month.toNat day.toNat)

/-- Hour, minute and second of the date, and what the reader gives as microseconds. -/
def readTimeBytes (date : Date) (micros : Reader ℕ) : Reader DateTime := do
  let hour ← readByte
  let minute ← readByte
  let second ← readByte
  let micros ← micros
  expect (if micros < 1000000 then
    DateTime.of? date hour.toNat minute.toNat second.toNat (micros * 1000) else none)

/-- Length, date, and with a longer length also a time and microseconds. -/
def readBinaryDateTime : Reader DateTime := do
  let length ← readByte
  let date ← readDateBytes
  if length = 4 then return date.midnight
  else if length = 7 then readTimeBytes date (pure 0)
  else if length = 11 then readTimeBytes date (readLe 4)
  else throw malformed

def clockMicros (hour minute second micros : ℕ) : ℤ :=
  (((hour * 60 + minute) * 60 + second) * 1000000 + micros : ℕ)

/-- Length, sign, days, a time and with the longer length microseconds. -/
def readBinaryTime : Reader ℤ := do
  let length ← readByte
  let sign ← readByte
  let days ← readLe 4
  let hour ← readByte
  let minute ← readByte
  let second ← readByte
  let micros ← if length = 8 then pure 0 else if length = 12 then readLe 4 else throw malformed
  let total := days * microsPerDay + clockMicros hour.toNat minute.toNat second.toNat micros
  return if sign = 0 then total else -total

def readBinaryValue : Layout → Reader ClientValue
  | .tiny => (fun n => .int (signed 1 n)) <$> readLe 1
  | .short => (fun n => .int (signed 2 n)) <$> readLe 2
  | .long => (fun n => .int (signed 4 n)) <$> readLe 4
  | .longlong => (fun n => .int (signed 8 n)) <$> readLe 8
  | .float => (fun n => .float (BitVec.ofNat _ n)) <$> readLe 4
  | .double => (fun n => .double (BitVec.ofNat _ n)) <$> readLe 8
  | .decimal => do return .number (← expect (readDecimal (← readLenencText)))
  | .text => .text <$> readLenencText
  | .blob => .blob <$> readLenencBytes
  | .date => (fun t => .date t.date) <$> readBinaryDateTime
  | .dateTime => .dateTime <$> readBinaryDateTime
  | .time => .time <$> readBinaryTime

/-! ### Values in text -/

def literal (c : Char) : List Char → Option (List Char)
  | d :: s => if d = c then some s else none
  | [] => none

/-- `YYYY-MM-DD`, and what follows it. -/
def readDate (s : List Char) : Option (Date × List Char) := do
  let (year, s) ← fixedDigits 4 s
  let (month, s) ← fixedDigits 2 (← literal '-' s)
  let (day, s) ← fixedDigits 2 (← literal '-' s)
  return (← Date.ofYmd? year month day, s)

/-- `hh:mm:ss`, with six digits after a point or none: hour, minute, second and microseconds. -/
def readClock (s : List Char) : Option (ℕ × ℕ × ℕ × ℕ) := do
  let (hour, s) ← fixedDigits 2 s
  let (minute, s) ← fixedDigits 2 (← literal ':' s)
  let (second, s) ← fixedDigits 2 (← literal ':' s)
  if s = [] then return (hour, minute, second, 0)
  let (micros, s) ← fixedDigits 6 (← literal '.' s)
  if s = [] then return (hour, minute, second, micros) else none

def readTime (s : List Char) : Option ℤ := do
  let (hour, minute, second, micros) ← readClock s
  return clockMicros hour minute second micros

def readDateTime (s : List Char) : Option DateTime := do
  let (date, s) ← readDate s
  let (hour, minute, second, micros) ← readClock (← literal ' ' s)
  DateTime.of? date hour minute second (micros * 1000)

def readText (layout : Layout) (s : List Char) : Option ClientValue :=
  match layout with
  | .tiny | .short | .long | .longlong => (readInt s).map .int
  | .float | .double | .decimal => (readDecimal s).map .number
  | .text => some (.text s)
  | .blob => some (.blob (utf8 s))
  | .date => do
    let (date, s) ← readDate s
    if s = [] then return .date date else none
  | .dateTime => (readDateTime s).map .dateTime
  | .time => (readTime s).map .time

/-- A cell of a text row: NULL, or a length-encoded text. -/
def readTextValue (layout : Layout) : Reader ClientValue := fun bytes =>
  if bytes.head? = some 0xfb then .ok (.null, bytes.tail)
  else (do expect (readText layout (← readLenencText)) : Reader ClientValue).run bytes

/-! ### Rows -/

def readTextRow (row : List Layout) : Reader (List ClientValue) := row.mapM readTextValue

/-- The bit of a column in the bitmap. -/
def nullBit (bitmap : List UInt8) (idx : ℕ) : Bool :=
  (bitmap.getD ((idx + 2) / 8) 0).toNat.testBit ((idx + 2) % 8)

def readValuesFrom (bitmap : List UInt8) (idx : ℕ) : List Layout → Reader (List ClientValue)
  | [] => pure []
  | layout :: row => do
    let value ← if nullBit bitmap idx then pure .null else readBinaryValue layout
    return value :: (← readValuesFrom bitmap (idx + 1) row)

def readBinaryRow (row : List Layout) : Reader (List ClientValue) := do
  let header ← readByte
  if header ≠ 0 then throw malformed
  let bitmap ← take ((row.length + 9) / 8) malformed
  readValuesFrom bitmap 0 row

/-! ### Recovered cells -/

/-- The text `readIntervalText` takes apart. -/
def readInterval (s : List Char) : Option (ℤ × ℤ × ℤ) :=
  match s.splitOnP (· == ' ') with
  | [months, m, days, d, nanos, n] =>
    if m = "months".toList ∧ d = "days".toList ∧ n = "ns".toList then do
      return (← readInt months, ← readInt days, ← readInt nanos)
    else none
  | _ => none

/-- Two digits for each byte. -/
def readHex : List Char → Option (List UInt8)
  | [] => some []
  | [_] => none
  | a :: b :: s => do
    let byte := (← hexDigit? a) * 16 + (← hexDigit? b)
    return UInt8.ofNat byte :: (← readHex s)

mutual

/-- The document holds the value: each of its parts in the part's place, what JSON has no value for
as its text. -/
def Holds {C : Crates} : Document ℚ → Value C → Prop
  | .null, .null => True
  | .bool b, .boolean v => b = v
  | .number q, .tinyInt v => q = v.toInt
  | .number q, .smallInt v => q = v.toInt
  | .number q, .int v => q = v.toInt
  | .number q, .bigInt v => q = v.toInt
  | .number q, .uTinyInt v => q = v.toNat
  | .number q, .uSmallInt v => q = v.toNat
  | .number q, .uInt v => q = v.toNat
  | .number q, .uBigInt v => q = v.toNat
  | .number q, .float v => f32.Rounds v q
  | .number q, .double v => f64.Rounds v q
  | .string s, .hugeInt v => readInt s = some v.toInt
  | .string s, .decimal v => readDecimal s = some (C.decimalNumber v)
  | .string s, .timestamp unit v =>
    ∃ t, readDateTime s = some t ∧ t.micros * 1000 = v.toInt * unit.nanos
  | .string s, .text v => s = v
  | .string s, .blob v => ∃ digits, s = "\\x".toList ++ digits ∧ readHex digits = some v
  | .string s, .date32 v => ∃ d, readDate s = some (d, []) ∧ d.dayNumber = v.toInt
  | .string s, .time64 unit v =>
    ∃ micros, readTime s = some micros ∧ micros * 1000 = v.toInt * unit.nanos
  | .string s, .enum label => s = label
  | .object es, .interval months days nanos =>
    es.lookup "months".toList = some (.number months.toInt) ∧
      es.lookup "days".toList = some (.number days.toInt) ∧
      es.lookup "nanos".toList = some (.number nanos.toInt)
  | .array ds, .list values => HoldAll ds values
  | .array ds, .array values => HoldAll ds values
  | .object es, .struct fields =>
    (es.map Prod.fst).Perm (fields.map Prod.fst) ∧ HoldFields es fields
  | .array ds, .map entries => HoldEntries ds entries
  | d, .union value => Holds d value
  | _, _ => False

def HoldAll {C : Crates} : List (Document ℚ) → List (Value C) → Prop
  | [], [] => True
  | d :: ds, v :: vs => Holds d v ∧ HoldAll ds vs
  | _, _ => False

/-- Each field stands under its name. -/
def HoldFields {C : Crates} (es : List (List Char × Document ℚ)) :
    List (List Char × Value C) → Prop
  | [] => True
  | (name, v) :: vs => (∃ d, es.lookup name = some d ∧ Holds d v) ∧ HoldFields es vs

/-- Each entry stands as an object of its key and its value. -/
def HoldEntries {C : Crates} : List (Document ℚ) → List (Value C × Value C) → Prop
  | [], [] => True
  | .object es :: ds, (k, v) :: vs =>
    (∃ d, es.lookup "key".toList = some d ∧ Holds d k) ∧
      (∃ d, es.lookup "value".toList = some d ∧ Holds d v) ∧ HoldEntries ds vs
  | _, _ => False

end

/-- A recovered value equals the cell: the same number, text, bytes, day or instant. A float may
be recovered as a decimal that rounds to it, a nested value as a JSON document that holds it. -/
def Represents {C : Crates} : ValueRef C → ClientValue → Prop
  | .null, .null => True
  | .boolean v, .int n => n = if v then 1 else 0
  | .tinyInt v, .int n => n = v.toInt
  | .smallInt v, .int n => n = v.toInt
  | .int v, .int n => n = v.toInt
  | .bigInt v, .int n => n = v.toInt
  | .uTinyInt v, .int n => n = v.toNat
  | .uSmallInt v, .int n => n = v.toNat
  | .uInt v, .int n => n = v.toNat
  | .hugeInt v, .number q => q = v.toInt
  | .uBigInt v, .number q => q = v.toNat
  | .decimal v, .number q => q = C.decimalNumber v
  | .text v, .number q => readDecimal v = some q
  | .float v, .float b => b = v
  | .float v, .number q => f32.Rounds v q
  | .double v, .double b => b = v
  | .double v, .number q => f64.Rounds v q
  | .timestamp unit v, .dateTime t => t.micros * 1000 = v.toInt * unit.nanos
  | .text v, .text t => t = v
  | .blob v, .blob bytes => bytes = v
  | .date32 v, .date d => d.dayNumber = v.toInt
  | .time64 unit v, .time micros => micros * 1000 = v.toInt * unit.nanos
  | .time64 unit v, .text t => ∃ micros, readTime t = some micros ∧ micros * 1000 = v.toInt * unit.nanos
  | .interval months days nanos, .text t =>
    readInterval t = some (months.toInt, days.toInt, nanos.toInt)
  | .enum _ label, .text t => t = label
  | .nested v, .text t => ∃ d, readJson t = some d ∧ Holds d v
  | _, _ => False

end Rsduck.Mysql
