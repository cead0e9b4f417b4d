import Rsduck.Db.Params
import Rsduck.Lib.Calendar
import Rsduck.Lib.FloatRounding
import Rsduck.Lib.JsonText

/-!
Values of a query result: the type a column is announced with, the cells the driver gives and
what they become.

Decimals, UUIDs, JSON documents and the driver's time units belong to other crates; `Crates`
holds what the service uses of them.
-/

namespace Rsduck.Db

open Lib Lib.Calendar Lib.DecimalText Lib.JsonText

/-! ### Columns -/

inductive SqlType
  | bool | bytea | int8 | int2 | int4 | text | float4 | float8 | numeric | date | time
  | timestamp | timestampTz | uuid | json
  deriving DecidableEq

structure SqlColumn where
  name : List Char
  dataType : SqlType

/-- DuckDB's logical types; `other` stands for those the service does not name. -/
inductive LogicalTypeId
  | boolean | tinyint | smallint | integer | bigint | uTinyint | uSmallint | uInteger | uBigint
  | integerLiteral | hugeint | uHugeint | decimal | bignum | float | double | timestamp
  | timestampS | timestampMs | timestampNs | timestampTz | date | time | timeNs | timeTz | uuid
  | blob | varchar | stringLiteral | enum | interval | bit | any | sqlNull | invalid
  | unsupported | list | struct | map | union | array | variant | other
  deriving DecidableEq

def sqlTypeForDuckdbType : LogicalTypeId → SqlType
  | .boolean => .bool
  | .tinyint | .smallint | .uTinyint => .int2
  | .integer | .uSmallint => .int4
  | .bigint | .uInteger | .integerLiteral => .int8
  | .hugeint | .uHugeint | .uBigint | .decimal | .bignum => .numeric
  | .float => .float4
  | .double => .float8
  | .timestamp | .timestampS | .timestampMs | .timestampNs => .timestamp
  | .timestampTz => .timestampTz
  | .date => .date
  | .time | .timeNs => .time
  | .uuid => .uuid
  | .blob => .bytea
  | .varchar | .stringLiteral | .enum | .interval | .bit | .timeTz | .any | .sqlNull | .invalid
  | .unsupported => .text
  | .list | .struct | .map | .union | .array | .variant => .json
  | .other => .text

/-! ### Other crates -/

inductive TimeUnit
  | second | millisecond | microsecond | nanosecond
  deriving DecidableEq

def TimeUnit.name : TimeUnit → List Char
  | .second => "Second".toList
  | .millisecond => "Millisecond".toList
  | .microsecond => "Microsecond".toList
  | .nanosecond => "Nanosecond".toList

/-- A unit in nanoseconds. -/
def TimeUnit.nanos : TimeUnit → ℤ
  | .second => 1000000000
  | .millisecond => 1000000
  | .microsecond => 1000
  | .nanosecond => 1

/-- A number of a JSON document; a single-precision number stands for its exact widening. -/
inductive JsonNumber
  | int (value : ℤ)
  | float (value : F32) (finite : f32.isFinite value = true)
  | double (value : F64) (finite : f64.isFinite value = true)

/-- The decimal is the number, or rounds to it. -/
def JsonNumber.Says : JsonNumber → ℚ → Prop
  | .int n, q => q = n
  | .float v _, q => f32.Rounds v q
  | .double v _, q => f64.Rounds v q

abbrev Json := Document JsonNumber

structure Crates where
  Decimal : Type
  decimalNumber : Decimal → ℚ
  decimalText : Decimal → List Char
  decimalText_reads : ∀ d, readDecimal (decimalText d) = some (decimalNumber d)
  /-- `Decimal::try_from_i128_with_scale(n, 0)` -/
  tryFromI128 : ℤ → Option Decimal
  tryFromI128_number : ∀ n d, tryFromI128 n = some d → decimalNumber d = n
  fromU64 : ℕ → Decimal
  fromU64_number : ∀ n < 2 ^ 64, decimalNumber (fromU64 n) = n
  Uuid : Type
  parseUuid : List Char → Option Uuid
  uuidText : Uuid → List Char
  parseUuid_text : ∀ u, parseUuid (uuidText u) = some u
  jsonText : Json → List Char
  /-- the decimal that stands in a text for a number -/
  jsonNumber : JsonNumber → ℚ
  jsonNumber_says : ∀ n : JsonNumber, n.Says (jsonNumber n)
  jsonText_reads : ∀ j, readJson (jsonText j) = some (j.map jsonNumber)
  /-- `TimeUnit::to_micros`: exact when the microseconds are a whole number of 64 bits -/
  toMicros : TimeUnit → Int64 → Int64
  toMicros_exact : ∀ unit (v n : Int64), n.toInt * 1000 = v.toInt * unit.nanos → toMicros unit v = n

variable {C : Crates}

/-! ### Dates and times -/

/-- A time of day; a leap second has a thousand million more nanoseconds. -/
structure NaiveTime where
  seconds : ℕ
  nanosecond : ℕ
  secondsOk : seconds < 86400
  nanosecondOk : nanosecond < 2000000000

def date32ToDate (days : Int32) : Option Date := Date.ofDayNumber? days.toInt

def timestampToUtc (C : Crates) (unit : TimeUnit) (value : Int64) : Option DateTime :=
  DateTime.ofMicros? (C.toMicros unit value).toInt

def microsPerDay : ℤ := 86400000000

/-- The microseconds since midnight, whatever the value's day. -/
def time64ToTime (C : Crates) (unit : TimeUnit) (value : Int64) : Option NaiveTime :=
  let micros := (C.toMicros unit value).toInt % microsPerDay
  let seconds := (micros / 1000000).toNat
  let nanos := (micros % 1000000).toNat * 1000
  if h : seconds < 86400 ∧ nanos < 2000000000 then some ⟨seconds, nanos, h.1, h.2⟩ else none

/-- `%Y`: four digits, and a sign outside them. -/
def yearText (year : ℤ) : List Char :=
  if 0 ≤ year ∧ year ≤ 9999 then padded 4 year.toNat
  else (if year < 0 then '-' else '+') :: padded 4 year.natAbs

/-- `%Y-%m-%d` -/
def dateText (d : Date) : List Char :=
  yearText d.year ++ '-' :: padded 2 d.month ++ '-' :: padded 2 d.day

/-- `%H:%M:%S%.6f` -/
def clockText (hour minute second nanosecond : ℕ) : List Char :=
  padded 2 hour ++ ':' :: padded 2 minute ++ ':' :: padded 2 second ++ '.' ::
    padded 6 (nanosecond / 1000)

def NaiveTime.text (t : NaiveTime) : List Char :=
  clockText (t.seconds / 3600) (t.seconds / 60 % 60) (t.seconds % 60) t.nanosecond

/-- `%Y-%m-%d %H:%M:%S%.6f` -/
def dateTimeText (t : DateTime) : List Char :=
  dateText t.date ++ ' ' :: clockText t.hour t.minute t.second t.nanosecond

/-- A number with its unit, for what is not a time. -/
def rawTime (unit : TimeUnit) (value : Int64) : List Char :=
  intText value.toInt ++ ' ' :: unit.name

def formatDate32 (days : Int32) : List Char :=
  ((date32ToDate days).map dateText).getD (intText days.toInt)

def formatTimestamp (C : Crates) (unit : TimeUnit) (value : Int64) : List Char :=
  ((timestampToUtc C unit value).map dateTimeText).getD (rawTime unit value)

def formatTime64 (C : Crates) (unit : TimeUnit) (value : Int64) : List Char :=
  ((time64ToTime C unit value).map NaiveTime.text).getD (rawTime unit value)

/-! ### Nested values -/

/-- An owned value of the driver. -/
inductive Value (C : Crates)
  | null
  | boolean (v : Bool)
  | tinyInt (v : Int8)
  | smallInt (v : Int16)
  | int (v : Int32)
  | bigInt (v : Int64)
  | hugeInt (v : BitVec 128)
  | uTinyInt (v : UInt8)
  | uSmallInt (v : UInt16)
  | uInt (v : UInt32)
  | uBigInt (v : UInt64)
  | float (v : F32)
  | double (v : F64)
  | decimal (v : C.Decimal)
  | timestamp (unit : TimeUnit) (v : Int64)
  | text (v : List Char)
  | blob (v : List UInt8)
  | date32 (v : Int32)
  | time64 (unit : TimeUnit) (v : Int64)
  | interval (months days : Int32) (nanos : Int64)
  | enum (label : List Char)
  | list (values : List (Value C))
  | array (values : List (Value C))
  | struct (fields : List (List Char × Value C))
  | map (entries : List (Value C × Value C))
  | union (value : Value C)

def numberJson (n : ℤ) : Json := .number (.int n)

/-- A number that is not finite becomes its text. -/
def floatJson (F : FloatFormat) (number : (v : F.Bits) → F.isFinite v = true → JsonNumber)
    (v : F.Bits) : Json :=
  if h : F.isFinite v = true then .number (number v h) else .string (F.display v)

mutual

def duckdbValueToJson : Value C → Json
  | .null => .null
  | .boolean v => .bool v
  | .tinyInt v => numberJson v.toInt
  | .smallInt v => numberJson v.toInt
  | .int v => numberJson v.toInt
  | .bigInt v => numberJson v.toInt
  | .hugeInt v => .string (intText v.toInt)
  | .uTinyInt v => numberJson v.toNat
  | .uSmallInt v => numberJson v.toNat
  | .uInt v => numberJson v.toNat
  | .uBigInt v => numberJson v.toNat
  | .float v => floatJson f32 .float v
  | .double v => floatJson f64 .double v
  | .decimal v => .string (C.decimalText v)
  | .timestamp unit v => .string (formatTimestamp C unit v)
  | .text v => .string v
  | .blob v => .string ("\\x".toList ++ hexEncode v)
  | .date32 v => .string (formatDate32 v)
  | .time64 unit v => .string (formatTime64 C unit v)
  | .interval months days nanos =>
    .object (collect [("months".toList, numberJson months.toInt),
      ("days".toList, numberJson days.toInt), ("nanos".toList, numberJson nanos.toInt)])
  | .enum label => .string label
  | .list values | .array values => .array (valuesToJson values)
  | .struct fields => .object (collect (fieldsToJson fields))
  | .map entries => .array (entriesToJson entries)
  | .union value => duckdbValueToJson value

def valuesToJson : List (Value C) → List Json
  | [] => []
  | v :: vs => duckdbValueToJson v :: valuesToJson vs

def fieldsToJson : List (List Char × Value C) → List (List Char × Json)
  | [] => []
  | (name, v) :: vs => (name, duckdbValueToJson v) :: fieldsToJson vs

def entriesToJson : List (Value C × Value C) → List Json
  | [] => []
  | (k, v) :: vs =>
    .object (collect [("key".toList, duckdbValueToJson k), ("value".toList, duckdbValueToJson v)]) ::
      entriesToJson vs

end

/-! ### Cells -/

/-- A cell as the driver gives it; a list, struct, array, map or union as its owned value. -/
inductive ValueRef (C : Crates)
  | null
  | boolean (v : Bool)
  | tinyInt (v : Int8)
  | smallInt (v : Int16)
  | int (v : Int32)
  | bigInt (v : Int64)
  | hugeInt (v : BitVec 128)
  | uTinyInt (v : UInt8)
  | uSmallInt (v : UInt16)
  | uInt (v : UInt32)
  | uBigInt (v : UInt64)
  | float (v : F32)
  | double (v : F64)
  | decimal (v : C.Decimal)
  | timestamp (unit : TimeUnit) (v : Int64)
  | text (v : List Char)
  | blob (v : List UInt8)
  | date32 (v : Int32)
  | time64 (unit : TimeUnit) (v : Int64)
  | interval (months days : Int32) (nanos : Int64)
  | enum (asStr : Option (List Char)) (label : List Char)
  | nested (v : Value C)

inductive SqlValue (C : Crates)
  | null
  | bool (v : Bool)
  | int16 (v : Int16)
  | int32 (v : Int32)
  | int64 (v : Int64)
  | float32 (v : F32)
  | float64 (v : F64)
  | decimal (v : C.Decimal)
  | numericText (v : List Char)
  | text (v : List Char)
  | bytes (v : List UInt8)
  | date (v : Date)
  | time (v : NaiveTime)
  | timestamp (v : DateTime)
  | timestampTz (v : DateTime)
  | uuid (v : C.Uuid)
  | json (v : Json)
  | interval (months days : Int32) (nanos : Int64)

def SqlValue.isNull : SqlValue C → Bool
  | .null => true
  | _ => false

def timestampValue (unit : TimeUnit) (value : Int64) (dataType : SqlType) : SqlValue C :=
  match timestampToUtc C unit value with
  | none => .text (formatTimestamp C unit value)
  | some t => if dataType = .timestampTz then .timestampTz t else .timestamp t

def textValueRef (text : List Char) (dataType : SqlType) : SqlValue C :=
  if dataType = .uuid then
    match C.parseUuid text with
    | some u => .uuid u
    | none => .text text
  else .text text

def valueRefToSqlValue (value : ValueRef C) (dataType : SqlType) : SqlValue C :=
  match value with
  | .null => .null
  | .boolean v => .bool v
  | .tinyInt v => .int16 v.toInt16
  | .smallInt v => .int16 v
  | .int v => .int32 v
  | .bigInt v => .int64 v
  | .hugeInt v =>
    match C.tryFromI128 v.toInt with
    | some d => .decimal d
    | none => .numericText (intText v.toInt)
  | .uTinyInt v => .int16 v.toUInt16.toInt16
  | .uSmallInt v => .int32 v.toUInt32.toInt32
  | .uInt v => .int64 v.toUInt64.toInt64
  | .uBigInt v => .decimal (C.fromU64 v.toNat)
  | .float v => .float32 v
  | .double v => .float64 v
  | .decimal v => .decimal v
  | .timestamp unit v => timestampValue unit v dataType
  | .text v => textValueRef v dataType
  | .blob v => .bytes v
  | .date32 v =>
    match date32ToDate v with
    | some d => .date d
    | none => .text (intText v.toInt)
  | .time64 unit v =>
    match time64ToTime C unit v with
    | some t => .time t
    | none => .text (formatTime64 C unit v)
  | .interval months days nanos => .interval months days nanos
  | .enum asStr label =>
    match asStr with
    | some text => .text text
    | none => .json (duckdbValueToJson (.enum label : Value C))
  | .nested v => .json (duckdbValueToJson v)

def intervalText (months days : Int32) (nanos : Int64) : List Char :=
  intText months.toInt ++ " months ".toList ++ intText days.toInt ++ " days ".toList ++
    intText nanos.toInt ++ " ns".toList

/-- A cell as text; nothing for NULL. -/
def SqlValue.textValue : SqlValue C → Option (List Char)
  | .null => none
  | .bool v => some (if v then ['t'] else ['f'])
  | .int16 v => some (intText v.toInt)
  | .int32 v => some (intText v.toInt)
  | .int64 v => some (intText v.toInt)
  | .float32 v => some (f32.display v)
  | .float64 v => some (f64.display v)
  | .decimal v => some (C.decimalText v)
  | .numericText v => some v
  | .text v => some v
  | .bytes v => some ("\\x".toList ++ hexEncode v)
  | .date v => some (dateText v)
  | .time v => some v.text
  | .timestamp v => some (dateTimeText v)
  | .timestampTz v => some (dateTimeText v ++ "+00:00".toList)
  | .uuid v => some (C.uuidText v)
  | .json v => some (C.jsonText v)
  | .interval months days nanos => some (intervalText months days nanos)

end Rsduck.Db
