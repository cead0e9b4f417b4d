import Rsduck.Lib.FloatValue
import Rsduck.Mysql.Client
import Rsduck.Mysql.Layout

/-!
The parameters of a prepared statement on the client's side.

A client binds values of the types it announces and writes them as the protocol says. This is the
protocol's side of `COM_STMT_EXECUTE`, stated on its own, with what it means that a parameter read
by the server denotes a client's value.
-/

namespace Rsduck.Mysql

open Lib Lib.Calendar Lib.DecimalText Lib.FloatFormat Lib.Wire Lib.Wire.Reader Db

/-! ### Values -/

/-- A day; a month or a day of zero is one that is not given. -/
structure DateFields where
  year : ℕ
  month : ℕ
  day : ℕ
  year_le : year ≤ 9999
  month_le : month ≤ 12
  day_le : day ≤ 31

structure ClockFields where
  hour : ℕ
  minute : ℕ
  second : ℕ
  hour_le : hour ≤ 23
  minute_le : minute ≤ 59
  second_le : second ≤ 59

/-- A date, or a date and a time, in the form it is sent in. -/
inductive ParamDatetime
  | zero
  | date (d : DateFields)
  | instant (d : DateFields) (c : ClockFields)
  | precise (d : DateFields) (c : ClockFields) (micros : Fin 1000000)

/-- A span of time in the form it is sent in. -/
inductive ParamTime
  | zero
  | clock (negative : Bool) (days : UInt32) (c : ClockFields)
  | precise (negative : Bool) (days : UInt32) (c : ClockFields) (micros : Fin 1000000)

inductive ParamValue
  | int (n : ℤ)
  | float (b : F32)
  | double (b : F64)
  | text (t : List Char)
  | blob (bytes : List UInt8)
  | datetime (t : ParamDatetime)
  | time (t : ParamTime)

def integerSize (ty : UInt8) : Option ℕ :=
  if ty = mysqlTypeTiny then some 1
  else if ty = mysqlTypeShort then some 2
  else if ty = mysqlTypeLong then some 4
  else if ty = mysqlTypeLonglong then some 8
  else none

/-- The value is one of the type. A text or blob is no longer than memory. -/
def ParamValue.Fits (ty : UInt8) (unsigned : Bool) : ParamValue → Prop
  | .int n => ∃ k, integerSize ty = some k ∧
      if unsigned then 0 ≤ n ∧ n < 2 ^ (8 * k) else -2 ^ (8 * k - 1) ≤ n ∧ n < 2 ^ (8 * k - 1)
  | .float _ => ty = mysqlTypeFloat
  | .double _ => ty = mysqlTypeDouble
  | .text t => ty ∈ textTypes ∧ (utf8 t).length < 2 ^ 64
  | .blob bytes => ty = mysqlTypeBlob ∧ bytes.length < 2 ^ 64
  | .datetime _ => ty ∈ datetimeTypes
  | .time _ => ty = mysqlTypeTime

/-- A parameter as the client binds it; without a value it is NULL. -/
structure BoundParam where
  ty : UInt8
  unsigned : Bool
  value : Option ParamValue
  fits : ∀ v ∈ value, v.Fits ty unsigned

def BoundParam.kind (p : BoundParam) : UInt8 × Bool := (p.ty, p.unsigned)

/-! ### Encoding -/

def dateBytes (d : DateFields) : List UInt8 :=
  leBytes 2 d.year ++ [UInt8.ofNat d.month, UInt8.ofNat d.day]

def clockBytes (c : ClockFields) : List UInt8 :=
  [UInt8.ofNat c.hour, UInt8.ofNat c.minute, UInt8.ofNat c.second]

def ParamDatetime.bytes : ParamDatetime → List UInt8
  | .zero => [0]
  | .date d => 4 :: dateBytes d
  | .instant d c => 7 :: (dateBytes d ++ clockBytes c)
  | .precise d c micros => 11 :: (dateBytes d ++ clockBytes c ++ leBytes 4 micros)

def spanBytes (negative : Bool) (days : UInt32) (c : ClockFields) : List UInt8 :=
  (if negative then 1 else 0) :: (leBytes 4 days.toNat ++ clockBytes c)

def ParamTime.bytes : ParamTime → List UInt8
  | .zero => [0]
  | .clock negative days c => 8 :: spanBytes negative days c
  | .precise negative days c micros => 12 :: (spanBytes negative days c ++ leBytes 4 micros)

/-- An integer in two's complement, in as many bytes as its type has. -/
def ParamValue.bytes (ty : UInt8) : ParamValue → List UInt8
  | .int n =>
    let k := (integerSize ty).getD 0
    leBytes k (n % 2 ^ (8 * k)).toNat
  | .float b => leBytes 4 b.toNat
  | .double b => leBytes 8 b.toNat
  | .text t => putLenencStr t
  | .blob bytes => putLenencBytes bytes
  | .datetime t => t.bytes
  | .time t => t.bytes

/-- The bytes of the values, NULLs left out. -/
def valuesBytes (ps : List BoundParam) : List UInt8 :=
  ps.flatMap fun p => (p.value.map (ParamValue.bytes p.ty)).getD []

/-- A bit for each parameter, set for a NULL; the bits after the last one are of no account. -/
def IsNullBitmap (ps : List BoundParam) (bitmap : List UInt8) : Prop :=
  bitmap.length = (ps.length + 7) / 8 ∧
    ∀ i (h : i < ps.length), nullAt bitmap i = (ps.get ⟨i, h⟩).value.isNone

/-- The flag among the flags of a type. -/
def isUnsigned (flags : UInt8) : Bool := flags.toNat.testBit 7

def typeKind (x : UInt8 × UInt8) : UInt8 × Bool := (x.1, isUnsigned x.2)

/-- The payload after its head is one that a client sends for these parameters. The types are those of
the parameters, or left out where they are the same as before. -/
def Encodes (previous : List (UInt8 × Bool)) (ps : List BoundParam) (s : List UInt8) : Prop :=
  if ps = [] then s = []
  else ∃ bitmap, IsNullBitmap ps bitmap ∧
    ((∃ table : List (UInt8 × UInt8), table.map typeKind = ps.map BoundParam.kind ∧
        s = bitmap ++ 1 :: (table.flatMap (fun x => [x.1, x.2]) ++ valuesBytes ps)) ∨
      previous = ps.map BoundParam.kind ∧ s = bitmap ++ 0 :: valuesBytes ps)

/-! ### What a parameter denotes -/

/-- Numbers with the given characters between them. -/
def readSeparated : List Char → List Char → Option (List ℕ)
  | [], t => (readNat t).map ([·])
  | c :: cs, t => do
    let n ← readNat (t.takeWhile (· != c))
    match t.dropWhile (· != c) with
    | [] => none
    | _ :: t => return n :: (← readSeparated cs t)

/-- What stands before a point, and the six digits after it. -/
def splitMicros (t : List Char) : Option (List Char × ℕ) :=
  match t.dropWhile (· != '.') with
  | [] => some (t, 0)
  | _ :: f => if f.length = 6 then (readNat f).map fun n => (t.takeWhile (· != '.'), n) else none

/-- Year, month, day, hour, minute, second and microseconds of `YYYY-MM-DD`, with a time after it or
without. -/
def readDatetimeText (t : List Char) : Option (List ℕ) := do
  let (t, micros) ← splitMicros t
  match readSeparated ['-', '-'] t with
  | some fields => return fields ++ [0, 0, 0, micros]
  | none => return (← readSeparated ['-', '-', ' ', ':', ':'] t) ++ [micros]

/-- The microseconds of `hh:mm:ss` with any number of hours. -/
def readTimeText (t : List Char) : Option ℤ := do
  let (negative, t) := splitSign t
  let (t, micros) ← splitMicros t
  match ← readSeparated [':', ':'] t with
  | [hour, minute, second] =>
    let total := clockMicros hour minute second micros
    return if negative then -total else total
  | _ => none

def ParamDatetime.fields : ParamDatetime → List ℕ
  | .zero => [0, 0, 0, 0, 0, 0, 0]
  | .date d => [d.year, d.month, d.day, 0, 0, 0, 0]
  | .instant d c => [d.year, d.month, d.day, c.hour, c.minute, c.second, 0]
  | .precise d c micros => [d.year, d.month, d.day, c.hour, c.minute, c.second, micros]

/-- A span of days and a time of day in microseconds. -/
def spanMicros (negative : Bool) (days : UInt32) (c : ClockFields) (micros : ℕ) : ℤ :=
  let total := (days.toNat : ℤ) * microsPerDay + clockMicros c.hour c.minute c.second micros
  if negative then -total else total

def ParamTime.micros : ParamTime → ℤ
  | .zero => 0
  | .clock negative days c => spanMicros negative days c 0
  | .precise negative days c micros => spanMicros negative days c micros

/-- The parameter read by the server is the client's value: the same number, text, bytes, instant or
span. -/
def Denotes : SqlParam → ParamValue → Prop
  | .integer i, .int n => i = n
  | .float g, .float b => f64.value g = f32.value b
  | .float g, .double b => g = b
  | .text t, .text t' => t = t'
  | .bytes bytes, .blob bytes' => bytes = bytes'
  | .text t, .datetime v => readDatetimeText t = some v.fields
  | .text t, .time v => readTimeText t = some v.micros
  | _, _ => False

def DenotesBound (param : SqlParam) (p : BoundParam) : Prop :=
  match p.value with
  | none => param = .null
  | some v => Denotes param v

end Rsduck.Mysql
