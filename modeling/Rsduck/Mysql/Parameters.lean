import Rsduck.Db.Params
import Rsduck.Lib.DecimalText
import Rsduck.Lib.Wire
import Rsduck.Mysql.Row

/-!
The parameters of `COM_STMT_EXECUTE`, read from its payload.
-/

namespace Rsduck.Mysql

open Lib Lib.DecimalText Lib.FloatFormat Lib.Wire Lib.Wire.Reader Db

/-! ### Parts of the payload -/

def truncated : String := "truncated MySQL packet"

def takeByte : Reader UInt8 := do
  return (← take 1 truncated).headD 0

/-- A little-endian number of `k` bytes. -/
def getLe (k : ℕ) : Reader ℕ := ofLeBytes <$> take k truncated

def getLenencInt : Reader ℕ := do
  let first ← takeByte
  if first = 0xfc then getLe 2
  else if first = 0xfd then getLe 3
  else if first = 0xfe then getLe 8
  else if first = 0xff then throw "invalid length encoded integer marker 0xff"
  else return first.toNat

def getLenencBytes : Reader (List UInt8) := do
  take (← getLenencInt) truncated

/-! ### Values -/

def mysqlTypeString : UInt8 := 0xfe

/-- Two's complement of `k` bytes. -/
def toSigned (k n : ℕ) : ℤ := if n < 2 ^ (8 * k - 1) then n else (n : ℤ) - 2 ^ (8 * k)

/-- `value as f64`: the same number in the wider format, a NaN made quiet. -/
def widen (value : F32) : F64 :=
  let m := f32.mantissa value
  let e := f32.exponent value
  let k := Nat.log2 m
  let wide : ℕ × ℕ :=
    if e = 255 then (2047, if m = 0 then 0 else (m ||| 2 ^ 22) * 2 ^ 29)
    else if e ≠ 0 then (e + 896, m * 2 ^ 29)
    else if m = 0 then (0, 0)
    else (k + 874, (m - 2 ^ k) * 2 ^ (52 - k))
  BitVec.ofNat _ ((if f32.negative value then 2 ^ 63 else 0) + wide.1 * 2 ^ 52 + wide.2)

def parseBinaryDatetime : Reader (List Char) := do
  let len := (← takeByte).toNat
  if len = 0 then return "0000-00-00".toList
  if len ≠ 4 ∧ len ≠ 7 ∧ len ≠ 11 then throw s!"invalid datetime parameter length: {len}"
  let year ← getLe 2
  let month ← takeByte
  let day ← takeByte
  let date := padded 4 year ++ '-' :: padded 2 month.toNat ++ '-' :: padded 2 day.toNat
  if len = 4 then return date
  let hour ← takeByte
  let minute ← takeByte
  let second ← takeByte
  let instant := date ++ ' ' :: padded 2 hour.toNat ++ ':' :: padded 2 minute.toNat ++
    ':' :: padded 2 second.toNat
  if len = 7 then return instant
  let micros ← getLe 4
  return instant ++ '.' :: padded 6 micros

def parseBinaryTime : Reader (List Char) := do
  let len := (← takeByte).toNat
  if len = 0 then return "00:00:00".toList
  if len ≠ 8 ∧ len ≠ 12 then throw s!"invalid time parameter length: {len}"
  let negative := (← takeByte) != 0
  let days ← getLe 4
  -- the sum of two `u32`
  let hours := ((← takeByte).toNat + days * 24) % 2 ^ 32
  let minutes ← takeByte
  let seconds ← takeByte
  let time := (if negative then ['-'] else []) ++ padded 2 hours ++ ':' :: padded 2 minutes.toNat ++
    ':' :: padded 2 seconds.toNat
  if len = 8 then return time
  let micros ← getLe 4
  return time ++ '.' :: padded 6 micros

def textTypes : List UInt8 :=
  [mysqlTypeVarString, mysqlTypeString, mysqlTypeNewdecimal, mysqlTypeJson]

def datetimeTypes : List UInt8 := [mysqlTypeDate, mysqlTypeDatetime, mysqlTypeTimestamp]

def parseBinaryParam (ty : UInt8) : Reader SqlParam := do
  if ty = mysqlTypeTiny then return .integer (toSigned 1 (← takeByte).toNat)
  else if ty = mysqlTypeShort then return .integer (toSigned 2 (← getLe 2))
  else if ty = mysqlTypeLong then return .integer (toSigned 4 (← getLe 4))
  else if ty = mysqlTypeLonglong then return .integer (toSigned 8 (← getLe 8))
  else if ty = mysqlTypeFloat then return .float (widen (BitVec.ofNat _ (← getLe 4)))
  else if ty = mysqlTypeDouble then return .float (BitVec.ofNat _ (← getLe 8))
  else if ty ∈ textTypes then
    match ofUtf8 (← getLenencBytes) with
    | some value => return .text value
    | none => throw "invalid string parameter"
  else if ty = mysqlTypeBlob then return .bytes (← getLenencBytes)
  else if ty ∈ datetimeTypes then return .text (← parseBinaryDatetime)
  else if ty = mysqlTypeTime then return .text (← parseBinaryTime)
  else throw s!"unsupported MySQL prepared parameter type: {ty.toNat}"

/-! ### All parameters -/

/-- A type and its flags for each parameter. -/
def parseParamTypes : ℕ → Reader (List UInt8)
  | 0 => pure []
  | n + 1 => do
    let ty ← takeByte
    let _ ← takeByte
    return ty :: (← parseParamTypes n)

/-- The parameters from `idx` on. -/
def parseParamsFrom (nullBitmap : List UInt8) (idx : ℕ) : List UInt8 → Reader (List SqlParam)
  | [] => pure []
  | ty :: types => do
    let param ← if (nullBitmap.getD (idx / 8) 0).toNat.testBit (idx % 8) then pure .null
      else parseBinaryParam ty
    return param :: (← parseParamsFrom nullBitmap (idx + 1) types)

/-- The parameters, and the types they were read with. -/
def parseExecuteParams (paramCount : ℕ) (previousTypes : List UInt8) :
    Reader (List SqlParam × List UInt8) := do
  if paramCount = 0 then return ([], [])
  let nullBitmap ← take ((paramCount + 7) / 8) truncated
  let newParamsBound ← takeByte
  let types ← if newParamsBound = 1 then parseParamTypes paramCount
    else if previousTypes.length = paramCount then pure previousTypes
    else throw "COM_STMT_EXECUTE missing parameter types"
  return (← parseParamsFrom nullBitmap 0 types, types)

/-- One and a half is widened to itself, and so is the smallest number there is. -/
example : (widen 0x3fc00000#32).toNat = 0x3ff8000000000000 ∧
    (widen 1#32).toNat = 0x36a0000000000000 := by decide

end Rsduck.Mysql
