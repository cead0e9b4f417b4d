import Rsduck.Db.Value
import Rsduck.Mysql.Codec

/-!
Rows of a result set: column definitions, text rows and binary rows.
-/

namespace Rsduck.Mysql

open Lib Lib.Calendar Lib.Wire Db

/-! ### Type codes -/

def mysqlTypeTiny : UInt8 := 0x01
def mysqlTypeShort : UInt8 := 0x02
def mysqlTypeLong : UInt8 := 0x03
def mysqlTypeFloat : UInt8 := 0x04
def mysqlTypeDouble : UInt8 := 0x05
def mysqlTypeTimestamp : UInt8 := 0x07
def mysqlTypeLonglong : UInt8 := 0x08
def mysqlTypeDate : UInt8 := 0x0a
def mysqlTypeTime : UInt8 := 0x0b
def mysqlTypeDatetime : UInt8 := 0x0c
def mysqlTypeJson : UInt8 := 0xf5
def mysqlTypeNewdecimal : UInt8 := 0xf6
def mysqlTypeBlob : UInt8 := 0xfc
def mysqlTypeVarString : UInt8 := 0xfd

def mysqlCharsetBinary : ℕ := 63
def mysqlCharsetUtf8mb4 : ℕ := 45

def mysqlFlagBinary : ℕ := 0x0080
def mysqlFlagNum : ℕ := 0x8000

/-- Type, character set and flags. -/
def mysqlTypeForSqlType : SqlType → UInt8 × ℕ × ℕ
  | .bool => (mysqlTypeTiny, mysqlCharsetBinary, mysqlFlagNum)
  | .int2 => (mysqlTypeShort, mysqlCharsetBinary, mysqlFlagNum)
  | .int4 => (mysqlTypeLong, mysqlCharsetBinary, mysqlFlagNum)
  | .int8 => (mysqlTypeLonglong, mysqlCharsetBinary, mysqlFlagNum)
  | .float4 => (mysqlTypeFloat, mysqlCharsetBinary, mysqlFlagNum)
  | .float8 => (mysqlTypeDouble, mysqlCharsetBinary, mysqlFlagNum)
  | .numeric => (mysqlTypeNewdecimal, mysqlCharsetUtf8mb4, mysqlFlagNum)
  | .date => (mysqlTypeDate, mysqlCharsetBinary, 0)
  | .time => (mysqlTypeTime, mysqlCharsetBinary, 0)
  | .timestamp => (mysqlTypeDatetime, mysqlCharsetBinary, 0)
  | .timestampTz => (mysqlTypeTimestamp, mysqlCharsetBinary, 0)
  | .bytea => (mysqlTypeBlob, mysqlCharsetBinary, mysqlFlagBinary)
  | .json => (mysqlTypeJson, mysqlCharsetUtf8mb4, 0)
  | .uuid | .text => (mysqlTypeVarString, mysqlCharsetUtf8mb4, 0)

def decimalsForType : SqlType → UInt8
  | .float4 | .float8 | .numeric => 31
  | .timestamp | .timestampTz | .time => 6
  | _ => 0

/-! ### Length-encoded values -/

def putLenencInt (value : ℕ) : List UInt8 :=
  if value < 251 then [UInt8.ofNat value]
  else if value ≤ 0xffff then 0xfc :: leBytes 2 value
  else if value ≤ 0xffffff then 0xfd :: leBytes 3 value
  else 0xfe :: leBytes 8 value

def putLenencBytes (value : List UInt8) : List UInt8 := putLenencInt value.length ++ value

def putLenencStr (value : List Char) : List UInt8 := putLenencBytes (utf8 value)

/-! ### Column definitions -/

def columnDefinition (database : List Char) (column : SqlColumn) : List UInt8 :=
  let (columnType, charset, flags) := mysqlTypeForSqlType column.dataType
  putLenencStr "def".toList ++ putLenencStr database ++ putLenencStr [] ++ putLenencStr [] ++
    putLenencStr column.name ++ putLenencStr column.name ++ [0x0c] ++ leBytes 2 charset ++
    leBytes 4 (1024 * 1024) ++ [columnType] ++ leBytes 2 flags ++ [decimalsForType column.dataType] ++
    [0, 0]

/-! ### Rows -/

variable {C : Crates}

def putTextValue (value : SqlValue C) : List UInt8 :=
  if value.isNull then [0xfb] else putLenencStr (value.textValue.getD [])

def textRow (row : List (SqlValue C)) : List UInt8 := row.flatMap putTextValue

def putBinaryDate (d : Date) : List UInt8 :=
  4 :: leBytes 2 (d.year % 65536).toNat ++ [UInt8.ofNat d.month, UInt8.ofNat d.day]

def putBinaryDatetime (t : DateTime) : List UInt8 :=
  let micros := t.nanosecond / 1000
  [if micros = 0 then 7 else 11] ++ leBytes 2 (t.date.year % 65536).toNat ++
    [UInt8.ofNat t.date.month, UInt8.ofNat t.date.day, UInt8.ofNat t.hour, UInt8.ofNat t.minute,
      UInt8.ofNat t.second] ++ if micros = 0 then [] else leBytes 4 micros

def putBinaryTime (t : NaiveTime) : List UInt8 :=
  let micros := t.nanosecond / 1000
  [if micros = 0 then 8 else 12, 0] ++ leBytes 4 0 ++
    [UInt8.ofNat (t.seconds / 3600), UInt8.ofNat (t.seconds / 60 % 60),
      UInt8.ofNat (t.seconds % 60)] ++ if micros = 0 then [] else leBytes 4 micros

def putBinaryValue : SqlValue C → List UInt8
  | .null => []
  | .bool v => [if v then 1 else 0]
  | .int16 v => leBytes 2 v.toUInt16.toNat
  | .int32 v => leBytes 4 v.toUInt32.toNat
  | .int64 v => leBytes 8 v.toUInt64.toNat
  | .float32 v => leBytes 4 v.toNat
  | .float64 v => leBytes 8 v.toNat
  | .date v => putBinaryDate v
  | .time v => putBinaryTime v
  | .timestamp v => putBinaryDatetime v
  | .timestampTz v => putBinaryDatetime v
  | .bytes v => putLenencBytes v
  | .decimal v => putLenencStr (C.decimalText v)
  | .numericText v | .text v => putLenencStr v
  | .uuid v => putLenencStr (C.uuidText v)
  | .json v => putLenencStr (C.jsonText v)
  | .interval months days nanos => putLenencStr (intervalText months days nanos)

/-- The bit of a column in the bitmap, two places further on. -/
def markNull (bitmap : List UInt8) (idx : ℕ) : List UInt8 :=
  bitmap.modify ((idx + 2) / 8) fun b => b ||| 1 <<< UInt8.ofNat ((idx + 2) % 8)

/-- The loop over a row from column `idx` on: the bitmap, and the values behind it. -/
def binaryRowFrom (bitmap out : List UInt8) (idx : ℕ) : List (SqlValue C) → List UInt8 × List UInt8
  | [] => (bitmap, out)
  | value :: row =>
    if value.isNull then binaryRowFrom (markNull bitmap idx) out (idx + 1) row
    else binaryRowFrom bitmap (out ++ putBinaryValue value) (idx + 1) row

def binaryRow (row : List (SqlValue C)) : List UInt8 :=
  let bitmap := List.replicate ((row.length + 7 + 2) / 8) 0
  let result := binaryRowFrom bitmap [] 0 row
  0x00 :: result.1 ++ result.2

end Rsduck.Mysql
