import Rsduck.Mysql.Decoding

/-!
Cells of a query result, and which of them a row carries.

The conditions are on the driver's value alone: the days, instants and times of day that the
protocol's layouts and texts can hold.
-/

namespace Rsduck.Mysql

open Lib Lib.Calendar Lib.DecimalText Lib.FloatFormat Lib.Wire Lib.Wire.Reader Db

variable {C : Crates}

/-! ### Days, instants and times of day -/

def DayWithin (last : ℤ) (v : Int32) : Prop :=
  ∃ d : Date, 0 ≤ d.year ∧ d.year ≤ last ∧ d.dayNumber = v.toInt

/-- The value is a whole number of microseconds in the years from 0 to `last`. -/
def InstantWithin (last : ℤ) (unit : TimeUnit) (v : Int64) : Prop :=
  ∃ t : DateTime, Plain t ∧ 0 ≤ t.date.year ∧ t.date.year ≤ last ∧
    t.micros * 1000 = v.toInt * unit.nanos

def TimeWithin (unit : TimeUnit) (v : Int64) : Prop :=
  ∃ micros : ℤ, 0 ≤ micros ∧ micros < microsPerDay ∧ micros * 1000 = v.toInt * unit.nanos

lemma toMicros_eq {unit : TimeUnit} {v : Int64} {n : ℤ} (h0 : -2 ^ 63 ≤ n) (h1 : n < 2 ^ 63)
    (h : n * 1000 = v.toInt * unit.nanos) : (C.toMicros unit v).toInt = n := by
  have hn : (Int64.ofInt n).toInt = n := Int64.toInt_ofInt_of_le h0 h1
  rw [C.toMicros_exact unit v (Int64.ofInt n) (by rw [hn, h]), hn]

lemma dayNumber_bounds {d : Date} (h0 : 0 ≤ d.year) (h1 : d.year ≤ 65535) :
    -719529 ≤ d.dayNumber ∧ d.dayNumber ≤ 24000000 := by
  obtain ⟨-, hlt⟩ := dayOfYear_lt d
  have hge := one_le_daysBeforeMonth d
  have hday := d.dayOk.1
  unfold Date.dayNumber
  unfold daysBeforeYear at *
  omega

lemma timestampToUtc_of_instant {unit : TimeUnit} {v : Int64} {t : DateTime} (ht : Plain t)
    (h0 : 0 ≤ t.date.year) (h1 : t.date.year ≤ 65535)
    (h : t.micros * 1000 = v.toInt * unit.nanos) : timestampToUtc C unit v = some t := by
  have hd := dayNumber_bounds h0 h1
  have hs := secondOfDay_lt t
  have hm : t.micros = (t.date.dayNumber * 86400 + t.secondOfDay) * 1000000 +
    (t.nanosecond / 1000 : ℕ) := rfl
  have hns := ht.1
  rw [timestampToUtc, toMicros_eq (n := t.micros) (by omega) (by omega) h]
  exact ofMicros?_micros t ht.1 ht.2

lemma date32ToDate_eq_some {v : Int32} {d : Date} :
    date32ToDate v = some d ↔ d.dayNumber = v.toInt := ofDayNumber?_eq_some

/-- A time of day is always found: that of the microseconds modulo a day. -/
lemma time64ToTime_eq (unit : TimeUnit) (v : Int64) :
    ∃ t, time64ToTime C unit v = some t ∧ t.nanosecond < 1000000000 ∧
      ((t.seconds * 1000000 + t.nanosecond / 1000 : ℕ) : ℤ) =
        (C.toMicros unit v).toInt % microsPerDay := by
  unfold time64ToTime microsPerDay
  simp only
  rw [dif_pos (by omega)]
  refine ⟨_, rfl, ?_, ?_⟩
  · dsimp only
    omega
  · dsimp only
    omega

lemma timeWithin_iff {unit : TimeUnit} {v : Int64} :
    (C.toMicros unit v).toInt % microsPerDay * 1000 = v.toInt * unit.nanos ↔ TimeWithin unit v := by
  have hpos : 0 < microsPerDay := by decide
  constructor
  · intro h
    exact ⟨_, Int.emod_nonneg _ hpos.ne', Int.emod_lt_of_pos _ hpos, h⟩
  · rintro ⟨n, h0, h1, h⟩
    have hlt : microsPerDay < 2 ^ 63 := by decide
    rw [toMicros_eq (n := n) (by omega) (by omega) h, Int.emod_eq_of_lt h0 h1, h]

/-! ### Cells -/

/-- The values the driver gives for a column of a type. -/
inductive Gives : LogicalTypeId → ValueRef C → Prop
  | null (type) : Gives type .null
  | boolean (v) : Gives .boolean (.boolean v)
  | tinyInt (v) : Gives .tinyint (.tinyInt v)
  | smallInt (v) : Gives .smallint (.smallInt v)
  | int (v) : Gives .integer (.int v)
  | bigInt (v) : Gives .bigint (.bigInt v)
  | integerLiteral (v) : Gives .integerLiteral (.bigInt v)
  | hugeInt (v) : Gives .hugeint (.hugeInt v)
  | uHugeInt (v) : Gives .uHugeint (.hugeInt v)
  | uTinyInt (v) : Gives .uTinyint (.uTinyInt v)
  | uSmallInt (v) : Gives .uSmallint (.uSmallInt v)
  | uInt (v) : Gives .uInteger (.uInt v)
  | uBigInt (v) : Gives .uBigint (.uBigInt v)
  | float (v) : Gives .float (.float v)
  | double (v) : Gives .double (.double v)
  | decimal (v) : Gives .decimal (.decimal v)
  | wholeDecimal (v) : Gives .decimal (.hugeInt v)
  | bignum (v) (h : (readDecimal v).isSome) : Gives .bignum (.text v)
  | timestamp {type} (h : sqlTypeForDuckdbType type = .timestamp) (unit v) :
    Gives type (.timestamp unit v)
  | timestampTz (unit v) : Gives .timestampTz (.timestamp unit v)
  | date32 (v) : Gives .date (.date32 v)
  | time64 {type} (h : sqlTypeForDuckdbType type = .time) (unit v) : Gives type (.time64 unit v)
  | timeTz (unit v) : Gives .timeTz (.time64 unit v)
  | uuid (u) : Gives .uuid (.text (C.uuidText u))
  | blob (v) : Gives .blob (.blob v)
  | text {type} (h : sqlTypeForDuckdbType type = .text) (v) : Gives type (.text v)
  | interval (months days nanos) : Gives .interval (.interval months days nanos)
  | enum (label) : Gives .enum (.enum (some label) label)
  | nested {type} (h : sqlTypeForDuckdbType type = .json) (v) : Gives type (.nested v)

structure ShortText where
  text : List Char
  short : (utf8 text).length < 2 ^ 64

structure Cell (C : Crates) where
  name : ShortText
  type : LogicalTypeId
  value : ValueRef C
  given : Gives type value
  /-- No text of the cell is longer than memory. -/
  short : ∀ t ∈ (valueRefToSqlValue value (sqlTypeForDuckdbType type)).textValue,
    (utf8 t).length < 2 ^ 64

mutual

/-- Its JSON document holds a nested value: floats are finite, a date or time has a year of four
digits and whole microseconds, and no two fields of a struct have one name. -/
def NestedFits : Value C → Prop
  | .float v => f32.isFinite v = true
  | .double v => f64.isFinite v = true
  | .timestamp unit v => InstantWithin 9999 unit v
  | .date32 v => DayWithin 9999 v
  | .time64 unit v => TimeWithin unit v
  | .list values | .array values => AllFit values
  | .struct fields => (fields.map Prod.fst).Nodup ∧ FieldsFit fields
  | .map entries => EntriesFit entries
  | .union value => NestedFits value
  | _ => True

def AllFit : List (Value C) → Prop
  | [] => True
  | v :: vs => NestedFits v ∧ AllFit vs

def FieldsFit : List (List Char × Value C) → Prop
  | [] => True
  | (_, v) :: vs => NestedFits v ∧ FieldsFit vs

def EntriesFit : List (Value C × Value C) → Prop
  | [] => True
  | (k, v) :: vs => NestedFits k ∧ NestedFits v ∧ EntriesFit vs

end

namespace Cell

def column (c : Cell C) : SqlColumn := ⟨c.name.text, sqlTypeForDuckdbType c.type⟩

def sqlValue (c : Cell C) : SqlValue C := valueRefToSqlValue c.value c.column.dataType

/-- A binary row carries the cell: its date or time has a year of sixteen bits and whole
microseconds, its column is not announced as text for a time, and a nested value fits its
document. -/
def BinaryFits (c : Cell C) : Prop :=
  match c.value with
  | .date32 v => DayWithin 65535 v
  | .timestamp unit v => InstantWithin 65535 unit v
  | .time64 unit v => c.type ≠ .timeTz ∧ TimeWithin unit v
  | .nested v => NestedFits v
  | _ => True

/-- A text row carries the cell: it is not a truth value, bytes or a time with a zone, a float is
finite, a date or time has a year of four digits and whole microseconds, and a nested value fits
its document. -/
def TextFits (c : Cell C) : Prop :=
  match c.value with
  | .boolean _ | .blob _ => False
  | .float v => f32.isFinite v = true
  | .double v => f64.isFinite v = true
  | .date32 v => DayWithin 9999 v
  | .timestamp unit v => c.type ≠ .timestampTz ∧ InstantWithin 9999 unit v
  | .time64 unit v => TimeWithin unit v
  | .nested v => NestedFits v
  | _ => True

end Cell

/-! ### What a cell is sent as -/

lemma eq_null_of_isNull {v : ValueRef C} {dataType : SqlType}
    (h : (valueRefToSqlValue v dataType).isNull = true) : v = .null := by
  cases v with
  | null => rfl
  | hugeInt v =>
    rw [valueRefToSqlValue] at h
    split at h <;> cases h
  | timestamp unit v =>
    rw [valueRefToSqlValue, timestampValue] at h
    split at h
    · cases h
    · split_ifs at h <;> cases h
  | text v =>
    rw [valueRefToSqlValue, textValueRef] at h
    split_ifs at h
    · split at h <;> cases h
    · cases h
  | date32 v =>
    rw [valueRefToSqlValue] at h
    split at h <;> cases h
  | time64 unit v =>
    rw [valueRefToSqlValue] at h
    split at h <;> cases h
  | enum asStr label => cases asStr <;> cases h
  | _ => cases h

lemma Cell.isNull_eq_false {c : Cell C} (h : c.value ≠ .null) : c.sqlValue.isNull = false := by
  rcases hnull : c.sqlValue.isNull with _ | _
  · rfl
  · exact absurd (eq_null_of_isNull hnull) h

lemma length_le_utf8 (t : List Char) : t.length ≤ (utf8 t).length := by
  induction t with
  | nil => exact Nat.le_refl 0
  | cons c t ih =>
    have hc : 0 < (String.utf8EncodeChar c).length := by
      rw [String.length_utf8EncodeChar]
      exact c.utf8Size_pos
    rw [utf8, List.flatMap_cons, List.length_append, List.length_cons, ← utf8]
    omega

lemma length_hexEncode (bytes : List UInt8) : (hexEncode bytes).length = 2 * bytes.length := by
  induction bytes with
  | nil => rfl
  | cons b bs ih =>
    rw [hexEncode, List.flatMap_cons, List.length_append, ← hexEncode, ih, List.length_cons,
      List.length_cons, List.length_cons, List.length_nil]
    omega

lemma length_lt_hex (v : List UInt8) : v.length < (utf8 ("\\x".toList ++ hexEncode v)).length := by
  have h := length_le_utf8 ("\\x".toList ++ hexEncode v)
  rw [List.length_append, length_hexEncode] at h
  have : "\\x".toList.length = 2 := rfl
  omega

/-- The value goes out as this text in both kinds of rows. -/
def SentAs (v : SqlValue C) (t : List Char) : Prop :=
  v.isNull = false ∧ v.textValue = some t ∧ putBinaryValue v = putLenencStr t

lemma sentAs_hugeInt (v : BitVec 128) (dataType : SqlType) :
    ∃ t, SentAs (valueRefToSqlValue (C := C) (.hugeInt v) dataType) t ∧
      readDecimal t = some (v.toInt : ℚ) := by
  rcases h : C.tryFromI128 v.toInt with _ | d
  · refine ⟨intText v.toInt, ?_, readDecimal_intText v.toInt⟩
    rw [valueRefToSqlValue, h]
    exact ⟨rfl, rfl, rfl⟩
  · refine ⟨C.decimalText d, ?_, ?_⟩
    · rw [valueRefToSqlValue, h]
      exact ⟨rfl, rfl, rfl⟩
    · rw [C.decimalText_reads, C.tryFromI128_number _ _ h]

lemma sentAs_uuid (u : C.Uuid) :
    SentAs (valueRefToSqlValue (C := C) (.text (C.uuidText u)) .uuid) (C.uuidText u) := by
  rw [valueRefToSqlValue, textValueRef, if_pos rfl, C.parseUuid_text]
  exact ⟨rfl, rfl, rfl⟩

lemma time64_value (unit : TimeUnit) (v : Int64) (dataType : SqlType) :
    ∃ t, valueRefToSqlValue (C := C) (.time64 unit v) dataType = .time t ∧
      t.nanosecond < 1000000000 ∧ ((t.seconds * 1000000 + t.nanosecond / 1000 : ℕ) : ℤ) =
        (C.toMicros unit v).toInt % microsPerDay := by
  obtain ⟨t, ht, hns, heq⟩ := time64ToTime_eq (C := C) unit v
  refine ⟨t, ?_, hns, heq⟩
  rw [valueRefToSqlValue, ht]

end Rsduck.Mysql
