import Rsduck.Lib.FloatApart
import Rsduck.Mysql.BinaryRow

/-!
Text rows, and the rows that a client recovers.
-/

namespace Rsduck.Mysql

open Lib Lib.Calendar Lib.DecimalText Lib.FloatFormat Lib.JsonText Lib.Wire Lib.Wire.Reader Db

variable {C : Crates}

lemma f32_small : f32.Small := ⟨by decide, by decide⟩

lemma f64_small : f64.Small := ⟨by decide, by decide⟩

namespace Cell

/-- The client takes the text for the cell exactly when a text row carries it. -/
def TextIff (c : Cell C) : Prop :=
  ∃ t, c.sqlValue.isNull = false ∧ c.sqlValue.textValue = some t ∧
    ((∃ w, readText (layoutOf c.column.dataType) t = some w ∧ Represents c.value w) ↔ c.TextFits)

lemma textIff_of_reads {c : Cell C} {t : List Char} {w : ClientValue}
    (hnull : c.sqlValue.isNull = false) (ht : c.sqlValue.textValue = some t) (hfits : c.TextFits)
    (hread : readText (layoutOf c.column.dataType) t = some w) (hrep : Represents c.value w) :
    c.TextIff :=
  ⟨t, hnull, ht, fun _ => hfits, fun _ => ⟨w, hread, hrep⟩⟩

/-- The text of a timestamp; `suffix` is its zone. -/
lemma text_timestamp {c : Cell C} {unit : TimeUnit} {v : Int64} (hv : c.value = .timestamp unit v)
    (suffix : List Char) (hsuffix : suffix = if c.column.dataType = .timestampTz then "+00:00".toList
      else []) :
    ∃ text, c.sqlValue.isNull = false ∧ c.sqlValue.textValue = some text ∧
      ∀ t, timestampToUtc C unit v = some t → text = dateTimeText t ++ suffix := by
  rw [sqlValue, hv, valueRefToSqlValue, timestampValue]
  rcases timestampToUtc C unit v with _ | t
  · exact ⟨_, rfl, rfl, fun _ h => by cases h⟩
  · dsimp only
    split_ifs at hsuffix ⊢
    · exact ⟨_, rfl, rfl, fun t' h => by cases h; rw [hsuffix]⟩
    · exact ⟨_, rfl, rfl, fun t' h => by cases h; rw [hsuffix, List.append_nil]⟩

/-- A timestamp the client takes from a text is one of a year with four digits. -/
lemma instantWithin_of_reads {c : Cell C} {unit : TimeUnit} {v : Int64}
    (hv : c.value = .timestamp unit v) {text : List Char} {w : ClientValue}
    (hread : readText .dateTime text = some w) (hrep : Represents c.value w) :
    ∃ t, readDateTime text = some t ∧ Plain t ∧ 0 ≤ t.date.year ∧ t.date.year ≤ 9999 ∧
      t.micros * 1000 = v.toInt * unit.nanos := by
  obtain ⟨t, ht, rfl⟩ := Option.map_eq_some_iff.1 hread
  obtain ⟨hplain, h0, h1⟩ := year_of_readDateTime ht
  rw [hv] at hrep
  exact ⟨t, ht, hplain, h0, h1, hrep⟩

lemma textIff_timestamp {c : Cell C} {unit : TimeUnit} {v : Int64}
    (hv : c.value = .timestamp unit v) (htype : c.column.dataType = .timestamp) : c.TextIff := by
  have hne : c.type ≠ .timestampTz := by
    intro h
    rw [column, h] at htype
    cases htype
  have hfits : c.TextFits ↔ InstantWithin 9999 unit v := by
    rw [TextFits, hv]
    exact and_iff_right hne
  obtain ⟨text, hnull, htext, hutc⟩ := text_timestamp hv [] (by rw [htype]; rfl)
  refine ⟨text, hnull, htext, ?_⟩
  rw [hfits, htype]
  constructor
  · rintro ⟨w, hread, hrep⟩
    obtain ⟨t, -, hplain, h0, h1, heq⟩ := instantWithin_of_reads hv hread hrep
    exact ⟨t, hplain, h0, h1, heq⟩
  · rintro ⟨t, hplain, h0, h1, heq⟩
    have ht := readDateTime_dateTimeText hplain h0 h1 []
    rw [if_pos rfl, ← hutc t (timestampToUtc_of_instant hplain h0 (by omega) heq)] at ht
    refine ⟨.dateTime t, congrArg (Option.map ClientValue.dateTime) ht, ?_⟩
    rw [hv]
    exact heq

/-- A timestamp with a zone is sent with its zone, which the client does not take. -/
lemma textIff_timestampTz {c : Cell C} {unit : TimeUnit} {v : Int64}
    (hv : c.value = .timestamp unit v) (htype : c.type = .timestampTz) : c.TextIff := by
  have hdata : c.column.dataType = .timestampTz := by rw [column, htype]; rfl
  have hfits : ¬ c.TextFits := by
    rw [TextFits, hv]
    exact fun h => h.1 htype
  obtain ⟨text, hnull, htext, hutc⟩ := text_timestamp hv "+00:00".toList
    (by rw [hdata]; rfl)
  refine ⟨text, hnull, htext, ?_, fun h => absurd h hfits⟩
  rw [hdata]
  rintro ⟨w, hread, hrep⟩
  obtain ⟨t, ht, hplain, h0, h1, heq⟩ := instantWithin_of_reads hv hread hrep
  have hzone := readDateTime_dateTimeText hplain h0 h1 "+00:00".toList
  rw [if_neg (by decide), ← hutc t (timestampToUtc_of_instant hplain h0 (by omega) heq), ht] at hzone
  cases hzone

lemma textIff_date {c : Cell C} {v : Int32} (hv : c.value = .date32 v)
    (htype : c.column.dataType = .date) : c.TextIff := by
  have hfits : c.TextFits ↔ DayWithin 9999 v := by rw [TextFits, hv]
  have htext : ∃ text, c.sqlValue.isNull = false ∧ c.sqlValue.textValue = some text ∧
      ∀ d, date32ToDate v = some d → text = dateText d := by
    rw [sqlValue, hv, valueRefToSqlValue]
    rcases date32ToDate v with _ | d
    · exact ⟨_, rfl, rfl, fun _ h => by cases h⟩
    · exact ⟨_, rfl, rfl, fun d' h => by cases h; rfl⟩
  obtain ⟨text, hnull, htext, hdate⟩ := htext
  refine ⟨text, hnull, htext, ?_⟩
  rw [hfits, htype, hv]
  constructor
  · rintro ⟨w, hread, hrep⟩
    change ((readDate text).bind fun found =>
      if found.2 = [] then some (ClientValue.date found.1) else none) = some w at hread
    simp only [Option.bind_eq_some_iff] at hread
    obtain ⟨⟨d, s⟩, hd, hread⟩ := hread
    obtain ⟨h0, h1⟩ := year_of_readDate hd
    dsimp only at hread
    split_ifs at hread
    cases hread
    exact ⟨d, h0, h1, hrep⟩
  · rintro ⟨d, h0, h1, heq⟩
    have hread := readDate_dateText h0 h1 []
    rw [List.append_nil, ← hdate d (date32ToDate_eq_some.2 heq)] at hread
    refine ⟨.date d, ?_, heq⟩
    change ((readDate text).bind fun found =>
      if found.2 = [] then some (ClientValue.date found.1) else none) = _
    rw [hread]
    rfl

/-- A time of day is taken for the microseconds modulo a day. -/
lemma text_time64 {c : Cell C} {unit : TimeUnit} {v : Int64} (hv : c.value = .time64 unit v) :
    ∃ text, c.sqlValue.isNull = false ∧ c.sqlValue.textValue = some text ∧
      readTime text = some ((C.toMicros unit v).toInt % microsPerDay) := by
  obtain ⟨t, ht, hns, heq⟩ := time64_value (C := C) unit v c.column.dataType
  rw [sqlValue, hv, ht]
  exact ⟨t.text, rfl, rfl, by rw [readTime_text hns, heq]⟩

lemma textIff_time64 {c : Cell C} {unit : TimeUnit} {v : Int64} (hv : c.value = .time64 unit v)
    (htype : c.column.dataType = .time ∨ c.column.dataType = .text) : c.TextIff := by
  have hfits : c.TextFits ↔ TimeWithin unit v := by rw [TextFits, hv]
  obtain ⟨text, hnull, htext, htime⟩ := text_time64 hv
  refine ⟨text, hnull, htext, ?_⟩
  rw [hfits, ← timeWithin_iff (C := C), hv]
  rcases htype with htype | htype
  · rw [htype]
    constructor
    · rintro ⟨w, hread, hrep⟩
      obtain ⟨micros, hm, rfl⟩ := Option.map_eq_some_iff.1 hread
      rw [htime] at hm
      cases hm
      exact hrep
    · intro h
      exact ⟨_, congrArg (Option.map ClientValue.time) htime, h⟩
  · rw [htype]
    constructor
    · rintro ⟨w, hread, hrep⟩
      cases hread
      obtain ⟨micros, hm, hrep⟩ := hrep
      rw [htime] at hm
      cases hm
      exact hrep
    · intro h
      exact ⟨.text text, rfl, _, htime, h⟩

lemma textIff (c : Cell C) (hnull : c.sqlValue.isNull = false) : c.TextIff := by
  obtain ⟨name, type, value, given, short⟩ := c
  cases given with
  | null => cases hnull
  | boolean v =>
    refine ⟨_, hnull, rfl, ?_, False.elim⟩
    rintro ⟨w, hw, -⟩
    cases v <;> cases hw
  | tinyInt v =>
    refine textIff_of_reads hnull rfl trivial (w := .int v.toInt) ?_ rfl
    rw [← Int8.toInt_toInt16]
    exact congrArg (Option.map ClientValue.int) (readInt_intText _)
  | smallInt v =>
    exact textIff_of_reads hnull rfl trivial
      (congrArg (Option.map ClientValue.int) (readInt_intText v.toInt)) rfl
  | int v =>
    exact textIff_of_reads hnull rfl trivial
      (congrArg (Option.map ClientValue.int) (readInt_intText v.toInt)) rfl
  | bigInt v =>
    exact textIff_of_reads hnull rfl trivial
      (congrArg (Option.map ClientValue.int) (readInt_intText v.toInt)) rfl
  | integerLiteral v =>
    exact textIff_of_reads hnull rfl trivial
      (congrArg (Option.map ClientValue.int) (readInt_intText v.toInt)) rfl
  | uTinyInt v =>
    exact textIff_of_reads hnull rfl trivial
      (congrArg (Option.map ClientValue.int) (readInt_intText v.toUInt16.toInt16.toInt))
      (toInt_uTinyInt v)
  | uSmallInt v =>
    exact textIff_of_reads hnull rfl trivial
      (congrArg (Option.map ClientValue.int) (readInt_intText v.toUInt32.toInt32.toInt))
      (toInt_uSmallInt v)
  | uInt v =>
    exact textIff_of_reads hnull rfl trivial
      (congrArg (Option.map ClientValue.int) (readInt_intText v.toUInt64.toInt64.toInt))
      (toInt_uInt v)
  | hugeInt v =>
    obtain ⟨t, ht, hq⟩ := sentAs_hugeInt (C := C) v .numeric
    exact textIff_of_reads hnull ht.2.1 trivial (congrArg (Option.map ClientValue.number) hq) rfl
  | uHugeInt v =>
    obtain ⟨t, ht, hq⟩ := sentAs_hugeInt (C := C) v .numeric
    exact textIff_of_reads hnull ht.2.1 trivial (congrArg (Option.map ClientValue.number) hq) rfl
  | wholeDecimal v =>
    obtain ⟨t, ht, hq⟩ := sentAs_hugeInt (C := C) v .numeric
    exact textIff_of_reads hnull ht.2.1 trivial (congrArg (Option.map ClientValue.number) hq) rfl
  | uBigInt v =>
    have hq := C.decimalText_reads (C.fromU64 v.toNat)
    rw [C.fromU64_number _ v.toNat_lt] at hq
    exact textIff_of_reads hnull rfl trivial (congrArg (Option.map ClientValue.number) hq) rfl
  | decimal v =>
    exact textIff_of_reads hnull rfl trivial
      (congrArg (Option.map ClientValue.number) (C.decimalText_reads v)) rfl
  | bignum v hread =>
    obtain ⟨q, hq⟩ := Option.isSome_iff_exists.1 hread
    exact textIff_of_reads hnull rfl trivial (congrArg (Option.map ClientValue.number) hq) hq
  | float v =>
    refine ⟨_, hnull, rfl, ?_, ?_⟩
    · rintro ⟨w, hread, hrep⟩
      obtain ⟨q, -, rfl⟩ := Option.map_eq_some_iff.1 hread
      exact hrep.1
    · intro h
      obtain ⟨q, hq, hrounds⟩ := readDecimal_display f32_small h
      exact ⟨.number q, congrArg (Option.map ClientValue.number) hq, hrounds⟩
  | double v =>
    refine ⟨_, hnull, rfl, ?_, ?_⟩
    · rintro ⟨w, hread, hrep⟩
      obtain ⟨q, -, rfl⟩ := Option.map_eq_some_iff.1 hread
      exact hrep.1
    · intro h
      obtain ⟨q, hq, hrounds⟩ := readDecimal_display f64_small h
      exact ⟨.number q, congrArg (Option.map ClientValue.number) hq, hrounds⟩
  | timestamp htype unit v => exact textIff_timestamp rfl htype
  | timestampTz unit v => exact textIff_timestampTz rfl rfl
  | date32 v => exact textIff_date rfl rfl
  | time64 htype unit v => exact textIff_time64 rfl (Or.inl htype)
  | timeTz unit v => exact textIff_time64 rfl (Or.inr rfl)
  | uuid u => exact textIff_of_reads hnull (sentAs_uuid u).2.1 trivial rfl rfl
  | blob v =>
    refine ⟨_, hnull, rfl, ?_, False.elim⟩
    rintro ⟨w, hread, hrep⟩
    cases hread
    have hlt := length_lt_hex v
    rw [show utf8 _ = v from hrep] at hlt
    omega
  | text htype v =>
    have hv : valueRefToSqlValue (C := C) (.text v) (sqlTypeForDuckdbType type) = .text v := by
      rw [htype]
      rfl
    refine textIff_of_reads hnull (t := v) (w := .text v) ?_ trivial ?_ rfl
    · rw [sqlValue, column, hv]
      rfl
    · rw [column, htype]
      rfl
  | interval months days nanos =>
    exact textIff_of_reads hnull rfl trivial rfl (readInterval_intervalText _ _ _)
  | enum label => exact textIff_of_reads hnull rfl trivial rfl rfl
  | nested htype v =>
    refine ⟨_, hnull, rfl, ?_⟩
    rw [column, htype]
    constructor
    · rintro ⟨w, hread, hrep⟩
      cases hread
      exact represents_nested.1 hrep
    · exact fun h => ⟨_, rfl, represents_nested.2 h⟩

end Cell

/-! ### Text rows -/

/-- A length never starts with the byte of a NULL. -/
lemma head?_putLenencStr (t : List Char) (rest : List UInt8) :
    (putLenencStr t ++ rest).head? ≠ some 0xfb := by
  unfold putLenencStr putLenencBytes putLenencInt
  split_ifs with h
  · intro heq
    have := congrArg UInt8.toNat (Option.some.inj heq)
    rw [toNat_ofNat_of_lt (by omega)] at this
    have h0 : (0xfb : UInt8).toNat = 251 := rfl
    omega
  all_goals
    intro heq
    cases heq

lemma run_readTextValue_eq_ok {layout : Layout} {t : List Char} (h : (utf8 t).length < 2 ^ 64)
    {rest s : List UInt8} {w : ClientValue} :
    (readTextValue layout).run (putLenencStr t ++ rest) = .ok (w, s) ↔
      readText layout t = some w ∧ s = rest := by
  have hrun : (readTextValue layout).run (putLenencStr t ++ rest) =
      (readLenencText >>= fun t => expect (readText layout t)).run (putLenencStr t ++ rest) :=
    if_neg (head?_putLenencStr t rest)
  have hread := takes_readLenencText h rest
  rw [hrun, run_bind_eq_ok]
  constructor
  · rintro ⟨t', s', h1, h2⟩
    rw [hread] at h1
    cases h1
    exact run_expect_eq_ok.1 h2
  · intro h2
    exact ⟨t, rest, hread, run_expect_eq_ok.2 h2⟩

namespace Cell

def readText (c : Cell C) : Reader ClientValue := readTextValue (layoutOf c.column.dataType)

lemma textFits_of_null {c : Cell C} (h : c.sqlValue.isNull = true) :
    c.TextFits ∧ Represents c.value .null := by
  have hv : c.value = .null := eq_null_of_isNull h
  rw [TextFits, hv]
  exact ⟨trivial, trivial⟩

lemma text_good (c : Cell C) (h : c.TextFits) :
    ∃ w, Takes c.readText (putTextValue c.sqlValue) w ∧ Represents c.value w := by
  rcases hnull : c.sqlValue.isNull with _ | _
  · obtain ⟨t, -, ht, hiff⟩ := c.textIff hnull
    obtain ⟨w, hread, hrep⟩ := hiff.2 h
    refine ⟨w, fun rest => ?_, hrep⟩
    rw [putTextValue, hnull, ht]
    exact (run_readTextValue_eq_ok (c.short t ht)).2 ⟨hread, rfl⟩
  · refine ⟨.null, fun rest => ?_, (textFits_of_null hnull).2⟩
    rw [putTextValue, hnull]
    rfl

lemma text_bad (c : Cell C) (h : ¬ c.TextFits) (rest : List UInt8) (w : ClientValue)
    (s : List UInt8) (hrun : c.readText.run (putTextValue c.sqlValue ++ rest) = .ok (w, s)) :
    ¬ Represents c.value w := by
  intro hrep
  rcases hnull : c.sqlValue.isNull with _ | _
  · obtain ⟨t, -, ht, hiff⟩ := c.textIff hnull
    rw [putTextValue, hnull, ht] at hrun
    exact h (hiff.1 ⟨w, ((run_readTextValue_eq_ok (c.short t ht)).1 hrun).1, hrep⟩)
  · exact h (textFits_of_null hnull).1

end Cell

/-! ### Recovered rows -/

/-- The client that knows the columns by their definitions uses the row up and recovers each of
its cells. -/
def Recovers (client : List Layout → Reader (List ClientValue)) (definitions : List (List UInt8))
    (bytes : List UInt8) (row : List (Cell C)) : Prop :=
  ∃ announced values,
    definitions.mapM (fun d => (readColumnDefinition.run d).map (·.1)) = .ok announced ∧
      (client announced).run bytes = .ok (values, []) ∧
      List.Forall₂ (fun c w => Represents c.value w) row values

/-- The definitions of a row's columns. -/
def definitions (database : ShortText) (row : List (Cell C)) : List (List UInt8) :=
  row.map fun c => columnDefinition database.text c.column

lemma announced_definitions (database : ShortText) (row : List (Cell C)) :
    (definitions database row).mapM (fun d => (readColumnDefinition.run d).map (·.1)) =
      .ok (row.map fun c => layoutOf c.column.dataType) := by
  induction row with
  | nil => rfl
  | cons c row ih =>
    have hc : (utf8 c.column.name).length < 2 ^ 64 := c.name.short
    have h := takes_readColumnDefinition database.short hc []
    rw [List.append_nil] at h
    rw [definitions, List.map_cons, List.mapM_cons, h, ← definitions, ih]
    rfl

lemma recovers_iff {client : List Layout → Reader (List ClientValue)} {database : ShortText}
    {bytes : List UInt8} {row : List (Cell C)} :
    Recovers client (definitions database row) bytes row ↔
      ∃ values, (client (row.map fun c => layoutOf c.column.dataType)).run bytes = .ok (values, []) ∧
        List.Forall₂ (fun c w => Represents c.value w) row values := by
  constructor
  · rintro ⟨announced, values, h, hrun, hrep⟩
    rw [announced_definitions] at h
    cases h
    exact ⟨values, hrun, hrep⟩
  · rintro ⟨values, hrun, hrep⟩
    exact ⟨_, values, announced_definitions database row, hrun, hrep⟩

/-- The text of a JSON number. -/
def numberText : JsonNumber → List Char
  | .int n => intText n
  | .float v _ => f32.display v
  | .double v _ => f64.display v

lemma mem_intText {n : ℤ} {c : Char} (hc : c ∈ intText n) : c.isDigit = true ∨ c = '-' := by
  rw [intText, List.mem_append] at hc
  rcases hc with hc | hc
  · split_ifs at hc
    · exact .inr (List.mem_singleton.1 hc)
    · exact absurd hc List.not_mem_nil
  · exact .inl (allDigits_toDigits n.natAbs c hc)

lemma mem_numberText {n : JsonNumber} {c : Char} (hc : c ∈ numberText n) :
    c.isDigit = true ∨ c = '-' ∨ c = '.' := by
  cases n with
  | int n => exact (mem_intText hc).imp_right .inl
  | float v h => exact mem_display h hc
  | double v h => exact mem_display h hc

/-- Without an exponent, a number is a decimal. -/
lemma readJsonNumber_numberText (n : JsonNumber) :
    readJsonNumber (numberText n) = readDecimal (numberText n) := by
  have hplain : ∀ c ∈ numberText n, (c == 'e' || c == 'E') = false := by
    intro c hc
    rcases mem_numberText hc with h | rfl | rfl
    · rw [Bool.or_eq_false_iff, beq_eq_false_iff_ne, beq_eq_false_iff_ne]
      constructor
      all_goals
        rintro rfl
        revert h
        decide
    · decide
    · decide
  rw [readJsonNumber, List.splitOnP_eq_singleton hplain]

lemma numberText_reads (n : JsonNumber) :
    ∃ q, readJsonNumber (numberText n) = some q ∧ n.Says q := by
  rw [readJsonNumber_numberText]
  cases n with
  | int n => exact ⟨n, readDecimal_intText n, rfl⟩
  | float v h => exact readDecimal_display f32_small h
  | double v h => exact readDecimal_display f64_small h

lemma numberText_says (n : JsonNumber) : n.Says ((readJsonNumber (numberText n)).getD 0) := by
  obtain ⟨q, hq, hsays⟩ := numberText_reads n
  rw [hq]
  exact hsays

lemma writes_numberText :
    Writes numberText fun n => (readJsonNumber (numberText n)).getD 0 where
  reads n := by
    obtain ⟨q, hq, -⟩ := numberText_reads n
    rw [hq]
    rfl
  chars n c hc := by
    rcases mem_numberText hc with h | rfl | rfl
    · rw [isNumberChar, h]
      rfl
    · decide
    · decide

/-- Decimals and UUIDs that are their own texts. -/
def plainCrates : Crates where
  Decimal := ℤ
  decimalNumber n := n
  decimalText := intText
  decimalText_reads := readDecimal_intText
  tryFromI128 := some
  tryFromI128_number n d h := by rw [Option.some.inj h]
  fromU64 n := n
  fromU64_number n _ := Int.cast_natCast n
  Uuid := List Char
  parseUuid := some
  uuidText := id
  parseUuid_text _ := rfl
  jsonText := write numberText
  jsonNumber n := (readJsonNumber (numberText n)).getD 0
  jsonNumber_says := numberText_says
  jsonText_reads := readJson_write writes_numberText
  toMicros unit v := Int64.ofInt (v.toInt * unit.nanos / 1000)
  toMicros_exact unit v n h := by
    rw [← h, Int.mul_ediv_cancel _ (by decide), Int64.ofInt_toInt]

def columnName : ShortText := ⟨['c'], by decide⟩

/-- `true` in a column of type BOOLEAN. -/
def trueCell : Cell plainCrates :=
  ⟨columnName, .boolean, .boolean true, .boolean true, by decide⟩

/-- `'infinity'::DATE`, which DuckDB stores as the greatest day number. -/
def infiniteDate : Cell plainCrates :=
  ⟨columnName, .date, .date32 2147483647, .date32 2147483647, by decide⟩

end Rsduck.Mysql
