import Rsduck.Mysql.Documents

/-!
Binary rows: each cell is read by its column's layout, and the bitmap tells the NULLs.
-/

namespace Rsduck.Mysql

open Lib Lib.Calendar Lib.DecimalText Lib.FloatFormat Lib.Wire Lib.Wire.Reader Db

variable {C : Crates}

/-! ### Cells of a binary row -/

lemma takes_text {t : List Char} (h : (utf8 t).length < 2 ^ 64) :
    Takes (readBinaryValue .text) (putLenencStr t) (.text t) := takes_map (takes_readLenencText h)

lemma takes_decimal {t : List Char} {q : ℚ} (h : (utf8 t).length < 2 ^ 64)
    (hq : readDecimal t = some q) :
    Takes (readBinaryValue .decimal) (putLenencStr t) (.number q) :=
  takes_then (takes_readLenencText h) (takes_then (takes_expect hq) (takes_pure _))

/-- The bytes of a time of day, as a length and as many bytes from a zero on. -/
lemma putBinaryTime_eq (t : NaiveTime) :
    ∃ more, putBinaryTime t = putLenencBytes (0 :: more) ∧ more.length ≤ 11 := by
  unfold putBinaryTime
  by_cases hz : t.nanosecond / 1000 = 0
  · refine ⟨leBytes 4 0 ++ [UInt8.ofNat (t.seconds / 3600), UInt8.ofNat (t.seconds / 60 % 60),
      UInt8.ofNat (t.seconds % 60)], ?_, by simp⟩
    simp [hz, putLenencBytes, putLenencInt]
  · refine ⟨leBytes 4 0 ++ [UInt8.ofNat (t.seconds / 3600), UInt8.ofNat (t.seconds / 60 % 60),
      UInt8.ofNat (t.seconds % 60)] ++ leBytes 4 (t.nanosecond / 1000), ?_, by simp⟩
    simp [hz, putLenencBytes, putLenencInt]

/-- A clock time starts with a digit. -/
lemma head?_utf8_of_readTime {t : List Char} {micros : ℤ} (h : readTime t = some micros) :
    (utf8 t).head? ≠ some 0 := by
  rcases t with _ | ⟨c, t⟩
  · cases h
  · have hc : c.isDigit = true := by
      by_contra hc
      rw [readTime, readClock, fixedDigits_eq_none (by decide) (by simpa using hc)] at h
      cases h
    have hle := FloatFormat.toNat_of_isDigit hc
    rw [utf8, List.flatMap_cons, utf8EncodeChar_of_ascii (by omega), List.singleton_append,
      List.head?_cons]
    intro heq
    have := congrArg UInt8.toNat (Option.some.inj heq)
    rw [toNat_ofNat_of_lt (by omega)] at this
    have h0 : (0 : UInt8).toNat = 0 := rfl
    omega

namespace Cell

/-- What the client reads of a cell, knowing whether its bit is set. -/
def readBinary (c : Cell C) : Reader ClientValue :=
  if c.sqlValue.isNull then pure .null else readBinaryValue (layoutOf c.column.dataType)

lemma takes_readBinary {c : Cell C} {v : SqlValue C} {w : ClientValue} (hv : c.sqlValue = v)
    (hnull : v.isNull = false)
    (ht : Takes (readBinaryValue (layoutOf c.column.dataType)) (putBinaryValue v) w) :
    Takes c.readBinary (putBinaryValue c.sqlValue) w := by
  rw [readBinary, hv, hnull]
  exact ht

lemma takes_sentAs_text {c : Cell C} {t : List Char} (h : SentAs c.sqlValue t)
    (hl : layoutOf c.column.dataType = .text) :
    Takes c.readBinary (putBinaryValue c.sqlValue) (.text t) := by
  obtain ⟨hnull, ht, hput⟩ := h
  refine takes_readBinary rfl hnull ?_
  rw [hl, hput]
  exact takes_text (c.short t ht)

lemma takes_sentAs_decimal {c : Cell C} {t : List Char} {q : ℚ} (h : SentAs c.sqlValue t)
    (hl : layoutOf c.column.dataType = .decimal) (hq : readDecimal t = some q) :
    Takes c.readBinary (putBinaryValue c.sqlValue) (.number q) := by
  obtain ⟨hnull, ht, hput⟩ := h
  refine takes_readBinary rfl hnull ?_
  rw [hl, hput]
  exact takes_decimal (c.short t ht) hq

lemma takes_timestamp {c : Cell C} {unit : TimeUnit} {v : Int64} (hv : c.value = .timestamp unit v)
    (hl : layoutOf c.column.dataType = .dateTime) (h : InstantWithin 65535 unit v) :
    ∃ w, Takes c.readBinary (putBinaryValue c.sqlValue) w ∧ Represents c.value w := by
  obtain ⟨t, ht, h0, h1, heq⟩ := h
  have hutc := timestampToUtc_of_instant (C := C) ht h0 h1 heq
  have hput : putBinaryValue c.sqlValue = putBinaryDatetime t ∧ c.sqlValue.isNull = false := by
    rw [sqlValue, hv, valueRefToSqlValue, timestampValue, hutc]
    dsimp only
    split_ifs <;> exact ⟨rfl, rfl⟩
  refine ⟨.dateTime t, ?_, by rw [hv]; exact heq⟩
  refine takes_readBinary rfl hput.2 ?_
  rw [hl, hput.1]
  exact takes_map (takes_putBinaryDatetime ht h0 h1)

/-- A time of day is read as the microseconds modulo a day. -/
lemma takes_time64 {c : Cell C} {unit : TimeUnit} {v : Int64} (hv : c.value = .time64 unit v)
    (hl : layoutOf c.column.dataType = .time) :
    Takes c.readBinary (putBinaryValue c.sqlValue)
      (.time ((C.toMicros unit v).toInt % microsPerDay)) := by
  obtain ⟨t, ht, -, heq⟩ := time64_value (C := C) unit v c.column.dataType
  rw [← hv] at ht
  refine takes_readBinary ht rfl ?_
  rw [hl, ← heq]
  exact takes_map (takes_putBinaryTime t)

lemma binary_good (c : Cell C) (h : c.BinaryFits) :
    ∃ w, Takes c.readBinary (putBinaryValue c.sqlValue) w ∧ Represents c.value w := by
  obtain ⟨name, type, value, given, short⟩ := c
  cases given with
  | null => exact ⟨.null, takes_pure _, trivial⟩
  | boolean v =>
    refine ⟨.int (if v then 1 else 0), takes_readBinary (v := .bool v) rfl rfl ?_, rfl⟩
    cases v <;> exact takes_map (takes_readLe (k := 1) (by decide))
  | tinyInt v =>
    exact ⟨_, takes_readBinary (v := .int16 v.toInt16) rfl rfl (takes_int16 _), Int8.toInt_toInt16 v⟩
  | smallInt v => exact ⟨_, takes_readBinary (v := .int16 v) rfl rfl (takes_int16 _), rfl⟩
  | int v => exact ⟨_, takes_readBinary (v := .int32 v) rfl rfl (takes_int32 _), rfl⟩
  | bigInt v => exact ⟨_, takes_readBinary (v := .int64 v) rfl rfl (takes_int64 _), rfl⟩
  | integerLiteral v => exact ⟨_, takes_readBinary (v := .int64 v) rfl rfl (takes_int64 _), rfl⟩
  | uTinyInt v => exact ⟨_, takes_readBinary rfl rfl (takes_int16 _), toInt_uTinyInt v⟩
  | uSmallInt v => exact ⟨_, takes_readBinary rfl rfl (takes_int32 _), toInt_uSmallInt v⟩
  | uInt v => exact ⟨_, takes_readBinary rfl rfl (takes_int64 _), toInt_uInt v⟩
  | hugeInt v =>
    obtain ⟨t, ht, hq⟩ := sentAs_hugeInt (C := C) v .numeric
    exact ⟨.number v.toInt, takes_sentAs_decimal ht rfl hq, rfl⟩
  | uHugeInt v =>
    obtain ⟨t, ht, hq⟩ := sentAs_hugeInt (C := C) v .numeric
    exact ⟨.number v.toInt, takes_sentAs_decimal ht rfl hq, rfl⟩
  | wholeDecimal v =>
    obtain ⟨t, ht, hq⟩ := sentAs_hugeInt (C := C) v .numeric
    exact ⟨.number v.toInt, takes_sentAs_decimal ht rfl hq, rfl⟩
  | uBigInt v =>
    have hq := C.decimalText_reads (C.fromU64 v.toNat)
    rw [C.fromU64_number _ v.toNat_lt] at hq
    exact ⟨_, takes_sentAs_decimal ⟨rfl, rfl, rfl⟩ rfl hq, rfl⟩
  | float v =>
    have ht := takes_map (f := fun n => ClientValue.float (BitVec.ofNat _ n))
      (takes_readLe (k := 4) (n := v.toNat) v.isLt)
    exact ⟨_, takes_readBinary rfl rfl ht, BitVec.ofNat_toNat _ v⟩
  | double v =>
    have ht := takes_map (f := fun n => ClientValue.double (BitVec.ofNat _ n))
      (takes_readLe (k := 8) (n := v.toNat) v.isLt)
    exact ⟨_, takes_readBinary rfl rfl ht, BitVec.ofNat_toNat _ v⟩
  | decimal v =>
    exact ⟨_, takes_sentAs_decimal ⟨rfl, rfl, rfl⟩ rfl (C.decimalText_reads v), rfl⟩
  | bignum v hread =>
    obtain ⟨q, hq⟩ := Option.isSome_iff_exists.1 hread
    exact ⟨_, takes_sentAs_decimal ⟨rfl, rfl, rfl⟩ rfl hq, hq⟩
  | timestamp htype unit v =>
    refine takes_timestamp rfl ?_ h
    rw [column, htype]
    rfl
  | timestampTz unit v => exact takes_timestamp rfl rfl h
  | date32 v =>
    obtain ⟨d, h0, h1, heq⟩ := h
    have hput : valueRefToSqlValue (C := C) (.date32 v) .date = .date d := by
      rw [valueRefToSqlValue, date32ToDate_eq_some.2 heq]
    exact ⟨.date d, takes_readBinary hput rfl (takes_map (takes_putBinaryDate h0 h1)), heq⟩
  | time64 htype unit v =>
    refine ⟨_, takes_time64 rfl ?_, timeWithin_iff.2 h.2⟩
    rw [column, htype]
    rfl
  | timeTz unit v => exact absurd rfl h.1
  | uuid u => exact ⟨.text _, takes_sentAs_text (sentAs_uuid u) rfl, rfl⟩
  | blob v =>
    have hlen := short _ rfl
    have hlt := length_lt_hex v
    exact ⟨.blob v, takes_readBinary rfl rfl (takes_map (takes_readLenencBytes (by omega))), rfl⟩
  | text htype v =>
    have hv : valueRefToSqlValue (C := C) (.text v) (sqlTypeForDuckdbType type) = .text v := by
      rw [htype]
      rfl
    refine ⟨.text v, takes_sentAs_text ?_ ?_, rfl⟩
    · rw [sqlValue, column, hv]
      exact ⟨rfl, rfl, rfl⟩
    · rw [column, htype]
      rfl
  | interval months days nanos =>
    exact ⟨.text _, takes_sentAs_text ⟨rfl, rfl, rfl⟩ rfl, readInterval_intervalText _ _ _⟩
  | enum label => exact ⟨.text label, takes_sentAs_text ⟨rfl, rfl, rfl⟩ rfl, rfl⟩
  | nested htype v =>
    refine ⟨.text _, takes_sentAs_text ⟨rfl, rfl, rfl⟩ ?_, represents_nested.2 h⟩
    rw [column, htype]
    rfl

/-- A cell that is not NULL is read by its layout. -/
lemma run_readBinary {c : Cell C} (hnull : c.sqlValue.isNull = false) (bytes : List UInt8) :
    c.readBinary.run bytes = (readBinaryValue (layoutOf c.column.dataType)).run bytes := by
  rw [readBinary, hnull]
  rfl

lemma timestamp_bad {c : Cell C} {unit : TimeUnit} {v : Int64} (hv : c.value = .timestamp unit v)
    (hl : layoutOf c.column.dataType = .dateTime) (h : ¬ InstantWithin 65535 unit v)
    {bytes s : List UInt8} {w : ClientValue} (hrun : c.readBinary.run bytes = .ok (w, s)) :
    ¬ Represents c.value w := by
  intro hrep
  rw [run_readBinary (isNull_eq_false (by simp [hv])), hl] at hrun
  obtain ⟨t, hread, rfl⟩ := run_map_eq_ok.1 hrun
  obtain ⟨hplain, h0, h1⟩ := year_of_readBinaryDateTime hread
  rw [hv] at hrep
  exact h ⟨t, hplain, h0, h1, hrep⟩

lemma date_bad {c : Cell C} {v : Int32} (hv : c.value = .date32 v)
    (hl : layoutOf c.column.dataType = .date) (h : ¬ DayWithin 65535 v) {bytes s : List UInt8}
    {w : ClientValue} (hrun : c.readBinary.run bytes = .ok (w, s)) : ¬ Represents c.value w := by
  intro hrep
  rw [run_readBinary (isNull_eq_false (by simp [hv])), hl] at hrun
  obtain ⟨t, hread, rfl⟩ := run_map_eq_ok.1 hrun
  obtain ⟨-, h0, h1⟩ := year_of_readBinaryDateTime hread
  rw [hv] at hrep
  exact h ⟨t.date, h0, h1, hrep⟩

/-- A time of day read as a text starts with a zero byte, which no clock time does. -/
lemma timeTz_bad {c : Cell C} {unit : TimeUnit} {v : Int64} (hv : c.value = .time64 unit v)
    (hl : layoutOf c.column.dataType = .text) {rest s : List UInt8} {w : ClientValue}
    (hrun : c.readBinary.run (putBinaryValue c.sqlValue ++ rest) = .ok (w, s)) :
    ¬ Represents c.value w := by
  intro hrep
  obtain ⟨t, ht, -, -⟩ := time64_value (C := C) unit v c.column.dataType
  rw [← hv] at ht
  have ht' : c.sqlValue = .time t := ht
  obtain ⟨more, hput, hmore⟩ := putBinaryTime_eq t
  have hread : Takes readLenencBytes (putLenencBytes (0 :: more)) (0 :: more) :=
    takes_readLenencBytes (by rw [List.length_cons]; omega)
  rw [run_readBinary (by rw [ht']; rfl), hl, ht'] at hrun
  change (ClientValue.text <$> readLenencText).run (putBinaryTime t ++ rest) = _ at hrun
  rw [hput] at hrun
  obtain ⟨t', htext, rfl⟩ := run_map_eq_ok.1 hrun
  obtain ⟨bytes, s', h1, h2⟩ := run_bind_eq_ok.1 htext
  rw [hread rest] at h1
  cases h1
  rw [hv] at hrep
  obtain ⟨micros, hm, -⟩ := hrep
  refine head?_utf8_of_readTime hm ?_
  rw [ofUtf8_eq_some.1 (run_expect_eq_ok.1 h2).1]
  rfl

lemma binary_bad (c : Cell C) (h : ¬ c.BinaryFits) (rest : List UInt8) (w : ClientValue)
    (s : List UInt8) (hrun : c.readBinary.run (putBinaryValue c.sqlValue ++ rest) = .ok (w, s)) :
    ¬ Represents c.value w := by
  obtain ⟨name, type, value, given, short⟩ := c
  cases given with
  | timestamp htype unit v =>
    refine timestamp_bad rfl ?_ h hrun
    rw [column, htype]
    rfl
  | timestampTz unit v => exact timestamp_bad rfl rfl h hrun
  | date32 v => exact date_bad rfl rfl h hrun
  | time64 htype unit v =>
    intro hrep
    have hne : type ≠ .timeTz := by
      rintro rfl
      cases htype
    rw [takes_time64 rfl (by rw [column, htype]; rfl) rest] at hrun
    cases hrun
    exact h ⟨hne, timeWithin_iff.1 hrep⟩
  | timeTz unit v => exact timeTz_bad rfl rfl hrun
  | nested htype v =>
    intro hrep
    have hl : layoutOf (Cell.mk name type (.nested v) (.nested htype v) short).column.dataType =
        .text := by
      rw [column, htype]
      rfl
    rw [takes_sentAs_text ⟨rfl, rfl, rfl⟩ hl rest] at hrun
    cases hrun
    exact h (represents_nested.1 hrep)
  | _ => exact absurd trivial h

end Cell

/-! ### The NULL bitmap -/

lemma testBit_or_shift (b : UInt8) {i j : ℕ} (hi : i < 8) :
    (b ||| 1 <<< UInt8.ofNat i).toNat.testBit j = (b.toNat.testBit j || i == j) := by
  rw [UInt8.toNat_or, UInt8.toNat_shiftLeft, Nat.testBit_or]
  congr 1
  have h1 : (1 : UInt8).toNat = 1 := rfl
  have hmod : (UInt8.ofNat i).toNat % 8 = i := by
    rw [toNat_ofNat_of_lt (by omega)]
    omega
  have hlt : 1 <<< i % 2 ^ 8 = 2 ^ i := by
    rw [Nat.one_shiftLeft]
    exact Nat.mod_eq_of_lt (Nat.pow_lt_pow_right (by decide) hi)
  rw [h1, hmod, hlt, Nat.testBit_two_pow]
  by_cases h : i = j <;> simp [h]

/-- Marking a column sets its bit and no other. -/
lemma nullBit_markNull {bitmap : List UInt8} {i : ℕ} (hi : (i + 2) / 8 < bitmap.length) (j : ℕ) :
    nullBit (markNull bitmap i) j = (nullBit bitmap j || i == j) := by
  unfold nullBit markNull
  rw [List.getD_eq_getElem?_getD, List.getD_eq_getElem?_getD, List.getElem?_modify]
  by_cases hb : (i + 2) / 8 = (j + 2) / 8
  · rw [← hb, List.getElem?_eq_getElem hi]
    simp only [if_true, Option.map_eq_map, Option.map_some, Option.getD_some]
    rw [testBit_or_shift _ (Nat.mod_lt _ (by decide))]
    congr 1
    by_cases h : i = j
    · simp [h]
    · simp [h]
      omega
  · have hne : (i == j) = false := by
      rw [beq_eq_false_iff_ne]
      rintro rfl
      exact hb rfl
    simp [hb, hne]

lemma length_markNull (bitmap : List UInt8) (i : ℕ) : (markNull bitmap i).length = bitmap.length := by
  rw [markNull, List.length_modify]

/-- What the loop over a row leaves: the bits of its NULLs, and the values in order. -/
lemma binaryRowFrom_eq (bitmap out : List UInt8) (idx : ℕ) (row : List (SqlValue C))
    (h : (idx + row.length + 1) / 8 < bitmap.length) :
    (binaryRowFrom bitmap out idx row).2 = out ++ row.flatMap putBinaryValue ∧
      (binaryRowFrom bitmap out idx row).1.length = bitmap.length ∧
      ∀ j, nullBit (binaryRowFrom bitmap out idx row).1 j =
        (nullBit bitmap j || (decide (idx ≤ j) && (row[j - idx]?).any SqlValue.isNull)) := by
  induction row generalizing bitmap out idx with
  | nil => simp [binaryRowFrom]
  | cons v row ih =>
    rw [List.length_cons] at h
    rw [binaryRowFrom]
    -- the column at the loop's place, then the columns after it
    have hbit : ∀ j, (decide (idx ≤ j) && ((v :: row)[j - idx]?).any SqlValue.isNull) =
        ((v.isNull && idx == j) ||
          (decide (idx + 1 ≤ j) && (row[j - (idx + 1)]?).any SqlValue.isNull)) := by
      intro j
      rcases Nat.lt_trichotomy idx j with hlt | rfl | hgt
      · have hsub : j - idx = (j - (idx + 1)) + 1 := by omega
        have hne : (idx == j) = false := by
          rw [beq_eq_false_iff_ne]
          omega
        rw [hsub, List.getElem?_cons_succ, hne]
        simp [show idx ≤ j by omega, show idx + 1 ≤ j by omega]
      · simp
      · simp [show ¬ idx ≤ j by omega, show ¬ idx + 1 ≤ j by omega, show idx ≠ j by omega]
    split_ifs with hv
    · have hmark : (idx + 2) / 8 < bitmap.length := by omega
      obtain ⟨h1, h2, h3⟩ := ih (markNull bitmap idx) out (idx + 1) (by
        rw [length_markNull]
        omega)
      have hnil : putBinaryValue v = [] := by
        cases v <;> first | rfl | cases hv
      refine ⟨by rw [h1, List.flatMap_cons, hnil, List.nil_append], by rw [h2, length_markNull], ?_⟩
      intro j
      rw [h3, nullBit_markNull hmark, hbit, hv, Bool.true_and, Bool.or_assoc]
    · obtain ⟨h1, h2, h3⟩ := ih bitmap (out ++ putBinaryValue v) (idx + 1) (by omega)
      refine ⟨by rw [h1, List.flatMap_cons, List.append_assoc], h2, ?_⟩
      intro j
      rw [Bool.not_eq_true] at hv
      rw [h3, hbit, hv, Bool.false_and, Bool.false_or]

/-! ### Binary rows -/

/-- With the bits of a row, the client reads each of its cells. -/
lemma readValuesFrom_eq (bitmap : List UInt8) (idx : ℕ) (row : List (Cell C))
    (h : ∀ j, (hj : j < row.length) → nullBit bitmap (idx + j) = row[j].sqlValue.isNull) :
    readValuesFrom bitmap idx (row.map fun c => layoutOf c.column.dataType) =
      row.mapM Cell.readBinary := by
  induction row generalizing idx with
  | nil => rfl
  | cons c row ih =>
    have h0 := h 0 (by simp)
    have hrest := ih (idx + 1) fun j hj => by
      have := h (j + 1) (by simpa using hj)
      rwa [show idx + (j + 1) = idx + 1 + j by omega] at this
    rw [Nat.add_zero] at h0
    rw [List.getElem_cons_zero] at h0
    rw [List.map_cons, readValuesFrom, List.mapM_cons, hrest, h0, Cell.readBinary]
    cases c.sqlValue.isNull <;> rfl

/-- The client reads a binary row cell by cell. -/
lemma run_readBinaryRow (row : List (Cell C)) :
    (readBinaryRow (row.map fun c => layoutOf c.column.dataType)).run
        (binaryRow (row.map Cell.sqlValue)) =
      (row.mapM Cell.readBinary).run (row.flatMap fun c => putBinaryValue c.sqlValue) := by
  have hlen : (List.replicate ((row.length + 9) / 8) (0 : UInt8)).length = (row.length + 9) / 8 :=
    List.length_replicate
  obtain ⟨hout, hbitmap, hbits⟩ := binaryRowFrom_eq
    (List.replicate ((row.length + 9) / 8) 0) [] 0 (row.map Cell.sqlValue) (by
      rw [hlen, List.length_map]
      omega)
  rw [hlen] at hbitmap
  set result := binaryRowFrom (List.replicate ((row.length + 9) / 8) 0) [] 0
    (row.map Cell.sqlValue) with hresult
  have hbytes : binaryRow (row.map Cell.sqlValue) = [0x00] ++ (result.1 ++ result.2) := by
    rw [binaryRow, List.length_map]
    rfl
  have hnull : ∀ j, (hj : j < row.length) → nullBit result.1 (0 + j) = row[j].sqlValue.isNull := by
    intro j hj
    have hzero : nullBit (List.replicate ((row.length + 9) / 8) 0) j = false := by
      have : (List.replicate ((row.length + 9) / 8) (0 : UInt8)).getD ((j + 2) / 8) 0 = 0 := by
        rw [List.getD_eq_getElem?_getD, List.getElem?_replicate]
        split_ifs <;> rfl
      rw [nullBit, this]
      exact Nat.zero_testBit _
    rw [Nat.zero_add, hbits, hzero, Bool.false_or, Nat.sub_zero, List.getElem?_map,
      List.getElem?_eq_getElem hj]
    simp
  have hheader := takes_readByte 0x00 (result.1 ++ result.2)
  have htake : (take ((row.length + 9) / 8) malformed).run (result.1 ++ result.2) = _ :=
    takes_take hbitmap result.2
  have hvalues : result.2 = row.flatMap fun c => putBinaryValue c.sqlValue := by
    rw [hout, List.nil_append, List.flatMap_map]
  unfold readBinaryRow
  rw [hbytes, StateT.run_bind, hheader]
  change ((do
    let bitmap ← take _ malformed
    readValuesFrom bitmap 0 _) : Reader _).run _ = _
  rw [List.length_map, StateT.run_bind, htake]
  change (readValuesFrom result.1 0 _).run result.2 = _
  rw [readValuesFrom_eq result.1 0 row hnull, hvalues]

end Rsduck.Mysql
