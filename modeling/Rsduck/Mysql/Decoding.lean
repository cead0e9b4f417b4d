import Rsduck.Mysql.Client

/-!
What the client reads back: lengths, column definitions, numbers, dates and times, as bytes and
as text.
-/

namespace Rsduck.Mysql

open Lib Lib.Calendar Lib.DecimalText Lib.FloatFormat Lib.Wire Lib.Wire.Reader Db

variable {C : Crates}

/-! ### Parts of a packet -/

lemma takes_readLe {k n : ℕ} (h : n < 256 ^ k) : Takes (readLe k) (leBytes k n) n := by
  have htake : Takes (take k malformed) (leBytes k n) (leBytes k n) :=
    takes_take (length_leBytes k n)
  have hread := takes_map (f := ofLeBytes) htake
  rwa [ofLeBytes_leBytes_of_lt h] at hread

lemma takes_expect {α : Type} {x : Option α} {a : α} (h : x = some a) : Takes (expect x) [] a := by
  subst h
  exact takes_pure a

lemma run_expect_eq_ok {α : Type} {x : Option α} {a : α} {s s' : List UInt8} :
    (expect x).run s = .ok (a, s') ↔ x = some a ∧ s' = s := by
  rcases x with _ | b
  · constructor
    · intro h
      cases h
    · rintro ⟨h, -⟩
      cases h
  · constructor
    · intro h
      cases h
      exact ⟨rfl, rfl⟩
    · rintro ⟨h, rfl⟩
      cases h
      rfl

/-- A reader, then one without bytes of its own. -/
lemma takes_then {α β : Type} {r : Reader α} {f : α → Reader β} {xs : List UInt8} {a : α} {b : β}
    (hr : Takes r xs a) (hf : Takes (f a) [] b) : Takes (r >>= f) xs b := by
  have := takes_bind hr hf
  rwa [List.append_nil] at this

lemma takes_readByte (b : UInt8) : Takes readByte [b] b :=
  takes_then (takes_take rfl) (takes_pure b)

lemma takes_of_eq {α : Type} {r : Reader α} {xs : List UInt8} {a b : α} (hr : Takes r xs a)
    (h : a = b) : Takes r xs b := h ▸ hr

lemma takes_readLenencInt {n : ℕ} (h : n < 2 ^ 64) : Takes readLenencInt (putLenencInt n) n := by
  unfold putLenencInt
  split_ifs with h1 h2 h3
  · refine takes_then (takes_readByte _) ?_
    have hn : (UInt8.ofNat n).toNat = n := by
      rw [UInt8.toNat_ofNat']
      omega
    have hne : ∀ m : UInt8, 251 ≤ m.toNat → UInt8.ofNat n ≠ m := by
      rintro m hm rfl
      omega
    rw [if_neg (hne 0xfc (by decide)), if_neg (hne 0xfd (by decide)),
      if_neg (hne 0xfe (by decide)),
      if_neg (not_or.2 ⟨hne 0xff (by decide), hne 0xfb (by decide)⟩)]
    rw [hn]
    exact takes_pure n
  · exact takes_bind (takes_readByte 0xfc) (takes_readLe (by omega))
  · exact takes_bind (takes_readByte 0xfd) (takes_readLe (by omega))
  · exact takes_bind (takes_readByte 0xfe) (takes_readLe (by omega))

lemma takes_readLenencBytes {bytes : List UInt8} (h : bytes.length < 2 ^ 64) :
    Takes readLenencBytes (putLenencBytes bytes) bytes :=
  takes_bind (takes_readLenencInt h) (takes_take rfl)

lemma takes_readLenencText {t : List Char} (h : (utf8 t).length < 2 ^ 64) :
    Takes readLenencText (putLenencStr t) t :=
  takes_then (takes_readLenencBytes h) (takes_expect (ofUtf8_utf8 t))

/-! ### Column definitions -/

/-- The layout a type is announced with. -/
def layoutOf : SqlType → Layout
  | .bool => .tiny
  | .int2 => .short
  | .int4 => .long
  | .int8 => .longlong
  | .float4 => .float
  | .float8 => .double
  | .numeric => .decimal
  | .date => .date
  | .time => .time
  | .timestamp | .timestampTz => .dateTime
  | .bytea => .blob
  | .json | .uuid | .text => .text

lemma find?_layouts (t : SqlType) :
    (layouts.find? (·.1 == (mysqlTypeForSqlType t).1)).map (·.2) = some (layoutOf t) := by
  cases t <;> rfl

/-- **A column definition announces the layout of its type.** -/
lemma takes_readColumnDefinition {database : List Char} {column : SqlColumn}
    (hd : (utf8 database).length < 2 ^ 64) (hc : (utf8 column.name).length < 2 ^ 64) :
    Takes readColumnDefinition (columnDefinition database column) (layoutOf column.dataType) := by
  have hlen : ([0x0c] ++ leBytes 2 (mysqlTypeForSqlType column.dataType).2.1 ++
      leBytes 4 (1024 * 1024)).length = 7 := by simp
  have hlen' : (leBytes 2 (mysqlTypeForSqlType column.dataType).2.2 ++
      [decimalsForType column.dataType] ++ [0, 0]).length = 5 := by simp
  have hdef : (utf8 "def".toList).length < 2 ^ 64 := by decide
  have hnil : (utf8 []).length < 2 ^ 64 := by decide
  have hbytes : columnDefinition database column =
      putLenencBytes (utf8 "def".toList) ++ (putLenencBytes (utf8 database) ++
        (putLenencBytes (utf8 []) ++ (putLenencBytes (utf8 []) ++
          (putLenencBytes (utf8 column.name) ++ (putLenencBytes (utf8 column.name) ++
            ([0x0c] ++ leBytes 2 (mysqlTypeForSqlType column.dataType).2.1 ++
              leBytes 4 (1024 * 1024) ++ ([(mysqlTypeForSqlType column.dataType).1] ++
                (leBytes 2 (mysqlTypeForSqlType column.dataType).2.2 ++
                  [decimalsForType column.dataType] ++ [0, 0])))))))) := by
    simp only [columnDefinition, putLenencStr, List.append_assoc]
  rw [hbytes]
  refine takes_bind (takes_readLenencBytes hdef) ?_
  refine takes_bind (takes_readLenencBytes hd) ?_
  refine takes_bind (takes_readLenencBytes hnil) ?_
  refine takes_bind (takes_readLenencBytes hnil) ?_
  refine takes_bind (takes_readLenencBytes hc) ?_
  refine takes_bind (takes_readLenencBytes hc) ?_
  refine takes_bind (takes_take hlen) ?_
  refine takes_bind (takes_readByte _) ?_
  exact takes_then (takes_take hlen') (takes_expect (find?_layouts column.dataType))

/-! ### Integers and floats -/

lemma signed_toNat {k : ℕ} (hk : 0 < k) (v : BitVec (8 * k)) : signed k v.toNat = v.toInt := by
  have hpow : 2 ^ (8 * k) = 2 * 2 ^ (8 * k - 1) := by
    rw [← Nat.pow_succ']
    congr 1
    omega
  rw [BitVec.toInt_eq_toNat_cond, signed]
  split_ifs <;> first | rfl | omega

lemma signed_int16 (v : Int16) : signed 2 v.toUInt16.toNat = v.toInt :=
  signed_toNat (k := 2) (by decide) v.toBitVec

lemma signed_int32 (v : Int32) : signed 4 v.toUInt32.toNat = v.toInt :=
  signed_toNat (k := 4) (by decide) v.toBitVec

lemma signed_int64 (v : Int64) : signed 8 v.toUInt64.toNat = v.toInt :=
  signed_toNat (k := 8) (by decide) v.toBitVec

lemma takes_int16 (v : Int16) :
    Takes (readBinaryValue .short) (putBinaryValue (C := C) (.int16 v)) (.int v.toInt) := by
  have h := takes_map (f := fun n => ClientValue.int (signed 2 n))
    (takes_readLe (k := 2) v.toUInt16.toNat_lt)
  rwa [signed_int16] at h

lemma takes_int32 (v : Int32) :
    Takes (readBinaryValue .long) (putBinaryValue (C := C) (.int32 v)) (.int v.toInt) := by
  have h := takes_map (f := fun n => ClientValue.int (signed 4 n))
    (takes_readLe (k := 4) v.toUInt32.toNat_lt)
  rwa [signed_int32] at h

lemma takes_int64 (v : Int64) :
    Takes (readBinaryValue .longlong) (putBinaryValue (C := C) (.int64 v)) (.int v.toInt) := by
  have h := takes_map (f := fun n => ClientValue.int (signed 8 n))
    (takes_readLe (k := 8) v.toUInt64.toNat_lt)
  rwa [signed_int64] at h

lemma toInt_uTinyInt (v : UInt8) : v.toUInt16.toInt16.toInt = v.toNat := by
  have := v.toNat_lt
  rw [← signed_int16, signed]
  simp
  omega

lemma toInt_uSmallInt (v : UInt16) : v.toUInt32.toInt32.toInt = v.toNat := by
  have := v.toNat_lt
  rw [← signed_int32, signed]
  simp
  omega

lemma toInt_uInt (v : UInt32) : v.toUInt64.toInt64.toInt = v.toNat := by
  have := v.toNat_lt
  rw [← signed_int64, signed]
  simp
  omega

/-! ### Dates and times in a binary row -/

/-- The number of a byte. -/
lemma toNat_ofNat_of_lt {n : ℕ} (h : n < 256) : (UInt8.ofNat n).toNat = n := by
  rw [UInt8.toNat_ofNat']
  omega

lemma run_readLe_lt {k n : ℕ} {s s' : List UInt8} (h : (readLe k).run s = .ok (n, s')) :
    n < 256 ^ k := by
  unfold readLe at h
  rw [← bind_pure_comp] at h
  obtain ⟨xs, t, h1, h2⟩ := run_bind_eq_ok.1 h
  obtain ⟨hle, rfl, -⟩ := run_take_eq_ok.1 h1
  rw [StateT.run_pure] at h2
  cases h2
  have hlt := ofLeBytes_lt (s.take k)
  rwa [List.length_take, Nat.min_eq_left hle] at hlt

/-- The fields of a date within sixteen bits of year are read back. -/
lemma ofYmd?_bytes {d : Date} (h0 : 0 ≤ d.year) (h1 : d.year ≤ 65535) :
    Date.ofYmd? (((d.year % 65536).toNat : ℕ) : ℤ) (UInt8.ofNat d.month).toNat
      (UInt8.ofNat d.day).toNat = some d := by
  have hm := d.monthOk.2
  have hd := d.day_le
  have hy : (((d.year % 65536).toNat : ℕ) : ℤ) = d.year := by omega
  rw [hy, toNat_ofNat_of_lt (by omega), toNat_ofNat_of_lt (by omega), d.ofYmd?_fields]

lemma takes_readDateBytes {d : Date} (h0 : 0 ≤ d.year) (h1 : d.year ≤ 65535) :
    Takes readDateBytes (leBytes 2 (d.year % 65536).toNat ++
      [UInt8.ofNat d.month, UInt8.ofNat d.day]) d := by
  rw [← List.singleton_append (l := [_])]
  refine takes_bind (takes_readLe (by omega)) ?_
  refine takes_bind (takes_readByte _) ?_
  exact takes_then (takes_readByte _) (takes_expect (ofYmd?_bytes h0 h1))

lemma takes_putBinaryDate {d : Date} (h0 : 0 ≤ d.year) (h1 : d.year ≤ 65535) :
    Takes readBinaryDateTime (putBinaryDate d) d.midnight := by
  have hbytes : putBinaryDate d = [4] ++ (leBytes 2 (d.year % 65536).toNat ++
      [UInt8.ofNat d.month, UInt8.ofNat d.day]) := rfl
  rw [hbytes]
  refine takes_bind (takes_readByte 4) ?_
  exact takes_then (takes_readDateBytes h0 h1) (takes_pure _)

/-- A time as a recovered value: below a second, in whole microseconds. -/
def Plain (t : DateTime) : Prop := t.nanosecond < 1000000000 ∧ t.nanosecond % 1000 = 0

lemma of?_bytes {t : DateTime} (ht : Plain t) :
    (if t.nanosecond / 1000 < 1000000 then
      DateTime.of? t.date (UInt8.ofNat t.hour).toNat (UInt8.ofNat t.minute).toNat
        (UInt8.ofNat t.second).toNat (t.nanosecond / 1000 * 1000) else none) = some t := by
  obtain ⟨hlt, hwhole⟩ := ht
  have hh := t.hourOk
  have hm := t.minuteOk
  have hs := t.secondOk
  have hn : t.nanosecond / 1000 * 1000 = t.nanosecond := by omega
  rw [if_pos (by omega), toNat_ofNat_of_lt (by omega), toNat_ofNat_of_lt (by omega),
    toNat_ofNat_of_lt (by omega), hn, t.of?_fields]

lemma takes_readTimeBytes {t : DateTime} (ht : Plain t) {micros : Reader ℕ} {bytes : List UInt8}
    (hm : Takes micros bytes (t.nanosecond / 1000)) :
    Takes (readTimeBytes t.date micros)
      ([UInt8.ofNat t.hour, UInt8.ofNat t.minute, UInt8.ofNat t.second] ++ bytes) t := by
  have hbytes : [UInt8.ofNat t.hour, UInt8.ofNat t.minute, UInt8.ofNat t.second] ++ bytes =
      [UInt8.ofNat t.hour] ++ ([UInt8.ofNat t.minute] ++ ([UInt8.ofNat t.second] ++ bytes)) := rfl
  rw [hbytes]
  refine takes_bind (takes_readByte _) ?_
  refine takes_bind (takes_readByte _) ?_
  refine takes_bind (takes_readByte _) ?_
  exact takes_then hm (takes_expect (of?_bytes ht))

/-- A time of whole microseconds within sixteen bits of year is read back. -/
lemma takes_putBinaryDatetime {t : DateTime} (ht : Plain t) (h0 : 0 ≤ t.date.year)
    (h1 : t.date.year ≤ 65535) : Takes readBinaryDateTime (putBinaryDatetime t) t := by
  have hns := t.nanosecondOk
  by_cases hz : t.nanosecond / 1000 = 0
  · have hbytes : putBinaryDatetime t = [7] ++ ((leBytes 2 (t.date.year % 65536).toNat ++
        [UInt8.ofNat t.date.month, UInt8.ofNat t.date.day]) ++
        ([UInt8.ofNat t.hour, UInt8.ofNat t.minute, UInt8.ofNat t.second] ++ [])) := by
      simp [putBinaryDatetime, hz]
    rw [hbytes]
    refine takes_bind (takes_readByte 7) ?_
    refine takes_bind (takes_readDateBytes h0 h1) ?_
    refine takes_readTimeBytes ht ?_
    rw [hz]
    exact takes_pure 0
  · have hbytes : putBinaryDatetime t = [11] ++ ((leBytes 2 (t.date.year % 65536).toNat ++
        [UInt8.ofNat t.date.month, UInt8.ofNat t.date.day]) ++
        ([UInt8.ofNat t.hour, UInt8.ofNat t.minute, UInt8.ofNat t.second] ++
          leBytes 4 (t.nanosecond / 1000))) := by
      simp [putBinaryDatetime, hz]
    rw [hbytes]
    refine takes_bind (takes_readByte 11) ?_
    refine takes_bind (takes_readDateBytes h0 h1) ?_
    exact takes_readTimeBytes ht (takes_readLe (by omega))

/-- A date the client reads has a year of sixteen bits. -/
lemma year_of_readDateBytes {d : Date} {s s' : List UInt8}
    (h : readDateBytes.run s = .ok (d, s')) : 0 ≤ d.year ∧ d.year ≤ 65535 := by
  obtain ⟨year, _, hyear, h⟩ := run_bind_eq_ok.1 h
  obtain ⟨month, _, -, h⟩ := run_bind_eq_ok.1 h
  obtain ⟨day, _, -, h⟩ := run_bind_eq_ok.1 h
  have hy := year_of_ofYmd? (run_expect_eq_ok.1 h).1
  have hlt := run_readLe_lt hyear
  omega

lemma plain_of_readTimeBytes {date : Date} {micros : Reader ℕ} {t : DateTime} {s s' : List UInt8}
    (h : (readTimeBytes date micros).run s = .ok (t, s')) : Plain t ∧ t.date = date := by
  obtain ⟨hour, _, -, h⟩ := run_bind_eq_ok.1 h
  obtain ⟨minute, _, -, h⟩ := run_bind_eq_ok.1 h
  obtain ⟨second, _, -, h⟩ := run_bind_eq_ok.1 h
  obtain ⟨micros, _, -, h⟩ := run_bind_eq_ok.1 h
  have ht := (run_expect_eq_ok.1 h).1
  split_ifs at ht with hmicros
  obtain ⟨hd, hn⟩ := date_of_of? ht
  rw [Plain, hn]
  exact ⟨⟨by omega, by omega⟩, hd⟩

lemma year_of_readBinaryDateTime {t : DateTime} {s s' : List UInt8}
    (h : readBinaryDateTime.run s = .ok (t, s')) :
    Plain t ∧ 0 ≤ t.date.year ∧ t.date.year ≤ 65535 := by
  obtain ⟨length, _, -, h⟩ := run_bind_eq_ok.1 h
  obtain ⟨date, _, hdate, h⟩ := run_bind_eq_ok.1 h
  have hyear := year_of_readDateBytes hdate
  split_ifs at h
  · rw [StateT.run_pure] at h
    cases h
    exact ⟨⟨Nat.zero_lt_succ _, rfl⟩, hyear⟩
  · obtain ⟨hplain, hd⟩ := plain_of_readTimeBytes h
    rw [hd]
    exact ⟨hplain, hyear⟩
  · obtain ⟨hplain, hd⟩ := plain_of_readTimeBytes h
    rw [hd]
    exact ⟨hplain, hyear⟩
  · cases h

lemma clockMicros_bytes (t : NaiveTime) :
    (if (0 : UInt8) = 0 then ((0 : ℕ) : ℤ) * microsPerDay +
        clockMicros (UInt8.ofNat (t.seconds / 3600)).toNat
          (UInt8.ofNat (t.seconds / 60 % 60)).toNat (UInt8.ofNat (t.seconds % 60)).toNat
          (t.nanosecond / 1000)
      else -(((0 : ℕ) : ℤ) * microsPerDay +
        clockMicros (UInt8.ofNat (t.seconds / 3600)).toNat
          (UInt8.ofNat (t.seconds / 60 % 60)).toNat (UInt8.ofNat (t.seconds % 60)).toNat
          (t.nanosecond / 1000))) = (t.seconds * 1000000 + t.nanosecond / 1000 : ℕ) := by
  have hs := t.secondsOk
  rw [if_pos rfl, toNat_ofNat_of_lt (by omega), toNat_ofNat_of_lt (by omega),
    toNat_ofNat_of_lt (by omega), clockMicros]
  omega

/-- A time of day is read back in microseconds. -/
lemma takes_putBinaryTime (t : NaiveTime) :
    Takes readBinaryTime (putBinaryTime t) (t.seconds * 1000000 + t.nanosecond / 1000 : ℕ) := by
  have hns := t.nanosecondOk
  have hvalue := clockMicros_bytes t
  by_cases hz : t.nanosecond / 1000 = 0
  · have hbytes : putBinaryTime t = [8] ++ ([0] ++ (leBytes 4 0 ++
        ([UInt8.ofNat (t.seconds / 3600)] ++ ([UInt8.ofNat (t.seconds / 60 % 60)] ++
          [UInt8.ofNat (t.seconds % 60)])))) := by
      simp [putBinaryTime, hz]
    rw [hbytes]
    refine takes_bind (takes_readByte 8) ?_
    refine takes_bind (takes_readByte 0) ?_
    refine takes_bind (takes_readLe (by decide)) ?_
    refine takes_bind (takes_readByte _) ?_
    refine takes_bind (takes_readByte _) ?_
    refine takes_then (takes_readByte _) ?_
    rw [hz] at hvalue
    exact takes_then (takes_pure 0) (takes_of_eq (takes_pure _) (hvalue.trans (by rw [hz])))
  · have hbytes : putBinaryTime t = [12] ++ ([0] ++ (leBytes 4 0 ++
        ([UInt8.ofNat (t.seconds / 3600)] ++ ([UInt8.ofNat (t.seconds / 60 % 60)] ++
          ([UInt8.ofNat (t.seconds % 60)] ++ leBytes 4 (t.nanosecond / 1000)))))) := by
      simp [putBinaryTime, hz]
    rw [hbytes]
    refine takes_bind (takes_readByte 12) ?_
    refine takes_bind (takes_readByte 0) ?_
    refine takes_bind (takes_readLe (by decide)) ?_
    refine takes_bind (takes_readByte _) ?_
    refine takes_bind (takes_readByte _) ?_
    refine takes_bind (takes_readByte _) ?_
    exact takes_then (takes_readLe (by omega)) (takes_of_eq (takes_pure _) hvalue)

/-! ### Numbers and times in text -/

lemma readInt_intText (n : ℤ) : readInt (intText n) = some n := by
  have hhead : (Nat.toDigits 10 n.natAbs).head? ≠ some '-' := by
    have := AllDigits.head?_ne (t := []) Nat.toDigits_ne_nil (allDigits_toDigits n.natAbs)
      (c := '-') rfl
    rwa [List.append_nil] at this
  have hsplit := splitSign_append (decide (n < 0)) hhead
  have htext : intText n = (if decide (n < 0) = true then ['-'] else []) ++
      Nat.toDigits 10 n.natAbs := by
    rw [intText]
    by_cases h : n < 0 <;> simp [h]
  rw [readInt, htext, hsplit, readNat_toDigits, Option.map_some, Option.some.injEq]
  by_cases h : n < 0
  · rw [if_pos (by simpa using h)]
    omega
  · rw [if_neg (by simpa using h)]
    omega

lemma readDecimal_intText (n : ℤ) : readDecimal (intText n) = some (n : ℚ) := by
  have h := readDecimal_parts (f := []) (decide (n < 0)) Nat.toDigits_ne_nil
    (allDigits_toDigits n.natAbs) (by simp [AllDigits])
  have hfraction : fraction [] = [] := rfl
  rw [List.append_nil, hfraction, List.append_nil, Nat.ofDigitChars_ten_toDigits] at h
  have htext : intText n = (if decide (n < 0) = true then ['-'] else []) ++
      Nat.toDigits 10 n.natAbs := by
    rw [intText]
    by_cases h : n < 0 <;> simp [h]
  rw [htext, h]
  congr 1
  by_cases hn : n < 0
  · have : (n : ℚ) = -(n.natAbs : ℚ) := by
      rw [Nat.cast_natAbs, abs_of_neg hn]
      simp
    rw [if_pos (by simpa using hn), this]
    simp
  · have : (n : ℚ) = (n.natAbs : ℚ) := by
      rw [Nat.cast_natAbs, abs_of_nonneg (by omega)]
    rw [if_neg (by simpa using hn), this]
    simp

lemma literal_cons (c : Char) (s : List Char) : literal c (c :: s) = some s := by
  simp [literal]

/-- A date of a year with four digits is read back. -/
lemma readDate_dateText {d : Date} (h0 : 0 ≤ d.year) (h1 : d.year ≤ 9999) (rest : List Char) :
    readDate (dateText d ++ rest) = some (d, rest) := by
  have hm := d.monthOk.2
  have hd := d.day_le
  have hy : ((d.year.toNat : ℕ) : ℤ) = d.year := by omega
  have htext : dateText d ++ rest = padded 4 d.year.toNat ++ ('-' :: (padded 2 d.month ++
      ('-' :: (padded 2 d.day ++ rest)))) := by
    rw [dateText, yearText, if_pos ⟨h0, h1⟩]
    simp
  unfold readDate
  rw [htext, fixedDigits_padded (by decide) (by omega)]
  simp only [Option.bind_eq_bind, Option.bind_some, literal_cons]
  rw [fixedDigits_padded (by decide) (by omega)]
  simp only [Option.bind_some, literal_cons]
  rw [fixedDigits_padded (by decide) (by omega)]
  simp only [Option.bind_some, hy, d.ofYmd?_fields]
  rfl

/-- A clock time is read back when nothing follows it, and refused otherwise. -/
lemma readClock_clockText {hour minute second nanosecond : ℕ} (hh : hour < 24) (hm : minute < 60)
    (hs : second < 60) (hn : nanosecond < 1000000000) (rest : List Char) :
    readClock (clockText hour minute second nanosecond ++ rest) =
      if rest = [] then some (hour, minute, second, nanosecond / 1000) else none := by
  have htext : clockText hour minute second nanosecond ++ rest =
      padded 2 hour ++ (':' :: (padded 2 minute ++ (':' :: (padded 2 second ++
        ('.' :: (padded 6 (nanosecond / 1000) ++ rest)))))) := by
    simp [clockText]
  unfold readClock
  rw [htext, fixedDigits_padded (by decide) (by omega)]
  simp only [Option.bind_eq_bind, Option.bind_some, literal_cons]
  rw [fixedDigits_padded (by decide) (by omega)]
  simp only [Option.bind_some, literal_cons]
  rw [fixedDigits_padded (by decide) (by omega)]
  simp only [Option.bind_some, literal_cons, reduceCtorEq, if_false]
  rw [fixedDigits_padded (by decide) (by omega)]
  rfl

lemma readDateTime_dateTimeText {t : DateTime} (ht : Plain t) (h0 : 0 ≤ t.date.year)
    (h1 : t.date.year ≤ 9999) (rest : List Char) :
    readDateTime (dateTimeText t ++ rest) = if rest = [] then some t else none := by
  have hclock := readClock_clockText t.hourOk t.minuteOk t.secondOk ht.1 rest
  have htext : dateTimeText t ++ rest = dateText t.date ++
      (' ' :: (clockText t.hour t.minute t.second t.nanosecond ++ rest)) := by
    simp [dateTimeText]
  have hns : t.nanosecond / 1000 * 1000 = t.nanosecond := by
    have := ht.2
    omega
  unfold readDateTime
  rw [htext, readDate_dateText h0 h1]
  simp only [Option.bind_eq_bind, Option.bind_some, literal_cons, hclock]
  by_cases hr : rest = []
  · rw [if_pos hr, if_pos hr]
    simp only [Option.bind_some, hns, t.of?_fields]
  · rw [if_neg hr, if_neg hr]
    rfl

/-- The text of a time of day is read back in microseconds. -/
lemma readTime_text {t : NaiveTime} (hn : t.nanosecond < 1000000000) :
    readTime t.text = some ((t.seconds * 1000000 + t.nanosecond / 1000 : ℕ) : ℤ) := by
  have hs := t.secondsOk
  have h : readClock (clockText (t.seconds / 3600) (t.seconds / 60 % 60) (t.seconds % 60)
      t.nanosecond ++ []) = _ := readClock_clockText (by omega) (by omega) (by omega) hn []
  rw [List.append_nil, if_pos rfl] at h
  unfold readTime NaiveTime.text
  rw [h]
  simp only [Option.bind_eq_bind, Option.bind_some, clockMicros]
  refine congrArg some ?_
  omega

lemma readInterval_intervalText (months days : Int32) (nanos : Int64) :
    readInterval (intervalText months days nanos) =
      some (months.toInt, days.toInt, nanos.toInt) := by
  have hblank : ∀ n : ℤ, ∀ c ∈ intText n, (c == ' ') = false := by
    intro n c hc
    rw [beq_eq_false_iff_ne]
    rintro rfl
    rw [intText, List.mem_append] at hc
    rcases hc with hc | hc
    · split_ifs at hc <;> simp at hc
    · have := allDigits_toDigits n.natAbs _ hc
      simp at this
  have hsplit : (intervalText months days nanos).splitOnP (· == ' ') =
      [intText months.toInt, "months".toList, intText days.toInt, "days".toList,
        intText nanos.toInt, "ns".toList] := by
    have htext : intervalText months days nanos = intText months.toInt ++ (' ' :: ("months".toList ++
        (' ' :: (intText days.toInt ++ (' ' :: ("days".toList ++ (' ' :: (intText nanos.toInt ++
          (' ' :: "ns".toList))))))))) := by
      simp [intervalText]
    have hword : ∀ w : List Char, w.all (fun c => !(c == ' ')) = true →
        ∀ c ∈ w, (c == ' ') = false := by
      intro w hw c hc
      simpa using List.all_eq_true.1 hw c hc
    rw [htext, List.splitOnP_append_cons_of_forall_mem (hblank _) _ rfl,
      List.splitOnP_append_cons_of_forall_mem (hword _ rfl) _ rfl,
      List.splitOnP_append_cons_of_forall_mem (hblank _) _ rfl,
      List.splitOnP_append_cons_of_forall_mem (hword _ rfl) _ rfl,
      List.splitOnP_append_cons_of_forall_mem (hblank _) _ rfl,
      List.splitOnP_eq_singleton (hword _ rfl)]
  unfold readInterval
  rw [hsplit]
  simp [readInt_intText]

end Rsduck.Mysql
