import Rsduck.Mysql.Cell

/-!
Nested values: a client finds them in the JSON document of a cell exactly when they fit it.
-/

namespace Rsduck.Mysql

open Lib Lib.Calendar Lib.DecimalText Lib.FloatFormat Lib.JsonText Lib.Wire Lib.Wire.Reader Db

variable {C : Crates}

/-! ### What the client takes a text for -/

lemma year_of_readDate {s r : List Char} {d : Date} (h : readDate s = some (d, r)) :
    0 ≤ d.year ∧ d.year ≤ 9999 := by
  unfold readDate at h
  simp only [Option.bind_eq_bind, Option.bind_eq_some_iff] at h
  obtain ⟨⟨year, s1⟩, hyear, _, -, ⟨month, s2⟩, -, _, -, ⟨day, s3⟩, -, date, hdate, h⟩ := h
  cases h
  have hlt := fixedDigits_lt hyear
  have hy := year_of_ofYmd? hdate
  omega

lemma micros_of_readClock {s : List Char} {hour minute second micros : ℕ}
    (h : readClock s = some (hour, minute, second, micros)) : micros < 1000000 := by
  unfold readClock at h
  simp only [Option.bind_eq_bind, Option.bind_eq_some_iff] at h
  obtain ⟨⟨_, s1⟩, -, _, -, ⟨_, s2⟩, -, _, -, ⟨_, s3⟩, -, h⟩ := h
  split_ifs at h
  · cases h
    decide
  · simp only [Option.bind_eq_some_iff] at h
    obtain ⟨_, -, ⟨us, s4⟩, hus, h⟩ := h
    have hlt := fixedDigits_lt hus
    dsimp only at h
    split_ifs at h
    cases h
    exact hlt

lemma year_of_readDateTime {s : List Char} {t : DateTime} (h : readDateTime s = some t) :
    Plain t ∧ 0 ≤ t.date.year ∧ t.date.year ≤ 9999 := by
  unfold readDateTime at h
  simp only [Option.bind_eq_bind, Option.bind_eq_some_iff] at h
  obtain ⟨⟨date, s1⟩, hdate, _, -, ⟨hour, minute, second, micros⟩, hclock, h⟩ := h
  have hyear := year_of_readDate hdate
  have hmicros := micros_of_readClock hclock
  dsimp only at h
  obtain ⟨hd, hn⟩ := date_of_of? h
  rw [hd, Plain, hn]
  exact ⟨⟨by omega, by omega⟩, hyear⟩

/-! ### Texts of a document -/

lemma hexDigit?_digitChar {n : ℕ} (h : n < 16) : hexDigit? (Nat.digitChar n) = some n := by
  revert n
  decide

lemma readHex_hexEncode (bytes : List UInt8) : readHex (hexEncode bytes) = some bytes := by
  induction bytes with
  | nil => rfl
  | cons b bs ih =>
    have hlt := b.toNat_lt
    have hhex : hexEncode (b :: bs) = Nat.digitChar (b.toNat / 16) ::
      Nat.digitChar (b.toNat % 16) :: hexEncode bs := rfl
    have hbyte : UInt8.ofNat (b.toNat / 16 * 16 + b.toNat % 16) = b := by
      rw [Nat.div_add_mod', UInt8.ofNat_toNat]
    rw [hhex, readHex, ih, hexDigit?_digitChar (by omega), hexDigit?_digitChar (by omega)]
    change some (UInt8.ofNat (b.toNat / 16 * 16 + b.toNat % 16) :: bs) = _
    rw [hbyte]

lemma holds_timestamp {unit : TimeUnit} {v : Int64} :
    (∃ t, readDateTime (formatTimestamp C unit v) = some t ∧
      t.micros * 1000 = v.toInt * unit.nanos) ↔ InstantWithin 9999 unit v := by
  constructor
  · rintro ⟨t, ht, heq⟩
    obtain ⟨hplain, h0, h1⟩ := year_of_readDateTime ht
    exact ⟨t, hplain, h0, h1, heq⟩
  · rintro ⟨t, hplain, h0, h1, heq⟩
    have ht := readDateTime_dateTimeText hplain h0 h1 []
    rw [List.append_nil, if_pos rfl] at ht
    refine ⟨t, ?_, heq⟩
    rw [formatTimestamp, timestampToUtc_of_instant hplain h0 (by omega) heq]
    exact ht

lemma holds_date {v : Int32} :
    (∃ d, readDate (formatDate32 v) = some (d, []) ∧ d.dayNumber = v.toInt) ↔
      DayWithin 9999 v := by
  constructor
  · rintro ⟨d, hd, heq⟩
    obtain ⟨h0, h1⟩ := year_of_readDate hd
    exact ⟨d, h0, h1, heq⟩
  · rintro ⟨d, h0, h1, heq⟩
    have hread := readDate_dateText h0 h1 []
    rw [List.append_nil] at hread
    refine ⟨d, ?_, heq⟩
    rw [formatDate32, date32ToDate_eq_some.2 heq]
    exact hread

lemma holds_time {unit : TimeUnit} {v : Int64} :
    (∃ micros, readTime (formatTime64 C unit v) = some micros ∧
      micros * 1000 = v.toInt * unit.nanos) ↔ TimeWithin unit v := by
  obtain ⟨t, ht, hns, heq⟩ := time64ToTime_eq (C := C) unit v
  have htext : readTime (formatTime64 C unit v) =
      some ((C.toMicros unit v).toInt % microsPerDay) := by
    rw [formatTime64, ht, ← heq]
    exact readTime_text hns
  rw [htext, ← timeWithin_iff (C := C)]
  exact ⟨fun ⟨_, h, heq⟩ => Option.some.inj h ▸ heq, fun h => ⟨_, rfl, h⟩⟩

/-! ### The document of a value -/

/-- The document that a client finds in the text of a value. -/
def documentOf (v : Value C) : Document ℚ := (duckdbValueToJson v).map C.jsonNumber

lemma documentOf_numberJson (n : ℤ) : (numberJson n).map C.jsonNumber = .number n :=
  congrArg Document.number (C.jsonNumber_says (.int n))

/-- A field stands under its name when no other has that name. -/
lemma lookup_object {fields : List (List Char × Json)} (h : (fields.map Prod.fst).Nodup)
    {name : List Char} {j : Json} (hfield : (name, j) ∈ fields) :
    (Document.mapFields C.jsonNumber (collect fields)).lookup name = some (j.map C.jsonNumber) := by
  rw [Document.lookup_mapFields, lookup_collect h hfield]
  rfl

lemma names_mapFields (f : JsonNumber → ℚ) (fields : List (List Char × Json)) :
    (Document.mapFields f fields).map Prod.fst = fields.map Prod.fst := by
  induction fields with
  | nil => rfl
  | cons field fields ih => exact congrArg (field.1 :: ·) ih

lemma fieldsToJson_eq (fields : List (List Char × Value C)) :
    fieldsToJson fields = fields.map fun field => (field.1, duckdbValueToJson field.2) := by
  induction fields with
  | nil => rfl
  | cons field fields ih => exact congrArg ((field.1, duckdbValueToJson field.2) :: ·) ih

lemma names_fieldsToJson (fields : List (List Char × Value C)) :
    (fieldsToJson fields).map Prod.fst = fields.map Prod.fst := by
  rw [fieldsToJson_eq, List.map_map]
  rfl

lemma perm_names_struct (fields : List (List Char × Value C)) :
    ((Document.mapFields C.jsonNumber (collect (fieldsToJson fields))).map Prod.fst).Perm
      (fields.map Prod.fst) ↔ (fields.map Prod.fst).Nodup := by
  rw [names_mapFields, ← names_fieldsToJson, perm_names_collect]

/-- Each field of a struct without doubled names stands under its name. -/
lemma lookup_struct {fields : List (List Char × Value C)} (h : (fields.map Prod.fst).Nodup)
    {field : List Char × Value C} (hfield : field ∈ fields) :
    (Document.mapFields C.jsonNumber (collect (fieldsToJson fields))).lookup field.1 =
      some (documentOf field.2) := by
  refine lookup_object ?_ ?_
  · rw [names_fieldsToJson]
    exact h
  · rw [fieldsToJson_eq]
    exact List.mem_map_of_mem hfield

lemma lookup_entry (k v : Json) :
    (Document.mapFields C.jsonNumber (collect [("key".toList, k), ("value".toList, v)])).lookup
        "key".toList = some (k.map C.jsonNumber) ∧
      (Document.mapFields C.jsonNumber (collect [("key".toList, k), ("value".toList, v)])).lookup
        "value".toList = some (v.map C.jsonNumber) :=
  ⟨lookup_object (by simp) (by simp), lookup_object (by simp) (by simp)⟩

lemma holds_interval (months days : Int32) (nanos : Int64) :
    Holds (documentOf (C := C) (.interval months days nanos))
      (.interval (C := C) months days nanos) := by
  have hmonths := documentOf_numberJson (C := C) months.toInt
  have hdays := documentOf_numberJson (C := C) days.toInt
  have hnanos := documentOf_numberJson (C := C) nanos.toInt
  refine ⟨?_, ?_, ?_⟩
  · rw [← hmonths]
    exact lookup_object (by simp) (by simp)
  · rw [← hdays]
    exact lookup_object (by simp) (by simp)
  · rw [← hnanos]
    exact lookup_object (by simp) (by simp)

lemma holds_union (d : Document ℚ) (value : Value C) : Holds d (.union value) ↔ Holds d value := by
  cases d <;> rfl

lemma holds_floatJson {F : FloatFormat} {number : (v : F.Bits) → F.isFinite v = true → JsonNumber}
    (v : F.Bits) {P : Document ℚ → Prop} (hstring : ∀ s, ¬ P (.string s))
    (hnumber : ∀ h, P (.number (C.jsonNumber (number v h)))) :
    P ((floatJson F number v).map C.jsonNumber) ↔ F.isFinite v = true := by
  rw [floatJson]
  by_cases h : F.isFinite v = true
  · rw [dif_pos h]
    exact iff_of_true (hnumber h) h
  · rw [dif_neg h]
    exact iff_of_false (hstring _) h

mutual

/-- **The document of a value holds it exactly when it fits.** -/
theorem holds_iff (v : Value C) : Holds (documentOf v) v ↔ NestedFits v := by
  cases v with
  | null => exact Iff.rfl
  | boolean v => exact iff_of_true rfl trivial
  | tinyInt v => exact iff_of_true (C.jsonNumber_says (.int _)) trivial
  | smallInt v => exact iff_of_true (C.jsonNumber_says (.int _)) trivial
  | int v => exact iff_of_true (C.jsonNumber_says (.int _)) trivial
  | bigInt v => exact iff_of_true (C.jsonNumber_says (.int _)) trivial
  | uTinyInt v => exact iff_of_true (C.jsonNumber_says (.int _)) trivial
  | uSmallInt v => exact iff_of_true (C.jsonNumber_says (.int _)) trivial
  | uInt v => exact iff_of_true (C.jsonNumber_says (.int _)) trivial
  | uBigInt v => exact iff_of_true (C.jsonNumber_says (.int _)) trivial
  | hugeInt v => exact iff_of_true (readInt_intText v.toInt) trivial
  | float v =>
    exact holds_floatJson v (P := fun d => Holds d (Value.float (C := C) v)) (fun _ h => h)
      fun h => C.jsonNumber_says (.float v h)
  | double v =>
    exact holds_floatJson v (P := fun d => Holds d (Value.double (C := C) v)) (fun _ h => h)
      fun h => C.jsonNumber_says (.double v h)
  | decimal v => exact iff_of_true (C.decimalText_reads v) trivial
  | timestamp unit v => exact holds_timestamp
  | text v => exact iff_of_true rfl trivial
  | blob v => exact iff_of_true ⟨_, rfl, readHex_hexEncode v⟩ trivial
  | date32 v => exact holds_date
  | time64 unit v => exact holds_time
  | interval months days nanos => exact iff_of_true (holds_interval months days nanos) trivial
  | enum label => exact iff_of_true rfl trivial
  | list values => exact holdAll_iff values
  | array values => exact holdAll_iff values
  | struct fields =>
    refine (and_congr_left' (perm_names_struct fields)).trans ?_
    exact and_congr_right fun hnodup => holdFields_iff _ fields fun _ h => lookup_struct hnodup h
  | map entries => exact holdEntries_iff entries
  | union value => exact (holds_union _ value).trans (holds_iff value)

theorem holdAll_iff (values : List (Value C)) :
    HoldAll (Document.mapAll C.jsonNumber (valuesToJson values)) values ↔ AllFit values := by
  match values with
  | [] => exact Iff.rfl
  | v :: vs => exact and_congr (holds_iff v) (holdAll_iff vs)

theorem holdFields_iff (es : List (List Char × Document ℚ)) (fields : List (List Char × Value C))
    (h : ∀ field ∈ fields, es.lookup field.1 = some (documentOf field.2)) :
    HoldFields es fields ↔ FieldsFit fields := by
  match fields with
  | [] => exact Iff.rfl
  | (name, v) :: vs =>
    refine and_congr ?_ (holdFields_iff es vs fun field hf => h field (List.mem_cons_of_mem _ hf))
    rw [h _ List.mem_cons_self, ← holds_iff v]
    simp

theorem holdEntries_iff (entries : List (Value C × Value C)) :
    HoldEntries (Document.mapAll C.jsonNumber (entriesToJson entries)) entries ↔
      EntriesFit entries := by
  match entries with
  | [] => exact Iff.rfl
  | (k, v) :: vs =>
    obtain ⟨hkey, hvalue⟩ := lookup_entry (C := C) (duckdbValueToJson k) (duckdbValueToJson v)
    refine and_congr ?_ (and_congr ?_ (holdEntries_iff vs))
    · rw [hkey, ← holds_iff k]
      simp [documentOf]
    · rw [hvalue, ← holds_iff v]
      simp [documentOf]

end

/-- The text of a nested value gives it to the client exactly when it fits. -/
lemma represents_nested {v : Value C} :
    Represents (.nested v) (.text (C.jsonText (duckdbValueToJson v))) ↔ NestedFits v := by
  rw [← holds_iff v]
  constructor
  · rintro ⟨d, hd, hholds⟩
    rw [C.jsonText_reads] at hd
    cases hd
    exact hholds
  · exact fun h => ⟨_, C.jsonText_reads _, h⟩

end Rsduck.Mysql
