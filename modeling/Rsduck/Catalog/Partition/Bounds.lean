import Rsduck.Catalog.Storage
import Rsduck.Db.Value
import Rsduck.Lib.Periods

/-!
The partition a time is routed to, and the bounds of a partition.

Routing writes a partition value from the fields of a time; creating the partition reads the value
back for its bounds.
-/

namespace Rsduck.Catalog

open Lib Lib.Calendar Lib.DecimalText Lib.FloatFormat Lib.Text Db

/-- `{:0width}`; a sign counts. -/
def paddedInt (width : ℕ) (n : ℤ) : List Char :=
  if n < 0 then '-' :: padded (width - 1) n.natAbs else padded width n.toNat

def partitionValueForDatetime (dt : DateTime) : PartitionUnit → List Char
  | .hour => paddedInt 4 dt.date.year ++ padded 2 dt.date.month ++ padded 2 dt.date.day ++
      padded 2 dt.hour
  | .day => paddedInt 4 dt.date.year ++ padded 2 dt.date.month ++ padded 2 dt.date.day
  | .month => paddedInt 4 dt.date.year ++ padded 2 dt.date.month
  | .year => paddedInt 4 dt.date.year

structure PartitionBounds where
  value : List Char
  lowerBound : DateTime
  upperBound : DateTime

/-- `NaiveDate::parse_from_str(_, "%Y%m%d")` -/
def parseYmd (s : List Char) : Option Date :=
  (readItems [.year, .month, .day] s {}).bind Fields.date?

/-- `NaiveDateTime::parse_from_str(_, "%Y%m%d%H")` -/
def parseYmdH (s : List Char) : Option DateTime :=
  (readItems [.year, .month, .day, .hour] s {}).bind Fields.dateTime?

/-- The lower bound, with the name of the unit in the error. -/
def lowerBound (partitionValue : List Char) : PartitionUnit → Except String DateTime
  | .hour => match parseYmdH partitionValue with
    | some t => .ok t
    | none => .error ("invalid hour partition_value: " ++ String.ofList partitionValue)
  | .day => match parseYmd partitionValue with
    | some d => .ok d.midnight
    | none => .error ("invalid day partition_value: " ++ String.ofList partitionValue)
  | .month => match parseYmd (partitionValue ++ "01".toList) with
    | some d => .ok d.midnight
    | none => .error ("invalid month partition_value: " ++ String.ofList partitionValue)
  | .year => match parseYmd (partitionValue ++ "0101".toList) with
    | some d => .ok d.midnight
    | none => .error ("invalid year partition_value: " ++ String.ofList partitionValue)

/-- How chrono writes a time of whole seconds. -/
def wholeSecondsText (t : DateTime) : List Char :=
  dateText t.date ++ ' ' :: padded 2 t.hour ++ ':' :: padded 2 t.minute ++ ':' :: padded 2 t.second

def addMonths (value : DateTime) (months : ℕ) : Except String DateTime :=
  let totalMonth := value.date.year * 12 + (value.date.month - 1 : ℕ) + months
  let moved := do
    let date ← Date.ofYmd? (totalMonth / 12) ((totalMonth % 12).toNat + 1) value.date.day
    DateTime.of? date value.hour value.minute value.second 0
  match moved with
  | some t => .ok t
  | none => .error ("invalid month arithmetic for " ++ String.ofList (wholeSecondsText value))

/-- `lower_bound + Duration`, which panics past the last date. -/
def addDuration (value : DateTime) (seconds : ℤ) : Except String DateTime :=
  match value.addSeconds? seconds with
  | some t => .ok t
  | none => .error "`NaiveDateTime + TimeDelta` overflowed"

def upperBound (lower : DateTime) : PartitionUnit → Except String DateTime
  | .hour => addDuration lower 3600
  | .day => addDuration lower 86400
  | .month => addMonths lower 1
  | .year => addMonths lower 12

def partitionBounds (partitionValue : List Char) (unit : PartitionUnit) :
    Except String PartitionBounds := do
  let lower ← lowerBound partitionValue unit
  let upper ← upperBound lower unit
  return { value := partitionValue, lowerBound := lower, upperBound := upper }

lemma partitionBounds_eq {partitionValue : List Char} {unit : PartitionUnit} {lower upper : DateTime}
    (hlower : lowerBound partitionValue unit = .ok lower)
    (hupper : upperBound lower unit = .ok upper) :
    partitionBounds partitionValue unit = .ok ⟨partitionValue, lower, upper⟩ := by
  unfold partitionBounds
  simp only [hlower, hupper, bind, Except.bind]
  rfl

/-! ### Reading digits -/

section Reading

lemma trimStart_digits {s : List Char} (h : AllDigits s) : trimStart s = s := by
  rcases s with _ | ⟨c, s⟩
  · rfl
  · have hc := isWhitespace_of_isDigit (h c List.mem_cons_self)
    rw [trimStart, List.dropWhile_cons_of_neg (by simp [hc])]

lemma allDigits_drop {s : List Char} (h : AllDigits s) (n : ℕ) : AllDigits (s.drop n) :=
  fun c hc => h c (List.mem_of_mem_drop hc)

/-- As many digits are read as the width allows. -/
lemma readNumber_digits {width : ℕ} {s : List Char} (hw : 0 < width) (h : AllDigits s)
    (hne : s ≠ []) :
    readNumber width s = some (Nat.ofDigitChars 10 (s.take width) 0, s.drop width) := by
  have hall : (s.take width).takeWhile Char.isDigit = s.take width :=
    List.takeWhile_eq_self_iff.2 fun c hc => h c (List.mem_of_mem_take hc)
  have htake : s.take width ≠ [] := by
    rw [Ne, List.take_eq_nil_iff, not_or]
    exact ⟨by omega, hne⟩
  have hdrop : s.drop (s.take width).length = s.drop width := by
    rw [List.length_take]
    rcases Nat.le_total width s.length with hle | hle
    · rw [Nat.min_eq_left hle]
    · rw [Nat.min_eq_right hle, List.drop_length, List.drop_of_length_le hle]
  unfold readNumber
  rw [hall, if_neg htake, hdrop]
  rfl

lemma readYear_digits {s : List Char} (h : AllDigits s) (hne : s ≠ []) :
    readYear s = some ((Nat.ofDigitChars 10 (s.take 4) 0 : ℤ), s.drop 4) := by
  rcases s with _ | ⟨c, s⟩
  · exact absurd rfl hne
  · have hc := h c List.mem_cons_self
    unfold readYear
    split
    · rename_i heq
      cases heq
      simp at hc
    · rename_i heq
      cases heq
      simp at hc
    · rw [readNumber_digits (by decide) h hne]
      rfl

/-- Digits alone are read four, two and two. -/
lemma readItems_digits {s : List Char} (h : AllDigits s) (hlen : 6 < s.length) :
    readItems [.year, .month, .day] s {} =
      if s.drop 8 = [] then
        some { year := some (Nat.ofDigitChars 10 (s.take 4) 0 : ℤ)
               month := some (Nat.ofDigitChars 10 ((s.drop 4).take 2) 0)
               day := some (Nat.ofDigitChars 10 ((s.drop 6).take 2) 0) }
      else none := by
  have hne : ∀ n ≤ 6, s.drop n ≠ [] := fun n hn => by
    rw [Ne, List.drop_eq_nil_iff]
    omega
  have h4 := allDigits_drop h 4
  have h6 := allDigits_drop h 6
  have hs : s ≠ [] := hne 0 (by omega)
  simp only [readItems, readItem, trimStart_digits h, readYear_digits h hs, Option.map_some,
    Option.bind_eq_bind, Option.bind_some, trimStart_digits h4,
    readNumber_digits (show 0 < 2 by decide) h4 (hne 4 (by omega)), List.drop_drop,
    Nat.reduceAdd, trimStart_digits h6,
    readNumber_digits (show 0 < 2 by decide) h6 (hne 6 (by omega))]

lemma paddedInt_of_nonneg {n : ℤ} (h : 0 ≤ n) (width : ℕ) :
    paddedInt width n = padded width n.toNat := by
  rw [paddedInt, if_neg (by omega)]

lemma lt_length_padded {width n : ℕ} (h : 10 ^ width ≤ n) (hw : 0 < width) :
    width < (padded width n).length := by
  have hlen : ¬ (Nat.toDigits 10 n).length ≤ width := fun hle =>
    absurd ((Nat.length_toDigits_le_iff (b := 10) (by decide) hw).1 hle) (by omega)
  rw [padded, List.length_append]
  omega

/-- A year of four digits with month and day is read back; other years are not read. -/
lemma parseYmd_text (year : ℤ) {month day : ℕ} (hm : month < 100) (hd : day < 100) :
    parseYmd (paddedInt 4 year ++ padded 2 month ++ padded 2 day) =
      if 0 ≤ year ∧ year ≤ 9999 then Date.ofYmd? year month day else none := by
  have hmonth := length_padded (show 0 < 2 by decide) (show month < 10 ^ 2 by omega)
  have hday := length_padded (show 0 < 2 by decide) (show day < 10 ^ 2 by omega)
  rcases Int.lt_or_le year 0 with hneg | hpos
  · -- the digits after a minus are all the year's
    rw [if_neg (by omega)]
    have hrest : AllDigits (padded 3 year.natAbs ++ padded 2 month ++ padded 2 day) :=
      ((allDigits_padded _ _).append (allDigits_padded _ _)).append (allDigits_padded _ _)
    have hne : padded 3 year.natAbs ++ padded 2 month ++ padded 2 day ≠ [] := by
      intro h
      have := congrArg List.length h
      simp [hmonth] at this
    have htext : paddedInt 4 year ++ padded 2 month ++ padded 2 day =
        '-' :: (padded 3 year.natAbs ++ padded 2 month ++ padded 2 day) := by
      rw [paddedInt, if_pos hneg]
      rfl
    have hread : readYear (trimStart (paddedInt 4 year ++ padded 2 month ++ padded 2 day)) =
        some (-(Nat.ofDigitChars 10 (padded 3 year.natAbs ++ padded 2 month ++ padded 2 day) 0 : ℤ),
          []) := by
      have htrim : trimStart ('-' :: (padded 3 year.natAbs ++ padded 2 month ++ padded 2 day)) =
          '-' :: (padded 3 year.natAbs ++ padded 2 month ++ padded 2 day) := rfl
      rw [htext, htrim, readYear, readNumber_digits (by simp [hmonth]) hrest hne, List.take_length,
        List.drop_length]
      rfl
    unfold parseYmd
    rw [readItems, readItem, hread]
    rfl
  · have hdigits : AllDigits (padded 4 year.toNat ++ padded 2 month ++ padded 2 day) :=
      ((allDigits_padded _ _).append (allDigits_padded _ _)).append (allDigits_padded _ _)
    rw [paddedInt_of_nonneg hpos]
    rcases Int.lt_or_le 9999 year with hlarge | hsmall
    · -- one digit is left over
      have hyear := lt_length_padded (show 10 ^ 4 ≤ year.toNat by omega) (by decide)
      have hleft : (padded 4 year.toNat ++ padded 2 month ++ padded 2 day).drop 8 ≠ [] := by
        rw [Ne, List.drop_eq_nil_iff, List.length_append, List.length_append]
        omega
      rw [if_neg (by omega), parseYmd, readItems_digits hdigits (by simp; omega), if_neg hleft]
      rfl
    · have hyear := length_padded (show 0 < 4 by decide) (show year.toNat < 10 ^ 4 by omega)
      have hrest : (padded 4 year.toNat ++ padded 2 month ++ padded 2 day).drop 4 =
          padded 2 month ++ padded 2 day := by
        rw [List.append_assoc, List.drop_left' hyear]
      have hlast : (padded 4 year.toNat ++ padded 2 month ++ padded 2 day).drop 6 =
          padded 2 day := List.drop_left' (by rw [List.length_append]; omega)
      have hnone : (padded 4 year.toNat ++ padded 2 month ++ padded 2 day).drop 8 = [] := by
        rw [List.drop_eq_nil_iff, List.length_append, List.length_append]
        omega
      have hfirst : (padded 4 year.toNat ++ padded 2 month ++ padded 2 day).take 4 =
          padded 4 year.toNat := by
        rw [List.append_assoc, List.take_left' hyear]
      have hlen : 6 < (padded 4 year.toNat ++ padded 2 month ++ padded 2 day).length := by
        rw [List.length_append, List.length_append]
        omega
      have hvalue : ((year.toNat : ℕ) : ℤ) = year := by omega
      rw [if_pos ⟨hpos, hsmall⟩, parseYmd, readItems_digits hdigits hlen, if_pos hnone, hrest,
        hfirst, hlast, List.take_left' hmonth, List.take_of_length_le (by omega)]
      simp only [ofDigitChars_padded, hvalue]
      rfl

end Reading

/-! ### The period of a value -/

/-- The first day of the period that a day lies in. -/
def firstDay (d : Date) : PartitionUnit → Date
  | .month => d.firstOfMonth
  | .year => d.firstOfYear
  | _ => d

/-- What a value lacks to a date. -/
def dateSuffix : PartitionUnit → List Char
  | .month => "01".toList
  | .year => "0101".toList
  | _ => []

section Period

variable {dt : DateTime} {unit : PartitionUnit}

lemma value_append_suffix (hu : unit ≠ .hour) :
    partitionValueForDatetime dt unit ++ dateSuffix unit =
      paddedInt 4 (firstDay dt.date unit).year ++ padded 2 (firstDay dt.date unit).month ++
        padded 2 (firstDay dt.date unit).day := by
  have hone : padded 2 1 = "01".toList := by rfl
  cases unit with
  | hour => exact absurd rfl hu
  | day => simp [partitionValueForDatetime, dateSuffix, firstDay]
  | month => simp [partitionValueForDatetime, dateSuffix, firstDay, Date.firstOfMonth, hone]
  | year => simp [partitionValueForDatetime, dateSuffix, firstDay, Date.firstOfYear, hone]

lemma year_firstDay (d : Date) (unit : PartitionUnit) : (firstDay d unit).year = d.year := by
  cases unit <;> rfl

/-- A value is read back as the first day of its period. -/
lemma parseYmd_value (hu : unit ≠ .hour) :
    parseYmd (partitionValueForDatetime dt unit ++ dateSuffix unit) =
      if 0 ≤ dt.date.year ∧ dt.date.year ≤ 9999 then some (firstDay dt.date unit) else none := by
  have hm := (firstDay dt.date unit).monthOk
  have hd := (firstDay dt.date unit).day_le
  rw [value_append_suffix hu, parseYmd_text _ (by omega) (by omega), year_firstDay,
    ← year_firstDay dt.date unit, Date.ofYmd?_fields]

lemma lowerBound_eq_ok {value : List Char} {t : DateTime} (hu : unit ≠ .hour) :
    lowerBound value unit = .ok t ↔
      ∃ d, parseYmd (value ++ dateSuffix unit) = some d ∧ d.midnight = t := by
  cases unit with
  | hour => exact absurd rfl hu
  | day =>
    unfold lowerBound dateSuffix
    rw [List.append_nil]
    rcases parseYmd value with _ | d <;> simp
  | month =>
    unfold lowerBound dateSuffix
    rcases parseYmd (value ++ "01".toList) with _ | d <;> simp
  | year =>
    unfold lowerBound dateSuffix
    rcases parseYmd (value ++ "0101".toList) with _ | d <;> simp

/-- Two times have one value when they lie in one period. -/
lemma value_eq_iff {dt' : DateTime} (hu : unit ≠ .hour)
    (hyear : 0 ≤ dt.date.year ∧ dt.date.year ≤ 9999) :
    partitionValueForDatetime dt' unit = partitionValueForDatetime dt unit ↔
      firstDay dt'.date unit = firstDay dt.date unit := by
  constructor
  · intro h
    have hread : parseYmd (partitionValueForDatetime dt' unit ++ dateSuffix unit) =
        some (firstDay dt.date unit) := by
      rw [h, parseYmd_value hu, if_pos hyear]
    rw [parseYmd_value hu] at hread
    split_ifs at hread
    exact Option.some.inj hread
  · intro h
    have htext : partitionValueForDatetime dt' unit ++ dateSuffix unit = _ := value_append_suffix hu
    rw [h, ← value_append_suffix hu] at htext
    exact List.append_cancel_right htext

/-- Only the item for the minute sets it. -/
lemma minute_readItem {item : Item} {s r : List Char} {f g : Fields} (hne : item ≠ .minute)
    (h : readItem item s f = some (g, r)) : g.minute = f.minute := by
  cases item
  case minute => exact absurd rfl hne
  case literal c =>
    change (if s.head? = some c then some (f, s.tail) else none) = some (g, r) at h
    split_ifs at h
    cases h
    rfl
  case space =>
    cases h
    rfl
  all_goals
    obtain ⟨x, -, hx⟩ := Option.map_eq_some_iff.1 h
    cases hx
    rfl

lemma minute_readItems {items : List Item} {s : List Char} {f g : Fields}
    (hitems : Item.minute ∉ items) (h : readItems items s f = some g) : g.minute = f.minute := by
  induction items generalizing s f with
  | nil =>
    unfold readItems at h
    split_ifs at h
    cases h
    rfl
  | cons item items ih =>
    rw [List.mem_cons, not_or] at hitems
    unfold readItems at h
    obtain ⟨⟨f₁, r⟩, hread, hrest⟩ := Option.bind_eq_some_iff.1 h
    rw [ih hitems.2 hrest, minute_readItem (Ne.symm hitems.1) hread]

/-- The pattern of an hour has no minute, so no text is a time by it. -/
lemma parseYmdH_eq_none (s : List Char) : parseYmdH s = none := by
  unfold parseYmdH
  rcases hread : readItems [.year, .month, .day, .hour] s {} with _ | f
  · rfl
  · have hminute : f.minute = none := minute_readItems (by decide) hread
    rw [Option.bind_some, Fields.dateTime?, hminute]
    rcases f.date? with _ | d
    · rfl
    · rcases f.hour with _ | n
      · rfl
      · rfl

lemma partitionBounds_hour (value : List Char) :
    partitionBounds value .hour =
      .error ("invalid hour partition_value: " ++ String.ofList value) := by
  unfold partitionBounds lowerBound
  rw [parseYmdH_eq_none]
  rfl

/-- Months later is the first of another month. -/
lemma addMonths_midnight {d e : Date} {months : ℕ} (hday : d.day = 1) (heday : e.day = 1)
    (h : e.year * 12 + (e.month - 1 : ℕ) = d.year * 12 + (d.month - 1 : ℕ) + months) :
    addMonths d.midnight months = .ok e.midnight := by
  have hm := e.monthOk
  have hyear : (d.year * 12 + (d.month - 1 : ℕ) + months) / 12 = e.year := by omega
  have hmonth : ((d.year * 12 + (d.month - 1 : ℕ) + months) % 12).toNat + 1 = e.month := by omega
  have hdate : Date.ofYmd? e.year e.month d.day = some e := by
    rw [hday, ← heday, Date.ofYmd?_fields]
  unfold addMonths
  simp only [Date.midnight] at *
  rw [hyear, hmonth, hdate]
  rfl

/-- **The bounds of a value** of a year of four digits are those of its period. -/
lemma partitionBounds_value (hu : unit ≠ .hour)
    (hyear : 0 ≤ dt.date.year ∧ dt.date.year ≤ 9999) :
    ∃ b, partitionBounds (partitionValueForDatetime dt unit) unit = .ok b ∧
      ∀ t, b.lowerBound ≤ t ∧ t < b.upperBound ↔
        firstDay t.date unit = firstDay dt.date unit := by
  have hlower : lowerBound (partitionValueForDatetime dt unit) unit =
      .ok (firstDay dt.date unit).midnight :=
    (lowerBound_eq_ok hu).2 ⟨_, by rw [parseYmd_value hu, if_pos hyear], rfl⟩
  cases unit with
  | hour => exact absurd rfl hu
  | day =>
    obtain ⟨e, he⟩ := exists_nextDay dt.date (by omega)
    have hupper : addDuration dt.date.midnight 86400 = .ok e.midnight := by
      unfold addDuration
      rw [show (86400 : ℤ) = 1 * 86400 by decide, addDays_midnight he]
    exact ⟨_, partitionBounds_eq hlower hupper, fun t => mem_day_iff he⟩
  | month =>
    obtain ⟨e, hy, hm, hd, he⟩ := exists_nextMonth dt.date.firstOfMonth
      (show dt.date.year < 262142 by omega)
    have hmonth := dt.date.monthOk
    have hupper : addMonths dt.date.firstOfMonth.midnight 1 = .ok e.midnight := by
      refine addMonths_midnight rfl hd ?_
      rw [hy, hm, show dt.date.firstOfMonth.month = dt.date.month from rfl]
      by_cases hlast : dt.date.month = 12
      · rw [if_pos hlast, if_pos hlast, hlast]
        omega
      · rw [if_neg hlast, if_neg hlast]
        omega
    refine ⟨_, partitionBounds_eq hlower hupper, fun t => ?_⟩
    exact (mem_month_iff rfl he).trans firstOfMonth_eq_iff.symm
  | year =>
    have hfirst := daysInMonth_one (dt.date.year + 1)
    let e : Date := ⟨dt.date.year + 1, 1, 1, by omega, by decide, by omega⟩
    have hone := daysBeforeMonth_one (dt.date.year + 1)
    have he : e.dayNumber + 719162 = daysBeforeYear (dt.date.firstOfYear.year + 1) := by
      rw [dayNumber_of_first (d := e) rfl]
      change daysBeforeYear (dt.date.year + 1) + daysBeforeMonth (dt.date.year + 1) 1 =
        daysBeforeYear (dt.date.year + 1)
      omega
    have hupper : addMonths dt.date.firstOfYear.midnight 12 = .ok e.midnight := by
      refine addMonths_midnight rfl rfl ?_
      change (dt.date.year + 1) * 12 + ((1 - 1 : ℕ) : ℤ) =
        dt.date.year * 12 + ((1 - 1 : ℕ) : ℤ) + (12 : ℕ)
      omega
    refine ⟨_, partitionBounds_eq hlower hupper, fun t => ?_⟩
    exact (mem_year_iff rfl rfl he).trans firstOfYear_eq_iff.symm

/-- The bounds of the value of a time are read from it, hold the time, and hold exactly the times of
that value, so that no time lies within the bounds of another value. -/
def BoundsContain (dt : DateTime) (unit : PartitionUnit) : Prop :=
  ∃ b, partitionBounds (partitionValueForDatetime dt unit) unit = .ok b ∧
    b.lowerBound ≤ dt ∧ dt < b.upperBound ∧
    (∀ dt', partitionValueForDatetime dt' unit = partitionValueForDatetime dt unit ↔
      b.lowerBound ≤ dt' ∧ dt' < b.upperBound) ∧
    ∀ dt' b', partitionBounds (partitionValueForDatetime dt' unit) unit = .ok b' →
      partitionValueForDatetime dt' unit ≠ partitionValueForDatetime dt unit →
        ∀ t, ¬ ((b.lowerBound ≤ t ∧ t < b.upperBound) ∧ b'.lowerBound ≤ t ∧ t < b'.upperBound)

lemma year_of_partitionBounds {b : PartitionBounds}
    (h : partitionBounds (partitionValueForDatetime dt unit) unit = .ok b) :
    unit ≠ .hour ∧ 0 ≤ dt.date.year ∧ dt.date.year ≤ 9999 := by
  have hu : unit ≠ .hour := by
    rintro rfl
    rw [partitionBounds_hour] at h
    cases h
  refine ⟨hu, ?_⟩
  unfold partitionBounds at h
  rcases hlower : lowerBound (partitionValueForDatetime dt unit) unit with e | lower
  · rw [hlower] at h
    cases h
  · obtain ⟨d, hd, -⟩ := (lowerBound_eq_ok hu).1 hlower
    rw [parseYmd_value hu] at hd
    split_ifs at hd with hyear
    exact hyear

/-- **Partition bounds**: those of the value of a time hold what is routed to it, for days, months
and years of the years 0000 to 9999 and for nothing else. -/
theorem boundsContain_iff (dt : DateTime) (unit : PartitionUnit) :
    BoundsContain dt unit ↔ unit ≠ .hour ∧ 0 ≤ dt.date.year ∧ dt.date.year ≤ 9999 := by
  constructor
  · rintro ⟨b, hb, -⟩
    exact year_of_partitionBounds hb
  · rintro ⟨hu, hyear⟩
    obtain ⟨b, hb, hmem⟩ := partitionBounds_value hu hyear
    obtain ⟨hlow, hhigh⟩ := (hmem dt).2 rfl
    refine ⟨b, hb, hlow, hhigh, fun dt' => (value_eq_iff hu hyear).trans (hmem dt').symm, ?_⟩
    rintro dt' b' hb' hne t ⟨hin, hin'⟩
    obtain ⟨-, hyear'⟩ := year_of_partitionBounds hb'
    obtain ⟨b₂, hb₂, hmem'⟩ := partitionBounds_value hu hyear'
    obtain rfl : b' = b₂ := Except.ok.inj (hb'.symm.trans hb₂)
    refine hne ((value_eq_iff hu hyear).2 ?_)
    rw [← (hmem t).1 hin, (hmem' t).1 hin']

/-- 2026-07-10 10:00, which is routed to an hour that has no bounds. -/
theorem no_bounds_of_hour : ∃ dt : DateTime, dt.date.year = 2026 ∧ dt.hour = 10 ∧
    partitionValueForDatetime dt .hour = "2026071010".toList ∧
    partitionBounds "2026071010".toList .hour =
      .error "invalid hour partition_value: 2026071010" :=
  ⟨⟨⟨2026, 7, 10, by decide, by decide, by decide⟩, 10, 0, 0, 0, by decide, by decide, by decide,
    by decide⟩, rfl, rfl, by rfl, partitionBounds_hour _⟩

end Period

end Rsduck.Catalog
