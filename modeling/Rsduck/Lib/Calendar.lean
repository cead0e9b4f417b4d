import Mathlib.Data.Int.Notation
import Mathlib.Tactic.Common
import Rsduck.Lib.Text

/-!
Dates and times of the Gregorian calendar, and reading them from a text by a pattern.

A date is valid by construction. Its day number counts from 1970-01-01.
-/

namespace Rsduck.Lib.Calendar

open Lib.Text

/-! ### Dates -/

def isLeap (year : ℤ) : Bool := year % 4 == 0 && (year % 100 != 0 || year % 400 == 0)

/-- The days of a year before a month. -/
def daysBeforeMonth (year : ℤ) (month : ℕ) : ℤ :=
  [0, 31, 59, 90, 120, 151, 181, 212, 243, 273, 304, 334, 365].getD (month - 1) 365 +
    if isLeap year ∧ 2 < month then 1 else 0

def daysInMonth (year : ℤ) (month : ℕ) : ℤ :=
  daysBeforeMonth year (month + 1) - daysBeforeMonth year month

/-- The days before a year, from 0001-01-01. -/
def daysBeforeYear (year : ℤ) : ℤ :=
  365 * (year - 1) + (year - 1) / 4 - (year - 1) / 100 + (year - 1) / 400

structure Date where
  year : ℤ
  month : ℕ
  day : ℕ
  yearOk : -262143 ≤ year ∧ year ≤ 262142
  monthOk : 1 ≤ month ∧ month ≤ 12
  dayOk : 1 ≤ day ∧ (day : ℤ) ≤ daysInMonth year month
  deriving DecidableEq

def Date.ofYmd? (year : ℤ) (month day : ℕ) : Option Date :=
  if hy : -262143 ≤ year ∧ year ≤ 262142 then
    if hm : 1 ≤ month ∧ month ≤ 12 then
      if hd : 1 ≤ day ∧ (day : ℤ) ≤ daysInMonth year month then
        some ⟨year, month, day, hy, hm, hd⟩
      else none
    else none
  else none

/-- A date that is written out. -/
def Date.of (year : ℤ) (month day : ℕ) (h : (Date.ofYmd? year month day).isSome = true) : Date :=
  (Date.ofYmd? year month day).get h

def Date.dayNumber (d : Date) : ℤ :=
  daysBeforeYear d.year + daysBeforeMonth d.year d.month + d.day - 1 - 719162

/-- The date of a day number: the last year that starts by then, the last month of it, the day. -/
def Date.ofDayNumber? (n : ℤ) : Option Date := do
  let n := n + 719162
  let guess := n * 400 / 146097 + 1
  let year ← [guess + 1, guess, guess - 1].find? fun y => decide (daysBeforeYear y ≤ n)
  let rest := n - daysBeforeYear year
  let month ← [12, 11, 10, 9, 8, 7, 6, 5, 4, 3, 2, 1].find? fun m =>
    decide (daysBeforeMonth year m ≤ rest)
  Date.ofYmd? year month (rest - daysBeforeMonth year month + 1).toNat

/-! ### Day numbers -/

/-- A day number lies in the year that starts last by then. -/
lemma daysBeforeYear_le_iff {y year n : ℤ} (h1 : daysBeforeYear year ≤ n)
    (h2 : n < daysBeforeYear (year + 1)) : daysBeforeYear y ≤ n ↔ y ≤ year := by
  unfold daysBeforeYear at *
  constructor
  · intro h
    by_contra hlt
    omega
  · intro h
    omega

lemma guess_bounds {year n : ℤ} (h1 : daysBeforeYear year ≤ n)
    (h2 : n < daysBeforeYear (year + 1)) :
    year ≤ n * 400 / 146097 + 1 + 1 ∧ n * 400 / 146097 + 1 - 1 ≤ year := by
  unfold daysBeforeYear at *
  omega

lemma daysBeforeMonth_lt (year : ℤ) {a b : ℕ} (ha : 1 ≤ a) (hab : a < b) (hb : b ≤ 13) :
    daysBeforeMonth year a < daysBeforeMonth year b := by
  unfold daysBeforeMonth
  generalize isLeap year = leap
  have h : ∀ leap : Bool, ∀ b ≤ 13, ∀ a < b, 1 ≤ a →
      ([0, 31, 59, 90, 120, 151, 181, 212, 243, 273, 304, 334, 365].getD (a - 1) 365 : ℤ) +
          (if leap ∧ 2 < a then 1 else 0) <
        ([0, 31, 59, 90, 120, 151, 181, 212, 243, 273, 304, 334, 365].getD (b - 1) 365 : ℤ) +
          (if leap ∧ 2 < b then 1 else 0) := by
    decide
  exact h leap b hb a hab ha

/-- A day of a year lies in the month that starts last by then. -/
lemma daysBeforeMonth_le_iff {year n : ℤ} {m month : ℕ} (hm : 1 ≤ m ∧ m ≤ 12)
    (hmonth : 1 ≤ month ∧ month ≤ 12) (h1 : daysBeforeMonth year month ≤ n)
    (h2 : n < daysBeforeMonth year (month + 1)) : daysBeforeMonth year m ≤ n ↔ m ≤ month := by
  constructor
  · intro h
    by_contra hlt
    rcases (show month + 1 ≤ m by omega).lt_or_eq with h' | rfl
    · have := daysBeforeMonth_lt year (by omega) h' (by omega)
      omega
    · omega
  · intro h
    rcases h.lt_or_eq with h' | rfl
    · have := daysBeforeMonth_lt year (by omega) h' (by omega)
      omega
    · exact h1

/-- The first of the numbers from `n` down that is at most `k` is `k`. -/
lemma find?_le_range {k n : ℕ} (hk : 1 ≤ k) (hn : k ≤ n) {p : ℕ → Bool}
    (hp : ∀ m, 1 ≤ m → m ≤ n → (p m = true ↔ m ≤ k)) :
    ((List.range n).reverse.map (· + 1)).find? p = some k := by
  induction n with
  | zero => omega
  | succ n ih =>
    rw [List.range_succ, List.reverse_append, List.reverse_singleton, List.singleton_append,
      List.map_cons, List.find?_cons]
    rcases hn.lt_or_eq with hlt | rfl
    · have hne : p (n + 1) = false := by
        by_contra h
        have := (hp (n + 1) (by omega) le_rfl).1 (by simpa using h)
        omega
      rw [hne]
      exact ih (by omega) fun m h1 h2 => hp m h1 (by omega)
    · rw [(hp (n + 1) (by omega) le_rfl).2 le_rfl]

/-- The days of a year are those of its months. -/
lemma dayOfYear_lt (d : Date) :
    daysBeforeMonth d.year d.month + d.day - 1 < daysBeforeMonth d.year (d.month + 1) ∧
      daysBeforeYear d.year + (daysBeforeMonth d.year d.month + d.day - 1) <
        daysBeforeYear (d.year + 1) := by
  have hday := d.dayOk
  have hmonth := d.monthOk
  have h1 : daysBeforeMonth d.year d.month + d.day - 1 < daysBeforeMonth d.year (d.month + 1) := by
    have := hday.2
    unfold daysInMonth at this
    omega
  refine ⟨h1, ?_⟩
  have h2 : daysBeforeMonth d.year (d.month + 1) ≤ daysBeforeMonth d.year 13 := by
    rcases (show d.month + 1 ≤ 13 by omega).lt_or_eq with h | h
    · exact Int.le_of_lt (daysBeforeMonth_lt d.year (by omega) h le_rfl)
    · exact Int.le_of_eq (by rw [h])
  have h3 : daysBeforeYear d.year + daysBeforeMonth d.year 13 = daysBeforeYear (d.year + 1) := by
    unfold daysBeforeYear daysBeforeMonth isLeap
    by_cases h4 : d.year % 4 = 0 <;> by_cases h100 : d.year % 100 = 0 <;>
      by_cases h400 : d.year % 400 = 0 <;> simp [h4, h100, h400] <;> omega
  omega

lemma one_le_daysBeforeMonth (d : Date) : 0 ≤ daysBeforeMonth d.year d.month := by
  rcases d.monthOk.1.lt_or_eq with h | h
  · have h1 := daysBeforeMonth_lt d.year le_rfl h (by have := d.monthOk.2; omega)
    have h2 : daysBeforeMonth d.year 1 = 0 := by simp [daysBeforeMonth]
    omega
  · rw [← h]
    simp [daysBeforeMonth]

/-- **A day number names one date**: the date of a date's day number is that date. -/
theorem ofDayNumber?_dayNumber (d : Date) : Date.ofDayNumber? d.dayNumber = some d := by
  obtain ⟨hm, hy⟩ := dayOfYear_lt d
  have h0 := one_le_daysBeforeMonth d
  have hday := d.dayOk.1
  set n := daysBeforeYear d.year + (daysBeforeMonth d.year d.month + d.day - 1) with hn
  have hlow : daysBeforeYear d.year ≤ n := by omega
  have hyear : [n * 400 / 146097 + 1 + 1, n * 400 / 146097 + 1, n * 400 / 146097 + 1 - 1].find?
      (fun y => decide (daysBeforeYear y ≤ n)) = some d.year := by
    have hb := guess_bounds hlow hy
    simp only [List.find?_cons, daysBeforeYear_le_iff hlow hy]
    generalize n * 400 / 146097 = g at hb
    by_cases h1 : g + 1 + 1 ≤ d.year
    · simp only [h1, decide_true]
      congr 1
      omega
    · by_cases h2 : g + 1 ≤ d.year
      · simp only [h1, h2, decide_true, decide_false]
        congr 1
        omega
      · have h3 : g + 1 - 1 ≤ d.year := by omega
        simp only [h1, h2, h3, decide_true, decide_false]
        congr 1
        omega
  have hmonth : [12, 11, 10, 9, 8, 7, 6, 5, 4, 3, 2, 1].find?
      (fun m => decide (daysBeforeMonth d.year m ≤ n - daysBeforeYear d.year)) = some d.month := by
    refine find?_le_range (n := 12) d.monthOk.1 d.monthOk.2 fun m h1 h2 => ?_
    rw [decide_eq_true_eq]
    exact daysBeforeMonth_le_iff ⟨h1, h2⟩ d.monthOk (by omega) (by omega)
  have hdate : (n - daysBeforeYear d.year - daysBeforeMonth d.year d.month + 1).toNat = d.day := by
    omega
  unfold Date.ofDayNumber?
  have hnum : d.dayNumber + 719162 = n := by
    unfold Date.dayNumber
    omega
  simp only [hnum, hyear, hmonth, Option.bind_eq_bind, Option.bind_some, hdate]
  simp [Date.ofYmd?, d.yearOk, d.monthOk, d.dayOk]

/-- The date of a day number has that day number. -/
theorem dayNumber_of_ofDayNumber? {n : ℤ} {d : Date} (h : Date.ofDayNumber? n = some d) :
    d.dayNumber = n := by
  unfold Date.ofDayNumber? at h
  simp only [Option.bind_eq_bind, Option.bind_eq_some_iff] at h
  obtain ⟨year, -, month, hmonth, h⟩ := h
  have hle := List.find?_some hmonth
  rw [decide_eq_true_eq] at hle
  unfold Date.ofYmd? at h
  split_ifs at h
  cases h
  unfold Date.dayNumber
  dsimp only
  omega

lemma Date.day_le (d : Date) : d.day ≤ 31 := by
  have h : ∀ leap : Bool, ∀ m ≤ 12, 1 ≤ m →
      ([0, 31, 59, 90, 120, 151, 181, 212, 243, 273, 304, 334, 365].getD (m + 1 - 1) 365 : ℤ) +
          (if leap ∧ 2 < m + 1 then 1 else 0) -
        (([0, 31, 59, 90, 120, 151, 181, 212, 243, 273, 304, 334, 365].getD (m - 1) 365 : ℤ) +
          (if leap ∧ 2 < m then 1 else 0)) ≤ 31 := by
    decide
  have hday := d.dayOk.2
  have hmonth := h (isLeap d.year) d.month d.monthOk.2 d.monthOk.1
  unfold daysInMonth daysBeforeMonth at hday
  omega

lemma Date.ofYmd?_fields (d : Date) : Date.ofYmd? d.year d.month d.day = some d := by
  simp [Date.ofYmd?, d.yearOk, d.monthOk, d.dayOk]

lemma year_of_ofYmd? {year : ℤ} {month day : ℕ} {d : Date}
    (h : Date.ofYmd? year month day = some d) : d.year = year := by
  unfold Date.ofYmd? at h
  split_ifs at h
  cases h
  rfl

lemma ofDayNumber?_eq_some {n : ℤ} {d : Date} : Date.ofDayNumber? n = some d ↔ d.dayNumber = n := by
  constructor
  · exact dayNumber_of_ofDayNumber?
  · rintro rfl
    exact ofDayNumber?_dayNumber d

/-! ### Times -/

/-- A second that is a leap second keeps a thousand million more nanoseconds. -/
structure DateTime where
  date : Date
  hour : ℕ
  minute : ℕ
  second : ℕ
  nanosecond : ℕ
  hourOk : hour < 24
  minuteOk : minute < 60
  secondOk : second < 60
  nanosecondOk : nanosecond < 2000000000
  deriving DecidableEq

def DateTime.of? (date : Date) (hour minute second nanosecond : ℕ) : Option DateTime :=
  if hh : hour < 24 then
    if hm : minute < 60 then
      if hs : second < 60 then
        if hn : nanosecond < 2000000000 then
          some ⟨date, hour, minute, second, nanosecond, hh, hm, hs, hn⟩
        else none
      else none
    else none
  else none

/-- A time that is written out. -/
def DateTime.of (date : Date) (hour minute second nanosecond : ℕ)
    (h : (DateTime.of? date hour minute second nanosecond).isSome = true) : DateTime :=
  (DateTime.of? date hour minute second nanosecond).get h

def Date.midnight (date : Date) : DateTime :=
  ⟨date, 0, 0, 0, 0, by decide, by decide, by decide, by decide⟩

def DateTime.secondOfDay (t : DateTime) : ℕ := t.hour * 3600 + t.minute * 60 + t.second

/-- Microseconds from 1970-01-01. -/
def DateTime.micros (t : DateTime) : ℤ :=
  (t.date.dayNumber * 86400 + t.secondOfDay) * 1000000 + (t.nanosecond / 1000 : ℕ)

/-- The time of a number of microseconds. -/
def DateTime.ofMicros? (n : ℤ) : Option DateTime := do
  let seconds := n / 1000000
  let date ← Date.ofDayNumber? (seconds / 86400)
  let rest := (seconds % 86400).toNat
  DateTime.of? date (rest / 3600) (rest / 60 % 60) (rest % 60) ((n % 1000000).toNat * 1000)

lemma secondOfDay_lt (t : DateTime) : t.secondOfDay < 86400 := by
  have := t.hourOk
  have := t.minuteOk
  have := t.secondOk
  unfold DateTime.secondOfDay
  omega

lemma DateTime.of?_fields (t : DateTime) :
    DateTime.of? t.date t.hour t.minute t.second t.nanosecond = some t := by
  simp [DateTime.of?, t.hourOk, t.minuteOk, t.secondOk, t.nanosecondOk]

lemma date_of_of? {date : Date} {hour minute second nanosecond : ℕ} {t : DateTime}
    (h : DateTime.of? date hour minute second nanosecond = some t) :
    t.date = date ∧ t.nanosecond = nanosecond := by
  unfold DateTime.of? at h
  split_ifs at h
  cases h
  exact ⟨rfl, rfl⟩

/-- A time of whole microseconds is the one of its number of microseconds. -/
lemma ofMicros?_micros (t : DateTime) (hns : t.nanosecond < 1000000000)
    (hwhole : t.nanosecond % 1000 = 0) : DateTime.ofMicros? t.micros = some t := by
  have hs := secondOfDay_lt t
  have hseconds : t.micros / 1000000 = t.date.dayNumber * 86400 + t.secondOfDay := by
    unfold DateTime.micros
    omega
  have hdate : t.micros / 1000000 / 86400 = t.date.dayNumber := by omega
  have hrest : (t.micros / 1000000 % 86400).toNat = t.secondOfDay := by omega
  have hnano : (t.micros % 1000000).toNat * 1000 = t.nanosecond := by
    unfold DateTime.micros
    omega
  have hhour : t.secondOfDay / 3600 = t.hour := by
    have := t.minuteOk
    have := t.secondOk
    unfold DateTime.secondOfDay
    omega
  have hminute : t.secondOfDay / 60 % 60 = t.minute := by
    have := t.minuteOk
    have := t.secondOk
    unfold DateTime.secondOfDay
    omega
  have hsecond : t.secondOfDay % 60 = t.second := by
    have := t.secondOk
    unfold DateTime.secondOfDay
    omega
  unfold DateTime.ofMicros?
  simp only [hdate, ofDayNumber?_dayNumber, Option.bind_eq_bind, Option.bind_some, hrest, hnano,
    hhour, hminute, hsecond]
  exact t.of?_fields

/-! ### Reading by a pattern -/

/-- An item of a pattern. -/
inductive Item
  | year | month | day | hour | minute | second | fraction
  | literal (c : Char)
  | space
  deriving DecidableEq

/-- The fields read so far. -/
structure Fields where
  year : Option ℤ := none
  month : Option ℕ := none
  day : Option ℕ := none
  hour : Option ℕ := none
  minute : Option ℕ := none
  second : Option ℕ := none
  nanosecond : Option ℕ := none

def digitsValue (ds : List Char) : ℕ := ds.foldl (fun n d => 10 * n + (d.toNat - '0'.toNat)) 0

/-- At least one and at most `width` digits. -/
def readNumber (width : ℕ) (s : List Char) : Option (ℕ × List Char) :=
  let ds := (s.take width).takeWhile Char.isDigit
  if ds = [] then none else some (digitsValue ds, s.drop ds.length)

/-- A year has four digits at most, or any number of digits after a sign. -/
def readYear (s : List Char) : Option (ℤ × List Char) :=
  match s with
  | '-' :: r => (readNumber r.length r).map fun x => (-(x.1 : ℤ), x.2)
  | '+' :: r => (readNumber r.length r).map fun x => ((x.1 : ℤ), x.2)
  | _ => (readNumber 4 s).map fun x => ((x.1 : ℤ), x.2)

/-- The digits after a point, cut to nanoseconds. -/
def readFraction (s : List Char) : Option (Option ℕ × List Char) :=
  match s with
  | '.' :: r =>
    let ds := r.takeWhile Char.isDigit
    if ds = [] then none
    else some (some (digitsValue (ds.take 9 ++ List.replicate (9 - ds.length) '0')),
      r.drop ds.length)
  | _ => some (none, s)

def readItem (item : Item) (s : List Char) (f : Fields) : Option (Fields × List Char) :=
  match item with
  | .year => (readYear (trimStart s)).map fun x => ({ f with year := x.1 }, x.2)
  | .month => (readNumber 2 (trimStart s)).map fun x => ({ f with month := x.1 }, x.2)
  | .day => (readNumber 2 (trimStart s)).map fun x => ({ f with day := x.1 }, x.2)
  | .hour => (readNumber 2 (trimStart s)).map fun x => ({ f with hour := x.1 }, x.2)
  | .minute => (readNumber 2 (trimStart s)).map fun x => ({ f with minute := x.1 }, x.2)
  | .second => (readNumber 2 (trimStart s)).map fun x => ({ f with second := x.1 }, x.2)
  | .fraction => (readFraction s).map fun x => ({ f with nanosecond := x.1 }, x.2)
  | .literal c => if s.head? = some c then some (f, s.tail) else none
  | .space => some (f, trimStart s)

/-- The whole text by the pattern. -/
def readItems : List Item → List Char → Fields → Option Fields
  | [], s, f => if s = [] then some f else none
  | item :: items, s, f => do
    let (f, s) ← readItem item s f
    readItems items s f

def Fields.date? (f : Fields) : Option Date := do
  Date.ofYmd? (← f.year) (← f.month) (← f.day)

/-- Seconds and what is below may be left out; the second 60 is a leap second. -/
def Fields.dateTime? (f : Fields) : Option DateTime := do
  let date ← f.date?
  let hour ← f.hour
  let minute ← f.minute
  let second := f.second.getD 0
  let nanosecond := f.nanosecond.getD 0
  if second = 60 then DateTime.of? date hour minute 59 (nanosecond + 1000000000)
  else DateTime.of? date hour minute second nanosecond

end Rsduck.Lib.Calendar
