import Rsduck.Lib.Calendar

/-!
The order of times, and days, months and years as the times between two midnights.
-/

namespace Rsduck.Lib.Calendar

/-- The seconds from 1970-01-01. -/
def DateTime.seconds (t : DateTime) : ℤ := t.date.dayNumber * 86400 + t.secondOfDay

/-- By the second and then by what is below it: a leap second comes after the second it repeats. -/
instance : LE DateTime where
  le t u := t.seconds < u.seconds ∨ t.seconds = u.seconds ∧ t.nanosecond ≤ u.nanosecond

instance : LT DateTime where
  lt t u := t.seconds < u.seconds ∨ t.seconds = u.seconds ∧ t.nanosecond < u.nanosecond

instance : DecidableLT DateTime := fun t u =>
  inferInstanceAs (Decidable (t.seconds < u.seconds ∨
    t.seconds = u.seconds ∧ t.nanosecond < u.nanosecond))

lemma DateTime.lt_irrefl (t : DateTime) : ¬ t < t := by
  rintro (h | ⟨-, h⟩) <;> omega

lemma DateTime.lt_asymm {t u : DateTime} (h : t < u) : ¬ u < t := by
  intro h'
  rcases h with h | ⟨h, hn⟩ <;> rcases h' with h' | ⟨h', hn'⟩ <;> omega

lemma DateTime.le_of_not_lt {t u : DateTime} (h : ¬ t < u) : u ≤ t := by
  by_contra h'
  have hlt : ¬ (t.seconds < u.seconds ∨ t.seconds = u.seconds ∧ t.nanosecond < u.nanosecond) := h
  have hle : ¬ (u.seconds < t.seconds ∨ u.seconds = t.seconds ∧ u.nanosecond ≤ t.nanosecond) := h'
  omega

lemma DateTime.le_refl (t : DateTime) : t ≤ t := DateTime.le_of_not_lt (DateTime.lt_irrefl t)

lemma DateTime.lt_of_le_of_lt {t u v : DateTime} (h : t ≤ u) (h' : u < v) : t < v := by
  have hle : t.seconds < u.seconds ∨ t.seconds = u.seconds ∧ t.nanosecond ≤ u.nanosecond := h
  have hlt : u.seconds < v.seconds ∨ u.seconds = v.seconds ∧ u.nanosecond < v.nanosecond := h'
  change t.seconds < v.seconds ∨ t.seconds = v.seconds ∧ t.nanosecond < v.nanosecond
  omega

lemma DateTime.le_of_lt {t u : DateTime} (h : t < u) : t ≤ u :=
  DateTime.le_of_not_lt (DateTime.lt_asymm h)

/-- The time so many seconds later, when there is one. It is for times that are no leap seconds. -/
def DateTime.addSeconds? (t : DateTime) (n : ℤ) : Option DateTime := do
  let seconds := t.seconds + n
  let date ← Date.ofDayNumber? (seconds / 86400)
  let rest := (seconds % 86400).toNat
  DateTime.of? date (rest / 3600) (rest / 60 % 60) (rest % 60) t.nanosecond

lemma seconds_midnight (d : Date) : d.midnight.seconds = d.dayNumber * 86400 := by
  simp [DateTime.seconds, Date.midnight, DateTime.secondOfDay]

lemma midnight_le_iff {d : Date} {t : DateTime} :
    d.midnight ≤ t ↔ d.dayNumber ≤ t.date.dayNumber := by
  have hs := secondOfDay_lt t
  have hm := seconds_midnight d
  have hn : d.midnight.nanosecond = 0 := rfl
  change (d.midnight.seconds < t.seconds ∨ d.midnight.seconds = t.seconds ∧ _) ↔ _
  rw [hm, hn]
  unfold DateTime.seconds
  omega

lemma lt_midnight_iff {d : Date} {t : DateTime} :
    t < d.midnight ↔ t.date.dayNumber < d.dayNumber := by
  have hs := secondOfDay_lt t
  have hm := seconds_midnight d
  have hn : d.midnight.nanosecond = 0 := rfl
  change (t.seconds < d.midnight.seconds ∨ t.seconds = d.midnight.seconds ∧ _) ↔ _
  rw [hm, hn]
  unfold DateTime.seconds
  omega

lemma dayNumber_injective {d e : Date} (h : d.dayNumber = e.dayNumber) : d = e :=
  Option.some.inj ((ofDayNumber?_dayNumber d).symm.trans (h ▸ ofDayNumber?_dayNumber e))

/-- Days later is midnight of another day. -/
lemma addDays_midnight {d e : Date} {n : ℤ} (h : e.dayNumber = d.dayNumber + n) :
    d.midnight.addSeconds? (n * 86400) = some e.midnight := by
  have hseconds : (d.midnight.seconds + n * 86400) = e.dayNumber * 86400 := by
    rw [seconds_midnight]
    omega
  have hday : e.dayNumber * 86400 / 86400 = e.dayNumber := by omega
  have hrest : (e.dayNumber * 86400 % 86400).toNat = 0 := by omega
  unfold DateTime.addSeconds?
  simp only [hseconds, hday, hrest, ofDayNumber?_dayNumber, Option.bind_eq_bind, Option.bind_some]
  exact e.midnight.of?_fields

/-! ### Years and months -/

lemma daysBeforeYear_succ (year : ℤ) :
    daysBeforeYear year + daysBeforeMonth year 13 = daysBeforeYear (year + 1) := by
  unfold daysBeforeYear daysBeforeMonth isLeap
  by_cases h4 : year % 4 = 0 <;> by_cases h100 : year % 100 = 0 <;>
    by_cases h400 : year % 400 = 0 <;> simp [h4, h100, h400] <;> omega

lemma daysBeforeMonth_one (year : ℤ) : daysBeforeMonth year 1 = 0 := by simp [daysBeforeMonth]

lemma daysBeforeYear_le {y z : ℤ} (h : y ≤ z) : daysBeforeYear y ≤ daysBeforeYear z := by
  unfold daysBeforeYear
  omega

lemma daysBeforeMonth_le (year : ℤ) {a b : ℕ} (ha : 1 ≤ a) (hab : a ≤ b) (hb : b ≤ 13) :
    daysBeforeMonth year a ≤ daysBeforeMonth year b := by
  rcases hab.lt_or_eq with h | rfl
  · exact Int.le_of_lt (daysBeforeMonth_lt year ha h hb)
  · exact Int.le_refl _

/-- The day's number, counted from 0001-01-01, lies in its month, and that in its year. -/
lemma dayNumber_bounds (d : Date) :
    daysBeforeYear d.year ≤ daysBeforeYear d.year + daysBeforeMonth d.year d.month ∧
      daysBeforeYear d.year + daysBeforeMonth d.year d.month ≤ d.dayNumber + 719162 ∧
      d.dayNumber + 719162 < daysBeforeYear d.year + daysBeforeMonth d.year (d.month + 1) ∧
      d.dayNumber + 719162 < daysBeforeYear (d.year + 1) := by
  obtain ⟨hm, hy⟩ := dayOfYear_lt d
  have h0 := one_le_daysBeforeMonth d
  have hday := d.dayOk.1
  unfold Date.dayNumber
  omega

/-- **The days of a year** are those from its first day to the next year's. -/
lemma year_eq_iff {d : Date} {year : ℤ} :
    d.year = year ↔ daysBeforeYear year ≤ d.dayNumber + 719162 ∧
      d.dayNumber + 719162 < daysBeforeYear (year + 1) := by
  obtain ⟨h0, h1, -, h3⟩ := dayNumber_bounds d
  constructor
  · rintro rfl
    omega
  · rintro ⟨hlow, hhigh⟩
    rcases Int.lt_trichotomy d.year year with hlt | heq | hgt
    · have := daysBeforeYear_le (show d.year + 1 ≤ year by omega)
      omega
    · exact heq
    · have := daysBeforeYear_le (show year + 1 ≤ d.year by omega)
      omega

/-- **The days of a month** are those from its first day to the next month's. -/
lemma month_eq_iff {d : Date} {year : ℤ} {month : ℕ} (hmonth : 1 ≤ month ∧ month ≤ 12) :
    d.year = year ∧ d.month = month ↔
      daysBeforeYear year + daysBeforeMonth year month ≤ d.dayNumber + 719162 ∧
        d.dayNumber + 719162 < daysBeforeYear year + daysBeforeMonth year (month + 1) := by
  obtain ⟨-, h1, h2, -⟩ := dayNumber_bounds d
  have hd := d.monthOk
  constructor
  · rintro ⟨rfl, rfl⟩
    exact ⟨h1, h2⟩
  · rintro ⟨hlow, hhigh⟩
    -- a month lies in its year
    have hyear : d.year = year := by
      have hfirst := daysBeforeMonth_le year (le_refl 1) hmonth.1 (by omega)
      have hlast := daysBeforeMonth_le year (by omega) (show month + 1 ≤ 13 by omega) (le_refl 13)
      have hone := daysBeforeMonth_one year
      have hsucc := daysBeforeYear_succ year
      exact year_eq_iff.2 ⟨by omega, by omega⟩
    subst hyear
    refine ⟨rfl, ?_⟩
    rcases Nat.lt_trichotomy d.month month with hlt | heq | hgt
    · have := daysBeforeMonth_le d.year (by omega) (show d.month + 1 ≤ month by omega) (by omega)
      omega
    · exact heq
    · have := daysBeforeMonth_le d.year (by omega) (show month + 1 ≤ d.month by omega) (by omega)
      omega

/-- Days are in the order of their years, months and days. -/
lemma dayNumber_lt {d e : Date}
    (h : d.year < e.year ∨ d.year = e.year ∧
      (d.month < e.month ∨ d.month = e.month ∧ d.day < e.day)) : d.dayNumber < e.dayNumber := by
  obtain ⟨-, -, hmonth, hyear⟩ := dayNumber_bounds d
  obtain ⟨hfirst, hlow, -, -⟩ := dayNumber_bounds e
  have hd := d.monthOk
  have he := e.monthOk
  rcases h with h | ⟨hy, h | ⟨hm, h⟩⟩
  · have := daysBeforeYear_le (show d.year + 1 ≤ e.year by omega)
    omega
  · have := daysBeforeMonth_le e.year (show 1 ≤ d.month + 1 by omega)
      (show d.month + 1 ≤ e.month by omega) (by omega)
    rw [hy] at hmonth
    omega
  · unfold Date.dayNumber
    rw [hy, hm]
    omega

/-- An earlier day has the earlier times. -/
lemma lt_of_dayNumber_lt {t u : DateTime} (h : t.date.dayNumber < u.date.dayNumber) : t < u := by
  have ht := secondOfDay_lt t
  have hu := secondOfDay_lt u
  left
  unfold DateTime.seconds
  omega

/-- Of two times on one day, the one of the earlier hour is the earlier one. -/
lemma lt_of_hour_lt {t u : DateTime} (hday : t.date.dayNumber = u.date.dayNumber)
    (h : t.hour < u.hour) : t < u := by
  have hm := t.minuteOk
  have hs := t.secondOk
  left
  unfold DateTime.seconds DateTime.secondOfDay
  omega

/-- A month has a first day. -/
lemma Date.first_ok (d : Date) : 1 ≤ 1 ∧ ((1 : ℕ) : ℤ) ≤ daysInMonth d.year d.month := by
  have := d.dayOk
  omega

lemma daysInMonth_one (year : ℤ) : daysInMonth year 1 = 31 := by
  simp [daysInMonth, daysBeforeMonth]

def Date.firstOfMonth (d : Date) : Date := ⟨d.year, d.month, 1, d.yearOk, d.monthOk, d.first_ok⟩

def Date.firstOfYear (d : Date) : Date :=
  ⟨d.year, 1, 1, d.yearOk, by decide, by rw [daysInMonth_one]; decide⟩

lemma firstOfMonth_eq_iff {d e : Date} :
    d.firstOfMonth = e.firstOfMonth ↔ d.year = e.year ∧ d.month = e.month := by
  simp [Date.firstOfMonth]

lemma firstOfYear_eq_iff {d e : Date} : d.firstOfYear = e.firstOfYear ↔ d.year = e.year := by
  simp [Date.firstOfYear]

lemma daysInMonth_pos (year : ℤ) (month : ℕ) (h : 1 ≤ month ∧ month ≤ 12) :
    1 ≤ daysInMonth year month := by
  have := daysBeforeMonth_lt year h.1 (show month < month + 1 by omega) (by omega)
  unfold daysInMonth
  omega

/-- The first of the next month. -/
lemma exists_nextMonth (d : Date) (hyear : d.year < 262142) :
    ∃ e : Date, e.year = (if d.month = 12 then d.year + 1 else d.year) ∧
      e.month = (if d.month = 12 then 1 else d.month + 1) ∧ e.day = 1 ∧
      e.dayNumber + 719162 = daysBeforeYear d.year + daysBeforeMonth d.year (d.month + 1) := by
  have hy := d.yearOk
  have hm := d.monthOk
  by_cases hlast : d.month = 12
  · have hone := daysBeforeMonth_one (d.year + 1)
    have hsucc : daysBeforeYear d.year + daysBeforeMonth d.year (12 + 1) =
        daysBeforeYear (d.year + 1) := daysBeforeYear_succ d.year
    have hfirst := daysInMonth_one (d.year + 1)
    refine ⟨⟨d.year + 1, 1, 1, by omega, by decide, by omega⟩, ?_⟩
    simp only [hlast, if_true, true_and]
    unfold Date.dayNumber
    dsimp only
    omega
  · have hfirst := daysInMonth_pos d.year (d.month + 1) (by omega)
    refine ⟨⟨d.year, d.month + 1, 1, hy, by omega, by omega⟩, ?_⟩
    simp only [hlast, if_false, true_and]
    unfold Date.dayNumber
    dsimp only
    omega

/-- The next day. -/
lemma exists_nextDay (d : Date) (hyear : d.year < 262142) :
    ∃ e : Date, e.dayNumber = d.dayNumber + 1 := by
  have hday := d.dayOk
  by_cases hlast : (d.day : ℤ) = daysInMonth d.year d.month
  · obtain ⟨e, -, -, -, he⟩ := exists_nextMonth d hyear
    refine ⟨e, ?_⟩
    unfold daysInMonth at hlast
    unfold Date.dayNumber at he ⊢
    omega
  · refine ⟨⟨d.year, d.month, d.day + 1, d.yearOk, d.monthOk, by omega⟩, ?_⟩
    unfold Date.dayNumber
    dsimp only
    omega

/-! ### Times between two midnights -/

section Between

variable {d e : Date} {t : DateTime}

lemma between_midnights_iff :
    d.midnight ≤ t ∧ t < e.midnight ↔
      d.dayNumber ≤ t.date.dayNumber ∧ t.date.dayNumber < e.dayNumber := by
  rw [midnight_le_iff, lt_midnight_iff]

lemma dayNumber_of_first (h : d.day = 1) :
    d.dayNumber + 719162 = daysBeforeYear d.year + daysBeforeMonth d.year d.month := by
  unfold Date.dayNumber
  omega

lemma mem_day_iff (h : e.dayNumber = d.dayNumber + 1) :
    d.midnight ≤ t ∧ t < e.midnight ↔ t.date = d := by
  rw [between_midnights_iff]
  constructor
  · rintro ⟨hlow, hhigh⟩
    exact dayNumber_injective (by omega)
  · rintro rfl
    omega

lemma mem_month_iff (hd : d.day = 1)
    (he : e.dayNumber + 719162 = daysBeforeYear d.year + daysBeforeMonth d.year (d.month + 1)) :
    d.midnight ≤ t ∧ t < e.midnight ↔ t.date.year = d.year ∧ t.date.month = d.month := by
  have hfirst := dayNumber_of_first hd
  rw [between_midnights_iff, month_eq_iff d.monthOk]
  omega

lemma mem_year_iff (hd : d.day = 1) (hm : d.month = 1)
    (he : e.dayNumber + 719162 = daysBeforeYear (d.year + 1)) :
    d.midnight ≤ t ∧ t < e.midnight ↔ t.date.year = d.year := by
  have hfirst := dayNumber_of_first hd
  have hone := daysBeforeMonth_one d.year
  rw [hm] at hfirst
  rw [between_midnights_iff, year_eq_iff]
  omega

end Between

end Rsduck.Lib.Calendar
