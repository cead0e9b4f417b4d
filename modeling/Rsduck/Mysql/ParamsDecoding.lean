import Rsduck.Mysql.ClientParams
import Rsduck.Mysql.InRange

/-!
What the server makes of the parameters of a client.
-/

namespace Rsduck.Mysql

open Lib Lib.Calendar Lib.DecimalText Lib.FloatFormat Lib.Wire Lib.Wire.Reader Db

/-! ### Floats -/

lemma ofFields_f64 (negative : Bool) (e m : ℕ) :
    f64.ofFields negative e m =
      BitVec.ofNat _ ((if negative then 2 ^ 63 else 0) + e * 2 ^ 52 + m) := rfl

/-- The fields of the wider float. -/
def widenFields (e m : ℕ) : ℕ × ℕ :=
  if e = 255 then (2047, if m = 0 then 0 else (m ||| 2 ^ 22) * 2 ^ 29)
  else if e ≠ 0 then (e + 896, m * 2 ^ 29)
  else if m = 0 then (0, 0)
  else (Nat.log2 m + 874, (m - 2 ^ Nat.log2 m) * 2 ^ (52 - Nat.log2 m))

lemma widen_eq (b : F32) :
    widen b = f64.ofFields (f32.negative b)
      (widenFields (f32.exponent b) (f32.mantissa b)).1
      (widenFields (f32.exponent b) (f32.mantissa b)).2 := by
  rw [ofFields_f64]
  rfl

lemma widenFields_lt {e m : ℕ} (he : e < 2 ^ 8) (hm : m < 2 ^ 23) :
    (widenFields e m).1 < 2 ^ 11 ∧ (widenFields e m).2 < 2 ^ 52 := by
  unfold widenFields
  split_ifs with h255 hnan h0 hz
  · exact ⟨by dsimp only; omega, by dsimp only; omega⟩
  · have hor : m ||| 2 ^ 22 < 2 ^ 23 := Nat.or_lt_two_pow hm (by decide)
    exact ⟨by dsimp only; omega, by dsimp only; omega⟩
  · exact ⟨by dsimp only; omega, by dsimp only; omega⟩
  · exact ⟨by decide, by decide⟩
  · have hlog : Nat.log2 m < 23 := (Nat.log2_lt hz).2 hm
    have hlt : m < 2 ^ (Nat.log2 m + 1) := Nat.lt_log2_self
    have hpow : 2 ^ 52 = 2 ^ Nat.log2 m * 2 ^ (52 - Nat.log2 m) := by
      rw [← pow_add]
      congr 1
      omega
    have hpos : 0 < 2 ^ (52 - Nat.log2 m) := Nat.pow_pos (by decide)
    refine ⟨by dsimp only; omega, ?_⟩
    dsimp only
    rw [hpow]
    rw [pow_succ] at hlt
    exact Nat.mul_lt_mul_of_pos_right (by omega) hpos

/-- The significand of a number that was subnormal: its bits shifted up to the leading one. -/
lemma subnormal_eq {m : ℕ} (hz : m ≠ 0) (hlog : Nat.log2 m < 23) :
    (m - 2 ^ Nat.log2 m) * 2 ^ (52 - Nat.log2 m) + 2 ^ 52 = m * 2 ^ (52 - Nat.log2 m) := by
  have hle : 2 ^ Nat.log2 m ≤ m := Nat.log2_self_le hz
  have hpow : 2 ^ 52 = 2 ^ Nat.log2 m * 2 ^ (52 - Nat.log2 m) := by
    rw [← pow_add]
    congr 1
    omega
  rw [hpow, ← Nat.add_mul, Nat.sub_add_cancel hle]

lemma valueAt_widenFields (negative : Bool) {e m : ℕ} (he : e < 2 ^ 8) (hm : m < 2 ^ 23) :
    f64.valueAt negative (widenFields e m).1 (widenFields e m).2 = f32.valueAt negative e m := by
  have h11 : 2 ^ f64.expBits - 1 = 2047 := by decide
  have h8 : 2 ^ f32.expBits - 1 = 255 := by decide
  have hbias : 2 ^ (f64.expBits - 1) - 1 = 1023 := by decide
  have hbias' : 2 ^ (f32.expBits - 1) - 1 = 127 := by decide
  have hmant : f64.mantBits = 52 := rfl
  have hmant' : f32.mantBits = 23 := rfl
  unfold valueAt widenFields
  rw [h11, h8, hbias, hbias', hmant, hmant']
  by_cases h255 : e = 255
  · simp only [if_pos h255]
    by_cases hnan : m = 0
    · simp only [if_pos hnan]
      rfl
    · have hor : m ||| 2 ^ 22 ≠ 0 := by
        intro h
        exact absurd (Nat.or_eq_zero_iff.1 h).2 (by decide)
      have hne : (m ||| 2 ^ 22) * 2 ^ 29 ≠ 0 := by omega
      simp only [if_neg hnan, if_neg hne]
      rfl
  · simp only [if_neg h255]
    by_cases h0 : e = 0
    · simp only [if_pos h0, if_neg (not_not.2 h0)]
      by_cases hz : m = 0
      · subst hz
        simp only [if_true]
        rw [if_neg (by decide), Nat.cast_zero, zero_mul, zero_mul]
      · simp only [if_neg hz]
        have hlog : Nat.log2 m < 23 := (Nat.log2_lt hz).2 hm
        rw [if_neg (by omega), if_neg (by omega), subnormal_eq hz hlog]
        congr 1
        rw [Nat.cast_mul, mul_assoc, Nat.cast_pow, ← zpow_natCast, Nat.cast_ofNat,
          ← zpow_add₀ (by norm_num)]
        have hexp : ((52 - Nat.log2 m : ℕ) : ℤ) + (((Nat.log2 m + 874 : ℕ) : ℤ) - (1023 : ℕ) - (52 : ℕ)) =
            1 - (127 : ℕ) - (23 : ℕ) := by omega
        rw [hexp]
    · simp only [if_neg h0, if_pos (show e ≠ 0 from h0)]
      rw [if_neg (by omega), if_neg (by omega)]
      congr 1
      have hexp : ((e + 896 : ℕ) : ℤ) - (1023 : ℕ) - (52 : ℕ) = ((e : ℤ) - (127 : ℕ) - (23 : ℕ)) - 29 := by
        push_cast
        ring
      rw [hexp, zpow_sub₀ (by norm_num)]
      push_cast
      field_simp
      ring

/-- **The wider float is the same number.** -/
lemma value_widen (b : F32) : f64.value (widen b) = f32.value b := by
  have hm : f32.mantissa b < 2 ^ 23 := Nat.mod_lt _ (by decide)
  have he : f32.exponent b < 2 ^ 8 := Nat.mod_lt _ (by decide)
  obtain ⟨hE, hM⟩ := widenFields_lt he hm
  rw [widen_eq, value_ofFields _ hE hM, valueAt_widenFields _ he hm, value_eq]

/-! ### Texts of dates and times -/

lemma readNat_padded (width n : ℕ) : readNat (padded width n) = some n := by
  have hne : padded width n ≠ [] := fun h => Nat.toDigits_ne_nil (List.append_eq_nil_iff.1 h).2
  rw [readNat_of_digits hne (allDigits_padded width n), ofDigitChars_padded]

lemma ne_of_mem_padded {width n : ℕ} {c d : Char} (hd : d.isDigit = false)
    (h : c ∈ padded width n) : c ≠ d := by
  rintro rfl
  rw [allDigits_padded width n c h] at hd
  cases hd

lemma readSeparated_padded (width n : ℕ) : readSeparated [] (padded width n) = some [n] := by
  rw [readSeparated, readNat_padded]
  rfl

lemma readSeparated_cons {c : Char} (hc : c.isDigit = false) (cs : List Char) (width n : ℕ)
    (t : List Char) :
    readSeparated (c :: cs) (padded width n ++ c :: t) = (readSeparated cs t).map (n :: ·) := by
  have hne : ∀ d ∈ padded width n, (d != c) = true :=
    fun d hd => bne_iff_ne.2 (ne_of_mem_padded hc hd)
  rw [readSeparated, List.takeWhile_append_of_pos hne, List.dropWhile_append_of_pos hne,
    List.takeWhile_cons_of_neg (by simp), List.append_nil, List.dropWhile_cons_of_neg (by simp),
    readNat_padded]
  show ((readSeparated cs t).bind fun ns => some (n :: ns)) = _
  rcases readSeparated cs t with _ | ns
  · rfl
  · rfl

/-- A text that goes on after its numbers is not one of that many. -/
lemma readSeparated_padded_append {c : Char} (hc : c.isDigit = false) (width n : ℕ) (t : List Char) :
    readSeparated [] (padded width n ++ c :: t) = none := by
  have hall : ¬ (padded width n ++ c :: t).all Char.isDigit = true := by
    simp [hc]
  rw [readSeparated, readNat, if_neg fun h => hall h.2]
  rfl

lemma splitMicros_of_not_mem {t : List Char} (h : '.' ∉ t) : splitMicros t = some (t, 0) := by
  have hdrop : t.dropWhile (· != '.') = [] := by
    rw [List.dropWhile_eq_nil_iff]
    intro c hc
    exact bne_iff_ne.2 fun hp => h (hp ▸ hc)
  rw [splitMicros, hdrop]

lemma splitMicros_append {t : List Char} {micros : ℕ} (h : '.' ∉ t) (hm : micros < 1000000) :
    splitMicros (t ++ '.' :: padded 6 micros) = some (t, micros) := by
  have hne : ∀ c ∈ t, (c != '.') = true := fun c hc => bne_iff_ne.2 fun hp => h (hp ▸ hc)
  rw [splitMicros, List.dropWhile_append_of_pos hne, List.dropWhile_cons_of_neg (by simp),
    List.takeWhile_append_of_pos hne, List.takeWhile_cons_of_neg (by simp), List.append_nil]
  dsimp only
  rw [if_pos (length_padded (by decide) hm), readNat_padded]
  rfl

def dateText (year month day : ℕ) : List Char :=
  padded 4 year ++ '-' :: padded 2 month ++ '-' :: padded 2 day

def clockText (hour minute second : ℕ) : List Char :=
  padded 2 hour ++ ':' :: padded 2 minute ++ ':' :: padded 2 second

lemma point_not_mem_dateText (year month day : ℕ) : '.' ∉ dateText year month day := by
  unfold dateText
  simp only [List.mem_append, List.mem_cons, not_or]
  refine ⟨⟨?_, by decide, ?_⟩, by decide, ?_⟩
  all_goals exact fun h => ne_of_mem_padded (by decide) h rfl

lemma point_not_mem_clockText (hour minute second : ℕ) : '.' ∉ clockText hour minute second := by
  unfold clockText
  simp only [List.mem_append, List.mem_cons, not_or]
  refine ⟨⟨?_, by decide, ?_⟩, by decide, ?_⟩
  all_goals exact fun h => ne_of_mem_padded (by decide) h rfl

lemma readSeparated_dateText (year month day : ℕ) :
    readSeparated ['-', '-'] (dateText year month day) = some [year, month, day] := by
  unfold dateText
  rw [List.append_assoc, List.cons_append, readSeparated_cons (by decide),
    readSeparated_cons (by decide), readSeparated_padded]
  rfl

lemma readSeparated_clockText (hour minute second : ℕ) :
    readSeparated [':', ':'] (clockText hour minute second) = some [hour, minute, second] := by
  unfold clockText
  rw [List.append_assoc, List.cons_append, readSeparated_cons (by decide),
    readSeparated_cons (by decide), readSeparated_padded]
  rfl

lemma readDatetimeText_date (year month day : ℕ) :
    readDatetimeText (dateText year month day) = some [year, month, day, 0, 0, 0, 0] := by
  rw [readDatetimeText, splitMicros_of_not_mem (point_not_mem_dateText year month day)]
  simp only [Option.bind_eq_bind, Option.bind_some, readSeparated_dateText]
  rfl

lemma readSeparated_instant (year month day hour minute second : ℕ) :
    readSeparated ['-', '-'] (dateText year month day ++ ' ' :: clockText hour minute second) =
        none ∧
      readSeparated ['-', '-', ' ', ':', ':']
        (dateText year month day ++ ' ' :: clockText hour minute second) =
        some [year, month, day, hour, minute, second] := by
  unfold dateText
  constructor
  · rw [List.append_assoc, List.append_assoc, List.cons_append, readSeparated_cons (by decide),
      List.cons_append, readSeparated_cons (by decide), readSeparated_padded_append (by decide)]
    rfl
  · rw [List.append_assoc, List.append_assoc, List.cons_append, readSeparated_cons (by decide),
      List.cons_append, readSeparated_cons (by decide), readSeparated_cons (by decide),
      readSeparated_clockText]
    rfl

lemma readDatetimeText_of_split {t text : List Char} {fields : List ℕ} {micros : ℕ}
    (hsplit : splitMicros text = some (t, micros)) (hnone : readSeparated ['-', '-'] t = none)
    (hsome : readSeparated ['-', '-', ' ', ':', ':'] t = some fields) :
    readDatetimeText text = some (fields ++ [micros]) := by
  rw [readDatetimeText, hsplit]
  simp only [Option.bind_eq_bind, Option.bind_some, hnone, hsome]
  rfl

/-! ### A client's values are taken -/

lemma takes_takeByte (b : UInt8) : Takes takeByte [b] b :=
  takes_then (takes_take rfl) (takes_pure b)

lemma takes_byte {α : Type} {f : UInt8 → Reader α} {b : UInt8} {bytes : List UInt8} {a : α}
    (h : Takes (f b) bytes a) : Takes (takeByte >>= f) (b :: bytes) a :=
  takes_bind (takes_takeByte b) h

lemma takes_getLe {k n : ℕ} (h : n < 256 ^ k) : Takes (getLe k) (leBytes k n) n := by
  have htake : Takes (take k truncated) (leBytes k n) (leBytes k n) :=
    takes_take (length_leBytes k n)
  have hread := takes_map (f := ofLeBytes) htake
  rwa [ofLeBytes_leBytes_of_lt h] at hread

lemma takes_getLenencInt {n : ℕ} (h : n < 2 ^ 64) : Takes getLenencInt (putLenencInt n) n := by
  unfold putLenencInt
  split_ifs with h1 h2 h3
  · refine takes_byte ?_
    have hn : (UInt8.ofNat n).toNat = n := toNat_ofNat_of_lt (by omega)
    have hne : ∀ m : UInt8, 251 ≤ m.toNat → UInt8.ofNat n ≠ m := by
      rintro m hm rfl
      omega
    rw [if_neg (hne 0xfc (by decide)), if_neg (hne 0xfd (by decide)),
      if_neg (hne 0xfe (by decide)), if_neg (hne 0xff (by decide)), hn]
    exact takes_pure n
  · exact takes_byte (takes_getLe (by omega))
  · exact takes_byte (takes_getLe (by omega))
  · exact takes_byte (takes_getLe (by omega))

lemma takes_getLenencBytes {bytes : List UInt8} (h : bytes.length < 2 ^ 64) :
    Takes getLenencBytes (putLenencBytes bytes) bytes :=
  takes_bind (takes_getLenencInt h) (takes_take rfl)

lemma takes_date {α : Type} {f : ℕ → UInt8 → UInt8 → Reader α} {d : DateFields}
    {bytes : List UInt8} {a : α}
    (h : Takes (f d.year (UInt8.ofNat d.month) (UInt8.ofNat d.day)) bytes a) :
    Takes (do
      let year ← getLe 2
      let month ← takeByte
      let day ← takeByte
      f year month day) (dateBytes d ++ bytes) a := by
  have hyear : d.year < 256 ^ 2 := by
    have := d.year_le
    omega
  rw [dateBytes, List.append_assoc]
  exact takes_bind (takes_getLe hyear) (takes_byte (takes_byte h))

lemma takes_clock {α : Type} {f : UInt8 → UInt8 → UInt8 → Reader α} {c : ClockFields}
    {bytes : List UInt8} {a : α}
    (h : Takes (f (UInt8.ofNat c.hour) (UInt8.ofNat c.minute) (UInt8.ofNat c.second)) bytes a) :
    Takes (do
      let hour ← takeByte
      let minute ← takeByte
      let second ← takeByte
      f hour minute second) (clockBytes c ++ bytes) a :=
  takes_byte (takes_byte (takes_byte h))

/-- A date's text, and a time after it. -/
def instantText (date : List Char) (hour minute second : ℕ) : List Char :=
  date ++ ' ' :: padded 2 hour ++ ':' :: padded 2 minute ++ ':' :: padded 2 second

lemma instantText_eq (date : List Char) (hour minute second : ℕ) :
    instantText date hour minute second = date ++ ' ' :: clockText hour minute second := by
  unfold instantText clockText
  simp only [List.append_assoc, List.cons_append]

lemma point_not_mem_instant (year month day hour minute second : ℕ) :
    '.' ∉ dateText year month day ++ ' ' :: clockText hour minute second := by
  have hdate := point_not_mem_dateText year month day
  have hclock := point_not_mem_clockText hour minute second
  simp only [List.mem_append, List.mem_cons, not_or]
  exact ⟨hdate, by decide, hclock⟩

/-- The text of a datetime. -/
def ParamDatetime.text : ParamDatetime → List Char
  | .zero => "0000-00-00".toList
  | .date d => dateText d.year d.month d.day
  | .instant d c => dateText d.year d.month d.day ++ ' ' :: clockText c.hour c.minute c.second
  | .precise d c micros =>
    dateText d.year d.month d.day ++ ' ' :: clockText c.hour c.minute c.second ++ '.' ::
      padded 6 micros

lemma DateFields.toNat_bytes (d : DateFields) :
    (UInt8.ofNat d.month).toNat = d.month ∧ (UInt8.ofNat d.day).toNat = d.day := by
  have := d.month_le
  have := d.day_le
  exact ⟨toNat_ofNat_of_lt (by omega), toNat_ofNat_of_lt (by omega)⟩

lemma ClockFields.toNat_bytes (c : ClockFields) :
    (UInt8.ofNat c.hour).toNat = c.hour ∧ (UInt8.ofNat c.minute).toNat = c.minute ∧
      (UInt8.ofNat c.second).toNat = c.second := by
  have := c.hour_le
  have := c.minute_le
  have := c.second_le
  exact ⟨toNat_ofNat_of_lt (by omega), toNat_ofNat_of_lt (by omega), toNat_ofNat_of_lt (by omega)⟩

lemma takes_parseBinaryDatetime (v : ParamDatetime) :
    Takes parseBinaryDatetime v.bytes v.text := by
  have h4 : (4 : UInt8).toNat = 4 := rfl
  cases v with
  | zero =>
    unfold parseBinaryDatetime
    refine takes_byte (b := 0) ?_
    rw [if_pos (by decide)]
    exact takes_pure _
  | date d =>
    obtain ⟨hmonth, hday⟩ := d.toNat_bytes
    have h : Takes (do
        let year ← getLe 2
        let month ← takeByte
        let day ← takeByte
        return dateText year month.toNat day.toNat) (dateBytes d ++ [])
        (dateText d.year d.month d.day) := by
      refine takes_date ?_
      rw [hmonth, hday]
      exact takes_pure _
    rw [List.append_nil] at h
    exact takes_byte (b := 4) h
  | instant d c =>
    obtain ⟨hmonth, hday⟩ := d.toNat_bytes
    obtain ⟨hhour, hminute, hsecond⟩ := c.toNat_bytes
    have h : Takes (do
        let year ← getLe 2
        let month ← takeByte
        let day ← takeByte
        let hour ← takeByte
        let minute ← takeByte
        let second ← takeByte
        return instantText (dateText year month.toNat day.toNat) hour.toNat minute.toNat
          second.toNat) (dateBytes d ++ (clockBytes c ++ []))
        (dateText d.year d.month d.day ++ ' ' :: clockText c.hour c.minute c.second) := by
      refine takes_date (takes_clock ?_)
      rw [hmonth, hday, hhour, hminute, hsecond, instantText_eq]
      exact takes_pure _
    rw [List.append_nil] at h
    exact takes_byte (b := 7) h
  | precise d c micros =>
    obtain ⟨hmonth, hday⟩ := d.toNat_bytes
    obtain ⟨hhour, hminute, hsecond⟩ := c.toNat_bytes
    have h : Takes (do
        let year ← getLe 2
        let month ← takeByte
        let day ← takeByte
        let hour ← takeByte
        let minute ← takeByte
        let second ← takeByte
        let micros ← getLe 4
        return instantText (dateText year month.toNat day.toNat) hour.toNat minute.toNat
          second.toNat ++ '.' :: padded 6 micros)
        (dateBytes d ++ (clockBytes c ++ leBytes 4 micros))
        (dateText d.year d.month d.day ++ ' ' :: clockText c.hour c.minute c.second ++ '.' ::
          padded 6 micros) := by
      refine takes_date (takes_clock ?_)
      rw [hmonth, hday, hhour, hminute, hsecond, instantText_eq]
      exact takes_then (takes_getLe (lt_trans micros.isLt (by decide))) (takes_pure _)
    rw [← List.append_assoc] at h
    exact takes_byte (b := 11) h

/-- **The text of a datetime is read back as its fields.** -/
lemma readDatetimeText_text (v : ParamDatetime) : readDatetimeText v.text = some v.fields := by
  cases v with
  | zero => exact readDatetimeText_date 0 0 0
  | date d => exact readDatetimeText_date d.year d.month d.day
  | instant d c =>
    obtain ⟨hnone, hsome⟩ := readSeparated_instant d.year d.month d.day c.hour c.minute c.second
    exact readDatetimeText_of_split (splitMicros_of_not_mem (point_not_mem_instant _ _ _ _ _ _))
      hnone hsome
  | precise d c micros =>
    obtain ⟨hnone, hsome⟩ := readSeparated_instant d.year d.month d.day c.hour c.minute c.second
    exact readDatetimeText_of_split (splitMicros_append (point_not_mem_instant _ _ _ _ _ _)
      micros.isLt) hnone hsome

/-- The hours of a span. -/
def spanHours (days : UInt32) (c : ClockFields) : ℕ := c.hour + days.toNat * 24

/-- The text of a span of that many hours. -/
def spanText (negative : Bool) (hours : ℕ) (c : ClockFields) : List Char :=
  (if negative then ['-'] else []) ++ clockText hours c.minute c.second

def ParamTime.text : ParamTime → List Char
  | .zero => "00:00:00".toList
  | .clock negative days c => spanText negative (spanHours days c % 2 ^ 32) c
  | .precise negative days c micros =>
    spanText negative (spanHours days c % 2 ^ 32) c ++ '.' :: padded 6 micros

lemma takes_span {α : Type} {f : UInt8 → ℕ → UInt8 → UInt8 → UInt8 → Reader α} {negative : Bool}
    {days : UInt32} {c : ClockFields} {bytes : List UInt8} {a : α}
    (h : Takes (f (if negative then 1 else 0) days.toNat (UInt8.ofNat c.hour) (UInt8.ofNat c.minute)
      (UInt8.ofNat c.second)) bytes a) :
    Takes (do
      let sign ← takeByte
      let days ← getLe 4
      let hour ← takeByte
      let minute ← takeByte
      let second ← takeByte
      f sign days hour minute second) (spanBytes negative days c ++ bytes) a := by
  rw [spanBytes, List.cons_append, List.append_assoc]
  exact takes_byte (takes_bind (takes_getLe days.toNat_lt) (takes_clock h))

/-- The text that is made of a span. -/
def serverSpanText (sign : UInt8) (days : ℕ) (hour minute second : UInt8) : List Char :=
  (if sign != 0 then ['-'] else []) ++ padded 2 ((hour.toNat + days * 24) % 2 ^ 32) ++ ':' ::
    padded 2 minute.toNat ++ ':' :: padded 2 second.toNat

lemma serverSpanText_eq (negative : Bool) (days : UInt32) (c : ClockFields) :
    serverSpanText (if negative then 1 else 0) days.toNat (UInt8.ofNat c.hour) (UInt8.ofNat c.minute)
      (UInt8.ofNat c.second) = spanText negative (spanHours days c % 2 ^ 32) c := by
  obtain ⟨hhour, hminute, hsecond⟩ := c.toNat_bytes
  unfold serverSpanText spanText spanHours clockText
  rw [hhour, hminute, hsecond]
  cases negative with
  | true => rfl
  | false => rfl

lemma takes_parseBinaryTime (v : ParamTime) : Takes parseBinaryTime v.bytes v.text := by
  cases v with
  | zero =>
    unfold parseBinaryTime
    refine takes_byte (b := 0) ?_
    rw [if_pos (by decide)]
    exact takes_pure _
  | clock negative days c =>
    have h : Takes (do
        let sign ← takeByte
        let days ← getLe 4
        let hour ← takeByte
        let minute ← takeByte
        let second ← takeByte
        return serverSpanText sign days hour minute second) (spanBytes negative days c ++ [])
        (spanText negative (spanHours days c % 2 ^ 32) c) := by
      refine takes_span ?_
      rw [serverSpanText_eq]
      exact takes_pure _
    rw [List.append_nil] at h
    exact takes_byte (b := 8) h
  | precise negative days c micros =>
    have h : Takes (do
        let sign ← takeByte
        let days ← getLe 4
        let hour ← takeByte
        let minute ← takeByte
        let second ← takeByte
        let micros ← getLe 4
        return serverSpanText sign days hour minute second ++ '.' :: padded 6 micros)
        (spanBytes negative days c ++ leBytes 4 micros)
        (spanText negative (spanHours days c % 2 ^ 32) c ++ '.' :: padded 6 micros) := by
      refine takes_span ?_
      rw [serverSpanText_eq]
      exact takes_then (takes_getLe (lt_trans micros.isLt (by decide))) (takes_pure _)
    exact takes_byte (b := 12) h

/-- The hours of the span are a `u32`. -/
def ParamTime.Short : ParamTime → Prop
  | .zero => True
  | .clock _ days c | .precise _ days c _ => spanHours days c < 2 ^ 32

lemma spanMicros_eq (negative : Bool) (days : UInt32) (c : ClockFields) (micros : ℕ) :
    spanMicros negative days c micros =
      if negative then -clockMicros (spanHours days c) c.minute c.second micros
      else clockMicros (spanHours days c) c.minute c.second micros := by
  have h : (days.toNat : ℤ) * microsPerDay + clockMicros c.hour c.minute c.second micros =
      clockMicros (spanHours days c) c.minute c.second micros := by
    unfold clockMicros spanHours microsPerDay
    push_cast
    ring
  unfold spanMicros
  rw [h]

lemma readTimeText_of_split {negative : Bool} {t text : List Char} {hour minute second micros : ℕ}
    (hsign : splitSign text = (negative, t))
    (hsplit : splitMicros t = some (clockText hour minute second, micros)) :
    readTimeText text = some (if negative then -clockMicros hour minute second micros
      else clockMicros hour minute second micros) := by
  rw [readTimeText, hsign]
  dsimp only
  rw [hsplit]
  show (readSeparated [':', ':'] (clockText hour minute second)).bind _ = _
  rw [readSeparated_clockText]
  rfl

lemma splitSign_spanText (negative : Bool) (hours : ℕ) (c : ClockFields) (t : List Char) :
    splitSign (spanText negative hours c ++ t) =
      (negative, clockText hours c.minute c.second ++ t) := by
  have hne : padded 2 hours ≠ [] := fun h => Nat.toDigits_ne_nil (List.append_eq_nil_iff.1 h).2
  have hhead : (clockText hours c.minute c.second ++ t).head? ≠ some '-' := by
    unfold clockText
    simp only [List.append_assoc]
    exact AllDigits.head?_ne hne (allDigits_padded 2 hours) (by decide)
  rw [spanText, List.append_assoc, splitSign_append negative hhead]

lemma readTimeText_clock (negative : Bool) {days : UInt32} {c : ClockFields}
    (h : spanHours days c < 2 ^ 32) :
    readTimeText (spanText negative (spanHours days c % 2 ^ 32) c) =
      some (spanMicros negative days c 0) := by
  have hpoint := point_not_mem_clockText (spanHours days c) c.minute c.second
  have hsign := splitSign_spanText negative (spanHours days c) c []
  rw [List.append_nil, List.append_nil] at hsign
  rw [Nat.mod_eq_of_lt h, spanMicros_eq]
  exact readTimeText_of_split hsign (splitMicros_of_not_mem hpoint)

lemma readTimeText_precise (negative : Bool) {days : UInt32} {c : ClockFields}
    (micros : Fin 1000000) (h : spanHours days c < 2 ^ 32) :
    readTimeText (spanText negative (spanHours days c % 2 ^ 32) c ++ '.' :: padded 6 micros) =
      some (spanMicros negative days c micros) := by
  have hpoint := point_not_mem_clockText (spanHours days c) c.minute c.second
  have hsign := splitSign_spanText negative (spanHours days c) c ('.' :: padded 6 micros)
  rw [Nat.mod_eq_of_lt h, spanMicros_eq]
  exact readTimeText_of_split hsign (splitMicros_append hpoint micros.isLt)

/-- **The text of a span is read back as the span**, if its hours are a `u32`. -/
lemma readTimeText_text {v : ParamTime} (h : v.Short) : readTimeText v.text = some v.micros := by
  cases v with
  | zero =>
    have hsplit := splitMicros_of_not_mem (point_not_mem_clockText 0 0 0)
    have hsign : splitSign "00:00:00".toList = (false, clockText 0 0 0) := by decide
    exact readTimeText_of_split hsign hsplit
  | clock negative days c => exact readTimeText_clock negative h
  | precise negative days c micros => exact readTimeText_precise negative micros h

/-! ### Each type's reader -/

lemma takes_integer {ty : UInt8} {k m : ℕ} (h : integerSize ty = some k) (hm : m < 256 ^ k) :
    Takes (parseBinaryParam ty) (leBytes k m) (.integer (toSigned k m)) := by
  unfold integerSize at h
  split_ifs at h with h₁ h₂ h₄ h₈
  · cases h
    have hbyte : (UInt8.ofNat m).toNat = m := toNat_ofNat_of_lt (by omega)
    have hread : Takes (takeByte >>= fun b => pure (SqlParam.integer (toSigned 1 b.toNat)))
        [UInt8.ofNat m] (.integer (toSigned 1 m)) := by
      refine takes_then (takes_takeByte _) ?_
      rw [hbyte]
      exact takes_pure _
    unfold parseBinaryParam
    rw [if_pos h₁]
    exact hread
  · cases h
    unfold parseBinaryParam
    rw [if_neg h₁, if_pos h₂]
    exact takes_then (takes_getLe hm) (takes_pure _)
  · cases h
    unfold parseBinaryParam
    rw [if_neg h₁, if_neg h₂, if_pos h₄]
    exact takes_then (takes_getLe hm) (takes_pure _)
  · cases h
    unfold parseBinaryParam
    rw [if_neg h₁, if_neg h₂, if_neg h₄, if_pos h₈]
    exact takes_then (takes_getLe hm) (takes_pure _)

lemma parseBinaryParam_float : parseBinaryParam mysqlTypeFloat =
    getLe 4 >>= fun n => pure (.float (widen (BitVec.ofNat _ n))) := rfl

lemma parseBinaryParam_double : parseBinaryParam mysqlTypeDouble =
    getLe 8 >>= fun n => pure (.float (BitVec.ofNat _ n)) := rfl

lemma parseBinaryParam_blob : parseBinaryParam mysqlTypeBlob =
    getLenencBytes >>= fun bytes => pure (.bytes bytes) := rfl

lemma parseBinaryParam_time : parseBinaryParam mysqlTypeTime =
    parseBinaryTime >>= fun t => pure (.text t) := rfl

lemma parseBinaryParam_text {ty : UInt8} (h : ty ∈ textTypes) : parseBinaryParam ty =
    getLenencBytes >>= fun bytes => match ofUtf8 bytes with
      | some value => pure (.text value)
      | none => throw "invalid string parameter" := by
  simp only [textTypes, List.mem_cons, List.not_mem_nil, or_false] at h
  rcases h with rfl | rfl | rfl | rfl
  · rfl
  · rfl
  · rfl
  · rfl

lemma parseBinaryParam_datetime {ty : UInt8} (h : ty ∈ datetimeTypes) : parseBinaryParam ty =
    parseBinaryDatetime >>= fun t => pure (.text t) := by
  simp only [datetimeTypes, List.mem_cons, List.not_mem_nil, or_false] at h
  rcases h with rfl | rfl | rfl
  · rfl
  · rfl
  · rfl

/-! ### A client's value is read -/

/-- The value is read as it is: a number is no larger than a signed one of its type, and the hours of a
span are a `u32`. -/
def ParamValue.Kept (ty : UInt8) : ParamValue → Prop
  | .int n => ∀ k, integerSize ty = some k → n < 2 ^ (8 * k - 1)
  | .time t => t.Short
  | _ => True

lemma toSigned_emod {k : ℕ} {n : ℤ} (hk : 0 < k) (hlo : -2 ^ (8 * k - 1) ≤ n)
    (hhi : n < 2 ^ (8 * k)) :
    (n % 2 ^ (8 * k)).toNat < 256 ^ k ∧
      (toSigned k (n % 2 ^ (8 * k)).toNat = n ↔ n < 2 ^ (8 * k - 1)) := by
  have hpow : (256 : ℕ) ^ k = 2 ^ (8 * k) := by
    rw [pow_mul]
    rfl
  have hdouble : (2 : ℤ) ^ (8 * k) = 2 * 2 ^ (8 * k - 1) := by
    rw [← pow_succ']
    congr 1
    omega
  rw [hpow]
  unfold toSigned
  have hcast : ((2 ^ (8 * k) : ℕ) : ℤ) = 2 ^ (8 * k) := by push_cast; rfl
  have hcast' : ((2 ^ (8 * k - 1) : ℕ) : ℤ) = 2 ^ (8 * k - 1) := by push_cast; rfl
  generalize hbig : (2 : ℤ) ^ (8 * k) = big at *
  generalize hhalf : (2 : ℤ) ^ (8 * k - 1) = half at *
  generalize (2 : ℕ) ^ (8 * k) = bigNat at *
  generalize (2 : ℕ) ^ (8 * k - 1) = halfNat at *
  rcases lt_or_ge n 0 with hneg | hpos
  · have hmod : n % big = n + big := by
      rw [← Int.add_emod_right, Int.emod_eq_of_lt (by omega) (by omega)]
    rw [hmod]
    refine ⟨by omega, ?_⟩
    rw [if_neg (by omega)]
    omega
  · have hmod : n % big = n := Int.emod_eq_of_lt hpos hhi
    rw [hmod]
    refine ⟨by omega, ?_⟩
    split_ifs
    · omega
    · omega

lemma integerSize_pos {ty : UInt8} {k : ℕ} (h : integerSize ty = some k) : 0 < k := by
  unfold integerSize at h
  split_ifs at h
  all_goals
    cases h
    decide

/-- **A value of a client is taken**, and denotes that value if it is kept. -/
lemma takes_value {ty : UInt8} {unsigned : Bool} {v : ParamValue} (h : v.Fits ty unsigned) :
    ∃ param, Takes (parseBinaryParam ty) (v.bytes ty) param ∧ (v.Kept ty → Denotes param v) ∧
      ∀ n, v = .int n → Denotes param v → v.Kept ty := by
  have hother : (∀ n, v ≠ .int n) → ∀ param, ∀ n, v = .int n → Denotes param v → v.Kept ty :=
    fun hne param n hn => absurd hn (hne n)
  cases v with
  | int n =>
    obtain ⟨k, hk, hrange⟩ := h
    have hkpos := integerSize_pos hk
    have hpow : (2 : ℤ) ^ (8 * k) = 2 * 2 ^ (8 * k - 1) := by
      rw [← pow_succ']
      congr 1
      omega
    have hhalf : (0 : ℤ) < 2 ^ (8 * k - 1) := by positivity
    have hbounds : -2 ^ (8 * k - 1) ≤ n ∧ n < 2 ^ (8 * k) := by
      split_ifs at hrange <;> omega
    obtain ⟨hlt, hiff⟩ := toSigned_emod hkpos hbounds.1 hbounds.2
    have hbytes : (ParamValue.int n).bytes ty = leBytes k (n % 2 ^ (8 * k)).toNat := by
      rw [ParamValue.bytes, hk]
      rfl
    refine ⟨_, hbytes ▸ takes_integer hk hlt, ?_, ?_⟩
    · intro hkept
      exact hiff.2 (hkept k hk)
    · intro _ _ hdenotes k' hk'
      rw [hk] at hk'
      cases hk'
      exact hiff.1 hdenotes
  | float b =>
    obtain rfl : ty = mysqlTypeFloat := h
    refine ⟨.float (widen b), ?_, fun _ => value_widen b, hother (by simp) _⟩
    have hb : BitVec.ofNat _ b.toNat = b := BitVec.ofNat_toNat _ b
    rw [parseBinaryParam_float]
    refine takes_then (takes_getLe b.isLt) ?_
    rw [hb]
    exact takes_pure _
  | double b =>
    obtain rfl : ty = mysqlTypeDouble := h
    refine ⟨.float b, ?_, fun _ => rfl, hother (by simp) _⟩
    have hb : BitVec.ofNat _ b.toNat = b := BitVec.ofNat_toNat _ b
    rw [parseBinaryParam_double]
    refine takes_then (takes_getLe b.isLt) ?_
    rw [hb]
    exact takes_pure _
  | text t =>
    obtain ⟨hty, hlen⟩ := h
    refine ⟨.text t, ?_, fun _ => rfl, hother (by simp) _⟩
    rw [parseBinaryParam_text hty]
    refine takes_then (takes_getLenencBytes hlen) ?_
    rw [ofUtf8_utf8]
    exact takes_pure _
  | blob bytes =>
    obtain ⟨rfl, hlen⟩ := h
    refine ⟨.bytes bytes, ?_, fun _ => rfl, hother (by simp) _⟩
    rw [parseBinaryParam_blob]
    exact takes_then (takes_getLenencBytes hlen) (takes_pure _)
  | datetime t =>
    refine ⟨.text t.text, ?_, fun _ => readDatetimeText_text t, hother (by simp) _⟩
    rw [parseBinaryParam_datetime h]
    exact takes_then (takes_parseBinaryDatetime t) (takes_pure _)
  | time t =>
    obtain rfl : ty = mysqlTypeTime := h
    refine ⟨.text t.text, ?_, fun hkept => readTimeText_text hkept, hother (by simp) _⟩
    rw [parseBinaryParam_time]
    exact takes_then (takes_parseBinaryTime t) (takes_pure _)

/-! ### Payloads as a client makes them -/

/-- The fields of a datetime are in their ranges; those that are not sent are zero. -/
def LegalDatetime (x : List UInt8) : Prop :=
  ofLeBytes ((x.drop 1).take 2) ≤ 9999 ∧ (x.getD 3 0).toNat ≤ 12 ∧ (x.getD 4 0).toNat ≤ 31 ∧
    (x.getD 5 0).toNat ≤ 23 ∧ (x.getD 6 0).toNat ≤ 59 ∧ (x.getD 7 0).toNat ≤ 59 ∧
    ofLeBytes (x.drop 8) < 1000000

/-- The sign is zero or one, and the fields of the time of day are in their ranges. -/
def LegalTime (x : List UInt8) : Prop :=
  (x.getD 1 0).toNat ≤ 1 ∧ (x.getD 6 0).toNat ≤ 23 ∧ (x.getD 7 0).toNat ≤ 59 ∧
    (x.getD 8 0).toNat ≤ 59 ∧ ofLeBytes (x.drop 9) < 1000000

/-- The first `n` bytes are a value as a client writes it, and no unsigned number has its top bit
set. -/
structure WellMade (ty : UInt8) (unsigned : Bool) (n : ℕ) (s : List UInt8) : Prop where
  topBit : unsigned = true → ∀ k, integerSize ty = some k → ofLeBytes (s.take k) < 2 ^ (8 * k - 1)
  length : ty ∈ textTypes ∨ ty = mysqlTypeBlob → putLenencBytes (blobContent s) = s.take n
  datetime : ty ∈ datetimeTypes → LegalDatetime (s.take n)
  time : ty = mysqlTypeTime → LegalTime (s.take n)

/-- The bytes one by one. -/
lemma exists_bytes {x : List UInt8} {n : ℕ} (h : x.length = n) :
    ∃ f : ℕ → UInt8, x = (List.range n).map f := by
  refine ⟨(x.getD · 0), ?_⟩
  apply List.ext_getElem
  · rw [List.length_map, List.length_range, h]
  · intro i h₁ h₂
    rw [List.getElem_map, List.getElem_range, List.getD_eq_getElem?_getD,
      List.getElem?_eq_getElem h₁, Option.getD_some]

/-- A date of two bytes of year, a month and a day. -/
def DateFields.ofBytes (y₀ y₁ m d : UInt8) (hy : ofLeBytes [y₀, y₁] ≤ 9999) (hm : m.toNat ≤ 12)
    (hd : d.toNat ≤ 31) : DateFields := ⟨ofLeBytes [y₀, y₁], m.toNat, d.toNat, hy, hm, hd⟩

def ClockFields.ofBytes (h m s : UInt8) (hh : h.toNat ≤ 23) (hm : m.toNat ≤ 59)
    (hs : s.toNat ≤ 59) : ClockFields := ⟨h.toNat, m.toNat, s.toNat, hh, hm, hs⟩

lemma dateBytes_ofBytes {y₀ y₁ m d : UInt8} (hy : ofLeBytes [y₀, y₁] ≤ 9999) (hm : m.toNat ≤ 12)
    (hd : d.toNat ≤ 31) : dateBytes (.ofBytes y₀ y₁ m d hy hm hd) = [y₀, y₁, m, d] := by
  have hyear := leBytes_ofLeBytes [y₀, y₁]
  unfold dateBytes DateFields.ofBytes
  rw [show 2 = [y₀, y₁].length from rfl, hyear, UInt8.ofNat_toNat, UInt8.ofNat_toNat]
  rfl

lemma clockBytes_ofBytes {h m s : UInt8} (hh : h.toNat ≤ 23) (hm : m.toNat ≤ 59)
    (hs : s.toNat ≤ 59) : clockBytes (.ofBytes h m s hh hm hs) = [h, m, s] := by
  unfold clockBytes ClockFields.ofBytes
  rw [UInt8.ofNat_toNat, UInt8.ofNat_toNat, UInt8.ofNat_toNat]

/-- A date or time as long as its length says, the length being one of those given. -/
lemma temporalSize_eq_some {lengths : List ℕ} {s : List UInt8} {n : ℕ}
    (h : temporalSize lengths s = some n) :
    ∃ len rest, s.take n = len :: rest ∧ len.toNat ∈ lengths ∧ rest.length = len.toNat ∧
      n = 1 + len.toNat := by
  rcases s with _ | ⟨len, s⟩
  · cases h
  rw [temporalSize] at h
  split_ifs at h with hlen
  obtain ⟨m, hm, rfl⟩ := Option.map_eq_some_iff.1 h
  obtain ⟨hle, rfl⟩ := wholeSize_eq_some.1 hm
  refine ⟨len, s.take len.toNat, ?_, hlen, ?_, rfl⟩
  · rw [Nat.add_comm, List.take_succ_cons]
  · rw [List.length_take]
    omega

lemma exists_datetime {s : List UInt8} {n : ℕ} (h : temporalSize [0, 4, 7, 11] s = some n)
    (hlegal : LegalDatetime (s.take n)) : ∃ v : ParamDatetime, v.bytes = s.take n := by
  obtain ⟨len, rest, hs, hlen, hrest, -⟩ := temporalSize_eq_some h
  rw [hs] at hlegal ⊢
  have hcases : len.toNat = 0 ∨ len.toNat = 4 ∨ len.toNat = 7 ∨ len.toNat = 11 := by
    simpa using hlen
  rcases hcases with h0 | h4 | h7 | h11
  · have hnil : rest = [] := List.eq_nil_of_length_eq_zero (hrest.trans h0)
    have hlen : len = 0 := UInt8.toNat_inj.1 h0
    subst hnil hlen
    exact ⟨.zero, rfl⟩
  · obtain ⟨f, rfl⟩ := exists_bytes (hrest.trans h4)
    have hlen : len = 4 := UInt8.toNat_inj.1 h4
    subst hlen
    obtain ⟨hy, hm, hd, -⟩ : ofLeBytes [f 0, f 1] ≤ 9999 ∧ (f 2).toNat ≤ 12 ∧ (f 3).toNat ≤ 31 ∧ _ :=
      hlegal
    refine ⟨.date (.ofBytes (f 0) (f 1) (f 2) (f 3) hy hm hd), ?_⟩
    rw [ParamDatetime.bytes, dateBytes_ofBytes]
    rfl
  · obtain ⟨f, rfl⟩ := exists_bytes (hrest.trans h7)
    have hlen : len = 7 := UInt8.toNat_inj.1 h7
    subst hlen
    obtain ⟨hy, hm, hd, hh, hmi, hs, -⟩ : ofLeBytes [f 0, f 1] ≤ 9999 ∧ (f 2).toNat ≤ 12 ∧
      (f 3).toNat ≤ 31 ∧ (f 4).toNat ≤ 23 ∧ (f 5).toNat ≤ 59 ∧ (f 6).toNat ≤ 59 ∧ _ := hlegal
    refine ⟨.instant (.ofBytes (f 0) (f 1) (f 2) (f 3) hy hm hd)
      (.ofBytes (f 4) (f 5) (f 6) hh hmi hs), ?_⟩
    rw [ParamDatetime.bytes, dateBytes_ofBytes, clockBytes_ofBytes]
    rfl
  · obtain ⟨f, rfl⟩ := exists_bytes (hrest.trans h11)
    have hlen : len = 11 := UInt8.toNat_inj.1 h11
    subst hlen
    obtain ⟨hy, hm, hd, hh, hmi, hs, hmicros⟩ : ofLeBytes [f 0, f 1] ≤ 9999 ∧ (f 2).toNat ≤ 12 ∧
      (f 3).toNat ≤ 31 ∧ (f 4).toNat ≤ 23 ∧ (f 5).toNat ≤ 59 ∧ (f 6).toNat ≤ 59 ∧
      ofLeBytes [f 7, f 8, f 9, f 10] < 1000000 := hlegal
    refine ⟨.precise (.ofBytes (f 0) (f 1) (f 2) (f 3) hy hm hd)
      (.ofBytes (f 4) (f 5) (f 6) hh hmi hs) ⟨ofLeBytes [f 7, f 8, f 9, f 10], hmicros⟩, ?_⟩
    have hbytes := leBytes_ofLeBytes [f 7, f 8, f 9, f 10]
    rw [ParamDatetime.bytes, dateBytes_ofBytes, clockBytes_ofBytes]
    dsimp only
    rw [show 4 = [f 7, f 8, f 9, f 10].length from rfl, hbytes]
    rfl

/-- A span of a sign, four bytes of days and a time of day. -/
lemma spanBytes_ofBytes {sign d₀ d₁ d₂ d₃ h m s : UInt8} (hsign : sign.toNat ≤ 1)
    (hh : h.toNat ≤ 23) (hm : m.toNat ≤ 59) (hs : s.toNat ≤ 59) :
    spanBytes (sign == 1) (UInt32.ofNat (ofLeBytes [d₀, d₁, d₂, d₃])) (.ofBytes h m s hh hm hs) =
      [sign, d₀, d₁, d₂, d₃, h, m, s] := by
  have hlt : ofLeBytes [d₀, d₁, d₂, d₃] < 2 ^ 32 :=
    lt_of_lt_of_eq (ofLeBytes_lt [d₀, d₁, d₂, d₃]) (by norm_num)
  have hdays : (UInt32.ofNat (ofLeBytes [d₀, d₁, d₂, d₃])).toNat = ofLeBytes [d₀, d₁, d₂, d₃] := by
    rw [UInt32.toNat_ofNat']
    exact Nat.mod_eq_of_lt hlt
  have hbytes := leBytes_ofLeBytes [d₀, d₁, d₂, d₃]
  have hfirst : (if (sign == 1) = true then 1 else 0) = sign := by
    rcases Nat.le_one_iff_eq_zero_or_eq_one.1 hsign with h | h
    · obtain rfl : sign = 0 := UInt8.toNat_inj.1 h
      rfl
    · obtain rfl : sign = 1 := UInt8.toNat_inj.1 h
      rfl
  rw [spanBytes, hdays, show 4 = [d₀, d₁, d₂, d₃].length from rfl, hbytes, clockBytes_ofBytes, hfirst]
  rfl

lemma exists_time {s : List UInt8} {n : ℕ} (h : temporalSize [0, 8, 12] s = some n)
    (hlegal : LegalTime (s.take n)) : ∃ v : ParamTime, v.bytes = s.take n := by
  obtain ⟨len, rest, hs, hlen, hrest, -⟩ := temporalSize_eq_some h
  rw [hs] at hlegal ⊢
  have hcases : len.toNat = 0 ∨ len.toNat = 8 ∨ len.toNat = 12 := by
    simpa using hlen
  rcases hcases with h0 | h8 | h12
  · have hnil : rest = [] := List.eq_nil_of_length_eq_zero (hrest.trans h0)
    have hlen : len = 0 := UInt8.toNat_inj.1 h0
    subst hnil hlen
    exact ⟨.zero, rfl⟩
  · obtain ⟨f, rfl⟩ := exists_bytes (hrest.trans h8)
    have hlen : len = 8 := UInt8.toNat_inj.1 h8
    subst hlen
    obtain ⟨hsign, hh, hm, hs, -⟩ : (f 0).toNat ≤ 1 ∧ (f 5).toNat ≤ 23 ∧ (f 6).toNat ≤ 59 ∧
      (f 7).toNat ≤ 59 ∧ _ := hlegal
    refine ⟨.clock (f 0 == 1) (UInt32.ofNat (ofLeBytes [f 1, f 2, f 3, f 4]))
      (.ofBytes (f 5) (f 6) (f 7) hh hm hs), ?_⟩
    rw [ParamTime.bytes, spanBytes_ofBytes hsign]
    rfl
  · obtain ⟨f, rfl⟩ := exists_bytes (hrest.trans h12)
    have hlen : len = 12 := UInt8.toNat_inj.1 h12
    subst hlen
    obtain ⟨hsign, hh, hm, hs, hmicros⟩ : (f 0).toNat ≤ 1 ∧ (f 5).toNat ≤ 23 ∧ (f 6).toNat ≤ 59 ∧
      (f 7).toNat ≤ 59 ∧ ofLeBytes [f 8, f 9, f 10, f 11] < 1000000 := hlegal
    refine ⟨.precise (f 0 == 1) (UInt32.ofNat (ofLeBytes [f 1, f 2, f 3, f 4]))
      (.ofBytes (f 5) (f 6) (f 7) hh hm hs) ⟨ofLeBytes [f 8, f 9, f 10, f 11], hmicros⟩, ?_⟩
    have hbytes := leBytes_ofLeBytes [f 8, f 9, f 10, f 11]
    rw [ParamTime.bytes, spanBytes_ofBytes hsign]
    dsimp only
    rw [show 4 = [f 8, f 9, f 10, f 11].length from rfl, hbytes]
    rfl

lemma integerSize_cases {ty : UInt8} {k : ℕ} (h : integerSize ty = some k) (s : List UInt8) :
    valueSize ty s = wholeSize k s ∧ ty ∉ textTypes ∧ ty ≠ mysqlTypeBlob ∧ ty ∉ datetimeTypes ∧
      ty ≠ mysqlTypeTime := by
  unfold integerSize at h
  split_ifs at h with h₁ h₂ h₄ h₈
  all_goals
    cases h
    subst ty
    exact ⟨rfl, by decide, by decide, by decide, by decide⟩

/-- A number of `k` bytes, as an integer of the type. -/
lemma exists_integer {ty : UInt8} {k : ℕ} (h : integerSize ty = some k) (unsigned : Bool)
    {s : List UInt8} (hlen : k ≤ s.length) :
    ∃ v : ParamValue, v.Fits ty unsigned ∧ v.bytes ty = s.take k := by
  have hk := integerSize_pos h
  have htake : (s.take k).length = k := by
    rw [List.length_take]
    omega
  have hlt : ofLeBytes (s.take k) < 2 ^ (8 * k) := by
    have hlt := ofLeBytes_lt (s.take k)
    rwa [htake, show 256 = 2 ^ 8 by decide, ← pow_mul] at hlt
  have hdouble : (2 : ℕ) ^ (8 * k) = 2 * 2 ^ (8 * k - 1) := by
    rw [← pow_succ']
    congr 1
    omega
  have hbytes : ∀ n : ℤ, (n % 2 ^ (8 * k)).toNat = ofLeBytes (s.take k) →
      (ParamValue.int n).bytes ty = s.take k := by
    intro n hn
    have hback := leBytes_ofLeBytes (s.take k)
    rw [htake] at hback
    rw [ParamValue.bytes, h]
    dsimp only [Option.getD_some]
    rw [hn, hback]
  have hcast : ((2 ^ (8 * k) : ℕ) : ℤ) = 2 ^ (8 * k) := by push_cast; rfl
  have hcast' : ((2 ^ (8 * k - 1) : ℕ) : ℤ) = 2 ^ (8 * k - 1) := by push_cast; rfl
  generalize ofLeBytes (s.take k) = m at *
  cases unsigned with
  | true =>
    refine ⟨.int m, ⟨k, h, ?_⟩, hbytes m ?_⟩
    · rw [if_pos rfl, ← hcast]
      omega
    · rw [← hcast, Int.emod_eq_of_lt (by omega) (by omega)]
      omega
  | false =>
    refine ⟨.int (toSigned k m), ⟨k, h, ?_⟩, hbytes _ ?_⟩
    · rw [if_neg (by decide), toSigned, ← hcast, ← hcast']
      split_ifs <;> omega
    · rw [toSigned, ← hcast]
      split_ifs
      · rw [Int.emod_eq_of_lt (by omega) (by omega)]
        omega
      · rw [← Int.add_emod_right, Int.emod_eq_of_lt (by omega) (by omega)]
        omega

lemma length_blobContent_lt {s : List UInt8} {n : ℕ} (h : blobSize s = some n) :
    (blobContent s).length < 2 ^ 64 := by
  obtain ⟨-, bytes, hrun⟩ := (sized_getLenencBytes s).1 n h
  have hbytes := eq_blobContent hrun
  obtain ⟨len, t, hlen, htake⟩ := run_bind_eq_ok.1 hrun
  have hlt := Checked.lt_of_getLenencInt hlen
  rw [← hbytes, Checked.length_of_take htake]
  exact hlt

lemma textSize_eq_some {s : List UInt8} {n : ℕ} (h : textSize s = some n) :
    blobSize s = some n ∧ ∃ t, utf8 t = blobContent s := by
  obtain ⟨hblob, htext⟩ := Option.filter_eq_some_iff.1 h
  obtain ⟨t, ht⟩ := Option.isSome_iff_exists.1 htext
  exact ⟨hblob, t, ofUtf8_eq_some.1 ht⟩

lemma valueSize_of_not_integer {ty : UInt8} (h : integerSize ty = none) (s : List UInt8) :
    valueSize ty s =
      if ty = mysqlTypeFloat then wholeSize 4 s
      else if ty = mysqlTypeDouble then wholeSize 8 s
      else if ty ∈ textTypes then textSize s
      else if ty = mysqlTypeBlob then blobSize s
      else if ty ∈ datetimeTypes then temporalSize [0, 4, 7, 11] s
      else if ty = mysqlTypeTime then temporalSize [0, 8, 12] s
      else none := by
  unfold integerSize at h
  split_ifs at h with h₁ h₂ h₄ h₈
  unfold valueSize
  rw [if_neg h₁, if_neg h₂, if_neg h₄, if_neg h₈]

lemma leBytes_toNat_ofNat {s : List UInt8} {k w : ℕ} (hw : 256 ^ k = 2 ^ w) (h : k ≤ s.length) :
    leBytes k (BitVec.ofNat w (ofLeBytes (s.take k))).toNat = s.take k := by
  have htake : (s.take k).length = k := by
    rw [List.length_take]
    omega
  have hlt := ofLeBytes_lt (s.take k)
  have hback := leBytes_ofLeBytes (s.take k)
  rw [htake] at hlt hback
  rw [BitVec.toNat_ofNat, ← hw, Nat.mod_eq_of_lt hlt, hback]

/-- **Well-made bytes are a client's value.** -/
lemma exists_value {ty : UInt8} {unsigned : Bool} {n : ℕ} {s : List UInt8}
    (h : valueSize ty s = some n) (hmade : WellMade ty unsigned n s) :
    ∃ v : ParamValue, v.Fits ty unsigned ∧ v.bytes ty = s.take n := by
  rcases hk : integerSize ty with _ | k
  · rw [valueSize_of_not_integer hk] at h
    split_ifs at h with hfloat hdouble htext hblob hdate htime
    · obtain ⟨hle, rfl⟩ := wholeSize_eq_some.1 h
      exact ⟨.float (BitVec.ofNat _ (ofLeBytes (s.take 4))), hfloat,
        leBytes_toNat_ofNat (by decide) hle⟩
    · obtain ⟨hle, rfl⟩ := wholeSize_eq_some.1 h
      exact ⟨.double (BitVec.ofNat _ (ofLeBytes (s.take 8))), hdouble,
        leBytes_toNat_ofNat (by decide) hle⟩
    · obtain ⟨hblob, t, ht⟩ := textSize_eq_some h
      refine ⟨.text t, ⟨htext, ?_⟩, ?_⟩
      · rw [ht]
        exact length_blobContent_lt hblob
      · rw [← hmade.length (.inl htext), ← ht]
        rfl
    · exact ⟨.blob (blobContent s), ⟨hblob, length_blobContent_lt h⟩, hmade.length (.inr hblob)⟩
    · obtain ⟨v, hv⟩ := exists_datetime h (hmade.datetime hdate)
      exact ⟨.datetime v, hdate, hv⟩
    · obtain ⟨v, hv⟩ := exists_time h (hmade.time htime)
      exact ⟨.time v, htime, hv⟩
  · rw [(integerSize_cases hk s).1] at h
    obtain ⟨hle, rfl⟩ := wholeSize_eq_some.1 h
    exact exists_integer hk unsigned hle

/-- The bytes of an integer are its number in two's complement. -/
lemma ofLeBytes_integer {ty : UInt8} {k : ℕ} {n : ℤ} (hk : integerSize ty = some k)
    (rest : List UInt8) :
    ofLeBytes (((ParamValue.int n).bytes ty ++ rest).take k) = (n % 2 ^ (8 * k)).toNat := by
  have hbytes : (ParamValue.int n).bytes ty = leBytes k (n % 2 ^ (8 * k)).toNat := by
    rw [ParamValue.bytes, hk]
    rfl
  have hpow : (256 : ℕ) ^ k = 2 ^ (8 * k) := by
    rw [pow_mul]
    rfl
  have hpos : (0 : ℤ) < 2 ^ (8 * k) := by positivity
  have hlt := Int.emod_lt_of_pos n hpos
  have hcast : ((2 ^ (8 * k) : ℕ) : ℤ) = 2 ^ (8 * k) := by push_cast; rfl
  rw [hbytes, List.take_left' (length_leBytes k _), ofLeBytes_leBytes_of_lt]
  rw [hpow]
  omega

lemma tooManyHours_span {len : UInt8} (hlen : len.toNat = 8 ∨ len.toNat = 12) (negative : Bool)
    (days : UInt32) (c : ClockFields) (rest : List UInt8) (h : 2 ^ 32 ≤ spanHours days c) :
    Checked.TooManyHours (len :: spanBytes negative days c ++ rest) := by
  have hdays : ofLeBytes (((len :: spanBytes negative days c ++ rest).drop 2).take 4) = days.toNat := by
    have htake : ((len :: spanBytes negative days c ++ rest).drop 2).take 4 = leBytes 4 days.toNat := rfl
    rw [htake, ofLeBytes_leBytes_of_lt days.toNat_lt]
  have hhour : (len :: spanBytes negative days c ++ rest).getD 6 0 = UInt8.ofNat c.hour := rfl
  refine ⟨hlen, ?_, ?_⟩
  · have hspan : (spanBytes negative days c).length = 8 := rfl
    rw [List.length_append, List.length_cons, hspan]
    omega
  · rw [hdays, hhour, c.toNat_bytes.1, Nat.add_comm]
    exact h

/-- A client's value is kept where its bytes are well made. -/
lemma kept_of_wellMade {ty : UInt8} {unsigned : Bool} {v : ParamValue} {rest : List UInt8} {n : ℕ}
    (h : v.Fits ty unsigned) (hmade : WellMade ty unsigned n (v.bytes ty ++ rest))
    (hhours : ¬ (ty = mysqlTypeTime ∧ Checked.TooManyHours (v.bytes ty ++ rest))) : v.Kept ty := by
  cases v with
  | int n =>
    obtain ⟨k, hk, hrange⟩ := h
    intro k' hk'
    rw [hk] at hk'
    cases hk'
    cases unsigned with
    | true =>
      obtain ⟨hlo, hhi⟩ : 0 ≤ n ∧ n < 2 ^ (8 * k) := hrange
      have htop := hmade.topBit rfl k hk
      have hcast : ((2 ^ (8 * k - 1) : ℕ) : ℤ) = 2 ^ (8 * k - 1) := by push_cast; rfl
      rw [ofLeBytes_integer hk, Int.emod_eq_of_lt hlo hhi] at htop
      omega
    | false => exact hrange.2
  | time t =>
    have hlong : ¬ Checked.TooManyHours (t.bytes ++ rest) := fun hlong => hhours ⟨h, hlong⟩
    cases t with
    | zero => trivial
    | clock negative days c =>
      refine not_le.1 fun hle => hlong ?_
      have height : (8 : UInt8).toNat = 8 ∨ (8 : UInt8).toNat = 12 := .inl rfl
      exact tooManyHours_span height negative days c rest hle
    | precise negative days c micros =>
      refine not_le.1 fun hle => hlong ?_
      have htwelve : (12 : UInt8).toNat = 8 ∨ (12 : UInt8).toNat = 12 := .inr rfl
      have h := tooManyHours_span htwelve negative days c (leBytes 4 micros ++ rest) hle
      rwa [← List.append_assoc] at h
  | float b => trivial
  | double b => trivial
  | text t => trivial
  | blob bytes => trivial
  | datetime t => trivial

lemma legalDatetime_bytes (v : ParamDatetime) : LegalDatetime v.bytes := by
  have hdate : ∀ d : DateFields, ofLeBytes (leBytes 2 d.year) ≤ 9999 ∧
      (UInt8.ofNat d.month).toNat ≤ 12 ∧ (UInt8.ofNat d.day).toNat ≤ 31 := by
    intro d
    have hy := d.year_le
    rw [ofLeBytes_leBytes_of_lt (by omega), d.toNat_bytes.1, d.toNat_bytes.2]
    exact ⟨hy, d.month_le, d.day_le⟩
  have hclock : ∀ c : ClockFields, (UInt8.ofNat c.hour).toNat ≤ 23 ∧
      (UInt8.ofNat c.minute).toNat ≤ 59 ∧ (UInt8.ofNat c.second).toNat ≤ 59 := by
    intro c
    obtain ⟨hh, hm, hs⟩ := c.toNat_bytes
    rw [hh, hm, hs]
    exact ⟨c.hour_le, c.minute_le, c.second_le⟩
  have hzero : 0 < 1000000 := by decide
  cases v with
  | zero =>
    unfold LegalDatetime
    decide
  | date d =>
    obtain ⟨hy, hm, hd⟩ := hdate d
    exact ⟨hy, hm, hd, Nat.zero_le 23, Nat.zero_le 59, Nat.zero_le 59, hzero⟩
  | instant d c =>
    obtain ⟨hy, hm, hd⟩ := hdate d
    obtain ⟨hh, hmi, hs⟩ := hclock c
    exact ⟨hy, hm, hd, hh, hmi, hs, hzero⟩
  | precise d c micros =>
    obtain ⟨hy, hm, hd⟩ := hdate d
    obtain ⟨hh, hmi, hs⟩ := hclock c
    have hmicros : ofLeBytes (leBytes 4 micros) < 1000000 := by
      rw [ofLeBytes_leBytes_of_lt (lt_trans micros.isLt (by decide))]
      exact micros.isLt
    exact ⟨hy, hm, hd, hh, hmi, hs, hmicros⟩

lemma legalTime_bytes (v : ParamTime) : LegalTime v.bytes := by
  have hsign : ∀ negative : Bool, (if negative then (1 : UInt8) else 0).toNat ≤ 1 := by decide
  have hclock : ∀ c : ClockFields, (UInt8.ofNat c.hour).toNat ≤ 23 ∧
      (UInt8.ofNat c.minute).toNat ≤ 59 ∧ (UInt8.ofNat c.second).toNat ≤ 59 := by
    intro c
    obtain ⟨hh, hm, hs⟩ := c.toNat_bytes
    rw [hh, hm, hs]
    exact ⟨c.hour_le, c.minute_le, c.second_le⟩
  have hzero : 0 < 1000000 := by decide
  cases v with
  | zero =>
    unfold LegalTime
    decide
  | clock negative days c =>
    obtain ⟨hh, hmi, hs⟩ := hclock c
    exact ⟨hsign negative, hh, hmi, hs, hzero⟩
  | precise negative days c micros =>
    obtain ⟨hh, hmi, hs⟩ := hclock c
    have hmicros : ofLeBytes (leBytes 4 micros) < 1000000 := by
      rw [ofLeBytes_leBytes_of_lt (lt_trans micros.isLt (by decide))]
      exact micros.isLt
    exact ⟨hsign negative, hh, hmi, hs, hmicros⟩

lemma blobContent_append {bytes : List UInt8} (h : bytes.length < 2 ^ 64) (rest : List UInt8) :
    blobContent (putLenencBytes bytes ++ rest) = bytes :=
  (eq_blobContent (takes_getLenencBytes h rest)).symm

/-- A type is of one kind only. -/
lemma typeKinds :
    (∀ ty ∈ textTypes, integerSize ty = none ∧ ty ∉ datetimeTypes ∧ ty ≠ mysqlTypeTime) ∧
      (∀ ty ∈ datetimeTypes, integerSize ty = none ∧ ty ∉ textTypes ∧ ty ≠ mysqlTypeBlob ∧
        ty ≠ mysqlTypeTime) ∧
      ∀ ty ∈ [mysqlTypeFloat, mysqlTypeDouble, mysqlTypeBlob, mysqlTypeTime],
        integerSize ty = none ∧ ty ∉ textTypes ∧ ty ∉ datetimeTypes := by decide +kernel

/-- A client's value is well made, but for an unsigned number that is not kept. -/
lemma wellMade_of_fits {ty : UInt8} {unsigned : Bool} {v : ParamValue} (rest : List UInt8)
    (h : v.Fits ty unsigned) (hkept : ∀ n, v = .int n → v.Kept ty) :
    WellMade ty unsigned (v.bytes ty).length (v.bytes ty ++ rest) := by
  obtain ⟨htexts, hdates, hothers⟩ := typeKinds
  have htake : (v.bytes ty ++ rest).take (v.bytes ty).length = v.bytes ty := List.take_left' rfl
  have hnone : integerSize ty = none → unsigned = true → ∀ k, integerSize ty = some k →
      ofLeBytes ((v.bytes ty ++ rest).take k) < 2 ^ (8 * k - 1) := by
    intro hno _ k hk
    rw [hno] at hk
    cases hk
  have hfloat : ty = mysqlTypeFloat ∨ ty = mysqlTypeDouble →
      WellMade ty unsigned (v.bytes ty).length (v.bytes ty ++ rest) := by
    intro hty
    obtain ⟨hno, htext, hdate⟩ := hothers ty (by rcases hty with rfl | rfl <;> decide)
    have hblob : ty ≠ mysqlTypeBlob := by rcases hty with rfl | rfl <;> decide
    have htime : ty ≠ mysqlTypeTime := by rcases hty with rfl | rfl <;> decide
    exact ⟨hnone hno, fun h => (h.elim htext hblob).elim, fun h => (hdate h).elim,
      fun h => (htime h).elim⟩
  cases v with
  | int n =>
    obtain ⟨k, hk, hrange⟩ := h
    obtain ⟨-, htext, hblob, hdate, htime⟩ := integerSize_cases hk []
    refine ⟨?_, fun h => (h.elim htext hblob).elim, fun h => (hdate h).elim,
      fun h => (htime h).elim⟩
    rintro rfl k' hk'
    rw [hk] at hk'
    cases hk'
    obtain ⟨hlo, hhi⟩ : 0 ≤ n ∧ n < 2 ^ (8 * k) := hrange
    have hlt : n < 2 ^ (8 * k - 1) := hkept n rfl k hk
    have hcast : ((2 ^ (8 * k - 1) : ℕ) : ℤ) = 2 ^ (8 * k - 1) := by push_cast; rfl
    rw [ofLeBytes_integer hk, Int.emod_eq_of_lt hlo hhi]
    omega
  | float b => exact hfloat (.inl h)
  | double b => exact hfloat (.inr h)
  | text t =>
    obtain ⟨hty, hlen⟩ := h
    obtain ⟨hno, hdate, htime⟩ := htexts ty hty
    refine ⟨hnone hno, fun _ => ?_, fun h => (hdate h).elim, fun h => (htime h).elim⟩
    rw [htake]
    exact congrArg putLenencBytes (blobContent_append hlen rest)
  | blob bytes =>
    obtain ⟨rfl, hlen⟩ := h
    obtain ⟨hno, -, hdate⟩ := hothers mysqlTypeBlob (by decide)
    refine ⟨hnone hno, fun _ => ?_, fun h => (hdate h).elim, fun h => absurd h (by decide)⟩
    rw [htake]
    exact congrArg putLenencBytes (blobContent_append hlen rest)
  | datetime t =>
    obtain ⟨hno, htext, hblob, htime⟩ := hdates ty h
    refine ⟨hnone hno, fun h => (h.elim htext hblob).elim, fun _ => ?_, fun h => (htime h).elim⟩
    rw [htake]
    exact legalDatetime_bytes t
  | time t =>
    obtain rfl : ty = mysqlTypeTime := h
    obtain ⟨hno, htext, hdate⟩ := hothers mysqlTypeTime (by decide)
    refine ⟨hnone hno, fun h => (h.elim htext (by decide)).elim, fun h => (hdate h).elim,
      fun _ => ?_⟩
    rw [htake]
    exact legalTime_bytes t

end Rsduck.Mysql
