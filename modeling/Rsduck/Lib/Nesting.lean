import Mathlib.Tactic.Common

/-!
Sequences with brackets, and with stops that stand outside all brackets.
-/

namespace Rsduck.Lib

inductive Mark
  | opening | closing | stop | other
  deriving DecidableEq

/-- The depth after a mark; a closing bracket needs an open one, a stop needs none. -/
def Mark.step : Mark → ℕ → Option ℕ
  | .opening, d => some (d + 1)
  | .closing, 0 => none
  | .closing, d + 1 => some d
  | .stop, 0 => some 0
  | .stop, _ + 1 => none
  | .other, d => some d

/-- The depth after the marks, from the depth `d`. -/
def nest : ℕ → List Mark → Option ℕ
  | d, [] => some d
  | d, m :: ms => (m.step d).bind fun e => nest e ms

/-- Every bracket is closed, and every stop is outside. -/
def Nested (ms : List Mark) : Prop := nest 0 ms = some 0

instance (ms : List Mark) : Decidable (Nested ms) := inferInstanceAs (Decidable (_ = _))

lemma nest_append (d : ℕ) (ms ns : List Mark) :
    nest d (ms ++ ns) = (nest d ms).bind fun e => nest e ns := by
  induction ms generalizing d with
  | nil => rfl
  | cons m ms ih =>
    rw [List.cons_append, nest, nest, Option.bind_assoc]
    exact congrArg _ (funext fun e => ih e)

lemma step_add {m : Mark} {d e : ℕ} (hm : m ≠ .stop) (h : m.step d = some e) (k : ℕ) :
    m.step (d + k) = some (e + k) := by
  cases m with
  | opening =>
    obtain rfl : d + 1 = e := by simpa [Mark.step] using h
    rw [Mark.step, Nat.add_right_comm]
  | closing =>
    cases d with
    | zero => cases h
    | succ d =>
      obtain rfl : d = e := by simpa [Mark.step] using h
      rw [Nat.add_right_comm, Mark.step]
  | stop => exact absurd rfl hm
  | other =>
    obtain rfl : d = e := by simpa [Mark.step] using h
    rfl

lemma step_stop {d e : ℕ} (h : Mark.step .stop d = some e) : d = 0 := by
  cases d with
  | zero => rfl
  | succ d => cases h

/-- Deeper inside, marks without a stop do the same. -/
lemma nest_add {d e : ℕ} {ms : List Mark} (hms : .stop ∉ ms) (h : nest d ms = some e) (k : ℕ) :
    nest (d + k) ms = some (e + k) := by
  induction ms generalizing d with
  | nil =>
    obtain rfl : d = e := by simpa [nest] using h
    rfl
  | cons m ms ih =>
    obtain ⟨hm, hms⟩ := not_or.1 (fun h => hms (List.mem_cons.2 h))
    obtain ⟨d', hstep, hrest⟩ := Option.bind_eq_some_iff.1 h
    rw [nest, step_add (Ne.symm hm) hstep, Option.bind_some]
    exact ih hms hrest

/-- Deeper inside, a stop is not allowed. -/
lemma nest_add_of_stop {d e k : ℕ} {ms : List Mark} (hms : .stop ∈ ms) (h : nest d ms = some e)
    (hk : 0 < k) : nest (d + k) ms = none := by
  induction ms generalizing d with
  | nil => cases hms
  | cons m ms ih =>
    obtain ⟨d', hstep, hrest⟩ := Option.bind_eq_some_iff.1 h
    by_cases hm : m = .stop
    · subst hm
      obtain rfl := step_stop hstep
      obtain ⟨k, rfl⟩ := Nat.exists_eq_succ_of_ne_zero (Nat.pos_iff_ne_zero.1 hk)
      rw [Nat.zero_add]
      rfl
    · have hmem : Mark.stop ∈ ms := (List.mem_cons.1 hms).resolve_left (Ne.symm hm)
      rw [nest, step_add hm hstep, Option.bind_some]
      exact ih hmem hrest

/-- **Enclosing**: what is nested stays nested inside a bracket exactly when it has no stop. -/
theorem nested_enclose_iff {pre ms post : List Mark} (hpre : nest 0 pre = some 1)
    (hms : Nested ms) (hpost : nest 1 post = some 0) :
    Nested (pre ++ (ms ++ post)) ↔ .stop ∉ ms := by
  unfold Nested
  rw [nest_append, hpre, Option.bind_some, nest_append]
  constructor
  · intro h hstop
    rw [show (1 : ℕ) = 0 + 1 from rfl, nest_add_of_stop hstop hms Nat.one_pos] at h
    cases h
  · intro hstop
    rw [show (1 : ℕ) = 0 + 1 from rfl, nest_add hstop hms, Option.bind_some]
    exact hpost

/-- Without the closing bracket nothing is nested. -/
lemma not_nested_open {pre ms : List Mark} (hpre : nest 0 pre = some 1) (hms : Nested ms) :
    ¬ Nested (pre ++ ms) := by
  unfold Nested
  rw [nest_append, hpre, Option.bind_some]
  intro h
  by_cases hstop : Mark.stop ∈ ms
  · rw [show (1 : ℕ) = 0 + 1 from rfl, nest_add_of_stop hstop hms Nat.one_pos] at h
    cases h
  · rw [show (1 : ℕ) = 0 + 1 from rfl, nest_add hstop hms] at h
    cases h

end Rsduck.Lib
