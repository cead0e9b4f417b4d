import Mathlib.Data.List.Basic
import Mathlib.Tactic.Common

/-!
Runs of a system that takes one event after the other, and what all of them keep.
-/

namespace Rsduck.Lib

/-- What an event does to a state, where it can happen there. -/
structure System (σ ε : Type) where
  step : σ → ε → Option σ

namespace System

variable {σ ε : Type} (M : System σ ε)

def run : σ → List ε → Option σ
  | s, [] => some s
  | s, e :: es => (M.step s e).bind fun t => run t es

/-- Each event of a run meets a condition in the state it happens in. -/
def Along (ok : σ → ε → Prop) : σ → List ε → Prop
  | _, [] => True
  | s, e :: es => ok s e ∧ ∀ t, M.step s e = some t → Along ok t es

@[simp] lemma run_nil (s : σ) : M.run s [] = some s := rfl

lemma run_cons_eq_some {s t : σ} {e : ε} {es : List ε} :
    M.run s (e :: es) = some t ↔ ∃ u, M.step s e = some u ∧ M.run u es = some t := by
  rw [run, Option.bind_eq_some_iff]

lemma run_append {s t u : σ} {es fs : List ε} (h : M.run s es = some t)
    (h' : M.run t fs = some u) : M.run s (es ++ fs) = some u := by
  induction es generalizing s with
  | nil =>
    cases h
    exact h'
  | cons e es ih =>
    obtain ⟨v, hstep, hrun⟩ := (run_cons_eq_some M).1 h
    exact (run_cons_eq_some M).2 ⟨v, hstep, ih hrun⟩

variable {M}

lemma along_cons {ok : σ → ε → Prop} {s t : σ} {e : ε} {es : List ε} (h : M.step s e = some t) :
    M.Along ok s (e :: es) ↔ ok s e ∧ M.Along ok t es := by
  refine and_congr_right fun _ => ⟨fun hall => hall t h, fun htail u hu => ?_⟩
  obtain rfl : t = u := Option.some.inj (h.symm.trans hu)
  exact htail

lemma along_append_right {ok : σ → ε → Prop} {s t : σ} {es fs : List ε} (h : M.run s es = some t)
    (hok : M.Along ok s (es ++ fs)) : M.Along ok t fs := by
  induction es generalizing s with
  | nil =>
    cases h
    exact hok
  | cons e es ih =>
    obtain ⟨u, hstep, hrun⟩ := (run_cons_eq_some M).1 h
    exact ih hrun (hok.2 u hstep)

/-- A condition that the events meet in every state. -/
lemma along_of_forall {ok : σ → ε → Prop} {es : List ε} (h : ∀ e ∈ es, ∀ s, ok s e) (s : σ) :
    M.Along ok s es := by
  induction es generalizing s with
  | nil => trivial
  | cons e es ih =>
    have htail : ∀ e' ∈ es, ∀ s, ok s e' := fun e' he' => h e' (List.mem_cons_of_mem _ he')
    exact ⟨h e List.mem_cons_self s, fun t _ => ih htail t⟩

lemma along_and {P Q : σ → ε → Prop} {s : σ} {es : List ε} (hP : M.Along P s es)
    (hQ : M.Along Q s es) : M.Along (fun s e => P s e ∧ Q s e) s es := by
  induction es generalizing s with
  | nil => trivial
  | cons e es ih => exact ⟨⟨hP.1, hQ.1⟩, fun t ht => ih (hP.2 t ht) (hQ.2 t ht)⟩

/-- **The invariant rule**: what a step keeps under its condition, a run keeps under its own. -/
theorem invariant {Inv : σ → Prop} {ok : σ → ε → Prop}
    (hstep : ∀ s e t, Inv s → ok s e → M.step s e = some t → Inv t) {s t : σ} {es : List ε}
    (hs : Inv s) (hok : M.Along ok s es) (hrun : M.run s es = some t) : Inv t := by
  induction es generalizing s with
  | nil =>
    cases hrun
    exact hs
  | cons e es ih =>
    obtain ⟨u, hu, hrun⟩ := (run_cons_eq_some M).1 hrun
    exact ih (hstep s e u hs hok.1 hu) (hok.2 u hu) hrun

/-- What every step keeps, every run keeps. -/
theorem always {Inv : σ → Prop} (hstep : ∀ s e t, Inv s → M.step s e = some t → Inv t) {s t : σ}
    {es : List ε} (hs : Inv s) (hrun : M.run s es = some t) : Inv t := by
  have hany : M.Along (fun _ _ => True) s es := along_of_forall (fun _ _ _ => trivial) s
  exact invariant (fun s e t hs _ h => hstep s e t hs h) hs hany hrun

/-- Two conditions that agree where the invariant holds, which one of them keeps, agree along a
run. -/
theorem along_congr {Inv : σ → Prop} {P ok : σ → ε → Prop}
    (hstep : ∀ s e t, Inv s → ok s e → M.step s e = some t → Inv t)
    (hiff : ∀ s e, Inv s → (P s e ↔ ok s e)) {s : σ} (hs : Inv s) (es : List ε) :
    M.Along P s es ↔ M.Along ok s es := by
  induction es generalizing s with
  | nil => rfl
  | cons e es ih =>
    constructor
    · rintro ⟨hP, htail⟩
      have hok := (hiff s e hs).1 hP
      exact ⟨hok, fun t ht => (ih (hstep s e t hs hok ht)).1 (htail t ht)⟩
    · rintro ⟨hok, htail⟩
      exact ⟨(hiff s e hs).2 hok, fun t ht => (ih (hstep s e t hs hok ht)).2 (htail t ht)⟩

/-- Where a step that misses its condition shows, the runs without such a step are those in which
the property holds all along. -/
theorem along_iff {Inv P : σ → Prop} {ok : σ → ε → Prop} (hP : ∀ s, Inv s → P s)
    (hstep : ∀ s e t, Inv s → ok s e → M.step s e = some t → Inv t)
    (hshows : ∀ s e, Inv s → ¬ ok s e → ∃ t, M.step s e = some t ∧ ¬ P t) {s : σ} (hs : Inv s)
    (es : List ε) : (∀ fs t, fs <+: es → M.run s fs = some t → P t) ↔ M.Along ok s es := by
  induction es generalizing s with
  | nil =>
    refine ⟨fun _ => trivial, fun _ fs t hfs hrun => ?_⟩
    rw [List.prefix_nil.1 hfs] at hrun
    cases hrun
    exact hP s hs
  | cons e es ih =>
    constructor
    · intro hall
      have hok : ok s e := by
        by_contra hnot
        obtain ⟨t, ht, hbad⟩ := hshows s e hs hnot
        exact hbad (hall [e] t (by simp) ((run_cons_eq_some M).2 ⟨t, ht, rfl⟩))
      refine ⟨hok, fun t ht => (ih (hstep s e t hs hok ht)).1 fun fs u hfs hrun => ?_⟩
      exact hall (e :: fs) u (List.cons_prefix_cons.2 ⟨rfl, hfs⟩)
        ((run_cons_eq_some M).2 ⟨t, ht, hrun⟩)
    · rintro ⟨hok, htail⟩ fs t hfs hrun
      rcases fs with _ | ⟨f, fs⟩
      · cases hrun
        exact hP s hs
      · obtain ⟨rfl, htake⟩ := List.cons_prefix_cons.1 hfs
        obtain ⟨u, hu, hrun⟩ := (run_cons_eq_some M).1 hrun
        exact (ih (hstep s f u hs hok hu)).2 (htail u hu) fs t htake hrun

end System

end Rsduck.Lib
