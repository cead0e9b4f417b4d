import Mathlib.Order.Lattice
import Mathlib.Data.List.Induction
import Mathlib.Order.Defs.LinearOrder
import Mathlib.Tactic.Common

/-!
A register with versions that forgets what it erases.

It keeps the version of the value it holds and refuses anything older. Once the value is
erased nothing is kept, so an older value delivered afterwards is taken in again.
-/

namespace Rsduck.Lib.Register

variable {ν α : Type} [LinearOrder ν]

inductive Delivery (ν α : Type)
  | put (v : ν) (x : α)
  | erase (v : ν)

def Delivery.version : Delivery ν α → ν
  | .put v _ => v
  | .erase v => v

def deliver (s : Option (ν × α)) : Delivery ν α → Option (ν × α)
  | .put v x =>
    match s with
    | none => some (v, x)
    | some (w, y) => if w < v then some (v, x) else some (w, y)
  | .erase v =>
    match s with
    | none => none
    | some (w, y) => if v < w then some (w, y) else none

def run (s : Option (ν × α)) (ds : List (Delivery ν α)) : Option (ν × α) := ds.foldl deliver s

@[simp] lemma run_nil (s : Option (ν × α)) : run s [] = s := rfl
@[simp] lemma run_cons (s : Option (ν × α)) (d : Delivery ν α) (ds : List (Delivery ν α)) :
    run s (d :: ds) = run (deliver s d) ds := rfl
lemma run_append (s : Option (ν × α)) (ds es : List (Delivery ν α)) :
    run s (ds ++ es) = run (run s ds) es := by
  simp [run]

/-! ### What is held comes from a delivery -/

/-- A held value was put, and nothing that could erase it came after. -/
lemma exists_put_of_run {ds : List (Delivery ν α)} {w : ν} {y : α}
    (h : run none ds = some (w, y)) :
    ∃ a b, ds = a ++ .put w y :: b ∧ ∀ u, .erase u ∈ b → u < w := by
  induction ds using List.reverseRecOn generalizing w y with
  | nil => simp at h
  | append_singleton ds d ih =>
    rw [run_append, run_cons, run_nil] at h
    -- kept from before `d`, or put by `d`
    have hkeep : run none ds = some (w, y) → (∀ u, d = .erase u → u < w) →
        ∃ a b, ds ++ [d] = a ++ .put w y :: b ∧ ∀ u, .erase u ∈ b → u < w := by
      intro hs hd
      obtain ⟨a, b, rfl, hb⟩ := ih hs
      refine ⟨a, b ++ [d], by simp, fun u hu => ?_⟩
      rcases List.mem_append.1 hu with hu | hu
      · exact hb u hu
      · exact hd u (by simpa using (List.mem_singleton.1 hu).symm)
    have hput : d = .put w y →
        ∃ a b, ds ++ [d] = a ++ .put w y :: b ∧ ∀ u, .erase u ∈ b → u < w :=
      fun hd => ⟨ds, [], by simp [hd], by simp⟩
    cases d with
    | put v x =>
      rcases hs : run none ds with _ | ⟨w', y'⟩
      · simp only [hs, deliver, Option.some.injEq, Prod.mk.injEq] at h
        exact hput (by rw [h.1, h.2])
      · simp only [hs, deliver] at h
        split_ifs at h
        · simp only [Option.some.injEq, Prod.mk.injEq] at h
          exact hput (by rw [h.1, h.2])
        · exact hkeep (hs.trans h) (by simp)
    | erase v =>
      rcases hs : run none ds with _ | ⟨w', y'⟩
      · simp [hs, deliver] at h
      · simp only [hs, deliver] at h
        split_ifs at h with hv
        refine hkeep (hs.trans h) fun u hu => ?_
        cases hu
        cases h
        exact hv

/-- What is held stays until a version as high is erased. -/
lemma run_some {ds : List (Delivery ν α)} {v w : ν} (y : α) (hw : v ≤ w)
    (h : ∀ u, .erase u ∈ ds → u < v) : ∃ w' y', run (some (w, y)) ds = some (w', y') ∧ v ≤ w' := by
  induction ds generalizing w y with
  | nil => exact ⟨w, y, rfl, hw⟩
  | cons d ds ih =>
    have ih := fun {w : ν} (y : α) (hw : v ≤ w) => ih (w := w) y hw fun u hu => h u (by simp [hu])
    cases d with
    | put v' x =>
      rw [run_cons, deliver]
      split_ifs with hlt
      · exact ih x (le_trans hw (le_of_lt hlt))
      · exact ih y hw
    | erase u =>
      have hu : u < w := lt_of_lt_of_le (h u (by simp)) hw
      rw [run_cons, deliver, if_pos hu]
      exact ih y hw

/-! ### Convergence -/

/-- **Absence**: the register ends empty iff every put is followed by an erasure of a higher
version. -/
theorem run_eq_none_iff {ds : List (Delivery ν α)}
    (hd : ∀ v x, .put v x ∈ ds → Delivery.erase v ∉ ds) :
    run none ds = none ↔
      ∀ a v x b, ds = a ++ .put v x :: b → ∃ u, .erase u ∈ b ∧ v < u := by
  constructor
  · rintro h a v x b rfl
    by_contra hno
    simp only [not_exists, not_and, not_lt] at hno
    have hlt : ∀ u, Delivery.erase u ∈ b → u < v := fun u hu =>
      lt_of_le_of_ne (hno u hu) fun huv => hd v x (by simp) (by simp [← huv, hu])
    have hput : ∃ w y, deliver (run none a) (.put v x) = some (w, y) ∧ v ≤ w := by
      rcases run none a with _ | ⟨w, y⟩
      · exact ⟨v, x, rfl, le_refl v⟩
      · by_cases hw : w < v
        · exact ⟨v, x, by simp [deliver, hw], le_refl v⟩
        · exact ⟨w, y, by simp [deliver, hw], not_lt.1 hw⟩
    obtain ⟨w, y, hs, hw⟩ := hput
    obtain ⟨w', y', hr, -⟩ := run_some y hw hlt
    rw [run_append, run_cons, hs, hr] at h
    cases h
  · intro h
    rcases hs : run none ds with _ | ⟨w, y⟩
    · rfl
    · obtain ⟨a, b, rfl, hb⟩ := exists_put_of_run hs
      obtain ⟨u, hu, hlt⟩ := h a w y b rfl
      exact absurd (hb u hu) (not_lt.2 (le_of_lt hlt))

/-- **Presence**: when the highest version is a put, the register ends with it in every order. -/
theorem run_eq_put {ds : List (Delivery ν α)} {v : ν} {x : α} (hmem : .put v x ∈ ds)
    (htop : ∀ d ∈ ds, d.version ≤ v) (huniq : ∀ d ∈ ds, d.version = v → d = .put v x) :
    run none ds = some (v, x) := by
  -- below the highest version, or at it
  have hstep : ∀ s : Option (ν × α), (∀ w y, s = some (w, y) → w < v ∨ (w, y) = (v, x)) →
      ∀ d ∈ ds, (∀ w y, deliver s d = some (w, y) → w < v ∨ (w, y) = (v, x)) ∧
        (s = some (v, x) ∨ d = .put v x → deliver s d = some (v, x)) := by
    intro s hs d hd
    have hv := htop d hd
    have hu := huniq d hd
    rcases s with _ | ⟨w, y⟩ <;> cases d with
    | put v' x' => grind [deliver, Delivery.version]
    | erase v' => grind [deliver, Delivery.version]
  have hrun : ∀ es : List (Delivery ν α), (∀ d ∈ es, d ∈ ds) → ∀ s,
      (∀ w y, s = some (w, y) → w < v ∨ (w, y) = (v, x)) →
      (s = some (v, x) ∨ .put v x ∈ es) → run s es = some (v, x) := by
    intro es
    induction es with
    | nil => simp
    | cons d es ih =>
      intro hes s hs h
      obtain ⟨hlow, hhit⟩ := hstep s hs d (hes d (by simp))
      refine ih (fun e he => hes e (by simp [he])) _ hlow ?_
      rcases h with h | h
      · exact Or.inl (hhit (Or.inl h))
      · rcases List.mem_cons.1 h with h | h
        · exact Or.inl (hhit (Or.inr h.symm))
        · exact Or.inr h
  exact hrun ds (fun _ h => h) none (by simp) (Or.inr hmem)

end Rsduck.Lib.Register
