import Mathlib.Logic.Relation
import Mathlib.Data.List.Basic
import Mathlib.Data.List.Forall2

/-!
Computations that change a state and may fail.

A failure keeps the state reached before it, so that a transaction around the computation
has something to undo. `Runs` is the relation of a successful run; its rules take a
computation apart, one statement at a time.
-/

namespace Rsduck.Lib

lemma forM_eq_ok {ε α : Type} {f : α → Except ε Unit} {xs : List α} :
    forM xs f = .ok () ↔ ∀ x ∈ xs, f x = .ok () := by
  induction xs with
  | nil => simp [pure, Except.pure]
  | cons x xs ih =>
    simp only [List.forM_cons, List.mem_cons, forall_eq_or_imp, ← ih]
    rcases h : f x with e | ⟨⟩ <;> simp [bind, Except.bind]

lemma mapM_eq_ok {ε α β : Type} {f : α → Except ε β} {xs : List α} {ys : List β} :
    xs.mapM f = .ok ys ↔ List.Forall₂ (fun x y => f x = .ok y) xs ys := by
  induction xs generalizing ys with
  | nil => simp [pure, Except.pure, eq_comm]
  | cons x xs ih =>
    rw [List.mapM_cons, List.forall₂_cons_left_iff]
    rcases hx : f x with e | y
    · simp [bind, Except.bind]
    · rcases hxs : xs.mapM f with e | zs
      · simp [bind, Except.bind, ← ih, hxs]
      · simp [bind, Except.bind, pure, Except.pure, ← ih, hxs, eq_comm]

/-- What a list is mapped to, element by element. -/
lemma mem_of_mapM {ε α β : Type} {f : α → Except ε β} {xs : List α} {ys : List β}
    (h : xs.mapM f = .ok ys) :
    (∀ y, y ∈ ys ↔ ∃ x ∈ xs, f x = .ok y) ∧ ∀ x ∈ xs, ∃ y ∈ ys, f x = .ok y := by
  induction mapM_eq_ok.1 h with
  | nil => simp
  | @cons x y xs ys hxy hall ih =>
    obtain ⟨hmem, hall'⟩ := ih (mapM_eq_ok.2 hall)
    constructor
    · intro z
      simp [hxy, hmem, eq_comm]
    · intro x' hx'
      rcases List.mem_cons.1 hx' with rfl | hx'
      · exact ⟨y, List.mem_cons_self, hxy⟩
      · obtain ⟨z, hz, hfz⟩ := hall' x' hx'
        exact ⟨z, List.mem_cons_of_mem y hz, hfz⟩

/-- A computation over a state that may fail with an error text. -/
abbrev Eff (σ α : Type) := ExceptT String (StateM σ) α

namespace Eff

variable {σ τ α β γ : Type}

/-- The outcome of a run and the state it leaves, also when it fails. -/
def exec (m : Eff σ α) (s : σ) : Except String α × σ := m s

/-- A pure computation that may fail. -/
def fromExcept : Except String α → Eff σ α
  | .ok a => pure a
  | .error e => throw e

/-- Fail with `e` unless the condition holds. -/
def ensure (c : Bool) (e : String) : Eff σ PUnit := if c then pure ⟨⟩ else throw e

/-- The same computation with `f` applied to its error text. -/
def mapError (f : String → String) (m : Eff σ α) : Eff σ α := fun s =>
  match exec m s with
  | (.ok a, s') => (.ok a, s')
  | (.error e, s') => (.error (f e), s')

/-- The computation with its outcome as a value, also when it fails. -/
def attempt (m : Eff σ α) : Eff σ (Except String α) := fun s =>
  match exec m s with
  | (r, s') => (.ok r, s')

@[simp] lemma exec_pure (a : α) (s : σ) : exec (pure a) s = (.ok a, s) := rfl
@[simp] lemma exec_throw (e : String) (s : σ) : exec (throw e : Eff σ α) s = (.error e, s) := rfl
@[simp] lemma exec_get (s : σ) : exec (get : Eff σ σ) s = (.ok s, s) := rfl
@[simp] lemma exec_set (t s : σ) : exec (set t : Eff σ PUnit) s = (.ok ⟨⟩, t) := rfl
@[simp] lemma exec_modify (f : σ → σ) (s : σ) :
    exec (modify f : Eff σ PUnit) s = (.ok ⟨⟩, f s) := rfl

lemma exec_bind (m : Eff σ α) (f : α → Eff σ β) (s : σ) :
    exec (m >>= f) s =
      match exec m s with
      | (.ok a, s') => exec (f a) s'
      | (.error e, s') => (.error e, s') := by
  simp only [exec, bind, ExceptT.bind, ExceptT.mk, StateT.bind, ExceptT.bindCont]
  cases m s with
  | mk r s' => cases r <;> rfl

@[simp] lemma exec_fromExcept (x : Except String α) (s : σ) :
    exec (fromExcept x : Eff σ α) s = (x, s) := by
  cases x <;> rfl

lemma exec_mapError (f : String → String) (m : Eff σ α) (s : σ) :
    exec (mapError f m) s = ((exec m s).1.mapError f, (exec m s).2) := by
  change (match exec m s with
    | (.ok a, s') => (Except.ok a, s')
    | (.error e, s') => (.error (f e), s')) = _
  rcases exec m s with ⟨_ | _, _⟩ <;> rfl

@[simp] lemma exec_attempt (m : Eff σ α) (s : σ) :
    exec (attempt m) s = (.ok (exec m s).1, (exec m s).2) := rfl

/-! ### Successful runs -/

/-- The computation succeeds from `s` with result `a` in state `s'`. -/
def Runs (m : Eff σ α) (s : σ) (a : α) (s' : σ) : Prop := exec m s = (.ok a, s')

@[simp] lemma runs_pure {a b : α} {s s' : σ} : Runs (pure a) s b s' ↔ b = a ∧ s' = s := by
  simp [Runs, eq_comm]

@[simp] lemma runs_throw {e : String} {a : α} {s s' : σ} :
    Runs (throw e : Eff σ α) s a s' ↔ False := by
  simp [Runs]

@[simp] lemma runs_get {a s s' : σ} : Runs (get : Eff σ σ) s a s' ↔ a = s ∧ s' = s := by
  simp [Runs, eq_comm]

@[simp] lemma runs_set {t s s' : σ} {u : PUnit} :
    Runs (set t : Eff σ PUnit) s u s' ↔ s' = t := by
  simp [Runs, eq_comm]

@[simp] lemma runs_modify {f : σ → σ} {s s' : σ} {u : PUnit} :
    Runs (modify f : Eff σ PUnit) s u s' ↔ s' = f s := by
  simp [Runs, eq_comm]

@[simp] lemma runs_fromExcept {x : Except String α} {s s' : σ} {a : α} :
    Runs (fromExcept x : Eff σ α) s a s' ↔ x = .ok a ∧ s' = s := by
  simp [Runs, eq_comm]

@[simp] lemma runs_ensure {c : Bool} {e : String} {s s' : σ} {u : PUnit} :
    Runs (ensure c e : Eff σ PUnit) s u s' ↔ c = true ∧ s' = s := by
  cases c <;> simp [ensure]

lemma runs_bind {m : Eff σ α} {f : α → Eff σ β} {s s' : σ} {b : β} :
    Runs (m >>= f) s b s' ↔ ∃ a t, Runs m s a t ∧ Runs (f a) t b s' := by
  unfold Runs
  rw [exec_bind]
  rcases exec m s with ⟨_ | a, t⟩
  · simp
  · constructor
    · intro h
      exact ⟨a, t, rfl, h⟩
    · rintro ⟨a', t', h, h'⟩
      cases h
      exact h'

/-- A run of the first part leaves the outcome to the second. -/
lemma exec_bind_of_runs {m : Eff σ α} {f : α → Eff σ β} {s t : σ} {a : α} (h : Runs m s a t) :
    exec (m >>= f) s = exec (f a) t := by
  rw [exec_bind, show exec m s = _ from h]

lemma runs_get_bind {f : σ → Eff σ β} {s s' : σ} {b : β} :
    Runs (get >>= f) s b s' ↔ Runs (f s) s b s' := by
  unfold Runs
  rw [exec_bind, exec_get]

lemma runs_ensure_bind {c : Bool} {e : String} {f : PUnit → Eff σ β} {s s' : σ} {b : β} :
    Runs (ensure c e >>= f) s b s' ↔ c = true ∧ Runs (f ⟨⟩) s b s' := by
  simp only [runs_bind, runs_ensure]
  constructor
  · rintro ⟨_, _, ⟨hc, rfl⟩, h⟩
    exact ⟨hc, h⟩
  · rintro ⟨hc, h⟩
    exact ⟨⟨⟩, s, ⟨hc, rfl⟩, h⟩

lemma runs_fromExcept_bind {x : Except String α} {f : α → Eff σ β} {s s' : σ} {b : β} :
    Runs (fromExcept x >>= f) s b s' ↔ ∃ a, x = .ok a ∧ Runs (f a) s b s' := by
  simp only [runs_bind, runs_fromExcept]
  constructor
  · rintro ⟨a, _, ⟨hx, rfl⟩, h⟩
    exact ⟨a, hx, h⟩
  · rintro ⟨a, hx, h⟩
    exact ⟨a, s, ⟨hx, rfl⟩, h⟩

lemma runs_modify_bind {g : σ → σ} {f : PUnit → Eff σ β} {s s' : σ} {b : β} :
    Runs (modify g >>= f) s b s' ↔ Runs (f ⟨⟩) (g s) b s' := by
  unfold Runs
  rw [exec_bind, exec_modify]

lemma runs_map {m : Eff σ α} {f : α → β} {s s' : σ} {b : β} :
    Runs (f <$> m) s b s' ↔ ∃ a, Runs m s a s' ∧ b = f a := by
  rw [← bind_pure_comp, runs_bind]
  constructor
  · rintro ⟨a, t, h, h'⟩
    obtain ⟨rfl, rfl⟩ := runs_pure.1 h'
    exact ⟨a, h, rfl⟩
  · rintro ⟨a, h, rfl⟩
    exact ⟨a, s', h, runs_pure.2 ⟨rfl, rfl⟩⟩

lemma runs_ite {c : Prop} [Decidable c] {m n : Eff σ α} {s s' : σ} {a : α} :
    Runs (if c then m else n) s a s' ↔ (c ∧ Runs m s a s') ∨ (¬ c ∧ Runs n s a s') := by
  by_cases h : c <;> simp [h]

@[simp] lemma runs_mapError {f : String → String} {m : Eff σ α} {s s' : σ} {a : α} :
    Runs (mapError f m) s a s' ↔ Runs m s a s' := by
  unfold Runs mapError
  change (match exec m s with
    | (.ok a, s') => (Except.ok a, s')
    | (.error e, s') => (.error (f e), s')) = _ ↔ _
  rcases exec m s with ⟨_ | _, _⟩ <;> simp

/-! ### What every successful run keeps -/

/-- A relation between the state before a computation and the state after it. -/
class Frame (R : σ → σ → Prop) : Prop where
  refl : ∀ s, R s s
  trans : ∀ {s t u}, R s t → R t u → R s u

/-- Every successful run stays inside the relation. -/
def Keeps (R : σ → σ → Prop) (m : Eff σ α) : Prop := ∀ s a s', Runs m s a s' → R s s'

section Keeps

variable {R : σ → σ → Prop} [Frame R]

lemma keeps_pure (a : α) : Keeps R (pure a) := by
  intro s b s' h
  obtain ⟨-, rfl⟩ := runs_pure.1 h
  exact Frame.refl s'

omit [Frame R] in
lemma keeps_throw (e : String) : Keeps R (throw e : Eff σ α) :=
  fun _ _ _ h => (runs_throw.1 h).elim

lemma keeps_get : Keeps R (get : Eff σ σ) := by
  intro s b s' h
  obtain ⟨-, rfl⟩ := runs_get.1 h
  exact Frame.refl s'

lemma keeps_fromExcept (x : Except String α) : Keeps R (fromExcept x) := by
  intro s b s' h
  obtain ⟨-, rfl⟩ := runs_fromExcept.1 h
  exact Frame.refl s'

lemma keeps_ensure (c : Bool) (e : String) : Keeps R (ensure c e) := by
  intro s b s' h
  obtain ⟨-, rfl⟩ := runs_ensure.1 h
  exact Frame.refl s'

lemma keeps_bind {m : Eff σ α} {f : α → Eff σ β} (hm : Keeps R m) (hf : ∀ a, Keeps R (f a)) :
    Keeps R (m >>= f) := by
  intro s b s' h
  obtain ⟨a, t, h1, h2⟩ := runs_bind.1 h
  exact Frame.trans (hm _ _ _ h1) (hf a _ _ _ h2)

omit [Frame R] in
lemma keeps_ite {c : Prop} [Decidable c] {m n : Eff σ α} (hm : Keeps R m) (hn : Keeps R n) :
    Keeps R (if c then m else n) := by
  by_cases h : c <;> simp [h, hm, hn]

omit [Frame R] in
lemma keeps_mapError {f : String → String} {m : Eff σ α} (hm : Keeps R m) :
    Keeps R (mapError f m) :=
  fun s a s' h => hm s a s' (runs_mapError.1 h)

/-- A loop keeps what each turn of it keeps. -/
lemma keeps_forM {xs : List α} {f : α → Eff σ PUnit} (hf : ∀ x ∈ xs, Keeps R (f x)) :
    Keeps R (xs.forM f) := by
  induction xs with
  | nil => exact keeps_pure _
  | cons x xs ih =>
    change Keeps R (f x >>= fun _ => xs.forM f)
    exact keeps_bind (hf x (by simp)) fun _ => ih fun y hy => hf y (by simp [hy])

lemma keeps_foldlM {xs : List α} {f : β → α → Eff σ β} {b : β}
    (hf : ∀ b, ∀ x ∈ xs, Keeps R (f b x)) : Keeps R (xs.foldlM f b) := by
  induction xs generalizing b with
  | nil => exact keeps_pure _
  | cons x xs ih =>
    rw [List.foldlM_cons]
    exact keeps_bind (hf b x (by simp)) fun _ => ih fun b y hy => hf b y (by simp [hy])

/-- A loop whose turns keep an invariant besides, on which the relation may rest. -/
lemma keeps_foldlM_of {I : σ → Prop} {xs : List α} {f : β → α → Eff σ β} {b b' : β} {s s' : σ}
    (hf : ∀ x ∈ xs, ∀ b s b' s', I s → Runs (f b x) s b' s' → R s s' ∧ I s') (hs : I s)
    (h : Runs (xs.foldlM f b) s b' s') : R s s' := by
  induction xs generalizing b s with
  | nil =>
    obtain ⟨-, rfl⟩ := runs_pure.1 h
    exact Frame.refl s'
  | cons x xs ih =>
    rw [List.foldlM_cons] at h
    obtain ⟨c, t, h₁, h₂⟩ := runs_bind.1 h
    obtain ⟨hR, ht⟩ := hf x List.mem_cons_self _ _ _ _ hs h₁
    exact Frame.trans hR (ih (fun y hy => hf y (List.mem_cons_of_mem _ hy)) ht h₂)

end Keeps

/-! ### Where every run stays -/

/-- The run stays inside the relation, also when it fails. -/
def Within (R : σ → σ → Prop) (m : Eff σ α) (s : σ) : Prop := R s (exec m s).2

section Within

variable {R : σ → σ → Prop} [Frame R] {s : σ}

lemma within_of_exec {m : Eff σ α} (h : (exec m s).2 = s) : Within R m s := by
  unfold Within
  rw [h]
  exact Frame.refl s

lemma within_fromExcept (x : Except String α) : Within R (fromExcept x) s :=
  within_of_exec (by rw [exec_fromExcept])

lemma within_ensure (c : Bool) (e : String) : Within R (ensure c e) s :=
  within_of_exec (by cases c <;> rfl)

lemma within_bind {m : Eff σ α} {f : α → Eff σ β} (hm : Within R m s)
    (hf : ∀ a t, Runs m s a t → Within R (f a) t) : Within R (m >>= f) s := by
  unfold Within at hm ⊢
  rw [exec_bind]
  rcases h : exec m s with ⟨e | a, t⟩
  · rw [h] at hm
    exact hm
  · rw [h] at hm
    exact Frame.trans hm (hf a t h)

omit [Frame R] in
lemma within_mapError {m : Eff σ α} (f : String → String) (hm : Within R m s) :
    Within R (mapError f m) s := by
  unfold Within
  rw [exec_mapError]
  exact hm

omit [Frame R] in
lemma within_attempt {m : Eff σ α} (hm : Within R m s) : Within R (attempt m) s := by
  unfold Within
  rw [exec_attempt]
  exact hm

lemma within_bind_pure {m : Eff σ α} (g : α → β) (hm : Within R m s) :
    Within R (m >>= fun a => pure (g a)) s :=
  within_bind hm fun a _ _ => within_fromExcept (.ok (g a))

omit [Frame R] in
lemma Within.of_runs {m : Eff σ α} {a : α} {t : σ} (hm : Within R m s) (h : Runs m s a t) :
    R s t := by
  unfold Within at hm
  rw [show exec m s = _ from h] at hm
  exact hm

end Within

/-- A part of the state is the same after as it was before. -/
def Same {δ : Type} (view : σ → δ) (s t : σ) : Prop := view t = view s

instance {δ : Type} (view : σ → δ) : Frame (Same view) where
  refl _ := rfl
  trans h h' := Eq.trans h' h

/-- The run leaves a part of the state alone. -/
abbrev Spares {δ : Type} (view : σ → δ) (m : Eff σ α) (s : σ) : Prop := Within (Same view) m s

/-- What is left of a view is the same where the view is. -/
lemma within_same_of_view {δ ε : Type} {view : σ → δ} (g : δ → ε) {m : Eff σ α} {s : σ}
    (h : Within (Same view) m s) : Within (Same fun t => g (view t)) m s :=
  congrArg g (show view (exec m s).2 = view s from h)

end Eff

end Rsduck.Lib
