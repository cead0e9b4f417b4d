import Rsduck.Lib.Effect

/-!
Sweeps: a computation runs over a list of things and settles one after the other.

What is settled stays so in the rest of the sweep. A sweep over things that are all settled does
nothing.
-/

namespace Rsduck.Lib

section Pairs

variable {α β γ : Type} {R : α → β → Prop} {S : β → γ → Prop} {xs : List α} {ys : List β} {zs : List γ}

lemma forall₂_comp (h : xs.Forall₂ R ys) (h' : ys.Forall₂ S zs) :
    xs.Forall₂ (fun x z => ∃ y, R x y ∧ S y z) zs := by
  induction h generalizing zs with
  | nil =>
    cases h'
    exact .nil
  | cons hxy _ ih =>
    cases h' with
    | cons hyz h' => exact .cons ⟨_, hxy, hyz⟩ (ih h')

lemma exists_mem_of_forall₂_right (h : xs.Forall₂ R ys) {y : β} (hy : y ∈ ys) :
    ∃ x ∈ xs, R x y := by
  induction h with
  | nil => cases hy
  | @cons x y' xs ys hxy _ ih =>
    rcases List.mem_cons.1 hy with rfl | hy
    · exact ⟨x, List.mem_cons_self, hxy⟩
    · obtain ⟨x', hx', hR⟩ := ih hy
      exact ⟨x', List.mem_cons_of_mem x hx', hR⟩

end Pairs

namespace Eff

variable {σ α : Type} {f : α → Eff σ PUnit} {xs : List α} {s s' : σ} {u : PUnit}

lemma runs_forM_nil : Runs (([] : List α).forM f) s u s' ↔ s' = s := by
  change Runs (pure ⟨⟩) s u s' ↔ _
  rw [runs_pure]
  exact ⟨And.right, fun h => ⟨rfl, h⟩⟩

lemma runs_forM_cons {x : α} :
    Runs ((x :: xs).forM f) s u s' ↔ ∃ t, Runs (f x) s ⟨⟩ t ∧ Runs (xs.forM f) t u s' := by
  change Runs (f x >>= fun _ => xs.forM f) s u s' ↔ _
  rw [runs_bind]
  exact ⟨fun ⟨_, t, h⟩ => ⟨t, h⟩, fun ⟨t, h⟩ => ⟨⟨⟩, t, h⟩⟩

/-- What no turn of a sweep takes away is there at its end. -/
lemma runs_forM_keeps {I : σ → Prop} (hstep : ∀ x ∈ xs, ∀ s t, I s → Runs (f x) s ⟨⟩ t → I t)
    (hs : I s) (h : Runs (xs.forM f) s u s') : I s' := by
  induction xs generalizing s with
  | nil =>
    obtain rfl := runs_forM_nil.1 h
    exact hs
  | cons x xs ih =>
    obtain ⟨t, hx, hxs⟩ := runs_forM_cons.1 h
    have ht := hstep x List.mem_cons_self s t hs hx
    exact ih (fun y hy => hstep y (List.mem_cons_of_mem x hy)) ht hxs

/-- **A sweep settles all**: each turn keeps what the sweep rests on and settles its own thing, and
no other turn unsettles that. -/
lemma runs_forM_settles {I : σ → Prop} {Q : α → σ → Prop}
    (hstep : ∀ x ∈ xs, ∀ s t, I s → Runs (f x) s ⟨⟩ t → I t ∧ Q x t)
    (hkeep : ∀ x ∈ xs, ∀ y ∈ xs, ∀ s t, I s → Q x s → Runs (f y) s ⟨⟩ t → Q x t)
    (hs : I s) (h : Runs (xs.forM f) s u s') : I s' ∧ ∀ x ∈ xs, Q x s' := by
  induction xs generalizing s with
  | nil =>
    obtain rfl := runs_forM_nil.1 h
    exact ⟨hs, by simp⟩
  | cons x xs ih =>
    obtain ⟨t, hx, hxs⟩ := runs_forM_cons.1 h
    obtain ⟨ht, hQ⟩ := hstep x List.mem_cons_self s t hs hx
    have htail : ∀ y ∈ xs, y ∈ x :: xs := fun y hy => List.mem_cons_of_mem x hy
    obtain ⟨hI, hall⟩ := ih (fun y hy => hstep y (htail y hy))
      (fun y hy z hz => hkeep y (htail y hy) z (htail z hz)) ht hxs
    have hfirst : I s' ∧ Q x s' := runs_forM_keeps (I := fun s => I s ∧ Q x s)
      (fun y hy s t hst hrun => ⟨(hstep y (htail y hy) s t hst.1 hrun).1,
        hkeep x List.mem_cons_self y (htail y hy) s t hst.1 hst.2 hrun⟩) ⟨ht, hQ⟩ hxs
    refine ⟨hI, fun y hy => ?_⟩
    rcases List.mem_cons.1 hy with rfl | hy
    · exact hfirst.2
    · exact hall y hy

/-- A sweep that only checks. -/
lemma runs_forM_ensure_iff {p : α → Bool} {e : α → String} :
    Runs (xs.forM fun x => ensure (p x) (e x)) s u s' ↔ (∀ x ∈ xs, p x = true) ∧ s' = s := by
  induction xs generalizing s with
  | nil => simp
  | cons x xs ih =>
    simp only [runs_forM_cons, runs_ensure, ih, List.forall_mem_cons]
    constructor
    · rintro ⟨t, ⟨hx, rfl⟩, hxs, rfl⟩
      exact ⟨⟨hx, hxs⟩, rfl⟩
    · rintro ⟨⟨hx, hxs⟩, rfl⟩
      exact ⟨_, ⟨hx, rfl⟩, hxs, rfl⟩

/-- A sweep in which no turn does anything. -/
lemma runs_forM_self (h : ∀ x ∈ xs, Runs (f x) s ⟨⟩ s) : Runs (xs.forM f) s ⟨⟩ s := by
  induction xs with
  | nil => exact runs_forM_nil.2 rfl
  | cons x xs ih =>
    refine runs_forM_cons.2 ⟨s, h x List.mem_cons_self, ih fun y hy => ?_⟩
    exact h y (List.mem_cons_of_mem x hy)

/-! ### Where a sweep stays -/

section Within

variable {R : σ → σ → Prop} [Frame R]

lemma within_forM (h : ∀ x ∈ xs, ∀ t, Within R (f x) t) : Within R (xs.forM f) s := by
  induction xs generalizing s with
  | nil => exact Frame.refl s
  | cons x xs ih =>
    change Within R (f x >>= fun _ => xs.forM f) s
    refine within_bind (h x List.mem_cons_self s) fun _ t _ => ?_
    exact ih fun y hy => h y (List.mem_cons_of_mem x hy)

lemma within_mapM {β : Type} {g : α → Eff σ β} (h : ∀ x ∈ xs, ∀ t, Within R (g x) t) :
    Within R (xs.mapM g) s := by
  induction xs generalizing s with
  | nil => exact Frame.refl s
  | cons x xs ih =>
    rw [List.mapM_cons]
    refine within_bind (h x List.mem_cons_self s) fun y t _ => ?_
    refine within_bind_pure _ (ih fun y hy => h y (List.mem_cons_of_mem x hy))

lemma within_pure {β : Type} (b : β) : Within R (pure b : Eff σ β) s := Frame.refl s

lemma within_get : Within R (get : Eff σ σ) s := Frame.refl s

lemma within_throw {β : Type} (e : String) : Within R (throw e : Eff σ β) s := Frame.refl s

end Within

/-! ### From another state -/

section Agree

variable {β : Type} {r r' : Except String α × σ}

/-- Two outcomes that are one, or fail with the same text. -/
def Agree (r r' : Except String α × σ) : Prop :=
  r' = r ∨ ∃ e, r.1 = .error e ∧ r'.1 = .error e

/-- What comes after a step that goes the same way goes the same way. -/
lemma agree_bind {m m' : Eff σ α} {f : α → Eff σ β} (h : Agree (exec m s) (exec m' s')) :
    Agree (exec (m >>= f) s) (exec (m' >>= f) s') := by
  rw [exec_bind, exec_bind]
  rcases h with heq | ⟨e, he, he'⟩
  · rw [heq]
    exact Or.inl rfl
  · rcases hm : exec m s with ⟨_ | _, t⟩ <;> rw [hm] at he <;> cases he
    rcases hm' : exec m' s' with ⟨_ | _, t'⟩ <;> rw [hm'] at he' <;> cases he'
    exact Or.inr ⟨e, rfl, rfl⟩

lemma agree_ensure_bind {p : Bool} {e : String} {m m' : PUnit → Eff σ α}
    (h : Agree (exec (m ⟨⟩) s) (exec (m' ⟨⟩) s')) :
    Agree (exec (ensure p e >>= m) s) (exec (ensure p e >>= m') s') := by
  rcases p with _ | _
  · exact Or.inr ⟨e, rfl, rfl⟩
  · exact h

end Agree

/-- What the outcome of a computation leaves, or the error. -/
def settled : Except String α × σ → Except String σ
  | (.ok _, s) => .ok s
  | (.error e, _) => .error e

lemma settled_exec_eq_ok {m : Eff σ PUnit} : settled (exec m s) = .ok s' ↔ Runs m s ⟨⟩ s' := by
  unfold Runs
  rcases exec m s with ⟨e | ⟨⟩, t⟩
  · simp [settled]
  · simp [settled]

lemma Agree.settled_eq {r r' : Except String α × σ} (h : Agree r r') : settled r' = settled r := by
  rcases h with rfl | ⟨e, he, he'⟩
  · rfl
  · obtain ⟨_, t⟩ := r
    obtain ⟨_, t'⟩ := r'
    subst he he'
    rfl

end Eff

end Rsduck.Lib
