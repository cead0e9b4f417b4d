import Rsduck.Lib.TwoRuns

/-!
Computations that work on a part of the state.

A computation is local to a part when it comes to the same from any two states that have that part
in common, leaves the same there, and leaves the rest of either state as it was. What else there may
be in the state is said by a condition on the rest.
-/

namespace Rsduck.Lib

open Eff

/-- What the state answers to a question. -/
def Eff.asks {σ γ : Type} (g : σ → γ) : Eff σ γ := do
  return g (← get)

lemma Eff.runs_asks_bind {σ γ δ : Type} {g : σ → γ} {f : γ → Eff σ δ} {s s' : σ} {b : δ} :
    Runs (asks g >>= f) s b s' ↔ Runs (f (g s)) s b s' := by
  unfold Runs
  rw [exec_bind]
  rfl

/-- A part of a state, what is kept of it, and what the rest must be like to stay out of its way. -/
structure Part (σ α β : Type) where
  own : σ → α
  rest : σ → β
  tidy : α → Prop
  off : β → Prop

namespace Part

variable {σ α β γ δ ι : Type} (p : Part σ α β)

/-- Two states with the part in common, each with its own rest. -/
structure Beside (r r' : β) (s t : σ) : Prop where
  own : p.own s = p.own t
  tidy : p.tidy (p.own s)
  left : p.rest s = r
  right : p.rest t = r'

/-- The computation is local to the part; what it returns has the property. -/
def Local (m : Eff σ γ) (Q : γ → Prop) : Prop :=
  ∀ r r', p.off r → p.off r' → ∀ s t, p.Beside r r' s t →
    Alike (p.Beside r r') m m s t ∧ ∀ a, (exec m s).1 = .ok a → Q a

variable {p} {Q : γ → Prop}

lemma local_fromExcept {x : Except String γ} (h : ∀ a, x = .ok a → Q a) :
    p.Local (fromExcept x) Q := fun r r' _ _ s t hst =>
  ⟨alike_fromExcept hst x, fun a ha => h a (by rwa [exec_fromExcept] at ha)⟩

lemma local_pure {a : γ} (h : Q a) : p.Local (pure a) Q :=
  local_fromExcept (x := .ok a) fun b hb => by
    cases hb
    exact h

lemma local_throw (e : String) : p.Local (throw e : Eff σ γ) Q :=
  local_fromExcept (x := .error e) fun b hb => by cases hb

/-- What both states answer alike may be read. -/
lemma local_asks {g : σ → γ} (hg : ∀ r r', p.off r → p.off r' → ∀ s t, p.Beside r r' s t →
    g s = g t ∧ Q (g s)) : p.Local (asks g) Q := fun r r' hr hr' s t hst => by
  obtain ⟨heq, hq⟩ := hg r r' hr hr' s t hst
  refine ⟨?_, fun a ha => ?_⟩
  · have hs : exec (asks g) s = (.ok (g s), s) := rfl
    have ht : exec (asks g) t = (.ok (g s), t) := by
      rw [heq]
      rfl
    exact alike_of_exec hs ht hst
  · cases ha
    exact hq

lemma local_modify {f : σ → σ} (hf : ∀ r r', p.off r → p.off r' → ∀ s t, p.Beside r r' s t →
    p.Beside r r' (f s) (f t)) : p.Local (modify f) fun _ => True := fun r r' hr hr' s t hst =>
  ⟨alike_of_exec (exec_modify f s) (exec_modify f t) (hf r r' hr hr' s t hst), fun _ _ => trivial⟩

lemma local_bind {m : Eff σ γ} {f : γ → Eff σ δ} {Q' : δ → Prop} (hm : p.Local m Q)
    (hf : ∀ a, Q a → p.Local (f a) Q') : p.Local (m >>= f) Q' := by
  intro r r' hr hr' s t hst
  obtain ⟨⟨hout, hstate⟩, hq⟩ := hm r r' hr hr' s t hst
  rcases hs : exec m s with ⟨x, s'⟩
  rcases ht : exec m t with ⟨y, t'⟩
  rw [hs, ht] at hout hstate
  rw [hs] at hq
  simp only at hout hstate hq
  subst hout
  unfold Alike
  rw [exec_bind, exec_bind, hs, ht]
  rcases x with e | a
  · exact ⟨⟨rfl, hstate⟩, fun _ h => by cases h⟩
  · exact hf a (hq a rfl) r r' hr hr' s' t' hstate

lemma local_ite {c : Prop} [Decidable c] {m n : Eff σ γ} (hm : c → p.Local m Q)
    (hn : ¬ c → p.Local n Q) : p.Local (if c then m else n) Q := by
  by_cases h : c
  · rw [if_pos h]
    exact hm h
  · rw [if_neg h]
    exact hn h

lemma local_mapError {m : Eff σ γ} (f : String → String) (hm : p.Local m Q) :
    p.Local (mapError f m) Q := by
  intro r r' hr hr' s t hst
  obtain ⟨⟨hout, hstate⟩, hq⟩ := hm r r' hr hr' s t hst
  rcases hs : exec m s with ⟨x, s'⟩
  rcases ht : exec m t with ⟨y, t'⟩
  rw [hs, ht] at hout hstate
  rw [hs] at hq
  simp only at hout hstate hq
  subst hout
  unfold Alike
  rw [exec_mapError, exec_mapError, hs, ht]
  rcases x with e | a
  · exact ⟨⟨rfl, hstate⟩, fun _ h => by cases h⟩
  · exact ⟨⟨rfl, hstate⟩, fun b hb => hq b hb⟩

lemma local_forM {xs : List ι} {f : ι → Eff σ PUnit} (hf : ∀ x ∈ xs, p.Local (f x) fun _ => True) :
    p.Local (xs.forM f) fun _ => True := by
  induction xs with
  | nil => exact local_pure trivial
  | cons x xs ih =>
    change p.Local (f x >>= fun _ => xs.forM f) _
    exact local_bind (hf x List.mem_cons_self) fun _ _ =>
      ih fun y hy => hf y (List.mem_cons_of_mem _ hy)

/-- **A local computation**: one outcome, one result in the part, and nothing beside it. -/
theorem Local.run {m : Eff σ γ} (hm : p.Local m Q) {s t : σ} (hown : p.own s = p.own t)
    (htidy : p.tidy (p.own s)) (hs : p.off (p.rest s)) (ht : p.off (p.rest t)) :
    (exec m s).1 = (exec m t).1 ∧ p.own (exec m s).2 = p.own (exec m t).2 ∧
      p.tidy (p.own (exec m s).2) ∧ p.rest (exec m s).2 = p.rest s := by
  obtain ⟨⟨hout, hstate⟩, -⟩ := hm _ _ hs ht s t ⟨hown, htidy, rfl, rfl⟩
  exact ⟨hout, hstate.own, hstate.tidy, hstate.left⟩

end Part

end Rsduck.Lib
