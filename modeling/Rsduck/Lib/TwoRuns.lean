import Rsduck.Lib.Session

/-!
Two runs side by side.

Two computations are alike from two states when they come to one outcome and leave states
that are still related. What may differ between the states is what the relation hides.
-/

namespace Rsduck.Lib.Eff

variable {σ τ α β ι : Type}

/-- The two runs have one outcome and leave related states. -/
def Alike (L : σ → τ → Prop) (m : Eff σ α) (n : Eff τ α) (s : σ) (t : τ) : Prop :=
  (exec m s).1 = (exec n t).1 ∧ L (exec m s).2 (exec n t).2

section Alike

variable {L : σ → τ → Prop} {s : σ} {t : τ}

lemma alike_of_exec {m : Eff σ α} {n : Eff τ α} {r : Except String α} {s' : σ} {t' : τ}
    (hm : exec m s = (r, s')) (hn : exec n t = (r, t')) (h : L s' t') : Alike L m n s t := by
  unfold Alike
  rw [hm, hn]
  exact ⟨rfl, h⟩

lemma alike_fromExcept (h : L s t) (x : Except String α) :
    Alike L (fromExcept x) (fromExcept x) s t :=
  alike_of_exec (exec_fromExcept x s) (exec_fromExcept x t) h

lemma alike_pure (h : L s t) (a : α) : Alike L (pure a) (pure a) s t := alike_fromExcept h (.ok a)

lemma alike_throw (h : L s t) (e : String) :
    Alike L (throw e : Eff σ α) (throw e : Eff τ α) s t := alike_fromExcept h (.error e)

lemma alike_bind {m : Eff σ α} {n : Eff τ α} {f : α → Eff σ β} {g : α → Eff τ β}
    (hm : Alike L m n s t)
    (hf : ∀ a s' t', L s' t' → Alike L (f a) (g a) s' t') :
    Alike L (m >>= f) (n >>= g) s t := by
  obtain ⟨hout, hstate⟩ := hm
  rcases h : exec m s with ⟨r, s'⟩
  rcases h' : exec n t with ⟨r', t'⟩
  rw [h, h'] at hout hstate
  simp only at hout hstate
  subst hout
  unfold Alike
  rw [exec_bind, exec_bind, h, h']
  rcases r with e | a
  · exact ⟨rfl, hstate⟩
  · exact hf a s' t' hstate

lemma alike_ite {c : Prop} [Decidable c] {m m' : Eff σ α} {n n' : Eff τ α}
    (hm : Alike L m n s t) (hm' : Alike L m' n' s t) :
    Alike L (if c then m else m') (if c then n else n') s t := by
  by_cases h : c
  · simpa only [h, if_true] using hm
  · simpa only [h, if_false] using hm'

/-- The items one after the other, where each is alike from related states. -/
lemma alike_foldlM {f : β → ι → Eff σ β} {g : β → ι → Eff τ β} {xs : List ι}
    (hf : ∀ x ∈ xs, ∀ b s t, L s t → Alike L (f b x) (g b x) s t) (b : β) (h : L s t) :
    Alike L (xs.foldlM f b) (xs.foldlM g b) s t := by
  induction xs generalizing b s t with
  | nil => exact alike_pure h b
  | cons x xs ih =>
    rw [List.foldlM_cons, List.foldlM_cons]
    exact alike_bind (hf x List.mem_cons_self b s t h) fun b' s' t' h' =>
      ih (fun y hy => hf y (List.mem_cons_of_mem _ hy)) b' h'

end Alike

end Rsduck.Lib.Eff

namespace Rsduck.Lib.Session

open Eff

variable {σ α β : Type}

/-- The outcomes of two transactions are the same to a view of the results, where those of the
computations are and the engine commits both or neither. -/
lemma outcome_transact {E : Engine σ} {m n : Eff σ α} {f : α → β} {s t : Session σ}
    (hopen : s.saved.isSome = t.saved.isSome)
    (h : (exec m s.now).1.map f = (exec n t.now).1.map f)
    (hrefuse : E.refuse (exec m s.now).2 = E.refuse (exec n t.now).2) :
    (exec (transact E m) s).1.map f = (exec (transact E n) t).1.map f := by
  obtain ⟨now, saved⟩ := s
  obtain ⟨now', saved'⟩ := t
  rcases saved with _ | d <;> rcases saved' with _ | d'
  · rcases hm : exec m now with ⟨r, u⟩
    rcases hn : exec n now' with ⟨r', u'⟩
    rw [hm, hn] at h hrefuse
    simp only [exec] at hm hn
    simp only at h hrefuse
    rcases r with e | a <;> rcases r' with e' | a'
    · simpa [exec, transact, hm, hn] using h
    · cases h
    · cases h
    · rcases hr : E.refuse u with _ | e
      · simpa [exec, transact, hm, hn, hr, ← hrefuse] using h
      · simp [exec, transact, hm, hn, hr, ← hrefuse]
  · cases hopen
  · cases hopen
  · rfl

end Rsduck.Lib.Session
