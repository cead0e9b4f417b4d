import Rsduck.Lib.Effect

/-!
Transactions on one connection.

A session holds the state its statements see and, while a transaction is open, the state
that transaction started from. `transact` is the bracket a program puts around a
computation: begin, run, then commit a success and roll back a failure.
-/

namespace Rsduck.Lib

/-- What a connection sees, and where its open transaction started. -/
structure Session (σ : Type) where
  now : σ
  saved : Option σ

namespace Session

open Eff

variable {σ α β : Type}

/-- The state other connections see: the one an open transaction has not replaced yet. -/
def committed (s : Session σ) : σ := s.saved.getD s.now

/-- Texts and behaviour of the engine's transaction statements. -/
structure Engine (σ : Type) where
  beginError : String
  commitError : String
  /-- The engine may refuse a commit; it has then rolled the transaction back. -/
  refuse : σ → Option String

/-- Begin, run, commit; a failure of the computation or of the commit rolls back. -/
def transact (E : Engine σ) (m : Eff σ α) : Eff (Session σ) α := fun s =>
  match s.saved with
  | some _ => (.error (E.beginError ++ "cannot start a transaction within a transaction"), s)
  | none =>
    match exec m s.now with
    | (.ok a, t) =>
      match E.refuse t with
      | none => (.ok a, { s with now := t })
      | some e => (.error (E.commitError ++ e), s)
    | (.error e, _) => (.error e, s)

/-- One statement on its own: it takes effect as a whole or not at all. -/
def statement (m : Eff σ α) : Eff (Session σ) α := fun s =>
  match exec m s.now with
  | (.ok a, t) => (.ok a, { s with now := t })
  | (.error e, _) => (.error e, s)

/-- **A transaction is all or nothing**: either nothing changed, or the computation ran to
its end outside any other transaction and its final state is in place. -/
lemma exec_transact (E : Engine σ) (m : Eff σ α) (s : Session σ) :
    (∃ e, exec (transact E m) s = (.error e, s)) ∨
      ∃ a t, s.saved = none ∧ Runs m s.now a t ∧
        exec (transact E m) s = (.ok a, { s with now := t }) := by
  obtain ⟨now, saved⟩ := s
  rcases saved with _ | d
  · rcases h : exec m now with ⟨_ | a, t⟩
    · exact Or.inl ⟨_, by simp [exec, transact] at h ⊢; rw [h]⟩
    · rcases hr : E.refuse t with _ | e
      · exact Or.inr ⟨a, t, rfl, h, by simp [exec, transact] at h ⊢; simp [h, hr]⟩
      · exact Or.inl ⟨E.commitError ++ e, by simp [exec, transact] at h ⊢; simp [h, hr]⟩
  · exact Or.inl ⟨_, rfl⟩

lemma runs_transact {E : Engine σ} {m : Eff σ α} {s s' : Session σ} {a : α} :
    Runs (transact E m) s a s' ↔
      s.saved = none ∧ s'.saved = none ∧ Runs m s.now a s'.now ∧ E.refuse s'.now = none := by
  obtain ⟨now, saved⟩ := s
  obtain ⟨now', saved'⟩ := s'
  rcases saved with _ | d
  · rcases h : exec m now with ⟨_ | b, t⟩
    · simp [Runs, exec, transact] at h ⊢
      simp [h]
    · rcases hr : E.refuse t with _ | e
      · simp only [Runs, exec, transact] at h ⊢
        simp only [h, hr, Prod.mk.injEq, Except.ok.injEq, mk.injEq]
        constructor
        · rintro ⟨rfl, rfl, rfl⟩
          exact ⟨trivial, rfl, ⟨rfl, rfl⟩, hr⟩
        · rintro ⟨-, rfl, ⟨rfl, rfl⟩, -⟩
          exact ⟨rfl, rfl, rfl⟩
      · simp only [Runs, exec, transact] at h ⊢
        simp only [h, hr, Prod.mk.injEq, reduceCtorEq, false_and, Except.ok.injEq, false_iff]
        rintro ⟨-, -, ⟨-, rfl⟩, h'⟩
        simp [hr] at h'
  · simp [Runs, exec, transact]

lemma exec_transact_ok {E : Engine σ} {m : Eff σ α} {s : Session σ} {a : α} {t : σ}
    (hs : s.saved = none) (hm : Runs m s.now a t) (hr : E.refuse t = none) :
    exec (transact E m) s = (.ok a, { s with now := t }) := by
  have h : Runs (transact E m) s a { s with now := t } := runs_transact.2 ⟨hs, hs, hm, hr⟩
  exact h

lemma exec_transact_error {E : Engine σ} {m : Eff σ α} {s : Session σ} {e : String} {t : σ}
    (hm : exec m s.now = (.error e, t)) : (exec (transact E m) s).2 = s := by
  rcases exec_transact E m s with ⟨e', h⟩ | ⟨a, t', -, h, -⟩
  · rw [h]
  · rw [Runs, hm] at h
    simp at h

lemma exec_statement (m : Eff σ α) (s : Session σ) :
    (∃ e, exec (statement m) s = (.error e, s)) ∨
      ∃ a t, Runs m s.now a t ∧ exec (statement m) s = (.ok a, { s with now := t }) := by
  rcases h : exec m s.now with ⟨_ | a, t⟩
  · exact Or.inl ⟨_, by simp [exec, statement] at h ⊢; rw [h]⟩
  · exact Or.inr ⟨a, t, h, by simp [exec, statement] at h ⊢; rw [h]⟩

lemma exec_statement_ok {m : Eff σ α} {s : Session σ} {a : α} {t : σ} (hm : Runs m s.now a t) :
    exec (statement m) s = (.ok a, { s with now := t }) := by
  simp only [Runs, exec] at hm
  simp [exec, statement, hm]

/-! ### Computations that may unwind -/

/-- A computation with the states from which it unwinds instead of returning: the state it had
reached by then, and what it was stopped with. -/
structure Body (σ α : Type) where
  run : Eff σ α
  unwinds : σ → Option (σ × String) := fun _ => none

/-- The bracket around such a computation: unwinding passes it by, so the transaction is left
open where the computation stopped. -/
def bracket (E : Engine σ) (b : Body σ α) : Eff (Session σ) α := fun s =>
  match s.saved, b.unwinds s.now with
  | none, some (t, e) => (.error e, ⟨t, some s.now⟩)
  | _, _ => transact E b.run s

/-- A transaction that does not unwind is all or nothing. -/
lemma exec_bracket (E : Engine σ) (b : Body σ α) (s : Session σ) :
    (∃ e, exec (bracket E b) s = (.error e, s)) ∨
      (∃ a t, s.saved = none ∧ Runs b.run s.now a t ∧
        exec (bracket E b) s = (.ok a, { s with now := t })) ∨
      ∃ t e, s.saved = none ∧ b.unwinds s.now = some (t, e) ∧
        exec (bracket E b) s = (.error e, ⟨t, some s.now⟩) := by
  have htransact := exec_transact E b.run s
  obtain ⟨now, saved⟩ := s
  rcases saved with _ | d
  · rcases hu : b.unwinds now with _ | ⟨t, e⟩
    · have h : exec (bracket E b) ⟨now, none⟩ = exec (transact E b.run) ⟨now, none⟩ := by
        simp [exec, bracket, hu]
      rw [h]
      rcases htransact with h | h
      · exact Or.inl h
      · exact Or.inr (Or.inl h)
    · exact Or.inr (Or.inr ⟨t, e, rfl, rfl, by simp [exec, bracket, hu]⟩)
  · exact Or.inl ⟨_, rfl⟩

/-! ### Ending between transactions -/

/-- As far as the session goes, the computation ends outside any transaction, and a failure
changed nothing. The session is seen as a part of the computation's state. -/
def Settles {τ : Type} (view : τ → Session σ) (m : Eff τ α) (s : τ) : Prop :=
  (view (exec m s).2).saved = none ∧
    ∀ e, (exec m s).1 = .error e → view (exec m s).2 = view s

section Settles

variable {τ : Type} {view : τ → Session σ} {s : τ}

lemma settles_fromExcept (hs : (view s).saved = none) (x : Except String α) :
    Settles view (fromExcept x) s := by
  unfold Settles
  rw [exec_fromExcept]
  exact ⟨hs, fun _ _ => rfl⟩

/-- A part that changes nothing is passed over. -/
lemma settles_bind_of_unchanged {m : Eff τ α} {f : α → Eff τ β} (hs : (view s).saved = none)
    (hm : (exec m s).2 = s) (hf : ∀ a, Runs m s a s → Settles view (f a) s) :
    Settles view (m >>= f) s := by
  unfold Settles
  rw [exec_bind]
  rcases h : exec m s with ⟨e | a, t⟩
  · rw [h] at hm
    simp only at hm
    subst hm
    exact ⟨hs, fun _ _ => rfl⟩
  · rw [h] at hm
    simp only at hm
    subst hm
    exact hf a h

/-- What is made of the result does not matter. -/
lemma settles_bind_pure {m : Eff τ α} (g : α → β) (hm : Settles view m s) :
    Settles view (m >>= fun a => pure (g a)) s := by
  unfold Settles at hm ⊢
  rw [exec_bind]
  rcases h : exec m s with ⟨e | a, t⟩
  · rw [h] at hm
    exact ⟨hm.1, fun _ _ => hm.2 e rfl⟩
  · rw [h] at hm
    exact ⟨hm.1, fun _ he => by simp at he⟩

end Settles

lemma settles_transact (E : Engine σ) (m : Eff σ α) {s : Session σ} (hs : s.saved = none) :
    Settles id (transact E m) s := by
  unfold Settles
  rcases exec_transact E m s with ⟨e, h⟩ | ⟨a, t, -, -, h⟩
  · rw [h]
    exact ⟨hs, fun _ _ => rfl⟩
  · rw [h]
    exact ⟨hs, fun _ he => by simp at he⟩

lemma settles_statement (m : Eff σ α) {s : Session σ} (hs : s.saved = none) :
    Settles id (statement m) s := by
  unfold Settles
  rcases exec_statement m s with ⟨e, h⟩ | ⟨a, t, -, h⟩
  · rw [h]
    exact ⟨hs, fun _ _ => rfl⟩
  · rw [h]
    exact ⟨hs, fun _ he => by simp at he⟩

/-- A bracket settles unless its computation unwinds. -/
lemma settles_bracket (E : Engine σ) (b : Body σ α) {s : Session σ} (hs : s.saved = none)
    (hb : b.unwinds s.now = none) : Settles id (bracket E b) s := by
  unfold Settles
  rcases exec_bracket E b s with ⟨e, h⟩ | ⟨a, t, -, -, h⟩ | ⟨t, e, -, h, -⟩
  · rw [h]
    exact ⟨hs, fun _ _ => rfl⟩
  · rw [h]
    exact ⟨hs, fun _ he => by simp at he⟩
  · rw [hb] at h
    cases h

end Session

end Rsduck.Lib
