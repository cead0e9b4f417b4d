import Mathlib.Data.Fintype.Basic
import Mathlib.Logic.Function.Basic
import Mathlib.Tactic.FinCases
import Rsduck.Lib.Run

/-!
The lock that keeps two processes from the same directory.

It is an exclusive lock on a guard file next to the lock's path; the file at the path itself only
says who holds it. A process that is done removes both files, the guard after its lock on it is
released.
-/

namespace Rsduck.ProcessLock

open Lib

/-- Where a process is in `acquire` or `drop`, with the guard file that it has open, and the
metadata file while it writes that. -/
inductive Stage
  | idle
  | opened (guard : ℕ)
  | locked (guard : ℕ)
  | truncated (guard metadata : ℕ)
  | recorded (guard : ℕ)
  | held (guard : ℕ)
  | withdrawn (guard : ℕ)
  | unlocked

namespace Stage

/-- The guard file that a process has open. -/
def guard : Stage → Option ℕ
  | idle | unlocked => none
  | opened n | locked n | truncated n _ | recorded n | held n | withdrawn n => some n

/-- The guard file that a process has locked. -/
def locks : Stage → Option ℕ
  | idle | unlocked | opened _ => none
  | locked n | truncated n _ | recorded n | held n | withdrawn n => some n

/-- Its payload is in the metadata file. -/
def isRecorded : Stage → Bool
  | recorded _ | held _ => true
  | idle | unlocked | opened _ | locked _ | truncated _ _ | withdrawn _ => false

lemma locks_of_recorded {a : Stage} (h : a.isRecorded = true) : ∃ n, a.locks = some n := by
  cases a <;> simp_all [locks, isRecorded]

lemma guard_of_locks {a : Stage} {n : ℕ} (h : a.locks = some n) : a.guard = some n := by
  cases a <;> simp_all [locks, guard]

end Stage

/-- The files at the two paths, and the processes. Files go by numbers, the next new one last; of a
file's text only the payloads count that were written since it was truncated. -/
structure State (ι : Type) where
  guardPath : Option ℕ
  metadataPath : Option ℕ
  payloads : ℕ → List ι
  lock : ℕ → Option ι
  nextFile : ℕ
  stage : ι → Stage

/-- The calls of the operating system that `acquire` and `drop` make, one after the other. -/
inductive Event (ι : Type)
  | openGuard (p : ι)
  | tryLock (p : ι)
  | openMetadata (p : ι)
  | writePayload (p : ι)
  | writeGuard (p : ι)
  /-- `drop` goes on where a removal fails -/
  | removeMetadata (p : ι) (done : Bool)
  | unlock (p : ι)
  | removeGuard (p : ι) (done : Bool)
  /-- a call fails, or the process ends: its files are closed -/
  | close (p : ι)

variable {ι : Type} [DecidableEq ι]

namespace State

def goTo (s : State ι) (p : ι) (a : Stage) : State ι :=
  { s with stage := Function.update s.stage p a }

/-- The kernel gives up the lock that a process has on a file. -/
def release (s : State ι) (p : ι) : State ι :=
  match (s.stage p).locks with
  | some n => { s with lock := Function.update s.lock n none }
  | none => s

/-- A file is made for a path that has none. -/
def create (s : State ι) : ℕ × State ι := (s.nextFile, { s with nextFile := s.nextFile + 1 })

def step (s : State ι) : Event ι → Option (State ι)
  | .openGuard p =>
    match s.stage p, s.guardPath with
    | .idle, some n => some (s.goTo p (.opened n))
    | .idle, none =>
      let (n, s) := s.create
      some ({ s with guardPath := some n }.goTo p (.opened n))
    | _, _ => none
  | .tryLock p =>
    match s.stage p with
    | .opened n =>
      match s.lock n with
      | none => some ({ s with lock := Function.update s.lock n (some p) }.goTo p (.locked n))
      -- the process lock is held
      | some _ => some (s.goTo p .idle)
    | _ => none
  | .openMetadata p =>
    match s.stage p, s.metadataPath with
    | .locked n, some m =>
      some ({ s with payloads := Function.update s.payloads m [] }.goTo p (.truncated n m))
    | .locked n, none =>
      let (m, s) := s.create
      some ({ s with metadataPath := some m, payloads := Function.update s.payloads m [] }.goTo p
        (.truncated n m))
    | _, _ => none
  | .writePayload p =>
    match s.stage p with
    | .truncated n m =>
      some ({ s with payloads := Function.update s.payloads m (s.payloads m ++ [p]) }.goTo p
        (.recorded n))
    | _ => none
  | .writeGuard p =>
    match s.stage p with
    | .recorded n => some (s.goTo p (.held n))
    | _ => none
  | .removeMetadata p done =>
    match s.stage p with
    | .held n =>
      some ({ s with metadataPath := if done then none else s.metadataPath }.goTo p (.withdrawn n))
    | _ => none
  | .unlock p =>
    match s.stage p with
    | .withdrawn _ => some ((s.release p).goTo p .unlocked)
    | _ => none
  | .removeGuard p done =>
    match s.stage p with
    | .unlocked => some ({ s with guardPath := if done then none else s.guardPath }.goTo p .idle)
    | _ => none
  | .close p =>
    match s.stage p with
    | .idle => none
    | _ => some ((s.release p).goTo p .idle)

end State

variable (ι) in
def system : System (State ι) (Event ι) := ⟨State.step⟩

/-- No process runs; the files of earlier ones may be there. -/
structure Initial (s : State ι) : Prop where
  idle : ∀ p, s.stage p = .idle
  unlocked : ∀ n, s.lock n = none

/-- `acquire` has returned to a process, which has not dropped the lock. -/
def Holds (s : State ι) (p : ι) : Prop := ∃ n, s.stage p = .held n

/-- The metadata file holds the payload of a process and nothing else. -/
def Names (s : State ι) (p : ι) : Prop := ∃ m, s.metadataPath = some m ∧ s.payloads m = [p]

/-- No process has the guard file open when another one removes it from its path. -/
def RemovesUnused (s : State ι) : Event ι → Prop
  | .removeGuard _ true => ∀ n, s.guardPath = some n → ∀ q, (s.stage q).guard ≠ some n
  | _ => True

/-! ### Whose the locks are -/

/-- A file is locked by the process that is between taking its lock and giving it up. -/
def Owned (s : State ι) : Prop := ∀ n p, s.lock n = some p ↔ (s.stage p).locks = some n

namespace State

variable {s t : State ι} {p : ι} {a : Stage}

@[simp] lemma stage_goTo_self : (s.goTo p a).stage p = a := Function.update_self ..

lemma stage_goTo_of_ne {q : ι} (h : q ≠ p) : (s.goTo p a).stage q = s.stage q :=
  Function.update_of_ne h ..

@[simp] lemma lock_goTo : (s.goTo p a).lock = s.lock := rfl
@[simp] lemma guardPath_goTo : (s.goTo p a).guardPath = s.guardPath := rfl
@[simp] lemma metadataPath_goTo : (s.goTo p a).metadataPath = s.metadataPath := rfl
@[simp] lemma payloads_goTo : (s.goTo p a).payloads = s.payloads := rfl

omit [DecidableEq ι] in
@[simp] lemma stage_release : (s.release p).stage = s.stage := by
  unfold release
  split <;> rfl

omit [DecidableEq ι] in
@[simp] lemma guardPath_release : (s.release p).guardPath = s.guardPath := by
  unfold release
  split <;> rfl

omit [DecidableEq ι] in
@[simp] lemma metadataPath_release : (s.release p).metadataPath = s.metadataPath := by
  unfold release
  split <;> rfl

omit [DecidableEq ι] in
@[simp] lemma payloads_release : (s.release p).payloads = s.payloads := by
  unfold release
  split <;> rfl

/-- A process that moves on without taking a lock or giving one up. -/
lemma owned_goTo (hs : Owned s) (hlock : t.lock = s.lock) (hstage : t.stage = s.stage)
    (ha : a.locks = (s.stage p).locks) : Owned (t.goTo p a) := by
  intro n q
  rw [lock_goTo, hlock, hs n q]
  by_cases hq : q = p
  · subst hq
    rw [stage_goTo_self, ha]
  · rw [stage_goTo_of_ne hq, hstage]

lemma owned_release (hs : Owned s) (ha : a.locks = none) : Owned ((s.release p).goTo p a) := by
  intro n q
  have hlock : (s.release p).lock n = some q ↔ q ≠ p ∧ s.lock n = some q := by
    unfold release
    rcases hp : (s.stage p).locks with _ | m
    · refine ⟨fun h => ⟨?_, h⟩, And.right⟩
      rintro rfl
      rw [(hs n q).1 h] at hp
      cases hp
    · by_cases hnm : n = m
      · subst hnm
        have howner := (hs n p).2 hp
        show Function.update s.lock n none n = some q ↔ _
        simp [howner, eq_comm]
      · show Function.update s.lock m none n = some q ↔ _
        rw [Function.update_of_ne hnm]
        refine ⟨fun h => ⟨?_, h⟩, And.right⟩
        rintro rfl
        exact hnm (Option.some.inj (((hs n q).1 h).symm.trans hp))
  rw [lock_goTo, hlock, hs n q]
  by_cases hq : q = p
  · subst hq
    simp [ha]
  · rw [stage_goTo_of_ne hq, stage_release]
    simp [hq]

/-- Taking the lock of a file that nobody has locked. -/
lemma owned_lock {n : ℕ} (hs : Owned s) (hp : s.stage p = .opened n) (hn : s.lock n = none) :
    Owned ({ s with lock := Function.update s.lock n (some p) }.goTo p (.locked n)) := by
  intro m q
  rw [lock_goTo]
  by_cases hm : m = n
  · subst hm
    show Function.update s.lock m (some p) m = some q ↔ _
    rw [Function.update_self]
    by_cases hq : q = p
    · subst hq
      simp [Stage.locks]
    · rw [stage_goTo_of_ne hq, ← hs m q, hn]
      simp [Ne.symm hq]
  · show Function.update s.lock n (some p) m = some q ↔ _
    rw [Function.update_of_ne hm, hs m q]
    by_cases hq : q = p
    · subst hq
      simp [hp, Stage.locks, Ne.symm hm]
    · rw [stage_goTo_of_ne hq]

end State

open State

lemma owned_step {s t : State ι} {e : Event ι} (hs : Owned s) (h : s.step e = some t) : Owned t := by
  cases e with
  | openGuard p =>
    simp only [State.step] at h
    split at h
    · cases h
      exact owned_goTo hs rfl rfl (by simp [Stage.locks, *])
    · cases h
      exact owned_goTo hs rfl rfl (by simp [Stage.locks, *])
    · cases h
  | tryLock p =>
    simp only [State.step] at h
    split at h
    · rename_i n hp
      split at h
      · cases h
        exact owned_lock hs hp ‹_›
      · cases h
        exact owned_goTo hs rfl rfl (by simp [Stage.locks, hp])
    · cases h
  | openMetadata p =>
    simp only [State.step] at h
    split at h
    · cases h
      exact owned_goTo hs rfl rfl (by simp [Stage.locks, *])
    · cases h
      exact owned_goTo hs rfl rfl (by simp [Stage.locks, *])
    · cases h
  | writePayload p =>
    simp only [State.step] at h
    split at h
    · cases h
      exact owned_goTo hs rfl rfl (by simp [Stage.locks, *])
    · cases h
  | writeGuard p =>
    simp only [State.step] at h
    split at h
    · cases h
      exact owned_goTo hs rfl rfl (by simp [Stage.locks, *])
    · cases h
  | removeMetadata p done =>
    simp only [State.step] at h
    split at h
    · cases h
      exact owned_goTo hs rfl rfl (by simp [Stage.locks, *])
    · cases h
  | unlock p =>
    simp only [State.step] at h
    split at h
    · cases h
      exact owned_release hs rfl
    · cases h
  | removeGuard p done =>
    simp only [State.step] at h
    split at h
    · cases h
      exact owned_goTo hs rfl rfl (by simp [Stage.locks, *])
    · cases h
  | close p =>
    simp only [State.step] at h
    split at h
    · cases h
    · cases h
      exact owned_release hs rfl

/-! ### Runs that remove no guard in use -/

/-- Every open guard file is the one at the path, and the metadata file is its locker's. -/
structure Orderly (s : State ι) : Prop where
  owned : Owned s
  shared : ∀ p n, (s.stage p).guard = some n → s.guardPath = some n
  emptied : ∀ p n m, s.stage p = .truncated n m → s.metadataPath = some m ∧ s.payloads m = []
  named : ∀ p, (s.stage p).isRecorded = true → Names s p

namespace Orderly

variable {s t : State ι} {p q : ι} {a : Stage}

omit [DecidableEq ι] in
/-- Two processes with locks have locked the file at the path. -/
lemma eq_of_locks (hs : Orderly s) {m n : ℕ} (hp : (s.stage p).locks = some m)
    (hq : (s.stage q).locks = some n) : p = q := by
  have hm := hs.shared p m (Stage.guard_of_locks hp)
  have hn := hs.shared q n (Stage.guard_of_locks hq)
  obtain rfl : m = n := Option.some.inj (hm.symm.trans hn)
  exact Option.some.inj (((hs.owned m p).2 hp).symm.trans ((hs.owned m q).2 hq))

/-- A process moves on, and what the others have is left alone. -/
lemma goTo (hs : Orderly s) (howned : Owned (t.goTo p a)) (hstage : t.stage = s.stage)
    (hpath : ∀ q n, q ≠ p → (s.stage q).guard = some n → t.guardPath = some n)
    (hself : ∀ n, a.guard = some n → t.guardPath = some n)
    (hfiles : ∀ q n, q ≠ p → (s.stage q).locks = some n →
      t.metadataPath = s.metadataPath ∧ t.payloads = s.payloads)
    (hemptied : ∀ n m, a = .truncated n m → t.metadataPath = some m ∧ t.payloads m = [])
    (hnamed : a.isRecorded = true → Names t p) : Orderly (t.goTo p a) := by
  have hstages : ∀ q, q = p ∧ (t.goTo p a).stage q = a ∨
      q ≠ p ∧ (t.goTo p a).stage q = s.stage q := fun q => by
    by_cases hq : q = p
    · subst hq
      exact Or.inl ⟨rfl, stage_goTo_self⟩
    · exact Or.inr ⟨hq, by rw [stage_goTo_of_ne hq, hstage]⟩
  refine ⟨howned, fun q n hq => ?_, fun q n m hq => ?_, fun q hq => ?_⟩
  · rcases hstages q with ⟨rfl, hstage⟩ | ⟨hqp, hstage⟩ <;> rw [hstage] at hq
    · exact hself n hq
    · exact hpath q n hqp hq
  · rcases hstages q with ⟨rfl, hstage⟩ | ⟨hqp, hstage⟩ <;> rw [hstage] at hq
    · exact hemptied n m hq
    · obtain ⟨hmeta, hpays⟩ := hfiles q n hqp (by rw [hq]; rfl)
      rw [metadataPath_goTo, payloads_goTo, hmeta, hpays]
      exact hs.emptied q n m hq
  · rcases hstages q with ⟨rfl, hstage⟩ | ⟨hqp, hstage⟩ <;> rw [hstage] at hq
    · exact hnamed hq
    · obtain ⟨m, hm, hpay⟩ := hs.named q hq
      obtain ⟨n, hn⟩ := Stage.locks_of_recorded hq
      obtain ⟨hmeta, hpays⟩ := hfiles q n hqp hn
      exact ⟨m, hmeta.trans hm, by rw [payloads_goTo, hpays, hpay]⟩

/-- A process moves on without touching a file. -/
lemma moves (hs : Orderly s) (howned : Owned (t.goTo p a)) (hstage : t.stage = s.stage)
    (hpath : t.guardPath = s.guardPath) (hmeta : t.metadataPath = s.metadataPath)
    (hpays : t.payloads = s.payloads) (hguard : ∀ n, a.guard = some n → (s.stage p).guard = some n)
    (hemptied : ∀ n m, a ≠ .truncated n m)
    (hnamed : a.isRecorded = true → (s.stage p).isRecorded = true) : Orderly (t.goTo p a) := by
  refine hs.goTo howned hstage (fun q n _ hq => ?_) (fun n ha => ?_) (fun _ _ _ _ => ⟨hmeta, hpays⟩)
    (fun n m ha => absurd ha (hemptied n m)) fun ha => ?_
  · rw [hpath]
    exact hs.shared q n hq
  · rw [hpath]
    exact hs.shared p n (hguard n ha)
  · obtain ⟨m, hm, hpay⟩ := hs.named p (hnamed ha)
    exact ⟨m, hmeta.trans hm, by rw [hpays, hpay]⟩

end Orderly

lemma orderly_step {s t : State ι} {e : Event ι} (hs : Orderly s) (hok : RemovesUnused s e)
    (h : s.step e = some t) : Orderly t := by
  have howned := owned_step hs.owned h
  cases e with
  | openGuard p =>
    simp only [State.step] at h
    split at h
    · rename_i n hp hpath
      cases h
      refine hs.goTo howned rfl (fun q m _ hq => hs.shared q m hq) (fun m hm => ?_)
        (fun _ _ _ _ => ⟨rfl, rfl⟩) (fun _ _ hm => by cases hm) fun ha => by cases ha
      cases hm
      exact hpath
    · rename_i hp hpath
      cases h
      refine hs.goTo howned rfl (fun q m _ hq => ?_) (fun m hm => hm) (fun _ _ _ _ => ⟨rfl, rfl⟩)
        (fun _ _ hm => by cases hm) fun ha => by cases ha
      rw [hs.shared q m hq] at hpath
      cases hpath
    · cases h
  | tryLock p =>
    simp only [State.step] at h
    split at h
    · rename_i n hp
      split at h
      · cases h
        exact hs.moves howned rfl rfl rfl rfl (fun m hm => by rw [hp]; exact hm)
          (fun _ _ hm => by cases hm) fun ha => by cases ha
      · cases h
        exact hs.moves howned rfl rfl rfl rfl (fun m hm => by cases hm)
          (fun _ _ hm => by cases hm) fun ha => by cases ha
    · cases h
  | openMetadata p =>
    simp only [State.step] at h
    split at h
    · rename_i n m hp hmeta
      cases h
      have hlocks : (s.stage p).locks = some n := by rw [hp]; rfl
      refine hs.goTo howned rfl (fun q k _ hq => hs.shared q k hq) (fun k hk => ?_)
        (fun q k hqp hq => absurd (hs.eq_of_locks hq hlocks) hqp) (fun k l hk => ?_)
        fun ha => by cases ha
      · exact hs.shared p k (by rw [hp]; exact hk)
      · cases hk
        exact ⟨hmeta, Function.update_self ..⟩
    · rename_i n hp hmeta
      cases h
      have hlocks : (s.stage p).locks = some n := by rw [hp]; rfl
      refine hs.goTo howned rfl (fun q k _ hq => hs.shared q k hq) (fun k hk => ?_)
        (fun q k hqp hq => absurd (hs.eq_of_locks hq hlocks) hqp) (fun k l hk => ?_)
        fun ha => by cases ha
      · exact hs.shared p k (by rw [hp]; exact hk)
      · cases hk
        exact ⟨rfl, Function.update_self ..⟩
    · cases h
  | writePayload p =>
    simp only [State.step] at h
    split at h
    · rename_i n m hp
      cases h
      have hlocks : (s.stage p).locks = some n := by rw [hp]; rfl
      obtain ⟨hmeta, hpay⟩ := hs.emptied p n m hp
      refine hs.goTo howned rfl (fun q k _ hq => hs.shared q k hq) (fun k hk => ?_)
        (fun q k hqp hq => absurd (hs.eq_of_locks hq hlocks) hqp) (fun k l hk => by cases hk)
        fun _ => ⟨m, hmeta, ?_⟩
      · exact hs.shared p k (by rw [hp]; exact hk)
      · show Function.update s.payloads m (s.payloads m ++ [p]) m = [p]
        rw [Function.update_self, hpay]
        rfl
    · cases h
  | writeGuard p =>
    simp only [State.step] at h
    split at h
    · rename_i n hp
      cases h
      refine hs.moves howned rfl rfl rfl rfl (fun m hm => by rw [hp]; exact hm)
        (fun _ _ hm => by cases hm) fun _ => ?_
      rw [hp]
      rfl
    · cases h
  | removeMetadata p done =>
    simp only [State.step] at h
    split at h
    · rename_i n hp
      cases h
      have hlocks : (s.stage p).locks = some n := by rw [hp]; rfl
      refine hs.goTo howned rfl (fun q k _ hq => hs.shared q k hq) (fun k hk => ?_)
        (fun q k hqp hq => absurd (hs.eq_of_locks hq hlocks) hqp) (fun k l hk => by cases hk)
        fun ha => by cases ha
      exact hs.shared p k (by rw [hp]; exact hk)
    · cases h
  | unlock p =>
    simp only [State.step] at h
    split at h
    · cases h
      exact hs.moves howned stage_release guardPath_release metadataPath_release payloads_release
        (fun _ hm => by cases hm) (fun _ _ hm => by cases hm)
        fun ha => by cases ha
    · cases h
  | removeGuard p done =>
    simp only [State.step] at h
    split at h
    · cases h
      refine hs.goTo howned rfl (fun q n _ hq => ?_) (fun _ hm => by cases hm)
        (fun _ _ _ _ => ⟨rfl, rfl⟩) (fun _ _ hm => by cases hm)
        fun ha => by cases ha
      cases done with
      | true => exact absurd hq (hok n (hs.shared q n hq) q)
      | false => exact hs.shared q n hq
    · cases h
  | close p =>
    simp only [State.step] at h
    split at h
    · cases h
    · cases h
      exact hs.moves howned stage_release guardPath_release metadataPath_release payloads_release
        (fun _ hm => by cases hm) (fun _ _ hm => by cases hm)
        fun ha => by cases ha

omit [DecidableEq ι] in
lemma Initial.orderly {s : State ι} (h : Initial s) : Orderly s := by
  refine ⟨fun n p => ?_, fun p n hp => ?_, fun p n m hp => ?_, fun p hp => ?_⟩
  · rw [h.unlocked n, h.idle p]
    simp [Stage.locks]
  all_goals
    rw [h.idle p] at hp
    cases hp

/-- **One process at a time has the lock**, however the calls of any number of processes are
interleaved and wherever they fail, as long as no guard file is removed that another process has
open; and the metadata file tells whose it is. -/
theorem exclusive_of_run {s t : State ι} {es : List (Event ι)} (hs : Initial s)
    (hok : (system ι).Along RemovesUnused s es) (h : (system ι).run s es = some t) :
    (∀ p q, Holds t p → Holds t q → p = q) ∧ ∀ p, Holds t p → Names t p := by
  have hstep : ∀ s e u, Orderly s → RemovesUnused s e → (system ι).step s e = some u → Orderly u :=
    fun _ _ _ hs hok h => orderly_step hs hok h
  have ht : Orderly t := System.invariant hstep hs.orderly hok h
  refine ⟨?_, ?_⟩
  · rintro p q ⟨m, hp⟩ ⟨n, hq⟩
    exact ht.eq_of_locks (by rw [hp]; rfl) (by rw [hq]; rfl)
  · rintro p ⟨n, hp⟩
    exact ht.named p (by rw [hp]; rfl)

/-! ### Three processes -/

/-- No process has been there. -/
def noFiles : State (Fin 3) := ⟨none, none, fun _ => [], fun _ => none, 0, fun _ => .idle⟩

/-- The calls of a process until it has the lock. -/
def acquires (p : Fin 3) : List (Event (Fin 3)) :=
  [.openGuard p, .tryLock p, .openMetadata p, .writePayload p, .writeGuard p]

def drops (p : Fin 3) (done : Bool) : List (Event (Fin 3)) :=
  [.removeMetadata p done, .unlock p, .removeGuard p true]

/-- The second process is refused once, and has the lock after the first one has dropped it, though
the metadata file of the first is left behind. -/
theorem exclusive_afterDrop :
    ∃ t, (system (Fin 3)).run noFiles
        (acquires 0 ++ [.openGuard 1, .tryLock 1] ++ drops 0 false ++ acquires 1) = some t ∧
      Holds t 1 ∧ (∀ p q, Holds t p → Holds t q → p = q) ∧ ∀ p, Holds t p → Names t p := by
  have hinit : Initial noFiles := ⟨fun _ => rfl, fun _ => rfl⟩
  have hok : (system (Fin 3)).Along RemovesUnused noFiles
      (acquires 0 ++ [.openGuard 1, .tryLock 1] ++ drops 0 false ++ acquires 1) := by
    iterate 9 refine (System.along_cons rfl).2 ⟨trivial, ?_⟩
    refine (System.along_cons rfl).2 ⟨fun n _ q => ?_, ?_⟩
    · fin_cases q <;> nofun
    · iterate 5 refine (System.along_cons rfl).2 ⟨trivial, ?_⟩
      trivial
  exact ⟨_, rfl, ⟨2, rfl⟩, exclusive_of_run hinit hok rfl⟩

/-- A guard file that is removed after the next process has locked it lets in a third one. -/
example : ∃ t, (system (Fin 3)).run noFiles
    (acquires 0 ++ [.removeMetadata 0 true, .unlock 0] ++ acquires 1 ++ [.removeGuard 0 true] ++ acquires 2) =
      some t ∧ Holds t 1 ∧ Holds t 2 :=
  ⟨_, rfl, ⟨0, rfl⟩, ⟨_, rfl⟩⟩

end Rsduck.ProcessLock
