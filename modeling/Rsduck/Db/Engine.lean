import Mathlib.Data.List.Nodup
import Mathlib.Logic.Function.Basic
import Rsduck.Lib.Run
import Rsduck.Lib.Worker

/-!
The engine: clients put commands into the bounded queues of the workers and wait for a reply, and
the shutdown tells each worker to stop and waits for it.

A client's wait is a one-shot channel, here the number of its submission. A client that reads may
use any of the read workers; the code lets them take turns.
-/

namespace Rsduck.Db

open Lib

inductive WorkerName
  | write
  | read (idx : ℕ)
  | snapshot
  deriving DecidableEq

inductive DbReply (ρ : Type)
  | result (r : ρ)
  | queueFull
  | workerStopped

/-- How far a shutdown is: the workers it has still to tell, or still to join. -/
inductive ShutdownStage
  | notCalled
  | sending (names : List WorkerName)
  | joining (names : List WorkerName)

structure Engine (α ρ : Type) where
  readWorkers : ℕ
  worker : WorkerName → Worker (ℕ × α)
  submitted : ℕ := 0
  replies : List (ℕ × DbReply ρ) := []
  shutdown : ShutdownStage := .notCalled

/-- What happens in an engine: clients, workers and the one call of shutdown, a step each. -/
inductive EngineEvent (α ρ : Type)
  | submit (name : WorkerName) (command : α)
  | take (name : WorkerName)
  | finish (name : WorkerName) (result : ρ)
  | callShutdown
  | sendShutdown
  | join

namespace Engine

variable {α ρ : Type}

/-- The workers in the order they are spawned. -/
def workerNames (n : ℕ) : List WorkerName :=
  .write :: (List.range n).map .read ++ [.snapshot]

def set (E : Engine α ρ) (name : WorkerName) (w : Worker (ℕ × α)) : Engine α ρ :=
  { E with worker := Function.update E.worker name w }

def reply (E : Engine α ρ) (replies : List (ℕ × DbReply ρ)) : Engine α ρ :=
  { E with replies := E.replies ++ replies }

/-- A client's `try_send`. -/
def submit (E : Engine α ρ) (name : WorkerName) (command : α) : Engine α ρ :=
  let next := { E with submitted := E.submitted + 1 }
  if (E.worker name).stopped then next.reply [(E.submitted, .workerStopped)]
  else if (E.worker name).isFull then next.reply [(E.submitted, .queueFull)]
  else next.set name ((E.worker name).post (.command (E.submitted, command)))

/-- A worker takes a command; when it stops, those who wait for what it drops hear of it. -/
def take (E : Engine α ρ) (name : WorkerName) : Option (Engine α ρ) :=
  (E.worker name).take.map fun w =>
    (E.set name w).reply (w.dropped.map fun c => (c.1, .workerStopped))

def finish (E : Engine α ρ) (name : WorkerName) (result : ρ) : Option (Engine α ρ) :=
  (E.worker name).finish.map fun done =>
    (E.set name done.2).reply [(done.1.1, .result result)]

/-- A `try_send` of the word to stop, whose failure is ignored. -/
def tellToStop (E : Engine α ρ) (name : WorkerName) : Engine α ρ :=
  if (E.worker name).stopped || (E.worker name).isFull then E
  else E.set name ((E.worker name).post .shutdown)

def step (E : Engine α ρ) : EngineEvent α ρ → Option (Engine α ρ)
  | .submit name command =>
    if name ∈ workerNames E.readWorkers then some (E.submit name command) else none
  | .take name => E.take name
  | .finish name result => E.finish name result
  | .callShutdown =>
    match E.shutdown with
    | .notCalled => some { E with shutdown := .sending (workerNames E.readWorkers) }
    | _ => none
  | .sendShutdown =>
    match E.shutdown with
    | .sending (name :: names) => some { E.tellToStop name with shutdown := .sending names }
    | .sending [] => some { E with shutdown := .joining (workerNames E.readWorkers).reverse }
    | _ => none
  | .join =>
    match E.shutdown with
    | .joining (name :: names) =>
      if (E.worker name).stopped then some { E with shutdown := .joining names } else none
    | _ => none

variable (α ρ) in
def system : System (Engine α ρ) (EngineEvent α ρ) := ⟨step⟩

/-- An engine that was just opened. -/
def opened (readWorkers writeQueueSize readQueueSize snapshotQueueSize : ℕ) : Engine α ρ where
  readWorkers := max readWorkers 1
  worker
    | .write => { capacity := max writeQueueSize 1 }
    | .read _ => { capacity := max readQueueSize 1 }
    | .snapshot => { capacity := max snapshotQueueSize 1 }

/-- The replies to a submission among some. -/
def answers (replies : List (ℕ × DbReply ρ)) (n : ℕ) : List (DbReply ρ) :=
  (replies.filter (·.1 == n)).map (·.2)

def repliesTo (E : Engine α ρ) (n : ℕ) : List (DbReply ρ) := answers E.replies n

lemma answers_append (rs ss : List (ℕ × DbReply ρ)) (n : ℕ) :
    answers (rs ++ ss) n = answers rs n ++ answers ss n := by
  unfold answers
  rw [List.filter_append, List.map_append]

lemma answers_of_notMem {rs : List (ℕ × DbReply ρ)} {n : ℕ} (h : ∀ x ∈ rs, x.1 ≠ n) :
    answers rs n = [] := by
  have hnone : rs.filter (·.1 == n) = [] :=
    List.filter_eq_nil_iff.2 fun x hx hn => h x hx (eq_of_beq hn)
  unfold answers
  rw [hnone, List.map_nil]

lemma answers_map_of_mem {xs : List (ℕ × α)} {x : ℕ × α} (r : DbReply ρ)
    (hnodup : (xs.map (·.1)).Nodup) (hx : x ∈ xs) :
    answers (xs.map fun c => (c.1, r)) x.1 = [r] := by
  induction xs with
  | nil => cases hx
  | cons y ys ih =>
    rw [List.map_cons, List.nodup_cons] at hnodup
    rw [List.map_cons, ← List.singleton_append, answers_append]
    rcases List.mem_cons.1 hx with rfl | hx
    · have hrest : answers (ys.map fun c => (c.1, r)) x.1 = [] :=
        answers_of_notMem fun z hz hn => by
          obtain ⟨c, hc, rfl⟩ := List.mem_map.1 hz
          exact hnodup.1 (List.mem_map.2 ⟨c, hc, hn⟩)
      rw [hrest]
      simp [answers]
    · have hne : y.1 ≠ x.1 := fun hn => hnodup.1 (List.mem_map.2 ⟨x, hx, hn.symm⟩)
      rw [ih hnodup.2 hx, answers_of_notMem fun z hz => ?_]
      · rfl
      · rw [List.mem_singleton.1 hz]
        exact hne

variable {E : Engine α ρ}

lemma callShutdown_eq_some {E' : Engine α ρ} : E.step .callShutdown = some E' ↔
    E.shutdown = .notCalled ∧
      E' = { E with shutdown := .sending (workerNames E.readWorkers) } := by
  simp only [Engine.step]
  split
  · next h => simp [h, eq_comm]
  · next h =>
    constructor
    · intro hnone
      cases hnone
    · rintro ⟨hs, -⟩
      exact absurd hs h

lemma sendShutdown_eq_some {E' : Engine α ρ} : E.step .sendShutdown = some E' ↔
    (∃ name names, E.shutdown = .sending (name :: names) ∧
      E' = { E.tellToStop name with shutdown := .sending names }) ∨
    E.shutdown = .sending [] ∧
      E' = { E with shutdown := .joining (workerNames E.readWorkers).reverse } := by
  simp only [Engine.step]
  split
  · next name names h => simp [h, eq_comm]
  · next h => simp [h, eq_comm]
  · next h h' =>
    constructor
    · intro hnone
      cases hnone
    · rintro (⟨name, names, hs, -⟩ | ⟨hs, -⟩)
      · exact absurd hs (h name names)
      · exact absurd hs h'

lemma join_eq_some {E' : Engine α ρ} : E.step .join = some E' ↔
    ∃ name names, E.shutdown = .joining (name :: names) ∧ (E.worker name).stopped = true ∧
      E' = { E with shutdown := .joining names } := by
  simp only [Engine.step]
  split
  · next name names h =>
    rw [Option.ite_some_none_eq_some]
    constructor
    · rintro ⟨hstopped, rfl⟩
      exact ⟨name, names, h, hstopped, rfl⟩
    · rintro ⟨name', names', h', hstopped, rfl⟩
      obtain ⟨rfl, rfl⟩ : name = name' ∧ names = names' := by
        simpa [h] using h'
      exact ⟨hstopped, rfl⟩
  · next h =>
    constructor
    · intro hnone
      cases hnone
    · rintro ⟨name, names, hs, -⟩
      exact absurd hs (h name names)

/-! ### What the submissions come to -/

/-- Every submission is answered once or waits for its answer. -/
structure Sound (E : Engine α ρ) : Prop where
  inTurn : ∀ name, (E.worker name).InTurn
  counted : ∀ name, ∀ x ∈ (E.worker name).accepted, x.1 < E.submitted
  once : ∀ name, ((E.worker name).accepted.map (·.1)).Nodup
  apart : ∀ name name' x y, x ∈ (E.worker name).accepted → y ∈ (E.worker name').accepted →
    x.1 = y.1 → name = name'
  repliesCounted : ∀ x ∈ E.replies, x.1 < E.submitted
  executed : ∀ name, ∀ x ∈ (E.worker name).executed, ∃ r, E.repliesTo x.1 = [.result r]
  dropped : ∀ name, ∀ x ∈ (E.worker name).dropped, E.repliesTo x.1 = [.workerStopped]
  pending : ∀ name, ∀ x ∈ (E.worker name).pending, E.repliesTo x.1 = []
  refused : ∀ n < E.submitted, (∀ name, ∀ x ∈ (E.worker name).accepted, x.1 ≠ n) →
    E.repliesTo n = [.queueFull] ∨ E.repliesTo n = [.workerStopped]

lemma sound_opened (r w q s : ℕ) : Sound (opened r w q s : Engine α ρ) := by
  have hnew : ∀ name, ∃ n, (opened r w q s : Engine α ρ).worker name = { capacity := n } := by
    intro name
    cases name with
    | write => exact ⟨_, rfl⟩
    | read idx => exact ⟨_, rfl⟩
    | snapshot => exact ⟨_, rfl⟩
  have hturn : ∀ name, ((opened r w q s : Engine α ρ).worker name).InTurn := fun name => by
    obtain ⟨n, hn⟩ := hnew name
    rw [hn]
    exact Worker.inTurn_new n
  have hnone : ∀ name x, x ∉ ((opened r w q s : Engine α ρ).worker name).accepted := by
    intro name x hx
    obtain ⟨n, hn⟩ := hnew name
    rw [hn] at hx
    cases hx
  have hold : ∀ name, ∀ x ∈ ((opened r w q s : Engine α ρ).worker name).executed ++
      ((opened r w q s : Engine α ρ).worker name).pending ++
      ((opened r w q s : Engine α ρ).worker name).dropped, False := fun name x hx => by
    rw [(hturn name).accepted] at hx
    exact hnone name x hx
  refine ⟨hturn, fun name x hx => (hnone name x hx).elim, fun name => ?_,
    fun name name' x y hx => (hnone name x hx).elim, fun x hx => (List.not_mem_nil hx).elim,
    fun name x hx => (hold name x (by simp [hx])).elim,
    fun name x hx => (hold name x (by simp [hx])).elim,
    fun name x hx => (hold name x (by simp [hx])).elim, fun n hn => by cases hn⟩
  obtain ⟨n, hn⟩ := hnew name
  rw [hn]
  exact List.nodup_nil

lemma forall_worker_set {P : WorkerName → Worker (ℕ × α) → Prop} {name : WorkerName}
    {w : Worker (ℕ × α)} (hw : P name w) (hothers : ∀ other, other ≠ name → P other (E.worker other))
    (other : WorkerName) : P other ((E.set name w).worker other) := by
  change P other (Function.update E.worker name w other)
  by_cases h : other = name
  · rw [h, Function.update_self]
    exact hw
  · rw [Function.update_of_ne h]
    exact hothers other h

/-- A worker goes on with what it has accepted: some of what was pending is settled, with the same
reply to all of it. -/
lemma Sound.settle (hE : Sound E) {name : WorkerName} {w : Worker (ℕ × α)} {xs : List (ℕ × α)}
    {r : DbReply ρ} (hturn : w.InTurn) (haccepted : w.accepted = (E.worker name).accepted)
    (hpending : (E.worker name).pending = xs ++ w.pending)
    (hexecuted : ∀ x ∈ w.executed, x ∈ (E.worker name).executed ∨ x ∈ xs ∧ ∃ r', r = .result r')
    (hdropped : ∀ x ∈ w.dropped, x ∈ (E.worker name).dropped ∨ x ∈ xs ∧ r = .workerStopped) :
    Sound ((E.set name w).reply (xs.map fun c => (c.1, r))) := by
  set E' := (E.set name w).reply (xs.map fun c => (c.1, r))
  have haccepted' : ∀ other, (E'.worker other).accepted = (E.worker other).accepted :=
    forall_worker_set (P := fun other v => v.accepted = (E.worker other).accepted) haccepted
      fun _ _ => rfl
  have hold := (hE.inTurn name).accepted
  rw [hpending] at hold
  have hnodup := hE.once name
  have hxs : ∀ x ∈ xs, x ∈ (E.worker name).accepted := fun x hx => by
    rw [← hold]
    simp [hx]
  have hxsNodup : (xs.map (·.1)).Nodup := by
    refine hnodup.sublist (List.Sublist.map _ ?_)
    rw [← hold]
    exact ((List.sublist_append_left xs _).trans (List.sublist_append_right _ _)).trans
      (List.sublist_append_left _ _)
  have hreplies : ∀ n, E'.repliesTo n = E.repliesTo n ++ answers (xs.map fun c => (c.1, r)) n :=
    fun n => answers_append _ _ n
  -- a submission that is not settled now has the replies it had
  have huntouched : ∀ other y, y ∈ (E.worker other).executed ++ (E.worker other).pending ++
      (E.worker other).dropped → (other = name → y ∉ xs) →
      E'.repliesTo y.1 = E.repliesTo y.1 := by
    intro other y hy hn
    rw [(hE.inTurn other).accepted] at hy
    rw [hreplies, answers_of_notMem, List.append_nil]
    intro z hz hzy
    obtain ⟨x, hx, rfl⟩ := List.mem_map.1 hz
    obtain rfl : name = other := hE.apart _ _ _ _ (hxs x hx) hy hzy
    obtain rfl := List.inj_on_of_nodup_map hnodup (hxs x hx) hy hzy
    exact hn rfl hx
  have hsettled : ∀ x ∈ xs, E'.repliesTo x.1 = [r] := fun x hx => by
    have hwaiting : x ∈ (E.worker name).pending := by
      rw [hpending]
      exact List.mem_append_left _ hx
    rw [hreplies, hE.pending name x hwaiting, answers_map_of_mem r hxsNodup hx, List.nil_append]
  have hdisjoint : ((E.worker name).executed ++ (xs ++ w.pending) ++
      (E.worker name).dropped).Nodup := by
    rw [hold]
    exact List.Nodup.of_map _ hnodup
  simp only [List.nodup_append] at hdisjoint
  obtain ⟨⟨-, ⟨-, -, hxsPending⟩, hexecutedXs⟩, -, hxsDropped⟩ := hdisjoint
  refine ⟨?_, fun other x hx => ?_, fun other => ?_, fun other other' x y hx hy => ?_,
    fun x hx => ?_, ?_, ?_, ?_, fun n hn hnone => ?_⟩
  · exact forall_worker_set (P := fun _ v => v.InTurn) hturn fun other _ => hE.inTurn other
  · rw [haccepted'] at hx
    exact hE.counted other x hx
  · rw [haccepted']
    exact hE.once other
  · rw [haccepted'] at hx hy
    exact hE.apart other other' x y hx hy
  · rcases List.mem_append.1 hx with hx | hx
    · exact hE.repliesCounted x hx
    · obtain ⟨c, hc, rfl⟩ := List.mem_map.1 hx
      exact hE.counted name c (hxs c hc)
  · refine forall_worker_set (P := fun _ v => ∀ x ∈ v.executed, ∃ r, E'.repliesTo x.1 = [.result r])
      (fun x hx => ?_) fun other hne x hx => ?_
    · rcases hexecuted x hx with hx | ⟨hx, r', rfl⟩
      · rw [huntouched name x (by simp [hx]) fun _ hx' => hexecutedXs x hx x (by simp [hx']) rfl]
        exact hE.executed name x hx
      · exact ⟨r', hsettled x hx⟩
    · rw [huntouched other x (by simp [hx]) fun he => absurd he hne]
      exact hE.executed other x hx
  · refine forall_worker_set (P := fun _ v => ∀ x ∈ v.dropped, E'.repliesTo x.1 = [.workerStopped])
      (fun x hx => ?_) fun other hne x hx => ?_
    · rcases hdropped x hx with hx | ⟨hx, rfl⟩
      · rw [huntouched name x (by simp [hx]) fun _ hx' => hxsDropped x (by simp [hx']) x hx rfl]
        exact hE.dropped name x hx
      · exact hsettled x hx
    · rw [huntouched other x (by simp [hx]) fun he => absurd he hne]
      exact hE.dropped other x hx
  · refine forall_worker_set (P := fun _ v => ∀ x ∈ v.pending, E'.repliesTo x.1 = [])
      (fun x hx => ?_) fun other hne x hx => ?_
    · have hx₀ : x ∈ (E.worker name).pending := by
        rw [hpending]
        exact List.mem_append_right _ hx
      rw [huntouched name x (by simp [hx₀]) fun _ hx' => hxsPending x hx' x hx rfl]
      exact hE.pending name x hx₀
    · rw [huntouched other x (by simp [hx]) fun he => absurd he hne]
      exact hE.pending other x hx
  · have hnone' : ∀ other, ∀ x ∈ (E.worker other).accepted, x.1 ≠ n := fun other x hx =>
      hnone other x (by rwa [haccepted'])
    rw [hreplies, answers_of_notMem, List.append_nil]
    · exact hE.refused n hn hnone'
    · intro z hz
      obtain ⟨c, hc, rfl⟩ := List.mem_map.1 hz
      exact hnone' name c (hxs c hc)

/-- What a step that gives no answer keeps. -/
lemma Sound.of_same {E' : Engine α ρ} (hE : Sound E) (hworker : E'.worker = E.worker)
    (hsubmitted : E'.submitted = E.submitted) (hreplies : E'.replies = E.replies) : Sound E' := by
  have hto : ∀ n, E'.repliesTo n = E.repliesTo n := fun n => by rw [repliesTo, hreplies, repliesTo]
  refine ⟨?_, ?_, ?_, ?_, ?_, ?_, ?_, ?_, ?_⟩
  · rw [hworker]
    exact hE.inTurn
  · rw [hworker, hsubmitted]
    exact hE.counted
  · rw [hworker]
    exact hE.once
  · rw [hworker]
    exact hE.apart
  · rw [hreplies, hsubmitted]
    exact hE.repliesCounted
  · simp only [hworker, hto]
    exact hE.executed
  · simp only [hworker, hto]
    exact hE.dropped
  · simp only [hworker, hto]
    exact hE.pending
  · simp only [hworker, hto, hsubmitted]
    exact hE.refused

lemma repliesTo_of_le (hE : Sound E) {n : ℕ} (h : E.submitted ≤ n) : E.repliesTo n = [] :=
  answers_of_notMem fun x hx hn => by
    have hlt := hE.repliesCounted x hx
    omega

/-- A submission that is refused. -/
lemma Sound.refuse (hE : Sound E) {r : DbReply ρ} (hr : r = .queueFull ∨ r = .workerStopped) :
    Sound ({ E with submitted := E.submitted + 1 }.reply [(E.submitted, r)]) := by
  set E' := { E with submitted := E.submitted + 1 }.reply [(E.submitted, r)]
  have hto : ∀ n, E'.repliesTo n = E.repliesTo n ++ answers [(E.submitted, r)] n :=
    fun n => answers_append _ _ n
  have hto' : ∀ n, n ≠ E.submitted → E'.repliesTo n = E.repliesTo n := fun n hn => by
    rw [hto, answers_of_notMem, List.append_nil]
    intro x hx
    rw [List.mem_singleton.1 hx]
    exact hn.symm
  have hacc : ∀ name, ∀ x ∈ (E.worker name).executed ++ (E.worker name).pending ++
      (E.worker name).dropped, E'.repliesTo x.1 = E.repliesTo x.1 := fun name x hx => by
    rw [(hE.inTurn name).accepted] at hx
    exact hto' x.1 (Nat.ne_of_lt (hE.counted name x hx))
  refine ⟨hE.inTurn, fun name x hx => Nat.lt_succ_of_lt (hE.counted name x hx), hE.once, hE.apart,
    fun x hx => ?_, fun name x hx => ?_, fun name x hx => ?_, fun name x hx => ?_,
    fun n hn hnone => ?_⟩
  · rcases List.mem_append.1 hx with hx | hx
    · exact Nat.lt_succ_of_lt (hE.repliesCounted x hx)
    · rw [List.mem_singleton.1 hx]
      exact Nat.lt_succ_self _
  · rw [hacc name x (by simp [show x ∈ (E.worker name).executed from hx])]
    exact hE.executed name x hx
  · rw [hacc name x (by simp [show x ∈ (E.worker name).dropped from hx])]
    exact hE.dropped name x hx
  · rw [hacc name x (by simp [show x ∈ (E.worker name).pending from hx])]
    exact hE.pending name x hx
  · rcases Nat.lt_succ_iff_lt_or_eq.1 hn with hlt | rfl
    · rw [hto' n (Nat.ne_of_lt hlt)]
      exact hE.refused n hlt hnone
    · rw [hto, repliesTo_of_le hE (Nat.le_refl _), List.nil_append]
      rcases hr with rfl | rfl
      · exact Or.inl (by simp [answers])
      · exact Or.inr (by simp [answers])

/-- A submission that is accepted. -/
lemma Sound.accept (hE : Sound E) {name : WorkerName} (command : α)
    (hrunning : (E.worker name).stopped = false) :
    Sound ({ E with submitted := E.submitted + 1 }.set name
      ((E.worker name).post (.command (E.submitted, command)))) := by
  set next := (E.worker name).post (.command (E.submitted, command)) with hnext
  set E' := { E with submitted := E.submitted + 1 }.set name next
  have hnew : ∀ n, E.submitted ≤ n → E'.repliesTo n = [] := fun n => repliesTo_of_le hE
  have haccepted : next.accepted = (E.worker name).accepted ++ [(E.submitted, command)] := rfl
  have hless : ∀ {other x}, x ∈ (E.worker other).accepted → x.1 < E.submitted := fun hx =>
    hE.counted _ _ hx
  -- the new number is of no other submission
  have hone : ∀ {other x y}, other ≠ name → x ∈ (E.worker other).accepted → y ∈ next.accepted →
      x.1 ≠ y.1 := fun {other x y} hne hx hy hxy => by
    rw [haccepted, List.mem_append, List.mem_singleton] at hy
    rcases hy with hy | rfl
    · exact hne (hE.apart _ _ _ _ hx hy hxy)
    · have hlt := hless hx
      omega
  refine ⟨?_, ?_, ?_, ?_, fun x hx => Nat.lt_succ_of_lt (hE.repliesCounted x hx), ?_, ?_, ?_,
    fun n hn hnone => ?_⟩
  · exact forall_worker_set (P := fun _ v => v.InTurn)
      (Worker.inTurn_post (hE.inTurn name) hrunning _) fun other _ => hE.inTurn other
  · refine forall_worker_set (P := fun _ v => ∀ x ∈ v.accepted, x.1 < E.submitted + 1)
      (fun x hx => ?_) fun other _ x hx => Nat.lt_succ_of_lt (hless hx)
    rw [haccepted, List.mem_append, List.mem_singleton] at hx
    rcases hx with hx | rfl
    · exact Nat.lt_succ_of_lt (hless hx)
    · exact Nat.lt_succ_self _
  · refine forall_worker_set (P := fun _ v => (v.accepted.map (·.1)).Nodup) ?_
      fun other _ => hE.once other
    rw [haccepted, List.map_append, List.map_singleton, ← List.concat_eq_append]
    refine (hE.once name).concat fun hmem => ?_
    obtain ⟨x, hx, hn⟩ := List.mem_map.1 hmem
    have hlt := hless hx
    omega
  · intro other other' x y hx hy hxy
    by_cases h : other = name
    · by_cases h' : other' = name
      · rw [h, h']
      · subst h
        have hx' : x ∈ next.accepted := by simpa [E', set] using hx
        have hy' : y ∈ (E.worker other').accepted := by simpa [E', set, h'] using hy
        exact absurd hxy.symm (hone h' hy' hx')
    · have hx' : x ∈ (E.worker other).accepted := by simpa [E', set, h] using hx
      by_cases h' : other' = name
      · subst h'
        have hy' : y ∈ next.accepted := by simpa [E', set] using hy
        exact absurd hxy (hone h hx' hy')
      · have hy' : y ∈ (E.worker other').accepted := by simpa [E', set, h'] using hy
        exact hE.apart _ _ _ _ hx' hy' hxy
  · exact forall_worker_set (P := fun _ v => ∀ x ∈ v.executed, ∃ r, E.repliesTo x.1 = [.result r])
      (hE.executed name) fun other _ => hE.executed other
  · exact forall_worker_set (P := fun _ v => ∀ x ∈ v.dropped, E.repliesTo x.1 = [.workerStopped])
      (hE.dropped name) fun other _ => hE.dropped other
  · refine forall_worker_set (P := fun _ v => ∀ x ∈ v.pending, E.repliesTo x.1 = [])
      (fun x hx => ?_) fun other _ => hE.pending other
    rw [hnext, Worker.pending_post] at hx
    rcases List.mem_append.1 hx with hx | hx
    · exact hE.pending name x hx
    · obtain rfl := List.mem_singleton.1 hx
      exact hnew _ (Nat.le_refl _)
  · rcases Nat.lt_succ_iff_lt_or_eq.1 hn with hlt | rfl
    · refine hE.refused n hlt fun other x hx => ?_
      by_cases h : other = name
      · subst h
        refine hnone other x ?_
        simpa [E', set, haccepted] using Or.inl hx
      · exact hnone other x (by simpa [E', set, h] using hx)
    · refine absurd rfl (hnone name (E.submitted, command) ?_)
      simp [E', set, haccepted]

lemma Sound.submit (hE : Sound E) (name : WorkerName) (command : α) :
    Sound (E.submit name command) := by
  unfold Engine.submit
  split_ifs with hstopped hfull
  · exact hE.refuse (Or.inr rfl)
  · exact hE.refuse (Or.inl rfl)
  · exact hE.accept command (by simpa using hstopped)

lemma Sound.take {E' : Engine α ρ} (hE : Sound E) {name : WorkerName} (h : E.take name = some E') :
    Sound E' := by
  obtain ⟨w, hw, rfl⟩ := Option.map_eq_some_iff.1 h
  have hturn := Worker.inTurn_take (hE.inTurn name) hw
  have hdropped := (hE.inTurn name).dropped (Worker.running_of_take (hE.inTurn name) hw)
  obtain ⟨hidle, ⟨c, rest, hqueue, rfl⟩ | ⟨rest, hqueue, rfl⟩⟩ := Worker.take_eq_some.1 hw
  · have hpending : (E.worker name).pending = [] ++ c :: commands rest := by
      unfold Worker.pending
      rw [hidle, hqueue]
      rfl
    have hsettle := hE.settle (r := .workerStopped) hturn rfl hpending (fun x hx => Or.inl hx)
      fun x hx => Or.inl hx
    refine hsettle.of_same rfl rfl ?_
    simp [reply, set, hdropped]
  · refine hE.settle hturn rfl ?_ (fun x hx => Or.inl hx) fun x hx => Or.inr ⟨hx, rfl⟩
    unfold Worker.pending
    rw [hidle, hqueue, Worker.commands_cons_shutdown]
    simp

lemma Sound.finish {E' : Engine α ρ} (hE : Sound E) {name : WorkerName} {result : ρ}
    (h : E.finish name result = some E') : Sound E' := by
  obtain ⟨⟨c, w⟩, hw, rfl⟩ := Option.map_eq_some_iff.1 h
  have hturn := Worker.inTurn_finish (hE.inTurn name) hw
  obtain ⟨hbusy, rfl⟩ := Worker.finish_eq_some.1 hw
  have hpending : (E.worker name).pending = [c] ++ commands (E.worker name).queue := by
    unfold Worker.pending
    rw [hbusy]
    rfl
  refine hE.settle (r := .result result) hturn rfl hpending (fun x hx => ?_)
    fun x hx => Or.inl hx
  · rcases List.mem_append.1 hx with hx | hx
    · exact Or.inl hx
    · exact Or.inr ⟨hx, result, rfl⟩

lemma Sound.tellToStop (hE : Sound E) (name : WorkerName) : Sound (E.tellToStop name) := by
  unfold Engine.tellToStop
  split_ifs with h
  · exact hE
  · obtain ⟨hrunning, -⟩ : (E.worker name).stopped = false ∧ (E.worker name).isFull = false := by
      simpa using h
    have hpending : (E.worker name).pending = [] ++ ((E.worker name).post .shutdown).pending := by
      rw [Worker.pending_post]
      simp [Message.command?]
    have hsettle := hE.settle (r := .workerStopped)
      (Worker.inTurn_post (hE.inTurn name) hrunning .shutdown)
      (by simp [Worker.post, Message.command?]) hpending (fun x hx => Or.inl hx)
      fun x hx => Or.inl hx
    exact hsettle.of_same rfl rfl (List.append_nil _).symm

lemma Sound.step {E' : Engine α ρ} (hE : Sound E) {e : EngineEvent α ρ} (h : E.step e = some E') :
    Sound E' := by
  cases e with
  | submit name command =>
    obtain ⟨-, rfl⟩ := Option.ite_some_none_eq_some.1 h
    exact hE.submit name command
  | take name => exact hE.take h
  | finish name result => exact hE.finish h
  | callShutdown =>
    obtain ⟨-, rfl⟩ := callShutdown_eq_some.1 h
    exact hE.of_same rfl rfl rfl
  | sendShutdown =>
    rcases sendShutdown_eq_some.1 h with ⟨name, names, -, rfl⟩ | ⟨-, rfl⟩
    · exact (hE.tellToStop name).of_same rfl rfl rfl
    · exact hE.of_same rfl rfl rfl
  | join =>
    obtain ⟨name, names, -, -, rfl⟩ := join_eq_some.1 h
    exact hE.of_same rfl rfl rfl

lemma submit_lt {E' : Engine α ρ} {name : WorkerName} {command : α}
    (h : E.step (.submit name command) = some E') : E.submitted < E'.submitted := by
  obtain ⟨-, rfl⟩ := Option.ite_some_none_eq_some.1 h
  unfold Engine.submit
  split_ifs
  · exact Nat.lt_succ_self _
  · exact Nat.lt_succ_self _
  · exact Nat.lt_succ_self _

lemma submitted_le {E' : Engine α ρ} {e : EngineEvent α ρ} (h : E.step e = some E') :
    E.submitted ≤ E'.submitted := by
  cases e with
  | submit name command => exact Nat.le_of_lt (submit_lt h)
  | take name =>
    obtain ⟨w, -, rfl⟩ := Option.map_eq_some_iff.1 h
    exact Nat.le_refl _
  | finish name result =>
    obtain ⟨w, -, rfl⟩ := Option.map_eq_some_iff.1 h
    exact Nat.le_refl _
  | callShutdown =>
    obtain ⟨-, rfl⟩ := callShutdown_eq_some.1 h
    exact Nat.le_refl _
  | sendShutdown =>
    rcases sendShutdown_eq_some.1 h with ⟨name, names, -, rfl⟩ | ⟨-, rfl⟩
    · change E.submitted ≤ (E.tellToStop name).submitted
      unfold Engine.tellToStop
      split_ifs
      · exact Nat.le_refl _
      · exact Nat.le_refl _
    · exact Nat.le_refl _
  | join =>
    obtain ⟨name, names, -, -, rfl⟩ := join_eq_some.1 h
    exact Nat.le_refl _

lemma pending_set {name other : WorkerName} {w : Worker (ℕ × α)} {Q : ℕ × α → Prop}
    (hw : ∀ x ∈ w.pending, x ∈ (E.worker other).pending ∨ Q x) :
    ∀ x ∈ ((E.set other w).worker name).pending, x ∈ (E.worker name).pending ∨ Q x :=
  forall_worker_set (P := fun name v => ∀ x ∈ Worker.pending v, x ∈ (E.worker name).pending ∨ Q x)
    hw (fun _ _ _ hx => Or.inl hx) name

/-- A step brings no more into the workers than a submission of its own. -/
lemma pending_step {E' : Engine α ρ} {e : EngineEvent α ρ} (h : E.step e = some E')
    (name : WorkerName) : ∀ x ∈ (E'.worker name).pending,
      x ∈ (E.worker name).pending ∨ x.1 = E.submitted := by
  cases e with
  | submit other command =>
    obtain ⟨-, rfl⟩ := Option.ite_some_none_eq_some.1 h
    unfold Engine.submit
    split_ifs
    · exact fun x hx => Or.inl hx
    · exact fun x hx => Or.inl hx
    · refine pending_set fun x hx => ?_
      rw [Worker.pending_post] at hx
      rcases List.mem_append.1 hx with hx | hx
      · exact Or.inl hx
      · rw [show x = _ from List.mem_singleton.1 hx]
        exact Or.inr rfl
  | take other =>
    obtain ⟨w, hw, rfl⟩ := Option.map_eq_some_iff.1 h
    refine pending_set fun x hx => Or.inl ?_
    obtain ⟨hidle, ⟨c, rest, hqueue, rfl⟩ | ⟨rest, hqueue, rfl⟩⟩ := Worker.take_eq_some.1 hw
    · unfold Worker.pending at hx ⊢
      rw [hidle, hqueue]
      exact hx
    · unfold Worker.pending at hx
      rw [hidle] at hx
      cases hx
  | finish other result =>
    obtain ⟨⟨c, w⟩, hw, rfl⟩ := Option.map_eq_some_iff.1 h
    refine pending_set fun x hx => Or.inl ?_
    obtain ⟨-, rfl⟩ := Worker.finish_eq_some.1 hw
    exact List.mem_append_right _ hx
  | callShutdown =>
    obtain ⟨-, rfl⟩ := callShutdown_eq_some.1 h
    exact fun x hx => Or.inl hx
  | sendShutdown =>
    rcases sendShutdown_eq_some.1 h with ⟨other, names, -, rfl⟩ | ⟨-, rfl⟩
    · change ∀ x ∈ ((E.tellToStop other).worker name).pending, _
      unfold Engine.tellToStop
      split_ifs
      · exact fun x hx => Or.inl hx
      · refine pending_set fun x hx => Or.inl ?_
        rw [Worker.pending_post] at hx
        simpa [Message.command?] using hx
    · exact fun x hx => Or.inl hx
  | join =>
    obtain ⟨other, names, -, -, rfl⟩ := join_eq_some.1 h
    exact fun x hx => Or.inl hx

/-- The answers a step brings, beside those of workers that stop. -/
lemma mem_replies_step {E' : Engine α ρ} {e : EngineEvent α ρ} (h : E.step e = some E')
    {x : ℕ × DbReply ρ} (hx : x ∈ E'.replies) : x ∈ E.replies ∨ x.2 = .workerStopped ∨
      (∃ name command, e = .submit name command ∧ (E.worker name).isFull = true ∧
        x = (E.submitted, .queueFull)) ∨
      ∃ name result y, e = .finish name result ∧ (E.worker name).running = some y ∧
        x = (y.1, .result result) := by
  cases e with
  | submit name command =>
    obtain ⟨-, rfl⟩ := Option.ite_some_none_eq_some.1 h
    unfold Engine.submit at hx
    split_ifs at hx with hstopped hfull
    · rcases List.mem_append.1 hx with hx | hx
      · exact Or.inl hx
      · rw [List.mem_singleton.1 hx]
        exact Or.inr (Or.inl rfl)
    · rcases List.mem_append.1 hx with hx | hx
      · exact Or.inl hx
      · exact Or.inr (Or.inr (Or.inl ⟨name, command, rfl, hfull, List.mem_singleton.1 hx⟩))
    · exact Or.inl hx
  | take name =>
    obtain ⟨w, -, rfl⟩ := Option.map_eq_some_iff.1 h
    rcases List.mem_append.1 hx with hx | hx
    · exact Or.inl hx
    · obtain ⟨c, -, rfl⟩ := List.mem_map.1 hx
      exact Or.inr (Or.inl rfl)
  | finish name result =>
    obtain ⟨⟨c, w⟩, hw, rfl⟩ := Option.map_eq_some_iff.1 h
    obtain ⟨hbusy, -⟩ := Worker.finish_eq_some.1 hw
    rcases List.mem_append.1 hx with hx | hx
    · exact Or.inl hx
    · exact Or.inr (Or.inr (Or.inr ⟨name, result, c, rfl, hbusy, List.mem_singleton.1 hx⟩))
  | callShutdown =>
    obtain ⟨-, rfl⟩ := callShutdown_eq_some.1 h
    exact Or.inl hx
  | sendShutdown =>
    rcases sendShutdown_eq_some.1 h with ⟨name, names, -, rfl⟩ | ⟨-, rfl⟩
    · change x ∈ (E.tellToStop name).replies at hx
      unfold Engine.tellToStop at hx
      split_ifs at hx
      · exact Or.inl hx
      · exact Or.inl hx
    · exact Or.inl hx
  | join =>
    obtain ⟨name, names, -, -, rfl⟩ := join_eq_some.1 h
    exact Or.inl hx

/-- A worker goes on with its command until it is through with it. -/
lemma running_step {E' : Engine α ρ} {e : EngineEvent α ρ} (h : E.step e = some E')
    {name : WorkerName} {x : ℕ × α} (hx : (E.worker name).running = some x)
    (he : ∀ result, e ≠ .finish name result) : (E'.worker name).running = some x := by
  have hset : ∀ {other} {w : Worker (ℕ × α)}, (name = other → w.running = some x) →
      ((E.set other w).worker name).running = some x := fun {other w} hw => by
    change (Function.update E.worker other w name).running = some x
    by_cases hname : name = other
    · rw [hname, Function.update_self]
      exact hw hname
    · rw [Function.update_of_ne hname]
      exact hx
  cases e with
  | submit other command =>
    obtain ⟨-, rfl⟩ := Option.ite_some_none_eq_some.1 h
    unfold Engine.submit
    split_ifs
    · exact hx
    · exact hx
    · exact hset fun hname => hname ▸ hx
  | take other =>
    obtain ⟨w, hw, rfl⟩ := Option.map_eq_some_iff.1 h
    obtain ⟨hidle, -⟩ := Worker.take_eq_some.1 hw
    refine hset fun hname => ?_
    rw [← hname, hx] at hidle
    cases hidle
  | finish other result =>
    obtain ⟨w, -, rfl⟩ := Option.map_eq_some_iff.1 h
    exact hset fun hname => absurd (by rw [hname]) (he result)
  | callShutdown =>
    obtain ⟨-, rfl⟩ := callShutdown_eq_some.1 h
    exact hx
  | sendShutdown =>
    rcases sendShutdown_eq_some.1 h with ⟨other, names, -, rfl⟩ | ⟨-, rfl⟩
    · change ((E.tellToStop other).worker name).running = some x
      unfold Engine.tellToStop
      split_ifs
      · exact hx
      · exact hset fun hname => hname ▸ hx
    · exact hx
  | join =>
    obtain ⟨other, names, -, -, rfl⟩ := join_eq_some.1 h
    exact hx

/-- What a worker does has no answer yet. -/
lemma Sound.unanswered (hE : Sound E) {name : WorkerName} {x : ℕ × α}
    (hx : (E.worker name).running = some x) : x.1 < E.submitted ∧ E.repliesTo x.1 = [] := by
  have hpending : x ∈ (E.worker name).pending := by
    unfold Worker.pending
    rw [hx]
    exact List.mem_cons_self
  refine ⟨hE.counted name x ?_, hE.pending name x hpending⟩
  rw [← (hE.inTurn name).accepted]
  exact List.mem_append_left _ (List.mem_append_right _ hpending)

lemma mem_repliesTo {n : ℕ} {r : DbReply ρ} : r ∈ E.repliesTo n ↔ (n, r) ∈ E.replies := by
  unfold repliesTo answers
  constructor
  · intro h
    obtain ⟨x, hx, rfl⟩ := List.mem_map.1 h
    obtain ⟨hx, hn⟩ := List.mem_filter.1 hx
    rwa [← eq_of_beq hn]
  · intro h
    exact List.mem_map.2 ⟨(n, r), List.mem_filter.2 ⟨h, beq_self_eq_true n⟩, rfl⟩

/-- A submission is queued or running in a worker. -/
def InWorkers (E : Engine α ρ) (n : ℕ) : Prop := ∃ name, ∃ x ∈ (E.worker name).pending, x.1 = n

lemma inWorkers_step {E' : Engine α ρ} {e : EngineEvent α ρ} (h : E.step e = some E') {n : ℕ}
    (hn : n < E.submitted) (hE' : InWorkers E' n) : InWorkers E n := by
  obtain ⟨name, x, hx, rfl⟩ := hE'
  rcases pending_step h name x hx with hx | hnew
  · exact ⟨name, x, hx, rfl⟩
  · omega

lemma Sound.repliesTo_ne_nil (hE : Sound E) {n : ℕ} (hn : n < E.submitted) (hout : ¬ InWorkers E n) :
    E.repliesTo n ≠ [] := by
  by_cases haccepted : ∃ name, ∃ x ∈ (E.worker name).accepted, x.1 = n
  · obtain ⟨name, x, hx, rfl⟩ := haccepted
    rw [← (hE.inTurn name).accepted, List.mem_append, List.mem_append] at hx
    rcases hx with (hx | hx) | hx
    · obtain ⟨r, hr⟩ := hE.executed name x hx
      simp [hr]
    · exact absurd ⟨name, x, hx, rfl⟩ hout
    · simp [hE.dropped name x hx]
  · push Not at haccepted
    rcases hE.refused n hn haccepted with h | h
    · simp [h]
    · simp [h]

/-- The submissions queued or running in the workers. -/
def inWorkers (E : Engine α ρ) : List ℕ :=
  (workerNames E.readWorkers).flatMap fun name => (E.worker name).pending.map (·.1)

lemma mem_inWorkers {n : ℕ} (h : n ∈ E.inWorkers) : InWorkers E n := by
  obtain ⟨name, -, hn⟩ := List.mem_flatMap.1 h
  obtain ⟨x, hx, hxn⟩ := List.mem_map.1 hn
  exact ⟨name, x, hx, hxn⟩

lemma nodup_workerNames (n : ℕ) : (workerNames n).Nodup := by
  unfold workerNames
  rw [List.cons_append, List.nodup_cons, List.nodup_append]
  refine ⟨by simp, ?_, List.nodup_singleton _, by simp⟩
  exact List.nodup_range.map fun i j h => by cases h; rfl

lemma Sound.nodup_inWorkers (hE : Sound E) : E.inWorkers.Nodup := by
  have hpending : ∀ name, ((E.worker name).pending.map (·.1)).Sublist
      ((E.worker name).accepted.map (·.1)) := fun name => by
    rw [← (hE.inTurn name).accepted]
    exact ((List.sublist_append_right _ _).trans (List.sublist_append_left _ _)).map _
  refine List.nodup_flatMap.2 ⟨fun name _ => (hE.once name).sublist (hpending name), ?_⟩
  refine (nodup_workerNames _).imp fun {name other} hne n hn hn' => hne ?_
  obtain ⟨x, hx, rfl⟩ := List.mem_map.1 ((hpending name).subset hn)
  obtain ⟨y, hy, hyx⟩ := List.mem_map.1 ((hpending other).subset hn')
  exact hE.apart name other x y hx hy hyx.symm

/-- What a worker has taken is executed in the order it was accepted in, each command once, and
answered once; what it has not taken waits, until the worker stops. -/
structure Served (E : Engine α ρ) : Prop where
  inOrder : ∀ name, (E.worker name).executed ++ (E.worker name).running.toList <+:
    (E.worker name).accepted
  once : ∀ name, ((E.worker name).accepted.map (·.1)).Nodup
  apart : ∀ name name' x y, x ∈ (E.worker name).accepted → y ∈ (E.worker name').accepted →
    x.1 = y.1 → name = name'
  answered : ∀ name, ∀ x ∈ (E.worker name).accepted,
    x ∈ (E.worker name).executed ∧ (∃ r, E.repliesTo x.1 = [.result r]) ∨
      x ∈ (E.worker name).pending ∧ E.repliesTo x.1 = [] ∨
      x ∈ (E.worker name).dropped ∧ E.repliesTo x.1 = [.workerStopped]

lemma Sound.served (hE : Sound E) : Served E := by
  refine ⟨fun name => ?_, hE.once, hE.apart, fun name x hx => ?_⟩
  · have haccepted := (hE.inTurn name).accepted
    unfold Worker.pending at haccepted
    rw [← List.append_assoc, List.append_assoc] at haccepted
    exact ⟨_, haccepted⟩
  · rw [← (hE.inTurn name).accepted, List.mem_append, List.mem_append] at hx
    rcases hx with (hx | hx) | hx
    · exact Or.inl ⟨hx, hE.executed name x hx⟩
    · exact Or.inr (Or.inl ⟨hx, hE.pending name x hx⟩)
    · exact Or.inr (Or.inr ⟨hx, hE.dropped name x hx⟩)

/-! ### Shutdown -/

/-- The workers shutdown is through with telling will stop, and it joins only those. -/
def Told (E : Engine α ρ) : Prop :=
  match E.shutdown with
  | .notCalled => True
  | .sending names => ∃ told, workerNames E.readWorkers = told ++ names ∧
      ∀ name ∈ told, (E.worker name).ToStop
  | .joining names => ∀ name ∈ names, (E.worker name).ToStop

/-- Shutdown finds room in the queue it sends the word to stop to. -/
def RoomToStop (E : Engine α ρ) : EngineEvent α ρ → Prop
  | .sendShutdown => ∀ name names, E.shutdown = .sending (name :: names) →
      (E.worker name).isFull = false
  | _ => True

lemma toStop_submit (name other : WorkerName) (command : α) :
    ((E.submit name command).worker other).ToStop ↔ (E.worker other).ToStop := by
  unfold Engine.submit
  split_ifs
  · exact Iff.rfl
  · exact Iff.rfl
  · exact forall_worker_set (E := { E with submitted := E.submitted + 1 })
      (P := fun other v => v.ToStop ↔ (E.worker other).ToStop)
      Worker.toStop_post_command (fun _ _ => Iff.rfl) other

lemma toStop_tellToStop {name other : WorkerName} (h : (E.worker other).ToStop) :
    ((E.tellToStop name).worker other).ToStop := by
  unfold Engine.tellToStop
  split_ifs
  · exact h
  · refine forall_worker_set (P := fun other v => (E.worker other).ToStop → v.ToStop)
      (fun _ => Worker.toStop_post_shutdown _) (fun _ _ => id) other h

/-- A worker that finds room for it takes the word to stop. -/
lemma toStop_told {name : WorkerName} (h : (E.worker name).isFull = false) :
    ((E.tellToStop name).worker name).ToStop := by
  unfold Engine.tellToStop
  rcases hstopped : (E.worker name).stopped with _ | _
  · rw [h]
    change (Function.update E.worker name ((E.worker name).post .shutdown) name).ToStop
    rw [Function.update_self]
    exact Worker.toStop_post_shutdown _
  · exact Or.inl hstopped

/-- Only shutdown's own sends change who is going to stop. -/
lemma toStop_step {E' : Engine α ρ} {e : EngineEvent α ρ} (he : e ≠ .sendShutdown)
    (h : E.step e = some E') (other : WorkerName) :
    (E'.worker other).ToStop ↔ (E.worker other).ToStop := by
  cases e with
  | submit name command =>
    obtain ⟨-, rfl⟩ := Option.ite_some_none_eq_some.1 h
    exact toStop_submit name other command
  | take name =>
    obtain ⟨w, hw, rfl⟩ := Option.map_eq_some_iff.1 h
    exact forall_worker_set (P := fun other v => v.ToStop ↔ (E.worker other).ToStop)
      (Worker.toStop_take hw) (fun _ _ => Iff.rfl) other
  | finish name result =>
    obtain ⟨⟨c, w⟩, hw, rfl⟩ := Option.map_eq_some_iff.1 h
    exact forall_worker_set (P := fun other v => v.ToStop ↔ (E.worker other).ToStop)
      (Worker.toStop_finish hw) (fun _ _ => Iff.rfl) other
  | callShutdown =>
    obtain ⟨-, rfl⟩ := callShutdown_eq_some.1 h
    exact Iff.rfl
  | sendShutdown => exact absurd rfl he
  | join =>
    obtain ⟨name, names, -, -, rfl⟩ := join_eq_some.1 h
    exact Iff.rfl

lemma tellToStop_readWorkers (name : WorkerName) :
    (E.tellToStop name).readWorkers = E.readWorkers := by
  unfold Engine.tellToStop
  split_ifs
  · rfl
  · rfl

/-- Clients and workers leave shutdown where it is. -/
lemma shutdown_step {E' : Engine α ρ} {e : EngineEvent α ρ} (h : E.step e = some E') :
    e = .callShutdown ∨ e = .sendShutdown ∨ e = .join ∨
      (E'.shutdown = E.shutdown ∧ E'.readWorkers = E.readWorkers) := by
  cases e with
  | submit name command =>
    obtain ⟨-, rfl⟩ := Option.ite_some_none_eq_some.1 h
    unfold Engine.submit
    split_ifs
    · exact Or.inr (Or.inr (Or.inr ⟨rfl, rfl⟩))
    · exact Or.inr (Or.inr (Or.inr ⟨rfl, rfl⟩))
    · exact Or.inr (Or.inr (Or.inr ⟨rfl, rfl⟩))
  | take name =>
    obtain ⟨w, -, rfl⟩ := Option.map_eq_some_iff.1 h
    exact Or.inr (Or.inr (Or.inr ⟨rfl, rfl⟩))
  | finish name result =>
    obtain ⟨w, -, rfl⟩ := Option.map_eq_some_iff.1 h
    exact Or.inr (Or.inr (Or.inr ⟨rfl, rfl⟩))
  | callShutdown => exact Or.inl rfl
  | sendShutdown => exact Or.inr (Or.inl rfl)
  | join => exact Or.inr (Or.inr (Or.inl rfl))

/-- Shutdown waits for no worker that was not told to stop, as long as it found room to tell. -/
lemma Told.step {E' : Engine α ρ} (hE : Told E) {e : EngineEvent α ρ} (hroom : RoomToStop E e)
    (h : E.step e = some E') : Told E' := by
  rcases shutdown_step h with rfl | rfl | rfl | ⟨hstage, hreaders⟩
  · obtain ⟨-, rfl⟩ := callShutdown_eq_some.1 h
    exact ⟨[], rfl, fun name hname => by cases hname⟩
  · rcases sendShutdown_eq_some.1 h with ⟨name, names, hstage, rfl⟩ | ⟨hstage, rfl⟩
    · unfold Told at hE
      rw [hstage] at hE
      obtain ⟨told, hnames, htold⟩ := hE
      refine ⟨told ++ [name], ?_, fun other hother => ?_⟩
      · change workerNames (E.tellToStop name).readWorkers = told ++ [name] ++ names
        rw [tellToStop_readWorkers, hnames, List.append_assoc, List.singleton_append]
      · rcases List.mem_append.1 hother with hother | hother
        · exact toStop_tellToStop (htold other hother)
        · obtain rfl := List.mem_singleton.1 hother
          exact toStop_told (hroom other names hstage)
    · unfold Told at hE
      rw [hstage] at hE
      obtain ⟨told, hnames, htold⟩ := hE
      intro name hname
      rw [List.append_nil] at hnames
      rw [List.mem_reverse, hnames] at hname
      exact htold name hname
  · obtain ⟨name, names, hstage, -, rfl⟩ := join_eq_some.1 h
    unfold Told at hE
    rw [hstage] at hE
    exact fun other hother => hE other (List.mem_cons_of_mem _ hother)
  · have hstops : ∀ other, (E.worker other).ToStop → (E'.worker other).ToStop := by
      intro other hother
      by_cases he : e = .sendShutdown
      · subst he
        rcases sendShutdown_eq_some.1 h with ⟨name, names, -, rfl⟩ | ⟨-, rfl⟩
        · exact toStop_tellToStop hother
        · exact hother
      · exact (toStop_step he h other).2 hother
    unfold Told at hE ⊢
    rw [hstage, hreaders]
    rcases hs : E.shutdown with _ | names | names
    · trivial
    · rw [hs] at hE
      obtain ⟨told, hnames, htold⟩ := hE
      exact ⟨told, hnames, fun name hname => hstops name (htold name hname)⟩
    · rw [hs] at hE
      exact fun name hname => hstops name (hE name hname)

/-- The worker's own steps, with the results its commands have. -/
def OwnStep (name : WorkerName) (result : ℕ × α → ρ) (E : Engine α ρ) : EngineEvent α ρ → Prop
  | .take other => other = name
  | .finish other r => other = name ∧ ∃ c, (E.worker name).running = some c ∧ r = result c
  | _ => False

/-- A worker that is going to stop and has nothing under way comes to its end. -/
lemma stops_of_idle (name : WorkerName) (result : ℕ × α → ρ) (n : ℕ)
    (hE : (E.worker name).ToStop) (hidle : (E.worker name).running = none)
    (hn : (E.worker name).queue.length = n) :
    ∃ es E', (system α ρ).run E es = some E' ∧
      (system α ρ).Along (OwnStep name result) E es ∧ (E'.worker name).stopped = true := by
  induction n using Nat.strongRecOn generalizing E with
  | _ n ih =>
    rcases hstopped : (E.worker name).stopped with _ | _
    · rcases hqueue : (E.worker name).queue with _ | ⟨c | _, rest⟩
      · rcases hE with h | h
        · rw [hstopped] at h
          cases h
        · rw [hqueue] at h
          cases h
      · -- a command comes first: take it, be through with it, go on with the rest
        set w : Worker (ℕ × α) := { E.worker name with queue := rest, running := some c } with hw
        have htake : E.step (.take name) =
            some ((E.set name w).reply (w.dropped.map fun c => (c.1, .workerStopped))) :=
          Option.map_eq_some_iff.2 ⟨w, Worker.take_eq_some.2
            ⟨hidle, Or.inl ⟨c, rest, hqueue, rfl⟩⟩, rfl⟩
        set E₁ := (E.set name w).reply (w.dropped.map fun c => (c.1, .workerStopped))
        have hw₁ : E₁.worker name = w := Function.update_self ..
        set v : Worker (ℕ × α) := { w with running := none, executed := w.executed ++ [c] } with hv
        have hfinish : E₁.step (.finish name (result c)) =
            some ((E₁.set name v).reply [(c.1, .result (result c))]) :=
          Option.map_eq_some_iff.2 ⟨(c, v), Worker.finish_eq_some.2 ⟨by rw [hw₁], by rw [hw₁]⟩, rfl⟩
        set E₂ := (E₁.set name v).reply [(c.1, .result (result c))]
        have hv₂ : E₂.worker name = v := Function.update_self ..
        have hstop₂ : (E₂.worker name).ToStop :=
          (toStop_step (by simp) hfinish name).2 ((toStop_step (by simp) htake name).2 hE)
        have hlength : (E₂.worker name).queue.length < n := by
          rw [hv₂]
          rw [hqueue, List.length_cons] at hn
          change rest.length < n
          omega
        obtain ⟨es, E', hrun, halong, hend⟩ := ih _ hlength hstop₂ (by rw [hv₂]) rfl
        refine ⟨.take name :: .finish name (result c) :: es, E', ?_, ?_, hend⟩
        · exact (System.run_cons_eq_some _).2 ⟨E₁, htake,
            (System.run_cons_eq_some _).2 ⟨E₂, hfinish, hrun⟩⟩
        · refine (System.along_cons htake).2 ⟨rfl, (System.along_cons hfinish).2 ⟨⟨rfl, c, ?_, rfl⟩,
            halong⟩⟩
          rw [hw₁]
      · have htake : E.step (.take name) = some _ := Option.map_eq_some_iff.2
          ⟨_, Worker.take_eq_some.2 ⟨hidle, Or.inr ⟨rest, hqueue, rfl⟩⟩, rfl⟩
        refine ⟨[.take name], _, (System.run_cons_eq_some _).2 ⟨_, htake, rfl⟩,
          (System.along_cons htake).2 ⟨rfl, trivial⟩, ?_⟩
        change (Function.update E.worker name _ name).stopped = true
        rw [Function.update_self]
    · exact ⟨[], E, rfl, trivial, hstopped⟩

/-- A worker that is going to stop comes to its end by its own steps, whatever its commands give. -/
lemma stops (name : WorkerName) (result : ℕ × α → ρ) (hE : (E.worker name).ToStop) :
    ∃ es E', (system α ρ).run E es = some E' ∧
      (system α ρ).Along (OwnStep name result) E es ∧ (E'.worker name).stopped = true := by
  rcases hrunning : (E.worker name).running with _ | c
  · exact stops_of_idle name result _ hE hrunning rfl
  · have hfinish : E.step (.finish name (result c)) = some _ :=
      Option.map_eq_some_iff.2 ⟨_, Worker.finish_eq_some.2 ⟨hrunning, rfl⟩, rfl⟩
    have hstop := (toStop_step (by simp) hfinish name).2 hE
    have hidle : ((Function.update E.worker name
        { E.worker name with running := none, executed := (E.worker name).executed ++ [c] })
          name).running = none := by
      rw [Function.update_self]
    obtain ⟨es, E', hrun, halong, hend⟩ := stops_of_idle name result _ hstop hidle rfl
    exact ⟨.finish name (result c) :: es, E', (System.run_cons_eq_some _).2 ⟨_, hfinish, hrun⟩,
      (System.along_cons hfinish).2 ⟨⟨rfl, c, hrunning, rfl⟩, halong⟩, hend⟩

/-- Shutdown waits for a worker that was not told to stop. -/
def WaitsFor (name : WorkerName) (names : List WorkerName) (E : Engine α ρ) : Prop :=
  E.shutdown = .joining (name :: names) ∧ ¬ (E.worker name).ToStop

/-- **It waits without end.** -/
lemma waits_forever {name : WorkerName} {names : List WorkerName} (hE : WaitsFor name names E)
    {es : List (EngineEvent α ρ)} {E' : Engine α ρ} (hrun : (system α ρ).run E es = some E') :
    WaitsFor name names E' := by
  refine System.always (fun E e E' hE h => ?_) hE hrun
  obtain ⟨hstage, hE⟩ := hE
  rcases shutdown_step h with rfl | rfl | rfl | ⟨hsame, -⟩
  · obtain ⟨hnot, -⟩ := callShutdown_eq_some.1 h
    rw [hstage] at hnot
    cases hnot
  · rcases sendShutdown_eq_some.1 h with ⟨other, rest, hnot, -⟩ | ⟨hnot, -⟩
    · rw [hstage] at hnot
      cases hnot
    · rw [hstage] at hnot
      cases hnot
  · obtain ⟨other, rest, hjoining, hstopped, -⟩ := join_eq_some.1 h
    rw [hstage] at hjoining
    cases hjoining
    exact absurd (Or.inl hstopped) hE
  · have he : e ≠ .sendShutdown := by
      rintro rfl
      rcases sendShutdown_eq_some.1 h with ⟨other, rest, hnot, -⟩ | ⟨hnot, -⟩
      · rw [hstage] at hnot
        cases hnot
      · rw [hstage] at hnot
        cases hnot
    exact ⟨hsame.trans hstage, fun hnot => hE ((toStop_step he h name).1 hnot)⟩

/-- **Requests and shutdown**: in every run, what the workers take is executed once, in its order,
and answered once; and where shutdown found room in each queue when it told its worker to stop, the
worker it waits for will stop by its own steps. -/
theorem requests_and_shutdown (readWorkers writeQueueSize readQueueSize snapshotQueueSize : ℕ)
    (es : List (EngineEvent α ρ))
    (hrun : (system α ρ).run
      (opened readWorkers writeQueueSize readQueueSize snapshotQueueSize) es = some E) :
    Served E ∧ ((system α ρ).Along RoomToStop
        (opened readWorkers writeQueueSize readQueueSize snapshotQueueSize) es →
      ∀ name names, E.shutdown = .joining (name :: names) → (E.worker name).ToStop ∧
        ∀ result, ∃ fs E', (system α ρ).run E fs = some E' ∧
          (system α ρ).Along (OwnStep name result) E fs ∧ (E'.worker name).stopped = true) := by
  refine ⟨?_, fun hroom name names hstage => ?_⟩
  · have hsound : Sound E := System.always (fun E e E' hE h => hE.step h) (sound_opened _ _ _ _) hrun
    exact hsound.served
  · have hstart : Told (opened readWorkers writeQueueSize readQueueSize snapshotQueueSize :
      Engine α ρ) := trivial
    have htold : Told E := System.invariant (fun E e E' hE he h => hE.step he h) hstart hroom hrun
    unfold Told at htold
    rw [hstage] at htold
    have hstop := htold name List.mem_cons_self
    exact ⟨hstop, fun result => stops name result hstop⟩

/-- The same shutdown once the write is done. -/
def shutdownAfterWrite : List (EngineEvent String Unit) :=
  [.submit .write "INSERT INTO t VALUES (1)", .take .write, .finish .write (), .callShutdown,
    .sendShutdown, .sendShutdown, .sendShutdown, .sendShutdown,
    .take .snapshot, .join, .take (.read 0), .join]

theorem shutdown_joins_writer : ∃ E : Engine String Unit,
    (system String Unit).run (opened 1 1 1 1) shutdownAfterWrite = some E ∧
      E.shutdown = .joining [.write] ∧ Served E ∧ (E.worker .write).ToStop := by
  have hroom : (system String Unit).Along RoomToStop (opened 1 1 1 1) shutdownAfterWrite := by
    refine (System.along_cons rfl).2 ⟨trivial, (System.along_cons rfl).2 ⟨trivial,
      (System.along_cons rfl).2 ⟨trivial, (System.along_cons rfl).2 ⟨trivial,
      (System.along_cons rfl).2 ⟨fun name names h => ?_, (System.along_cons rfl).2
      ⟨fun name names h => ?_, (System.along_cons rfl).2 ⟨fun name names h => ?_,
      (System.along_cons rfl).2 ⟨fun name names h => ?_, (System.along_cons rfl).2 ⟨trivial,
      (System.along_cons rfl).2 ⟨trivial, (System.along_cons rfl).2 ⟨trivial,
      (System.along_cons rfl).2 ⟨trivial, trivial⟩⟩⟩⟩⟩⟩⟩⟩⟩⟩⟩⟩
    · cases h
      rfl
    · cases h
      rfl
    · cases h
      rfl
    · cases h
  have h := requests_and_shutdown 1 1 1 1 shutdownAfterWrite rfl
  exact ⟨_, rfl, rfl, h.1, (h.2 hroom .write [] rfl).1⟩

/-- A client's write is under way and another one waits when shutdown tells the workers to stop. -/
def shutdownBesideWrites : List (EngineEvent String Unit) :=
  [.submit .write "INSERT INTO t VALUES (1)", .take .write,
    .submit .write "INSERT INTO t VALUES (2)", .callShutdown,
    .sendShutdown, .sendShutdown, .sendShutdown, .sendShutdown,
    .take .snapshot, .join, .take (.read 0), .join,
    .finish .write (), .take .write, .finish .write ()]

/-- The worker has done both and waits for more; shutdown waits for the worker. -/
theorem shutdown_waits_for_idle_worker : ∃ E : Engine String Unit,
    (system String Unit).run (opened 1 1 1 1) shutdownBesideWrites = some E ∧
      E.shutdown = .joining [.write] ∧ (E.worker .write).running = none ∧
      (E.worker .write).queue = [] ∧ (E.worker .write).stopped = false ∧
      ∀ es E', (system String Unit).run E es = some E' → E'.shutdown = .joining [.write] := by
  refine ⟨_, rfl, rfl, rfl, rfl, rfl, fun es E' hrun => ?_⟩
  refine (waits_forever ⟨rfl, ?_⟩ hrun).1
  rintro (h | h)
  · cases h
  · cases h

end Engine

end Rsduck.Db
