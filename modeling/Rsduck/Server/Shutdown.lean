import Mathlib.Tactic.FinCases
import Rsduck.Db.Engine

/-!
The service as a whole: clients with their statements, snapshots, and the way `main` goes from the
shutdown signal to its end.

Of a statement it is left open what it does; a write is known by the number of its submission, and
a snapshot holds the writes that were executed when its export took the gate.
-/

namespace Rsduck.Server

open Lib Db

inductive ServiceRequest (α : Type)
  | statement (text : α)
  | saveSnapshot

/-- What a worker answers; a write is answered by `written` when it has succeeded. -/
inductive ServiceAnswer
  | written
  | answered
  | failed
  | saved
  | targetExists

structure SavedSnapshot where
  second : ℕ
  writes : List ℕ

structure RunningService (α : Type) where
  engine : Engine (ServiceRequest α) ServiceAnswer
  clock : ℕ
  writes : List ℕ := []
  /-- the export that holds the gate -/
  exporting : Option SavedSnapshot := none
  /-- the snapshots on disk in the order they were saved -/
  disk : List SavedSnapshot := []
  /-- the seconds of unfinished snapshot directories that were left behind -/
  leftovers : List ℕ := []
  /-- the submissions whose answer has reached the client -/
  received : List ℕ := []
  /-- the submission by which the shutdown has asked for its snapshot -/
  shutdownRequest : Option ℕ := none
  /-- the writes that were executed when the export of that snapshot took the gate -/
  shutdownExport : Option (List ℕ) := none
  exited : Bool := false

inductive ServiceEvent (α : Type)
  | submit (name : WorkerName) (text : α)
  | requestSnapshot
  | take (name : WorkerName)
  /-- the statement of the write worker has its effect -/
  | write
  | finish (name : WorkerName) (ok : Bool)
  | beginExport
  | refuseExport
  | endExport (ok : Bool)
  | receive (n : ℕ)
  | tick
  | cleanup (cutoff : ℕ)
  | signal
  | callShutdown
  | sendShutdown
  | join
  | exit

namespace RunningService

variable {α : Type}

def engineStep (s : RunningService α) (e : EngineEvent (ServiceRequest α) ServiceAnswer) :
    Option (RunningService α) :=
  (s.engine.step e).map fun engine => { s with engine }

def running (s : RunningService α) (name : WorkerName) : Option (ℕ × ServiceRequest α) :=
  (s.engine.worker name).running

def targetExists (s : RunningService α) : Bool :=
  (s.disk.map (·.second)).contains s.clock || s.leftovers.contains s.clock

def answerOf (s : RunningService α) (n : ℕ) (ok : Bool) : ServiceAnswer :=
  if ok then (if n ∈ s.writes then .written else .answered) else .failed

/-- Clients go on until the process has ended: the signal closes no connection, neither of the
MySQL server nor of web requests under way. -/
def step (s : RunningService α) (e : ServiceEvent α) : Option (RunningService α) :=
  if s.exited then none
  else match e with
  | .submit name text =>
    if name = .snapshot then none else s.engineStep (.submit name (.statement text))
  | .requestSnapshot => s.engineStep (.submit .snapshot .saveSnapshot)
  | .take name => s.engineStep (.take name)
  | .write =>
    match s.running .write, s.exporting with
    | some (n, _), none =>
      if n ∈ s.writes then none else some { s with writes := s.writes ++ [n] }
    | _, _ => none
  | .finish name ok =>
    match s.running name with
    | some (n, _) =>
      if name = .snapshot ∧ (ok ∨ s.exporting.isSome) then none
      else s.engineStep (.finish name (s.answerOf n ok))
    | none => none
  | .beginExport =>
    match s.running .snapshot, s.exporting with
    | some (n, _), none =>
      if s.targetExists then none
      else some { s with
        exporting := some ⟨s.clock, s.writes⟩
        shutdownExport := if s.shutdownRequest = some n then some s.writes else s.shutdownExport }
    | _, _ => none
  | .refuseExport =>
    match s.exporting with
    | none => if s.targetExists then s.engineStep (.finish .snapshot .targetExists) else none
    | some _ => none
  | .endExport ok =>
    match s.exporting with
    | some x =>
      if ok then
        { s with exporting := none, disk := s.disk ++ [x] }.engineStep (.finish .snapshot .saved)
      else { s with exporting := none }.engineStep (.finish .snapshot .failed)
    | none => none
  | .receive n =>
    if (s.engine.repliesTo n).isEmpty then none else some { s with received := s.received ++ [n] }
  | .tick => some { s with clock := s.clock + 1 }
  | .cleanup cutoff => some { s with disk := s.disk.filter fun x => cutoff ≤ x.second }
  | .signal =>
    match s.shutdownRequest with
    | none => { s with shutdownRequest := some s.engine.submitted }.engineStep
        (.submit .snapshot .saveSnapshot)
    | some _ => none
  | .callShutdown =>
    match s.shutdownRequest with
    | some n =>
      if (s.engine.repliesTo n).isEmpty then none else s.engineStep .callShutdown
    | none => none
  | .sendShutdown => s.engineStep .sendShutdown
  | .join => s.engineStep .join
  | .exit =>
    match s.engine.shutdown with
    | .joining [] => some { s with exited := true }
    | _ => none

variable (α) in
def system : System (RunningService α) (ServiceEvent α) := ⟨step⟩

def opened (engine : Engine (ServiceRequest α) ServiceAnswer) (clock : ℕ)
    (disk : List SavedSnapshot) (leftovers : List ℕ) : RunningService α where
  engine
  clock
  disk
  leftovers

def Answered (s : RunningService α) (n : ℕ) (a : ServiceAnswer) : Prop :=
  .result a ∈ s.engine.repliesTo n

/-- The shutdown snapshot loses none of these writes that a client knows of, and is not refused. -/
structure Durable (s : RunningService α) (among : ℕ → Prop) : Prop where
  kept : ∀ n, s.shutdownRequest = some n → s.Answered n .saved →
    ∀ m ∈ s.received, s.Answered m .written → among m →
      ∃ x, s.disk.getLast? = some x ∧ m ∈ x.writes
  executed : ∀ m, s.Answered m .written → m ∈ s.writes
  accepted : ∀ n, s.shutdownRequest = some n →
    .queueFull ∉ s.engine.repliesTo n ∧ ¬ s.Answered n .targetExists

/-- The write was not executed after the export of the shutdown snapshot had taken the gate. -/
def BeforeExport (s : RunningService α) (m : ℕ) : Prop :=
  ∀ ws, s.shutdownExport = some ws → m ∈ ws

/-- The snapshots lie in the order of their names, and none is of a second to come. -/
def Dated (clock : ℕ) (disk : List SavedSnapshot) : Prop :=
  disk.Pairwise (fun x y => x.second < y.second) ∧ ∀ x ∈ disk, x.second ≤ clock

/-- What must not happen: the snapshot queue is full at the signal, a snapshot of the same second
is there when the worker takes the shutdown snapshot up, or a cleanup reaches the newest snapshot
after its export. -/
def Orderly (s : RunningService α) : ServiceEvent α → Prop
  | .signal => (s.engine.worker .snapshot).isFull = false
  | .refuseExport => ∀ x, s.running .snapshot = some x → s.shutdownRequest ≠ some x.1
  | .cleanup cutoff => s.shutdownExport.isSome →
      ∀ x, s.disk.getLast? = some x → cutoff ≤ x.second
  | _ => True

/-! ### What every step keeps -/

structure Kept (s : RunningService α) : Prop where
  sound : s.engine.Sound
  written : ∀ n, s.Answered n .written → n ∈ s.writes
  exporting : ∀ x, s.exporting = some x → x.writes = s.writes ∧
    ∃ y, s.running .snapshot = some y ∧
      (s.shutdownRequest = some y.1 → s.shutdownExport = some x.writes)
  exported : ∀ ws, s.shutdownExport = some ws → ws ⊆ s.writes
  requested : ∀ n, s.shutdownRequest = some n → n < s.engine.submitted
  covered : ∀ n, s.shutdownRequest = some n → s.Answered n .saved →
    ∃ ws x, s.shutdownExport = some ws ∧ s.disk.getLast? = some x ∧ ws ⊆ x.writes
  accepted : ∀ n, s.shutdownRequest = some n →
    .queueFull ∉ s.engine.repliesTo n ∧ ¬ s.Answered n .targetExists

variable {s : RunningService α}

lemma Kept.durable (hs : Kept s) : Durable s s.BeforeExport := by
  refine ⟨fun n hn hsaved m _ _ hbefore => ?_, hs.written, hs.accepted⟩
  obtain ⟨ws, x, hws, hx, hsub⟩ := hs.covered n hn hsaved
  exact ⟨x, hx, hsub (hbefore ws hws)⟩

lemma kept_opened {engine : Engine (ServiceRequest α) ServiceAnswer} (hengine : engine.Sound)
    (hnew : engine.replies = []) (clock : ℕ) (disk : List SavedSnapshot) (leftovers : List ℕ) :
    Kept (opened engine clock disk leftovers) := by
  have hnone : ∀ n r, r ∉ engine.repliesTo n := fun n r hr => by
    have hmem := Engine.mem_repliesTo.1 hr
    rw [hnew] at hmem
    cases hmem
  have hnotAsked : ∀ n, (opened engine clock disk leftovers).shutdownRequest ≠ some n :=
    fun n h => Option.some_ne_none n h.symm
  have hnotBegun : ∀ ws, (opened engine clock disk leftovers).shutdownExport ≠ some ws :=
    fun ws h => Option.some_ne_none ws h.symm
  exact ⟨hengine, fun n h => absurd h (hnone n _), fun x hx => absurd hx.symm (Option.some_ne_none x),
    fun ws hws => absurd hws (hnotBegun ws), fun n hn => absurd hn (hnotAsked n),
    fun n hn => absurd hn (hnotAsked n), fun n hn => absurd hn (hnotAsked n)⟩

/-- What a worker may answer: what has happened, and nothing bad to the request of the shutdown. -/
structure Truthful (s : RunningService α) (name : WorkerName) (a : ServiceAnswer) : Prop where
  free : name = .snapshot → s.exporting = none
  written : a = .written → ∀ x, s.running name = some x → x.1 ∈ s.writes
  saved : a = .saved → ∀ x, s.running name = some x → s.shutdownRequest = some x.1 →
    ∃ ws y, s.shutdownExport = some ws ∧ s.disk.getLast? = some y ∧ ws ⊆ y.writes
  accepted : a = .targetExists → ∀ x, s.running name = some x → s.shutdownRequest ≠ some x.1

lemma Kept.engine (hs : Kept s) {e : EngineEvent (ServiceRequest α) ServiceAnswer}
    {E' : Engine (ServiceRequest α) ServiceAnswer} (h : s.engine.step e = some E')
    (he : ∀ name a, e = .finish name a → Truthful s name a) : Kept { s with engine := E' } := by
  set s' : RunningService α := { s with engine := E' }
  -- an answer is an old one, or one that a worker may give
  have hanswer : ∀ n a, s'.Answered n a → s.Answered n a ∨
      ∃ name x, s.running name = some x ∧ n = x.1 ∧ Truthful s name a := by
    intro n a ha
    rcases Engine.mem_replies_step h (Engine.mem_repliesTo.1 ha) with hold | hstop | hfull | hnew
    · exact Or.inl (Engine.mem_repliesTo.2 hold)
    · cases hstop
    · obtain ⟨name, command, -, -, heq⟩ := hfull
      cases heq
    · obtain ⟨name, result, x, rfl, hx, heq⟩ := hnew
      cases heq
      exact Or.inr ⟨name, x, hx, rfl, he name a rfl⟩
  refine ⟨hs.sound.step h, fun n hn => ?_, fun x hx => ?_, hs.exported,
    fun n hn => Nat.lt_of_lt_of_le (hs.requested n hn) (Engine.submitted_le h),
    fun n hn hsaved => ?_, fun n hn => ?_⟩
  · rcases hanswer n _ hn with hold | ⟨name, x, hx, rfl, htruth⟩
    · exact hs.written n hold
    · exact htruth.written rfl x hx
  · obtain ⟨hwrites, y, hy, hshutdown⟩ := hs.exporting x hx
    refine ⟨hwrites, y, Engine.running_step h hy fun result hfinish => ?_, hshutdown⟩
    have hfree := (he _ _ hfinish).free rfl
    rw [show s.exporting = some x from hx] at hfree
    cases hfree
  · rcases hanswer n _ hsaved with hold | ⟨name, x, hx, rfl, htruth⟩
    · exact hs.covered n hn hold
    · exact htruth.saved rfl x hx hn
  · refine ⟨fun hqueue => ?_, fun htarget => ?_⟩
    · rcases Engine.mem_replies_step h (Engine.mem_repliesTo.1 hqueue) with
        hold | hstop | hfull | hnew
      · exact (hs.accepted n hn).1 (Engine.mem_repliesTo.2 hold)
      · cases hstop
      · obtain ⟨name, command, -, -, heq⟩ := hfull
        have hlt := hs.requested n hn
        have hsubmitted : n = s.engine.submitted := congrArg Prod.fst heq
        omega
      · obtain ⟨name, result, x, -, -, heq⟩ := hnew
        cases heq
    · rcases hanswer n _ htarget with hold | ⟨name, x, hx, rfl, htruth⟩
      · exact (hs.accepted n hn).2 hold
      · exact htruth.accepted rfl x hx hn

lemma Kept.engineStep (hs : Kept s) {e : EngineEvent (ServiceRequest α) ServiceAnswer}
    {s' : RunningService α} (h : s.engineStep e = some s')
    (he : ∀ name a, e = .finish name a → Truthful s name a) : Kept s' := by
  obtain ⟨E', hE', rfl⟩ := Option.map_eq_some_iff.1 h
  exact hs.engine hE' he

lemma truthful_answerOf {name : WorkerName} {n : ℕ} {c : ServiceRequest α} {ok : Bool}
    (hrunning : s.running name = some (n, c))
    (hfree : ¬ (name = .snapshot ∧ (ok = true ∨ s.exporting.isSome = true))) :
    Truthful s name (s.answerOf n ok) := by
  unfold answerOf
  refine ⟨fun hname => ?_, fun ha x hx => ?_, fun ha => ?_, fun ha => ?_⟩
  · by_contra hsome
    exact hfree ⟨hname, Or.inr (Option.isSome_iff_ne_none.2 hsome)⟩
  · rw [hrunning] at hx
    cases hx
    split_ifs at ha with hok hmem
    exact hmem
  · split_ifs at ha
  · split_ifs at ha

lemma Kept.write (hs : Kept s) (hfree : s.exporting = none) (n : ℕ) :
    Kept { s with writes := s.writes ++ [n] } :=
  ⟨hs.sound, fun m hm => List.mem_append_left _ (hs.written m hm),
    fun x hx => absurd (hfree.symm.trans hx).symm (Option.some_ne_none x),
    fun ws hws => List.Subset.trans (hs.exported ws hws) (List.subset_append_left _ _),
    hs.requested, hs.covered, hs.accepted⟩

lemma Kept.beginExport (hs : Kept s) {x : ℕ × ServiceRequest α}
    (hrunning : s.running .snapshot = some x) : Kept { s with
      exporting := some ⟨s.clock, s.writes⟩
      shutdownExport := if s.shutdownRequest = some x.1 then some s.writes else s.shutdownExport } := by
  have hunanswered := (hs.sound.unanswered hrunning).2
  by_cases hshutdown : s.shutdownRequest = some x.1
  · rw [if_pos hshutdown]
    refine ⟨hs.sound, hs.written, fun y hy => ?_, fun ws hws => ?_, hs.requested,
      fun n hn hsaved => ?_, hs.accepted⟩
    · cases hy
      exact ⟨rfl, x, hrunning, fun _ => rfl⟩
    · cases hws
      exact List.Subset.refl _
    · obtain rfl : n = x.1 := Option.some.inj (hn.symm.trans hshutdown)
      have hnone : DbReply.result ServiceAnswer.saved ∈ s.engine.repliesTo x.1 := hsaved
      rw [hunanswered] at hnone
      cases hnone
  · rw [if_neg hshutdown]
    refine ⟨hs.sound, hs.written, fun y hy => ?_, hs.exported, hs.requested, hs.covered,
      hs.accepted⟩
    cases hy
    exact ⟨rfl, x, hrunning, fun h => absurd h hshutdown⟩

lemma Kept.saved (hs : Kept s) {x : SavedSnapshot} (hx : s.exporting = some x) :
    Kept { s with exporting := none, disk := s.disk ++ [x] } := by
  obtain ⟨hwrites, -⟩ := hs.exporting x hx
  refine ⟨hs.sound, hs.written, fun y hy => absurd hy.symm (Option.some_ne_none y), hs.exported, hs.requested,
    fun n hn hsaved => ?_, hs.accepted⟩
  obtain ⟨ws, y, hws, -, -⟩ := hs.covered n hn hsaved
  exact ⟨ws, x, hws, List.getLast?_concat, hwrites ▸ hs.exported ws hws⟩

lemma Kept.notExporting (hs : Kept s) : Kept { s with exporting := none } :=
  ⟨hs.sound, hs.written, fun y hy => absurd hy.symm (Option.some_ne_none y), hs.exported, hs.requested,
    hs.covered, hs.accepted⟩

lemma Kept.receive (hs : Kept s) (ms : List ℕ) : Kept { s with received := ms } :=
  ⟨hs.sound, hs.written, hs.exporting, hs.exported, hs.requested, hs.covered, hs.accepted⟩

lemma getLast?_filter {β : Type} {xs : List β} {x : β} {f : β → Bool} (hx : xs.getLast? = some x)
    (hf : f x = true) : (xs.filter f).getLast? = some x := by
  obtain ⟨ys, rfl⟩ := List.getLast?_eq_some_iff.1 hx
  rw [List.filter_append, List.filter_cons_of_pos hf, List.filter_nil, List.getLast?_concat]

lemma Kept.cleanup (hs : Kept s) {cutoff : ℕ} (hspared : s.shutdownExport.isSome →
    ∀ x, s.disk.getLast? = some x → cutoff ≤ x.second) :
    Kept { s with disk := s.disk.filter fun x => cutoff ≤ x.second } := by
  refine ⟨hs.sound, hs.written, hs.exporting, hs.exported, hs.requested,
    fun n hn hsaved => ?_, hs.accepted⟩
  obtain ⟨ws, x, hws, hx, hsub⟩ := hs.covered n hn hsaved
  have hnew : cutoff ≤ x.second := hspared (by rw [hws]; rfl) x hx
  exact ⟨ws, x, hws, getLast?_filter hx (by simpa using hnew), hsub⟩

lemma Kept.signal (hs : Kept s) {s' : RunningService α}
    (hroom : (s.engine.worker .snapshot).isFull = false)
    (h : { s with shutdownRequest := some s.engine.submitted }.engineStep
      (.submit .snapshot .saveSnapshot) = some s') : Kept s' := by
  obtain ⟨E', hE', rfl⟩ := Option.map_eq_some_iff.1 h
  have hkept := hs.engine hE' fun name a he => by cases he
  have hfresh : ∀ r, r ∈ E'.repliesTo s.engine.submitted → r = .workerStopped := by
    intro r hr
    rcases Engine.mem_replies_step hE' (Engine.mem_repliesTo.1 hr) with hold | hstop | hfull | hnew
    · have hlt := hs.sound.repliesCounted _ hold
      exact absurd hlt (Nat.lt_irrefl _)
    · exact hstop
    · obtain ⟨name, command, hevent, hfull, -⟩ := hfull
      cases hevent
      rw [hroom] at hfull
      cases hfull
    · obtain ⟨name, result, x, hevent, -⟩ := hnew
      cases hevent
  refine ⟨hkept.sound, hkept.written, fun x hx => ?_, hkept.exported, fun n hn => ?_,
    fun n hn hsaved => ?_, fun n hn => ⟨fun hqueue => ?_, fun htarget => ?_⟩⟩
  · -- an export under way is of an earlier request
    obtain ⟨hwrites, y, hy, -⟩ := hs.exporting x hx
    have hstill := Engine.running_step hE' hy fun result hevent => by cases hevent
    refine ⟨hwrites, y, hstill, fun heq => ?_⟩
    have hlt := (hs.sound.unanswered hy).1
    have hnumber : s.engine.submitted = y.1 := Option.some.inj heq
    omega
  · obtain rfl := Option.some.inj hn
    exact Engine.submit_lt hE'
  · obtain rfl := Option.some.inj hn
    exact absurd (hfresh _ hsaved) (by simp)
  · obtain rfl := Option.some.inj hn
    exact absurd (hfresh _ hqueue) (by simp)
  · obtain rfl := Option.some.inj hn
    exact absurd (hfresh _ htarget) (by simp)

lemma Kept.step (hs : Kept s) {e : ServiceEvent α} (he : Orderly s e) {s' : RunningService α}
    (h : s.step e = some s') : Kept s' := by
  unfold RunningService.step at h
  obtain ⟨-, h⟩ := Option.ite_none_left_eq_some.1 h
  cases e with
  | submit name text =>
    obtain ⟨-, h⟩ := Option.ite_none_left_eq_some.1 h
    exact hs.engineStep h fun name a he => by cases he
  | requestSnapshot => exact hs.engineStep h fun name a he => by cases he
  | take name => exact hs.engineStep h fun name a he => by cases he
  | write =>
    simp only at h
    split at h
    · next n c hrunning hfree =>
      obtain ⟨-, h⟩ := Option.ite_none_left_eq_some.1 h
      cases h
      exact hs.write hfree n
    · cases h
  | finish name ok =>
    simp only at h
    split at h
    · next n c hrunning =>
      obtain ⟨hfree, h⟩ := Option.ite_none_left_eq_some.1 h
      refine hs.engineStep h fun name' a hevent => ?_
      cases hevent
      exact truthful_answerOf hrunning hfree
    · cases h
  | beginExport =>
    simp only at h
    split at h
    · next n c hrunning _ =>
      obtain ⟨-, h⟩ := Option.ite_none_left_eq_some.1 h
      cases h
      exact hs.beginExport hrunning
    · cases h
  | refuseExport =>
    simp only at h
    split at h
    · next hfree =>
      obtain ⟨-, h⟩ := Option.ite_none_right_eq_some.1 h
      refine hs.engineStep h fun name a hevent => ?_
      cases hevent
      exact ⟨fun _ => hfree, ServiceAnswer.noConfusion, ServiceAnswer.noConfusion, fun _ => he⟩
    · cases h
  | endExport ok =>
    simp only at h
    split at h
    · next x hx =>
      obtain ⟨hwrites, y, hy, hshutdown⟩ := hs.exporting x hx
      split_ifs at h
      · refine (hs.saved hx).engineStep h fun name a hevent => ?_
        cases hevent
        refine ⟨fun _ => rfl, ServiceAnswer.noConfusion, fun _ z hz hrequest => ?_,
          ServiceAnswer.noConfusion⟩
        obtain rfl : y = z := Option.some.inj (hy.symm.trans hz)
        exact ⟨x.writes, x, hshutdown hrequest, List.getLast?_concat, List.Subset.refl _⟩
      · refine hs.notExporting.engineStep h fun name a hevent => ?_
        cases hevent
        exact ⟨fun _ => rfl, ServiceAnswer.noConfusion, ServiceAnswer.noConfusion,
          ServiceAnswer.noConfusion⟩
    · cases h
  | receive m =>
    obtain ⟨-, h⟩ := Option.ite_none_left_eq_some.1 h
    cases h
    exact hs.receive _
  | tick =>
    cases h
    exact ⟨hs.sound, hs.written, hs.exporting, hs.exported, hs.requested, hs.covered,
      hs.accepted⟩
  | cleanup cutoff =>
    cases h
    exact hs.cleanup he
  | signal =>
    simp only at h
    split at h
    · exact hs.signal he h
    · cases h
  | callShutdown =>
    simp only at h
    split at h
    · obtain ⟨-, h⟩ := Option.ite_none_left_eq_some.1 h
      exact hs.engineStep h fun name a he => by cases he
    · cases h
  | sendShutdown => exact hs.engineStep h fun name a he => by cases he
  | join => exact hs.engineStep h fun name a he => by cases he
  | exit =>
    simp only at h
    split at h
    · cases h
      exact ⟨hs.sound, hs.written, hs.exporting, hs.exported, hs.requested, hs.covered,
      hs.accepted⟩
    · cases h

/-! ### The order of the snapshots -/

structure InOrder (s : RunningService α) : Prop where
  dated : Dated s.clock s.disk
  exporting : ∀ x, s.exporting = some x →
    x.second ≤ s.clock ∧ ∀ y ∈ s.disk, y.second < x.second

lemma Dated.tick {clock : ℕ} {disk : List SavedSnapshot} (h : Dated clock disk) :
    Dated (clock + 1) disk :=
  ⟨h.1, fun x hx => Nat.le_succ_of_le (h.2 x hx)⟩

lemma Dated.append {clock : ℕ} {disk : List SavedSnapshot} (h : Dated clock disk)
    {x : SavedSnapshot} (hx : x.second ≤ clock) (hnewer : ∀ y ∈ disk, y.second < x.second) :
    Dated clock (disk ++ [x]) := by
  refine ⟨List.pairwise_append.2 ⟨h.1, List.pairwise_singleton _ _, fun y hy z hz => ?_⟩,
    fun y hy => ?_⟩
  · obtain rfl := List.mem_singleton.1 hz
    exact hnewer y hy
  · rcases List.mem_append.1 hy with hy | hy
    · exact h.2 y hy
    · obtain rfl := List.mem_singleton.1 hy
      exact hx

lemma Dated.newest {clock : ℕ} {disk : List SavedSnapshot} (h : Dated clock disk)
    {x : SavedSnapshot} (hx : disk.getLast? = some x) : ∀ y ∈ disk, y.second ≤ x.second := by
  obtain ⟨ys, rfl⟩ := List.getLast?_eq_some_iff.1 hx
  obtain ⟨-, -, hlt⟩ := List.pairwise_append.1 h.1
  intro y hy
  rcases List.mem_append.1 hy with hy | hy
  · exact (hlt y hy x (List.mem_singleton_self x)).le
  · rw [List.mem_singleton.1 hy]

lemma InOrder.engineStep (hs : InOrder s) {e : EngineEvent (ServiceRequest α) ServiceAnswer}
    {s' : RunningService α} (h : s.engineStep e = some s') : InOrder s' := by
  obtain ⟨E', -, rfl⟩ := Option.map_eq_some_iff.1 h
  exact ⟨hs.dated, hs.exporting⟩

lemma InOrder.beginExport (hs : InOrder s) (hfree : ¬ s.targetExists = true)
    (ws : Option (List ℕ)) : InOrder { s with
      exporting := some ⟨s.clock, s.writes⟩
      shutdownExport := ws } := by
  refine ⟨hs.dated, fun x hx => ?_⟩
  cases hx
  refine ⟨Nat.le_refl _, fun y hy => Nat.lt_of_le_of_ne (hs.dated.2 y hy) fun heq => hfree ?_⟩
  have hthere : (s.disk.map (·.second)).contains s.clock = true :=
    List.contains_iff_mem.2 (List.mem_map.2 ⟨y, hy, heq⟩)
  rw [targetExists, hthere, Bool.true_or]

lemma InOrder.saved (hs : InOrder s) {x : SavedSnapshot} (hx : s.exporting = some x) :
    InOrder { s with exporting := none, disk := s.disk ++ [x] } :=
  ⟨hs.dated.append (hs.exporting x hx).1 (hs.exporting x hx).2,
    fun y hy => absurd hy.symm (Option.some_ne_none y)⟩

lemma InOrder.notExporting (hs : InOrder s) : InOrder { s with exporting := none } :=
  ⟨hs.dated, fun y hy => absurd hy.symm (Option.some_ne_none y)⟩

lemma InOrder.requested (hs : InOrder s) (n : Option ℕ) :
    InOrder { s with shutdownRequest := n } :=
  ⟨hs.dated, hs.exporting⟩

lemma InOrder.step (hs : InOrder s) {e : ServiceEvent α} {s' : RunningService α}
    (h : s.step e = some s') : InOrder s' := by
  unfold RunningService.step at h
  obtain ⟨-, h⟩ := Option.ite_none_left_eq_some.1 h
  cases e with
  | submit name text => exact hs.engineStep (Option.ite_none_left_eq_some.1 h).2
  | requestSnapshot => exact hs.engineStep h
  | take name => exact hs.engineStep h
  | write =>
    simp only at h
    split at h
    · obtain ⟨-, h⟩ := Option.ite_none_left_eq_some.1 h
      cases h
      exact ⟨hs.dated, hs.exporting⟩
    · cases h
  | finish name ok =>
    simp only at h
    split at h
    · exact hs.engineStep (Option.ite_none_left_eq_some.1 h).2
    · cases h
  | beginExport =>
    simp only at h
    split at h
    · obtain ⟨hfree, h⟩ := Option.ite_none_left_eq_some.1 h
      cases h
      exact hs.beginExport hfree _
    · cases h
  | refuseExport =>
    simp only at h
    split at h
    · exact hs.engineStep (Option.ite_none_right_eq_some.1 h).2
    · cases h
  | endExport ok =>
    simp only at h
    split at h
    · next x hx =>
      split_ifs at h
      · exact (hs.saved hx).engineStep h
      · exact hs.notExporting.engineStep h
    · cases h
  | receive m =>
    obtain ⟨-, h⟩ := Option.ite_none_left_eq_some.1 h
    cases h
    exact ⟨hs.dated, hs.exporting⟩
  | tick =>
    cases h
    exact ⟨hs.dated.tick, fun x hx =>
      ⟨Nat.le_succ_of_le (hs.exporting x hx).1, (hs.exporting x hx).2⟩⟩
  | cleanup cutoff =>
    cases h
    exact ⟨⟨hs.dated.1.filter _, fun x hx => hs.dated.2 x (List.mem_of_mem_filter hx)⟩,
      fun x hx => ⟨(hs.exporting x hx).1, fun y hy =>
        (hs.exporting x hx).2 y (List.mem_of_mem_filter hy)⟩⟩
  | signal =>
    simp only at h
    split at h
    · exact (hs.requested _).engineStep h
    · cases h
  | callShutdown =>
    simp only at h
    split at h
    · exact hs.engineStep (Option.ite_none_left_eq_some.1 h).2
    · cases h
  | sendShutdown => exact hs.engineStep h
  | join => exact hs.engineStep h
  | exit =>
    simp only at h
    split at h
    · cases h
      exact ⟨hs.dated, hs.exporting⟩
    · cases h

/-- **An orderly shutdown** gets its snapshot, and this loses no write that a client knows of and
that was executed before its export. Where the directory was in order at the start, the snapshot
that was saved last is the one of the greatest name. -/
theorem shutdown_loses_nothing (readWorkers writeQueueSize readQueueSize snapshotQueueSize : ℕ)
    (clock : ℕ) (disk : List SavedSnapshot) (leftovers : List ℕ) {es : List (ServiceEvent α)}
    {t : RunningService α}
    (hok : (system α).Along Orderly (opened
      (.opened readWorkers writeQueueSize readQueueSize snapshotQueueSize) clock disk leftovers) es)
    (hrun : (system α).run (opened
      (.opened readWorkers writeQueueSize readQueueSize snapshotQueueSize) clock disk leftovers) es =
        some t) :
    Durable t t.BeforeExport ∧ (Dated clock disk →
      ∀ x, t.disk.getLast? = some x → ∀ y ∈ t.disk, y.second ≤ x.second) := by
  have hstart : Kept (opened (α := α)
      (.opened readWorkers writeQueueSize readQueueSize snapshotQueueSize) clock disk leftovers) :=
    kept_opened (Engine.sound_opened ..) rfl clock disk leftovers
  have hstep : ∀ (s : RunningService α) e s', Kept s → Orderly s e →
      (system α).step s e = some s' → Kept s' := fun _ _ _ hs he h => hs.step he h
  refine ⟨(System.invariant hstep hstart hok hrun).durable, fun hdated x hx => ?_⟩
  have horder : InOrder (opened (α := α)
      (.opened readWorkers writeQueueSize readQueueSize snapshotQueueSize) clock disk leftovers) :=
    ⟨hdated, fun y hy => absurd hy.symm (Option.some_ne_none y)⟩
  have hinOrder : ∀ (s : RunningService α) e s', InOrder s → True →
      (system α).step s e = some s' → InOrder s' := fun _ _ _ hs _ h => hs.step h
  exact (System.invariant hinOrder horder (System.along_of_forall (fun _ _ _ => trivial) _)
    hrun).dated.newest hx

def insertAnswered (n : ℕ) : List (ServiceEvent String) :=
  [.submit .write "INSERT INTO t VALUES (1)", .take .write, .write, .finish .write true, .receive n]

def signalAnswered : List (ServiceEvent String) :=
  [.signal, .take .snapshot, .beginExport, .endExport true]

def stopAll : List (ServiceEvent String) :=
  [.callShutdown, .sendShutdown, .sendShutdown, .sendShutdown, .sendShutdown,
    .take .write, .take (.read 0), .take .snapshot, .join, .join, .join, .exit]

def justOpened : RunningService String := opened (.opened 1 1 1 1) 7 [] []

/-- A client on an open connection inserts after the snapshot, and hears that this has succeeded. -/
def insertAfterSnapshot : List (ServiceEvent String) :=
  signalAnswered ++ insertAnswered 1 ++ stopAll

/-- A snapshot is saved, and the signal comes within the same second. -/
def signalAfterSnapshot : List (ServiceEvent String) :=
  [.requestSnapshot, .take .snapshot, .beginExport, .endExport true, .signal, .take .snapshot,
    .refuseExport]

theorem shutdown_loses_insert :
    (∃ t, (system String).run justOpened insertAfterSnapshot = some t ∧ t.exited = true ∧
        t.Answered 0 .saved ∧ t.received = [1] ∧ t.Answered 1 .written ∧
          t.disk.map (·.writes) = [[]] ∧ ¬ Durable t fun _ => True) ∧
      ∃ t, (system String).run justOpened signalAfterSnapshot = some t ∧
        t.engine.repliesTo 1 = [.result .targetExists] ∧ ¬ Durable t fun _ => True := by
  refine ⟨⟨_, rfl, rfl, List.mem_singleton_self _, rfl, List.mem_singleton_self _, rfl, fun h => ?_⟩,
    ⟨_, rfl, rfl, fun h => ?_⟩⟩
  · obtain ⟨x, hx, hmem⟩ := h.kept 0 rfl (List.mem_singleton_self _) 1 (List.mem_singleton_self _)
      (List.mem_singleton_self _) trivial
    cases hx
    cases hmem
  · exact (h.accepted 1 rfl).2 (List.mem_singleton_self _)

/-- One insert comes before the signal and the snapshot has it, another comes after it. -/
theorem shutdown_keeps_insert : ∃ t,
    (system String).run justOpened (insertAnswered 0 ++ signalAnswered ++ insertAnswered 2 ++
        stopAll) = some t ∧
      t.exited = true ∧ t.Answered 1 .saved ∧ t.received = [0, 2] ∧ t.Answered 0 .written ∧
        t.BeforeExport 0 ∧ ¬ t.BeforeExport 2 ∧ Durable t t.BeforeExport := by
  have hok : (system String).Along Orderly justOpened
      (insertAnswered 0 ++ signalAnswered ++ insertAnswered 2 ++ stopAll) := by
    refine ⟨trivial, fun _ h => ?_⟩
    cases h
    refine ⟨trivial, fun _ h => ?_⟩
    cases h
    refine ⟨trivial, fun _ h => ?_⟩
    cases h
    refine ⟨trivial, fun _ h => ?_⟩
    cases h
    refine ⟨trivial, fun _ h => ?_⟩
    cases h
    refine ⟨rfl, fun s _ => System.along_of_forall (fun e he s => ?_) s⟩
    fin_cases he <;> trivial
  refine ⟨_, rfl, rfl, List.mem_singleton_self _, rfl, List.mem_singleton_self _, fun ws hws => ?_,
    fun h => ?_, (shutdown_loses_nothing 1 1 1 1 7 [] [] hok rfl).1⟩
  · cases hws
    exact List.mem_singleton_self _
  · cases List.mem_singleton.1 (h _ rfl)

end RunningService

end Rsduck.Server
