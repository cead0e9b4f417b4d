import Mathlib.Data.List.Perm.Subperm
import Rsduck.Db.Engine

/-!
The requests of the vector API: each owns one of a limited number of permits while it waits for
its command.

The future of a handler is dropped with all it owns when its client disconnects. After a timeout
the permit and the wait are moved to a task of their own, which goes on to the reply.
-/

namespace Rsduck.Server

open Lib Db

/-- A request with a permit; its command is known by the number of its submission, once there is
one. -/
structure PendingRequest where
  id : ℕ
  command : Option ℕ := none
  /-- the permit is owned by a task of its own -/
  detached : Bool := false

/-- The requests that own a permit now, and those that have given theirs back. -/
structure VectorRequests (α ρ : Type) where
  engine : Engine α ρ
  permits : ℕ
  arrived : ℕ := 0
  requests : List PendingRequest := []
  released : List PendingRequest := []

inductive VectorRequestEvent (α ρ : Type)
  | arrive
  | send (id : ℕ) (name : WorkerName) (command : α)
  | complete (id : ℕ)
  | timeOut (id : ℕ)
  | abandon (id : ℕ)
  /-- the engine's own steps, with the submissions of other clients -/
  | engine (e : EngineEvent α ρ)

namespace VectorRequests

variable {α ρ : Type}

/-- `try_acquire`; without a permit the request is refused. -/
def acquireVectorApiPermit (A : VectorRequests α ρ) : VectorRequests α ρ :=
  match A.permits with
  | 0 => A
  | permits + 1 =>
    { A with
      permits := permits
      arrived := A.arrived + 1
      requests := A.requests ++ [{ id := A.arrived }] }

def request (A : VectorRequests α ρ) (id : ℕ) : Option PendingRequest :=
  A.requests.find? (·.id == id)

def update (A : VectorRequests α ρ) (id : ℕ) (f : PendingRequest → PendingRequest) :
    VectorRequests α ρ :=
  { A with requests := A.requests.map fun r => if r.id == id then f r else r }

/-- The permit of a request is dropped, with its wait. -/
def release (A : VectorRequests α ρ) (r : PendingRequest) : VectorRequests α ρ :=
  { A with
    permits := A.permits + 1
    requests := A.requests.filter (·.id != r.id)
    released := A.released ++ [r] }

def step (A : VectorRequests α ρ) : VectorRequestEvent α ρ → Option (VectorRequests α ρ)
  | .arrive => some A.acquireVectorApiPermit
  | .send id name command => do
    let r ← A.request id
    if r.command.isNone then
      let engine ← A.engine.step (.submit name command)
      return { A.update id fun r => { r with command := some A.engine.submitted } with engine }
    else none
  | .complete id => do
    let r ← A.request id
    let n ← r.command
    if A.engine.repliesTo n ≠ [] then return A.release r else none
  | .timeOut id => do
    let r ← A.request id
    if r.detached then none else return A.update id fun r => { r with detached := true }
  | .abandon id => do
    let r ← A.request id
    if r.detached then none else return A.release r
  | .engine e => (A.engine.step e).map fun engine => { A with engine }

variable (α ρ) in
def system : System (VectorRequests α ρ) (VectorRequestEvent α ρ) := ⟨step⟩

/-- The service before the first request. -/
def opened (maxConcurrentRequests : ℕ) (engine : Engine α ρ) : VectorRequests α ρ where
  engine
  permits := maxConcurrentRequests

/-- The commands of the vector API. -/
def commands (A : VectorRequests α ρ) : List ℕ := (A.requests ++ A.released).filterMap (·.command)

/-- The vector operations queued or running in the workers. -/
def operations (A : VectorRequests α ρ) : List ℕ :=
  A.engine.inWorkers.filter (· ∈ A.commands)

/-- The concurrency limit holds, and every permit is given back once, when its operation is done. -/
structure LimitHolds (limit : ℕ) (A : VectorRequests α ρ) : Prop where
  limited : A.operations.length ≤ limit
  permits : A.permits + A.requests.length = limit
  once : ((A.requests ++ A.released).map (·.id)).Perm (List.range A.arrived)
  done : ∀ r ∈ A.released, ∀ n, r.command = some n → ¬ A.engine.InWorkers n
  returns : ∀ r ∈ A.requests, ∀ n, r.command = some n → ¬ A.engine.InWorkers n →
    A.step (.complete r.id) = some (A.release r)

/-- No handler is dropped while its command is queued or running in a worker. -/
def StaysForOperation (A : VectorRequests α ρ) : VectorRequestEvent α ρ → Prop
  | .abandon id => ∀ r ∈ A.requests, r.id = id → r.detached = false →
      ∀ n, r.command = some n → ¬ A.engine.InWorkers n
  | _ => True

/-! ### What every step keeps -/

/-- A request is one of many by its number. -/
lemma perm_cons_filter {rs : List PendingRequest} (hnodup : (rs.map (·.id)).Nodup)
    {r : PendingRequest} (hr : r ∈ rs) : rs.Perm (r :: rs.filter (·.id != r.id)) := by
  induction rs with
  | nil => cases hr
  | cons s rs ih =>
    rw [List.map_cons, List.nodup_cons] at hnodup
    obtain ⟨hs, hnodup⟩ := hnodup
    rcases List.mem_cons.1 hr with rfl | hr
    · have hall : rs.filter (·.id != r.id) = rs := List.filter_eq_self.2 fun t ht => by
        rw [bne_iff_ne]
        exact fun h => hs (List.mem_map.2 ⟨t, ht, h⟩)
      rw [List.filter_cons_of_neg (by simp), hall]
    · have hne : s.id ≠ r.id := fun h => hs (List.mem_map.2 ⟨r, hr, h.symm⟩)
      rw [List.filter_cons_of_pos (by simpa using hne)]
      exact ((ih hnodup hr).cons s).trans (List.Perm.swap r s _)

structure Kept (limit : ℕ) (A : VectorRequests α ρ) : Prop where
  sound : A.engine.Sound
  permits : A.permits + A.requests.length = limit
  once : ((A.requests ++ A.released).map (·.id)).Perm (List.range A.arrived)
  sent : ∀ r ∈ A.requests ++ A.released, ∀ n, r.command = some n → n < A.engine.submitted
  done : ∀ r ∈ A.released, ∀ n, r.command = some n → ¬ A.engine.InWorkers n

variable {limit : ℕ} {A : VectorRequests α ρ}

lemma Kept.nodup (hA : Kept limit A) : (A.requests.map (·.id)).Nodup := by
  have hall : ((A.requests ++ A.released).map (·.id)).Nodup := hA.once.nodup_iff.2 List.nodup_range
  rw [List.map_append] at hall
  exact (List.nodup_append.1 hall).1

lemma request_eq_some (hA : Kept limit A) {id : ℕ} {r : PendingRequest} :
    A.request id = some r ↔ r ∈ A.requests ∧ r.id = id := by
  constructor
  · intro h
    unfold request at h
    have hid := List.find?_some h
    exact ⟨List.mem_of_find?_eq_some h, eq_of_beq hid⟩
  · rintro ⟨hr, rfl⟩
    unfold request
    rcases hfound : A.requests.find? (·.id == r.id) with _ | s
    · have hnot := List.find?_eq_none.1 hfound r hr
      simp at hnot
    · have hid := List.find?_some hfound
      rw [hfound, List.inj_on_of_nodup_map hA.nodup (List.mem_of_find?_eq_some hfound) hr
        (eq_of_beq hid)]

lemma Kept.release (hA : Kept limit A) {r : PendingRequest} (hr : r ∈ A.requests)
    (hdone : ∀ n, r.command = some n → ¬ A.engine.InWorkers n) : Kept limit (A.release r) := by
  have hperm := perm_cons_filter hA.nodup hr
  have hlength : A.requests.length = (A.requests.filter (·.id != r.id)).length + 1 :=
    hperm.length_eq
  have hall : (A.requests.filter (·.id != r.id) ++ (A.released ++ [r])).Perm
      (A.requests ++ A.released) := by
    rw [← List.append_assoc]
    refine (List.perm_append_singleton r _).trans ?_
    rw [← List.cons_append]
    exact hperm.symm.append_right _
  refine ⟨hA.sound, ?_, (hall.map _).trans hA.once, fun s hs => hA.sent s (hall.subset hs),
    fun s hs => ?_⟩
  · have hpermits := hA.permits
    change A.permits + 1 + (A.requests.filter (·.id != r.id)).length = limit
    omega
  · rcases List.mem_append.1 hs with hs | hs
    · exact hA.done s hs
    · rw [List.mem_singleton.1 hs]
      exact hdone

/-- A request that owns a permit changes, and goes on owning it. -/
lemma Kept.update (hA : Kept limit A) {id : ℕ} {f : PendingRequest → PendingRequest}
    (hid : ∀ r, (f r).id = r.id)
    (hsent : ∀ r ∈ A.requests, ∀ n, (f r).command = some n → n < A.engine.submitted) :
    Kept limit (A.update id f) := by
  have hids : ((A.update id f).requests.map (·.id)) = A.requests.map (·.id) := by
    unfold VectorRequests.update
    rw [List.map_map]
    refine List.map_congr_left fun r _ => ?_
    change (if r.id == id then f r else r).id = r.id
    split_ifs
    · exact hid r
    · rfl
  refine ⟨hA.sound, ?_, ?_, fun r hr => ?_, hA.done⟩
  · change A.permits + (A.update id f).requests.length = limit
    unfold VectorRequests.update
    rw [List.length_map]
    exact hA.permits
  · rw [List.map_append, hids, ← List.map_append]
    exact hA.once
  · rcases List.mem_append.1 hr with hr | hr
    · obtain ⟨s, hs, rfl⟩ := List.mem_map.1 hr
      split_ifs
      · exact hsent s hs
      · exact hA.sent s (List.mem_append_left _ hs)
    · exact hA.sent r (List.mem_append_right _ hr)

lemma Kept.engine (hA : Kept limit A) {e : EngineEvent α ρ} {E' : Engine α ρ}
    (h : A.engine.step e = some E') : Kept limit { A with engine := E' } := by
  refine ⟨hA.sound.step h, hA.permits, hA.once, fun r hr n hn => ?_, fun r hr n hn hin => ?_⟩
  · exact Nat.lt_of_lt_of_le (hA.sent r hr n hn) (Engine.submitted_le h)
  · have hlt := hA.sent r (List.mem_append_right _ hr) n hn
    exact hA.done r hr n hn (Engine.inWorkers_step h hlt hin)

lemma Kept.acquire (hA : Kept limit A) : Kept limit A.acquireVectorApiPermit := by
  unfold acquireVectorApiPermit
  split
  · exact hA
  · next permits hpermits =>
    refine ⟨hA.sound, ?_, ?_, fun r hr n hn => ?_, hA.done⟩
    · have h := hA.permits
      simp only [List.length_append, List.length_singleton]
      omega
    · have hperm : (A.requests ++ [PendingRequest.mk A.arrived none false] ++ A.released).Perm
          (PendingRequest.mk A.arrived none false :: (A.requests ++ A.released)) := by
        rw [List.append_assoc]
        exact List.perm_middle
      refine (hperm.map _).trans ?_
      rw [List.map_cons, List.range_succ]
      exact (hA.once.cons _).trans (List.perm_append_singleton _ _).symm
    · simp only [List.mem_append, List.mem_singleton] at hr
      rcases hr with (hr | rfl) | hr
      · exact hA.sent r (List.mem_append_left _ hr) n hn
      · cases hn
      · exact hA.sent r (List.mem_append_right _ hr) n hn

lemma complete_eq_some {id : ℕ} {A' : VectorRequests α ρ} :
    A.step (.complete id) = some A' ↔ ∃ r n, A.request id = some r ∧ r.command = some n ∧
      A.engine.repliesTo n ≠ [] ∧ A' = A.release r := by
  simp only [step, Option.bind_eq_bind, Option.pure_def, Option.bind_eq_some_iff,
    Option.ite_some_none_eq_some]
  constructor
  · rintro ⟨r, hr, n, hn, hreply, rfl⟩
    exact ⟨r, n, hr, hn, hreply, rfl⟩
  · rintro ⟨r, n, hr, hn, hreply, rfl⟩
    exact ⟨r, hr, n, hn, hreply, rfl⟩

lemma abandon_eq_some {id : ℕ} {A' : VectorRequests α ρ} : A.step (.abandon id) = some A' ↔
    ∃ r, A.request id = some r ∧ r.detached = false ∧ A' = A.release r := by
  simp only [step, Option.bind_eq_bind, Option.pure_def, Option.bind_eq_some_iff,
    Option.ite_none_left_eq_some, Option.some.injEq, Bool.not_eq_true]
  constructor
  · rintro ⟨r, hr, hattached, rfl⟩
    exact ⟨r, hr, hattached, rfl⟩
  · rintro ⟨r, hr, hattached, rfl⟩
    exact ⟨r, hr, hattached, rfl⟩

/-- A command with a reply is not in the workers any more. -/
lemma notInWorkers_of_reply (hA : Kept limit A) {n : ℕ} (hreply : A.engine.repliesTo n ≠ []) :
    ¬ A.engine.InWorkers n := by
  rintro ⟨name, x, hx, rfl⟩
  exact hreply (hA.sound.pending name x hx)

lemma Kept.step {e : VectorRequestEvent α ρ} {A' : VectorRequests α ρ} (hA : Kept limit A)
    (he : StaysForOperation A e) (h : A.step e = some A') : Kept limit A' := by
  cases e with
  | arrive =>
    cases h
    exact hA.acquire
  | send id name command =>
    simp only [VectorRequests.step, Option.bind_eq_bind, Option.pure_def,
      Option.bind_eq_some_iff] at h
    obtain ⟨r, -, h⟩ := h
    split_ifs at h with hunsent
    obtain ⟨E', hE', hA'⟩ := Option.bind_eq_some_iff.1 h
    cases hA'
    have hnext := Engine.submit_lt hE'
    have hengine := hA.engine hE'
    exact hengine.update (fun _ => rfl) fun s hs n hn => by
      obtain rfl := Option.some.inj hn
      exact hnext
  | complete id =>
    obtain ⟨r, n, hr, hn, hreply, rfl⟩ := complete_eq_some.1 h
    refine hA.release ((request_eq_some hA).1 hr).1 fun m hm => ?_
    obtain rfl : n = m := Option.some.inj (hn.symm.trans hm)
    exact notInWorkers_of_reply hA hreply
  | timeOut id =>
    simp only [VectorRequests.step, Option.bind_eq_bind, Option.pure_def,
      Option.bind_eq_some_iff, Option.ite_none_left_eq_some] at h
    obtain ⟨r, -, -, h⟩ := h
    cases h
    exact hA.update (fun _ => rfl) fun r hr n hn => hA.sent r (List.mem_append_left _ hr) n hn
  | abandon id =>
    obtain ⟨r, hr, hattached, rfl⟩ := abandon_eq_some.1 h
    obtain ⟨hr, hid⟩ := (request_eq_some hA).1 hr
    exact hA.release hr (he r hr hid hattached)
  | engine e =>
    obtain ⟨E', hE', rfl⟩ := Option.map_eq_some_iff.1 h
    exact hA.engine hE'

lemma Kept.limitHolds (hA : Kept limit A) : LimitHolds limit A := by
  refine ⟨?_, hA.permits, hA.once, hA.done, fun r hr n hn hout => ?_⟩
  · -- what is in the workers for the vector API belongs to a request that owns a permit
    have hsub : A.operations ⊆ A.requests.filterMap (·.command) := fun n hn => by
      obtain ⟨hin, hn⟩ := List.mem_filter.1 hn
      obtain ⟨r, hr, hrn⟩ := List.mem_filterMap.1 (of_decide_eq_true hn)
      rcases List.mem_append.1 hr with hr | hr
      · exact List.mem_filterMap.2 ⟨r, hr, hrn⟩
      · exact absurd (Engine.mem_inWorkers hin) (hA.done r hr n hrn)
    have hnodup : A.operations.Nodup := hA.sound.nodup_inWorkers.filter _
    have hle : A.operations.length ≤ (A.requests.filterMap (·.command)).length :=
      (hnodup.subperm hsub).length_le
    have hrequests : (A.requests.filterMap (·.command)).length ≤ A.requests.length :=
      List.length_filterMap_le _ _
    have hpermits := hA.permits
    omega
  · have hlt := hA.sent r (List.mem_append_left _ hr) n hn
    exact complete_eq_some.2 ⟨r, n, (request_eq_some hA).2 ⟨hr, rfl⟩, hn,
      hA.sound.repliesTo_ne_nil hlt hout, rfl⟩

lemma kept_opened {engine : Engine α ρ} (hengine : engine.Sound) (limit : ℕ) :
    Kept limit (opened limit engine) :=
  ⟨hengine, rfl, .nil, fun _ hr => absurd hr List.not_mem_nil,
    fun _ hr => absurd hr List.not_mem_nil⟩

/-- A handler that is dropped too early gives back the permit of an operation that goes on. -/
lemma exists_released_inWorkers (hA : Kept limit A) {e : VectorRequestEvent α ρ}
    (he : ¬ StaysForOperation A e) : ∃ A', A.step e = some A' ∧ ¬ LimitHolds limit A' := by
  cases e with
  | abandon id =>
    unfold StaysForOperation at he
    push Not at he
    obtain ⟨r, hr, hid, hattached, n, hn, hin⟩ := he
    refine ⟨A.release r, abandon_eq_some.2 ⟨r, (request_eq_some hA).2 ⟨hr, hid⟩, hattached, rfl⟩,
      fun hlimit => ?_⟩
    exact hlimit.done r (List.mem_append_right _ (List.mem_singleton_self r)) n hn hin
  | arrive => exact absurd trivial he
  | send id name command => exact absurd trivial he
  | complete id => exact absurd trivial he
  | timeOut id => exact absurd trivial he
  | engine e => exact absurd trivial he

/-- **The concurrency limit of the vector API** holds all along a run exactly when no handler is
dropped in it while its operation is queued or running in a worker. -/
theorem limit_holds_iff (maxConcurrentRequests : ℕ)
    (readWorkers writeQueueSize readQueueSize snapshotQueueSize : ℕ)
    (es : List (VectorRequestEvent α ρ)) :
    (∀ fs A, fs <+: es → (system α ρ).run (opened maxConcurrentRequests
      (.opened readWorkers writeQueueSize readQueueSize snapshotQueueSize)) fs = some A →
        LimitHolds maxConcurrentRequests A) ↔
      (system α ρ).Along StaysForOperation (opened maxConcurrentRequests
        (.opened readWorkers writeQueueSize readQueueSize snapshotQueueSize)) es := by
  have hstart : Kept maxConcurrentRequests (opened maxConcurrentRequests
      (.opened readWorkers writeQueueSize readQueueSize snapshotQueueSize : Engine α ρ)) :=
    kept_opened (Engine.sound_opened ..) _
  have hstep : ∀ (A : VectorRequests α ρ) e A', Kept maxConcurrentRequests A →
      StaysForOperation A e → (system α ρ).step A e = some A' → Kept maxConcurrentRequests A' :=
    fun _ _ _ hA he h => hA.step he h
  have hshows : ∀ (A : VectorRequests α ρ) e, Kept maxConcurrentRequests A →
      ¬ StaysForOperation A e →
      ∃ A', (system α ρ).step A e = some A' ∧ ¬ LimitHolds maxConcurrentRequests A' :=
    fun _ _ hA he => exists_released_inWorkers hA he
  exact System.along_iff (fun _ => Kept.limitHolds) hstep hshows hstart es

/-- A client disconnects while its upsert is running, and another one comes. -/
def disconnectBesideUpsert : List (VectorRequestEvent String Unit) :=
  [.arrive, .send 0 .write "vector_upsert", .engine (.take .write), .abandon 0,
    .arrive, .send 1 .write "vector_upsert"]

/-- With one permit two operations are in the workers. -/
theorem two_operations_with_one_permit : ∃ A : VectorRequests String Unit,
    (system String Unit).run (opened 1 (.opened 1 1 1 1)) disconnectBesideUpsert = some A ∧
      A.operations = [0, 1] ∧ ¬ LimitHolds 1 A := by
  refine ⟨_, rfl, rfl, fun h => ?_⟩
  have htwo := h.limited
  exact absurd htwo (by decide)

end VectorRequests

end Rsduck.Server
