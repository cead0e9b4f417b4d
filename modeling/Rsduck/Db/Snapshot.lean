import Mathlib.Data.List.Sort
import Rsduck.Db.Handed
import Rsduck.Db.Transactions
import Rsduck.Lib.Run

/-!
A snapshot beside the commands of the workers.

The export reads the catalog and the data one table after the other, each read on its own,
while it holds the gate. The commands that take the gate wait for it; the others do not, so that
the export is of one state as long as none of those changes anything.
-/

namespace Rsduck.Db

open Lib Lib.Eff Lib.Text Catalog Mysql

/-! ### The export -/

def catalogTables : List String :=
  ["rs_catalog_version", "rs_oid_alloc", "rs_catalog_journal", "rs_schema", "rs_type",
    "rs_relation", "rs_column", "rs_column_default", "rs_constraint", "rs_index",
    "rs_vector_index", "rs_dependency", "rs_comment", "rs_relation_ext", "rs_partition",
    "rs_user", "rs_role", "rs_user_role", "rs_privilege"]

structure SnapshotRelation where
  relationId : ℤ
  schema : String
  relation : String
  deriving DecidableEq

inductive ExportRead
  | metadata
  | catalogTable (name : String)
  | dataRelations
  | data (relation : SnapshotRelation)
  | rowCount (relation : SnapshotRelation)
  | partitions
  | views
  | macros
  deriving DecidableEq

def catalogSnapshotMetadata (c : Catalog) : Option (ℤ × String) :=
  (c.rsCatalogVersion.find (·.id == 1)).map fun v => (v.catalogEpoch, v.catalogChecksum)

def snapshotDataRelations (c : Catalog) : List SnapshotRelation :=
  ((c.rsRelation.rows.filter fun r => r.status == .active && r.relkind == .table &&
      (c.rsRelationExt.find (·.relid == r.oid)).isSome).filterMap fun r =>
    (c.rsSchema.find fun n => n.oid == r.relnamespace && n.nspname != "rsduck_catalog").map
      fun n => ⟨r.oid, n.nspname, r.relname⟩).insertionSort fun a b => a.relationId ≤ b.relationId

def exportReads : List ExportRead :=
  .metadata :: catalogTables.map .catalogTable ++
    [.dataRelations, .partitions, .views, .macros, .metadata]

def ExportRead.brings (c : Catalog) : ExportRead → List ExportRead
  | .dataRelations => (snapshotDataRelations c).flatMap fun r => [.data r, .rowCount r]
  | _ => []

/-- An export under way: the reads to come, and those done with the state each has read. -/
structure Export (P : Type) where
  pending : List ExportRead
  seen : List (ExportRead × Db P)

variable {C : Crates} {P K : Type}

namespace Export

def next (d : Db P) (e : Export P) : Option (Export P) :=
  match e.pending with
  | [] => none
  | r :: rest => some ⟨r.brings d.cat ++ rest, e.seen ++ [(r, d)]⟩

def metadata (e : Export P) : List (Option (ℤ × String)) :=
  (e.seen.filter (·.1 == .metadata)).map fun x => catalogSnapshotMetadata x.2.cat

/-- The export is complete, and its two looks at the epoch and the checksum agree. -/
def accepted (e : Export P) : Bool :=
  e.pending.isEmpty && match e.metadata with
    | [some first, some final] => first == final
    | _ => false

def IsOf (d : Db P) (e : Export P) : Prop := ∀ x ∈ e.seen, x.2 = d

lemma isOf_next {d : Db P} {e e' : Export P} (he : e.IsOf d) (h : e.next d = some e') :
    e'.IsOf d := by
  obtain ⟨pending, seen⟩ := e
  cases pending with
  | nil => cases h
  | cons r rest =>
    cases h
    intro x hx
    rcases List.mem_append.1 hx with hx | hx
    · exact he x hx
    · rw [List.mem_singleton.1 hx]

end Export

/-! ### The workers beside it -/

def SqlCommand.isGated : SqlCommand → Bool
  | .runTyped _ _ route _ => route == .write
  | .importParquet _ _ _ | .createVectorIndex _ _ | .vectorUpsert _ _ | .vectorDelete _ _
  | .rebuildVectorIndex _ _ | .compactVectorIndex _ _ => true
  | .authenticate _ _ | .describe _ _ _ | .vectorIndexStatus _ _ | .vectorSearch _ _ => false

inductive GateHolder
  | command | snapshot
  deriving DecidableEq

structure World (P : Type) where
  db : Db P
  gate : Option GateHolder := none
  exporting : Option (Export P) := none

/-- What happens on the workers. A command that does not take the gate runs on any connection:
one with an open transaction, which sees the database its own way, or none. -/
inductive WorkerEvent (P K : Type)
  | takeGate (command : SqlCommand)
  /-- a change that a command makes under the gate -/
  | change (db : Db P)
  | releaseGate
  | ungated (command : SqlCommand) (transaction : Option (Db P)) (settings : K)
  | beginExport
  | read
  | endExport

def connOf (db : Db P) (transaction : Option (Db P)) (settings : K) : Conn P K :=
  ⟨⟨transaction.getD db, transaction.map fun _ => db⟩, settings⟩

@[simp] lemma connOf_committed (db : Db P) (transaction : Option (Db P)) (settings : K) :
    (connOf db transaction settings).session.committed = db := by
  cases transaction <;> rfl

variable (W : Workers C P K)

def workerStep (w : World P) : WorkerEvent P K → Option (World P)
  | .takeGate c =>
    if c.isGated && w.gate == none then some { w with gate := some .command } else none
  | .change d => if w.gate == some .command then some { w with db := d } else none
  | .releaseGate => if w.gate == some .command then some { w with gate := none } else none
  | .ungated c transaction settings =>
    if c.isGated then none
    else some { w with
      db := (after W (connOf w.db transaction settings) c).session.committed }
  | .beginExport =>
    if w.gate == none then
      some { w with gate := some .snapshot, exporting := some ⟨exportReads, []⟩ }
    else none
  | .read =>
    match w.exporting with
    | none => none
    | some e => (e.next w.db).map fun e' => { w with exporting := some e' }
  | .endExport =>
    match w.exporting with
    | none => none
    | some _ => some { w with gate := none, exporting := none }

def workerSystem : System (World P) (WorkerEvent P K) := ⟨workerStep W⟩

/-! ### Commands without the gate -/

abbrev seenByOthers (s : Conn P K) : Db P := s.session.committed

def LoginStays (s : Conn P K) : SqlCommand → Prop
  | .authenticate request _ => s.session.saved = none →
      ∀ u, s.session.now.cat.rsUser.find (·.username == request.username) = some u →
        credentialFits W.passwords request u = false
  | _ => True

/-- A command that changes nothing for others: its texts are only read, and if it is a login it
fails or stays in a transaction. -/
def Unobtrusive (s : Conn P K) (c : SqlCommand) : Prop :=
  TextsWithin W (Same seenByOthers) s c ∧ LoginStays W s c

variable {W} {s : Conn P K}

lemma ownWithin_of_ungated {c : SqlCommand} (hc : c.isGated = false) (h : LoginStays W s c) :
    OwnWithin W (Same seenByOthers) s c := by
  cases c with
  | runTyped username sql route command =>
    cases route with
    | write => cases hc
    | read => exact fun hroute => by cases hroute
  | authenticate request time =>
    change seenByOthers (exec (onSession (Session.statement (Db.onCatalog
      (Catalog.authenticate W.passwords time request)))) s).2 = seenByOthers s
    rw [exec_onSession]
    rcases Session.exec_statement (Db.onCatalog (Catalog.authenticate W.passwords time request))
      s.session with ⟨e, hfail⟩ | ⟨p, d, hrun, hok⟩
    · rw [hfail]
    · rw [hok]
      obtain ⟨hrun, -⟩ := Db.runs_onCatalog.1 hrun
      obtain ⟨u, hfind, hfits, -, -⟩ := (runs_authenticate _ _).1 hrun
      rcases hsaved : s.session.saved with _ | d'
      · rw [h hsaved u hfind] at hfits
        cases hfits
      · simp [Session.committed, hsaved]
  | describe username sql route => trivial
  | vectorIndexStatus username vectorSpace => trivial
  | vectorSearch username request => trivial
  | importParquet _ _ _ => cases hc
  | createVectorIndex _ _ => cases hc
  | vectorUpsert _ _ => cases hc
  | vectorDelete _ _ => cases hc
  | rebuildVectorIndex _ _ => cases hc
  | compactVectorIndex _ _ => cases hc

/-- **A command without the gate** leaves what others see alone. -/
lemma seenByOthers_after {c : SqlCommand} (hc : c.isGated = false) (h : Unobtrusive W s c) :
    seenByOthers (after W s c) = seenByOthers s :=
  within_handle h.1 (ownWithin_of_ungated hc h.2)

/-! ### Runs -/

/-- While an export is under way, the commands without the gate change nothing. -/
def StaysStill (W : Workers C P K) (w : World P) : WorkerEvent P K → Prop
  | .ungated c transaction settings => w.exporting.isSome →
      Unobtrusive W (connOf w.db transaction settings) c
  | _ => True

def OnePoint (w : World P) : Prop :=
  ∀ e, w.exporting = some e → w.gate = some .snapshot ∧ e.IsOf w.db

lemma onePoint_step {w w' : World P} {e : WorkerEvent P K} (hw : OnePoint w)
    (he : StaysStill W w e) (h : (workerSystem W).step w e = some w') : OnePoint w' := by
  change workerStep W w e = some w' at h
  cases e with
  | takeGate c =>
    obtain ⟨hfree, rfl⟩ := Option.ite_some_none_eq_some.1 h
    intro x hx
    have hgate := (hw x hx).1
    simp [hgate] at hfree
  | change d =>
    obtain ⟨hgate', rfl⟩ := Option.ite_some_none_eq_some.1 h
    intro x hx
    have hgate := (hw x hx).1
    simp [hgate] at hgate'
  | releaseGate =>
    obtain ⟨hgate', rfl⟩ := Option.ite_some_none_eq_some.1 h
    intro x hx
    have hgate := (hw x hx).1
    simp [hgate] at hgate'
  | ungated c transaction settings =>
    simp only [workerStep] at h
    split_ifs at h with hc
    obtain rfl := Option.some.inj h
    intro x hx
    have hexport : w.exporting = some x := hx
    have hc : c.isGated = false := by simpa using hc
    have hsame := seenByOthers_after hc (he (by rw [hexport, Option.isSome_some]))
    obtain ⟨hgate, hof⟩ := hw x hx
    refine ⟨hgate, fun y hy => (hof y hy).trans ?_⟩
    exact (connOf_committed w.db transaction settings).symm.trans hsame.symm
  | beginExport =>
    obtain ⟨-, rfl⟩ := Option.ite_some_none_eq_some.1 h
    intro x hx
    cases hx
    exact ⟨rfl, fun y hy => by simp at hy⟩
  | read =>
    rcases hexport : w.exporting with _ | e
    · simp [workerStep, hexport] at h
    · simp only [workerStep, hexport] at h
      obtain ⟨e', hnext, rfl⟩ := Option.map_eq_some_iff.1 h
      intro x hx
      cases hx
      obtain ⟨hgate, hof⟩ := hw e hexport
      exact ⟨hgate, Export.isOf_next hof hnext⟩
  | endExport =>
    rcases hexport : w.exporting with _ | e
    · simp [workerStep, hexport] at h
    · simp only [workerStep, hexport] at h
      cases h
      intro x hx
      cases hx

/-- **Snapshots are of one point**: in a run in which nothing is changed without the gate while
an export is under way, every export has all its reads from one state, the database as it is. -/
theorem export_isOf_one_point {w t : World P} {es : List (WorkerEvent P K)} {e : Export P}
    (hw : w.exporting = none) (hok : (workerSystem W).Along (StaysStill W) w es)
    (hrun : (workerSystem W).run w es = some t) (he : t.exporting = some e) :
    t.gate = some .snapshot ∧ ∀ x ∈ e.seen, x.2 = t.db := by
  have hstart : OnePoint w := fun x hx => by
    rw [hw] at hx
    cases hx
  exact System.invariant (fun _ _ _ => onePoint_step) hstart hok hrun e he

/-! ### Logins beside an export -/

def versionedCatalog : Catalog :=
  { indexedCatalog with rsCatalogVersion := ⟨[⟨1, 1, 2, 7, "c0ffee", "ready"⟩], by simp⟩ }

def versionedWorld : World (List VectorRow) := { db := ⟨versionedCatalog, []⟩ }

/-- An export of it, with a login after the first of its reads. -/
def exportBeside (protocol : AuthProtocol) : List (WorkerEvent (List VectorRow) Unit) :=
  .beginExport :: .read ::
    .ungated (.authenticate ⟨protocol, "admin", .cleartextPassword "secret"⟩ 5) none () ::
      List.replicate 24 .read

/-- The export is accepted, though its reads are of two states: the login is in the second. -/
theorem export_beside_login : ∃ t e,
    (workerSystem fullWorkers).run versionedWorld (exportBeside .webApi) = some t ∧
      t.exporting = some e ∧ e.accepted = true ∧ ¬ ∃ d, e.IsOf d := by
  refine ⟨_, _, rfl, rfl, by rfl, ?_⟩
  rintro ⟨d, hd⟩
  have hfirst := hd (.metadata, ⟨versionedCatalog, []⟩) (List.mem_of_mem_head? rfl)
  have hlast := hd (.metadata, ⟨recordLogin 5 10 versionedCatalog, []⟩)
    (List.mem_of_getLast? rfl)
  have hlogins := congrArg (fun d : Db (List VectorRow) => d.cat.rsUser.rows.map (·.lastLoginAt))
    (hfirst.trans hlast.symm)
  exact absurd hlogins (by decide)

theorem export_beside_refused_login : ∃ t e,
    (workerSystem fullWorkers).run versionedWorld (exportBeside .mySqlWire) = some t ∧
      t.exporting = some e ∧ e.accepted = true ∧
        t.gate = some .snapshot ∧ ∀ x ∈ e.seen, x.2 = t.db := by
  have hstill : ∀ e ∈ exportBeside .mySqlWire, ∀ w, StaysStill fullWorkers w e := by
    intro e he w
    simp only [exportBeside, List.mem_cons, List.mem_replicate] at he
    rcases he with rfl | rfl | rfl | ⟨-, rfl⟩
    · trivial
    · trivial
    · exact fun _ => ⟨trivial, fun _ u _ => Bool.and_false _⟩
    · trivial
  exact ⟨_, _, rfl, rfl, by rfl,
    export_isOf_one_point rfl (System.along_of_forall hstill versionedWorld) rfl rfl⟩

end Rsduck.Db
