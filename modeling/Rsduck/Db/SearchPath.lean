import Rsduck.Db.Handed
import Rsduck.Db.Snapshot

/-!
What a name without a schema stands for.

The guard takes it for a relation of `main`. The engine looks among the temporary objects of the
connection and then through the schemas of its search path; both last longer than a request and are
the same for every user whose statements the worker runs.
-/

namespace Rsduck.Db

open Lib Lib.Eff Lib.Text Catalog Mysql Sql

/-- How the engine finds a relation: the temporary objects of a connection, the schemas in which it
looks, and what is there. -/
structure NameResolution (P K : Type) where
  hasTemporary : K → List Char → Bool
  searchPath : K → List String
  hasRelation : P → (schema : String) → List Char → Bool

namespace NameResolution

variable {P K : Type} (N : NameResolution P K)

/-- The schema of the relation that a name without one stands for. -/
def resolve (settings : K) (p : P) (name : List Char) : Option String :=
  if N.hasTemporary settings name then some "temp"
  else (N.searchPath settings).find? fun schema => N.hasRelation p schema name

/-- What the guard takes for a relation of `main` is the one of `main`, where there is such a one;
where there is none, there is none to run on. -/
def AgreesWithGuard (settings : K) : Prop :=
  ∀ (d : Db P) name oid, availableRelationOid d.cat "main" (String.ofList name) = .ok oid →
    N.resolve settings d.phys name =
      if N.hasRelation d.phys "main" name then some "main" else none

/-- The settings of a new connection: nothing temporary, and `main` alone to look in. -/
structure IsFresh (settings : K) : Prop where
  noTemporary : ∀ name, N.hasTemporary settings name = false
  searchPath : N.searchPath settings = ["main"]

lemma IsFresh.agreesWithGuard {settings : K} (h : N.IsFresh settings) :
    N.AgreesWithGuard settings := by
  intro d name oid _
  unfold resolve
  rw [h.noTemporary, h.searchPath, List.find?_cons]
  rcases N.hasRelation d.phys "main" name <;> rfl

end NameResolution

/-! ### The connections of the workers -/

/-- The committed database, and the settings of the writer's connection (`none`) and of each
reader's. -/
structure Connections (P K : Type) where
  db : Db P
  settings : Option ℕ → K

/-- A command on the connection of a worker, which may have a transaction open. -/
structure Handling (P : Type) where
  worker : Option ℕ
  transaction : Option (Db P)
  command : SqlCommand

section SearchPath

variable {C : Crates} {P K : Type} (W : Workers C P K)

def handling (w : Connections P K) (e : Handling P) : Option (Connections P K) :=
  let t := after W (connOf w.db e.transaction (w.settings e.worker)) e.command
  some { db := t.session.committed, settings := Function.update w.settings e.worker t.settings }

def connectionSystem : System (Connections P K) (Handling P) := ⟨handling W⟩

variable (N : NameResolution P K)

/-- What decides on the connection what a name stands for. -/
abbrev namesOf (s : Conn P K) : (List Char → Bool) × List String :=
  (N.hasTemporary s.settings, N.searchPath s.settings)

variable {W N} {s : Conn P K}

lemma eq_trim_of_executedText {username : String} {sql text : List Char} {d : Db P}
    (h : executedText W username sql d = some text) : text = trim sql := by
  unfold executedText at h
  split at h
  · split at h
    · split_ifs at h
      exact (Option.some.inj h).symm
    · cases h
  · cases h

lemma spares_onSession {α : Type} (m : Eff (Session (Db P)) α) :
    Spares (namesOf N) (onSession m) s := rfl

/-- The work of the program itself does not touch the settings. -/
lemma ownWithin_names (c : SqlCommand) : OwnWithin W (Same (namesOf N)) s c := by
  cases c with
  | runTyped username sql route command => exact fun _ => spares_onSession _
  | authenticate request time => exact spares_onSession _
  | importParquet username schema sources => exact spares_onSession _
  | createVectorIndex username request => exact fun _ _ _ => spares_onSession _
  | vectorUpsert username request => exact spares_onSession _
  | vectorDelete username request => exact spares_onSession _
  | rebuildVectorIndex username vectorSpace => exact spares_onSession _
  | compactVectorIndex username vectorSpace => exact spares_onSession _
  | describe username sql route => trivial
  | vectorIndexStatus username vectorSpace => trivial
  | vectorSearch username request => trivial

/-- **One command** keeps what names stand for on its connection if its texts do. -/
lemma names_after {c : SqlCommand} (h : TextsWithin W (Same (namesOf N)) s c) :
    namesOf N (after W s c) = namesOf N s :=
  within_handle h (ownWithin_names c)

/-! ### Runs -/

/-- The texts of the command leave the search path of its connection and its temporary objects as
they are. -/
def NamesKept (W : Workers C P K) (N : NameResolution P K) (w : Connections P K)
    (e : Handling P) : Prop :=
  TextsWithin W (Same (namesOf N)) (connOf w.db e.transaction (w.settings e.worker)) e.command

lemma isFresh_step {w w' : Connections P K} {e : Handling P}
    (hw : ∀ i, N.IsFresh (w.settings i)) (he : NamesKept W N w e)
    (h : (connectionSystem W).step w e = some w') : ∀ i, N.IsFresh (w'.settings i) := by
  obtain rfl := Option.some.inj (show handling W w e = some w' from h)
  intro i
  by_cases hi : i = e.worker
  · subst hi
    obtain ⟨htemporary, hpath⟩ := Prod.mk.inj (names_after he)
    simp only [Function.update_self]
    refine ⟨fun name => ?_, hpath.trans (hw e.worker).searchPath⟩
    exact (congrFun htemporary name).trans ((hw e.worker).noTemporary name)
  · simp only [Function.update_of_ne hi]
    exact hw i

end SearchPath

/-! ### A `USE` before another user's statement -/

def useOther : Statement := .other .use [.text "USE other".toList]

/-- `DELETE FROM t`. -/
def deleteFromT : Statement :=
  .delete [⟨['t'], none⟩] [.text "DELETE FROM ".toList, .target [⟨['t'], none⟩]]

/-- A parser that knows the texts of the two. -/
def twoStatements : SqlParser where
  parse sql :=
    match [useOther, deleteFromT].find? (fun s => s.print == sql) with
    | some s => .ok [s]
    | none => .error "Expected: an SQL statement"

/-- An engine whose settings are its search path, and which knows no statement but `USE other`. -/
def useEngine : DuckDb plainCrates (List VectorRow) (List String) where
  query _ s := (.error "not a query", s)
  execute sql s :=
    if sql = useOther.print then (.ok 0, { s with settings := ["other"] })
    else (.error "not a statement", s)
  refuse _ := none
  readText _ _ := .ok ""
  partitionTimes _ := []

/-- The schemas `main` and `other` have a table `t` each. -/
def twoTables : NameResolution (List VectorRow) (List String) where
  hasTemporary _ _ := false
  searchPath settings := settings
  hasRelation _ schema name := (schema == "main" || schema == "other") && name == ['t']

def useWorkers : Workers plainCrates (List VectorRow) (List String) where
  texts := default
  inconsistency _ := []
  parser := twoStatements
  mutations := default
  engine := useEngine
  passwords := ⟨fun password hash => password == hash, fun _ _ _ => false⟩
  vectors := fullIndexes
  importParquetTables _ _ _ _ := .ok none
  buildVectorIndex _ _ _ := .error "not a table"
  maxResultRows := 100

/-- Two users: `u` may write `main.t`, `v` has no rights. -/
def writtenCatalog : Catalog where
  rsUser := ⟨[⟨10, "u", "", "argon2id", "caching_sha2_password", "", "active", false, none⟩,
    ⟨11, "v", "", "argon2id", "caching_sha2_password", "", "active", false, none⟩], by decide⟩
  rsSchema := ⟨[⟨1, "main", 10, ""⟩, ⟨2, "other", 10, ""⟩], by decide⟩
  rsRelation := ⟨[⟨100, "t", 1, 0, 10, .table, "p", 1, 0, false, false, "", "", .active, ""⟩,
    ⟨101, "t", 2, 0, 10, .table, "p", 1, 0, false, false, "", "", .active, ""⟩], by decide⟩
  rsPrivilege := ⟨[⟨200, .user, 10, .relation, 100, .write, 10⟩], by simp⟩

def twoConnections : Connections (List VectorRow) (List String) :=
  ⟨⟨writtenCatalog, []⟩, fun _ => ["main"]⟩

/-- The statement `USE other` of a user, on the writer's connection. -/
def useBy (username : String) : Handling (List VectorRow) :=
  ⟨none, none, .runTyped username useOther.print .write "USE"⟩

lemma shortcut_useOther :
    shortcut useWorkers.engine useWorkers.toService "v" ⟨writtenCatalog, []⟩ useOther.print =
      .ok none := by
  have hdot : '.' ∉ useOther.print := by decide
  have hsystem : rewriteMysqlSystemSql (default : MetadataTexts) useOther.print = none :=
    replaceRelations_of_dot _ _ hdot
  have hinformation : rewriteInformationSchemaSql (default : MetadataTexts) useOther.print
      "v".toList = none := replaceRelations_of_dot _ _ hdot
  have hrewrite : rewriteSql useWorkers.texts useOther.print "main".toList "v".toList = none := by
    unfold rewriteSql
    rw [show useWorkers.texts = default from rfl, hsystem, hinformation]
    rfl
  have hcompat : compatResult plainCrates useOther.print = none := by rfl
  have hpartitions : showPartitionsResult useWorkers.engine.partitionTimes writtenCatalog "v"
      useOther.print = .ok none := by rfl
  have hdiagnostic : isReservedDiagnosticRead useOther.print = false := by rfl
  simp only [shortcut, hcompat, hpartitions, hrewrite, hdiagnostic]
  rfl

lemma after_useBy :
    after useWorkers (connOf ⟨writtenCatalog, []⟩ none ["main"])
        (.runTyped "v" useOther.print .write "USE") =
      connOf ⟨writtenCatalog, []⟩ none ["other"] := by
  have hguard : passGuard useWorkers.toService "v" writtenCatalog useOther.print = .ok () := by rfl
  have htrim : trim useOther.print = useOther.print := by rfl
  have hne : useOther.print ≠ [] := by decide
  have hwrite : exec (executeWrite useWorkers.engine useWorkers.toService "v" useOther.print)
      (connOf ⟨writtenCatalog, []⟩ none ["main"]) =
        (.ok 0, connOf ⟨writtenCatalog, []⟩ none ["other"]) := by rfl
  have hnow : (connOf (⟨writtenCatalog, []⟩ : Db (List VectorRow)) none ["main"]).session.now =
      ⟨writtenCatalog, []⟩ := rfl
  simp only [after, handle, executeTypedSqlBlocking, htrim, hne, if_false, exec_bind, exec_get,
    hnow, shortcut_useOther, hguard, exec_fromExcept, executeAdmitted, hwrite, exec_pure]

lemma passGuard_deleteFromT :
    passGuard useWorkers.toService "u" writtenCatalog deleteFromT.print = .ok () := by
  have hp : principalForUsername writtenCatalog "u" = .ok ⟨10, "u", []⟩ := by
    change Except.ok (⟨10, "u", [].mergeSort _⟩ : SessionPrincipal) = _
    rw [List.mergeSort_nil]
  have hauthorize : authorizeSql twoStatements writtenCatalog "u" deleteFromT.print = .ok () := by
    unfold authorizeSql
    rw [hp]
    rfl
  unfold passGuard
  rw [show useWorkers.toService.parser = twoStatements from rfl, hauthorize]
  rfl

end Rsduck.Db
