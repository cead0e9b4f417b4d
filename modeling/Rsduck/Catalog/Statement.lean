import Rsduck.Catalog.Checksum

/-!
Statements on one table of the catalog.

A slot says which table a statement is about. `insertRow`, `deleteRows` and `updateRows` are
the `INSERT`, `DELETE` and `UPDATE` statements the program writes; the engine refuses an
insertion only for a key that is taken, and its message follows the program's own text.
-/

namespace Rsduck.Catalog

open Lib Lib.Eff

/-- One table of the catalog, to be read and replaced. -/
structure Slot (ρ : Type) [Keyed ρ] where
  table : Catalog → Table ρ
  put : Table ρ → Catalog → Catalog
  table_put : ∀ t c, table (put t c) = t

attribute [simp] Slot.table_put

namespace Slot

def version : Slot VersionRow := ⟨(·.rsCatalogVersion), fun t c => { c with rsCatalogVersion := t }, fun _ _ => rfl⟩
def oidAlloc : Slot OidAllocRow := ⟨(·.rsOidAlloc), fun t c => { c with rsOidAlloc := t }, fun _ _ => rfl⟩
def journal : Slot JournalRow := ⟨(·.rsCatalogJournal), fun t c => { c with rsCatalogJournal := t }, fun _ _ => rfl⟩
def type : Slot TypeRow := ⟨(·.rsType), fun t c => { c with rsType := t }, fun _ _ => rfl⟩
def relation : Slot RelationRow := ⟨(·.rsRelation), fun t c => { c with rsRelation := t }, fun _ _ => rfl⟩
def column : Slot ColumnRow := ⟨(·.rsColumn), fun t c => { c with rsColumn := t }, fun _ _ => rfl⟩
def columnDefault : Slot ColumnDefaultRow := ⟨(·.rsColumnDefault), fun t c => { c with rsColumnDefault := t }, fun _ _ => rfl⟩
def constraint : Slot ConstraintRow := ⟨(·.rsConstraint), fun t c => { c with rsConstraint := t }, fun _ _ => rfl⟩
def index : Slot IndexRow := ⟨(·.rsIndex), fun t c => { c with rsIndex := t }, fun _ _ => rfl⟩
def vectorIndex : Slot VectorIndexRow := ⟨(·.rsVectorIndex), fun t c => { c with rsVectorIndex := t }, fun _ _ => rfl⟩
def dependency : Slot DependencyRow := ⟨(·.rsDependency), fun t c => { c with rsDependency := t }, fun _ _ => rfl⟩
def comment : Slot CommentRow := ⟨(·.rsComment), fun t c => { c with rsComment := t }, fun _ _ => rfl⟩
def relationExt : Slot RelationExtRow := ⟨(·.rsRelationExt), fun t c => { c with rsRelationExt := t }, fun _ _ => rfl⟩
def partition : Slot PartitionRow := ⟨(·.rsPartition), fun t c => { c with rsPartition := t }, fun _ _ => rfl⟩
def user : Slot UserRow := ⟨(·.rsUser), fun t c => { c with rsUser := t }, fun _ _ => rfl⟩
def role : Slot RoleRow := ⟨(·.rsRole), fun t c => { c with rsRole := t }, fun _ _ => rfl⟩
def userRole : Slot UserRoleRow := ⟨(·.rsUserRole), fun t c => { c with rsUserRole := t }, fun _ _ => rfl⟩
def privilege : Slot PrivilegeRow := ⟨(·.rsPrivilege), fun t c => { c with rsPrivilege := t }, fun _ _ => rfl⟩

end Slot

/-! ### Statements -/

section Statements

variable {ρ : Type} [Keyed ρ] (T : Slot ρ)

def duplicateKey : String := "Constraint Error: Duplicate key"

def noRows : String := "Query returned no rows"

def insertRow (context : String) (r : ρ) : Eff Catalog PUnit := do
  let c ← get
  match (T.table c).insert r with
  | some t => set (T.put t c)
  | none => throw (context ++ duplicateKey)

def deleteRows (p : ρ → Bool) : Eff Catalog PUnit :=
  modify fun c => T.put ((T.table c).delete p) c

def updateRows (p : ρ → Bool) (f : ρ → ρ) (hf : Table.KeepsKey f) : Eff Catalog PUnit :=
  modify fun c => T.put ((T.table c).update p f hf) c

def selectRows (p : ρ → Bool) : Eff Catalog (List ρ) := do
  return (T.table (← get)).select p

/-- A `query_row`: the first row of the answer, an error when there is none. -/
def queryRow (context : String) (p : ρ → Bool) : Eff Catalog ρ := do
  match (T.table (← get)).find p with
  | some r => pure r
  | none => throw (context ++ noRows)

def existsRow (p : ρ → Bool) : Eff Catalog Bool := do
  return (T.table (← get)).exists? p

variable {T}

lemma runs_insertRow {context : String} {r : ρ} {c c' : Catalog} {u : PUnit} :
    Runs (insertRow T context r) c u c' ↔
      ∃ t, (T.table c).insert r = some t ∧ c' = T.put t c := by
  unfold insertRow
  rw [runs_bind]
  simp only [runs_get]
  rcases h : (T.table c).insert r with _ | t <;> simp [h]

@[simp] lemma runs_deleteRows {p : ρ → Bool} {c c' : Catalog} {u : PUnit} :
    Runs (deleteRows T p) c u c' ↔ c' = T.put ((T.table c).delete p) c := by
  simp [deleteRows]

@[simp] lemma runs_updateRows {p : ρ → Bool} {f : ρ → ρ} {hf : Table.KeepsKey f} {c c' : Catalog}
    {u : PUnit} :
    Runs (updateRows T p f hf) c u c' ↔ c' = T.put ((T.table c).update p f hf) c := by
  simp [updateRows]

@[simp] lemma runs_selectRows {p : ρ → Bool} {c c' : Catalog} {rs : List ρ} :
    Runs (selectRows T p) c rs c' ↔ rs = (T.table c).select p ∧ c' = c := by
  simp [selectRows, runs_map, and_comm]

@[simp] lemma runs_queryRow {context : String} {p : ρ → Bool} {c c' : Catalog} {r : ρ} :
    Runs (queryRow T context p) c r c' ↔ (T.table c).find p = some r ∧ c' = c := by
  unfold queryRow
  rw [runs_bind]
  simp only [runs_get]
  rcases h : (T.table c).find p with _ | t <;> simp [h, eq_comm]

@[simp] lemma runs_existsRow {p : ρ → Bool} {c c' : Catalog} {b : Bool} :
    Runs (existsRow T p) c b c' ↔ b = (T.table c).exists? p ∧ c' = c := by
  simp [existsRow, runs_map, and_comm]

/-! ### What a statement keeps -/

section Keeps

variable {R : Catalog → Catalog → Prop}

/-- A table that a relation does not see may be written. -/
lemma keeps_insertRow (hT : ∀ t c, R c (T.put t c)) (context : String) (r : ρ) :
    Keeps R (insertRow T context r) := by
  intro c _ c' h
  obtain ⟨t, -, rfl⟩ := runs_insertRow.1 h
  exact hT t c

lemma keeps_deleteRows (hT : ∀ t c, R c (T.put t c)) (p : ρ → Bool) :
    Keeps R (deleteRows T p) := by
  intro c _ c' h
  obtain rfl := runs_deleteRows.1 h
  exact hT _ c

lemma keeps_updateRows (hT : ∀ t c, R c (T.put t c)) (p : ρ → Bool) (f : ρ → ρ)
    (hf : Table.KeepsKey f) : Keeps R (updateRows T p f hf) := by
  intro c _ c' h
  obtain rfl := runs_updateRows.1 h
  exact hT _ c

lemma keeps_queryRow [Frame R] (context : String) (p : ρ → Bool) :
    Keeps R (queryRow T context p) := by
  intro c _ c' h
  obtain ⟨-, rfl⟩ := runs_queryRow.1 h
  exact Frame.refl c'

end Keeps

end Statements

end Rsduck.Catalog
