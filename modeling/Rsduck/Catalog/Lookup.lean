import Rsduck.Catalog.Statement
import Rsduck.Lib.LowerCase

/-!
Looking up namespaces, relations, users and roles. Names are compared in the lower case of SQL.
-/

namespace Rsduck.Catalog

open Lib Lib.Eff Lib.Text

/-- A lookup, as part of a computation that may go on to change the catalog. -/
def look {α : Type} (f : Catalog → Except String α) : Eff Catalog α := do
  fromExcept (f (← get))

@[simp] lemma runs_look {α : Type} {f : Catalog → Except String α} {c c' : Catalog} {a : α} :
    Runs (look f) c a c' ↔ f c = .ok a ∧ c' = c := by
  simp only [look, runs_bind, runs_get, runs_fromExcept]
  constructor
  · rintro ⟨_, _, ⟨rfl, rfl⟩, h⟩
    exact h
  · intro h
    exact ⟨c, c, ⟨rfl, rfl⟩, h⟩

/-- Two names that differ in case only. -/
def sameName (a b : String) : Bool := sqlLower a == sqlLower b

lemma sameName_iff {a b : String} : sameName a b = true ↔ sqlLower a = sqlLower b := beq_iff_eq

def namespaceExists (c : Catalog) (schema : String) : Bool :=
  c.rsSchema.exists? fun n => sameName n.nspname schema

def namespaceOid (c : Catalog) (schema : String) : Except String ℤ :=
  match c.rsSchema.find fun n => sameName n.nspname schema with
  | some n => .ok n.oid
  | none => .error ("namespace does not exist in catalog: " ++ schema ++ ": " ++ noRows)

/-- The relations with this schema and name, in the order of their rows. -/
def relationRows (c : Catalog) (schema relation : String) : List RelationRow :=
  c.rsRelation.select fun r => sameName r.relname relation &&
    c.rsSchema.exists? fun n => n.oid == r.relnamespace && sameName n.nspname schema

def relationExists (c : Catalog) (schema relation : String) : Bool :=
  relationRows c schema relation != []

/-- The active relation with this schema and name. -/
def findRelationMeta (c : Catalog) (schema relation : String) : Option RelationRow :=
  (relationRows c schema relation).find? (·.status == .active)

def relationOid (c : Catalog) (schema relation : String) : Except String ℤ :=
  match findRelationMeta c schema relation with
  | some r => .ok r.oid
  | none => .error ("relation does not exist in catalog: " ++ schema ++ "." ++ relation ++ ": " ++
      noRows)

def findRelationAccessMeta (c : Catalog) (schema relation : String) : Option RelationRow :=
  (relationRows c schema relation).head?

def availableRelationOid (c : Catalog) (schema relation : String) : Except String ℤ :=
  match findRelationAccessMeta c schema relation with
  | none => .error ("relation does not exist in catalog: " ++ schema ++ "." ++ relation)
  | some r =>
    if r.status = .active then .ok r.oid
    else .error ("relation is unavailable: " ++ schema ++ "." ++ relation ++ ": " ++ r.errorMessage)

lemma namespaceOid_eq_ok {c : Catalog} {schema : String} {oid : ℤ} :
    namespaceOid c schema = .ok oid ↔
      ∃ n, (c.rsSchema.find fun n => sameName n.nspname schema) = some n ∧ n.oid = oid := by
  unfold namespaceOid
  cases c.rsSchema.find fun n => sameName n.nspname schema <;> simp

lemma availableRelationOid_eq_ok {c : Catalog} {schema relation : String} {oid : ℤ} :
    availableRelationOid c schema relation = .ok oid ↔
      ∃ r, (relationRows c schema relation).head? = some r ∧ r.status = .active ∧ r.oid = oid := by
  unfold availableRelationOid findRelationAccessMeta
  rcases (relationRows c schema relation).head? with _ | r
  · simp
  · by_cases h : r.status = .active <;> simp [h]

def userIdByNameOpt (c : Catalog) (username : String) : Option ℤ :=
  (c.rsUser.find fun u => sameName u.username username).map (·.userId)

def userIdByName (c : Catalog) (username : String) : Except String ℤ :=
  match userIdByNameOpt c username with
  | some id => .ok id
  | none => .error ("user does not exist: " ++ username)

def roleIdByNameOpt (c : Catalog) (roleName : String) : Option ℤ :=
  (c.rsRole.find fun r => sameName r.roleName roleName).map (·.roleId)

def roleIdByName (c : Catalog) (roleName : String) : Except String ℤ :=
  match roleIdByNameOpt c roleName with
  | some id => .ok id
  | none => .error ("role does not exist: " ++ roleName)

end Rsduck.Catalog
