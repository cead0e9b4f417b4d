import Rsduck.Catalog.Lookup

/-!
Principals and what they may do.
-/

namespace Rsduck.Catalog

open Lib

structure SessionPrincipal where
  userId : ℤ
  username : String
  roles : List String
  deriving DecidableEq

def principalForUsername (c : Catalog) (username : String) : Except String SessionPrincipal :=
  match c.rsUser.find (·.username == username) with
  | none => .error ("unknown user: " ++ username)
  | some u =>
    if u.status ≠ "active" then .error ("user is not active: " ++ username)
    else
      let roles := (c.rsUserRole.select (·.userId == u.userId)).flatMap fun ur =>
        (c.rsRole.select (·.roleId == ur.roleId)).map (·.roleName)
      .ok { userId := u.userId, username
            roles := roles.mergeSort fun a b => decide (a ≤ b) }

def SessionPrincipal.isAdmin (p : SessionPrincipal) : Bool := p.roles.any (· == "admin")

/-- A privilege of the principal itself or of one of its roles. -/
def hasExplicitPrivilege (c : Catalog) (p : SessionPrincipal) (objectType : PrivilegeObject)
    (objectId : ℤ) (action : PrivilegeAction) : Bool :=
  c.rsPrivilege.exists? fun v =>
    v.objectType == objectType && v.objectId == objectId && v.action == action &&
      match v.principalType with
      | .user => v.principalId == p.userId
      | .role => c.rsRole.exists? fun r => p.roles.contains r.roleName && r.roleId == v.principalId

def permissionDenied (p : SessionPrincipal) (what : String) : String :=
  "permission denied for user " ++ p.username ++ ": " ++ what

def requireSystemAction (c : Catalog) (p : SessionPrincipal) (action : PrivilegeAction) :
    Except String Unit :=
  if p.isAdmin || hasExplicitPrivilege c p .system 0 action then .ok ()
  else .error (permissionDenied p ("system " ++ action.text))

def requireSchemaAction (c : Catalog) (p : SessionPrincipal) (schema : String)
    (action : PrivilegeAction) : Except String Unit := do
  let namespaceOid ← namespaceOid c schema
  if p.isAdmin || hasExplicitPrivilege c p .schema namespaceOid action then .ok ()
  else .error (permissionDenied p ("schema " ++ schema ++ " " ++ action.text))

def requireRelationAction (c : Catalog) (p : SessionPrincipal) (schema relname : String)
    (action : PrivilegeAction) : Except String Unit := do
  let relOid ← availableRelationOid c schema relname
  let namespaceOid ← namespaceOid c schema
  if p.isAdmin || hasExplicitPrivilege c p .relation relOid action ||
      (action == .read && hasExplicitPrivilege c p .schema namespaceOid .read) then .ok ()
  else .error (permissionDenied p
    ("relation " ++ schema ++ "." ++ relname ++ " " ++ action.text))

/-- The rights that let a principal act on a relation. -/
def mayAct (c : Catalog) (p : SessionPrincipal) (relOid namespaceOid : ℤ)
    (action : PrivilegeAction) : Bool :=
  p.isAdmin || hasExplicitPrivilege c p .relation relOid action ||
    (action == .read && hasExplicitPrivilege c p .schema namespaceOid .read)

lemma requireRelationAction_eq_ok {c : Catalog} {p : SessionPrincipal} {schema relname : String}
    {action : PrivilegeAction} :
    requireRelationAction c p schema relname action = .ok () ↔
      ∃ relOid nsOid, availableRelationOid c schema relname = .ok relOid ∧
        namespaceOid c schema = .ok nsOid ∧ mayAct c p relOid nsOid action = true := by
  unfold requireRelationAction mayAct
  rcases availableRelationOid c schema relname with e | relOid
  · simp [bind, Except.bind]
  · rcases namespaceOid c schema with e | nsOid
    · simp [bind, Except.bind]
    · simp only [bind, Except.bind]
      split_ifs with h <;> simpa using h

lemma requireSchemaAction_eq_ok {c : Catalog} {p : SessionPrincipal} {schema : String}
    {action : PrivilegeAction} :
    requireSchemaAction c p schema action = .ok () ↔
      ∃ nsOid, namespaceOid c schema = .ok nsOid ∧
        (p.isAdmin || hasExplicitPrivilege c p .schema nsOid action) = true := by
  unfold requireSchemaAction
  rcases namespaceOid c schema with e | nsOid
  · simp [bind, Except.bind]
  · simp only [bind, Except.bind]
    split_ifs with h <;> simpa using h

end Rsduck.Catalog
