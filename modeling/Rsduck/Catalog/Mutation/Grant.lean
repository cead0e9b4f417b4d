import Rsduck.Catalog.Mutation.UserRole

/-!
`GRANT` and `REVOKE`, of roles to users and of privileges to users and roles.

A grant of privileges is a product: each principal gets each action on each target. What the
action names mean depends on the kind of the first target.
-/

namespace Rsduck.Catalog

open Lib Lib.Eff Lib.Text Sql

/-! ### Syntax -/

/-- An action in a grant; the columns that `SELECT`, `INSERT` and `UPDATE` may list stand in the
tree. -/
inductive GrantAction
  | select (columns : List Ident)
  | insert (columns : List Ident)
  | update (columns : List Ident)
  | delete | read | usage | create | drop | ownership
  | role (name : ObjectName)
  | other (text : List Char)

/-- What a refusal calls an action. -/
def GrantAction.text : GrantAction → List Char
  | .select columns => "SELECT".toList ++ columnList columns
  | .insert columns => "INSERT".toList ++ columnList columns
  | .update columns => "UPDATE".toList ++ columnList columns
  | .delete => "DELETE".toList
  | .read => "READ".toList
  | .usage => "USAGE".toList
  | .create => "CREATE".toList
  | .drop => "DROP".toList
  | .ownership => "OWNERSHIP".toList
  | .role name => "ROLE ".toList ++ printName name
  | .other text => text
where
  columnList (columns : List Ident) : List Char :=
    if columns = [] then []
    else " (".toList ++ List.intercalate ", ".toList (columns.map Ident.print) ++ [')']

inductive Privileges
  | all
  | actions (items : List GrantAction)

inductive GrantObjects
  | tables (names : List ObjectName)
  | views (names : List ObjectName)
  | schemas (names : List ObjectName)
  | databases (names : List ObjectName)
  | other (text : List Char)

inductive GranteesType
  | none | user | role
  | other (text : List Char)
  deriving DecidableEq

/-- A grantee, with the name of an object or of a user at a host. -/
structure Grantee where
  granteeType : GranteesType
  name : Option (ObjectName ⊕ Ident)

def Grantee.text (g : Grantee) : List Char :=
  (match g.granteeType with
    | .none => []
    | .user => "USER ".toList
    | .role => "ROLE ".toList
    | .other text => text ++ [' ']) ++
  match g.name with
  | some (.inl name) => printName name
  | some (.inr user) => user.print
  | none => []

structure GrantStatement where
  privileges : Privileges
  objects : Option GrantObjects
  grantees : List Grantee

/-! ### Names -/

def granteeName (g : Grantee) : Except String String :=
  match g.name with
  | some (.inl name) => (singleNamePart name).map String.ofList
  | some (.inr user) => .ok (String.ofList user.value)
  | none => .error "grantee name is required"

def grantContainsRoleActions : Privileges → Bool
  | .all => false
  | .actions items => items.any fun | .role _ => true | _ => false

/-- The ids in the order they are named first. -/
def addId (ids : List ℤ) (id : ℤ) : List ℤ := if id ∈ ids then ids else ids ++ [id]

def grantedRoleIds (c : Catalog) : Privileges → Except String (List ℤ)
  | .all => .error "role grant requires explicit ROLE action"
  | .actions items => do
    let roleIds ← items.foldlM (fun ids action => do
      match action with
      | .role role =>
        let roleName ← singleNamePart role
        return addId ids (← roleIdByName c (String.ofList roleName))
      | _ => throw "GRANT/REVOKE ROLE cannot be mixed with object privileges") []
    if roleIds = [] then throw "GRANT/REVOKE ROLE requires at least one role" else return roleIds

def roleGranteeUserIds (c : Catalog) (grantees : List Grantee) : Except String (List ℤ) :=
  if grantees = [] then .error "GRANT/REVOKE ROLE requires at least one user"
  else
    grantees.foldlM (fun ids grantee =>
      if grantee.granteeType = .role then
        .error "role inheritance is not supported by rsduck catalog"
      else do
        return addId ids (← userIdByName c (← granteeName grantee))) []

def grantTargets (c : Catalog) : Option GrantObjects → Except String (List (PrivilegeObject × ℤ))
  | none | some (.databases _) => .ok [(.system, 0)]
  | some (.tables names) | some (.views names) =>
    names.mapM fun name => do
      let (schema, relation) ← relationName name
      rejectReservedSchema schema
      return (.relation, ← relationOid c (String.ofList schema) (String.ofList relation))
  | some (.schemas names) =>
    names.mapM fun name => do
      let schema ← singleNamePart name
      rejectReservedSchema schema
      return (.schema, ← namespaceOid c (String.ofList schema))
  | some (.other text) => .error ("GRANT target is not supported: " ++ String.ofList text)

def grantPrincipals (c : Catalog) (grantees : List Grantee) :
    Except String (List (PrincipalType × ℤ)) :=
  if grantees = [] then .error "GRANT/REVOKE requires at least one grantee"
  else
    grantees.mapM fun grantee => do
      let name ← granteeName grantee
      match grantee.granteeType with
      | .role => return (.role, ← roleIdByName c name)
      | .none | .user => return (.user, ← userIdByName c name)
      | .other _ => throw ("unsupported grantee type: " ++ String.ofList grantee.text)

/-! ### Actions -/

/-- The action an item stands for on an object. The columns it lists do not matter. -/
def privilegeAction (objectType : PrivilegeObject) (item : GrantAction) :
    Option PrivilegeAction :=
  match objectType, item with
  | _, .select _ | _, .read | _, .usage => some .read
  | .relation, .insert _ | .relation, .update _ | .relation, .delete => some .write
  | .relation, .create | .relation, .drop | .relation, .ownership => some .ddl
  | .schema, .create | .schema, .drop | .schema, .ownership => some .ddl
  | .system, .create | .system, .ownership => some .manageUser
  | _, _ => none

/-- The actions of `ALL PRIVILEGES` on an object. -/
def allActions : PrivilegeObject → List PrivilegeAction
  | .relation => [.read, .write, .ddl]
  | .schema => [.read, .ddl]
  | .system => [.manageSnapshot, .manageCatalog, .manageUser]

def addAction (objectType : PrivilegeObject) (actions : List PrivilegeAction)
    (item : GrantAction) : Except String (List PrivilegeAction) :=
  match privilegeAction objectType item with
  | some action => .ok (if action ∈ actions then actions else actions ++ [action])
  | none => .error ("unsupported privilege action for " ++ objectType.text ++ ": " ++
      String.ofList item.text)

/-- The kind of the first target; a grant on nothing is one on the system. -/
def firstObjectType : List (PrivilegeObject × ℤ) → PrivilegeObject
  | [] => .system
  | (objectType, _) :: _ => objectType

def privilegeActions (privileges : Privileges) (targets : List (PrivilegeObject × ℤ)) :
    Except String (List PrivilegeAction) := do
  let actions ← match privileges with
    | .all => .ok (allActions (firstObjectType targets))
    | .actions items => items.foldlM (addAction (firstObjectType targets)) []
  if actions = [] then throw "GRANT/REVOKE produced no supported privilege actions"
  else return actions

/-! ### The transactions -/

/-- The count of what the turns of a loop affect. -/
def countM {α : Type} (xs : List α) (f : α → Eff Catalog ℕ) : Eff Catalog ℕ :=
  xs.foldlM (fun affected x => do return affected + (← f x)) 0

/-- A journal row, what is done under it, and its end. -/
def journalled (mutationType : String) (sql : List Char) (body : Eff Catalog ℕ) :
    Eff Catalog ℕ := do
  let journalId ← insertJournal mutationType 0 (String.ofList sql)
  let affected ← body
  finishJournal journalId
  return affected

def upsertUserRole (userId roleId grantorId : ℤ) : Eff Catalog ℕ := do
  if ← existsRow Slot.userRole fun r => r.userId == userId && r.roleId == roleId then return 0
  else
    insertRow Slot.userRole "grant role failed: " { userId, roleId, grantedBy := grantorId }
    return 1

def deleteUserRole (userId roleId : ℤ) : Eff Catalog ℕ := do
  let rows ← selectRows Slot.userRole fun r => r.userId == userId && r.roleId == roleId
  deleteRows Slot.userRole fun r => r.userId == userId && r.roleId == roleId
  return rows.length

/-- A principal, a target and an action. -/
structure Triple where
  principal : PrincipalType × ℤ
  target : PrivilegeObject × ℤ
  action : PrivilegeAction
  deriving DecidableEq

/-- The row is about the triple. -/
def Triple.isOf (t : Triple) (v : PrivilegeRow) : Bool :=
  v.principalType == t.principal.1 && v.principalId == t.principal.2 &&
    v.objectType == t.target.1 && v.objectId == t.target.2 && v.action == t.action

def Triple.row (t : Triple) (privilegeId grantorId : ℤ) : PrivilegeRow :=
  { privilegeId, principalType := t.principal.1, principalId := t.principal.2
    objectType := t.target.1, objectId := t.target.2, action := t.action, grantedBy := grantorId }

def upsertPrivilege (t : Triple) (grantorId : ℤ) : Eff Catalog ℕ := do
  if ← existsRow Slot.privilege t.isOf then return 0
  else
    let privilegeId ← allocateOid
    insertRow Slot.privilege "insert privilege failed: " (t.row privilegeId grantorId)
    return 1

def deletePrivilege (t : Triple) : Eff Catalog ℕ := do
  let rows ← selectRows Slot.privilege t.isOf
  deleteRows Slot.privilege t.isOf
  return rows.length

/-- The triples of a grant, in the order of its loops. -/
def grantTriples (principals : List (PrincipalType × ℤ)) (targets : List (PrivilegeObject × ℤ))
    (actions : List PrivilegeAction) : List Triple :=
  principals.flatMap fun principal => targets.flatMap fun target =>
    actions.map fun action => ⟨principal, target, action⟩

def userRolePairs (userIds roleIds : List ℤ) : List (ℤ × ℤ) :=
  userIds.flatMap fun userId => roleIds.map fun roleId => (userId, roleId)

/-! ### The mutations -/

/-- The triples that a statement on privileges names. -/
def namedTriples (c : Catalog) (g : GrantStatement) : Except String (List Triple) := do
  let targets ← grantTargets c g.objects
  let actions ← privilegeActions g.privileges targets
  let principals ← grantPrincipals c g.grantees
  return grantTriples principals targets actions

/-- The users and roles that a statement on roles names. -/
def namedUserRoles (c : Catalog) (g : GrantStatement) : Except String (List (ℤ × ℤ)) := do
  let roleIds ← grantedRoleIds c g.privileges
  let userIds ← roleGranteeUserIds c g.grantees
  return userRolePairs userIds roleIds

/-- The statement is about roles. -/
def GrantStatement.onRoles (g : GrantStatement) : Bool :=
  g.objects.isNone && grantContainsRoleActions g.privileges

section Mutations

variable {P : Type}

def grantPrivileges (g : GrantStatement) (sql : List Char) (grantorId : ℤ) : Mutation P := fun d =>
  if g.onRoles then do
    let pairs ← namedUserRoles d.cat g
    return some { run := Db.onCatalog (journalled "grant_role" sql
      (countM pairs fun pair => upsertUserRole pair.1 pair.2 grantorId)) }
  else do
    let triples ← namedTriples d.cat g
    return some { run := Db.onCatalog (journalled "grant_privilege" sql
      (countM triples fun t => upsertPrivilege t grantorId)) }

def revokePrivileges (g : GrantStatement) (sql : List Char) : Mutation P := fun d =>
  if g.onRoles then do
    let pairs ← namedUserRoles d.cat g
    return some { run := Db.onCatalog (journalled "revoke_role" sql
      (countM pairs fun pair => deleteUserRole pair.1 pair.2)) }
  else do
    let triples ← namedTriples d.cat g
    return some { run := Db.onCatalog (journalled "revoke_privilege" sql
      (countM triples deletePrivilege)) }

/-! ### When there is a transaction -/

variable {g : GrantStatement} {sql : List Char} {grantorId : ℤ} {d : Db P}
  {b : Session.Body (Db P) ℕ}

lemma grantPrivileges_eq_some :
    grantPrivileges g sql grantorId d = .ok (some b) ↔
      (g.onRoles = true ∧ ∃ pairs, namedUserRoles d.cat g = .ok pairs ∧
        b = { run := Db.onCatalog (journalled "grant_role" sql
          (countM pairs fun pair => upsertUserRole pair.1 pair.2 grantorId)) }) ∨
      (g.onRoles = false ∧ ∃ triples, namedTriples d.cat g = .ok triples ∧
        b = { run := Db.onCatalog (journalled "grant_privilege" sql
          (countM triples fun t => upsertPrivilege t grantorId)) }) := by
  unfold grantPrivileges
  cases hroles : g.onRoles with
  | true => rcases h : namedUserRoles d.cat g with e | pairs <;>
      simp [bind, Except.bind, pure, Except.pure, eq_comm]
  | false => rcases h : namedTriples d.cat g with e | triples <;>
      simp [bind, Except.bind, pure, Except.pure, eq_comm]

lemma revokePrivileges_eq_some :
    revokePrivileges g sql d = .ok (some b) ↔
      (g.onRoles = true ∧ ∃ pairs, namedUserRoles d.cat g = .ok pairs ∧
        b = { run := Db.onCatalog (journalled "revoke_role" sql
          (countM pairs fun pair => deleteUserRole pair.1 pair.2)) }) ∨
      (g.onRoles = false ∧ ∃ triples, namedTriples d.cat g = .ok triples ∧
        b = { run := Db.onCatalog (journalled "revoke_privilege" sql
          (countM triples deletePrivilege)) }) := by
  unfold revokePrivileges
  cases hroles : g.onRoles with
  | true => rcases h : namedUserRoles d.cat g with e | pairs <;>
      simp [bind, Except.bind, pure, Except.pure, eq_comm]
  | false => rcases h : namedTriples d.cat g with e | triples <;>
      simp [bind, Except.bind, pure, Except.pure, eq_comm]

lemma calm_grantPrivileges (g : GrantStatement) (sql : List Char) (grantorId : ℤ) (d : Db P) :
    (grantPrivileges g sql grantorId).Calm d := by
  intro b hb
  rcases grantPrivileges_eq_some.1 hb with ⟨-, pairs, -, rfl⟩ | ⟨-, triples, -, rfl⟩
  · rfl
  · rfl

lemma calm_revokePrivileges (g : GrantStatement) (sql : List Char) (d : Db P) :
    (revokePrivileges g sql).Calm d := by
  intro b hb
  rcases revokePrivileges_eq_some.1 hb with ⟨-, pairs, -, rfl⟩ | ⟨-, triples, -, rfl⟩
  · rfl
  · rfl

end Mutations

/-- A journal with room for its row, and a body that leaves the journal alone. -/
lemma runs_journalled {mutationType : String} {sql : List Char} {body : Eff Catalog ℕ}
    {c c₁ : Catalog} {n : ℕ} {journalId : ℤ} {v : VersionRow} {journal : Table JournalRow}
    (hnext : nextOid c = some journalId) (hv : c.rsCatalogVersion.find (·.id == 1) = some v)
    (hjournal : c.rsCatalogJournal.insert
      (pendingRow journalId v.catalogEpoch mutationType 0 sql) = some journal)
    (hbody : Runs body { bumpOid c with rsCatalogJournal := journal } n c₁)
    (hleft : c₁.rsCatalogJournal = journal) :
    Runs (journalled mutationType sql body) c n (closeJournal journalId c₁) := by
  have hrow : ∃ r ∈ c₁.rsCatalogJournal.rows, r.journalId = journalId := by
    rw [hleft, (Table.insert_eq_some.1 hjournal).2]
    exact ⟨_, List.mem_append_right _ List.mem_cons_self, rfl⟩
  refine runs_bind.2 ⟨journalId, _, runs_insertJournal.2 ⟨hnext, v, journal, hv, hjournal, rfl⟩, ?_⟩
  refine runs_bind.2 ⟨n, c₁, hbody, ?_⟩
  exact runs_bind.2 ⟨⟨⟩, _, runs_finishJournal.2 ⟨hrow, rfl⟩, runs_pure.2 ⟨rfl, rfl⟩⟩

/-! ### Whom a statement on roles is about -/

section Named

variable {c : Catalog} {id : ℤ}

lemma mem_addId {ids : List ℤ} {new : ℤ} (h : id ∈ addId ids new) : id ∈ ids ∨ id = new := by
  unfold addId at h
  split_ifs at h
  · exact Or.inl h
  · simpa using h

/-- What a loop gathers comes from its turns. -/
lemma mem_foldlM_addId {α : Type} {xs : List α} {f : List ℤ → α → Except String (List ℤ)}
    {p : α → ℤ → Prop}
    (hf : ∀ x ∈ xs, ∀ ids ids', f ids x = .ok ids' → ∀ id ∈ ids', id ∈ ids ∨ p x id)
    {ids ids' : List ℤ} (h : xs.foldlM f ids = .ok ids') (hid : id ∈ ids') :
    id ∈ ids ∨ ∃ x ∈ xs, p x id := by
  induction xs generalizing ids with
  | nil =>
    cases h
    exact Or.inl hid
  | cons x xs ih =>
    rw [List.foldlM_cons] at h
    rcases hx : f ids x with e | ids₁
    · rw [hx] at h
      cases h
    · rw [hx] at h
      rcases ih (fun y hy => hf y (List.mem_cons_of_mem _ hy)) h with h₁ | ⟨y, hy, hp⟩
      · rcases hf x List.mem_cons_self ids ids₁ hx id h₁ with h₀ | hp
        · exact Or.inl h₀
        · exact Or.inr ⟨x, List.mem_cons_self, hp⟩
      · exact Or.inr ⟨y, List.mem_cons_of_mem _ hy, hp⟩

/-- The statement names the role. -/
def GrantStatement.NamesRole (g : GrantStatement) (roleName : String) : Prop :=
  ∃ items role part, g.privileges = .actions items ∧ GrantAction.role role ∈ items ∧
    singleNamePart role = .ok part ∧ roleName = String.ofList part

/-- The statement names the user. -/
def GrantStatement.NamesUser (g : GrantStatement) (username : String) : Prop :=
  ∃ grantee ∈ g.grantees, granteeName grantee = .ok username

lemma mem_grantedRoleIds {g : GrantStatement} {roleIds : List ℤ}
    (h : grantedRoleIds c g.privileges = .ok roleIds) (hid : id ∈ roleIds) :
    ∃ roleName, g.NamesRole roleName ∧ roleIdByName c roleName = .ok id := by
  rcases hprivileges : g.privileges with _ | items
  · rw [hprivileges] at h
    cases h
  · rw [hprivileges] at h
    unfold grantedRoleIds at h
    simp only [bind, Except.bind] at h
    split at h
    · cases h
    · rename_i roleIds' hfold
      split_ifs at h
      cases h
      have hmem := mem_foldlM_addId (p := fun action id => ∃ role part,
        action = GrantAction.role role ∧ singleNamePart role = .ok part ∧
          roleIdByName c (String.ofList part) = .ok id) ?_ hfold hid
      · rcases hmem with hnil | ⟨action, haction, role, part, rfl, hpart, hrole⟩
        · cases hnil
        · exact ⟨String.ofList part, ⟨items, role, part, hprivileges, haction, hpart, rfl⟩, hrole⟩
      · intro action _ ids ids' hstep id' hid'
        rcases action with _ | _ | _ | _ | _ | _ | _ | _ | _ | role | _
        case role =>
          rcases hpart : singleNamePart role with e | part
          · simp [hpart] at hstep
          · rcases hrole : roleIdByName c (String.ofList part) with e | roleId
            · simp [hpart, hrole] at hstep
            · simp only [hpart, hrole, pure, Except.pure, Except.ok.injEq] at hstep
              rw [← hstep] at hid'
              rcases mem_addId hid' with h₀ | rfl
              · exact Or.inl h₀
              · exact Or.inr ⟨role, part, rfl, hpart, hrole⟩
        all_goals cases hstep

lemma mem_roleGranteeUserIds {g : GrantStatement} {userIds : List ℤ}
    (h : roleGranteeUserIds c g.grantees = .ok userIds) (hid : id ∈ userIds) :
    ∃ username, g.NamesUser username ∧ userIdByName c username = .ok id := by
  unfold roleGranteeUserIds at h
  split_ifs at h
  have hmem := mem_foldlM_addId (p := fun grantee id => ∃ username,
    granteeName grantee = .ok username ∧ userIdByName c username = .ok id) ?_ h hid
  · rcases hmem with hnil | ⟨grantee, hgrantee, username, hname, huser⟩
    · cases hnil
    · exact ⟨username, ⟨grantee, hgrantee, hname⟩, huser⟩
  · intro grantee _ ids ids' hstep id' hid'
    split_ifs at hstep
    rcases hname : granteeName grantee with e | username
    · simp [hname, bind, Except.bind] at hstep
    · rcases huser : userIdByName c username with e | userId
      · simp [hname, huser, bind, Except.bind] at hstep
      · simp only [hname, huser, bind, Except.bind, pure, Except.pure, Except.ok.injEq] at hstep
        rw [← hstep] at hid'
        rcases mem_addId hid' with h₀ | rfl
        · exact Or.inl h₀
        · exact Or.inr ⟨username, rfl, huser⟩

/-- A pair is a user and a role that the statement names. -/
lemma mem_namedUserRoles {g : GrantStatement} {pairs : List (ℤ × ℤ)} {userId roleId : ℤ}
    (h : namedUserRoles c g = .ok pairs) (hpair : (userId, roleId) ∈ pairs) :
    (∃ roleName, g.NamesRole roleName ∧ roleIdByName c roleName = .ok roleId) ∧
      ∃ username, g.NamesUser username ∧ userIdByName c username = .ok userId := by
  unfold namedUserRoles at h
  rcases hroles : grantedRoleIds c g.privileges with e | roleIds
  · simp [hroles, bind, Except.bind] at h
  · rcases husers : roleGranteeUserIds c g.grantees with e | userIds
    · simp [hroles, husers, bind, Except.bind] at h
    · simp only [hroles, husers, bind, Except.bind, pure, Except.pure, Except.ok.injEq] at h
      rw [← h, userRolePairs, List.mem_flatMap] at hpair
      obtain ⟨u, hu, hpair⟩ := hpair
      obtain ⟨r, hr, hpair⟩ := List.mem_map.1 hpair
      cases hpair
      exact ⟨mem_grantedRoleIds hroles hr, mem_roleGranteeUserIds husers hu⟩

end Named

end Rsduck.Catalog
