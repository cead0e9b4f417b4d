import Rsduck.Catalog.Mutation.Grant
import Rsduck.Lib.Run
import Mathlib.Logic.Relation

/-!
What the statements on users, roles and grants do to the tables of users and roles.

`AccessStep` lists the changes there are, each with what the statement has checked before it
makes the change. A mutation is a chain of them; what every change keeps, every mutation keeps.
-/

namespace Rsduck.Catalog

open Lib Lib.Eff Lib.Text Sql

/-- The tables that say who may do what. -/
structure AccessTables where
  users : Table UserRow
  roles : Table RoleRow
  userRoles : Table UserRoleRow
  privileges : Table PrivilegeRow

def accessTables (c : Catalog) : AccessTables :=
  ⟨c.rsUser, c.rsRole, c.rsUserRole, c.rsPrivilege⟩

/-- What a statement may take away: roles of the pairs of a user and a role, and the users that the
names are found to be of. -/
structure Taken where
  pairs : List (ℤ × ℤ) := []
  usernames : List String := []

/-- One change. Nothing is taken away but what is given. -/
inductive AccessStep (taken : Taken) (t : AccessTables) : AccessTables → Prop
  | createUser (u : UserRow) (roleId grantedBy : ℤ) (users : Table UserRow)
    (userRoles : Table UserRoleRow)
    (hname : ∀ v ∈ t.users.rows, sameName v.username u.username = false)
    (hactive : u.status = "active") (husers : t.users.insert u = some users)
    (hrole : ∃ r ∈ t.roles.rows, r.roleId = roleId)
    (huserRoles : t.userRoles.insert ⟨u.userId, roleId, grantedBy⟩ = some userRoles) :
    AccessStep taken t { t with users, userRoles }
  | alterUser (userId : ℤ) (passwordHash mysqlAuthString : String) :
    AccessStep taken t
      { t with
        users := t.users.update (·.userId == userId) (withPassword passwordHash mysqlAuthString)
          fun _ _ => rfl }
  | dropUser (v : UserRow) (username : String) (hv : v ∈ t.users.rows)
    (hname : sameName v.username username = true) (h : username ∈ taken.usernames) :
    AccessStep taken t
      { t with
        users := t.users.delete (·.userId == v.userId)
        userRoles := t.userRoles.delete (·.userId == v.userId)
        privileges := t.privileges.delete fun p =>
          p.principalType == .user && p.principalId == v.userId }
  | createRole (r : RoleRow) (roles : Table RoleRow)
    (hname : ∀ v ∈ t.roles.rows, sameName v.roleName r.roleName = false)
    (hroles : t.roles.insert r = some roles) : AccessStep taken t { t with roles }
  | dropRole (r : RoleRow) (hr : r ∈ t.roles.rows) (hbuiltin : r.isBuiltin = false) :
    AccessStep taken t
      { t with
        userRoles := t.userRoles.delete (·.roleId == r.roleId)
        privileges := t.privileges.delete fun p =>
          p.principalType == .role && p.principalId == r.roleId
        roles := t.roles.delete (·.roleId == r.roleId) }
  | grantRole (userId roleId grantedBy : ℤ) (userRoles : Table UserRoleRow)
    (hrole : ∃ r ∈ t.roles.rows, r.roleId = roleId)
    (huserRoles : t.userRoles.insert ⟨userId, roleId, grantedBy⟩ = some userRoles) :
    AccessStep taken t { t with userRoles }
  | revokeRole (userId roleId : ℤ) (h : (userId, roleId) ∈ taken.pairs) :
    AccessStep taken t
      { t with userRoles := t.userRoles.delete fun r => r.userId == userId && r.roleId == roleId }
  | grantPrivilege (row : PrivilegeRow) (privileges : Table PrivilegeRow)
    (h : t.privileges.insert row = some privileges) : AccessStep taken t { t with privileges }
  | revokePrivilege (triple : Triple) :
    AccessStep taken t { t with privileges := t.privileges.delete triple.isOf }

/-- A chain of changes. -/
def AccessSteps (taken : Taken) (c c' : Catalog) : Prop :=
  Relation.ReflTransGen (AccessStep taken) (accessTables c) (accessTables c')

section AccessSteps

variable {taken : Taken}

instance : SeesNoJournal (AccessSteps taken) where
  refl _ := .refl
  trans h h' := Relation.ReflTransGen.trans h h'
  oidAlloc _ _ := .refl
  journal _ _ := .refl
  version _ _ := .refl

lemma AccessSteps.single {c c' : Catalog}
    (h : AccessStep taken (accessTables c) (accessTables c')) : AccessSteps taken c c' :=
  Relation.ReflTransGen.single h

/-- What every change keeps, a chain keeps. -/
lemma AccessSteps.invariant {I : AccessTables → Prop} {c c' : Catalog}
    (hstep : ∀ t t', I t → AccessStep taken t t' → I t') (h : AccessSteps taken c c')
    (hc : I (accessTables c)) : I (accessTables c') := by
  unfold AccessSteps at h
  generalize accessTables c' = t' at h ⊢
  induction h with
  | refl => exact hc
  | tail _ hlast ih => exact hstep _ _ ih hlast

/-- A change leaves the tables that are not its own alone. -/
instance : SeesNoJournal (Same accessTables) where
  oidAlloc _ _ := rfl
  journal _ _ := rfl
  version _ _ := rfl

/-! ### Users -/

lemma sameName_of_userIdByNameOpt_none {c : Catalog} {username : String}
    (h : userIdByNameOpt c username = none) :
    ∀ v ∈ c.rsUser.rows, sameName v.username username = false := by
  unfold userIdByNameOpt at h
  rw [Option.map_eq_none_iff] at h
  exact fun v hv => by simpa using List.find?_eq_none.1 h v hv

lemma exists_of_userIdByNameOpt {c : Catalog} {username : String} {userId : ℤ}
    (h : userIdByNameOpt c username = some userId) :
    ∃ v ∈ c.rsUser.rows, v.userId = userId ∧ sameName v.username username = true := by
  obtain ⟨v, hv, rfl⟩ := Option.map_eq_some_iff.1 h
  exact ⟨v, List.mem_of_find?_eq_some hv, rfl, by simpa using List.find?_some hv⟩

lemma sameName_of_roleIdByNameOpt_none {c : Catalog} {roleName : String}
    (h : roleIdByNameOpt c roleName = none) :
    ∀ r ∈ c.rsRole.rows, sameName r.roleName roleName = false := by
  unfold roleIdByNameOpt at h
  rw [Option.map_eq_none_iff] at h
  exact fun v hv => by simpa using List.find?_eq_none.1 h v hv

lemma exists_of_roleIdByNameOpt {c : Catalog} {roleName : String} {roleId : ℤ}
    (h : roleIdByNameOpt c roleName = some roleId) :
    ∃ r ∈ c.rsRole.rows, r.roleId = roleId ∧ sameName r.roleName roleName = true := by
  obtain ⟨v, hv, rfl⟩ := Option.map_eq_some_iff.1 h
  exact ⟨v, List.mem_of_find?_eq_some hv, rfl, by simpa using List.find?_some hv⟩

lemma exists_of_roleIdByName {c : Catalog} {roleName : String} {roleId : ℤ}
    (h : roleIdByName c roleName = .ok roleId) :
    ∃ r ∈ c.rsRole.rows, r.roleId = roleId ∧ sameName r.roleName roleName = true := by
  unfold roleIdByName at h
  rcases hid : roleIdByNameOpt c roleName with _ | id
  · rw [hid] at h
    cases h
  · rw [hid] at h
    cases h
    exact exists_of_roleIdByNameOpt hid

lemma exists_of_userIdByName {c : Catalog} {username : String} {userId : ℤ}
    (h : userIdByName c username = .ok userId) :
    ∃ v ∈ c.rsUser.rows, v.userId = userId ∧ sameName v.username username = true := by
  unfold userIdByName at h
  rcases hid : userIdByNameOpt c username with _ | id
  · rw [hid] at h
    cases h
  · rw [hid] at h
    cases h
    exact exists_of_userIdByNameOpt hid

/-! ### One statement -/

variable {sql : List Char} {c c' : Catalog} {n : ℕ}

lemma steps_insertUser {owner : ℤ} {ifNotExists : Bool} {username hash verifier : String}
    (h : Runs (insertUser sql owner ifNotExists username hash verifier) c n c') :
    AccessSteps taken c c' := by
  rcases runs_insertUser.1 h with ⟨-, -, -, rfl⟩ |
    ⟨hname, -, userId, v, journal, users, readerRole, userRoles, -, -, -, husers, hreader,
      huserRoles, rfl⟩
  · exact Frame.refl c'
  · obtain ⟨r, hr, hid, -⟩ := exists_of_roleIdByName hreader
    exact .single (.createUser (newUser userId username hash verifier) readerRole owner users
      userRoles (sameName_of_userIdByNameOpt_none hname) rfl husers ⟨r, hr, hid⟩ huserRoles)

lemma steps_updateUserPassword {ifExists : Bool} {username hash verifier : String}
    (h : Runs (updateUserPassword sql ifExists username hash verifier) c n c') :
    AccessSteps taken c c' := by
  rcases runs_updateUserPassword.1 h with ⟨-, -, -, rfl⟩ |
    ⟨-, userId, journalId, v, journal, -, -, -, -, rfl⟩
  · exact Frame.refl c'
  · exact .single (.alterUser userId hash verifier)

/-- What is written between a journal row and its end. -/
lemma steps_journal {mutationType request : String} {targetOid journalId : ℤ} {c₁ c₂ : Catalog}
    {u : PUnit} (h₁ : Runs (insertJournal mutationType targetOid request) c journalId c₁)
    (h₂ : Runs (finishJournal journalId) c₂ u c')
    (h : AccessStep taken (accessTables c₁) (accessTables c₂)) : AccessSteps taken c c' :=
  Frame.trans (keeps_insertJournal _ _ _ _ _ _ h₁)
    (Frame.trans (AccessSteps.single h) (keeps_finishJournal _ _ _ _ h₂))

lemma accessTables_insertJournal {mutationType request : String} {targetOid journalId : ℤ}
    (h : Runs (insertJournal mutationType targetOid request) c journalId c') :
    accessTables c' = accessTables c :=
  keeps_insertJournal (R := Same accessTables) _ _ _ _ _ _ h

lemma steps_dropUserAccount {ifExists : Bool} {affected : ℕ} {name : ObjectName}
    (htaken : ∀ username, singleNamePart name = .ok username →
      eqIgnoreAsciiCase username "admin".toList = false → String.ofList username ∈ taken.usernames)
    (h : Runs (dropUserAccount sql ifExists affected name) c n c') : AccessSteps taken c c' := by
  obtain ⟨username, c₀, hpart, h₀⟩ := runs_bind.1 h
  obtain ⟨husername, rfl⟩ := runs_fromExcept.1 hpart
  rw [runs_ite] at h₀
  obtain ⟨-, hthrow⟩ | ⟨hadmin, h₁⟩ := h₀
  · exact (runs_throw.1 hthrow).elim
  rw [runs_get_bind] at h₁
  rcases huser : userIdByNameOpt c₀ (String.ofList username) with _ | userId
  · rw [huser] at h₁
    cases ifExists with
    | false => exact (runs_throw.1 h₁).elim
    | true =>
      obtain ⟨-, rfl⟩ := runs_pure.1 h₁
      exact Frame.refl c'
  · rw [huser] at h₁
    obtain ⟨journalId, c₁, hjournal, h₂⟩ := runs_bind.1 h₁
    obtain ⟨_, c₂, hroles, h₃⟩ := runs_bind.1 h₂
    obtain ⟨_, c₃, hprivileges, h₄⟩ := runs_bind.1 h₃
    obtain ⟨_, c₄, husers, h₅⟩ := runs_bind.1 h₄
    obtain ⟨_, c₅, hfinish, h₆⟩ := runs_bind.1 h₅
    obtain ⟨-, rfl⟩ := runs_pure.1 h₆
    have hc₂ := runs_deleteRows.1 hroles
    have hc₃ := runs_deleteRows.1 hprivileges
    have hc₄ := runs_deleteRows.1 husers
    obtain ⟨v, hv, rfl, hname⟩ := exists_of_userIdByNameOpt huser
    have hsame := accessTables_insertJournal hjournal
    refine steps_journal hjournal hfinish ?_
    rw [hc₄, hc₃, hc₂]
    refine AccessStep.dropUser v (String.ofList username) ?_ hname
      (htaken username husername (by simpa using hadmin))
    rw [hsame]
    exact hv

lemma steps_createRoleAccount {ifNotExists : Bool} {affected : ℕ} {name : ObjectName}
    (h : Runs (createRoleAccount sql ifNotExists affected name) c n c') :
    AccessSteps taken c c' := by
  obtain ⟨roleName, c₀, hpart, h₀⟩ := runs_bind.1 h
  obtain ⟨-, rfl⟩ := runs_fromExcept.1 hpart
  obtain ⟨_, c₁, hvalid, h₁⟩ := runs_bind.1 h₀
  obtain ⟨-, rfl⟩ := runs_fromExcept.1 hvalid
  rw [runs_get_bind] at h₁
  rcases hrole : roleIdByNameOpt c₁ (String.ofList roleName) with _ | taken
  · rw [hrole] at h₁
    obtain ⟨roleId, c₂, halloc, h₂⟩ := runs_bind.1 h₁
    obtain ⟨journalId, c₃, hjournal, h₃⟩ := runs_bind.1 h₂
    obtain ⟨_, c₄, hinsert, h₄⟩ := runs_bind.1 h₃
    obtain ⟨_, c₅, hfinish, h₅⟩ := runs_bind.1 h₄
    obtain ⟨-, rfl⟩ := runs_pure.1 h₅
    obtain ⟨roles, hroles, hc₄⟩ := runs_insertRow.1 hinsert
    have hsame : accessTables c₃ = accessTables c₁ :=
      (accessTables_insertJournal hjournal).trans
        (keeps_allocateOid (R := Same accessTables) _ _ _ halloc)
    have hrows : c₃.rsRole = c₁.rsRole := congrArg AccessTables.roles hsame
    refine Frame.trans (keeps_allocateOid _ _ _ halloc) (steps_journal hjournal hfinish ?_)
    rw [hc₄]
    refine AccessStep.createRole _ roles ?_ hroles
    change ∀ v ∈ c₃.rsRole.rows, _
    rw [hrows]
    exact sameName_of_roleIdByNameOpt_none hrole
  · rw [hrole] at h₁
    cases ifNotExists with
    | false => exact (runs_throw.1 h₁).elim
    | true =>
      obtain ⟨-, rfl⟩ := runs_pure.1 h₁
      exact Frame.refl c'

lemma builtinRole_eq_ok {roleId : ℤ} {b : Bool} (h : builtinRole c roleId = .ok b) :
    ∃ r ∈ c.rsRole.rows, r.roleId = roleId ∧ r.isBuiltin = b := by
  unfold builtinRole at h
  rcases hfind : c.rsRole.find (·.roleId == roleId) with _ | r
  · rw [hfind] at h
    cases h
  · rw [hfind] at h
    cases h
    have hid := List.find?_some hfind
    exact ⟨r, List.mem_of_find?_eq_some hfind, beq_iff_eq.1 hid, rfl⟩

lemma steps_dropRoleAccount {ifExists cascade : Bool} {affected : ℕ} {name : ObjectName}
    (h : Runs (dropRoleAccount sql ifExists cascade affected name) c n c') :
    AccessSteps taken c c' := by
  obtain ⟨roleName, c₀, hpart, h₀⟩ := runs_bind.1 h
  obtain ⟨-, rfl⟩ := runs_fromExcept.1 hpart
  rw [runs_get_bind] at h₀
  rcases hrole : roleIdByNameOpt c₀ (String.ofList roleName) with _ | roleId
  · rw [hrole] at h₀
    cases ifExists with
    | false => exact (runs_throw.1 h₀).elim
    | true =>
      obtain ⟨-, rfl⟩ := runs_pure.1 h₀
      exact Frame.refl c'
  · rw [hrole] at h₀
    obtain ⟨builtin, c₁, hlook, h₁⟩ := runs_bind.1 h₀
    obtain ⟨hbuiltin, rfl⟩ := runs_look.1 hlook
    obtain ⟨_, c₂, hensure, h₂⟩ := runs_bind.1 h₁
    obtain ⟨hnot, rfl⟩ := runs_ensure.1 hensure
    obtain ⟨dependents, c₃, hlook', h₃⟩ := runs_bind.1 h₂
    obtain ⟨-, rfl⟩ := runs_look.1 hlook'
    obtain ⟨_, c₄, hensure', h₄⟩ := runs_bind.1 h₃
    obtain ⟨-, rfl⟩ := runs_ensure.1 hensure'
    obtain ⟨journalId, c₅, hjournal, h₅⟩ := runs_bind.1 h₄
    obtain ⟨_, c₆, huserRoles, h₆⟩ := runs_bind.1 h₅
    obtain ⟨_, c₇, hprivileges, h₇⟩ := runs_bind.1 h₆
    obtain ⟨_, c₈, hroles, h₈⟩ := runs_bind.1 h₇
    obtain ⟨_, c₉, hfinish, h₉⟩ := runs_bind.1 h₈
    obtain ⟨-, rfl⟩ := runs_pure.1 h₉
    have hc₆ := runs_deleteRows.1 huserRoles
    have hc₇ := runs_deleteRows.1 hprivileges
    have hc₈ := runs_deleteRows.1 hroles
    obtain ⟨r, hr, rfl, rfl⟩ := builtinRole_eq_ok hbuiltin
    have hsame := accessTables_insertJournal hjournal
    refine steps_journal hjournal hfinish ?_
    rw [hc₈, hc₇, hc₆]
    refine AccessStep.dropRole r ?_ (by simpa using hnot)
    rw [hsame]
    exact hr

/-! ### Grants -/

lemma steps_upsertUserRole {userId roleId grantorId : ℤ}
    (hrole : ∃ r ∈ c.rsRole.rows, r.roleId = roleId)
    (h : Runs (upsertUserRole userId roleId grantorId) c n c') :
    AccessSteps taken c c' ∧ c'.rsRole = c.rsRole := by
  obtain ⟨found, c₀, hexists, h₀⟩ := runs_bind.1 h
  obtain ⟨-, rfl⟩ := runs_existsRow.1 hexists
  cases found with
  | true =>
    obtain ⟨-, rfl⟩ := runs_pure.1 h₀
    exact ⟨Frame.refl c', rfl⟩
  | false =>
    obtain ⟨_, c₁, hinsert, h₁⟩ := runs_bind.1 h₀
    obtain ⟨userRoles, huserRoles, rfl⟩ := runs_insertRow.1 hinsert
    obtain ⟨-, rfl⟩ := runs_pure.1 h₁
    exact ⟨.single (.grantRole userId roleId grantorId userRoles hrole huserRoles), rfl⟩

lemma steps_deleteUserRole {userId roleId : ℤ} (hpair : (userId, roleId) ∈ taken.pairs)
    (h : Runs (deleteUserRole userId roleId) c n c') : AccessSteps taken c c' := by
  obtain ⟨rows, c₀, hselect, h₀⟩ := runs_bind.1 h
  obtain ⟨-, rfl⟩ := runs_selectRows.1 hselect
  obtain ⟨_, c₁, hdelete, h₁⟩ := runs_bind.1 h₀
  have hc₁ := runs_deleteRows.1 hdelete
  obtain ⟨-, rfl⟩ := runs_pure.1 h₁
  rw [hc₁]
  exact .single (.revokeRole userId roleId hpair)

lemma steps_upsertPrivilege {triple : Triple} {grantorId : ℤ}
    (h : Runs (upsertPrivilege triple grantorId) c n c') : AccessSteps taken c c' := by
  obtain ⟨found, c₀, hexists, h₀⟩ := runs_bind.1 h
  obtain ⟨-, rfl⟩ := runs_existsRow.1 hexists
  cases found with
  | true =>
    obtain ⟨-, rfl⟩ := runs_pure.1 h₀
    exact Frame.refl c'
  | false =>
    obtain ⟨privilegeId, c₁, halloc, h₁⟩ := runs_bind.1 h₀
    obtain ⟨_, c₂, hinsert, h₂⟩ := runs_bind.1 h₁
    obtain ⟨privileges, hprivileges, rfl⟩ := runs_insertRow.1 hinsert
    obtain ⟨-, rfl⟩ := runs_pure.1 h₂
    refine Frame.trans (keeps_allocateOid _ _ _ halloc) ?_
    exact .single (.grantPrivilege (triple.row privilegeId grantorId) privileges hprivileges)

lemma steps_deletePrivilege {triple : Triple} (h : Runs (deletePrivilege triple) c n c') :
    AccessSteps taken c c' := by
  obtain ⟨rows, c₀, hselect, h₀⟩ := runs_bind.1 h
  obtain ⟨-, rfl⟩ := runs_selectRows.1 hselect
  obtain ⟨_, c₁, hdelete, h₁⟩ := runs_bind.1 h₀
  have hc₁ := runs_deleteRows.1 hdelete
  obtain ⟨-, rfl⟩ := runs_pure.1 h₁
  rw [hc₁]
  exact .single (.revokePrivilege triple)

/-! ### The mutations -/

lemma steps_journalled {mutationType : String} {body : Eff Catalog ℕ}
    (hbody : ∀ c₁ n c₂, accessTables c₁ = accessTables c → Runs body c₁ n c₂ →
      AccessSteps taken c₁ c₂)
    (h : Runs (journalled mutationType sql body) c n c') : AccessSteps taken c c' := by
  obtain ⟨journalId, c₁, hjournal, h₁⟩ := runs_bind.1 h
  obtain ⟨affected, c₂, hrun, h₂⟩ := runs_bind.1 h₁
  obtain ⟨_, c₃, hfinish, h₃⟩ := runs_bind.1 h₂
  obtain ⟨-, rfl⟩ := runs_pure.1 h₃
  have hsteps := hbody c₁ affected c₂ (accessTables_insertJournal hjournal) hrun
  exact Frame.trans (keeps_insertJournal _ _ _ _ _ _ hjournal)
    (Frame.trans hsteps (keeps_finishJournal _ _ _ _ hfinish))

/-- A loop is a chain when its turns are. -/
lemma keeps_countM {α : Type} {xs : List α} {f : α → Eff Catalog ℕ}
    (hf : ∀ x ∈ xs, Keeps (AccessSteps taken) (f x)) :
    Keeps (AccessSteps taken) (countM xs f) :=
  keeps_foldlM fun _ x hx => keeps_bind (hf x hx) fun _ => keeps_pure _

/-- The names of the users that a statement drops. Only an ASCII spelling of `admin` is refused. -/
def droppedNames (names : List ObjectName) : List String :=
  (names.filterMap fun name => (singleNamePart name).toOption).filterMap fun username =>
    if eqIgnoreAsciiCase username "admin".toList then none else some (String.ofList username)

lemma mem_droppedNames {names : List ObjectName} {name : ObjectName} (hname : name ∈ names)
    {username : List Char} (hpart : singleNamePart name = .ok username)
    (hother : eqIgnoreAsciiCase username "admin".toList = false) :
    String.ofList username ∈ droppedNames names := by
  refine List.mem_filterMap.2 ⟨username, List.mem_filterMap.2 ⟨name, hname, ?_⟩, ?_⟩
  · rw [hpart]
    rfl
  · rw [hother]
    rfl

/-- The pairs of a user and a role that a statement takes away. -/
def revokedPairs (c : Catalog) (g : GrantStatement) : List (ℤ × ℤ) :=
  if g.onRoles then (namedUserRoles c g).toOption.getD [] else []

section Mutations

variable {P : Type} {d t : Db P} {b : Session.Body (Db P) ℕ}

lemma steps_userMutation {H : PasswordHashing} {s : UserStatement} {owner : ℤ}
    (htaken : ∀ ifExists names, s = .dropUser ifExists names →
      droppedNames names ⊆ taken.usernames)
    (hb : userMutation H s sql owner d = .ok (some b)) (hrun : Runs b.run d n t) :
    AccessSteps taken d.cat t.cat := by
  rcases s with ⟨orReplace, ifNotExists, name⟩ | ⟨otherOptions, ifExists, name, password⟩ |
    ⟨ifExists, names⟩
  · obtain ⟨-, -, _, _, _, -, -, rfl⟩ := (createUserAccount_eq_some (d := d)).1 hb
    exact steps_insertUser (Db.runs_onCatalog.1 hrun).1
  · obtain ⟨-, -, _, _, -, -, rfl⟩ := (alterUserAccount_eq_some (d := d)).1 hb
    exact steps_updateUserPassword (Db.runs_onCatalog.1 hrun).1
  · simp only [userMutation, dropUserAccounts] at hb
    split_ifs at hb
    cases hb
    exact keeps_foldlM (fun _ _ hname _ _ _ h => steps_dropUserAccount (fun _ hpart hother =>
      htaken _ _ rfl (mem_droppedNames hname hpart hother)) h) _ _ _ (Db.runs_onCatalog.1 hrun).1

lemma steps_roleMutation {s : RoleStatement} (hb : roleMutation s sql d = .ok (some b))
    (hrun : Runs b.run d n t) : AccessSteps taken d.cat t.cat := by
  rcases s with ⟨otherOptions, ifNotExists, names⟩ | ⟨ifExists, cascade, names⟩
  · simp only [roleMutation, createRoleAccounts] at hb
    split_ifs at hb
    cases hb
    exact keeps_foldlM (fun _ _ _ _ _ _ h => steps_createRoleAccount h) _ _ _
      (Db.runs_onCatalog.1 hrun).1
  · simp only [roleMutation, dropRoleAccounts] at hb
    split_ifs at hb
    cases hb
    exact keeps_foldlM (fun _ _ _ _ _ _ h => steps_dropRoleAccount h) _ _ _
      (Db.runs_onCatalog.1 hrun).1

lemma steps_grantPrivileges {g : GrantStatement} {grantorId : ℤ}
    (hb : grantPrivileges g sql grantorId d = .ok (some b)) (hrun : Runs b.run d n t) :
    AccessSteps taken d.cat t.cat := by
  rcases grantPrivileges_eq_some.1 hb with ⟨-, pairs, hpairs, rfl⟩ | ⟨-, triples, -, rfl⟩
  · refine steps_journalled (fun c₁ n c₂ hsame hbody => ?_) (Db.runs_onCatalog.1 hrun).1
    have hrows : c₁.rsRole = d.cat.rsRole := congrArg AccessTables.roles hsame
    refine keeps_foldlM_of (I := fun c => c.rsRole = d.cat.rsRole) ?_ hrows hbody
    intro pair hpair _ c₃ _ c₄ hc₃ hturn
    obtain ⟨k, c₅, hupsert, hpure⟩ := runs_bind.1 hturn
    obtain ⟨-, rfl⟩ := runs_pure.1 hpure
    obtain ⟨⟨roleName, -, hrole⟩, -⟩ := mem_namedUserRoles hpairs hpair
    obtain ⟨r, hr, hid, -⟩ := exists_of_roleIdByName hrole
    obtain ⟨hsteps, hsame'⟩ := steps_upsertUserRole (hc₃ ▸ ⟨r, hr, hid⟩) hupsert
    exact ⟨hsteps, hsame'.trans hc₃⟩
  · refine steps_journalled (fun c₁ n c₂ _ hbody => ?_) (Db.runs_onCatalog.1 hrun).1
    exact keeps_countM (fun _ _ _ _ _ h => steps_upsertPrivilege h) _ _ _ hbody

lemma steps_revokePrivileges {g : GrantStatement} (hb : revokePrivileges g sql d = .ok (some b))
    (hrun : Runs b.run d n t) : AccessSteps { pairs := revokedPairs d.cat g } d.cat t.cat := by
  rcases revokePrivileges_eq_some.1 hb with ⟨hroles, pairs, hpairs, rfl⟩ | ⟨-, triples, -, rfl⟩
  · have hrevoked : revokedPairs d.cat g = pairs := by
      rw [revokedPairs, if_pos hroles, hpairs]
      rfl
    rw [hrevoked]
    refine steps_journalled (fun c₁ n c₂ _ hbody => ?_) (Db.runs_onCatalog.1 hrun).1
    exact keeps_countM (fun _ hpair _ _ _ h => steps_deleteUserRole hpair h) _ _ _ hbody
  · refine steps_journalled (fun c₁ n c₂ _ hbody => ?_) (Db.runs_onCatalog.1 hrun).1
    exact keeps_countM (fun _ _ _ _ _ h => steps_deletePrivilege h) _ _ _ hbody

end Mutations

end AccessSteps

/-! ### Runs of such statements -/

/-- A statement on users, roles or grants, by any user. -/
inductive AccessEvent
  | user (H : PasswordHashing) (s : UserStatement) (sql : List Char) (owner : ℤ)
  | role (s : RoleStatement) (sql : List Char)
  | grant (g : GrantStatement) (sql : List Char) (grantorId : ℤ)
  | revoke (g : GrantStatement) (sql : List Char)

variable {P : Type}

def AccessEvent.mutation : AccessEvent → Mutation P
  | .user H s sql owner => userMutation H s sql owner
  | .role s sql => roleMutation s sql
  | .grant g sql grantorId => grantPrivileges g sql grantorId
  | .revoke g sql => revokePrivileges g sql

/-- What the statement may take away. -/
def AccessEvent.taken (c : Catalog) : AccessEvent → Taken
  | .user _ (.dropUser _ names) _ _ => { usernames := droppedNames names }
  | .revoke g _ => { pairs := revokedPairs c g }
  | _ => {}

lemma calm_accessEvent (e : AccessEvent) (d : Db P) : e.mutation.Calm d := by
  cases e with
  | user H s sql owner => exact calm_userMutation H s sql owner d
  | role s sql => exact calm_roleMutation s sql d
  | grant g sql grantorId => exact calm_grantPrivileges g sql grantorId d
  | revoke g sql => exact calm_revokePrivileges g sql d

/-- **Every statement is a chain of changes**, of those it may make. -/
lemma steps_accessEvent (e : AccessEvent) (d : Db P) :
    AccessSteps (e.taken d.cat) d.cat (e.mutation.alone d).2.cat := by
  rcases alone_cases (calm_accessEvent e d) with ⟨b, n, t, hb, hrun, halone⟩ | ⟨-, hdb, -⟩
  · rw [halone]
    cases e with
    | user H s sql owner =>
      refine steps_userMutation (fun ifExists names hs => ?_) hb hrun
      subst hs
      exact List.Subset.refl _
    | role s sql => exact steps_roleMutation hb hrun
    | grant g sql grantorId => exact steps_grantPrivileges hb hrun
    | revoke g sql => exact steps_revokePrivileges hb hrun
  · rw [hdb]
    exact Frame.refl d.cat

def accessSystem : System (Db P) AccessEvent where
  step d e := some (e.mutation.alone d).2

end Rsduck.Catalog
