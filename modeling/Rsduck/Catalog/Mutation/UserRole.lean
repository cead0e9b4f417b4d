import Rsduck.Catalog.Mutation.Executor

/-!
The mutations of users and roles: `CREATE`, `ALTER` and `DROP USER`, `CREATE` and `DROP ROLE`.

An account is a user's id with the name it goes by. Only these mutations add or remove accounts.
-/

namespace Rsduck.Catalog

open Lib Lib.Eff Lib.Text Sql

/-- The hash of a password, with the salt that is drawn for it. -/
structure PasswordHashing where
  hashPassword : String → Except String String
  mysqlCachingSha2Verifier : String → String

/-- What the tree of a user statement holds. -/
inductive UserStatement
  | createUser (orReplace ifNotExists : Bool) (name : List Char)
  /-- The password is that of the `PASSWORD` option: none is `PASSWORD NULL`. -/
  | alterUser (otherOptions ifExists : Bool) (name : List Char)
    (password : Option (Option String))
  | dropUser (ifExists : Bool) (names : List ObjectName)

/-- What the tree of a role statement holds. -/
inductive RoleStatement
  | createRole (otherOptions ifNotExists : Bool) (names : List ObjectName)
  | dropRole (ifExists cascade : Bool) (names : List ObjectName)

def passwordAlgo : String := "argon2id"

def mysqlCachingSha2Password : String := "caching_sha2_password"

def validateUsername (username : List Char) : Except String Unit :=
  if username = [] then .error "username cannot be empty"
  else if username.all fun c => c.isAlphanum || c == '_' then .ok ()
  else .error ("username contains unsupported characters: " ++ String.ofList username)

def validateRoleName (roleName : List Char) : Except String Unit :=
  if roleName = [] then .error "role name cannot be empty"
  else if roleName.all fun c => c.isAlphanum || c == '_' then .ok ()
  else .error ("role name contains unsupported characters: " ++ String.ofList roleName)

def builtinRole (c : Catalog) (roleId : ℤ) : Except String Bool :=
  match c.rsRole.find (·.roleId == roleId) with
  | some r => .ok r.isBuiltin
  | none => .error ("read role builtin flag failed: " ++ noRows)

def roleHasDependents (c : Catalog) (roleId : ℤ) : Bool :=
  c.rsUserRole.exists? (·.roleId == roleId) ||
    c.rsPrivilege.exists? fun v => v.principalType == .role && v.principalId == roleId

section Bodies

variable (sql : List Char) (owner : ℤ)

/-- The transaction of a `CREATE USER`. -/
def insertUser (ifNotExists : Bool) (username passwordHash mysqlAuthString : String) :
    Eff Catalog ℕ := do
  match userIdByNameOpt (← get) username with
  | some _ => if ifNotExists then return 0 else throw ("user already exists: " ++ username)
  | none =>
    let userId ← allocateOid
    let journalId ← insertJournal "create_user" userId (String.ofList sql)
    insertRow Slot.user "write rs_user failed: "
      { userId, username, passwordHash, passwordAlgo
        mysqlAuthPlugin := mysqlCachingSha2Password, mysqlAuthString
        status := "active", isBuiltin := false }
    let readerRole ← look (roleIdByName · "reader")
    insertRow Slot.userRole "write default user role failed: "
      { userId, roleId := readerRole, grantedBy := owner }
    finishJournal journalId
    return 1

/-- The transaction of an `ALTER USER`. -/
def updateUserPassword (ifExists : Bool) (username passwordHash mysqlAuthString : String) :
    Eff Catalog ℕ := do
  match userIdByNameOpt (← get) username with
  | none => if ifExists then return 0 else throw ("user does not exist: " ++ username)
  | some userId =>
    let journalId ← insertJournal "alter_user_password" userId (String.ofList sql)
    updateRows Slot.user (·.userId == userId)
      (fun u => { u with
        passwordHash, passwordAlgo, mysqlAuthPlugin := mysqlCachingSha2Password, mysqlAuthString })
      fun _ _ => rfl
    finishJournal journalId
    return 1

/-- One name of a `DROP USER`; the number of users dropped so far. -/
def dropUserAccount (ifExists : Bool) (affected : ℕ) (name : ObjectName) : Eff Catalog ℕ := do
  let username ← fromExcept (singleNamePart name)
  if eqIgnoreAsciiCase username "admin".toList then throw "default admin user cannot be dropped"
  else
    match userIdByNameOpt (← get) (String.ofList username) with
    | none =>
      if ifExists then return affected
      else throw ("user does not exist: " ++ String.ofList username)
    | some userId =>
      let journalId ← insertJournal "drop_user" userId (String.ofList sql)
      deleteRows Slot.userRole (·.userId == userId)
      deleteRows Slot.privilege fun v => v.principalType == .user && v.principalId == userId
      deleteRows Slot.user (·.userId == userId)
      finishJournal journalId
      return affected + 1

/-- One name of a `CREATE ROLE`; the number of roles created so far. -/
def createRoleAccount (ifNotExists : Bool) (affected : ℕ) (name : ObjectName) :
    Eff Catalog ℕ := do
  let roleName ← fromExcept (singleNamePart name)
  fromExcept (validateRoleName roleName)
  match roleIdByNameOpt (← get) (String.ofList roleName) with
  | some _ =>
    if ifNotExists then return affected
    else throw ("role already exists: " ++ String.ofList roleName)
  | none =>
    let roleId ← allocateOid
    let journalId ← insertJournal "create_role" roleId (String.ofList sql)
    insertRow Slot.role "write rs_role failed: "
      { roleId, roleName := String.ofList roleName, description := "", isBuiltin := false }
    finishJournal journalId
    return affected + 1

/-- One name of a `DROP ROLE`; the number of roles dropped so far. -/
def dropRoleAccount (ifExists cascade : Bool) (affected : ℕ) (name : ObjectName) :
    Eff Catalog ℕ := do
  let roleName ← fromExcept (singleNamePart name)
  match roleIdByNameOpt (← get) (String.ofList roleName) with
  | none =>
    if ifExists then return affected
    else throw ("role does not exist: " ++ String.ofList roleName)
  | some roleId =>
    let builtin ← look (builtinRole · roleId)
    ensure (!builtin) ("builtin role cannot be dropped: " ++ String.ofList roleName)
    let dependents ← look fun c => .ok (roleHasDependents c roleId)
    ensure (cascade || !dependents)
      ("cannot drop role with granted users or privileges; revoke grants first: " ++
        String.ofList roleName)
    let journalId ← insertJournal "drop_role" roleId (String.ofList sql)
    deleteRows Slot.userRole (·.roleId == roleId)
    deleteRows Slot.privilege fun v => v.principalType == .role && v.principalId == roleId
    deleteRows Slot.role (·.roleId == roleId)
    finishJournal journalId
    return affected + 1

end Bodies

section Mutations

variable {P : Type} (H : PasswordHashing)

def createUserAccount (orReplace ifNotExists : Bool) (name sql : List Char) (owner : ℤ) :
    Mutation P := fun _ =>
  if orReplace then .error "CREATE OR REPLACE USER is not supported"
  else do
    let username := trim name
    validateUsername username
    match quotedLiterals sql with
    | [] => .error "CREATE USER requires PASSWORD '<password>'"
    | password :: _ => do
      let passwordHash ← H.hashPassword (String.ofList password)
      return some { run := Db.onCatalog (insertUser sql owner ifNotExists (String.ofList username)
        passwordHash (H.mysqlCachingSha2Verifier (String.ofList password))) }

def alterUserAccount (otherOptions ifExists : Bool) (name : List Char)
    (password : Option (Option String)) (sql : List Char) : Mutation P := fun _ =>
  if otherOptions then .error "ALTER USER only supports PASSWORD changes"
  else do
    let username := trim name
    validateUsername username
    match password with
    | none => .error "ALTER USER requires PASSWORD '<password>'"
    | some none => .error "ALTER USER PASSWORD NULL is not supported"
    | some (some password) => do
      let passwordHash ← H.hashPassword password
      return some { run := Db.onCatalog (updateUserPassword sql ifExists (String.ofList username)
        passwordHash (H.mysqlCachingSha2Verifier password)) }

def dropUserAccounts (ifExists : Bool) (names : List ObjectName) (sql : List Char) :
    Mutation P := fun _ =>
  if names = [] then .error "DROP requires at least one object name"
  else .ok (some { run := Db.onCatalog (names.foldlM (dropUserAccount sql ifExists) 0) })

def userMutation (s : UserStatement) (sql : List Char) (owner : ℤ) : Mutation P :=
  match s with
  | .createUser orReplace ifNotExists name =>
    createUserAccount H orReplace ifNotExists name sql owner
  | .alterUser otherOptions ifExists name password =>
    alterUserAccount H otherOptions ifExists name password sql
  | .dropUser ifExists names => dropUserAccounts ifExists names sql

def createRoleAccounts (otherOptions ifNotExists : Bool) (names : List ObjectName)
    (sql : List Char) : Mutation P := fun _ =>
  if names = [] then .error "CREATE ROLE requires at least one role name"
  else if otherOptions then
    .error "CREATE ROLE only supports plain rsduck roles without extra role options"
  else .ok (some { run := Db.onCatalog (names.foldlM (createRoleAccount sql ifNotExists) 0) })

def dropRoleAccounts (ifExists cascade : Bool) (names : List ObjectName) (sql : List Char) :
    Mutation P := fun _ =>
  if names = [] then .error "DROP requires at least one object name"
  else .ok (some { run := Db.onCatalog (names.foldlM (dropRoleAccount sql ifExists cascade) 0) })

def roleMutation (s : RoleStatement) (sql : List Char) : Mutation P :=
  match s with
  | .createRole otherOptions ifNotExists names =>
    createRoleAccounts otherOptions ifNotExists names sql
  | .dropRole ifExists cascade names => dropRoleAccounts ifExists cascade names sql

end Mutations

/-! ### What the transactions do -/

section Runs

variable {sql : List Char} {owner : ℤ} {c c' : Catalog} {n : ℕ}

/-- The row of a user as `CREATE USER` writes it. -/
def newUser (userId : ℤ) (username passwordHash mysqlAuthString : String) : UserRow :=
  { userId, username, passwordHash, passwordAlgo
    mysqlAuthPlugin := mysqlCachingSha2Password, mysqlAuthString
    status := "active", isBuiltin := false }

/-- The row of a user as `ALTER USER` leaves it. -/
def withPassword (passwordHash mysqlAuthString : String) (u : UserRow) : UserRow :=
  { u with passwordHash, passwordAlgo, mysqlAuthPlugin := mysqlCachingSha2Password, mysqlAuthString }

/-- The users after an `ALTER USER`. -/
def usersWithPassword (userId : ℤ) (passwordHash mysqlAuthString : String) (c : Catalog) :
    Table UserRow :=
  c.rsUser.update (·.userId == userId) (withPassword passwordHash mysqlAuthString) fun _ _ => rfl

/-- The row a mutation writes to the journal before it starts. -/
def pendingRow (journalId epoch : ℤ) (mutationType : String) (targetOid : ℤ) (sql : List Char) :
    JournalRow :=
  { journalId, catalogEpoch := epoch + 1, mutationType, targetOid
    requestJson := String.ofList sql, status := .pending, errorMessage := "" }

/-- A `CREATE USER` finds the name taken, or writes the user with the role `reader`. -/
lemma runs_insertUser {ifNotExists : Bool} {username passwordHash mysqlAuthString : String} :
    Runs (insertUser sql owner ifNotExists username passwordHash mysqlAuthString) c n c' ↔
      (userIdByNameOpt c username ≠ none ∧ ifNotExists = true ∧ n = 0 ∧ c' = c) ∨
        (userIdByNameOpt c username = none ∧ n = 1 ∧ ∃ userId v journal users readerRole userRoles,
          nextOid c = some userId ∧ c.rsCatalogVersion.find (·.id == 1) = some v ∧
          c.rsCatalogJournal.insert
            (pendingRow (userId + 1) v.catalogEpoch "create_user" userId sql) = some journal ∧
          c.rsUser.insert (newUser userId username passwordHash mysqlAuthString) = some users ∧
          roleIdByName c "reader" = .ok readerRole ∧
          c.rsUserRole.insert { userId, roleId := readerRole, grantedBy := owner } =
            some userRoles ∧
          c' = closeJournal (userId + 1)
            { bumpOid (bumpOid c) with
              rsCatalogJournal := journal, rsUser := users, rsUserRole := userRoles }) := by
  unfold insertUser
  rw [runs_get_bind]
  rcases hname : userIdByNameOpt c username with _ | taken
  · constructor
    · intro h
      obtain ⟨userId, c₁, halloc, h₁⟩ := runs_bind.1 h
      obtain ⟨hnext, hc₁⟩ := runs_allocateOid.1 halloc
      obtain ⟨journalId, c₂, hjournal, h₂⟩ := runs_bind.1 h₁
      obtain ⟨hnext', v, journal, hv, hinsert, hc₂⟩ := runs_insertJournal.1 hjournal
      obtain ⟨_, c₃, huser, h₃⟩ := runs_bind.1 h₂
      obtain ⟨users, husers, hc₃⟩ := runs_insertRow.1 huser
      obtain ⟨readerRole, c₄, hreader, h₄⟩ := runs_bind.1 h₃
      obtain ⟨hrole, hc₄⟩ := runs_look.1 hreader
      obtain ⟨_, c₅, huserRole, h₅⟩ := runs_bind.1 h₄
      obtain ⟨userRoles, huserRoles, hc₅⟩ := runs_insertRow.1 huserRole
      obtain ⟨_, c₆, hfinish, h₆⟩ := runs_bind.1 h₅
      obtain ⟨-, hc₆⟩ := runs_finishJournal.1 hfinish
      obtain ⟨rfl, hc'⟩ := runs_pure.1 h₆
      subst hc₁ hc₂ hc₃ hc₄ hc₅ hc₆
      rw [nextOid_bumpOid, hnext, Option.map_some, Option.some.injEq] at hnext'
      subst hnext'
      exact Or.inr ⟨rfl, rfl, userId, v, journal, users, readerRole, userRoles, hnext, hv, hinsert,
        husers, hrole, huserRoles, hc'⟩
    · rintro (⟨hne, -⟩ | ⟨-, rfl, userId, v, journal, users, readerRole, userRoles, hnext, hv,
        hinsert, husers, hrole, huserRoles, rfl⟩)
      · exact absurd rfl hne
      · have hnext' : nextOid (bumpOid c) = some (userId + 1) := by
          rw [nextOid_bumpOid, hnext, Option.map_some]
        have hrow : ∃ r ∈ journal.rows, r.journalId = userId + 1 := by
          rw [(Table.insert_eq_some.1 hinsert).2]
          exact ⟨_, List.mem_append_right _ List.mem_cons_self, rfl⟩
        refine runs_bind.2 ⟨userId, _, runs_allocateOid.2 ⟨hnext, rfl⟩, ?_⟩
        refine runs_bind.2 ⟨userId + 1, _,
          runs_insertJournal.2 ⟨hnext', v, journal, hv, hinsert, rfl⟩, ?_⟩
        refine runs_bind.2 ⟨⟨⟩, _, runs_insertRow.2 ⟨users, husers, rfl⟩, ?_⟩
        refine runs_bind.2 ⟨readerRole, _, runs_look.2 ⟨hrole, rfl⟩, ?_⟩
        refine runs_bind.2 ⟨⟨⟩, _, runs_insertRow.2 ⟨userRoles, huserRoles, rfl⟩, ?_⟩
        exact runs_bind.2 ⟨⟨⟩, _, runs_finishJournal.2 ⟨hrow, rfl⟩, runs_pure.2 ⟨rfl, rfl⟩⟩
  · cases ifNotExists with
    | false => simp
    | true => simp

/-- An `ALTER USER` finds nobody of the name, or sets what is stored of the user's password. -/
lemma runs_updateUserPassword {ifExists : Bool} {username passwordHash mysqlAuthString : String} :
    Runs (updateUserPassword sql ifExists username passwordHash mysqlAuthString) c n c' ↔
      (userIdByNameOpt c username = none ∧ ifExists = true ∧ n = 0 ∧ c' = c) ∨
        (n = 1 ∧ ∃ userId journalId v journal, userIdByNameOpt c username = some userId ∧
          nextOid c = some journalId ∧ c.rsCatalogVersion.find (·.id == 1) = some v ∧
          c.rsCatalogJournal.insert
            (pendingRow journalId v.catalogEpoch "alter_user_password" userId sql) = some journal ∧
          c' = closeJournal journalId
            { bumpOid c with
              rsCatalogJournal := journal
              rsUser := usersWithPassword userId passwordHash mysqlAuthString c }) := by
  unfold updateUserPassword
  rw [runs_get_bind]
  rcases hname : userIdByNameOpt c username with _ | userId
  · cases ifExists with
    | false => simp
    | true => simp
  · constructor
    · intro h
      obtain ⟨journalId, c₁, hjournal, h₁⟩ := runs_bind.1 h
      obtain ⟨hnext, v, journal, hv, hinsert, hc₁⟩ := runs_insertJournal.1 hjournal
      obtain ⟨_, c₂, hupdate, h₂⟩ := runs_bind.1 h₁
      have hc₂ := runs_updateRows.1 hupdate
      obtain ⟨_, c₃, hfinish, h₃⟩ := runs_bind.1 h₂
      obtain ⟨-, hc₃⟩ := runs_finishJournal.1 hfinish
      obtain ⟨rfl, hc'⟩ := runs_pure.1 h₃
      subst hc₁ hc₂ hc₃
      exact Or.inr ⟨rfl, userId, journalId, v, journal, rfl, hnext, hv, hinsert, hc'⟩
    · rintro (⟨hne, -⟩ | ⟨rfl, id, journalId, v, journal, hid, hnext, hv, hinsert, rfl⟩)
      · cases hne
      · cases hid
        have hrow : ∃ r ∈ journal.rows, r.journalId = journalId := by
          rw [(Table.insert_eq_some.1 hinsert).2]
          exact ⟨_, List.mem_append_right _ List.mem_cons_self, rfl⟩
        refine runs_bind.2 ⟨journalId, _,
          runs_insertJournal.2 ⟨hnext, v, journal, hv, hinsert, rfl⟩, ?_⟩
        refine runs_bind.2 ⟨⟨⟩, _, runs_updateRows.2 rfl, ?_⟩
        exact runs_bind.2 ⟨⟨⟩, _, runs_finishJournal.2 ⟨hrow, rfl⟩, runs_pure.2 ⟨rfl, rfl⟩⟩

end Runs

/-! ### When there is a transaction -/

section Checks

variable {P : Type} {H : PasswordHashing} {sql name : List Char} {owner : ℤ} {d : Db P}
  {b : Session.Body (Db P) ℕ}

lemma createUserAccount_eq_some {orReplace ifNotExists : Bool} :
    createUserAccount H orReplace ifNotExists name sql owner d = .ok (some b) ↔
      orReplace = false ∧ validateUsername (trim name) = .ok () ∧
        ∃ password rest passwordHash, quotedLiterals sql = password :: rest ∧
          H.hashPassword (String.ofList password) = .ok passwordHash ∧
          b = { run := Db.onCatalog (insertUser sql owner ifNotExists (String.ofList (trim name))
            passwordHash (H.mysqlCachingSha2Verifier (String.ofList password))) } := by
  unfold createUserAccount
  cases orReplace with
  | true => simp
  | false =>
    rcases hname : validateUsername (trim name) with e | ⟨⟩
    · simp [hname, bind, Except.bind]
    · rcases hquoted : quotedLiterals sql with _ | ⟨password, rest⟩
      · simp [hname, bind, Except.bind]
      · rcases hhash : H.hashPassword (String.ofList password) with e | passwordHash
        · simp [hname, hhash, bind, Except.bind]
        · simp [hname, hhash, bind, Except.bind, pure, Except.pure, eq_comm]

lemma alterUserAccount_eq_some {otherOptions ifExists : Bool} {password : Option (Option String)} :
    alterUserAccount H otherOptions ifExists name password sql d = .ok (some b) ↔
      otherOptions = false ∧ validateUsername (trim name) = .ok () ∧
        ∃ text passwordHash, password = some (some text) ∧
          H.hashPassword text = .ok passwordHash ∧
          b = { run := Db.onCatalog (updateUserPassword sql ifExists (String.ofList (trim name))
            passwordHash (H.mysqlCachingSha2Verifier text)) } := by
  unfold alterUserAccount
  cases otherOptions with
  | true => simp
  | false =>
    rcases hname : validateUsername (trim name) with e | ⟨⟩
    · simp [hname, bind, Except.bind]
    · rcases password with _ | _ | text
      · simp [hname, bind, Except.bind]
      · simp [hname, bind, Except.bind]
      · rcases hhash : H.hashPassword text with e | passwordHash
        · simp [hname, hhash, bind, Except.bind]
        · simp [hname, hhash, bind, Except.bind, pure, Except.pure, eq_comm]

lemma calm_userMutation (H : PasswordHashing) (s : UserStatement) (sql : List Char) (owner : ℤ)
    (d : Db P) : (userMutation H s sql owner).Calm d := by
  intro b hb
  rcases s with ⟨orReplace, ifNotExists, name⟩ | ⟨otherOptions, ifExists, name, password⟩ |
    ⟨ifExists, names⟩
  · obtain ⟨-, -, password, rest, passwordHash, -, -, rfl⟩ :=
      (createUserAccount_eq_some (d := d)).1 hb
    rfl
  · obtain ⟨-, -, text, passwordHash, -, -, rfl⟩ := (alterUserAccount_eq_some (d := d)).1 hb
    rfl
  · simp only [userMutation, dropUserAccounts] at hb
    split_ifs at hb
    cases hb
    rfl

lemma calm_roleMutation (s : RoleStatement) (sql : List Char) (d : Db P) :
    (roleMutation s sql).Calm d := by
  intro b hb
  rcases s with ⟨otherOptions, ifNotExists, names⟩ | ⟨ifExists, cascade, names⟩
  · simp only [roleMutation, createRoleAccounts] at hb
    split_ifs at hb
    cases hb
    rfl
  · simp only [roleMutation, dropRoleAccounts] at hb
    split_ifs at hb
    cases hb
    rfl

end Checks

/-! ### Accounts -/

/-- The users after a removal are some of those before it. -/
def FewerUsers (c c' : Catalog) : Prop := c'.rsUser.rows ⊆ c.rsUser.rows

instance : SeesNoJournal FewerUsers where
  refl _ := List.Subset.refl _
  trans h h' := List.Subset.trans h' h
  oidAlloc _ _ := List.Subset.refl _
  journal _ _ := List.Subset.refl _
  version _ _ := List.Subset.refl _

lemma keeps_dropUserAccount (sql : List Char) (ifExists : Bool) (affected : ℕ)
    (name : ObjectName) : Keeps FewerUsers (dropUserAccount sql ifExists affected name) := by
  refine keeps_bind (keeps_fromExcept _) fun username => ?_
  refine keeps_ite (keeps_throw _) (keeps_bind keeps_get fun c => ?_)
  rcases userIdByNameOpt c (String.ofList username) with _ | userId
  · cases ifExists with
    | false => exact keeps_throw _
    | true => exact keeps_pure _
  · refine keeps_bind (keeps_insertJournal _ _ _) fun journalId => ?_
    refine keeps_bind (keeps_deleteRows (fun _ _ => List.Subset.refl _) _) fun _ => ?_
    refine keeps_bind (keeps_deleteRows (fun _ _ => List.Subset.refl _) _) fun _ => ?_
    refine keeps_bind ?_ fun _ => keeps_bind (keeps_finishJournal _) fun _ => keeps_pure _
    intro c _ c' h
    obtain rfl := runs_deleteRows.1 h
    exact List.filter_sublist.subset

end Rsduck.Catalog
