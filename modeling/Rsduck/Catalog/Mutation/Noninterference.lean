import Rsduck.Catalog.Mutation.UserRole

/-!
What the catalog tells of a password beside its verifiers.

Two statements that set a password and differ in nothing else are run from one catalog. The
journal takes down the text of a statement, so the two catalogs tell the passwords apart as soon
as a row is written to it.
-/

namespace Rsduck.Catalog

open Lib Lib.Eff Lib.Text Sql

/-! ### The catalog without its secrets -/

def UserRow.public (u : UserRow) : UserRow := { u with passwordHash := "", mysqlAuthString := "" }

def VersionRow.public (v : VersionRow) : VersionRow := { v with catalogChecksum := "" }

def publicUsers (t : Table UserRow) : Table UserRow :=
  t.update (fun _ => true) UserRow.public fun _ _ => rfl

def publicVersions (t : Table VersionRow) : Table VersionRow :=
  t.update (fun _ => true) VersionRow.public fun _ _ => rfl

/-- Every column but the two verifiers of a password and the checksum. -/
def publicPart (c : Catalog) : Catalog :=
  { c with
    rsUser := publicUsers c.rsUser
    rsCatalogVersion := publicVersions c.rsCatalogVersion }

lemma publicPart_setCatalogChecksum (x : String) (c : Catalog) :
    publicPart (setCatalogChecksum x c) = publicPart c := by
  have h := Table.update_hidden (·.id == 1) (fun v : VersionRow => { v with catalogChecksum := x })
    VersionRow.public (fun _ _ => rfl) (fun _ _ => rfl) (fun _ => rfl) c.rsCatalogVersion
  exact congrArg (fun t => { publicPart c with rsCatalogVersion := t }) h

/-- Finishing a journal row tells nothing apart. -/
lemma publicPart_closeJournal {c c' : Catalog} (h : publicPart c = publicPart c')
    (journalId : ℤ) :
    publicPart (closeJournal journalId c) = publicPart (closeJournal journalId c') := by
  have hversion : ∀ c : Catalog, publicVersions
      (c.rsCatalogVersion.update (·.id == 1)
        (fun v => { v with catalogEpoch := v.catalogEpoch + 1 }) fun _ _ => rfl) =
      (publicPart c).rsCatalogVersion.update (·.id == 1)
        (fun v => { v with catalogEpoch := v.catalogEpoch + 1 }) fun _ _ => rfl := fun c =>
    Table.update_comm (fun v : VersionRow => v.id == 1) (fun _ => true)
      (fun v : VersionRow => { v with catalogEpoch := v.catalogEpoch + 1 }) VersionRow.public
      (fun _ _ => rfl) (fun _ _ => rfl) (fun _ => rfl) (fun _ => rfl) (fun _ => rfl)
      c.rsCatalogVersion
  let close (c : Catalog) : Catalog :=
    { c with
      rsCatalogJournal := c.rsCatalogJournal.update (·.journalId == journalId)
        (fun r => { r with status := .applied }) fun _ _ => rfl
      rsCatalogVersion := c.rsCatalogVersion.update (·.id == 1)
        (fun v => { v with catalogEpoch := v.catalogEpoch + 1 }) fun _ _ => rfl }
  have hclose : ∀ c : Catalog, publicPart (closeJournal journalId c) = close (publicPart c) := by
    intro c
    refine (publicPart_setCatalogChecksum _ _).trans ?_
    exact congrArg (fun t => { close (publicPart c) with rsCatalogVersion := t }) (hversion c)
  rw [hclose, hclose, h]

lemma publicUsers_insert {t t₁ t₂ : Table UserRow} {u₁ u₂ : UserRow} (h₁ : t.insert u₁ = some t₁)
    (h₂ : t.insert u₂ = some t₂) (hu : u₁.public = u₂.public) :
    publicUsers t₁ = publicUsers t₂ := by
  have hinsert : ∀ u, (t.insert u).map publicUsers = (publicUsers t).insert u.public := fun u =>
    Table.insert_update _ _ t u
  have h := hinsert u₁
  rw [hu, ← hinsert u₂, h₁, h₂] at h
  exact Option.some.inj h

lemma publicUsers_usersWithPassword (userId : ℤ) (h m h' m' : String) (c : Catalog) :
    publicUsers (usersWithPassword userId h m c) =
      publicUsers (usersWithPassword userId h' m' c) :=
  Table.update_hides (fun u : UserRow => u.userId == userId) (withPassword h m)
    (withPassword h' m') UserRow.public (fun _ _ => rfl) (fun _ _ => rfl) (fun _ _ => rfl) (fun _ => rfl) c.rsUser

/-! ### Statements that set a password -/

/-- The statements differ in the password at most. That of a `CREATE USER` is in its text. -/
inductive SameButPassword : UserStatement → UserStatement → Prop
  | createUser (orReplace ifNotExists : Bool) (name : List Char) :
    SameButPassword (.createUser orReplace ifNotExists name)
      (.createUser orReplace ifNotExists name)
  | alterUser (otherOptions ifExists : Bool) (name : List Char) (password password' : String) :
    SameButPassword (.alterUser otherOptions ifExists name (some (some password)))
      (.alterUser otherOptions ifExists name (some (some password')))

/-- The journal has room for a row with the oid. -/
def JournalFits (c : Catalog) (oid : ℤ) : Prop :=
  (∃ v, c.rsCatalogVersion.find (·.id == 1) = some v) ∧
    ∀ j ∈ c.rsCatalogJournal.rows, j.journalId ≠ oid

/-- The user's rows fit into the catalog. -/
def UserFits (c : Catalog) (username : String) : Prop :=
  ∃ userId readerRole, nextOid c = some userId ∧ JournalFits c (userId + 1) ∧
    (∀ u ∈ c.rsUser.rows, u.userId ≠ userId ∧ u.username ≠ username) ∧
    roleIdByName c "reader" = .ok readerRole ∧
    ∀ r ∈ c.rsUserRole.rows, ¬ (r.userId = userId ∧ r.roleId = readerRole)

/-- The statement passes its checks, and the catalog has what it needs to be carried out. -/
def UserStatement.SetsPassword (H : PasswordHashing) (sql : List Char) (c : Catalog) :
    UserStatement → Prop
  | .createUser orReplace _ name =>
    orReplace = false ∧ validateUsername (trim name) = .ok () ∧
      (∃ password rest hash, quotedLiterals sql = password :: rest ∧
        H.hashPassword (String.ofList password) = .ok hash) ∧
      userIdByNameOpt c (String.ofList (trim name)) = none ∧
      UserFits c (String.ofList (trim name))
  | .alterUser otherOptions _ name password =>
    otherOptions = false ∧ validateUsername (trim name) = .ok () ∧
      (∃ text hash, password = some (some text) ∧ H.hashPassword text = .ok hash) ∧
      userIdByNameOpt c (String.ofList (trim name)) ≠ none ∧
      ∃ journalId, nextOid c = some journalId ∧ JournalFits c journalId
  | .dropUser _ _ => False

/-! ### What a statement leaves -/

section After

variable {P : Type}

def after (m : Mutation P) (d : Db P) : Catalog := (m.alone d).2.cat

/-- The texts in the journal. -/
def requests (c : Catalog) : List String := c.rsCatalogJournal.rows.map fun r => r.requestJson

lemma requests_closeJournal (journalId : ℤ) (c : Catalog) :
    requests (closeJournal journalId c) = requests c := by
  have hrows : (closeJournal journalId c).rsCatalogJournal.rows = c.rsCatalogJournal.rows.map
      fun r => if r.journalId == journalId then { r with status := .applied } else r := rfl
  unfold requests
  rw [hrows, List.map_map]
  refine List.map_congr_left fun r _ => ?_
  rw [Function.comp_apply]
  split_ifs <;> rfl

lemma requests_of_publicPart {c c' : Catalog} (h : publicPart c = publicPart c') :
    requests c = requests c' := by
  have hpublic := congrArg requests h
  exact hpublic

/-- A journal with one more row has one more text. -/
lemma requests_insert {c : Catalog} {journal : Table JournalRow} {r : JournalRow}
    (h : c.rsCatalogJournal.insert r = some journal) :
    (journal.rows.map fun r => r.requestJson) = requests c ++ [r.requestJson] := by
  rw [(Table.insert_eq_some.1 h).2, List.map_append]
  rfl

lemma insert_pendingRow {c : Catalog} {oid : ℤ} (h : JournalFits c oid) (mutationType : String)
    (targetOid : ℤ) (sql : List Char) : ∃ v journal,
      c.rsCatalogVersion.find (·.id == 1) = some v ∧
      c.rsCatalogJournal.insert (pendingRow oid v.catalogEpoch mutationType targetOid sql) =
        some journal := by
  obtain ⟨⟨v, hv⟩, hfree⟩ := h
  exact ⟨v, _, hv, dif_pos fun j hj => by simpa [Keyed.clash, pendingRow] using hfree j hj⟩

lemma journalFits_of_insert {c : Catalog} {v : VersionRow} {journal : Table JournalRow}
    {oid targetOid : ℤ} {mutationType : String} {sql : List Char}
    (hv : c.rsCatalogVersion.find (·.id == 1) = some v)
    (h : c.rsCatalogJournal.insert (pendingRow oid v.catalogEpoch mutationType targetOid sql) =
      some journal) : JournalFits c oid :=
  ⟨⟨v, hv⟩, fun j hj => by
    have := (Table.insert_eq_some.1 h).1 j hj
    simpa [Keyed.clash, pendingRow] using this⟩

/-! ### `CREATE USER` -/

section Bodies

variable {sql sql' : List Char} {owner : ℤ} {username : String} {c c₁ c₂ : Catalog}

lemma requests_insertUser {ifNotExists : Bool} {hash verifier : String} {n : ℕ}
    (h : Runs (insertUser sql owner ifNotExists username hash verifier) c n c₁) :
    (n = 0 ∧ c₁ = c) ∨ (n = 1 ∧ requests c₁ = requests c ++ [String.ofList sql]) := by
  rcases runs_insertUser.1 h with ⟨-, -, hn, hc⟩ |
    ⟨-, hn, userId, v, journal, users, readerRole, userRoles, -, -, hjournal, -, -, -, rfl⟩
  · exact Or.inl ⟨hn, hc⟩
  · refine Or.inr ⟨hn, ?_⟩
    rw [requests_closeJournal]
    exact requests_insert hjournal

/-- The public part after a `CREATE USER` does not depend on the password's verifiers. -/
lemma publicPart_insertUser {ifNotExists : Bool} {h₁ m₁ h₂ m₂ : String}
    (hrun₁ : Runs (insertUser sql owner ifNotExists username h₁ m₁) c 1 c₁)
    (hrun₂ : Runs (insertUser sql owner ifNotExists username h₂ m₂) c 1 c₂) :
    publicPart c₁ = publicPart c₂ := by
  rcases runs_insertUser.1 hrun₁ with ⟨-, -, h, -⟩ |
    ⟨-, -, userId, v, journal, users, readerRole, userRoles, hnext, hv, hjournal, husers, hreader,
      huserRoles, rfl⟩
  · cases h
  rcases runs_insertUser.1 hrun₂ with ⟨-, -, h, -⟩ |
    ⟨-, -, userId', v', journal', users', readerRole', userRoles', hnext', hv', hjournal', husers',
      hreader', huserRoles', rfl⟩
  · cases h
  cases hnext.symm.trans hnext'
  cases hv.symm.trans hv'
  cases hjournal.symm.trans hjournal'
  cases hreader.symm.trans hreader'
  cases huserRoles.symm.trans huserRoles'
  refine publicPart_closeJournal ?_ _
  have husers := publicUsers_insert husers husers' rfl
  exact congrArg (fun t => ({ publicPart (bumpOid (bumpOid c)) with
    rsCatalogJournal := journal, rsUser := t, rsUserRole := userRoles } : Catalog)) husers

lemma exists_insertUser {ifNotExists : Bool} {hash verifier : String} :
    (∃ c₁, Runs (insertUser sql owner ifNotExists username hash verifier) c 1 c₁) ↔
      userIdByNameOpt c username = none ∧ UserFits c username := by
  constructor
  · rintro ⟨c₁, h⟩
    rcases runs_insertUser.1 h with ⟨-, -, h, -⟩ |
      ⟨hname, -, userId, v, journal, users, readerRole, userRoles, hnext, hv, hjournal, husers,
        hreader, huserRoles, -⟩
    · cases h
    · refine ⟨hname, userId, readerRole, hnext, journalFits_of_insert hv hjournal, ?_, hreader, ?_⟩
      · intro u hu
        have := (Table.insert_eq_some.1 husers).1 u hu
        simpa [Keyed.clash, newUser] using this
      · intro r hr
        have := (Table.insert_eq_some.1 huserRoles).1 r hr
        simpa [Keyed.clash] using this
  · rintro ⟨hname, userId, readerRole, hnext, hfits, husers, hreader, huserRoles⟩
    obtain ⟨v, journal, hv, hjournal⟩ := insert_pendingRow hfits "create_user" userId sql
    refine ⟨_, runs_insertUser.2 (Or.inr ⟨hname, rfl, userId, v, journal, _, readerRole, _, hnext, hv,
      hjournal, dif_pos fun u hu => ?_, hreader, dif_pos fun r hr => ?_, rfl⟩)⟩
    · simpa [Keyed.clash, newUser] using husers u hu
    · simpa [Keyed.clash] using huserRoles r hr

/-! ### `ALTER USER` -/

lemma requests_updateUserPassword {ifExists : Bool} {hash verifier : String} {n : ℕ}
    (h : Runs (updateUserPassword sql ifExists username hash verifier) c n c₁) :
    (n = 0 ∧ c₁ = c) ∨ (n = 1 ∧ requests c₁ = requests c ++ [String.ofList sql]) := by
  rcases runs_updateUserPassword.1 h with ⟨-, -, hn, hc⟩ |
    ⟨hn, userId, journalId, v, journal, -, -, -, hjournal, rfl⟩
  · exact Or.inl ⟨hn, hc⟩
  · refine Or.inr ⟨hn, ?_⟩
    rw [requests_closeJournal]
    exact requests_insert hjournal

lemma publicPart_updateUserPassword {ifExists : Bool} {h₁ m₁ h₂ m₂ : String}
    (hrun₁ : Runs (updateUserPassword sql ifExists username h₁ m₁) c 1 c₁)
    (hrun₂ : Runs (updateUserPassword sql ifExists username h₂ m₂) c 1 c₂) :
    publicPart c₁ = publicPart c₂ := by
  rcases runs_updateUserPassword.1 hrun₁ with ⟨-, -, h, -⟩ |
    ⟨-, userId, journalId, v, journal, huser, hnext, hv, hjournal, rfl⟩
  · cases h
  rcases runs_updateUserPassword.1 hrun₂ with ⟨-, -, h, -⟩ |
    ⟨-, userId', journalId', v', journal', huser', hnext', hv', hjournal', rfl⟩
  · cases h
  cases huser.symm.trans huser'
  cases hnext.symm.trans hnext'
  cases hv.symm.trans hv'
  cases hjournal.symm.trans hjournal'
  refine publicPart_closeJournal ?_ _
  have husers := publicUsers_usersWithPassword userId h₁ m₁ h₂ m₂ c
  exact congrArg (fun t => ({ publicPart (bumpOid c) with
    rsCatalogJournal := journal, rsUser := t } : Catalog)) husers

lemma exists_updateUserPassword {ifExists : Bool} {hash verifier : String} :
    (∃ c₁, Runs (updateUserPassword sql ifExists username hash verifier) c 1 c₁) ↔
      userIdByNameOpt c username ≠ none ∧
        ∃ journalId, nextOid c = some journalId ∧ JournalFits c journalId := by
  constructor
  · rintro ⟨c₁, h⟩
    rcases runs_updateUserPassword.1 h with ⟨-, -, h, -⟩ |
      ⟨-, userId, journalId, v, journal, huser, hnext, hv, hjournal, -⟩
    · cases h
    · exact ⟨by rw [huser]; simp, journalId, hnext, journalFits_of_insert hv hjournal⟩
  · rintro ⟨hne, journalId, hnext, hfits⟩
    obtain ⟨userId, huser⟩ := Option.ne_none_iff_exists'.1 hne
    obtain ⟨v, journal, hv, hjournal⟩ :=
      insert_pendingRow hfits "alter_user_password" userId sql
    exact ⟨_, runs_updateUserPassword.2
      (Or.inr ⟨rfl, userId, journalId, v, journal, huser, hnext, hv, hjournal, rfl⟩)⟩

end Bodies

/-! ### The statements -/

variable {H H' : PasswordHashing} {sql sql' : List Char} {owner : ℤ} {d : Db P}

lemma exists_onCatalog {m : Eff Catalog ℕ} {n : ℕ} :
    (∃ t : Db P, Runs (Db.onCatalog m) d n t) ↔ ∃ c, Runs m d.cat n c := by
  constructor
  · rintro ⟨t, h⟩
    exact ⟨t.cat, (Db.runs_onCatalog.1 h).1⟩
  · rintro ⟨c, h⟩
    exact ⟨⟨c, d.phys⟩, Db.runs_onCatalog.2 ⟨h, rfl⟩⟩

/-- A statement sets a password when its transaction counts a user. -/
lemma setsPassword_iff {s s' : UserStatement} (hs : SameButPassword s s') (owner : ℤ) :
    s.SetsPassword H sql d.cat ↔
      ∃ b t, userMutation H s sql owner d = .ok (some b) ∧ Runs b.run d 1 t := by
  cases hs with
  | createUser orReplace ifNotExists name =>
    constructor
    · rintro ⟨hreplace, hvalid, ⟨password, rest, hash, hquoted, hhash⟩, hname, hfits⟩
      obtain ⟨c₁, hrun⟩ := exists_insertUser.2 ⟨hname, hfits⟩
      obtain ⟨t, ht⟩ := exists_onCatalog.2 ⟨c₁, hrun⟩
      exact ⟨_, t, (createUserAccount_eq_some (d := d)).2
        ⟨hreplace, hvalid, password, rest, hash, hquoted, hhash, rfl⟩, ht⟩
    · rintro ⟨b, t, hb, hrun⟩
      obtain ⟨hreplace, hvalid, password, rest, hash, hquoted, hhash, rfl⟩ :=
        (createUserAccount_eq_some (d := d)).1 hb
      have hfits := exists_insertUser.1 (exists_onCatalog.1 ⟨t, hrun⟩)
      exact ⟨hreplace, hvalid, ⟨password, rest, hash, hquoted, hhash⟩, hfits⟩
  | alterUser otherOptions ifExists name password password' =>
    constructor
    · rintro ⟨hother, hvalid, ⟨text, hash, htext, hhash⟩, hname, hfits⟩
      obtain ⟨c₁, hrun⟩ := exists_updateUserPassword.2 ⟨hname, hfits⟩
      obtain ⟨t, ht⟩ := exists_onCatalog.2 ⟨c₁, hrun⟩
      exact ⟨_, t, (alterUserAccount_eq_some (d := d)).2 ⟨hother, hvalid, text, hash, htext, hhash, rfl⟩, ht⟩
    · rintro ⟨b, t, hb, hrun⟩
      change alterUserAccount H otherOptions ifExists name (some (some password)) sql d = _ at hb
      obtain ⟨hother, hvalid, text, hash, htext, hhash, rfl⟩ := alterUserAccount_eq_some.1 hb
      have hfits := exists_updateUserPassword.1 (exists_onCatalog.1 ⟨t, hrun⟩)
      exact ⟨hother, hvalid, ⟨text, hash, htext, hhash⟩, hfits⟩

/-- The transaction counts nobody and changes nothing, or leaves the text in the journal. -/
lemma requests_run {s s' : UserStatement} (hs : SameButPassword s s')
    {b : Session.Body (Db P) ℕ} {n : ℕ} {t : Db P}
    (hb : userMutation H s sql owner d = .ok (some b)) (hrun : Runs b.run d n t) :
    (n = 0 ∧ t.cat = d.cat) ∨
      (n = 1 ∧ requests t.cat = requests d.cat ++ [String.ofList sql]) := by
  cases hs with
  | createUser orReplace ifNotExists name =>
    obtain ⟨-, -, password, rest, hash, -, -, rfl⟩ := (createUserAccount_eq_some (d := d)).1 hb
    exact requests_insertUser (Db.runs_onCatalog.1 hrun).1
  | alterUser otherOptions ifExists name password password' =>
    change alterUserAccount H otherOptions ifExists name (some (some password)) sql d = _ at hb
    obtain ⟨-, -, text, hash, -, -, rfl⟩ := alterUserAccount_eq_some.1 hb
    exact requests_updateUserPassword (Db.runs_onCatalog.1 hrun).1

/-- A statement that sets a password leaves its text; any other leaves the catalog alone. -/
lemma after_userMutation {s s' : UserStatement} (hs : SameButPassword s s') (H : PasswordHashing)
    (sql : List Char) (owner : ℤ) (d : Db P) :
    (s.SetsPassword H sql d.cat ∧
        requests (after (userMutation H s sql owner) d) = requests d.cat ++ [String.ofList sql]) ∨
      (¬ s.SetsPassword H sql d.cat ∧ after (userMutation H s sql owner) d = d.cat) := by
  rcases alone_cases (calm_userMutation H s sql owner d) with
    ⟨b, n, t, hb, hrun, halone⟩ | ⟨hnone, halone, -⟩
  · have hafter : after (userMutation H s sql owner) d = t.cat := by
      unfold after
      rw [halone]
    rcases requests_run hs hb hrun with ⟨rfl, ht⟩ | ⟨rfl, ht⟩
    · refine Or.inr ⟨fun hsets => ?_, hafter.trans ht⟩
      obtain ⟨b', t', hb', hrun'⟩ := (setsPassword_iff hs owner).1 hsets
      have hone := alone_of_runs (calm_userMutation H s sql owner d) hb' hrun'
      rw [halone] at hone
      cases hone
    · exact Or.inl ⟨(setsPassword_iff hs owner).2 ⟨b, t, hb, hrun⟩, by rw [hafter, ht]⟩
  · refine Or.inr ⟨fun hsets => ?_, congrArg Db.cat halone⟩
    obtain ⟨b, t, hb, hrun⟩ := (setsPassword_iff hs owner).1 hsets
    exact hnone b 1 t hb hrun

lemma after_of_setsPassword {s s' : UserStatement} (hs : SameButPassword s s') (owner : ℤ)
    (hsets : s.SetsPassword H sql d.cat) : ∃ b t, userMutation H s sql owner d = .ok (some b) ∧
      Runs b.run d 1 t ∧ after (userMutation H s sql owner) d = t.cat := by
  obtain ⟨b, t, hb, hrun⟩ := (setsPassword_iff hs owner).1 hsets
  have halone := alone_of_runs (calm_userMutation H s sql owner d) hb hrun
  exact ⟨b, t, hb, hrun, by rw [after, halone]⟩

/-- Two statements with one text that set passwords leave one public part. -/
lemma publicPart_after {s s' : UserStatement} (hs : SameButPassword s s')
    (hs' : SameButPassword s' s) (hsets : s.SetsPassword H sql d.cat)
    (hsets' : s'.SetsPassword H' sql d.cat) :
    publicPart (after (userMutation H s sql owner) d) =
      publicPart (after (userMutation H' s' sql owner) d) := by
  obtain ⟨b₁, t₁, hb₁, hrun₁, h₁⟩ := after_of_setsPassword hs owner hsets
  obtain ⟨b₂, t₂, hb₂, hrun₂, h₂⟩ := after_of_setsPassword hs' owner hsets'
  rw [h₁, h₂]
  cases hs with
  | createUser orReplace ifNotExists name =>
    obtain ⟨-, -, _, _, _, -, -, rfl⟩ := (createUserAccount_eq_some (d := d)).1 hb₁
    obtain ⟨-, -, _, _, _, -, -, rfl⟩ := (createUserAccount_eq_some (d := d)).1 hb₂
    exact publicPart_insertUser (Db.runs_onCatalog.1 hrun₁).1 (Db.runs_onCatalog.1 hrun₂).1
  | alterUser otherOptions ifExists name password password' =>
    change alterUserAccount H otherOptions ifExists name (some (some password)) sql d = _ at hb₁
    change alterUserAccount H' otherOptions ifExists name (some (some password')) sql d = _ at hb₂
    obtain ⟨-, -, _, _, -, -, rfl⟩ := alterUserAccount_eq_some.1 hb₁
    obtain ⟨-, -, _, _, -, -, rfl⟩ := alterUserAccount_eq_some.1 hb₂
    exact publicPart_updateUserPassword (Db.runs_onCatalog.1 hrun₁).1
      (Db.runs_onCatalog.1 hrun₂).1

lemma SameButPassword.symm {s s' : UserStatement} (h : SameButPassword s s') :
    SameButPassword s' s := by
  cases h with
  | createUser orReplace ifNotExists name => exact .createUser _ _ _
  | alterUser otherOptions ifExists name password password' => exact .alterUser _ _ _ _ _

/-- **What two passwords leave behind.** The catalogs are the same but for the verifiers and the
checksum exactly when both statements set a password or neither does, and two that do have one
text, so that the journal does not tell them apart. -/
theorem publicPart_after_iff {s s' : UserStatement} (hs : SameButPassword s s')
    (H H' : PasswordHashing) (sql sql' : List Char) (owner : ℤ) (d : Db P) :
    publicPart (after (userMutation H s sql owner) d) =
        publicPart (after (userMutation H' s' sql' owner) d) ↔
      (s.SetsPassword H sql d.cat ↔ s'.SetsPassword H' sql' d.cat) ∧
        (s.SetsPassword H sql d.cat → sql = sql') := by
  rcases after_userMutation hs H sql owner d with
    ⟨hsets, hleft⟩ | ⟨hsets, hleft⟩
  · rcases after_userMutation hs.symm H' sql' owner d with
      ⟨hsets', hleft'⟩ | ⟨hsets', hleft'⟩
    · constructor
      · intro h
        have htexts := requests_of_publicPart h
        rw [hleft, hleft', List.append_cancel_left_eq, List.singleton_inj] at htexts
        exact ⟨⟨fun _ => hsets', fun _ => hsets⟩, fun _ => String.ofList_injective htexts⟩
      · rintro ⟨-, h⟩
        obtain rfl := h hsets
        exact publicPart_after hs hs.symm hsets hsets'
    · constructor
      · intro h
        have htexts := requests_of_publicPart h
        rw [hleft, hleft'] at htexts
        exact absurd htexts (by simp)
      · rintro ⟨h, -⟩
        exact absurd (h.1 hsets) hsets'
  · rcases after_userMutation hs.symm H' sql' owner d with
      ⟨hsets', hleft'⟩ | ⟨hsets', hleft'⟩
    · constructor
      · intro h
        have htexts := requests_of_publicPart h
        rw [hleft, hleft'] at htexts
        exact absurd htexts (by simp)
      · rintro ⟨h, -⟩
        exact absurd (h.2 hsets') hsets
    · rw [hleft, hleft']
      exact ⟨fun _ => ⟨⟨fun h => absurd h hsets, fun h => absurd h hsets'⟩,
        fun h => absurd h hsets⟩, fun _ => rfl⟩

/-! ### A password in the journal -/

/-- A catalog with the role every user starts with. -/
def readersOnly : Catalog :=
  { rsOidAlloc := ⟨[⟨1, 10000⟩], List.pairwise_singleton _ _⟩
    rsCatalogVersion := ⟨[⟨1, 1, 2, 0, "", "ready"⟩], List.pairwise_singleton _ _⟩
    rsRole := ⟨[⟨5, "reader", "relation reads", true⟩], List.pairwise_singleton _ _⟩ }

/-- Hashes that are the passwords themselves. -/
def plainHashing : PasswordHashing := ⟨.ok, id⟩

lemma setsPassword_bob {H : PasswordHashing} {sql password : List Char} {rest : List (List Char)}
    {hash : String} (hquoted : quotedLiterals sql = password :: rest)
    (hhash : H.hashPassword (String.ofList password) = .ok hash) :
    (UserStatement.createUser false false "bob".toList).SetsPassword H sql readersOnly := by
  refine ⟨rfl, rfl, ⟨password, rest, hash, hquoted, hhash⟩, rfl, 10000, 5, rfl, ⟨⟨_, rfl⟩, ?_⟩, ?_,
    rfl, ?_⟩
  · intro j hj
    cases hj
  · intro u hu
    cases hu
  · intro r hr
    cases hr

/-- Nobody is altered, and nothing tells the passwords. -/
theorem publicPart_after_alter_nobody :
    publicPart (after (userMutation plainHashing
        (.alterUser false true "bob".toList (some (some "a"))) "ALTER USER bob PASSWORD 'a'".toList
        10) ⟨readersOnly, ()⟩) =
      publicPart (after (userMutation plainHashing
        (.alterUser false true "bob".toList (some (some "b"))) "ALTER USER bob PASSWORD 'b'".toList
        10) ⟨readersOnly, ()⟩) :=
  (publicPart_after_iff (.alterUser false true "bob".toList "a" "b") plainHashing plainHashing _ _
    10 ⟨readersOnly, ()⟩).2
    ⟨⟨fun h => absurd rfl h.2.2.2.1, fun h => absurd rfl h.2.2.2.1⟩,
      fun h => absurd rfl h.2.2.2.1⟩

/-- The journal tells `a` and `b` apart. -/
theorem publicPart_after_create_bob :
    ¬ publicPart (after (userMutation plainHashing (.createUser false false "bob".toList)
        "CREATE USER bob PASSWORD = 'a'".toList 10) ⟨readersOnly, ()⟩) =
      publicPart (after (userMutation plainHashing (.createUser false false "bob".toList)
        "CREATE USER bob PASSWORD = 'b'".toList 10) ⟨readersOnly, ()⟩) := by
  intro h
  have htexts := requests_of_publicPart h
  have hbob := SameButPassword.createUser false false "bob".toList
  rcases after_userMutation hbob plainHashing "CREATE USER bob PASSWORD = 'a'".toList 10
    ⟨readersOnly, ()⟩ with ⟨-, ha⟩ | ⟨ha, -⟩
  · rcases after_userMutation hbob plainHashing "CREATE USER bob PASSWORD = 'b'".toList 10
      ⟨readersOnly, ()⟩ with ⟨-, hb⟩ | ⟨hb, -⟩
    · rw [ha, hb, List.append_cancel_left_eq, List.singleton_inj] at htexts
      have hsame := String.ofList_injective htexts
      exact absurd hsame (by decide)
    · exact hb (setsPassword_bob rfl rfl)
  · exact ha (setsPassword_bob rfl rfl)

end After

end Rsduck.Catalog
