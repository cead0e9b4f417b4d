import Rsduck.Catalog.Auth.Access
import Rsduck.Catalog.Bootstrap
import Rsduck.Catalog.Mutation.Noninterference

/-!
The administrator, over runs of statements on users, roles and grants.

The role `admin` cannot be dropped and the user `admin` not under a name in ASCII, but the one can be
revoked of the other.
-/

namespace Rsduck.Catalog

open Lib Lib.Eff

/-- The default user `admin` is active and holds the builtin role `admin`. -/
def HasAdministrator (c : Catalog) : Prop :=
  ∃ u ∈ c.rsUser.rows, u.username = "admin" ∧ u.status = "active" ∧
    ∃ r ∈ c.rsRole.rows, r.roleName = "admin" ∧ r.isBuiltin = true ∧
      ∃ m ∈ c.rsUserRole.rows, m.userId = u.userId ∧ m.roleId = r.roleId

/-- No revocation of a role names both the role `admin` and the user `admin`, and no `DROP USER` names
that user in a spelling that SQL's `lower` makes `admin` and ASCII does not. -/
def SparesAdministrator : AccessEvent → Prop
  | .user _ (.dropUser _ names) _ _ => ∀ username ∈ droppedNames names,
      sameName username "admin" = false
  | .revoke g _ => ∀ roleName username, g.NamesRole roleName → g.NamesUser username →
      ¬ (sameName roleName "admin" = true ∧ sameName username "admin" = true)
  | _ => True

/-- The guard compares in ASCII, the lookup in SQL. -/
example : droppedNames [[⟨"ADMİN".toList, some '"'⟩]] = ["ADMİN"] ∧ sameName "ADMİN" "admin" = true := by
  decide

/-- The administrator by ids, and nobody else of the name in any case. -/
structure Administered (userId roleId : ℤ) (t : AccessTables) : Prop where
  user : ∃ u ∈ t.users.rows, u.userId = userId ∧ u.username = "admin" ∧ u.status = "active"
  role : ∃ r ∈ t.roles.rows, r.roleId = roleId ∧ r.roleName = "admin" ∧ r.isBuiltin = true
  holds : ∃ m ∈ t.userRoles.rows, m.userId = userId ∧ m.roleId = roleId
  userName : ∀ u ∈ t.users.rows, sameName u.username "admin" = true → u.userId = userId
  roleName : ∀ r ∈ t.roles.rows, sameName r.roleName "admin" = true → r.roleId = roleId

section Administered

variable {userId roleId : ℤ} {t t' : AccessTables}

/-- The user with the id of `admin` is `admin`. -/
lemma Administered.username_eq (h : Administered userId roleId t) {v : UserRow}
    (hv : v ∈ t.users.rows) (hid : v.userId = userId) : v.username = "admin" := by
  obtain ⟨u, hu, huid, hname, -⟩ := h.user
  have hclash : Keyed.clash v u = true := by simp [Keyed.clash, hid, huid]
  rw [Table.eq_of_clash hv hu hclash]
  exact hname

lemma Administered.role_eq (h : Administered userId roleId t) {r : RoleRow}
    (hr : r ∈ t.roles.rows) (hid : r.roleId = roleId) :
    r.roleName = "admin" ∧ r.isBuiltin = true := by
  obtain ⟨a, ha, haid, hname, hbuiltin⟩ := h.role
  have hclash : Keyed.clash r a = true := by simp [Keyed.clash, hid, haid]
  rw [Table.eq_of_clash hr ha hclash]
  exact ⟨hname, hbuiltin⟩

lemma Administered.insertUserRole (h : Administered userId roleId t) {m : UserRoleRow}
    {userRoles : Table UserRoleRow} (hm : t.userRoles.insert m = some userRoles) :
    ∃ m ∈ userRoles.rows, m.userId = userId ∧ m.roleId = roleId := by
  obtain ⟨m, hmem, hids⟩ := h.holds
  exact ⟨m, (Table.mem_insert hm).2 (Or.inl hmem), hids⟩

/-- **Every change but one keeps the administrator.** -/
lemma administered_step {taken : Taken} (hspared : (userId, roleId) ∉ taken.pairs)
    (hnames : ∀ username ∈ taken.usernames, sameName username "admin" = false)
    (h : Administered userId roleId t) (hstep : AccessStep taken t t') :
    Administered userId roleId t' := by
  obtain ⟨u, hu, huid, huname, hactive⟩ := h.user
  obtain ⟨r, hr, hrid, hrname, hbuiltin⟩ := h.role
  obtain ⟨m, hm, hmuser, hmrole⟩ := h.holds
  cases hstep with
  | createUser v roleId' grantedBy users userRoles hname hstatus husers hrole huserRoles =>
    refine ⟨⟨u, (Table.mem_insert husers).2 (Or.inl hu), huid, huname, hactive⟩, h.role,
      h.insertUserRole huserRoles, fun w hw hadmin => ?_, h.roleName⟩
    rcases (Table.mem_insert husers).1 hw with hold | rfl
    · exact h.userName w hold hadmin
    · -- the new name is not that of `admin`, who is there
      have hother := hname u hu
      have hsame : sameName u.username w.username = true := by
        rw [huname]
        exact beq_iff_eq.2 (beq_iff_eq.1 hadmin).symm
      rw [hsame] at hother
      cases hother
  | alterUser id hash verifier =>
    refine ⟨?_, h.role, h.holds, fun w hw hadmin => ?_, h.roleName⟩
    · refine ⟨_, List.mem_map_of_mem hu, ?_⟩
      split_ifs
      · exact ⟨huid, huname, hactive⟩
      · exact ⟨huid, huname, hactive⟩
    · obtain ⟨v, hv, rfl⟩ := List.mem_map.1 hw
      split_ifs at hadmin ⊢
      · exact h.userName v hv hadmin
      · exact h.userName v hv hadmin
  | dropUser v username hv hname htaken =>
    have hne : v.userId ≠ userId := fun hid => by
      have hother := hnames username htaken
      rw [h.username_eq hv hid, sameName_iff] at hname
      rw [sameName_iff.2 hname.symm] at hother
      cases hother
    refine ⟨⟨u, Table.mem_delete.2 ⟨hu, by simpa [huid] using hne.symm⟩, huid, huname, hactive⟩,
      h.role, ⟨m, Table.mem_delete.2 ⟨hm, by simpa [hmuser] using hne.symm⟩, hmuser, hmrole⟩,
      fun w hw => h.userName w (Table.mem_delete.1 hw).1, h.roleName⟩
  | createRole r' roles hname hroles =>
    refine ⟨h.user, ⟨r, (Table.mem_insert hroles).2 (Or.inl hr), hrid, hrname, hbuiltin⟩, h.holds,
      h.userName, fun w hw hadmin => ?_⟩
    rcases (Table.mem_insert hroles).1 hw with hold | rfl
    · exact h.roleName w hold hadmin
    · have hother := hname r hr
      have hsame : sameName r.roleName w.roleName = true := by
        rw [hrname]
        exact beq_iff_eq.2 (beq_iff_eq.1 hadmin).symm
      rw [hsame] at hother
      cases hother
  | dropRole r' hr' hnot =>
    have hne : r'.roleId ≠ roleId := fun hid => by
      rw [(h.role_eq hr' hid).2] at hnot
      cases hnot
    refine ⟨h.user,
      ⟨r, Table.mem_delete.2 ⟨hr, by simpa [hrid] using hne.symm⟩, hrid, hrname, hbuiltin⟩,
      ⟨m, Table.mem_delete.2 ⟨hm, by simpa [hmrole] using hne.symm⟩, hmuser, hmrole⟩,
      h.userName, fun w hw => h.roleName w (Table.mem_delete.1 hw).1⟩
  | grantRole id role grantedBy userRoles hrole huserRoles =>
    exact ⟨h.user, h.role, h.insertUserRole huserRoles, h.userName, h.roleName⟩
  | revokeRole id role hrevoked =>
    refine ⟨h.user, h.role, ⟨m, Table.mem_delete.2 ⟨hm, ?_⟩, hmuser, hmrole⟩, h.userName, h.roleName⟩
    by_contra hpair
    rw [Bool.not_eq_false, Bool.and_eq_true, beq_iff_eq, beq_iff_eq] at hpair
    rw [hmuser, hmrole] at hpair
    obtain ⟨rfl, rfl⟩ := hpair
    exact hspared hrevoked
  | grantPrivilege row privileges hrow => exact ⟨h.user, h.role, h.holds, h.userName, h.roleName⟩
  | revokePrivilege triple => exact ⟨h.user, h.role, h.holds, h.userName, h.roleName⟩

lemma hasAdministrator_of_administered {c : Catalog}
    (h : Administered userId roleId (accessTables c)) : HasAdministrator c := by
  obtain ⟨u, hu, huid, huname, hactive⟩ := h.user
  obtain ⟨r, hr, hrid, hrname, hbuiltin⟩ := h.role
  obtain ⟨m, hm, hmuser, hmrole⟩ := h.holds
  exact ⟨u, hu, huname, hactive, r, hr, hrname, hbuiltin, m, hm, hmuser.trans huid.symm,
    hmrole.trans hrid.symm⟩

lemma administered_insertBootstrapRows (hash verifier : String) :
    Administered adminUserId roleAdminId (accessTables (insertBootstrapRows hash verifier)) where
  user := ⟨bootstrapUser hash verifier, List.mem_cons_self, rfl, rfl, rfl⟩
  role := ⟨_, List.mem_cons_self, rfl, rfl, rfl⟩
  holds := ⟨_, List.mem_cons_self, rfl, rfl⟩
  userName u hu _ := by
    obtain rfl := List.mem_singleton.1 hu
    rfl
  roleName := by
    change ∀ r ∈ bootstrapRoles, _
    decide

/-- The pair of the administrator is not taken away. -/
lemma not_mem_taken {c : Catalog} (h : Administered userId roleId (accessTables c))
    {e : AccessEvent} (hspares : SparesAdministrator e) :
    (userId, roleId) ∉ (e.taken c).pairs := by
  intro hmem
  cases e with
  | revoke g sql =>
    change _ ∈ revokedPairs c g at hmem
    unfold revokedPairs at hmem
    split_ifs at hmem with hroles
    · rcases hpairs : namedUserRoles c g with e | pairs
      · rw [hpairs] at hmem
        cases hmem
      · rw [hpairs] at hmem
        obtain ⟨⟨roleName, hrole, hroleId⟩, username, huser, huserId⟩ :=
          mem_namedUserRoles hpairs hmem
        obtain ⟨r, hr, hrid, hrsame⟩ := exists_of_roleIdByName hroleId
        obtain ⟨v, hv, hvid, hvsame⟩ := exists_of_userIdByName huserId
        refine hspares roleName username hrole huser ⟨?_, ?_⟩
        · rw [(h.role_eq hr hrid).1] at hrsame
          exact beq_iff_eq.2 (beq_iff_eq.1 hrsame).symm
        · rw [h.username_eq hv hvid] at hvsame
          exact beq_iff_eq.2 (beq_iff_eq.1 hvsame).symm
    · cases hmem
  | user H s sql owner => cases s <;> cases hmem
  | role s sql => cases hmem
  | grant g sql grantorId => cases hmem

lemma names_of_spares {c : Catalog} {e : AccessEvent} (hspares : SparesAdministrator e) :
    ∀ username ∈ (e.taken c).usernames, sameName username "admin" = false := by
  intro username hmem
  cases e with
  | user H s sql owner =>
    cases s with
    | dropUser ifExists names => exact hspares username hmem
    | createUser orReplace ifNotExists name => cases hmem
    | alterUser otherOptions ifExists name password => cases hmem
  | role s sql => cases hmem
  | grant g sql grantorId => cases hmem
  | revoke g sql => cases hmem

end Administered

section Runs

variable {P : Type}

/-- **There is always an administrator**, after any run from a fresh database in which no statement
revokes the role `admin` of the user `admin`, or drops that user under another name. -/
theorem hasAdministrator_of_run (hash verifier : String) (phys : P) {d : Db P}
    (es : List AccessEvent) (hok : ∀ e ∈ es, SparesAdministrator e)
    (hrun : accessSystem.run ⟨insertBootstrapRows hash verifier, phys⟩ es = some d) :
    HasAdministrator d.cat := by
  have hstep : ∀ (s : Db P) (e : AccessEvent) (t : Db P),
      Administered adminUserId roleAdminId (accessTables s.cat) → SparesAdministrator e →
        accessSystem.step s e = some t →
          Administered adminUserId roleAdminId (accessTables t.cat) := by
    intro s e t hs hspares ht
    cases ht
    exact (steps_accessEvent e s).invariant
      (fun _ _ h => administered_step (not_mem_taken hs hspares) (names_of_spares hspares) h) hs
  exact hasAdministrator_of_administered (System.invariant hstep
    (administered_insertBootstrapRows hash verifier)
    (System.along_of_forall (fun e he _ => hok e he) _) hrun)

end Runs

/-! ### The one revocation -/

/-- `REVOKE ROLE admin FROM admin`. -/
def revokeAdmin : GrantStatement where
  privileges := .actions [.role [⟨"admin".toList, none⟩]]
  objects := none
  grantees := [⟨.none, some (.inl [⟨"admin".toList, none⟩])⟩]

/-- The role is granted to someone else, and one of theirs is revoked. -/
def spareStatements : List AccessEvent :=
  [.user plainHashing (.createUser false false "bob".toList) "CREATE USER bob PASSWORD = 'a'".toList
      10,
    .grant { revokeAdmin with grantees := [⟨.none, some (.inl [⟨"bob".toList, none⟩])⟩] }
      "GRANT ROLE admin TO bob".toList 10,
    .user plainHashing (.dropUser false [[⟨"admin".toList, none⟩]]) "DROP USER admin".toList 10]

theorem hasAdministrator_after_spareStatements : ∃ d : Db Unit,
    accessSystem.run ⟨insertBootstrapRows "h" "v", ()⟩ spareStatements = some d ∧
      HasAdministrator d.cat :=
  have hspares : ∀ e ∈ spareStatements, SparesAdministrator e := by
    intro e he
    simp only [spareStatements, List.mem_cons, List.not_mem_nil, or_false] at he
    rcases he with rfl | rfl | rfl
    · trivial
    · trivial
    · exact fun username hname => absurd hname List.not_mem_nil
  ⟨_, rfl, hasAdministrator_of_run "h" "v" () spareStatements hspares rfl⟩

/-- Nobody is an administrator any more. -/
theorem no_administrator_after_revokeAdmin : ∃ d : Db Unit,
    accessSystem.run ⟨insertBootstrapRows "h" "v", ()⟩
        [.revoke revokeAdmin "REVOKE ROLE admin FROM admin".toList] = some d ∧
      ¬ HasAdministrator d.cat := by
  let d₀ : Db Unit := ⟨insertBootstrapRows "h" "v", ()⟩
  let sql := "REVOKE ROLE admin FROM admin".toList
  have hpairs : namedUserRoles d₀.cat revokeAdmin = .ok [(adminUserId, roleAdminId)] := rfl
  have hb : revokePrivileges revokeAdmin sql d₀ = .ok (some _) :=
    revokePrivileges_eq_some.2 (Or.inl ⟨rfl, _, hpairs, rfl⟩)
  have hdelete : ∀ c : Catalog, Runs
      (countM [(adminUserId, roleAdminId)] fun pair => deleteUserRole pair.1 pair.2) c _
      (Slot.userRole.put (c.rsUserRole.delete fun r =>
        r.userId == adminUserId && r.roleId == roleAdminId) c) := fun c =>
    runs_bind.2 ⟨_, _, runs_bind.2 ⟨_, _, runs_bind.2 ⟨_, _, runs_selectRows.2 ⟨rfl, rfl⟩,
      runs_bind.2 ⟨⟨⟩, _, runs_deleteRows.2 rfl, runs_pure.2 ⟨rfl, rfl⟩⟩⟩,
      runs_pure.2 ⟨rfl, rfl⟩⟩, runs_pure.2 ⟨rfl, rfl⟩⟩
  obtain ⟨journal, hjournal⟩ := Table.exists_insert (t := d₀.cat.rsCatalogJournal) rfl _
  have hrun : Runs (journalled "revoke_role" sql _) d₀.cat _ _ :=
    runs_journalled rfl rfl hjournal (hdelete _) rfl
  have hdone : ∃ t : Db Unit, Runs (Db.onCatalog (journalled "revoke_role" sql _)) d₀ _ t ∧
      t.cat.rsUserRole.rows = [] :=
    ⟨⟨_, ()⟩, Db.runs_onCatalog.2 ⟨hrun, rfl⟩, rfl⟩
  obtain ⟨t, ht, hrows⟩ := hdone
  have halone := alone_of_runs (calm_revokePrivileges revokeAdmin sql d₀) hb ht
  refine ⟨_, rfl, fun h => ?_⟩
  obtain ⟨u, -, -, -, r, -, -, -, m, hm, -⟩ := h
  change m ∈ ((revokePrivileges revokeAdmin sql).alone d₀).2.cat.rsUserRole.rows at hm
  rw [halone, hrows] at hm
  cases hm

end Rsduck.Catalog
