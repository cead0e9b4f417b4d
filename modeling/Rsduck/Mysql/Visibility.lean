import Rsduck.Catalog.Auth.Privileges

/-!
Which relations the metadata shows a user, and which the user may read.

The one is a predicate in SQL over the rows of the relation and of its schema, the other starts
from the names of both and looks them up in lower case.
-/

namespace Rsduck.Mysql

open Lib Catalog

def userIdOf (c : Catalog) (username : String) : Option ℤ :=
  (c.rsUser.find (·.username == username)).map (·.userId)

def adminClause (c : Catalog) (username : String) : Bool :=
  c.rsUserRole.exists? fun ur => some ur.userId == userIdOf c username &&
    c.rsRole.exists? fun role => role.roleId == ur.roleId && role.roleName == "admin"

def principalClause (c : Catalog) (username : String) (v : PrivilegeRow) : Bool :=
  v.principalType == .user && some v.principalId == userIdOf c username ||
    v.principalType == .role && c.rsUserRole.exists? fun ur => ur.roleId == v.principalId &&
      c.rsUser.exists? fun u => u.userId == ur.userId && u.username == username

/-- `visible_relation_predicate` on the rows of a relation and its schema. -/
def visibleRelationPredicate (c : Catalog) (username : String) (relOid schemaOid : ℤ) : Bool :=
  adminClause c username || c.rsPrivilege.exists? fun v =>
    v.action == .read &&
      (v.objectType == .relation && v.objectId == relOid ||
        v.objectType == .schema && v.objectId == schemaOid) &&
      principalClause c username v

/-! ### Whose privileges count -/

def GivenRole (c : Catalog) (userId roleId : ℤ) : Prop :=
  ∃ ur ∈ c.rsUserRole.rows, ur.userId = userId ∧ ur.roleId = roleId

def SeesAs (c : Catalog) (userId : ℤ) (principal : PrincipalType × ℤ) : Prop :=
  principal = (.user, userId) ∨ principal.1 = .role ∧ GivenRole c userId principal.2

section Principal

variable {c : Catalog} {username : String} {p : SessionPrincipal}

lemma find_of_principal (hp : principalForUsername c username = .ok p) :
    ∃ u, c.rsUser.find (·.username == username) = some u ∧ u.userId = p.userId ∧
      ∀ roleName, roleName ∈ p.roles ↔ ∃ r ∈ c.rsRole.rows, r.roleName = roleName ∧
        GivenRole c p.userId r.roleId := by
  unfold principalForUsername at hp
  rcases hfind : c.rsUser.find (·.username == username) with _ | u
  · rw [hfind] at hp
    cases hp
  · rw [hfind] at hp
    dsimp only at hp
    split_ifs at hp
    cases hp
    refine ⟨u, by trivial, rfl, fun roleName => ?_⟩
    simp only [List.mem_mergeSort, List.mem_flatMap, List.mem_map, Table.select, List.mem_filter,
      beq_iff_eq]
    constructor
    · rintro ⟨ur, ⟨hur, huser⟩, r, ⟨hr, hid⟩, hname⟩
      exact ⟨r, hr, hname, ur, hur, huser, hid.symm⟩
    · rintro ⟨r, hr, hname, ur, hur, huser, hid⟩
      exact ⟨ur, ⟨hur, huser⟩, r, ⟨hr, hid.symm⟩, hname⟩

lemma actsAs_iff (hp : principalForUsername c username = .ok p) {principal : PrincipalType × ℤ} :
    p.ActsAs c principal ↔ SeesAs c p.userId principal ∧
      (principal.1 = .role → ∃ r ∈ c.rsRole.rows, r.roleId = principal.2) := by
  obtain ⟨-, -, -, hroles⟩ := find_of_principal hp
  unfold SessionPrincipal.ActsAs SeesAs
  constructor
  · rintro (rfl | ⟨hkind, r, hr, hname, hid⟩)
    · exact ⟨Or.inl rfl, fun h => by cases h⟩
    · obtain ⟨r', hr', hname', hgiven⟩ := (hroles _).1 hname
      have hclash : Keyed.clash r' r = true := by simp [Keyed.clash, hname']
      obtain rfl := Table.eq_of_clash hr' hr hclash
      exact ⟨Or.inr ⟨hkind, hid ▸ hgiven⟩, fun _ => ⟨r', hr, hid⟩⟩
  · rintro ⟨rfl | ⟨hkind, hgiven⟩, hexists⟩
    · exact Or.inl rfl
    · obtain ⟨r, hr, hid⟩ := hexists hkind
      exact Or.inr ⟨hkind, r, hr, (hroles _).2 ⟨r, hr, rfl, hid ▸ hgiven⟩, hid⟩

lemma isAdmin_iff (hp : principalForUsername c username = .ok p) :
    p.isAdmin = true ↔
      ∃ r ∈ c.rsRole.rows, r.roleName = "admin" ∧ GivenRole c p.userId r.roleId := by
  obtain ⟨-, -, -, hroles⟩ := find_of_principal hp
  rw [← hroles]
  simp [SessionPrincipal.isAdmin]

def ReadsAs (c : Catalog) (relOid schemaOid : ℤ) (acts : PrincipalType × ℤ → Prop) : Prop :=
  ∃ principal, acts principal ∧
    ((⟨principal, (.relation, relOid), .read⟩ : Triple) ∈ privileges c ∨
      (⟨principal, (.schema, schemaOid), .read⟩ : Triple) ∈ privileges c)

lemma adminClause_iff (hp : principalForUsername c username = .ok p) :
    adminClause c username = true ↔ p.isAdmin = true := by
  obtain ⟨u, hfind, huser, -⟩ := find_of_principal hp
  rw [isAdmin_iff hp]
  simp only [adminClause, userIdOf, hfind, Option.map_some, Table.exists?, List.any_eq_true,
    Bool.and_eq_true, beq_iff_eq, Option.some.injEq]
  constructor
  · rintro ⟨ur, hur, huser', role, hrole, hid, hadmin⟩
    exact ⟨role, hrole, hadmin, ur, hur, huser'.trans huser, hid.symm⟩
  · rintro ⟨role, hrole, hadmin, ur, hur, huser', hid⟩
    exact ⟨ur, hur, huser'.trans huser.symm, role, hrole, hid.symm, hadmin⟩

lemma principalClause_iff (hp : principalForUsername c username = .ok p) {v : PrivilegeRow} :
    principalClause c username v = true ↔ SeesAs c p.userId (v.principalType, v.principalId) := by
  obtain ⟨u, hfind, huser, -⟩ := find_of_principal hp
  have hname := List.find?_some hfind
  have hu : u ∈ c.rsUser.rows := List.mem_of_find?_eq_some hfind
  simp only [principalClause, userIdOf, hfind, Option.map_some, SeesAs, GivenRole, Table.exists?,
    List.any_eq_true, Bool.or_eq_true, Bool.and_eq_true, beq_iff_eq, Option.some.injEq,
    Prod.mk.injEq, ← huser]
  refine or_congr_right (and_congr_right fun _ => ?_)
  constructor
  · rintro ⟨ur, hur, hid, u', hu', huser', hname'⟩
    have hclash : Keyed.clash u' u = true := by simp [Keyed.clash, hname', beq_iff_eq.1 hname]
    obtain rfl := Table.eq_of_clash hu' hu hclash
    exact ⟨ur, hur, huser'.symm, hid⟩
  · rintro ⟨ur, hur, huser', hid⟩
    exact ⟨ur, hur, hid, u, hu, huser'.symm, beq_iff_eq.1 hname⟩

lemma visible_iff (hp : principalForUsername c username = .ok p) {relOid schemaOid : ℤ} :
    visibleRelationPredicate c username relOid schemaOid = true ↔
      p.isAdmin = true ∨ ReadsAs c relOid schemaOid (SeesAs c p.userId) := by
  unfold visibleRelationPredicate ReadsAs
  rw [Bool.or_eq_true, adminClause_iff hp, Table.exists?, List.any_eq_true]
  refine or_congr_right ?_
  simp only [Bool.and_eq_true, principalClause_iff hp, Bool.or_eq_true, beq_iff_eq]
  constructor
  · rintro ⟨v, hv, ⟨haction, ⟨hkind, hid⟩ | ⟨hkind, hid⟩⟩, hsees⟩
    · exact ⟨_, hsees, Or.inl ⟨v, hv, by rw [PrivilegeRow.triple, hkind, hid, haction]⟩⟩
    · exact ⟨_, hsees, Or.inr ⟨v, hv, by rw [PrivilegeRow.triple, hkind, hid, haction]⟩⟩
  · rintro ⟨principal, hsees, ⟨v, hv, htriple⟩ | ⟨v, hv, htriple⟩⟩
    · simp only [PrivilegeRow.triple, Triple.mk.injEq, Prod.mk.injEq] at htriple
      obtain ⟨rfl, htarget, haction⟩ := htriple
      exact ⟨v, hv, ⟨haction, Or.inl htarget⟩, hsees⟩
    · simp only [PrivilegeRow.triple, Triple.mk.injEq, Prod.mk.injEq] at htriple
      obtain ⟨rfl, htarget, haction⟩ := htriple
      exact ⟨v, hv, ⟨haction, Or.inr htarget⟩, hsees⟩

lemma mayAct_read_iff {relOid schemaOid : ℤ} :
    mayAct c p relOid schemaOid .read = true ↔
      p.isAdmin = true ∨ ReadsAs c relOid schemaOid fun principal => p.ActsAs c principal := by
  unfold mayAct ReadsAs
  simp only [beq_self_eq_true, Bool.true_and, Bool.or_eq_true, hasExplicitPrivilege_iff,
    or_assoc, ← exists_or, and_or_left]

end Principal

/-! ### The two on one relation -/

def withPrivileges (c : Catalog) (rows : Table PrivilegeRow) : Catalog :=
  { c with rsPrivilege := rows }

/-- The names of the relation and of its schema lead to them: no row of a name that differs in case
only comes before. -/
def LeadsTo (c : Catalog) (n : SchemaRow) (r : RelationRow) : Prop :=
  (relationRows c n.nspname r.relname).head? = some r ∧
    (c.rsSchema.find fun m => sameName m.nspname n.nspname) = some n

def RolesExist (c : Catalog) (userId : ℤ) : Prop :=
  ∀ roleId, GivenRole c userId roleId → ∃ r ∈ c.rsRole.rows, r.roleId = roleId

section Agree

variable {c : Catalog} {username : String} {p : SessionPrincipal} {r : RelationRow} {n : SchemaRow}

lemma visible_iff_of_leadsTo (hp : principalForUsername c username = .ok p)
    (hactive : r.status = .active) (hleads : LeadsTo c n r) (hroles : RolesExist c p.userId) :
    visibleRelationPredicate c username r.oid n.oid = true ↔
      requireRelationAction c p n.nspname r.relname .read = .ok () := by
  have hacts : SeesAs c p.userId = fun principal => p.ActsAs c principal := by
    funext principal
    rw [eq_iff_iff, actsAs_iff hp]
    refine (and_iff_left_of_imp fun hsees hkind => ?_).symm
    rcases hsees with rfl | ⟨-, hgiven⟩
    · cases hkind
    · exact hroles _ hgiven
  rw [visible_iff hp, requireRelationAction_eq_ok, hacts, ← mayAct_read_iff]
  constructor
  · intro hmay
    exact ⟨r.oid, n.oid, availableRelationOid_eq_ok.2 ⟨r, hleads.1, hactive, rfl⟩,
      namespaceOid_eq_ok.2 ⟨n, hleads.2, rfl⟩, hmay⟩
  · rintro ⟨relOid, nsOid, hrel, hns, hmay⟩
    obtain ⟨r', hhead, -, rfl⟩ := availableRelationOid_eq_ok.1 hrel
    obtain ⟨n', hfind, rfl⟩ := namespaceOid_eq_ok.1 hns
    rw [hleads.1] at hhead
    rw [hleads.2] at hfind
    cases hhead
    cases hfind
    exact hmay

lemma readsAs_single {v : PrivilegeRow} {relOid schemaOid : ℤ} {acts : PrincipalType × ℤ → Prop}
    (h : ReadsAs (withPrivileges c ⟨[v], List.pairwise_singleton _ _⟩) relOid schemaOid acts) :
    acts (v.principalType, v.principalId) ∧ ((v.objectType, v.objectId) = (.relation, relOid) ∨
      (v.objectType, v.objectId) = (.schema, schemaOid)) := by
  obtain ⟨principal, hacts, ⟨w, hw, htriple⟩ | ⟨w, hw, htriple⟩⟩ := h
  · obtain rfl := List.mem_singleton.1 hw
    simp only [PrivilegeRow.triple, Triple.mk.injEq] at htriple
    obtain ⟨rfl, htarget, -⟩ := htriple
    exact ⟨hacts, Or.inl htarget⟩
  · obtain rfl := List.mem_singleton.1 hw
    simp only [PrivilegeRow.triple, Triple.mk.injEq] at htriple
    obtain ⟨rfl, htarget, -⟩ := htriple
    exact ⟨hacts, Or.inr htarget⟩

/-- Shown through one privilege, and read through no other way, the names have led to what the
privilege is about. -/
lemma read_single (hp : principalForUsername c username = .ok p) (hadmin : p.isAdmin = false)
    {v : PrivilegeRow} (haction : v.action = .read)
    (hsees : SeesAs c p.userId (v.principalType, v.principalId))
    (htarget : (v.objectType, v.objectId) = (.relation, r.oid) ∨
      (v.objectType, v.objectId) = (.schema, n.oid))
    (hagree : visibleRelationPredicate (withPrivileges c ⟨[v], List.pairwise_singleton _ _⟩)
        username r.oid n.oid = true ↔
      requireRelationAction (withPrivileges c ⟨[v], List.pairwise_singleton _ _⟩) p n.nspname
        r.relname .read = .ok ()) :
    ∃ r' n', (relationRows c n.nspname r.relname).head? = some r' ∧
      (c.rsSchema.find fun m => sameName m.nspname n.nspname) = some n' ∧
      p.ActsAs c (v.principalType, v.principalId) ∧
      ((v.objectType, v.objectId) = (.relation, r'.oid) ∨
        (v.objectType, v.objectId) = (.schema, n'.oid)) := by
  have hvisible : visibleRelationPredicate
      (withPrivileges c ⟨[v], List.pairwise_singleton _ _⟩) username r.oid n.oid = true := by
    have hp' : principalForUsername (withPrivileges c ⟨[v], List.pairwise_singleton _ _⟩) username =
        .ok p := hp
    refine (visible_iff hp').2 (Or.inr ⟨_, hsees, ?_⟩)
    rcases htarget with htarget | htarget
    · exact Or.inl ⟨v, List.mem_cons_self, by rw [← htarget, ← haction]; rfl⟩
    · exact Or.inr ⟨v, List.mem_cons_self, by rw [← htarget, ← haction]; rfl⟩
  obtain ⟨relOid, nsOid, hrel, hns, hmay⟩ := requireRelationAction_eq_ok.1 (hagree.1 hvisible)
  obtain ⟨r', hhead, -, rfl⟩ := availableRelationOid_eq_ok.1 hrel
  obtain ⟨n', hfind, rfl⟩ := namespaceOid_eq_ok.1 hns
  rcases mayAct_read_iff.1 hmay with h | h
  · rw [hadmin] at h
    cases h
  · obtain ⟨hacts, htarget'⟩ := readsAs_single h
    exact ⟨r', n', hhead, hfind, hacts, htarget'⟩

/-- Of an ordinary user, whatever the privileges, the metadata shows what may be read exactly when
the names lead to the relation and the user's roles exist. -/
lemma agree_iff_leadsTo (hp : principalForUsername c username = .ok p)
    (hadmin : p.isAdmin = false) (hr : r ∈ c.rsRelation.rows) (hn : n ∈ c.rsSchema.rows)
    (hactive : r.status = .active) :
    (∀ rows, visibleRelationPredicate (withPrivileges c rows) username r.oid n.oid = true ↔
        requireRelationAction (withPrivileges c rows) p n.nspname r.relname .read = .ok ()) ↔
      LeadsTo c n r ∧ RolesExist c p.userId := by
  constructor
  · intro hagree
    refine ⟨⟨?_, ?_⟩, fun roleId hgiven => ?_⟩
    · obtain ⟨r', n', hhead, -, -, htarget⟩ := read_single hp hadmin
        (v := ⟨0, .user, p.userId, .relation, r.oid, .read, 0⟩) rfl (Or.inl rfl) (Or.inl rfl)
        (hagree _)
      rcases htarget with htarget | htarget
      · have hr' : r' ∈ c.rsRelation.rows :=
          List.mem_of_mem_filter (List.mem_of_mem_head? hhead)
        have hid : r.oid = r'.oid := (Prod.mk.inj htarget).2
        have hclash : Keyed.clash r r' = true := by simp [Keyed.clash, hid]
        obtain rfl := Table.eq_of_clash hr hr' hclash
        exact hhead
      · cases (Prod.mk.inj htarget).1
    · obtain ⟨r', n', -, hfind, -, htarget⟩ := read_single hp hadmin
        (v := ⟨0, .user, p.userId, .schema, n.oid, .read, 0⟩) rfl (Or.inl rfl) (Or.inr rfl)
        (hagree _)
      rcases htarget with htarget | htarget
      · cases (Prod.mk.inj htarget).1
      · have hid : n.oid = n'.oid := (Prod.mk.inj htarget).2
        have hclash : Keyed.clash n n' = true := by simp [Keyed.clash, hid]
        obtain rfl := Table.eq_of_clash hn (List.mem_of_find?_eq_some hfind) hclash
        exact hfind
    · obtain ⟨-, -, -, -, hacts, -⟩ := read_single hp hadmin
        (v := ⟨0, .role, roleId, .relation, r.oid, .read, 0⟩) rfl (Or.inr ⟨rfl, hgiven⟩)
        (Or.inl rfl) (hagree _)
      exact ((actsAs_iff hp).1 hacts).2 rfl
  · rintro ⟨hleads, hroles⟩ rows
    exact visible_iff_of_leadsTo (c := withPrivileges c rows) hp hactive hleads hroles

/-- To an administrator the metadata shows everything; what may be read is what has no unavailable
relation of its name before it. -/
lemma agree_iff_available (hp : principalForUsername c username = .ok p)
    (hadmin : p.isAdmin = true) (hn : n ∈ c.rsSchema.rows) :
    (∀ rows, visibleRelationPredicate (withPrivileges c rows) username r.oid n.oid = true ↔
        requireRelationAction (withPrivileges c rows) p n.nspname r.relname .read = .ok ()) ↔
      ∃ r', (relationRows c n.nspname r.relname).head? = some r' ∧ r'.status = .active := by
  have hvisible : ∀ rows,
      visibleRelationPredicate (withPrivileges c rows) username r.oid n.oid = true :=
    fun rows => (visible_iff (c := withPrivileges c rows) hp).2 (Or.inl hadmin)
  constructor
  · intro hagree
    obtain ⟨relOid, nsOid, hrel, -⟩ :=
      requireRelationAction_eq_ok.1 ((hagree Table.empty).1 (hvisible _))
    obtain ⟨r', hhead, hactive, -⟩ := availableRelationOid_eq_ok.1 hrel
    exact ⟨r', hhead, hactive⟩
  · rintro ⟨r', hhead, hactive⟩ rows
    refine ⟨fun _ => requireRelationAction_eq_ok.2 ?_, fun _ => hvisible rows⟩
    have hsame : sameName n.nspname n.nspname = true := beq_self_eq_true _
    obtain ⟨n', hfind⟩ := Option.isSome_iff_exists.1
      (List.find?_isSome.2 ⟨n, hn, hsame⟩ :
        (c.rsSchema.find fun m => sameName m.nspname n.nspname).isSome)
    exact ⟨r'.oid, n'.oid, availableRelationOid_eq_ok.2 ⟨r', hhead, hactive, rfl⟩,
      namespaceOid_eq_ok.2 ⟨n', hfind, rfl⟩, mayAct_read_iff.2 (Or.inl hadmin)⟩

/-- **Metadata and read access.** Of an active relation, whatever the privileges are, the metadata
shows a user what the user may read exactly when its names lead to it and the user's roles exist,
or, to an administrator, when they lead to an active relation. -/
theorem visible_iff_read_iff (hp : principalForUsername c username = .ok p)
    (hr : r ∈ c.rsRelation.rows) (hn : n ∈ c.rsSchema.rows) (hactive : r.status = .active) :
    (∀ rows, visibleRelationPredicate (withPrivileges c rows) username r.oid n.oid = true ↔
        requireRelationAction (withPrivileges c rows) p n.nspname r.relname .read = .ok ()) ↔
      if p.isAdmin then
        ∃ r', (relationRows c n.nspname r.relname).head? = some r' ∧ r'.status = .active
      else LeadsTo c n r ∧ RolesExist c p.userId := by
  cases hadmin : p.isAdmin with
  | true => simpa using agree_iff_available hp hadmin hn
  | false => simpa using agree_iff_leadsTo hp hadmin hr hn hactive

end Agree

/-! ### Roles that exist -/

section RolesExist

def RolesThere (t : AccessTables) : Prop :=
  ∀ ur ∈ t.userRoles.rows, ∃ r ∈ t.roles.rows, r.roleId = ur.roleId

lemma rolesThere_insert {t : AccessTables} {m : UserRoleRow} {userRoles : Table UserRoleRow}
    (h : RolesThere t) (hrole : ∃ r ∈ t.roles.rows, r.roleId = m.roleId)
    (hinsert : t.userRoles.insert m = some userRoles) :
    ∀ ur ∈ userRoles.rows, ∃ r ∈ t.roles.rows, r.roleId = ur.roleId := by
  intro ur hur
  rcases (Table.mem_insert hinsert).1 hur with hold | rfl
  · exact h ur hold
  · exact hrole

lemma rolesThere_step {taken : Taken} {t t' : AccessTables} (h : RolesThere t)
    (hstep : AccessStep taken t t') : RolesThere t' := by
  cases hstep with
  | createUser u roleId grantedBy users userRoles hname hactive husers hrole huserRoles =>
    exact rolesThere_insert (t := t) h hrole huserRoles
  | alterUser userId passwordHash mysqlAuthString => exact h
  | dropUser v username hv hname htaken => exact fun ur hur => h ur (Table.mem_delete.1 hur).1
  | createRole r roles hname hroles =>
    intro ur hur
    obtain ⟨r', hr', hid⟩ := h ur hur
    exact ⟨r', (Table.mem_insert hroles).2 (Or.inl hr'), hid⟩
  | dropRole r hr hbuiltin =>
    intro ur hur
    obtain ⟨hold, hother⟩ := Table.mem_delete.1 hur
    obtain ⟨r', hr', hid⟩ := h ur hold
    exact ⟨r', Table.mem_delete.2 ⟨hr', by rw [hid]; exact hother⟩, hid⟩
  | grantRole userId roleId grantedBy userRoles hrole huserRoles =>
    exact rolesThere_insert (t := t) h hrole huserRoles
  | revokeRole userId roleId hrevoked => exact fun ur hur => h ur (Table.mem_delete.1 hur).1
  | grantPrivilege row privileges hrow => exact h
  | revokePrivilege triple => exact h

/-- No run of statements on users, roles and grants gives anybody a role that does not exist. -/
theorem rolesExist_of_run {P : Type} (hash verifier : String) (phys : P) {d : Db P}
    (es : List AccessEvent)
    (hrun : accessSystem.run ⟨insertBootstrapRows hash verifier, phys⟩ es = some d) (userId : ℤ) :
    RolesExist d.cat userId := by
  have hstep : ∀ (s : Db P) (e : AccessEvent) (t : Db P), RolesThere (accessTables s.cat) → True →
      accessSystem.step s e = some t → RolesThere (accessTables t.cat) := by
    intro s e t hs _ ht
    cases ht
    exact (steps_accessEvent e s).invariant (fun _ _ h => rolesThere_step h) hs
  have hstart : RolesThere (accessTables (insertBootstrapRows hash verifier)) := by
    intro ur hur
    obtain rfl := List.mem_singleton.1 hur
    exact ⟨_, List.mem_cons_self, rfl⟩
  have hthere := System.invariant hstep hstart
    (System.along_of_forall (fun _ _ _ => trivial) _) hrun
  rintro roleId ⟨ur, hur, -, rfl⟩
  exact hthere ur hur

end RolesExist

/-! ### A view in the place of one that is unavailable -/

/-- The view `V`, which was found unavailable, and `v`, created after that. -/
def twoViews : Catalog where
  rsSchema := .single ⟨15, "main", 10, ""⟩
  rsRelation := ⟨[⟨100, "V", 15, 0, 10, .view, "p", 1, 0, false, false, "", "", .unavailable,
      "catalog column count mismatch"⟩,
    ⟨104, "v", 15, 0, 10, .view, "p", 2, 0, false, false, "", "", .active, ""⟩], by decide⟩
  rsUser := .single ⟨11, "bob", "", "", "", "", "active", false, none⟩
  rsPrivilege := .single ⟨105, .user, 11, .relation, 104, .read, 10⟩

lemma principalForUsername_twoViews :
    principalForUsername twoViews "bob" = .ok ⟨11, "bob", []⟩ := by
  change Except.ok (⟨11, "bob", [].mergeSort _⟩ : SessionPrincipal) = _
  rw [List.mergeSort_nil]

theorem bob_sees_unreadable_view :
    principalForUsername twoViews "bob" = .ok ⟨11, "bob", []⟩ ∧
      (∃ v ∈ twoViews.rsRelation.rows, v.oid = 104 ∧ v.relname = "v" ∧ v.status = .active) ∧
      visibleRelationPredicate twoViews "bob" 104 15 = true ∧
      requireRelationAction twoViews ⟨11, "bob", []⟩ "main" "v" .read =
        .error "relation is unavailable: main.v: catalog column count mismatch" :=
  ⟨principalForUsername_twoViews, ⟨_, List.mem_cons_of_mem _ List.mem_cons_self, rfl, rfl, rfl⟩,
    by rfl, by rfl⟩

/-- Of the one relation in `bobAnalyst`, `bob` is shown what he may read. -/
theorem bob_sees_what_he_reads :
    principalForUsername bobAnalyst "bob" = .ok ⟨11, "bob", ["analyst"]⟩ ∧
      ∀ rows, visibleRelationPredicate (withPrivileges bobAnalyst rows) "bob" 100 15 = true ↔
        requireRelationAction (withPrivileges bobAnalyst rows) ⟨11, "bob", ["analyst"]⟩ "main" "t"
          .read = .ok () := by
  have hroles : RolesExist bobAnalyst 11 := by
    rintro roleId ⟨ur, hur, -, rfl⟩
    obtain rfl := List.mem_singleton.1 hur
    exact ⟨_, List.mem_cons_self, rfl⟩
  refine ⟨principalForUsername_bob, ?_⟩
  exact (visible_iff_read_iff (r := ⟨100, "t", 15, 0, 10, .table, "p", 1, 0, false, false, "", "",
    .active, ""⟩) (n := ⟨15, "main", 10, ""⟩) principalForUsername_bob List.mem_cons_self
    List.mem_cons_self rfl).2 ⟨⟨by rfl, by rfl⟩, hroles⟩

end Rsduck.Mysql
