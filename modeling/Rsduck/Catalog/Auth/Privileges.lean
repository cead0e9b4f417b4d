import Mathlib.Data.Set.BooleanAlgebra
import Mathlib.Order.CompletePartialOrder
import Rsduck.Catalog.Auth.Access
import Rsduck.Catalog.Bootstrap
import Mathlib.Data.Set.Insert

/-!
The privileges of a catalog, as a set of triples of a principal, a target and an action.

A `GRANT` adds the triples it names to the set and a `REVOKE` takes them away. What a principal
may do is a matter of this set and of the roles the principal has.
-/

namespace Rsduck.Catalog

open Lib Lib.Eff Lib.Text Sql

/-- The triple a row is about. -/
def PrivilegeRow.triple (v : PrivilegeRow) : Triple :=
  ⟨(v.principalType, v.principalId), (v.objectType, v.objectId), v.action⟩

/-- The triples that have a row. -/
def privileges (c : Catalog) : Set Triple := {t | ∃ v ∈ c.rsPrivilege.rows, v.triple = t}

/-! ### What a statement names -/

/-- The documented mapping of the privileges on relations and schemas. -/
def documentedAction : PrivilegeObject → GrantAction → Option PrivilegeAction
  | .relation, .select _ | .relation, .read | .relation, .usage => some .read
  | .relation, .insert _ | .relation, .update _ | .relation, .delete => some .write
  | .relation, .create | .relation, .drop | .relation, .ownership => some .ddl
  | .schema, .select _ | .schema, .read | .schema, .usage => some .read
  | .schema, .create | .schema, .drop | .schema, .ownership => some .ddl
  | _, _ => none

/-- The privileges on the system: its users, and reading. -/
def systemAction : GrantAction → Option PrivilegeAction
  | .create | .ownership => some .manageUser
  | .select _ | .read | .usage => some .read
  | _ => none

/-- The privileges stand for the action on objects of the kind. -/
def Privileges.Means (objectType : PrivilegeObject) (action : PrivilegeAction) :
    Privileges → Prop
  | .all => action ∈ allActions objectType
  | .actions items => ∃ item ∈ items,
      documentedAction objectType item = some action ∨
        objectType = .system ∧ systemAction item = some action

/-- The grantee is the user or the role, by name in any case. -/
def Grantee.Is (c : Catalog) (principal : PrincipalType × ℤ) (g : Grantee) : Prop :=
  ∃ name, granteeName g = .ok name ∧
    (g.granteeType = .role ∧ principal.1 = .role ∧ roleIdByName c name = .ok principal.2 ∨
      (g.granteeType = .none ∨ g.granteeType = .user) ∧ principal.1 = .user ∧
        userIdByName c name = .ok principal.2)

/-- The target is one of the objects, by name in any case. -/
def IsTarget (c : Catalog) (target : PrivilegeObject × ℤ) : Option GrantObjects → Prop
  | none | some (.databases _) => target = (.system, 0)
  | some (.tables names) | some (.views names) =>
    target.1 = .relation ∧ ∃ name ∈ names, ∃ schema relation,
      relationName name = .ok (schema, relation) ∧
        relationOid c (String.ofList schema) (String.ofList relation) = .ok target.2
  | some (.schemas names) =>
    target.1 = .schema ∧ ∃ name ∈ names, ∃ schema,
      singleNamePart name = .ok schema ∧ namespaceOid c (String.ofList schema) = .ok target.2
  | some (.other _) => False

/-- The triples a statement names: each grantee, each object, each action. -/
def GrantStatement.named (c : Catalog) (g : GrantStatement) : Set Triple :=
  {t | (∃ grantee ∈ g.grantees, grantee.Is c t.principal) ∧ IsTarget c t.target g.objects ∧
    g.privileges.Means t.target.1 t.action}

section Named

variable {c : Catalog} {g : GrantStatement}

lemma privilegeAction_eq_some {objectType : PrivilegeObject} {item : GrantAction}
    {action : PrivilegeAction} :
    privilegeAction objectType item = some action ↔
      documentedAction objectType item = some action ∨
        objectType = .system ∧ systemAction item = some action := by
  cases objectType <;> cases item <;> simp [privilegeAction, documentedAction, systemAction]

lemma mem_foldlM_addAction {objectType : PrivilegeObject} {items : List GrantAction}
    {actions actions' : List PrivilegeAction} {action : PrivilegeAction}
    (h : items.foldlM (addAction objectType) actions = .ok actions') :
    action ∈ actions' ↔ action ∈ actions ∨
      ∃ item ∈ items, privilegeAction objectType item = some action := by
  induction items generalizing actions with
  | nil =>
    cases h
    simp
  | cons item items ih =>
    rw [List.foldlM_cons] at h
    unfold addAction at h
    rcases hitem : privilegeAction objectType item with _ | a
    · rw [hitem] at h
      cases h
    · rw [hitem] at h
      have hmem : ∀ b, b ∈ (if a ∈ actions then actions else actions ++ [a]) ↔
          b ∈ actions ∨ a = b := by
        intro b
        split_ifs with ha
        · exact ⟨Or.inl, fun hb => hb.elim id fun hab => hab ▸ ha⟩
        · simp [eq_comm]
      rw [ih h, hmem]
      simp [hitem, or_assoc]

lemma mem_privilegeActions {targets : List (PrivilegeObject × ℤ)} {actions : List PrivilegeAction}
    {action : PrivilegeAction} (h : privilegeActions g.privileges targets = .ok actions) :
    action ∈ actions ↔ g.privileges.Means (firstObjectType targets) action := by
  unfold privilegeActions at h
  rcases hprivileges : g.privileges with _ | items
  · simp only [hprivileges, bind, Except.bind] at h
    split_ifs at h
    cases h
    rfl
  · simp only [hprivileges, bind, Except.bind] at h
    split at h
    · cases h
    · rename_i actions' hfold
      split_ifs at h
      cases h
      rw [mem_foldlM_addAction hfold]
      simp [Privileges.Means, privilegeAction_eq_some]

/-- What a loop collects is what its turns give. -/
lemma mem_mapM {α β : Type} {f : α → Except String β} {xs : List α} {ys : List β} {y : β}
    (h : xs.mapM f = .ok ys) : y ∈ ys ↔ ∃ x ∈ xs, f x = .ok y := by
  induction xs generalizing ys with
  | nil =>
    cases h
    simp
  | cons x xs ih =>
    rw [List.mapM_cons] at h
    rcases hx : f x with e | b
    · rw [hx] at h
      cases h
    · rw [hx] at h
      rcases hxs : xs.mapM f with e | bs
      · simp [hxs, bind, Except.bind] at h
      · simp only [hxs, bind, Except.bind, pure, Except.pure, Except.ok.injEq] at h
        subst h
        simp [ih hxs, hx, eq_comm]

lemma exists_of_mapM_eq_ok {α β : Type} {f : α → Except String β} {xs : List α} {ys : List β}
    (h : xs.mapM f = .ok ys) {x : α} (hx : x ∈ xs) : ∃ y, f x = .ok y := by
  induction xs generalizing ys with
  | nil => cases hx
  | cons a xs ih =>
    rw [List.mapM_cons] at h
    rcases ha : f a with e | b
    · rw [ha] at h
      cases h
    · rcases hxs : xs.mapM f with e | bs
      · simp [ha, hxs, bind, Except.bind] at h
      · rcases List.mem_cons.1 hx with rfl | hmem
        · exact ⟨b, ha⟩
        · exact ih hxs hmem

lemma mem_grantPrincipals {principals : List (PrincipalType × ℤ)} {principal : PrincipalType × ℤ}
    (h : grantPrincipals c g.grantees = .ok principals) :
    principal ∈ principals ↔ ∃ grantee ∈ g.grantees, grantee.Is c principal := by
  unfold grantPrincipals at h
  split_ifs at h
  rw [mem_mapM h]
  refine exists_congr fun grantee => and_congr_right fun hgrantee => ?_
  obtain ⟨kind, id⟩ := principal
  unfold Grantee.Is
  rcases hname : granteeName grantee with e | name
  · simp [bind, Except.bind]
  · cases htype : grantee.granteeType with
    | role =>
      rcases hid : roleIdByName c name with e | roleId <;>
        simp [hid, bind, Except.bind, pure, Except.pure, eq_comm]
    | none =>
      rcases hid : userIdByName c name with e | userId <;>
        simp [hid, bind, Except.bind, pure, Except.pure, eq_comm]
    | user =>
      rcases hid : userIdByName c name with e | userId <;>
        simp [hid, bind, Except.bind, pure, Except.pure, eq_comm]
    | other text => simp [bind, Except.bind]

/-- The targets of relations and schemas, with the check that the schema is not reserved. -/
lemma mem_mapM_checked {α β : Type} (read : α → Except String β) {check : β → Except String Unit}
    {oid : β → Except String ℤ} {kind : PrivilegeObject} {xs : List α}
    {targets : List (PrivilegeObject × ℤ)} (target : PrivilegeObject × ℤ)
    (h : (xs.mapM fun x => do
      let y ← read x
      check y
      return (kind, ← oid y)) = .ok targets) :
    target ∈ targets ↔
      target.1 = kind ∧ ∃ x ∈ xs, ∃ y, read x = .ok y ∧ oid y = .ok target.2 := by
  rw [mem_mapM h, ← exists_and_left]
  refine exists_congr fun x => ?_
  rw [← and_left_comm]
  refine and_congr_right fun hx => ?_
  -- the check has passed on every turn
  obtain ⟨_, hturn⟩ := exists_of_mapM_eq_ok h hx
  obtain ⟨kind', id⟩ := target
  rcases hread : read x with e | y
  · simp [bind, Except.bind]
  · rcases hcheck : check y with e | ⟨⟩
    · simp [hread, hcheck, bind, Except.bind] at hturn
    · rcases hoid : oid y with e | id' <;>
        simp [hcheck, hoid, bind, Except.bind, pure, Except.pure, eq_comm]

/-- The targets are the objects. -/
lemma mem_grantTargets {targets : List (PrivilegeObject × ℤ)} {target : PrivilegeObject × ℤ}
    (h : grantTargets c g.objects = .ok targets) :
    target ∈ targets ↔ IsTarget c target g.objects := by
  rcases hobjects : g.objects with _ | objects
  · rw [hobjects] at h
    cases h
    exact List.mem_singleton
  · rw [hobjects] at h
    rcases objects with names | names | names | names | text
    · simpa [IsTarget] using mem_mapM_checked relationName target h
    · simpa [IsTarget] using mem_mapM_checked relationName target h
    · simpa [IsTarget] using mem_mapM_checked singleNamePart target h
    · cases h
      exact List.mem_singleton
    · cases h

/-- All objects of a statement are of one kind. -/
lemma IsTarget.kind {objects : Option GrantObjects} {target target' : PrivilegeObject × ℤ}
    (h : IsTarget c target objects) (h' : IsTarget c target' objects) : target.1 = target'.1 := by
  rcases objects with _ | names | names | names | names | text
  · exact h.trans h'.symm ▸ rfl
  · exact h.1.trans h'.1.symm
  · exact h.1.trans h'.1.symm
  · exact h.1.trans h'.1.symm
  · exact h.trans h'.symm ▸ rfl
  · exact h.elim

lemma mem_grantTriples {principals : List (PrincipalType × ℤ)}
    {targets : List (PrivilegeObject × ℤ)} {actions : List PrivilegeAction} {t : Triple} :
    t ∈ grantTriples principals targets actions ↔
      t.principal ∈ principals ∧ t.target ∈ targets ∧ t.action ∈ actions := by
  simp only [grantTriples, List.mem_flatMap, List.mem_map]
  constructor
  · rintro ⟨principal, hprincipal, target, htarget, action, haction, rfl⟩
    exact ⟨hprincipal, htarget, haction⟩
  · rintro ⟨hprincipal, htarget, haction⟩
    exact ⟨_, hprincipal, _, htarget, _, haction, rfl⟩

/-- **The loops run over the triples that the statement names.** -/
lemma mem_namedTriples {triples : List Triple} {t : Triple} (h : namedTriples c g = .ok triples) :
    t ∈ triples ↔ t ∈ g.named c := by
  unfold namedTriples at h
  rcases htargets : grantTargets c g.objects with e | targets
  · simp [htargets, bind, Except.bind] at h
  rcases hactions : privilegeActions g.privileges targets with e | actions
  · simp [htargets, hactions, bind, Except.bind] at h
  rcases hprincipals : grantPrincipals c g.grantees with e | principals
  · simp [htargets, hactions, hprincipals, bind, Except.bind] at h
  simp only [htargets, hactions, hprincipals, bind, Except.bind, pure, Except.pure,
    Except.ok.injEq] at h
  have hkind : ∀ target ∈ targets, firstObjectType targets = target.1 := by
    intro target htarget
    cases targets with
    | nil => cases htarget
    | cons first rest =>
      have hfirst := (mem_grantTargets htargets).1 (List.mem_cons_self (a := first))
      exact hfirst.kind ((mem_grantTargets htargets).1 htarget)
  rw [← h, mem_grantTriples, mem_grantPrincipals hprincipals]
  refine and_congr_right fun _ => ?_
  rw [← mem_grantTargets htargets]
  refine and_congr_right fun htarget => ?_
  rw [mem_privilegeActions hactions, hkind _ htarget]

end Named

/-! ### What the loops do to the set -/

section Loops

variable {c c' : Catalog} {n : ℕ} {t : Triple} {grantorId : ℤ}

lemma isOf_iff {v : PrivilegeRow} : t.isOf v = true ↔ v.triple = t := by
  obtain ⟨⟨principalType, principalId⟩, ⟨objectType, objectId⟩, action⟩ := t
  simp [Triple.isOf, PrivilegeRow.triple, and_assoc]

lemma mem_privileges : t ∈ privileges c ↔ ∃ v ∈ c.rsPrivilege.rows, t.isOf v = true :=
  exists_congr fun _ => and_congr_right fun _ => isOf_iff.symm

/-- The tables that are neither the privileges' nor the journal's. -/
def otherTables (c : Catalog) : Catalog :=
  { c with
    rsPrivilege := .empty, rsOidAlloc := .empty, rsCatalogJournal := .empty
    rsCatalogVersion := .empty }

instance : SeesNoJournal (Same otherTables) where
  oidAlloc _ _ := rfl
  journal _ _ := rfl
  version _ _ := rfl

instance : SeesNoJournal (Same fun c : Catalog => c.rsPrivilege) where
  oidAlloc _ _ := rfl
  journal _ _ := rfl
  version _ _ := rfl

lemma privileges_congr {c c' : Catalog} (h : c'.rsPrivilege = c.rsPrivilege) :
    privileges c' = privileges c := by
  unfold privileges
  rw [h]

/-- One turn of a `GRANT`. -/
lemma privileges_upsertPrivilege (h : Runs (upsertPrivilege t grantorId) c n c') :
    privileges c' = insert t (privileges c) ∧ otherTables c' = otherTables c ∧
      (t ∈ privileges c → c'.rsPrivilege = c.rsPrivilege) := by
  obtain ⟨found, c₀, hexists, h₀⟩ := runs_bind.1 h
  obtain ⟨hfound, rfl⟩ := runs_existsRow.1 hexists
  have hmem : t ∈ privileges c₀ ↔ found = true := by
    rw [mem_privileges, hfound]
    exact List.any_eq_true.symm
  cases found with
  | true =>
    obtain ⟨-, rfl⟩ := runs_pure.1 h₀
    exact ⟨(Set.insert_eq_of_mem (hmem.2 rfl)).symm, rfl, fun _ => rfl⟩
  | false =>
    obtain ⟨privilegeId, c₁, halloc, h₁⟩ := runs_bind.1 h₀
    obtain ⟨_, c₂, hinsert, h₂⟩ := runs_bind.1 h₁
    obtain ⟨rows, hrows, rfl⟩ := runs_insertRow.1 hinsert
    obtain ⟨-, rfl⟩ := runs_pure.1 h₂
    have hsame : c₁.rsPrivilege = c₀.rsPrivilege :=
      keeps_allocateOid (R := Same fun c : Catalog => c.rsPrivilege) _ _ _ halloc
    have hothers : otherTables c₁ = otherTables c₀ := keeps_allocateOid (R := Same otherTables) _ _ _ halloc
    refine ⟨?_, hothers, fun hheld => absurd (hmem.1 hheld) (by simp)⟩
    ext u
    have hrows' : privileges (Slot.privilege.put rows c₁) = {u | ∃ v ∈ rows.rows, v.triple = u} := rfl
    rw [hrows', Set.mem_ofPred_eq, (Table.insert_eq_some.1 hrows).2, Set.mem_insert_iff]
    change (∃ v ∈ c₁.rsPrivilege.rows ++ _, v.triple = u) ↔ _
    rw [hsame]
    constructor
    · rintro ⟨v, hv, rfl⟩
      rcases List.mem_append.1 hv with hold | hnew
      · exact Or.inr ⟨v, hold, rfl⟩
      · exact Or.inl (by rw [List.mem_singleton.1 hnew]; rfl)
    · rintro (rfl | ⟨v, hv, rfl⟩)
      · exact ⟨_, List.mem_append_right _ List.mem_cons_self, rfl⟩
      · exact ⟨v, List.mem_append_left _ hv, rfl⟩

/-- One turn of a `REVOKE`. -/
lemma privileges_deletePrivilege (h : Runs (deletePrivilege t) c n c') :
    privileges c' = privileges c \ {t} ∧ otherTables c' = otherTables c ∧
      (t ∉ privileges c → c'.rsPrivilege = c.rsPrivilege) := by
  obtain ⟨rows, c₀, hselect, h₀⟩ := runs_bind.1 h
  obtain ⟨-, rfl⟩ := runs_selectRows.1 hselect
  obtain ⟨_, c₁, hdelete, h₁⟩ := runs_bind.1 h₀
  obtain rfl := runs_deleteRows.1 hdelete
  obtain ⟨-, rfl⟩ := runs_pure.1 h₁
  refine ⟨?_, rfl, fun habsent => ?_⟩
  · ext u
    change (∃ v ∈ (c₀.rsPrivilege.delete t.isOf).rows, v.triple = u) ↔ _
    constructor
    · rintro ⟨v, hv, rfl⟩
      obtain ⟨hmem, hother⟩ := Table.mem_delete.1 hv
      refine ⟨⟨v, hmem, rfl⟩, fun heq => ?_⟩
      rw [isOf_iff.2 (Set.mem_singleton_iff.1 heq)] at hother
      cases hother
    · rintro ⟨⟨v, hv, rfl⟩, hother⟩
      refine ⟨v, Table.mem_delete.2 ⟨hv, ?_⟩, rfl⟩
      rw [Bool.eq_false_iff]
      exact fun his => hother (isOf_iff.1 his)
  · apply Table.ext
    refine List.filter_eq_self.2 fun v hv => ?_
    have hother : t.isOf v ≠ true := fun his => habsent ⟨v, hv, isOf_iff.1 his⟩
    simpa using hother

/-- The turns of a loop, each of which makes a change to the set that the next one goes on from. -/
lemma privileges_countM {f : Triple → Eff Catalog ℕ} {g : Triple → Set Triple → Set Triple}
    (hf : ∀ t c n c', Runs (f t) c n c' → privileges c' = g t (privileges c) ∧ otherTables c' = otherTables c)
    {ts : List Triple} (h : Runs (countM ts f) c n c') :
    privileges c' = ts.foldl (fun s t => g t s) (privileges c) ∧ otherTables c' = otherTables c := by
  unfold countM at h
  generalize (0 : ℕ) = k at h
  induction ts generalizing c k with
  | nil =>
    obtain ⟨-, rfl⟩ := runs_pure.1 h
    exact ⟨rfl, rfl⟩
  | cons t ts ih =>
    rw [List.foldlM_cons] at h
    obtain ⟨k', c₁, hturn, h₁⟩ := runs_bind.1 h
    obtain ⟨m, c₂, hrun, h₂⟩ := runs_bind.1 hturn
    obtain ⟨-, rfl⟩ := runs_pure.1 h₂
    obtain ⟨hset, hothers⟩ := hf t c m c₁ hrun
    obtain ⟨hrest, hothers'⟩ := ih _ h₁
    exact ⟨by rw [hrest, hset, List.foldl_cons], hothers'.trans hothers⟩

/-- A loop whose turns leave the rows alone as long as they find the set they are used to. -/
lemma rsPrivilege_countM {f : Triple → Eff Catalog ℕ} {p : Triple → Set Triple → Prop}
    (hf : ∀ t c n c', Runs (f t) c n c' → p t (privileges c) → c'.rsPrivilege = c.rsPrivilege)
    {ts : List Triple} (hp : ∀ t ∈ ts, p t (privileges c)) (h : Runs (countM ts f) c n c') :
    c'.rsPrivilege = c.rsPrivilege := by
  refine keeps_foldlM_of (R := Same fun c : Catalog => c.rsPrivilege)
    (I := fun c₁ => c₁.rsPrivilege = c.rsPrivilege) ?_ rfl h
  intro t ht k c₁ k' c₂ hc₁ hturn
  obtain ⟨m, c₃, hrun, hpure⟩ := runs_bind.1 hturn
  obtain ⟨-, rfl⟩ := runs_pure.1 hpure
  have hleft := hf t c₁ m c₂ hrun (by rw [privileges_congr hc₁]; exact hp t ht)
  exact ⟨hleft, hleft.trans hc₁⟩

lemma foldl_insert (ts : List Triple) (s : Set Triple) :
    ts.foldl (fun s t => insert t s) s = s ∪ {t | t ∈ ts} := by
  induction ts generalizing s with
  | nil => simp
  | cons t ts ih =>
    rw [List.foldl_cons, ih]
    ext u
    simp [or_assoc, or_left_comm]

lemma foldl_diff (ts : List Triple) (s : Set Triple) :
    ts.foldl (fun s t => s \ {t}) s = s \ {t | t ∈ ts} := by
  induction ts generalizing s with
  | nil =>
    ext u
    simp
  | cons t ts ih =>
    rw [List.foldl_cons, ih]
    ext u
    simp [and_assoc]

end Loops

/-! ### The statements -/

section Statements

variable {P : Type} {g : GrantStatement} {sql : List Char} {grantorId : ℤ} {d d' : Db P} {n : ℕ}
  {triples : List Triple}

lemma of_otherTables {c c' : Catalog} (h : otherTables c' = otherTables c) :
    c'.rsSchema = c.rsSchema ∧ c'.rsRelation = c.rsRelation ∧ c'.rsUser = c.rsUser ∧
      c'.rsRole = c.rsRole := by
  have hschema := congrArg Catalog.rsSchema h
  have hrelation := congrArg Catalog.rsRelation h
  have huser := congrArg Catalog.rsUser h
  have hrole := congrArg Catalog.rsRole h
  exact ⟨hschema, hrelation, huser, hrole⟩

lemma named_congr {c c' : Catalog} (h : otherTables c' = otherTables c) :
    g.named c' = g.named c := by
  obtain ⟨hschema, hrelation, huser, hrole⟩ := of_otherTables h
  have hnamespaceOid : namespaceOid c' = namespaceOid c := by
    unfold namespaceOid
    rw [hschema]
  have hrelationOid : relationOid c' = relationOid c := by
    unfold relationOid findRelationMeta relationRows
    rw [hschema, hrelation]
  have huserId : userIdByName c' = userIdByName c := by
    unfold userIdByName userIdByNameOpt
    rw [huser]
  have hroleId : roleIdByName c' = roleIdByName c := by
    unfold roleIdByName roleIdByNameOpt
    rw [hrole]
  have htarget : IsTarget c' = IsTarget c := by
    unfold IsTarget
    rw [hnamespaceOid, hrelationOid]
  have hprincipal : Grantee.Is c' = Grantee.Is c := by
    unfold Grantee.Is
    rw [huserId, hroleId]
  unfold GrantStatement.named
  rw [htarget, hprincipal]

/-- What is done between a journal row and its end is all that a privilege sees. -/
lemma journalled_body {mutationType : String} {body : Eff Catalog ℕ} {c c' : Catalog}
    (h : Runs (journalled mutationType sql body) c n c') :
    ∃ c₁ c₂, Runs body c₁ n c₂ ∧ c₁.rsPrivilege = c.rsPrivilege ∧ otherTables c₁ = otherTables c ∧
      c'.rsPrivilege = c₂.rsPrivilege ∧ otherTables c' = otherTables c₂ := by
  obtain ⟨journalId, c₁, hjournal, h₁⟩ := runs_bind.1 h
  obtain ⟨affected, c₂, hrun, h₂⟩ := runs_bind.1 h₁
  obtain ⟨_, c₃, hfinish, h₃⟩ := runs_bind.1 h₂
  obtain ⟨rfl, rfl⟩ := runs_pure.1 h₃
  exact ⟨c₁, c₂, hrun,
    keeps_insertJournal (R := Same fun c : Catalog => c.rsPrivilege) _ _ _ _ _ _ hjournal,
    keeps_insertJournal (R := Same otherTables) _ _ _ _ _ _ hjournal,
    keeps_finishJournal (R := Same fun c : Catalog => c.rsPrivilege) _ _ _ _ hfinish,
    keeps_finishJournal (R := Same otherTables) _ _ _ _ hfinish⟩

lemma grantPrivileges_ne_none : grantPrivileges g sql grantorId d ≠ .ok none := by
  unfold grantPrivileges
  cases hroles : g.onRoles with
  | true => rcases h : namedUserRoles d.cat g with e | pairs <;>
      simp [bind, Except.bind, pure, Except.pure]
  | false => rcases h : namedTriples d.cat g with e | triples <;>
      simp [bind, Except.bind, pure, Except.pure]

lemma revokePrivileges_ne_none : revokePrivileges g sql d ≠ .ok none := by
  unfold revokePrivileges
  cases hroles : g.onRoles with
  | true => rcases h : namedUserRoles d.cat g with e | pairs <;>
      simp [bind, Except.bind, pure, Except.pure]
  | false => rcases h : namedTriples d.cat g with e | triples <;>
      simp [bind, Except.bind, pure, Except.pure]

/-- **A `GRANT` that succeeds adds what it names**, and one that names only what is there leaves
the rows alone. -/
lemma privileges_grant (hroles : g.onRoles = false)
    (h : (grantPrivileges g sql grantorId).alone d = (.ok n, d')) :
    privileges d'.cat = privileges d.cat ∪ g.named d.cat ∧ otherTables d'.cat = otherTables d.cat ∧
      (g.named d.cat ⊆ privileges d.cat → d'.cat.rsPrivilege = d.cat.rsPrivilege) := by
  obtain ⟨b, hb, hrun⟩ :=
    runs_of_alone (calm_grantPrivileges g sql grantorId d) grantPrivileges_ne_none h
  rcases grantPrivileges_eq_some.1 hb with ⟨honRoles, -⟩ | ⟨-, triples, htriples, rfl⟩
  · rw [hroles] at honRoles
    cases honRoles
  obtain ⟨c₁, c₂, hloop, hrows₁, hothers₁, hrows₂, hothers₂⟩ :=
    journalled_body (Db.runs_onCatalog.1 hrun).1
  have hnamed : {t | t ∈ triples} = g.named d.cat := Set.ext fun t => mem_namedTriples htriples
  obtain ⟨hset, hothers⟩ := privileges_countM (g := fun t s => insert t s)
    (fun _ _ _ _ hturn => ⟨(privileges_upsertPrivilege hturn).1,
      (privileges_upsertPrivilege hturn).2.1⟩) hloop
  refine ⟨?_, hothers₂.trans (hothers.trans hothers₁), fun hheld => ?_⟩
  · rw [privileges_congr hrows₂, hset, foldl_insert, hnamed, privileges_congr hrows₁]
  · have hleft := rsPrivilege_countM (p := fun t s => t ∈ s)
      (fun _ _ _ _ hturn => (privileges_upsertPrivilege hturn).2.2) (fun t ht => ?_) hloop
    · rw [hrows₂, hleft, hrows₁]
    · rw [privileges_congr hrows₁]
      exact hheld ((mem_namedTriples htriples).1 ht)

/-- **A `REVOKE` that succeeds takes away what it names**, and one that names nothing that is there
leaves the rows alone. -/
lemma privileges_revoke (hroles : g.onRoles = false)
    (h : (revokePrivileges g sql).alone d = (.ok n, d')) :
    privileges d'.cat = privileges d.cat \ g.named d.cat ∧ otherTables d'.cat = otherTables d.cat ∧
      (Disjoint (g.named d.cat) (privileges d.cat) →
        d'.cat.rsPrivilege = d.cat.rsPrivilege) := by
  obtain ⟨b, hb, hrun⟩ :=
    runs_of_alone (calm_revokePrivileges g sql d) revokePrivileges_ne_none h
  rcases revokePrivileges_eq_some.1 hb with ⟨honRoles, -⟩ | ⟨-, triples, htriples, rfl⟩
  · rw [hroles] at honRoles
    cases honRoles
  obtain ⟨c₁, c₂, hloop, hrows₁, hothers₁, hrows₂, hothers₂⟩ :=
    journalled_body (Db.runs_onCatalog.1 hrun).1
  have hnamed : {t | t ∈ triples} = g.named d.cat := Set.ext fun t => mem_namedTriples htriples
  obtain ⟨hset, hothers⟩ := privileges_countM (g := fun t s => s \ {t})
    (fun _ _ _ _ hturn => ⟨(privileges_deletePrivilege hturn).1,
      (privileges_deletePrivilege hturn).2.1⟩) hloop
  refine ⟨?_, hothers₂.trans (hothers.trans hothers₁), fun hdisjoint => ?_⟩
  · rw [privileges_congr hrows₂, hset, foldl_diff, hnamed, privileges_congr hrows₁]
  · have hleft := rsPrivilege_countM (p := fun t s => t ∉ s)
      (fun _ _ _ _ hturn => (privileges_deletePrivilege hturn).2.2) (fun t ht => ?_) hloop
    · rw [hrows₂, hleft, hrows₁]
    · rw [privileges_congr hrows₁]
      exact Set.disjoint_left.1 hdisjoint ((mem_namedTriples htriples).1 ht)

end Statements

/-! ### What a principal may do -/

/-- A principal of the privileges that the session principal is, or whose role it has. -/
def SessionPrincipal.ActsAs (c : Catalog) (principal : PrincipalType × ℤ) (p : SessionPrincipal) :
    Prop :=
  principal = (.user, p.userId) ∨
    principal.1 = .role ∧ ∃ r ∈ c.rsRole.rows, r.roleName ∈ p.roles ∧ r.roleId = principal.2

lemma actsAs_congr {c c' : Catalog} {p : SessionPrincipal} {principal : PrincipalType × ℤ}
    (h : otherTables c' = otherTables c) : p.ActsAs c' principal ↔ p.ActsAs c principal := by
  unfold SessionPrincipal.ActsAs
  rw [(of_otherTables h).2.2.2]

lemma hasExplicitPrivilege_iff {c : Catalog} {p : SessionPrincipal} {objectType : PrivilegeObject}
    {objectId : ℤ} {action : PrivilegeAction} :
    hasExplicitPrivilege c p objectType objectId action = true ↔
      ∃ principal, p.ActsAs c principal ∧
        (⟨principal, (objectType, objectId), action⟩ : Triple) ∈ privileges c := by
  unfold hasExplicitPrivilege Table.exists?
  rw [List.any_eq_true]
  constructor
  · rintro ⟨v, hv, hfits⟩
    simp only [Bool.and_eq_true, beq_iff_eq] at hfits
    obtain ⟨⟨⟨rfl, rfl⟩, rfl⟩, hprincipal⟩ := hfits
    refine ⟨(v.principalType, v.principalId), ?_, v, hv, rfl⟩
    unfold SessionPrincipal.ActsAs
    cases hkind : v.principalType with
    | user =>
      rw [hkind] at hprincipal
      exact Or.inl (by rw [beq_iff_eq.1 hprincipal])
    | role =>
      rw [hkind] at hprincipal
      obtain ⟨r, hr, hrole⟩ := List.any_eq_true.1 hprincipal
      rw [Bool.and_eq_true, List.contains_iff_mem, beq_iff_eq] at hrole
      exact Or.inr ⟨rfl, r, hr, hrole⟩
  · rintro ⟨principal, hacts, v, hv, htriple⟩
    obtain ⟨rfl, ⟨rfl, rfl⟩, rfl⟩ : (v.principalType, v.principalId) = principal ∧
        (v.objectType = objectType ∧ v.objectId = objectId) ∧ v.action = action := by
      simpa [PrivilegeRow.triple] using htriple
    refine ⟨v, hv, ?_⟩
    rw [beq_self_eq_true, beq_self_eq_true, beq_self_eq_true, Bool.true_and, Bool.true_and,
      Bool.true_and]
    rcases hacts with heq | ⟨hkind, r, hr, hname, hid⟩
    · obtain ⟨hkind, hid⟩ := Prod.mk.inj heq
      rw [hkind]
      exact beq_iff_eq.2 hid
    · rw [show v.principalType = .role from hkind]
      refine List.any_eq_true.2 ⟨r, hr, ?_⟩
      rw [Bool.and_eq_true, List.contains_iff_mem, beq_iff_eq]
      exact ⟨hname, hid⟩

variable {P : Type}

/-- **`GRANT` and `REVOKE` of privileges.** One that succeeds adds the triples it names to those
that have a row, or takes them away, and touches nothing else; done again, it leaves the rows as
they are. A principal may do what a row of its own or of one of its roles says. -/
theorem grant_revoke_exactly (g : GrantStatement) (sql : List Char) (grantorId : ℤ) (d : Db P)
    (hroles : g.onRoles = false) :
    (∀ n d', (grantPrivileges g sql grantorId).alone d = (.ok n, d') →
      privileges d'.cat = privileges d.cat ∪ g.named d.cat ∧
      (∀ p objectType objectId action,
        hasExplicitPrivilege d'.cat p objectType objectId action = true ↔
          hasExplicitPrivilege d.cat p objectType objectId action = true ∨
            ∃ principal, p.ActsAs d.cat principal ∧
              ⟨principal, (objectType, objectId), action⟩ ∈ g.named d.cat) ∧
      otherTables d'.cat = otherTables d.cat ∧
      ((grantPrivileges g sql grantorId).alone d').2.cat.rsPrivilege = d'.cat.rsPrivilege) ∧
    ∀ n d', (revokePrivileges g sql).alone d = (.ok n, d') →
      privileges d'.cat = privileges d.cat \ g.named d.cat ∧
      (∀ p objectType objectId action,
        hasExplicitPrivilege d'.cat p objectType objectId action = true ↔
          ∃ principal, p.ActsAs d.cat principal ∧
            ⟨principal, (objectType, objectId), action⟩ ∈ privileges d.cat \ g.named d.cat) ∧
      otherTables d'.cat = otherTables d.cat ∧
      ((revokePrivileges g sql).alone d').2.cat.rsPrivilege = d'.cat.rsPrivilege := by
  constructor
  · intro n d' h
    obtain ⟨hset, hothers, -⟩ := privileges_grant hroles h
    refine ⟨hset, fun p objectType objectId action => ?_, hothers, ?_⟩
    · rw [hasExplicitPrivilege_iff, hasExplicitPrivilege_iff, hset, ← exists_or]
      refine exists_congr fun principal => ?_
      rw [actsAs_congr hothers, ← and_or_left, Set.mem_union]
    · rcases hagain : (grantPrivileges g sql grantorId).alone d' with ⟨e | k, d''⟩
      · rw [alone_of_failed (calm_grantPrivileges g sql grantorId d') hagain]
      · refine (privileges_grant hroles hagain).2.2 ?_
        rw [named_congr hothers, hset]
        exact Set.subset_union_right
  · intro n d' h
    obtain ⟨hset, hothers, -⟩ := privileges_revoke hroles h
    refine ⟨hset, fun p objectType objectId action => ?_, hothers, ?_⟩
    · rw [hasExplicitPrivilege_iff, hset]
      exact exists_congr fun principal => by rw [actsAs_congr hothers]
    · rcases hagain : (revokePrivileges g sql).alone d' with ⟨e | k, d''⟩
      · rw [alone_of_failed (calm_revokePrivileges g sql d') hagain]
      · refine (privileges_revoke hroles hagain).2.2 ?_
        rw [named_congr hothers, hset]
        exact Set.disjoint_left.2 fun t ht h' => h'.2 ht

/-! ### A role in between -/

/-- The relation `main.t`, and `bob`, who has the role `analyst`. -/
def bobAnalyst : Catalog where
  rsOidAlloc := .single ⟨1, 10000⟩
  rsCatalogVersion := .single ⟨1, 1, 2, 0, "", "ready"⟩
  rsSchema := .single ⟨mainNs, "main", adminUserId, ""⟩
  rsRelation := .single ⟨100, "t", mainNs, 0, adminUserId, .table, "p", 1, 0, false, false, "", "",
    .active, ""⟩
  rsUser := .single ⟨11, "bob", "", "", "", "", "active", false, none⟩
  rsRole := .single ⟨30, "analyst", "", false⟩
  rsUserRole := .single ⟨11, 30, adminUserId⟩

/-- `GRANT SELECT ON TABLE t TO ROLE analyst`. -/
def grantToAnalyst : GrantStatement where
  privileges := .actions [.select []]
  objects := some (.tables [[⟨['t'], none⟩]])
  grantees := [⟨.role, some (.inl [⟨"analyst".toList, none⟩])⟩]

/-- The triple it names. -/
def analystReads : Triple := ⟨(.role, 30), (.relation, 100), .read⟩

lemma principalForUsername_bob :
    principalForUsername bobAnalyst "bob" = .ok ⟨11, "bob", ["analyst"]⟩ := by
  change Except.ok (⟨11, "bob", ["analyst"].mergeSort _⟩ : SessionPrincipal) = _
  rw [List.mergeSort_singleton]

lemma alone_grantToAnalyst : ∃ d : Db Unit,
    (grantPrivileges grantToAnalyst "GRANT".toList adminUserId).alone ⟨bobAnalyst, ()⟩ =
      (.ok 1, d) := by
  have htriples : namedTriples bobAnalyst grantToAnalyst = .ok [analystReads] := rfl
  have hb : grantPrivileges grantToAnalyst "GRANT".toList adminUserId (⟨bobAnalyst, ()⟩ : Db Unit) =
      .ok (some _) := grantPrivileges_eq_some.2 (Or.inr ⟨rfl, _, htriples, rfl⟩)
  obtain ⟨journal, hjournal⟩ := Table.exists_insert (t := bobAnalyst.rsCatalogJournal) rfl
    (pendingRow 10000 0 "grant_privilege" 0 "GRANT".toList)
  obtain ⟨rows, hrows⟩ := Table.exists_insert (t := bobAnalyst.rsPrivilege) rfl
    (analystReads.row 10001 adminUserId)
  have hturn : Runs (upsertPrivilege analystReads adminUserId)
      { bumpOid bobAnalyst with rsCatalogJournal := journal } 1 _ :=
    runs_bind.2 ⟨false, _, runs_existsRow.2 ⟨rfl, rfl⟩,
      runs_bind.2 ⟨10001, _, runs_allocateOid.2 ⟨rfl, rfl⟩,
        runs_bind.2 ⟨⟨⟩, _, runs_insertRow.2 ⟨rows, hrows, rfl⟩, runs_pure.2 ⟨rfl, rfl⟩⟩⟩⟩
  have hloop : Runs (countM [analystReads] fun t => upsertPrivilege t adminUserId)
      { bumpOid bobAnalyst with rsCatalogJournal := journal } 1 _ :=
    runs_bind.2 ⟨1, _, runs_bind.2 ⟨1, _, hturn, runs_pure.2 ⟨rfl, rfl⟩⟩, runs_pure.2 ⟨rfl, rfl⟩⟩
  have hrun := runs_journalled (c := bobAnalyst) rfl rfl hjournal hloop rfl
  have hdone : Runs (Db.onCatalog _) (⟨bobAnalyst, ()⟩ : Db Unit) 1 ⟨_, ()⟩ :=
    Db.runs_onCatalog.2 ⟨hrun, rfl⟩
  exact ⟨_, alone_of_runs (calm_grantPrivileges _ _ _ _) hb hdone⟩

/-- After the grant the role has the privilege, and may be granted it again. -/
theorem grantToAnalyst_exactly : ∃ d : Db Unit,
    (grantPrivileges grantToAnalyst "GRANT".toList adminUserId).alone ⟨bobAnalyst, ()⟩ =
        (.ok 1, d) ∧
      analystReads ∈ privileges d.cat := by
  obtain ⟨d, hd⟩ := alone_grantToAnalyst
  have hset := ((grant_revoke_exactly grantToAnalyst "GRANT".toList adminUserId ⟨bobAnalyst, ()⟩
    rfl).1 1 d hd).1
  refine ⟨d, hd, ?_⟩
  rw [hset]
  exact Or.inr ((mem_namedTriples (show namedTriples bobAnalyst grantToAnalyst =
    .ok [analystReads] from rfl)).1 List.mem_cons_self)

/-- A grant to a role lets `bob` read, whom it does not name. -/
theorem bob_reads_after_grantToAnalyst : ∃ d : Db Unit,
    (grantPrivileges grantToAnalyst "GRANT".toList adminUserId).alone ⟨bobAnalyst, ()⟩ =
        (.ok 1, d) ∧
      (∀ grantee ∈ grantToAnalyst.grantees, ¬ grantee.Is bobAnalyst (.user, 11)) ∧
      ∃ bob, principalForUsername bobAnalyst "bob" = .ok bob ∧
        hasExplicitPrivilege bobAnalyst bob .relation 100 .read = false ∧
        hasExplicitPrivilege d.cat bob .relation 100 .read = true := by
  obtain ⟨d, hd⟩ := alone_grantToAnalyst
  obtain ⟨hset, hothers, -⟩ := privileges_grant (g := grantToAnalyst) rfl hd
  have hnamed : analystReads ∈ grantToAnalyst.named bobAnalyst :=
    (mem_namedTriples (show namedTriples bobAnalyst grantToAnalyst = .ok [analystReads] from
      rfl)).1 List.mem_cons_self
  refine ⟨d, hd, ?_, _, principalForUsername_bob, rfl, ?_⟩
  · intro grantee hgrantee hbob
    obtain rfl := List.mem_singleton.1 hgrantee
    obtain ⟨name, -, ⟨-, hrole, -⟩ | ⟨htype, -⟩⟩ := hbob
    · cases hrole
    · rcases htype with htype | htype <;> cases htype
  · refine hasExplicitPrivilege_iff.2 ⟨(.role, 30), ?_, ?_⟩
    · refine (actsAs_congr hothers).2 (Or.inr ⟨rfl, _, List.mem_cons_self, ?_, rfl⟩)
      exact List.mem_cons_self
    · rw [hset]
      exact Or.inr hnamed

end Rsduck.Catalog
