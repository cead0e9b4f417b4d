import Mathlib.Data.List.Dedup
import Rsduck.Catalog.NamedRelations
import Rsduck.Sql.Reads

/-!
Which statements the guard authorizes exactly.

The rights a statement needs are stated on its tree: read on every base relation it reads, and
what its target needs. The guard looks at the printed text instead. The two agree in every
catalog and for every user exactly when the text shows the rights of the tree.
-/

namespace Rsduck.Catalog

open Lib Lib.Text Sql

/-! ### Rights -/

/-- A right on a relation, or the right to create in a schema. -/
inductive Need
  | relation (r : RelationName) (action : PrivilegeAction)
  | ddl (schema : List Char)
  deriving DecidableEq

def Need.Granted (c : Catalog) (p : SessionPrincipal) : Need → Prop
  | .relation r action => requireOn c p r action = .ok ()
  | .ddl schema => requireSchemaAction c p (String.ofList schema) .ddl = .ok ()

/-- A relation of the right is active in the catalog. -/
def Need.Active (c : Catalog) : Need → Prop
  | .relation r _ => ∃ oid, availableRelationOid c (String.ofList r.1) (String.ofList r.2) = .ok oid
  | .ddl _ => True

/-! ### What a statement needs -/

/-- The name of a relation that is read, that is the target, or that is created. -/
inductive Requirement
  | read (name : ObjectName)
  | write (name : ObjectName)
  | create (name : ObjectName)

def Requirement.need : Requirement → Option Need
  | .read name => (relationName name).toOption.map fun r => .relation r .read
  | .write name => (relationName name).toOption.map fun r => .relation r .write
  | .create name => (relationName name).toOption.map fun r => .ddl r.1

mutual

/-- What the target needs; a statement under `EXPLAIN` has one when it is run. -/
def targetOf : Statement → Option Requirement
  | .insert t _ | .update t _ | .delete t _ | .merge t _ => some (.write t)
  | .createView name _ => some (.create name)
  | .query q => queryTarget q
  | .explain analyze options _ s => if explainRuns analyze options then targetOf s else none
  | _ => none

def queryTarget : Query → Option Requirement
  | .mk _ _ body _ => bodyTarget body

def bodyTarget : SetExpr → Option Requirement
  | .insert s | .update s | .delete s | .merge s => targetOf s
  | .query q => queryTarget q
  | _ => none

end

mutual

lemma targetOf_ne_read (name : ObjectName) : ∀ s, targetOf s ≠ some (.read name)
  | .query q => by simpa [targetOf] using queryTarget_ne_read name q
  | .explain analyze options _ s => by
    rw [targetOf]
    split_ifs
    · exact targetOf_ne_read name s
    · exact Option.some_ne_none _ ∘ Eq.symm
  | .insert _ _ | .update _ _ | .delete _ _ | .merge _ _ | .createView _ _ => by simp [targetOf]
  | .createTable _ _ | .createIndex _ _ | .comment _ _ _ _ | .drop _ _ _ | .copy _ _
  | .pragma _ _ | .startTransaction _ _ | .other _ _ => by simp [targetOf]

lemma queryTarget_ne_read (name : ObjectName) : ∀ q, queryTarget q ≠ some (.read name)
  | .mk _ _ body _ => by simpa [queryTarget] using bodyTarget_ne_read name body

lemma bodyTarget_ne_read (name : ObjectName) : ∀ b, bodyTarget b ≠ some (.read name)
  | .insert s | .update s | .delete s | .merge s => by
    simpa [bodyTarget] using targetOf_ne_read name s
  | .query q => by simpa [bodyTarget] using queryTarget_ne_read name q
  | .select _ | .values _ | .table _ | .setOperation _ _ _ => by simp [bodyTarget]

end

/-- Read on every base relation, and what the target needs. -/
def requirements (s : Statement) : List Requirement := s.reads.map .read ++ (targetOf s).toList

/-- The rights of the requirements; `none` when a name is not that of a relation, with or without
its schema. -/
def needs (s : Statement) : Option (List Need) := (requirements s).mapM Requirement.need

/-- The user is a principal that holds every right the statement needs. -/
def Authorized (c : Catalog) (username : String) (s : Statement) : Prop :=
  ∃ p wanted, principalForUsername c username = .ok p ∧ needs s = some wanted ∧
    ∀ n ∈ wanted, n.Granted c p

/-- The relations the statement names are active in the catalog. -/
def OverActive (c : Catalog) (s : Statement) : Prop :=
  ∃ wanted, needs s = some wanted ∧ ∀ n ∈ wanted, n.Active c

/-! ### What the guard asks for -/

/-- The statements whose reads and target are checked. -/
def ReadsOrWrites : Statement → Prop
  | .query _ | .explain _ _ _ _ | .insert _ _ | .update _ _ | .delete _ _ | .createView _ _ => True
  | _ => False

/-- The rights found in the printed text; `none` where the text shows no target. -/
def scannedNeeds (s : Statement) : Option (List Need) :=
  match s with
  | .query _ | .explain _ _ _ _ =>
    some ((extractReadRelations s.print).map fun r => .relation r .read)
  | .insert _ _ => (extractRelationAfter s.print "into").map fun r => [.relation r .write]
  | .update _ _ => (extractRelationAfter s.print "update").map fun r => [.relation r .write]
  | .delete _ _ => (extractRelationAfter s.print "from").map fun r => [.relation r .write]
  | .createView name _ => (relationName name).toOption.map fun r => [.ddl r.1]
  | _ => none

/-- A text that is not one of those the catalog reads without the parser. -/
def leftToParser (sql : List Char) : Bool :=
  !looksLikeManagedPartitionCreate sql && !looksLikeCommentOn sql &&
    (stripDropRoleCascade sql).isNone

lemma granted_relation {c : Catalog} {p : SessionPrincipal} {r : RelationName}
    {action : PrivilegeAction} :
    (Need.relation r action).Granted c p ↔ requireOn c p r action = .ok () := Iff.rfl

lemma granted_ddl {c : Catalog} {p : SessionPrincipal} {schema : List Char} :
    (Need.ddl schema).Granted c p ↔
      requireSchemaAction c p (String.ofList schema) .ddl = .ok () := Iff.rfl

lemma granted_reads {c : Catalog} {p : SessionPrincipal} {rs : List RelationName} :
    (forM rs fun r => requireOn c p r .read) = .ok () ↔
      ∀ n ∈ rs.map (Need.relation · .read), n.Granted c p := by
  rw [forM_eq_ok, List.forall_mem_map]
  exact Iff.rfl

lemma requireTarget_eq_ok {c : Catalog} {p : SessionPrincipal} {statement : String}
    {target : Option RelationName} {action : PrivilegeAction} :
    requireTarget c p statement target action = .ok () ↔
      ∃ r, target = some r ∧ requireOn c p r action = .ok () := by
  cases target <;> simp [requireTarget]

lemma authorizeStatement_eq_ok {c : Catalog} {p : SessionPrincipal} {s : Statement}
    (hs : ReadsOrWrites s) :
    authorizeStatement c p s s.print = .ok () ↔
      ∃ found, scannedNeeds s = some found ∧ ∀ n ∈ found, n.Granted c p := by
  cases s with
  | query q => simp [authorizeStatement, scannedNeeds, granted_reads]
  | explain analyze options opening s => simp [authorizeStatement, scannedNeeds, granted_reads]
  | insert t ps => simp [authorizeStatement, scannedNeeds, requireTarget_eq_ok, granted_relation]
  | update t ps => simp [authorizeStatement, scannedNeeds, requireTarget_eq_ok, granted_relation]
  | delete t ps => simp [authorizeStatement, scannedNeeds, requireTarget_eq_ok, granted_relation]
  | createView name ps =>
    rcases h : relationName name with e | ⟨schema, relation⟩
    · simp [authorizeStatement, scannedNeeds, h, bind, Except.bind, Except.toOption]
    · simp [authorizeStatement, scannedNeeds, h, bind, Except.bind, Except.toOption, granted_ddl]
  | _ => exact hs.elim

lemma authorizeSql_eq_ok {P : SqlParser} {sql : List Char} {s : Statement}
    (hparse : P.parse sql = .ok [s]) (hsql : leftToParser sql = true) (hs : ReadsOrWrites s)
    {c : Catalog} {username : String} :
    authorizeSql P c username sql = .ok () ↔
      ∃ p, principalForUsername c username = .ok p ∧
        ∃ found, scannedNeeds s = some found ∧ ∀ n ∈ found, n.Granted c p := by
  simp only [leftToParser, Bool.and_eq_true, Bool.not_eq_true', Option.isNone_iff_eq_none] at hsql
  obtain ⟨⟨hmanaged, hcomment⟩, hrole⟩ := hsql
  have hone : parseOneStatement P sql = .ok (s, s.print) := by
    simp [parseOneStatement, parseCustomStatement, oneStatement, hcomment, hrole, hparse, bind,
      Except.bind, pure, Except.pure]
  have hpartition : parseManagedPartitionCreate sql = .ok none := by
    simp [parseManagedPartitionCreate, hmanaged]
  simp only [← authorizeStatement_eq_ok hs, authorizeSql, hone, hpartition]
  rcases principalForUsername c username with e | p <;> simp [bind, Except.bind]

/-! ### Names in lower case -/

/-- What a relation is looked up by. -/
def fold (r : RelationName) : String × String :=
  (sqlLower (String.ofList r.1), sqlLower (String.ofList r.2))

/-- A right, by what it is looked up with. -/
inductive Right
  | relation (key : String × String) (action : PrivilegeAction)
  | ddl (schema : String)
  deriving DecidableEq

def Need.right : Need → Right
  | .relation r action => .relation (fold r) action
  | .ddl schema => .ddl (sqlLower (String.ofList schema))

lemma sameName_congr {a b : String} (h : sqlLower a = sqlLower b) (x : String) :
    sameName x a = sameName x b := by
  rw [sameName, sameName, h]

lemma namespaceOid_congr {a b : String} (h : sqlLower a = sqlLower b) (c : Catalog)
    (oid : ℤ) : namespaceOid c a = .ok oid ↔ namespaceOid c b = .ok oid := by
  simp only [namespaceOid_eq_ok, sameName_congr h]

/-- A right does not depend on the case its names are written in. -/
lemma granted_congr {n n' : Need} (h : n.right = n'.right) (c : Catalog) (p : SessionPrincipal) :
    n.Granted c p ↔ n'.Granted c p := by
  cases n with
  | relation r action =>
    cases n' with
    | relation r' action' =>
      obtain ⟨hr, rfl⟩ := Right.relation.inj h
      obtain ⟨h1, h2⟩ := Prod.ext_iff.1 hr
      have hrows : relationRows c (String.ofList r.1) (String.ofList r.2) =
          relationRows c (String.ofList r'.1) (String.ofList r'.2) := by
        simp only [relationRows, sameName_congr h1, sameName_congr h2]
      simp only [Need.Granted, requireOn, requireRelationAction_eq_ok,
        availableRelationOid_eq_ok, namespaceOid_congr h1, hrows]
    | ddl => cases h
  | ddl schema =>
    cases n' with
    | relation => cases h
    | ddl schema' =>
      simp only [Need.Granted, requireSchemaAction_eq_ok, namespaceOid_congr (Right.ddl.inj h)]

/-! ### A catalog for a list of rights

One user, who holds some of the rights; every relation and schema of the rights is there. -/

section Catalog

variable (ns : List Need)

def rights : List Right := (ns.map Need.right).dedup

def keys : List (String × String) :=
  ((rights ns).filterMap fun | .relation k _ => some k | .ddl _ => none).dedup

def schemas : List String :=
  ((rights ns).map fun | .relation k _ => k.1 | .ddl n => n).dedup

lemma mem_keys {k : String × String} {action : PrivilegeAction}
    (h : Right.relation k action ∈ rights ns) : k ∈ keys ns :=
  List.mem_dedup.2 (List.mem_filterMap.2 ⟨_, h, rfl⟩)

lemma mem_schemas {n : String} (h : Right.ddl n ∈ rights ns) : n ∈ schemas ns :=
  List.mem_dedup.2 (List.mem_map.2 ⟨_, h, rfl⟩)

lemma exists_of_mem_keys {k : String × String} (h : k ∈ keys ns) :
    ∃ action, Right.relation k action ∈ rights ns := by
  obtain ⟨r, hr, hk⟩ := List.mem_filterMap.1 (List.mem_dedup.1 h)
  cases r with
  | relation k' action => cases hk; exact ⟨action, hr⟩
  | ddl n => cases hk

lemma schema_mem_schemas {k : String × String} (h : k ∈ keys ns) : k.1 ∈ schemas ns := by
  obtain ⟨action, hr⟩ := exists_of_mem_keys ns h
  exact List.mem_dedup.2 (List.mem_map.2 ⟨_, hr, rfl⟩)

lemma lower_key {k : String × String} (h : k ∈ keys ns) :
    sqlLower k.1 = k.1 ∧ sqlLower k.2 = k.2 := by
  obtain ⟨action, hr⟩ := exists_of_mem_keys ns h
  obtain ⟨n, -, hn⟩ := List.mem_map.1 (List.mem_dedup.1 hr)
  cases n with
  | relation r a =>
    obtain ⟨rfl, -⟩ := Right.relation.inj hn
    exact ⟨sqlLower_sqlLower _, sqlLower_sqlLower _⟩
  | ddl n => cases hn

lemma lower_schema {n : String} (h : n ∈ schemas ns) : sqlLower n = n := by
  obtain ⟨r, hr, hn⟩ := List.mem_map.1 (List.mem_dedup.1 h)
  obtain ⟨m, -, rfl⟩ := List.mem_map.1 (List.mem_dedup.1 hr)
  cases m <;> cases hn <;> exact sqlLower_sqlLower _

def schemaId (n : String) : ℤ := (schemas ns).idxOf n

def relationId (k : String × String) : ℤ := (keys ns).idxOf k

lemma schemaId_inj {a b : String} (ha : a ∈ schemas ns) (h : schemaId ns a = schemaId ns b) :
    a = b :=
  (List.idxOf_inj ha).1 (Int.ofNat.inj h)

lemma relationId_inj {a b : String × String} (ha : a ∈ keys ns)
    (h : relationId ns a = relationId ns b) : a = b :=
  (List.idxOf_inj ha).1 (Int.ofNat.inj h)

def schemaRow (n : String) : SchemaRow :=
  { oid := schemaId ns n, nspname := n, nspowner := 0, nspacl := "" }

def relationRow (k : String × String) : RelationRow :=
  { oid := relationId ns k, relname := k.2, relnamespace := schemaId ns k.1, reltype := 0
    relowner := 0, relkind := .table, relpersistence := "p", relnatts := 0, reltuples := 0
    relhasindex := false, relispartition := false, relpartbound := "", reloptions := ""
    status := .active, errorMessage := "" }

def privilegeRow (r : Right) : PrivilegeRow :=
  match r with
  | .relation k action =>
    { privilegeId := (rights ns).idxOf r, principalType := .user, principalId := 1
      objectType := .relation, objectId := relationId ns k, action, grantedBy := 0 }
  | .ddl n =>
    { privilegeId := (rights ns).idxOf r, principalType := .user, principalId := 1
      objectType := .schema, objectId := schemaId ns n, action := .ddl, grantedBy := 0 }

lemma privilegeRow_id (r : Right) : (privilegeRow ns r).privilegeId = (rights ns).idxOf r := by
  cases r <;> rfl

/-- No two rights are one right on one object. -/
lemma eq_of_privilegeRow {a b : Right} (ha : a ∈ rights ns)
    (htype : (privilegeRow ns a).objectType = (privilegeRow ns b).objectType)
    (hid : (privilegeRow ns a).objectId = (privilegeRow ns b).objectId)
    (haction : (privilegeRow ns a).action = (privilegeRow ns b).action) : a = b := by
  cases a with
  | relation k action =>
    cases b with
    | relation k' action' =>
      rw [relationId_inj ns (mem_keys ns ha) hid, show action = action' from haction]
    | ddl n => cases htype
  | ddl n =>
    cases b with
    | relation k action => cases htype
    | ddl n' => rw [schemaId_inj ns (mem_schemas ns ha) hid]

/-- Rows made from a list without duplicates, told apart by what they are made from. -/
def tableOf {ρ κ : Type} [Keyed ρ] (xs : List κ) (hx : xs.Nodup) (row : κ → ρ)
    (h : ∀ a ∈ xs, ∀ b, Keyed.clash (row a) (row b) = true → a = b) : Table ρ where
  rows := xs.map row
  keyed := List.pairwise_map.2 (hx.imp_of_mem fun ha _ hab => by
    by_contra hc
    exact hab (h _ ha _ (by simpa using hc)))

def userRow : UserRow :=
  { userId := 1, username := "u", passwordHash := "", passwordAlgo := "", mysqlAuthPlugin := ""
    mysqlAuthString := "", status := "active", isBuiltin := false }

/-- The catalog in which the one user holds those of the rights that are `held`. -/
def catalogOf (held : Right → Bool) : Catalog where
  rsSchema := tableOf (schemas ns) (List.nodup_dedup _) (schemaRow ns) fun a ha b h => by
    rcases (by simpa [Keyed.clash, schemaRow] using h : schemaId ns a = schemaId ns b ∨ a = b)
      with h | h
    · exact schemaId_inj ns ha h
    · exact h
  rsRelation := tableOf (keys ns) (List.nodup_dedup _) (relationRow ns) fun a ha b h => by
    rcases (by simpa [Keyed.clash, relationRow] using h : relationId ns a = relationId ns b ∨
      schemaId ns a.1 = schemaId ns b.1 ∧ a.2 = b.2) with h | ⟨h1, h2⟩
    · exact relationId_inj ns ha h
    · exact Prod.ext (schemaId_inj ns (schema_mem_schemas ns ha) h1) h2
  rsUser := ⟨[userRow], by simp⟩
  rsPrivilege :=
    tableOf ((rights ns).filter held) ((List.nodup_dedup _).filter _) (privilegeRow ns)
      fun a ha b h => by
        have ha := List.mem_of_mem_filter ha
        simp only [Keyed.clash, privilegeRow_id, Bool.or_eq_true, beq_iff_eq,
          Prod.mk.injEq] at h
        rcases h with h | ⟨-, -, htype, hid, haction⟩
        · exact (List.idxOf_inj ha).1 (Int.ofNat.inj h)
        · exact eq_of_privilegeRow ns ha htype hid haction

def heldBy : SessionPrincipal := { userId := 1, username := "u", roles := [] }

lemma principalForUsername_catalogOf (held : Right → Bool) :
    principalForUsername (catalogOf ns held) "u" = .ok heldBy := by
  simp [principalForUsername, catalogOf, userRow, Table.find, Table.select, heldBy]

/-- A privilege in the catalog is a right that is held. -/
lemma hasExplicitPrivilege_catalogOf {held : Right → Bool} {objectType : PrivilegeObject}
    {objectId : ℤ} {action : PrivilegeAction} :
    hasExplicitPrivilege (catalogOf ns held) heldBy objectType objectId action = true ↔
      ∃ r ∈ rights ns, held r = true ∧ (privilegeRow ns r).objectType = objectType ∧
        (privilegeRow ns r).objectId = objectId ∧ (privilegeRow ns r).action = action := by
  have huser : ∀ r, (privilegeRow ns r).principalType = .user ∧
      (privilegeRow ns r).principalId = 1 := by
    intro r
    cases r <;> exact ⟨rfl, rfl⟩
  simp [hasExplicitPrivilege, catalogOf, Table.exists?, tableOf, huser, heldBy, and_assoc]

lemma namespaceOid_catalogOf {held : Right → Bool} {n : String} {oid : ℤ} :
    namespaceOid (catalogOf ns held) n = .ok oid ↔
      sqlLower n ∈ schemas ns ∧ oid = schemaId ns (sqlLower n) := by
  rw [namespaceOid_eq_ok]
  constructor
  · rintro ⟨row, hrow, rfl⟩
    obtain ⟨m, hm, rfl⟩ := List.mem_map.1 (List.mem_of_find?_eq_some hrow)
    have hsame : sqlLower m = sqlLower n := by
      simpa [schemaRow, sameName] using List.find?_some hrow
    rw [← hsame, lower_schema ns hm]
    exact ⟨hm, rfl⟩
  · rintro ⟨hn, rfl⟩
    refine ⟨schemaRow ns (sqlLower n), ?_, rfl⟩
    refine Table.find?_eq_some_of_unique (List.mem_map_of_mem hn) ?_ ?_
    · simp [schemaRow, sameName, sqlLower_sqlLower]
    · intro row hrow hsame
      obtain ⟨m, hm, rfl⟩ := List.mem_map.1 hrow
      have hsame : sqlLower m = sqlLower n := by simpa [schemaRow, sameName] using hsame
      rw [← hsame, lower_schema ns hm]

/-- The rows found under a name are those of its lower-case key. -/
lemma mem_relationRows_catalogOf {held : Right → Bool} {schema relation : String}
    {row : RelationRow} :
    row ∈ relationRows (catalogOf ns held) schema relation ↔
      (sqlLower schema, sqlLower relation) ∈ keys ns ∧
        row = relationRow ns (sqlLower schema, sqlLower relation) := by
  simp only [relationRows, Table.select, List.mem_filter, Bool.and_eq_true, sameName,
    beq_iff_eq, Table.exists?, List.any_eq_true]
  constructor
  · rintro ⟨hrow, hname, n, hn, hid, hschema⟩
    obtain ⟨k, hk, rfl⟩ := List.mem_map.1 hrow
    obtain ⟨m, hm, rfl⟩ := List.mem_map.1 hn
    obtain rfl : m = k.1 := schemaId_inj ns hm hid
    have hfold := lower_key ns hk
    have hkey : k = (sqlLower schema, sqlLower relation) :=
      Prod.ext (hfold.1.symm.trans hschema) (hfold.2.symm.trans hname)
    exact ⟨hkey ▸ hk, by rw [hkey]⟩
  · rintro ⟨hk, rfl⟩
    refine ⟨List.mem_map_of_mem hk, (lower_key ns hk).2, schemaRow ns (sqlLower schema),
      List.mem_map_of_mem (schema_mem_schemas ns hk), rfl, ?_⟩
    exact sqlLower_sqlLower schema

lemma availableRelationOid_catalogOf {held : Right → Bool} {schema relation : String} {oid : ℤ} :
    availableRelationOid (catalogOf ns held) schema relation = .ok oid ↔
      (sqlLower schema, sqlLower relation) ∈ keys ns ∧
        oid = relationId ns (sqlLower schema, sqlLower relation) := by
  rw [availableRelationOid_eq_ok]
  constructor
  · rintro ⟨row, hrow, -, rfl⟩
    obtain ⟨hk, rfl⟩ := (mem_relationRows_catalogOf ns).1 (List.mem_of_mem_head? hrow)
    exact ⟨hk, rfl⟩
  · rintro ⟨hk, rfl⟩
    have hmem : relationRow ns (sqlLower schema, sqlLower relation) ∈
        relationRows (catalogOf ns held) schema relation :=
      (mem_relationRows_catalogOf ns).2 ⟨hk, rfl⟩
    rcases hh : (relationRows (catalogOf ns held) schema relation).head? with _ | row
    · rw [List.head?_eq_none_iff.1 hh] at hmem
      cases hmem
    · obtain ⟨-, rfl⟩ := (mem_relationRows_catalogOf ns).1 (List.mem_of_mem_head? hh)
      exact ⟨_, rfl, rfl, rfl⟩

/-- In this catalog a right is granted when it is one of the list that is held. -/
lemma granted_catalogOf {held : Right → Bool} {n : Need} :
    n.Granted (catalogOf ns held) heldBy ↔ n.right ∈ rights ns ∧ held n.right = true := by
  have hadmin : heldBy.isAdmin = false := rfl
  cases n with
  | relation r action =>
    simp only [granted_relation, requireOn, requireRelationAction_eq_ok, mayAct, hadmin,
      Bool.false_or, Bool.or_eq_true, Bool.and_eq_true, hasExplicitPrivilege_catalogOf,
      availableRelationOid_catalogOf, namespaceOid_catalogOf]
    constructor
    · rintro ⟨_, _, ⟨hk, rfl⟩, ⟨-, rfl⟩, ⟨right, hr, hheld, htype, hid, rfl⟩ |
        ⟨-, right, hr, -, htype, -, haction⟩⟩
      · cases right with
        | relation k a =>
          obtain rfl : k = fold r := relationId_inj ns (mem_keys ns hr) hid
          exact ⟨hr, hheld⟩
        | ddl s => cases htype
      · -- no schema is readable
        cases right with
        | relation k a => cases htype
        | ddl s => cases haction
    · rintro ⟨hr, hheld⟩
      have hk := mem_keys ns hr
      exact ⟨_, _, ⟨hk, rfl⟩, ⟨schema_mem_schemas ns hk, rfl⟩,
        Or.inl ⟨_, hr, hheld, rfl, rfl, rfl⟩⟩
  | ddl schema =>
    simp only [granted_ddl, requireSchemaAction_eq_ok, hadmin, Bool.false_or,
      hasExplicitPrivilege_catalogOf, namespaceOid_catalogOf]
    constructor
    · rintro ⟨_, ⟨hn, rfl⟩, right, hr, hheld, htype, hid, haction⟩
      cases right with
      | relation k a => cases htype
      | ddl s =>
        obtain rfl : s = sqlLower (String.ofList schema) :=
          schemaId_inj ns (mem_schemas ns hr) hid
        exact ⟨hr, hheld⟩
    · rintro ⟨hr, hheld⟩
      exact ⟨_, ⟨mem_schemas ns hr, rfl⟩, _, hr, hheld, rfl, rfl, rfl⟩

lemma mem_rights {n : Need} (h : n ∈ ns) : n.right ∈ rights ns :=
  List.mem_dedup.2 (List.mem_map_of_mem h)

lemma active_catalogOf {held : Right → Bool} {n : Need} (h : n ∈ ns) :
    n.Active (catalogOf ns held) := by
  cases n with
  | relation r action =>
    exact ⟨_, (availableRelationOid_catalogOf ns).2 ⟨mem_keys ns (mem_rights ns h), rfl⟩⟩
  | ddl schema => trivial

end Catalog

/-! ### When the scan decides right -/

/-- The scan of the printed text finds exactly these rights. -/
def ScanExact (s : Statement) (wanted : List Need) : Prop :=
  ∃ found, scannedNeeds s = some found ∧
    ∀ right, right ∈ found.map Need.right ↔ right ∈ wanted.map Need.right

/-- Rights that are among others are granted with them. -/
lemma granted_of_rights {found wanted : List Need}
    (h : ∀ right, right ∈ found.map Need.right → right ∈ wanted.map Need.right) {c : Catalog}
    {p : SessionPrincipal} (hw : ∀ n ∈ wanted, n.Granted c p) : ∀ n ∈ found, n.Granted c p := by
  intro n hn
  obtain ⟨m, hm, hright⟩ := List.mem_map.1 (h _ (List.mem_map_of_mem hn))
  exact (granted_congr hright c p).1 (hw m hm)

lemma mem_of_mapM {α β : Type} {f : α → Option β} {xs : List α} {ys : List β}
    (h : xs.mapM f = some ys) (y : β) : y ∈ ys ↔ ∃ x ∈ xs, f x = some y := by
  induction xs generalizing ys with
  | nil =>
    cases h
    simp
  | cons x xs ih =>
    rw [List.mapM_cons] at h
    obtain ⟨z, hz, h⟩ := Option.bind_eq_some_iff.1 h
    obtain ⟨zs, hzs, h⟩ := Option.bind_eq_some_iff.1 h
    cases h
    simp [ih hzs, hz, eq_comm]

lemma exists_of_mapM {α β : Type} {f : α → Option β} {xs : List α} {ys : List β}
    (h : xs.mapM f = some ys) {x : α} (hx : x ∈ xs) : ∃ y, f x = some y := by
  induction xs generalizing ys with
  | nil => cases hx
  | cons x' xs ih =>
    rw [List.mapM_cons] at h
    obtain ⟨y, hy, h⟩ := Option.bind_eq_some_iff.1 h
    obtain ⟨zs, hzs, -⟩ := Option.bind_eq_some_iff.1 h
    rcases List.mem_cons.1 hx with rfl | hx
    · exact ⟨y, hy⟩
    · exact ih hzs hx

lemma need_read {name : ObjectName} {n : Need} :
    (Requirement.read name).need = some n ↔
      ∃ r, relationName name = .ok r ∧ .relation r .read = n := by
  rcases h : relationName name with e | r <;> simp [Requirement.need, h, Except.toOption]

lemma need_write {name : ObjectName} {n : Need} :
    (Requirement.write name).need = some n ↔
      ∃ r, relationName name = .ok r ∧ .relation r .write = n := by
  rcases h : relationName name with e | r <;> simp [Requirement.need, h, Except.toOption]

lemma mem_needs {s : Statement} {wanted : List Need} (h : needs s = some wanted) {n : Need} :
    n ∈ wanted ↔ (∃ name ∈ s.reads, ∃ r, relationName name = .ok r ∧ .relation r .read = n) ∨
      ∃ q, targetOf s = some q ∧ q.need = some n := by
  rw [mem_of_mapM h]
  simp only [requirements, List.mem_append, List.mem_map, Option.mem_toList, or_and_right,
    exists_or, ← need_read]
  simp

/-- A statement that writes its target is decided right when it reads nothing, and the word taken
for its target is its target. -/
lemma scanExact_write {s : Statement} {t : ObjectName} {wanted : List Need}
    {word : Option RelationName} (hwanted : needs s = some wanted)
    (htarget : targetOf s = some (.write t))
    (hscan : scannedNeeds s = word.map fun r => [.relation r .write]) :
    ScanExact s wanted ↔ s.reads = [] ∧
      ∃ r r', word = some r ∧ relationName t = .ok r' ∧ fold r = fold r' := by
  obtain ⟨n, hn⟩ := exists_of_mapM hwanted (x := .write t) (by simp [requirements, htarget])
  obtain ⟨r', hr', rfl⟩ := need_write.1 hn
  have hwrite : Need.relation r' .write ∈ wanted := (mem_needs hwanted).2 (Or.inr ⟨_, htarget, hn⟩)
  constructor
  · rintro ⟨found, hfound, hexact⟩
    obtain ⟨r, rfl, rfl⟩ := Option.map_eq_some_iff.1 (hscan ▸ hfound)
    simp only [List.map_cons, List.map_nil, List.mem_singleton] at hexact
    refine ⟨List.eq_nil_iff_forall_not_mem.2 fun name hname => ?_, r, r', rfl, hr', ?_⟩
    · -- a relation that is read would be asked for
      obtain ⟨n, hn⟩ := exists_of_mapM hwanted (x := .read name) (by simp [requirements, hname])
      obtain ⟨r₀, hr₀, rfl⟩ := need_read.1 hn
      have hread : Need.relation r₀ .read ∈ wanted :=
        (mem_needs hwanted).2 (Or.inl ⟨name, hname, r₀, hr₀, rfl⟩)
      exact absurd (Right.relation.inj ((hexact _).2 (List.mem_map_of_mem hread))).2 (by decide)
    · exact ((Right.relation.inj ((hexact _).2 (List.mem_map_of_mem hwrite))).1).symm
  · rintro ⟨hreads, r, r'', rfl, hr'', hfold⟩
    obtain rfl := Except.ok.inj (hr'.symm.trans hr'')
    refine ⟨_, hscan, fun right => ?_⟩
    have honly : ∀ n ∈ wanted, n = .relation r' .write := by
      intro n hn
      rcases (mem_needs hwanted).1 hn with ⟨name, hname, -⟩ | ⟨q, hq, hneed⟩
      · rw [hreads] at hname
        cases hname
      · obtain rfl := Option.some.inj (htarget.symm.trans hq)
        obtain ⟨r, hr, rfl⟩ := need_write.1 hneed
        rw [Except.ok.inj (hr.symm.trans hr')]
    have hright : Need.right (.relation r .write) = Need.right (.relation r' .write) := by
      rw [Need.right, Need.right, hfold]
    simp only [List.map_cons, List.map_nil, List.mem_singleton, hright, List.mem_map]
    constructor
    · rintro rfl
      exact ⟨_, hwrite, rfl⟩
    · rintro ⟨n, hn, rfl⟩
      rw [honly n hn]

lemma right_of_target {s : Statement} {q : Requirement} {n : Need} (hq : targetOf s = some q)
    (hn : q.need = some n) (k : String × String) : n.right ≠ .relation k .read := by
  cases q with
  | read name => exact absurd hq (targetOf_ne_read name s)
  | write name =>
    obtain ⟨r, -, rfl⟩ := need_write.1 hn
    simp [Need.right]
  | create name =>
    obtain ⟨r, -, rfl⟩ := Option.map_eq_some_iff.1 hn
    simp [Need.right]

/-- A query is decided right when it has no target, and the words taken for relations are those it
reads. -/
lemma scanExact_read {s : Statement} {wanted : List Need} {words : List RelationName}
    (hwanted : needs s = some wanted)
    (hscan : scannedNeeds s = some (words.map fun r => .relation r .read)) :
    ScanExact s wanted ↔ targetOf s = none ∧
      ∀ k, k ∈ words.map fold ↔ ∃ name ∈ s.reads, ∃ r, relationName name = .ok r ∧ fold r = k := by
  have hread : ∀ k, Right.relation k .read ∈ wanted.map Need.right ↔
      ∃ name ∈ s.reads, ∃ r, relationName name = .ok r ∧ fold r = k := by
    intro k
    constructor
    · intro h
      obtain ⟨n, hn, hright⟩ := List.mem_map.1 h
      rcases (mem_needs hwanted).1 hn with ⟨name, hname, r, hr, rfl⟩ | ⟨q, hq, hneed⟩
      · exact ⟨name, hname, r, hr, (Right.relation.inj hright).1⟩
      · exact absurd hright (right_of_target hq hneed k)
    · rintro ⟨name, hname, r, hr, rfl⟩
      exact List.mem_map.2 ⟨_, (mem_needs hwanted).2 (Or.inl ⟨name, hname, r, hr, rfl⟩), rfl⟩
  have hword : ∀ right, right ∈ (words.map fun r => Need.relation r .read).map Need.right ↔
      ∃ k ∈ words.map fold, Right.relation k .read = right := by
    intro right
    rw [← List.mem_map, List.map_map, List.map_map]
    rfl
  constructor
  · rintro ⟨found, hfound, hexact⟩
    obtain rfl := Option.some.inj (hscan.symm.trans hfound)
    simp only [hword] at hexact
    refine ⟨Option.eq_none_iff_forall_ne_some.2 fun q hq => ?_, fun k => ?_⟩
    · obtain ⟨n, hn⟩ := exists_of_mapM hwanted (x := q) (by simp [requirements, hq])
      obtain ⟨k, -, hk⟩ := (hexact _).2
        (List.mem_map_of_mem ((mem_needs hwanted).2 (Or.inr ⟨q, hq, hn⟩)))
      exact right_of_target hq hn k hk.symm
    · rw [← hread, ← hexact]
      simp
  · rintro ⟨htarget, hsame⟩
    refine ⟨_, hscan, fun right => ?_⟩
    rw [hword]
    constructor
    · rintro ⟨k, hk, rfl⟩
      exact (hread k).2 ((hsame k).1 hk)
    · intro h
      obtain ⟨n, hn, rfl⟩ := List.mem_map.1 h
      rcases (mem_needs hwanted).1 hn with ⟨name, hname, r, hr, rfl⟩ | ⟨q, hq, -⟩
      · exact ⟨fold r, (hsame _).2 ⟨name, hname, r, hr, rfl⟩, rfl⟩
      · rw [htarget] at hq
        cases hq

/-- A `CREATE VIEW` is decided right when its query reads nothing. -/
lemma scanExact_create {s : Statement} {name : ObjectName} {wanted : List Need} {r : RelationName}
    (hwanted : needs s = some wanted) (htarget : targetOf s = some (.create name))
    (hr : relationName name = .ok r) (hscan : scannedNeeds s = some [.ddl r.1]) :
    ScanExact s wanted ↔ s.reads = [] := by
  have hneed : (Requirement.create name).need = some (.ddl r.1) := by
    simp [Requirement.need, hr, Except.toOption]
  constructor
  · rintro ⟨found, hfound, hexact⟩
    obtain rfl := Option.some.inj (hscan.symm.trans hfound)
    refine List.eq_nil_iff_forall_not_mem.2 fun n hn => ?_
    obtain ⟨_, hq⟩ := exists_of_mapM hwanted (x := .read n) (by simp [requirements, hn])
    obtain ⟨r₀, hr₀, rfl⟩ := need_read.1 hq
    have hmem := (hexact _).2
      (List.mem_map_of_mem ((mem_needs hwanted).2 (Or.inl ⟨n, hn, r₀, hr₀, rfl⟩)))
    simp [Need.right] at hmem
  · intro hreads
    have hmem : ∀ n, n ∈ wanted ↔ n = .ddl r.1 := by
      intro n
      simp [mem_needs hwanted, hreads, htarget, hneed, eq_comm]
    exact ⟨_, hscan, fun right => by simp [hmem, eq_comm]⟩

/-- The relation named after the first keyword is this one, in whatever case. -/
def Shows (text : List Char) (keyword : String) (name : ObjectName) : Prop :=
  ∃ r r', NamedAfterFirst keyword text r ∧ relationName name = .ok r' ∧ fold r = fold r'

/-- The printed text shows what the statement reads and writes. A query has no target, and the
words after `FROM` and `JOIN` name the base relations it reads. Any other statement reads no base
relation, and the word after its first keyword names its target. -/
def Shown (s : Statement) : Prop :=
  match s with
  | .insert t _ => s.reads = [] ∧ Shows s.print "into" t
  | .update t _ => s.reads = [] ∧ Shows s.print "update" t
  | .delete t _ => s.reads = [] ∧ Shows s.print "from" t
  | .createView _ _ => s.reads = []
  | _ => targetOf s = none ∧ ∀ k, (∃ r, NamedAfter ["from", "join"] s.print r ∧ fold r = k) ↔
      ∃ name ∈ s.reads, ∃ r, relationName name = .ok r ∧ fold r = k

lemma shows_iff {text : List Char} {keyword : String} (h : PlainKeyword keyword)
    {name : ObjectName} :
    Shows text keyword name ↔ ∃ r r', extractRelationAfter text keyword = some r ∧
      relationName name = .ok r' ∧ fold r = fold r' := by
  simp only [Shows, extractRelationAfter_iff h]

lemma named_iff {text : List Char} {k : String × String} :
    k ∈ (extractReadRelations text).map fold ↔
      ∃ r, NamedAfter ["from", "join"] text r ∧ fold r = k := by
  simp only [List.mem_map, mem_extractReadRelations]

lemma scanExact_iff_shown {s : Statement} {wanted : List Need} (hs : ReadsOrWrites s)
    (hwanted : needs s = some wanted) : ScanExact s wanted ↔ Shown s := by
  cases s with
  | query q =>
    simp only [scanExact_read hwanted rfl, Shown, named_iff]
  | explain analyze options opening s =>
    simp only [scanExact_read hwanted rfl, Shown, named_iff]
  | insert t ps =>
    exact (scanExact_write hwanted rfl rfl).trans
      (and_congr_right' (shows_iff ⟨by decide, by decide⟩).symm)
  | update t ps =>
    exact (scanExact_write hwanted rfl rfl).trans
      (and_congr_right' (shows_iff ⟨by decide, by decide⟩).symm)
  | delete t ps =>
    exact (scanExact_write hwanted rfl rfl).trans
      (and_congr_right' (shows_iff ⟨by decide, by decide⟩).symm)
  | createView name ps =>
    obtain ⟨n, hn⟩ := exists_of_mapM hwanted (x := .create name) (by simp [requirements, targetOf])
    rcases hr : relationName name with e | r
    · simp [Requirement.need, hr, Except.toOption] at hn
    · exact scanExact_create hwanted rfl hr (by simp [scannedNeeds, hr, Except.toOption])
  | _ => exact hs.elim

/-- `SELECT * FROM a, b`. -/
def selectFromTwo : Statement :=
  .query (.mk false []
    (.select [.text "SELECT * FROM ".toList, .table [⟨['a'], none⟩], .text ", ".toList,
      .table [⟨['b'], none⟩]]) [])

/-- `SELECT * FROM a`. -/
def selectFromOne : Statement :=
  .query (.mk false [] (.select [.text "SELECT * FROM ".toList, .table [⟨['a'], none⟩]]) [])

def readOn (relation : Char) : Need := .relation ("main".toList, [relation]) .read

end Rsduck.Catalog
