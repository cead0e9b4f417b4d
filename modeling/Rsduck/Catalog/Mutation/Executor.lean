import Rsduck.Catalog.Guard
import Rsduck.Catalog.Journal
import Rsduck.Lib.Attempt

/-!
Which statements change the catalog, and the transaction each of them is.

A statement the catalog knows is one of its mutations: checks, then at most one transaction.
Any other statement is left to the engine.
-/

namespace Rsduck.Catalog

open Lib Lib.Eff Lib.Text Sql

/-! ### Mutations -/

/-- What a mutation checks before its transaction, and the transaction's body when there is
something to do. -/
abbrev Mutation (P : Type) := Db P → Except String (Option (Session.Body (Db P) ℕ))

section Mutations

variable {P : Type}

def catalogTransactions (refuse : Db P → Option String) : Session.Engine (Db P) where
  beginError := "begin catalog mutation failed: "
  commitError := "commit catalog mutation failed: "
  refuse := refuse

def runCatalogTx {α : Type} (refuse : Db P → Option String) (b : Session.Body (Db P) α) :
    Eff (Session (Db P)) α :=
  Session.bracket (catalogTransactions refuse) b

/-- Nothing is done, and no row affected, where there is no transaction. -/
def Mutation.exec (refuse : Db P → Option String) (m : Mutation P) : Eff (Session (Db P)) ℕ := do
  match ← fromExcept (m (← get).now) with
  | none => return 0
  | some b => runCatalogTx refuse b

end Mutations

/-- The mutations by statement: the functions that `execute_catalog_statement` and the
management calls hand over to. -/
structure Mutations (P : Type) where
  /-- The mutation of a statement of one of the kinds below, with its text and the owner. -/
  statement : Statement → List Char → ℤ → Mutation P
  createRangePartitionedTable : ManagedPartitionCreate → ℤ → Mutation P
  runPartitionMaintenance : List Char → Mutation P
  markPartitionUnavailable : RelationName → (value reason sql : List Char) → Mutation P
  repairPartition : RelationName → (value sql : List Char) → Mutation P

/-- Mutations that find nothing to do. -/
instance {P : Type} : Inhabited (Mutations P) where
  default :=
    { statement := fun _ _ _ _ => .ok none
      createRangePartitionedTable := fun _ _ _ => .ok none
      runPartitionMaintenance := fun _ _ => .ok none
      markPartitionUnavailable := fun _ _ _ _ _ => .ok none
      repairPartition := fun _ _ _ _ => .ok none }

/-- The kinds, of those without a constructor of their own, that are mutations. -/
def mutationKinds : List StatementKind :=
  [.createSchema, .createUser, .createRole, .alterUser, .alterTable, .grant, .revoke]

def unimplementedKinds : List StatementKind := [.alterSchema, .alterIndex, .alterView]

/-- The statements that have a mutation. -/
def isMutation : Statement → Bool
  | .createTable _ _ | .createView _ _ | .createIndex _ _ | .comment _ _ _ _ | .drop _ _ _
  | .insert _ _ => true
  | .other kind _ => kind ∈ mutationKinds
  | _ => false

/-- An `INSERT` that no partition takes is left to the engine. -/
def leftToEngine : Statement → ℕ → Option ℕ
  | .insert _ _, 0 => none
  | _, n => some n

/-! ### Management calls -/

/-- The texts between single quotes. -/
def quotedLiteralsFrom : Option (List Char) → List Char → List (List Char)
  | some value, [] => [value]
  | none, [] => []
  | none, c :: r => quotedLiteralsFrom (if c = '\'' then some [] else none) r
  | some value, '\'' :: '\'' :: r => quotedLiteralsFrom (some (value ++ ['\''])) r
  | some value, c :: r =>
    if c = '\'' then value :: quotedLiteralsFrom none r
    else quotedLiteralsFrom (some (value ++ [c])) r

def quotedLiterals (sql : List Char) : List (List Char) := quotedLiteralsFrom none sql

def callRelation (name : List Char) : Except String RelationName :=
  match relationFromToken name with
  | some r => .ok r
  | none => .error ("invalid relation name: " ++ String.ofList name)

/-- The mutation of a management call, when its arguments are right. -/
def managementCall {P : Type} (M : Mutations P) (name : String) (sql : List Char) :
    Except String (Mutation P) :=
  let args := quotedLiterals sql
  if name = "rsduck_run_partition_maintenance" then
    if args = [] then .ok (M.runPartitionMaintenance sql)
    else .error "rsduck_run_partition_maintenance takes no arguments"
  else if name = "rsduck_mark_partition_unavailable" then
    match args with
    | [relation, value, reason] => do
      return M.markPartitionUnavailable (← callRelation relation) value reason sql
    | _ => .error "rsduck_mark_partition_unavailable requires relation, partition_value, reason"
  else if name = "rsduck_repair_partition" then
    match args with
    | [relation, value] => do return M.repairPartition (← callRelation relation) value sql
    | _ => .error "rsduck_repair_partition requires relation and partition_value"
  else .error ("unsupported catalog management call: " ++ name)

/-! ### The executor -/

section Executor

variable {P : Type} (M : Mutations P) (Q : SqlParser) (refuse : Db P → Option String)

def executeCatalogStatement (statement : Statement) (sql : List Char) (owner : ℤ) :
    Eff (Session (Db P)) (Option ℕ) := do
  if isMutation statement then
    return leftToEngine statement (← (M.statement statement sql owner).exec refuse)
  else
    match statement with
    | .other kind _ =>
      if kind ∈ unimplementedKinds then
        throw ("catalog mutation is not implemented for this statement: " ++
          guardCommand statement)
      else
        fromExcept (guardExternalSql sql)
        return none
    | _ =>
      fromExcept (guardExternalSql sql)
      return none

/-- The rows affected, or `none` for a statement that is left to the engine. -/
def executeCatalogAwareWriteAs (username : String) (sql : List Char) :
    Eff (Session (Db P)) (Option ℕ) := do
  let c := (← get).now.cat
  let principal ← fromExcept (principalForUsername c username)
  match parseCatalogManagementCall sql with
  | some name =>
    fromExcept (requireSystemAction c principal .manageCatalog)
    let m ← fromExcept (managementCall M name sql)
    return some (← m.exec refuse)
  | none =>
    match ← fromExcept (parseManagedPartitionCreate sql) with
    | some partitioned =>
      return some (← (M.createRangePartitionedTable partitioned principal.userId).exec refuse)
    | none =>
      let (statement, normalizedSql) ← fromExcept (parseOneStatement Q sql)
      executeCatalogStatement M refuse statement normalizedSql principal.userId

end Executor

/-! ### Where a write goes -/

/-- To the engine as it is, or to a mutation, whose count may leave it to the engine after all. -/
inductive WriteTarget (P : Type)
  | engine
  | mutation (m : Mutation P) (affected : ℕ → Option ℕ)

def WriteTarget.run {P : Type} (refuse : Db P → Option String) :
    WriteTarget P → Eff (Session (Db P)) (Option ℕ)
  | .engine => pure none
  | .mutation m affected => do return affected (← m.exec refuse)

section WriteTarget

variable {P : Type} (M : Mutations P) (Q : SqlParser) (refuse : Db P → Option String)

def statementTarget (statement : Statement) (sql : List Char) (owner : ℤ) :
    Except String (WriteTarget P) :=
  if isMutation statement then
    .ok (.mutation (M.statement statement sql owner) (leftToEngine statement))
  else
    match statement with
    | .other kind _ =>
      if kind ∈ unimplementedKinds then
        .error ("catalog mutation is not implemented for this statement: " ++
          guardCommand statement)
      else do
        guardExternalSql sql
        return .engine
    | _ => do
      guardExternalSql sql
      return .engine

/-- The checks of a write, up to its transaction. -/
def writeTarget (username : String) (sql : List Char) (c : Catalog) :
    Except String (WriteTarget P) := do
  let principal ← principalForUsername c username
  match parseCatalogManagementCall sql with
  | some name =>
    requireSystemAction c principal .manageCatalog
    return .mutation (← managementCall M name sql) some
  | none =>
    match ← parseManagedPartitionCreate sql with
    | some partitioned =>
      return .mutation (M.createRangePartitionedTable partitioned principal.userId) some
    | none =>
      let (statement, normalizedSql) ← parseOneStatement Q sql
      statementTarget M statement normalizedSql principal.userId

/-- What holds of all the mutations. -/
structure Mutations.All (p : Mutation P → Prop) : Prop where
  statement : ∀ s sql owner, p (M.statement s sql owner)
  createRangePartitionedTable : ∀ c owner, p (M.createRangePartitionedTable c owner)
  runPartitionMaintenance : ∀ sql, p (M.runPartitionMaintenance sql)
  markPartitionUnavailable : ∀ r value reason sql, p (M.markPartitionUnavailable r value reason sql)
  repairPartition : ∀ r value sql, p (M.repairPartition r value sql)

variable {M Q}

lemma of_managementCall {name : String} {sql : List Char} {m : Mutation P}
    {p : Mutation P → Prop} (hM : M.All p) (h : managementCall M name sql = .ok m) : p m := by
  unfold managementCall at h
  simp only at h
  split_ifs at h
  · cases h
    exact hM.runPartitionMaintenance sql
  · split at h
    · rename_i relation value reason _
      rcases hr : callRelation relation with e | r
      · rw [hr] at h
        cases h
      · rw [hr] at h
        cases h
        exact hM.markPartitionUnavailable _ _ _ _
    · cases h
  · split at h
    · rename_i relation value _
      rcases hr : callRelation relation with e | r
      · rw [hr] at h
        cases h
      · rw [hr] at h
        cases h
        exact hM.repairPartition _ _ _
    · cases h

/-- A call is refused whatever the mutations are. -/
lemma managementCall_error (M' : Mutations P) {name : String} {sql : List Char} {e : String}
    (h : managementCall M name sql = .error e) : managementCall M' name sql = .error e := by
  unfold managementCall at h ⊢
  simp only at h ⊢
  split_ifs at h ⊢
  · exact h
  · split at h
    · rename_i relation value reason _
      rcases hr : callRelation relation with e' | r
      · rw [hr] at h
        exact h
      · rw [hr] at h
        cases h
    · exact h
  · split at h
    · rename_i relation value _
      rcases hr : callRelation relation with e' | r
      · rw [hr] at h
        exact h
      · rw [hr] at h
        cases h
    · exact h
  · exact h

lemma statementTarget_error (M' : Mutations P) {statement : Statement} {sql : List Char}
    {owner : ℤ} {e : String} (h : statementTarget M statement sql owner = .error e) :
    statementTarget M' statement sql owner = .error e := by
  unfold statementTarget at h ⊢
  split_ifs at h ⊢
  exact h

lemma statementTarget_mutation {statement : Statement} {sql : List Char} {owner : ℤ}
    {m : Mutation P} {affected : ℕ → Option ℕ}
    (h : statementTarget M statement sql owner = .ok (.mutation m affected)) :
    m = M.statement statement sql owner ∧ affected = leftToEngine statement ∧
      isMutation statement = true := by
  unfold statementTarget at h
  split_ifs at h with hmutation
  · cases h
    exact ⟨rfl, rfl, hmutation⟩
  · split at h
    · split_ifs at h
      obtain ⟨_, -, hengine⟩ := Attempt.bind_eq_ok.1 h
      cases hengine
    · obtain ⟨_, -, hengine⟩ := Attempt.bind_eq_ok.1 h
      cases hengine

/-- A write that is not refused goes to a mutation of its own kind or is one statement. -/
lemma writeTarget_eq_ok {username : String} {sql : List Char} {c : Catalog}
    {target : WriteTarget P} (h : writeTarget M Q username sql c = .ok target) :
    (∃ m, target = .mutation m some ∧ ∀ p, M.All p → p m) ∨
      ∃ statement text owner, parseOneStatement Q sql = .ok (statement, text) ∧
        statementTarget M statement text owner = .ok target := by
  unfold writeTarget at h
  obtain ⟨principal, -, h⟩ := Attempt.bind_eq_ok.1 h
  rcases hcall : parseCatalogManagementCall sql with _ | name
  · rw [hcall] at h
    obtain ⟨created, -, h⟩ := Attempt.bind_eq_ok.1 h
    rcases created with _ | partitioned
    · obtain ⟨⟨statement, text⟩, hone, h⟩ := Attempt.bind_eq_ok.1 h
      exact Or.inr ⟨statement, text, principal.userId, hone, h⟩
    · cases h
      exact Or.inl ⟨_, rfl, fun p hM => hM.createRangePartitionedTable _ _⟩
  · rw [hcall] at h
    obtain ⟨_, -, h⟩ := Attempt.bind_eq_ok.1 h
    obtain ⟨m, hm, h⟩ := Attempt.bind_eq_ok.1 h
    cases h
    exact Or.inl ⟨m, rfl, fun p hM => of_managementCall hM hm⟩

lemma of_writeTarget {username : String} {sql : List Char} {c : Catalog} {m : Mutation P}
    {affected : ℕ → Option ℕ} {p : Mutation P → Prop} (hM : M.All p)
    (h : writeTarget M Q username sql c = .ok (.mutation m affected)) : p m := by
  rcases writeTarget_eq_ok h with ⟨m', heq, hm'⟩ | ⟨statement, text, owner, -, htarget⟩
  · cases heq
    exact hm' p hM
  · rw [(statementTarget_mutation htarget).1]
    exact hM.statement _ _ _

/-- A write is refused whatever the mutations are. -/
lemma writeTarget_error (M' : Mutations P) {username : String} {sql : List Char} {c : Catalog}
    {e : String} (h : writeTarget M Q username sql c = .error e) :
    writeTarget M' Q username sql c = .error e := by
  unfold writeTarget at h ⊢
  simp only [bind, Except.bind] at h ⊢
  rcases hprincipal : principalForUsername c username with e' | principal
  · rw [hprincipal] at h
    exact h
  rw [hprincipal] at h
  dsimp only at h ⊢
  rcases hcall : parseCatalogManagementCall sql with _ | name
  · rw [hcall] at h
    dsimp only at h ⊢
    rcases hcreate : parseManagedPartitionCreate sql with e' | _ | partitioned
    · rw [hcreate] at h
      exact h
    · rw [hcreate] at h
      dsimp only at h ⊢
      rcases hone : parseOneStatement Q sql with e' | ⟨statement, text⟩
      · rw [hone] at h
        exact h
      · rw [hone] at h
        exact statementTarget_error M' h
    · rw [hcreate] at h
      cases h
  · rw [hcall] at h
    dsimp only at h ⊢
    rcases hallowed : requireSystemAction c principal .manageCatalog with e' | _
    · rw [hallowed] at h
      exact h
    · rw [hallowed] at h
      dsimp only at h ⊢
      rcases hm : managementCall M name sql with e' | m
      · rw [hm] at h
        rw [managementCall_error M' hm]
        exact h
      · rw [hm] at h
        cases h

variable (M Q)

lemma exec_executeCatalogStatement (statement : Statement) (sql : List Char) (owner : ℤ)
    (s : Session (Db P)) :
    exec (executeCatalogStatement M refuse statement sql owner) s =
      match statementTarget M statement sql owner with
      | .error e => (.error e, s)
      | .ok target => exec (target.run refuse) s := by
  have hleft : exec (do fromExcept (guardExternalSql sql); return (none : Option ℕ)) s =
      match (do guardExternalSql sql; return .engine : Except String (WriteTarget P)) with
      | .error e => (.error e, s)
      | .ok target => exec (target.run refuse) s := by
    rw [exec_bind, exec_fromExcept]
    rcases guardExternalSql sql with e | ⟨⟩
    · rfl
    · rfl
  unfold executeCatalogStatement statementTarget
  split_ifs with hmutation
  · rfl
  · split
    · split_ifs
      · rfl
      · exact hleft
    · exact hleft

/-- A write runs where it goes, and a write that is refused changes nothing. -/
lemma exec_executeCatalogAwareWriteAs (username : String) (sql : List Char)
    (s : Session (Db P)) :
    exec (executeCatalogAwareWriteAs M Q refuse username sql) s =
      match writeTarget M Q username sql s.now.cat with
      | .error e => (.error e, s)
      | .ok target => exec (target.run refuse) s := by
  unfold executeCatalogAwareWriteAs writeTarget
  simp only [exec_bind, exec_get, exec_fromExcept]
  rcases principalForUsername s.now.cat username with e | principal
  · rfl
  simp only [bind, Except.bind]
  rcases parseCatalogManagementCall sql with _ | name
  · rcases parseManagedPartitionCreate sql with e | _ | partitioned
    · rfl
    · rcases parseOneStatement Q sql with e | ⟨statement, text⟩
      · rfl
      · exact exec_executeCatalogStatement M refuse statement text principal.userId s
    · rfl
  · dsimp only
    rcases requireSystemAction s.now.cat principal .manageCatalog with e | ⟨⟩
    · rfl
    · rcases managementCall M name sql with e | m
      · rfl
      · rfl

end WriteTarget

/-! ### What a mutation leaves -/

section Settles

variable {P : Type} (M : Mutations P) (Q : SqlParser) (refuse : Db P → Option String)
  {s : Session (Db P)}

/-- The mutation's transaction does not unwind from the database. -/
def Mutation.Calm (m : Mutation P) (d : Db P) : Prop :=
  ∀ b, m d = .ok (some b) → b.unwinds d = none

lemma exec_mutation (m : Mutation P) (s : Session (Db P)) :
    exec (m.exec refuse) s =
      match m s.now with
      | .error e => (.error e, s)
      | .ok none => (.ok 0, s)
      | .ok (some b) => exec (runCatalogTx refuse b) s := by
  unfold Mutation.exec
  simp only [exec_bind, exec_get, exec_fromExcept]
  rcases m s.now with e | _ | b
  · rfl
  · rfl
  · rfl

lemma settles_mutation {m : Mutation P} (hs : s.saved = none) (hm : m.Calm s.now) :
    Session.Settles id (m.exec refuse) s := by
  unfold Session.Settles
  rw [exec_mutation]
  rcases hb : m s.now with e | _ | b
  · exact ⟨hs, fun _ _ => rfl⟩
  · exact ⟨hs, fun _ _ => rfl⟩
  · exact Session.settles_bracket _ b hs (hm b hb)

/-- A mutation that ran is one whose transaction did. -/
lemma runs_mutation {m : Mutation P} {n : ℕ} {t : Session (Db P)} (hm : m.Calm s.now)
    (h : Runs (m.exec refuse) s n t) :
    t = s ∨ ∃ b, m s.now = .ok (some b) ∧ Runs b.run s.now n t.now ∧
      t = { s with now := t.now } := by
  unfold Runs at h
  rw [exec_mutation] at h
  rcases hb : m s.now with e | _ | b
  · rw [hb] at h
    cases h
  · rw [hb] at h
    cases h
    exact Or.inl rfl
  · rw [hb] at h
    refine Or.inr ⟨b, rfl, ?_⟩
    rcases Session.exec_bracket (catalogTransactions refuse) b s with
      ⟨e, h'⟩ | ⟨n', t', -, hrun, h'⟩ | ⟨_, _, -, h', -⟩
    · simp [runCatalogTx, h'] at h
    · simp only [runCatalogTx, h', Prod.mk.injEq, Except.ok.injEq] at h
      obtain ⟨rfl, rfl⟩ := h
      exact ⟨hrun, rfl⟩
    · rw [hm b hb] at h'
      cases h'

/-- A mutation on a connection with no transaction open, whose engine commits: what it returns
and the database it leaves. -/
def Mutation.alone (m : Mutation P) (d : Db P) : Except String ℕ × Db P :=
  match Eff.exec (m.exec fun _ => none) ⟨d, none⟩ with
  | (r, s) => (r, s.now)

lemma alone_of_error {m : Mutation P} {d : Db P} {e : String} (hb : m d = .error e) :
    m.alone d = (.error e, d) := by
  unfold Mutation.alone
  rw [exec_mutation]
  simp only [hb]

lemma alone_of_none {m : Mutation P} {d : Db P} (hb : m d = .ok none) :
    m.alone d = (.ok 0, d) := by
  unfold Mutation.alone
  rw [exec_mutation]
  simp only [hb]

/-- A transaction is all or nothing. -/
lemma alone_eq {m : Mutation P} {d : Db P} {b : Session.Body (Db P) ℕ} (hm : m.Calm d)
    (hb : m d = .ok (some b)) :
    m.alone d = match exec b.run d with
      | (.ok n, t) => (.ok n, t)
      | (.error e, _) => (.error e, d) := by
  have hbracket : exec (runCatalogTx (fun _ => none) b) ⟨d, none⟩ =
      exec (Session.transact (catalogTransactions fun _ => none) b.run) ⟨d, none⟩ := by
    simp [exec, runCatalogTx, Session.bracket, hm b hb]
  unfold Mutation.alone
  rw [exec_mutation]
  simp only [hb, hbracket]
  rcases hrun : exec b.run d with ⟨e | n, t⟩
  · simp only [exec] at hrun
    simp [exec, Session.transact, hrun]
  · rw [Session.exec_transact_ok (s := ⟨d, none⟩) rfl hrun rfl]

/-- Either the transaction ran to its end, or the database is as it was and nobody counted. -/
lemma alone_cases {m : Mutation P} {d : Db P} (hm : m.Calm d) :
    (∃ b n t, m d = .ok (some b) ∧ Runs b.run d n t ∧ m.alone d = (.ok n, t)) ∨
      (∀ b n t, m d = .ok (some b) → ¬ Runs b.run d n t) ∧ (m.alone d).2 = d ∧
        ∀ n, (m.alone d).1 = .ok n → n = 0 ∧ m d = .ok none := by
  rcases hb : m d with e | _ | b
  · rw [alone_of_error hb]
    exact Or.inr ⟨(fun _ _ _ h _ => by cases h), rfl, fun _ h => by cases h⟩
  · rw [alone_of_none hb]
    exact Or.inr ⟨(fun _ _ _ h _ => by cases h), rfl, fun _ h => by cases h; exact ⟨rfl, rfl⟩⟩
  · rw [alone_eq hm hb]
    rcases hrun : exec b.run d with ⟨e | n, t⟩
    · refine Or.inr ⟨fun b' n' t' h h' => ?_, rfl, fun _ h => by cases h⟩
      cases h
      rw [Runs, hrun] at h'
      simp at h'
    · exact Or.inl ⟨b, n, t, rfl, hrun, rfl⟩

/-- A mutation that fails leaves the database as it was. -/
lemma alone_of_failed {m : Mutation P} {d t : Db P} {e : String} (hm : m.Calm d)
    (h : m.alone d = (.error e, t)) : t = d := by
  rcases alone_cases hm with ⟨b, n, t', -, -, halone⟩ | ⟨-, hdb, -⟩
  · cases halone.symm.trans h
  · rw [← hdb, h]

/-- A mutation that returns a count and is not one to skip has run its transaction. -/
lemma runs_of_alone {m : Mutation P} {d t : Db P} {n : ℕ} (hm : m.Calm d)
    (hsome : m d ≠ .ok none) (h : m.alone d = (.ok n, t)) :
    ∃ b, m d = .ok (some b) ∧ Runs b.run d n t := by
  rcases alone_cases hm with ⟨b, n', t', hb, hrun, halone⟩ | ⟨-, -, hnone⟩
  · cases halone.symm.trans h
    exact ⟨b, hb, hrun⟩
  · exact absurd (hnone n (by rw [h])).2 hsome

lemma alone_of_runs {m : Mutation P} {d t : Db P} {b : Session.Body (Db P) ℕ} {n : ℕ}
    (hm : m.Calm d) (hb : m d = .ok (some b)) (hrun : Runs b.run d n t) :
    m.alone d = (.ok n, t) := by
  rw [alone_eq hm hb, hrun]

/-! ### What a write leaves -/

namespace WriteTarget

/-- A transaction is begun, and unwinds. -/
def Unwinds (d : Db P) : WriteTarget P → Prop
  | .engine => False
  | .mutation m _ => ¬ m.Calm d

/-- A transaction that is committed leaves nothing to the engine: an `INSERT` into a partitioned table
has rows. -/
def Completes (d : Db P) : WriteTarget P → Prop
  | .engine => True
  | .mutation m affected => ∀ b n t, m d = .ok (some b) → Runs b.run d n t → affected n ≠ none

variable {target : WriteTarget P}

lemma settles_run (hs : s.saved = none) (h : ¬ target.Unwinds s.now) :
    Session.Settles id (target.run refuse) s := by
  cases target with
  | engine => exact Session.settles_fromExcept hs (.ok none)
  | mutation m affected =>
    exact Session.settles_bind_pure _ (settles_mutation refuse hs (not_not.1 h))

/-- What is left to the engine has changed nothing so far. -/
lemma eq_of_runs_none {t : Session (Db P)} (h : ¬ target.Unwinds s.now)
    (hcomplete : target.Completes s.now) (hrun : Runs (target.run refuse) s none t) : t = s := by
  cases target with
  | engine => exact (runs_pure.1 hrun).2
  | mutation m affected =>
    obtain ⟨n, t', hm, hret⟩ := runs_bind.1 hrun
    obtain ⟨hnone, rfl⟩ := runs_pure.1 hret
    rcases runs_mutation refuse (not_not.1 h) hm with rfl | ⟨b, hb, hbody, -⟩
    · rfl
    · exact absurd hnone.symm (hcomplete b n _ hb hbody)

end WriteTarget

end Settles

end Rsduck.Catalog
