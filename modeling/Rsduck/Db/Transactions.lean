import Rsduck.Db.EngineReading
import Rsduck.Db.Handed
import Rsduck.Mysql.TextRow

/-!
What a command of the write worker leaves on its connection.

Mutations and vector batches bring their own transactions. What else the connection runs are texts
that the engine gets as they are; the engine runs one that stands alone as a transaction of its own.
A computation that unwinds inside its transaction leaves it open; up to there, each command ends
outside of any.
-/

namespace Rsduck.Db

open Lib Lib.Eff Lib.Text Catalog Mysql Session

section Transactions

variable {C : Crates} {P K : Type} (W : Workers C P K) (R : EngineReading P K)

/-- The part of a connection that transactions are about. -/
abbrev view (s : Conn P K) : Session (Db P) := s.session

variable {s : Conn P K}

/-! ### What a command asks of the engine -/

/-- Where a write goes that has passed the guard. -/
def ownTarget (username : String) (sql : List Char) (d : Db P) : Option (WriteTarget P) :=
  match shortcut W.engine W.toService username d (trim sql),
      passGuard W.toService username d.cat (trim sql) with
  | .ok none, .ok () => (writeTarget W.mutations W.parser username (trim sql) d.cat).toOption
  | _, _ => none

/-- What the command opens only reads, what it executes stands alone, and an `INSERT` that has a
transaction has rows. -/
def Behaves (s : Conn P K) : SqlCommand → Prop
  | .runTyped username sql route _ =>
    (∀ text, openedText W username sql route s.session.now = some text → R.ReadsOnly s text) ∧
      (∀ text, executedText W username sql s.session.now = some text → R.StandsAlone text) ∧
      ∀ target, ownTarget W username sql s.session.now = some target →
        target.Completes s.session.now
  | .describe username sql route =>
    ∀ text, openedText W username sql route s.session.now = some text → R.ReadsOnly s text
  | _ => True

/-- The command begins a transaction, and the computation in it unwinds. -/
def Unwinds (s : Conn P K) : SqlCommand → Prop
  | .runTyped username sql _ _ => ∃ target,
    ownTarget W username sql s.session.now = some target ∧ target.Unwinds s.session.now
  | .importParquet username schema sources =>
    ¬ (W.importParquetTables username schema sources).Calm s.session.now
  | .createVectorIndex username request => ∃ owner b,
    authorizeVectorIndexManagement s.session.now.cat username = .ok owner ∧
      W.buildVectorIndex request owner s.session.now = .ok b ∧ b.unwinds s.session.now ≠ none
  | _ => False

lemma settles_onSession {α : Type} {m : Eff (Session (Db P)) α} (hm : Settles id m s.session) :
    Settles view (onSession m) s :=
  hm

/-! ### Statements -/

section Statements

variable {W R} (hquery : R.ReadsQuietly W.engine.query) (hexecute : R.Autocommits W.engine.execute)

include hquery in
lemma settles_queryTypedSqlBlocking {sql : List Char} (hs : s.session.saved = none)
    (h : R.ReadsOnly s sql) :
    Settles view (queryTypedSqlBlocking W.engine sql W.maxResultRows) s := by
  refine settles_bind_of_unchanged hs (hquery s sql h) fun opened _ => ?_
  split_ifs
  · exact settles_fromExcept hs (.error _)
  · rcases opened.failure with _ | e
    · exact settles_fromExcept hs (.ok _)
    · exact settles_fromExcept hs (.error e)

include hquery in
lemma settles_describeQuerySqlBlocking {sql : List Char} (hs : s.session.saved = none)
    (h : R.ReadsOnly s sql) : Settles view (describeQuerySqlBlocking W.engine sql) s :=
  settles_bind_of_unchanged hs (hquery s sql h) fun _ _ => settles_fromExcept hs (.ok _)

include hexecute in
lemma settles_execute {text : List Char} (hs : s.session.saved = none) (h : R.StandsAlone text) :
    Settles view (W.engine.execute text) s := by
  obtain ⟨m, hm⟩ := hexecute s text hs h
  obtain ⟨hresult, hsession⟩ := Prod.mk.inj hm
  have hsettles := settles_statement m hs
  unfold Settles at hsettles ⊢
  rw [show view (exec (W.engine.execute text) s).2 = _ from hsession, hresult]
  exact hsettles

include hexecute in
/-- A write runs where it goes; a text reaches the engine when nothing has changed yet. -/
lemma settles_executeWrite {username : String} {sql : List Char} (hs : s.session.saved = none)
    (hcut : shortcut W.engine W.toService username s.session.now (trim sql) = .ok none)
    (hguard : passGuard W.toService username s.session.now.cat (trim sql) = .ok ())
    (htexts : ∀ text, executedText W username sql s.session.now = some text → R.StandsAlone text)
    (hcomplete : ∀ target, ownTarget W username sql s.session.now = some target →
      target.Completes s.session.now)
    (hcalm : ∀ target, ownTarget W username sql s.session.now = some target →
      ¬ target.Unwinds s.session.now) :
    Settles view (executeWrite W.engine W.toService username (trim sql)) s := by
  unfold Settles executeWrite
  rw [exec_bind, exec_onSession, exec_executeCatalogAwareWriteAs]
  rcases htarget : writeTarget W.mutations W.parser username (trim sql) s.session.now.cat with
    e | target
  · exact ⟨hs, fun _ _ => rfl⟩
  have hown : ownTarget W username sql s.session.now = some target := by
    simp only [ownTarget, hcut, hguard, htarget, Except.toOption]
  obtain ⟨hidle, hfail⟩ := WriteTarget.settles_run W.engine.refuse hs (hcalm target hown)
  simp only
  rcases hrun : exec (target.run W.engine.refuse) s.session with ⟨e | affected, t⟩
  · rw [hrun] at hidle hfail
    exact ⟨hidle, fun _ _ => hfail e rfl⟩
  · rw [hrun] at hidle
    cases affected with
    | some n => exact ⟨hidle, fun _ he => by simp at he⟩
    | none =>
      have ht : t = s.session := WriteTarget.eq_of_runs_none W.engine.refuse (hcalm target hown)
        (hcomplete target hown) hrun
      subst ht
      have hleft : Runs (executeCatalogAwareWriteAs W.mutations W.parser W.engine.refuse username
          (trim sql)) s.session none s.session := by
        rw [Runs, exec_executeCatalogAwareWriteAs, htarget]
        exact hrun
      obtain ⟨statement, text, hparse, hengine⟩ := parse_of_runs hleft
      have htext : executedText W username sql s.session.now = some (trim sql) := by
        simp [executedText, hcut, hguard, hparse, hengine]
      exact settles_execute hexecute hs (htexts _ htext)

include hquery hexecute in
lemma settles_executeTypedSqlBlocking {username : String} {sql : List Char} {command : String}
    (hs : s.session.saved = none) (h : Behaves W R s (.runTyped username sql .write command))
    (hcalm : ¬ Unwinds W s (.runTyped username sql .write command)) :
    Settles view (executeTypedSqlBlocking W.engine W.toService username sql .write command
      W.maxResultRows) s := by
  obtain ⟨hopened, htexts, hcomplete⟩ := h
  unfold executeTypedSqlBlocking
  simp only
  by_cases hempty : trim sql = []
  · simp only [hempty, if_true]
    exact settles_fromExcept hs (.error _)
  simp only [hempty, if_false]
  refine settles_bind_of_unchanged hs rfl fun s' hs' => ?_
  obtain ⟨rfl, -⟩ := runs_get.1 hs'
  refine settles_bind_of_unchanged hs (by rw [exec_fromExcept]) fun cut hcut => ?_
  obtain ⟨hcut, -⟩ := runs_fromExcept.1 hcut
  rcases cut with _ | result | rewritten
  · refine settles_bind_of_unchanged hs (by rw [exec_fromExcept]) fun _ hguard => ?_
    obtain ⟨hguard, -⟩ := runs_fromExcept.1 hguard
    exact settles_bind_pure _ (settles_executeWrite hexecute hs hcut hguard htexts hcomplete
      fun target htarget hunwinds => hcalm ⟨target, htarget, hunwinds⟩)
  · exact settles_fromExcept hs (.ok _)
  · exact settles_queryTypedSqlBlocking hquery hs (hopened _ (by simp [openedText, hcut]))

include hquery in
lemma settles_describeSqlBlocking {username : String} {sql : List Char}
    (hs : s.session.saved = none) (h : Behaves W R s (.describe username sql .write)) :
    Settles view (describeSqlBlocking W.engine W.toService username sql .write) s := by
  unfold describeSqlBlocking
  simp only
  by_cases hempty : trim sql = []
  · simp only [hempty, if_true]
    exact settles_fromExcept hs (.error _)
  simp only [hempty, if_false]
  refine settles_bind_of_unchanged hs rfl fun s' hs' => ?_
  obtain ⟨rfl, -⟩ := runs_get.1 hs'
  refine settles_bind_of_unchanged hs (by rw [exec_fromExcept]) fun cut hcut => ?_
  obtain ⟨hcut, -⟩ := runs_fromExcept.1 hcut
  rcases cut with _ | result | rewritten
  · refine settles_bind_of_unchanged hs (by rw [exec_fromExcept]) fun _ _ => ?_
    exact settles_fromExcept hs (.ok _)
  · exact settles_fromExcept hs (.ok _)
  · exact settles_describeQuerySqlBlocking hquery hs (h _ (by simp [openedText, hcut]))

end Statements

/-! ### Vectors -/

/-- A batch: a lookup, checks, one transaction. -/
lemma settles_runBatch {ι : Type} (V : VectorEngine P) (vectorSpace : String)
    (check : VectorIndexStatus → Except String Unit)
    (item : VectorIndexStatus → ι → Eff (Db P) Bool) (items : List ι) {s : Session (Db P)}
    (hs : s.saved = none) :
    Settles id (do
      let index ← Session.statement (Db.onCatalog (vectorIndexStatus vectorSpace))
      ensure (index.buildStatus == .active) (indexStatusError index)
      fromExcept (check index)
      runVectorTransaction V index (item index) items) s := by
  refine settles_bind_of_unchanged hs ?_ fun index _ => ?_
  · rcases exec_vectorIndexStatus vectorSpace s with ⟨e, h⟩ | ⟨status, -, h⟩
    · rw [h]
    · rw [h]
  refine settles_bind_of_unchanged hs ?_ fun _ _ => ?_
  · by_cases hactive : (index.buildStatus == .active) = true
    · simp [ensure, hactive]
    · simp [ensure, hactive]
  refine settles_bind_of_unchanged hs (by rw [exec_fromExcept]) fun _ _ => ?_
  exact settles_transact _ _ hs

/-! ### Commands -/

def SqlCommand.isIndexMaintenance : SqlCommand → Bool
  | .rebuildVectorIndex _ _ | .compactVectorIndex _ _ => true
  | _ => false

/-- What a command leaves: the connection outside any transaction, and where the command failed
the database as it was, up to the failed status of an index under maintenance. -/
def EndsBetweenTransactions (s : Conn P K) (c : SqlCommand) : Prop :=
  (after W s c).session.saved = none ∧ ∀ e, (exec (handle W c) s).1 = .error e →
    (after W s c).session = s.session ∨
      c.isIndexMaintenance = true ∧
        ∃ indexOid, (after W s c).session = markFailed indexOid e s.session

lemma ends_of_settles {c : SqlCommand} (h : Settles view (handle W c) s) :
    EndsBetweenTransactions W s c :=
  ⟨h.1, fun e he => Or.inl (h.2 e he)⟩

lemma ends_of_failsMarked {c : SqlCommand} (hs : s.session.saved = none)
    (hc : c.isIndexMaintenance = true) {check : Except String ℤ}
    {work : Eff (Session (Db P)) VectorIndexStatus}
    (hhandle : exec (handle W c) s = exec (do
      let _ ← fromExcept check
      return .index (← onSession work)) s)
    (hwork : FailsMarked work s.session) : EndsBetweenTransactions W s c := by
  unfold EndsBetweenTransactions after
  rw [hhandle]
  simp only [exec_bind, exec_fromExcept]
  rcases check with e | owner
  · exact ⟨hs, fun _ _ => Or.inl rfl⟩
  · simp only [exec_onSession]
    obtain ⟨hidle, hfail⟩ := hwork
    rcases hw : exec work s.session with ⟨e | index, t⟩
    · rw [hw] at hidle hfail
      refine ⟨hidle, fun e' he' => ?_⟩
      have hee : e = e' := by simpa using he'
      subst hee
      rcases hfail e rfl with h | h
      · exact Or.inl h
      · exact Or.inr ⟨hc, h⟩
    · rw [hw] at hidle
      exact ⟨hidle, fun _ he => by simp at he⟩

section Runs

variable {W R} (hquery : R.ReadsQuietly W.engine.query) (hexecute : R.Autocommits W.engine.execute)

include hquery hexecute

/-- **One command** of the write worker. -/
theorem ends_betweenTransactions {c : SqlCommand} (hs : s.session.saved = none)
    (hc : c.toWriter = true) (h : Behaves W R s c) (hcalm : ¬ Unwinds W s c) :
    EndsBetweenTransactions W s c := by
  cases c with
  | runTyped username sql route command =>
    cases route with
    | read => cases hc
    | write =>
      exact ends_of_settles W (settles_bind_pure _
        (settles_executeTypedSqlBlocking hquery hexecute hs h hcalm))
  | authenticate request time =>
    exact ends_of_settles W (settles_bind_pure _ (settles_onSession (settles_statement _ hs)))
  | describe username sql route =>
    cases route with
    | read => cases hc
    | write =>
      exact ends_of_settles W (settles_bind_pure _ (settles_describeSqlBlocking hquery hs h))
  | importParquet username schema sources =>
    exact ends_of_settles W (settles_bind_pure _
      (settles_onSession (settles_mutation _ hs (not_not.1 hcalm))))
  | createVectorIndex username request =>
    refine ends_of_settles W (settles_bind_of_unchanged hs rfl fun d hd => ?_)
    refine settles_bind_of_unchanged hs (by rw [exec_fromExcept]) fun owner howner => ?_
    obtain ⟨howner, -⟩ := runs_fromExcept.1 howner
    refine settles_bind_of_unchanged hs (by rw [exec_fromExcept]) fun b hb => ?_
    obtain ⟨hb, -⟩ := runs_fromExcept.1 hb
    have hd : d = s.session.now := by
      have : exec (current (P := P) (K := K)) s = (.ok s.session.now, s) := rfl
      rw [Runs, this] at hd
      simpa using hd.symm
    subst hd
    refine settles_bind_pure _ (settles_onSession (settles_bracket _ b hs ?_))
    by_contra hunwinds
    exact hcalm ⟨owner, b, howner, hb, hunwinds⟩
  | vectorIndexStatus username vectorSpace => cases hc
  | vectorSearch username request => cases hc
  | vectorUpsert username request =>
    refine ends_of_settles W (settles_bind_of_unchanged hs
      (exec_authorizedIndex _ _ s) fun _ _ => settles_bind_pure _ (settles_onSession ?_))
    exact settles_runBatch _ _ (validateUpsertRequest request) (upsertVector _) request.items hs
  | vectorDelete username request =>
    refine ends_of_settles W (settles_bind_of_unchanged hs
      (exec_authorizedIndex _ _ s) fun _ _ => settles_bind_pure _ (settles_onSession ?_))
    exact settles_runBatch _ _ (fun _ => validateDeleteRequest request) (deleteVector _)
      request.items hs
  | rebuildVectorIndex username vectorSpace =>
    exact ends_of_failsMarked W hs rfl rfl (failsMarked_rebuildVectorIndex W.vectors vectorSpace hs)
  | compactVectorIndex username vectorSpace =>
    exact ends_of_failsMarked W hs rfl rfl (failsMarked_compactVectorIndex W.vectors vectorSpace hs)

omit hquery hexecute

variable (W R)

/-- Some command of the run unwinds inside its transaction. -/
def Unwound : Conn P K → List SqlCommand → Prop
  | _, [] => False
  | s, c :: cs => Unwinds W s c ∨ Unwound (after W s c) cs

/-- Until one unwinds, every command of the run is the write worker's and behaves where it is
handled. -/
def Regular : Conn P K → List SqlCommand → Prop
  | _, [] => True
  | s, c :: cs => c.toWriter = true ∧ Behaves W R s c ∧ (Unwinds W s c ∨ Regular (after W s c) cs)

variable {W R}

include hquery hexecute

end Runs

end Transactions

/-! ### A compaction that fails -/

/-- An engine that answers no text. -/
def silentEngine (P : Type) : DuckDb plainCrates P Unit where
  query _ s := (.error "not a query", s)
  execute _ s := (.error "not a statement", s)
  refuse _ := none
  readText _ _ := .ok ""
  partitionTimes _ := []

/-- A table that is replaced as a whole has the rows that it was given. -/
lemma rows_of_put (p : List VectorRow) (schema table column : String) (rs : List VectorRow) :
    (fun (_ : List VectorRow) (_ _ _ : String) (rows : List VectorRow) => rows) p schema table column
      rs = rs := rfl

/-- Vector indexes that cannot be compacted, over one table of vectors. -/
def fullIndexes : IndexEngine (List VectorRow) where
  rows p _ _ _ := p
  put _ _ _ _ rs := rs
  rows_put := rows_of_put
  uniqueKeys _ _ _ := [[.tenantId, .agentId, .memoryId]]
  uniqueKeys_put _ _ _ _ _ := rfl
  duplicateKey _ _ := "Constraint Error: Duplicate key"
  castFloatArray _ := .error "not a vector"
  refuse _ := none
  loadedVssVersion _ := .ok ""
  dropIndexIfExists _ p := .ok p
  createHnswIndex _ p := .ok p
  compactHnswIndex _ _ := .error "out of memory"

def fullWorkers : Workers plainCrates (List VectorRow) Unit where
  texts := default
  inconsistency _ := []
  parser := .knows (.other .set [])
  mutations := default
  engine := silentEngine _
  passwords := ⟨fun password hash => password == hash, fun _ _ _ => false⟩
  vectors := fullIndexes
  importParquetTables _ _ _ _ := .ok none
  buildVectorIndex _ _ _ := .error "not a table"
  maxResultRows := 100

/-- The vector space `v` has an active index on `main.t`; the user is `admin`. -/
def indexedCatalog : Catalog where
  rsUser := ⟨[⟨10, "admin", "secret", "argon2id", "caching_sha2_password", "", "active", true,
    none⟩], by simp⟩
  rsRole := ⟨[⟨20, "admin", "", true⟩], by simp⟩
  rsUserRole := ⟨[⟨10, 20, 10⟩], by simp⟩
  rsSchema := ⟨[⟨1, "main", 10, ""⟩], by simp⟩
  rsRelation := ⟨[⟨100, "t", 1, 0, 10, .table, "p", 1, 0, true, false, "", "", .active, ""⟩,
    ⟨101, "i", 1, 0, 10, .index, "p", 1, 0, false, false, "", "hnsw", .active, ""⟩], by decide⟩
  rsColumn := ⟨[⟨100, "embedding", 0, 1, -1, false, false, false, "", "", ""⟩], by simp⟩
  rsIndex := ⟨[⟨101, 100, 1, 1, false, false, true, "1", "", ""⟩], by simp⟩
  rsVectorIndex := ⟨[⟨101, "v", "", "", 1, .cosine, 16, 32, 128, 64, 1, 1, "", .active, 0, ""⟩],
    by simp⟩

def indexedConn : Conn (List VectorRow) Unit := ⟨⟨⟨indexedCatalog, []⟩, none⟩, ()⟩

lemma principal_admin :
    principalForUsername indexedCatalog "admin" = .ok ⟨10, "admin", ["admin"]⟩ := by
  change Except.ok (⟨10, "admin", ["admin"].mergeSort _⟩ : SessionPrincipal) = _
  rw [List.mergeSort_singleton]

lemma authorize_admin : authorizeVectorIndexManagement indexedCatalog "admin" = .ok 10 := by
  unfold authorizeVectorIndexManagement
  rw [principal_admin]
  rfl

lemma exec_compact_admin :
    exec (handle fullWorkers (.compactVectorIndex "admin" "v")) indexedConn =
      exec (do return .index (← onSession (compactVectorIndex fullIndexes "v"))) indexedConn := by
  have hcurrent : exec (current (P := List VectorRow) (K := Unit)) indexedConn =
      (.ok ⟨indexedCatalog, []⟩, indexedConn) := rfl
  unfold handle
  rw [exec_bind, hcurrent]
  simp only
  rw [exec_bind, exec_fromExcept, authorize_admin]
  rfl

/-- How an engine reads that knows no text. -/
def silentReading (P : Type) : EngineReading P Unit where
  parse _ := .error "syntax error"
  acts _ _ := False
  actsWhenRead _ _ := False

lemma readsQuietly_silentEngine (P : Type) :
    (silentReading P).ReadsQuietly (silentEngine P).query := by
  intro s text _
  rfl

lemma autocommits_silentEngine (P : Type) :
    (silentReading P).Autocommits (silentEngine P).execute := by
  intro s text _ _
  exact ⟨throw "not a statement", rfl⟩

end Rsduck.Db
