import Rsduck.Db.Worker

/-!
The texts that a command hands to the engine, and its own work.

Where the two stay inside a relation, the command does.
-/

namespace Rsduck.Db

open Lib Lib.Eff Lib.Text Catalog Mysql Sql

section Handed

variable {C : Crates} {P K : Type} (W : Workers C P K)

/-! ### Texts -/

/-- The text a statement opens, whether it is run or only described. -/
def openedText (username : String) (sql : List Char) (route : SqlRoute) (d : Db P) :
    Option (List Char) :=
  match shortcut W.engine W.toService username d (trim sql) with
  | .ok (some (.query rewritten)) => some rewritten
  | .ok none =>
    match route, passGuard W.toService username d.cat (trim sql) with
    | .read, .ok () => some (trim sql)
    | _, _ => none
  | _ => none

/-- A statement that is left to the engine, at least where it affects no rows. -/
def isLeftToEngine (statement : Statement) : Bool :=
  !isMutation statement || (leftToEngine statement 0).isNone

/-- The text of a write that is handed over as it is. -/
def executedText (username : String) (sql : List Char) (d : Db P) : Option (List Char) :=
  match shortcut W.engine W.toService username d (trim sql),
      passGuard W.toService username d.cat (trim sql) with
  | .ok none, .ok () =>
    match parseOneStatement W.parser (trim sql) with
    | .ok (statement, _) => if isLeftToEngine statement then some (trim sql) else none
    | .error _ => none
  | _, _ => none

/-- The texts of a vector search stay inside a relation. -/
structure SearchWithin (R : Conn P K → Conn P K → Prop) (request : VectorSearchRequest)
    (s : Conn P K) : Prop where
  set : ∀ efSearch t, R s t → Within R (W.engine.execute (setEfSearchSql efSearch)) t
  reset : ∀ t, R s t → Within R (W.engine.execute "RESET hnsw_ef_search;".toList) t
  search : ∀ index sql t, prepareSearch index request = .ok sql → R s t →
    Within R (W.engine.query sql) t

/-- The work of a write on the catalog, before its text is handed over if at all. -/
abbrev ownWrite (username : String) (sql : List Char) : Eff (Conn P K) (Option ℕ) :=
  onSession (executeCatalogAwareWriteAs W.mutations W.parser W.engine.refuse username (trim sql))

/-- The texts a command hands over stay inside a relation. -/
def TextsWithin (R : Conn P K → Conn P K → Prop) (s : Conn P K) : SqlCommand → Prop
  | .runTyped username sql route _ =>
    (∀ text, openedText W username sql route s.session.now = some text →
      Within R (W.engine.query text) s) ∧
    (route = .write → ∀ text, executedText W username sql s.session.now = some text →
      ∀ t, Runs (ownWrite W username sql) s none t → Within R (W.engine.execute text) t)
  | .describe username sql route =>
    ∀ text, openedText W username sql route s.session.now = some text →
      Within R (W.engine.query text) s
  | .vectorSearch _ request => SearchWithin W R request s
  | _ => True

/-- What a command does itself stays inside a relation. -/
def OwnWithin (R : Conn P K → Conn P K → Prop) (s : Conn P K) : SqlCommand → Prop
  | .runTyped username sql route _ => route = .write → Within R (ownWrite W username sql) s
  | .authenticate request time => Within R (onSession (Session.statement
      (Db.onCatalog (Catalog.authenticate W.passwords time request)))) s
  | .importParquet username schema sources => Within R (onSession
      ((W.importParquetTables username schema sources).exec W.engine.refuse)) s
  | .createVectorIndex _ request => ∀ owner b,
      W.buildVectorIndex request owner s.session.now = .ok b →
        Within R (onSession (runCatalogTx W.engine.refuse b)) s
  | .vectorUpsert _ request =>
    Within R (onSession (upsertVectorsBlocking W.vectors.toVectorEngine request)) s
  | .vectorDelete _ request =>
    Within R (onSession (deleteVectorsBlocking W.vectors.toVectorEngine request)) s
  | .rebuildVectorIndex _ vectorSpace =>
    Within R (onSession (Catalog.rebuildVectorIndex W.vectors vectorSpace)) s
  | .compactVectorIndex _ vectorSpace =>
    Within R (onSession (Catalog.compactVectorIndex W.vectors vectorSpace)) s
  | .describe _ _ _ | .vectorIndexStatus _ _ | .vectorSearch _ _ => True

variable {W} {R : Conn P K → Conn P K → Prop} [Frame R] {s : Conn P K}

/-- What is handed over after its mutation. -/
lemma isLeftToEngine_of_runs {statement : Statement} {sql : List Char} {owner : ℤ}
    {target : WriteTarget P} {s t : Session (Db P)}
    (h : statementTarget W.mutations statement sql owner = .ok target)
    (hrun : Runs (target.run W.engine.refuse) s none t) : isLeftToEngine statement = true := by
  unfold isLeftToEngine
  rcases target with _ | ⟨m, affected⟩
  · rcases hmutation : isMutation statement with _ | _
    · rfl
    · simp [statementTarget, hmutation] at h
  · obtain ⟨n, t', -, hret⟩ := runs_bind.1 hrun
    obtain ⟨hnone, -⟩ := runs_pure.1 hret
    obtain ⟨-, rfl, -⟩ := statementTarget_mutation h
    cases statement with
    | insert table parts => rfl
    | _ => cases hnone

lemma parse_of_runs {username : String} {sql : List Char} {s t : Session (Db P)}
    (h : Runs (executeCatalogAwareWriteAs W.mutations W.parser W.engine.refuse username sql) s
      none t) :
    ∃ statement text, parseOneStatement W.parser sql = .ok (statement, text) ∧
      isLeftToEngine statement = true := by
  rw [Runs, exec_executeCatalogAwareWriteAs] at h
  rcases htarget : writeTarget W.mutations W.parser username sql s.now.cat with e | target
  · rw [htarget] at h
    cases h
  · rw [htarget] at h
    rcases writeTarget_eq_ok htarget with ⟨m, rfl, -⟩ | ⟨statement, text, owner, hparse, hone⟩
    · obtain ⟨n, _, -, hret⟩ := runs_bind.1 (show Runs _ s none t from h)
      cases (runs_pure.1 hret).1
    · exact ⟨statement, text, hparse, isLeftToEngine_of_runs hone h⟩

/-! ### Reads -/

lemma within_opened {β : Type} {sql : List Char} {f : Opened C → Eff (Conn P K) β}
    (h : Within R (W.engine.query sql) s)
    (hf : ∀ opened t, ∃ x, exec (f opened) t = (x, t)) :
    Within R (W.engine.query sql >>= f) s := by
  refine within_bind h fun opened t _ => within_of_exec ?_
  obtain ⟨x, hx⟩ := hf opened t
  rw [hx]

lemma within_queryTypedSqlBlocking {sql : List Char} {maxResultRows : ℕ}
    (h : Within R (W.engine.query sql) s) :
    Within R (queryTypedSqlBlocking W.engine sql maxResultRows) s := by
  refine within_opened h fun opened t => ?_
  split_ifs
  · exact ⟨_, rfl⟩
  · rcases opened.failure with _ | e
    · exact ⟨_, rfl⟩
    · exact ⟨_, rfl⟩

lemma within_describeQuerySqlBlocking {sql : List Char}
    (h : Within R (W.engine.query sql) s) :
    Within R (describeQuerySqlBlocking W.engine sql) s :=
  within_opened h fun _ _ => ⟨_, rfl⟩

lemma within_executeTypedSqlBlocking {username : String} {sql : List Char} {route : SqlRoute}
    {command : String}
    (h : ∀ text, openedText W username sql route s.session.now = some text →
      Within R (W.engine.query text) s)
    (hwrite : route = .write →
      shortcut W.engine W.toService username s.session.now (trim sql) = .ok none →
      passGuard W.toService username s.session.now.cat (trim sql) = .ok () →
      Within R (executeWrite W.engine W.toService username (trim sql)) s) :
    Within R (executeTypedSqlBlocking W.engine W.toService username sql route command
      W.maxResultRows) s := by
  unfold executeTypedSqlBlocking
  simp only
  by_cases hempty : trim sql = []
  · simp only [hempty, if_true]
    exact within_fromExcept (.error _)
  simp only [hempty, if_false]
  refine within_bind (within_of_exec rfl) fun s' t hs' => ?_
  obtain ⟨rfl, rfl⟩ := runs_get.1 hs'
  refine within_bind (within_fromExcept _) fun cut t hcut => ?_
  obtain ⟨hcut, rfl⟩ := runs_fromExcept.1 hcut
  rcases cut with _ | result | rewritten
  · refine within_bind (within_fromExcept _) fun _ t hguard => ?_
    obtain ⟨hguard, rfl⟩ := runs_fromExcept.1 hguard
    cases route with
    | read => exact within_queryTypedSqlBlocking (h _ (by simp [openedText, hcut, hguard]))
    | write => exact within_bind_pure _ (hwrite rfl hcut hguard)
  · exact within_fromExcept (.ok _)
  · exact within_queryTypedSqlBlocking (h _ (by simp [openedText, hcut]))

lemma within_describeSqlBlocking {username : String} {sql : List Char} {route : SqlRoute}
    (h : ∀ text, openedText W username sql route s.session.now = some text →
      Within R (W.engine.query text) s) :
    Within R (describeSqlBlocking W.engine W.toService username sql route) s := by
  unfold describeSqlBlocking
  simp only
  by_cases hempty : trim sql = []
  · simp only [hempty, if_true]
    exact within_fromExcept (.error _)
  simp only [hempty, if_false]
  refine within_bind (within_of_exec rfl) fun s' t hs' => ?_
  obtain ⟨rfl, rfl⟩ := runs_get.1 hs'
  refine within_bind (within_fromExcept _) fun cut t hcut => ?_
  obtain ⟨hcut, rfl⟩ := runs_fromExcept.1 hcut
  rcases cut with _ | result | rewritten
  · refine within_bind (within_fromExcept _) fun _ t hguard => ?_
    obtain ⟨hguard, rfl⟩ := runs_fromExcept.1 hguard
    cases route with
    | read =>
      exact within_describeQuerySqlBlocking (h _ (by simp [openedText, hcut, hguard]))
    | write => exact within_fromExcept (.ok _)
  · exact within_fromExcept (.ok _)
  · exact within_describeQuerySqlBlocking (h _ (by simp [openedText, hcut]))

/-! ### Vector searches -/

lemma within_vectorIndexStatus (vectorSpace : String) :
    Within R (onSession (Session.statement (Db.onCatalog
      (Catalog.vectorIndexStatus vectorSpace)))) s := by
  refine within_of_exec ?_
  rw [exec_onSession]
  rcases exec_vectorIndexStatus vectorSpace s.session with ⟨e, h⟩ | ⟨index, -, h⟩
  · rw [h]
  · rw [h]

lemma within_queryVectorMatches {sql : List Char}
    (h : Within R (W.engine.query sql) s) :
    Within R (queryVectorMatches W.engine sql) s := by
  exact within_bind (within_mapError _ h) fun opened t _ => within_fromExcept _

lemma within_runSearch {index : VectorIndexStatus} {request : VectorSearchRequest}
    {sql : List Char} (h : SearchWithin W R request s)
    (hsql : prepareSearch index request = .ok sql) :
    Within R (runSearch W.engine index request sql) s := by
  unfold runSearch
  split_ifs with hann
  · have hset := h.set (request.efSearch.getD index.defaultEfSearch) s (Frame.refl s)
    refine within_bind (within_mapError _ hset) fun _ t ht => ?_
    have ht : R s t := hset.of_runs (runs_mapError.1 ht)
    have hquery := within_attempt (within_queryVectorMatches (h.search index sql t hsql ht))
    refine within_bind hquery fun result u hu => ?_
    have hu : R s u := Frame.trans ht (hquery.of_runs hu)
    refine within_bind (within_attempt (within_mapError _ (h.reset u hu))) fun reset v _ => ?_
    refine within_bind (within_fromExcept result) fun rows _ _ => ?_
    exact within_bind (within_fromExcept reset) fun _ _ _ => within_fromExcept (.ok rows)
  · exact within_queryVectorMatches (h.search index sql s hsql (Frame.refl s))

lemma within_searchVectorsBlocking {request : VectorSearchRequest}
    (h : SearchWithin W R request s) :
    Within R (searchVectorsBlocking W.engine request) s := by
  refine within_bind (within_fromExcept _) fun _ t hvalid => ?_
  obtain ⟨-, rfl⟩ := runs_fromExcept.1 hvalid
  refine within_bind (within_vectorIndexStatus _) fun index u hu => ?_
  have hut : u = t := by
    rcases exec_vectorIndexStatus request.vectorSpace t.session with ⟨e, h⟩ | ⟨index', -, h⟩
    · rw [Runs, exec_onSession, h] at hu
      simp at hu
    · rw [Runs, exec_onSession, h] at hu
      exact (congrArg Prod.snd hu).symm
  subst hut
  refine within_bind (within_fromExcept _) fun sql v hsql => ?_
  obtain ⟨hprepared, rfl⟩ := runs_fromExcept.1 hsql
  exact within_bind_pure _ (within_runSearch h hprepared)

/-! ### Commands -/

/-- A write hands its text over after its own work, if at all. -/
lemma within_executeWrite {username : String} {sql : List Char}
    (hcut : shortcut W.engine W.toService username s.session.now (trim sql) = .ok none)
    (hguard : passGuard W.toService username s.session.now.cat (trim sql) = .ok ())
    (hown : Within R (ownWrite W username sql) s)
    (htexts : ∀ text, executedText W username sql s.session.now = some text →
      ∀ t, Runs (ownWrite W username sql) s none t → Within R (W.engine.execute text) t) :
    Within R (executeWrite W.engine W.toService username (trim sql)) s := by
  refine within_bind hown fun affected t hrun => ?_
  cases affected with
  | some n => exact within_fromExcept (.ok n)
  | none =>
    have hexec := exec_onSession (K := K) (executeCatalogAwareWriteAs W.mutations W.parser
      W.engine.refuse username (trim sql)) s
    rw [show exec _ s = _ from hrun] at hexec
    obtain ⟨hnone, ht⟩ := Prod.ext_iff.1 hexec
    obtain ⟨statement, text, hparse, hleft⟩ := parse_of_runs (W := W) (s := s.session)
      (t := t.session) (Prod.ext hnone.symm (congrArg Conn.session ht).symm)
    have htext : executedText W username sql s.session.now = some (trim sql) := by
      simp [executedText, hcut, hguard, hparse, hleft]
    exact htexts _ htext t hrun

/-- An operation on an authorized index. -/
lemma within_authorizedIndex {β : Type} {right : Catalog → String → String → Except String Unit}
    {vectorSpace : String} {f : VectorIndexStatus → Eff (Conn P K) β}
    (hf : ∀ index, Within R (f index) s) :
    Within R (do f (← authorizedIndex right vectorSpace)) s := by
  have hexec := exec_authorizedIndex (K := K) right vectorSpace s
  refine within_bind (within_of_exec hexec) fun index t ht => ?_
  rw [show exec _ s = _ from ht] at hexec
  simp only at hexec
  subst hexec
  exact hf index

/-- Management of the vector indexes. -/
lemma within_management {β : Type} {username : String} {m : Eff (Conn P K) β}
    (hm : Within R m s) :
    Within R (do
      let _ ← fromExcept (authorizeVectorIndexManagement (← current).cat username)
      m) s := by
  refine within_bind (within_of_exec rfl) fun d t hd => ?_
  have hts : t = s := by
    have hexec := congrArg Prod.snd hd
    exact hexec.symm
  subst hts
  refine within_bind (within_fromExcept _) fun _ u hu => ?_
  obtain ⟨-, rfl⟩ := runs_fromExcept.1 hu
  exact hm

/-- **A command** stays inside a relation where its texts and its own work do. -/
theorem within_handle {c : SqlCommand} (htexts : TextsWithin W R s c) (hown : OwnWithin W R s c) :
    Within R (handle W c) s := by
  cases c with
  | runTyped username sql route command =>
    exact within_bind_pure _ (within_executeTypedSqlBlocking htexts.1 fun hroute hcut hguard =>
      within_executeWrite hcut hguard (hown hroute) (htexts.2 hroute))
  | authenticate request time => exact within_bind_pure _ hown
  | describe username sql route => exact within_bind_pure _ (within_describeSqlBlocking htexts)
  | importParquet username schema sources => exact within_bind_pure _ hown
  | createVectorIndex username request =>
    refine within_bind (within_of_exec rfl) fun d t hd => ?_
    obtain ⟨rfl, rfl⟩ : d = s.session.now ∧ t = s := by
      obtain ⟨hd, ht⟩ := Prod.ext_iff.1 hd
      exact ⟨(Except.ok.inj hd).symm, ht.symm⟩
    refine within_bind (within_fromExcept _) fun owner u hu => ?_
    obtain ⟨-, rfl⟩ := runs_fromExcept.1 hu
    refine within_bind (within_fromExcept _) fun b v hv => ?_
    obtain ⟨hb, rfl⟩ := runs_fromExcept.1 hv
    exact within_bind_pure _ (hown owner b hb)
  | vectorIndexStatus username vectorSpace =>
    exact within_management (within_bind_pure _ (within_vectorIndexStatus vectorSpace))
  | vectorSearch username request =>
    exact within_authorizedIndex fun _ => within_bind_pure _ (within_searchVectorsBlocking htexts)
  | vectorUpsert username request =>
    exact within_authorizedIndex fun _ => within_bind_pure _ hown
  | vectorDelete username request =>
    exact within_authorizedIndex fun _ => within_bind_pure _ hown
  | rebuildVectorIndex username vectorSpace => exact within_management (within_bind_pure _ hown)
  | compactVectorIndex username vectorSpace => exact within_management (within_bind_pure _ hown)

end Handed

end Rsduck.Db
