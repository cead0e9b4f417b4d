import Rsduck.Mysql.CommandLoop

/-!
A text sent as a query, and the same text prepared and executed.

A query is answered before its text is rewritten where it is a session statement or has an
emulated answer. A prepared text is not: the database is asked for it, and it is asked twice,
since the preparation opens the query that the execution opens again.
-/

namespace Rsduck.Mysql

open Lib Lib.Eff Lib.Text Catalog Db

variable {C : Crates} {P K : Type} (D : DuckDb C P K) (S : Service P)

/-- What a client is told, the encoding of the cells apart. -/
inductive Outcome (C : Crates)
  | error
  | affected (rows : ℕ)
  | rows (columns : List SqlColumn) (rows : List (List (SqlValue C)))

def outcome : Except String (SqlTypedResult C) → Outcome C
  | .error _ => .error
  | .ok (.execute _ affectedRows) => .affected affectedRows
  | .ok (.query columns rows) => .rows columns rows

lemma outcome_error (e : String) : outcome (C := C) (.error e) = .error := rfl

/-- Two runs tell the client the same and leave the same. -/
def SameRun {σ : Type} (x y : Except String (SqlTypedResult C) × σ) : Prop :=
  outcome x.1 = outcome y.1 ∧ x.2 = y.2

lemma sameRun_of_eq {σ : Type} {x y : Except String (SqlTypedResult C) × σ} (h : x = y) :
    SameRun x y := by
  rw [h]
  exact ⟨rfl, rfl⟩

lemma sameRun_errors {σ : Type} (e e' : String) (s : σ) :
    SameRun (C := C) (.error e, s) (.error e', s) := ⟨rfl, rfl⟩

lemma not_sameRun_error {σ : Type} (r : SqlTypedResult C) (e : String) (s t : σ) :
    ¬ SameRun (.ok r, s) (.error e, t) := by
  rintro ⟨h, -⟩
  cases r with
  | query => cases h
  | execute => cases h

/-! ### The two requests -/

/-- A session statement or an emulated one has an answer of its own. -/
def ownAnswer (C : Crates) (session : MySqlSession) (payload : List Char) :
    Option (SqlTypedResult C) :=
  if isMysqlSessionStatement (trim payload) then some (.execute "" 0)
  else mysqlCompatResult C (trim payload) session

/-- The text is cut on the way to the one that is run, with a panic where that is inside a
character. -/
def cutText (session : MySqlSession) (sql : List Char) : Except String Unit :=
  match slicedExecutionSql S.texts sql session with
  | .ok _ => .ok ()
  | .error _ => .error "panic"

variable (session : MySqlSession) (payload : List Char) (maxResultRows : ℕ)

/-- The database is asked for a text without parameters. -/
def askFor (text : List Char) : Eff (Conn P K) (SqlTypedResult C) :=
  executeTypedSqlWithParamsAs D S (String.ofList session.username) text [] maxResultRows

/-- `COM_QUERY`. -/
def textRequest : Eff (Conn P K) (SqlTypedResult C) :=
  match ownAnswer C session payload with
  | some result => pure result
  | none =>
    match slicedExecutionSql S.texts (trim payload) session with
    | .ok text => askFor D S session maxResultRows text
    | .error _ => throw "panic"

/-- `COM_STMT_PREPARE` of the text, and `COM_STMT_EXECUTE` of the statement with nothing after
its head. -/
def preparedRequest : Eff (Conn P K) (SqlTypedResult C) := do
  fromExcept (cutText S session (rewriteMysqlPlaceholders (trim payload)).1)
  let statement ← handleStmtPrepare D S session payload
  let ((params, _), _) ← fromExcept ((parseExecuteParams statement.paramCount []).run [])
  handleStmtExecute D S session statement params maxResultRows

/-- **Both have the same effect and the same outcome.** -/
def ProtocolsAgree (s : Conn P K) : Prop :=
  SameRun (exec (textRequest D S session payload maxResultRows) s)
    (exec (preparedRequest D S session payload maxResultRows) s)

/-! ### A text without parameters -/

lemma push_fst (text : List Char) (out : List Char × ℕ) : (push text out).1 = text ++ out.1 := rfl

lemma push_snd (text : List Char) (out : List Char × ℕ) : (push text out).2 = out.2 := rfl

lemma le_rewritePlaceholdersFrom (state : ScanState) (count : ℕ) (s : List Char) :
    count ≤ (rewritePlaceholdersFrom state count s).2 := by
  fun_induction rewritePlaceholdersFrom state count s <;> simp only [push_snd] <;> omega

/-- Where no placeholder is found, the text stays as it is. -/
lemma rewritePlaceholdersFrom_fst (state : ScanState) (count : ℕ) (s : List Char)
    (h : (rewritePlaceholdersFrom state count s).2 = count) :
    (rewritePlaceholdersFrom state count s).1 = s := by
  fun_induction rewritePlaceholdersFrom state count s with
  | case1 => rfl
  | case4 count r hline hblock ih =>
    have hle := le_rewritePlaceholdersFrom .normal (count + 1) r
    rw [push_snd] at h
    omega
  | _ =>
    rename_i ih
    rw [push_snd] at h
    rw [push_fst, ih h]
    rfl

lemma numbered_eq {payload : List Char} (h : (rewriteMysqlPlaceholders (trim payload)).2 = 0) :
    (rewriteMysqlPlaceholders (trim payload)).1 = trim payload :=
  rewritePlaceholdersFrom_fst .normal 0 (trim payload) h

lemma parseExecuteParams_zero :
    (parseExecuteParams 0 []).run [] = .ok (([], []), []) := rfl

/-- A statement with parameters cannot be executed without them. -/
lemma parseExecuteParams_pos {paramCount : ℕ} (h : paramCount ≠ 0) :
    ∃ e, (parseExecuteParams paramCount []).run [] = .error e := by
  have hbitmap : 0 < (paramCount + 7) / 8 := by omega
  refine ⟨truncated, ?_⟩
  unfold parseExecuteParams
  simp [h, bind, StateT.bind, Except.bind, StateT.run, Lib.Wire.Reader.take, hbitmap]

/-! ### When the two agree -/

/-- The way of the text, sent as it is. -/
def ownWay (s : Conn P K) : Except String (Way C) :=
  wayOf D S (String.ofList session.username) s.session.now
    (mysqlExecutionSql S.texts (trim payload) session) []

/-- The text is refused before it reaches the engine or a mutation. -/
def Refused (s : Conn P K) : Prop :=
  ∀ way, ownWay D S session payload s = .ok way → ∃ sql command e, way = .write sql command ∧
    writeTarget S.mutations S.parser (String.ofList session.username) sql s.session.now.cat =
      .error e

/-- What is opened on the way only reads. -/
def ReadsAlong (R : EngineReading P K) (s : Conn P K) (way : Except String (Way C)) : Prop :=
  ∀ sql, way = .ok (.query sql) → R.ReadsOnly s sql

/-- A text without placeholders only reads if it is opened, or it has an emulated answer and the
prepared statement gets the same without the engine. A text in which placeholders are found is
refused, and what its preparation opens only reads. -/
def AgreesWhen (R : EngineReading P K) (s : Conn P K) : Prop :=
  if (rewriteMysqlPlaceholders (trim payload)).2 ≠ 0 then
    ownAnswer C session payload = none ∧
      (cutText S session (trim payload) = .ok () → Refused D S session payload s) ∧
      (cutText S session (rewriteMysqlPlaceholders (trim payload)).1 = .ok () →
        ReadsAlong R s (preparedWay D S session payload s))
  else
    match ownAnswer C session payload with
    | some result => cutText S session (trim payload) = .ok () ∧
        ∃ r, ownWay D S session payload s = .ok (.answer r) ∧ outcome (.ok r) = outcome (.ok result)
    | none => cutText S session (trim payload) = .ok () →
        ReadsAlong R s (ownWay D S session payload s)

variable {session payload}

/-- Without placeholders the text is described and then run as it is. -/
lemma exec_preparedRequest (h : (rewriteMysqlPlaceholders (trim payload)).2 = 0)
    (s : Conn P K) :
    exec (preparedRequest D S session payload maxResultRows) s =
      match cutText S session (trim payload) with
      | .error e => (.error e, s)
      | .ok _ =>
        match ownWay D S session payload s with
        | .error e => (.error e, s)
        | .ok way =>
          match exec (way.describe D) s with
          | (.error e, t) => (.error e, t)
          | (.ok _, t) => exec (askFor D S session maxResultRows
              (mysqlExecutionSql S.texts (trim payload) session)) t := by
  have htext : preparedText S session payload =
      (mysqlExecutionSql S.texts (trim payload) session, 0) := by
    unfold preparedText
    simp only [numbered_eq h, h]
  unfold preparedRequest
  rw [numbered_eq h, exec_bind, exec_fromExcept]
  rcases cutText S session (trim payload) with e | ⟨⟩
  · rfl
  · simp only
    rw [exec_bind]
    unfold handleStmtPrepare
    rw [htext]
    simp only [exec_bind, exec_describeSqlWithParamsAs]
    have hdummy : dummyParamsForDescribe (mysqlExecutionSql S.texts (trim payload) session) 0 =
        [] := rfl
    rw [hdummy]
    unfold ownWay
    rcases wayOf D S (String.ofList session.username) s.session.now
      (mysqlExecutionSql S.texts (trim payload) session) [] with e | way
    · rfl
    · simp only
      rcases exec (way.describe D) s with ⟨_ | columns, t⟩
      · rfl
      · simp only [exec_pure, parseExecuteParams_zero, exec_fromExcept, handleStmtExecute, askFor]

/-- With placeholders the execution fails where the preparation has not. -/
lemma exec_preparedRequest_of_placeholders (h : (rewriteMysqlPlaceholders (trim payload)).2 ≠ 0)
    (s : Conn P K) :
    ∃ e, exec (preparedRequest D S session payload maxResultRows) s =
      (.error e, (exec (do
        fromExcept (cutText S session (rewriteMysqlPlaceholders (trim payload)).1)
        handleStmtPrepare D S session payload) s).2) := by
  obtain ⟨e, herror⟩ := parseExecuteParams_pos h
  unfold preparedRequest
  rw [exec_bind, exec_bind, exec_fromExcept]
  rcases cutText S session (rewriteMysqlPlaceholders (trim payload)).1 with e | ⟨⟩
  · exact ⟨e, rfl⟩
  · simp only
    rw [exec_bind]
    unfold handleStmtPrepare preparedText
    simp only [exec_bind]
    rcases exec (describeSqlWithParamsAs D S (String.ofList session.username) _ _) s with
      ⟨e | columns, t⟩
    · exact ⟨e, rfl⟩
    · refine ⟨e, ?_⟩
      simp only [exec_pure, herror, exec_fromExcept]

variable (session payload) in
/-- What the database does with a text, by its way. -/
lemma exec_askFor (s : Conn P K) :
    exec (askFor D S session maxResultRows
      (mysqlExecutionSql S.texts (trim payload) session)) s =
      match ownWay D S session payload s with
      | .ok way => exec (way.execute D S maxResultRows (String.ofList session.username)) s
      | .error e => (.error e, s) := by
  unfold askFor ownWay
  refine (exec_executeTypedSqlWithParamsAs ..).trans ?_
  generalize wayOf D S (String.ofList session.username) s.session.now _ _ = way
  rcases way with e | way
  · rfl
  · rfl

/-- A text without an answer of its own goes its way. -/
lemma exec_textRequest (hown : ownAnswer C session payload = none) (s : Conn P K) :
    exec (textRequest D S session payload maxResultRows) s =
      match cutText S session (trim payload) with
      | .error e => (.error e, s)
      | .ok _ =>
        match ownWay D S session payload s with
        | .error e => (.error e, s)
        | .ok way => exec (way.execute D S maxResultRows (String.ofList session.username)) s := by
  unfold textRequest cutText
  rw [hown]
  simp only
  rcases hrun : slicedExecutionSql S.texts (trim payload) session with e | text
  · rfl
  · obtain rfl := slicedExecutionSql_eq S.texts (trim payload) session hrun
    simp only
    rw [exec_askFor]
    rcases ownWay D S session payload s with e | way
    · rfl
    · rfl

lemma exec_textRequest_own {result : SqlTypedResult C}
    (hown : ownAnswer C session payload = some result) (s : Conn P K) :
    exec (textRequest D S session payload maxResultRows) s = (.ok result, s) := by
  unfold textRequest
  rw [hown]
  rfl

/-! ### Engines that refuse, and engines that oblige -/

/-- Mutations that are refused. -/
def refusing (P : Type) : Mutations P where
  statement _ _ _ _ := .error "refused"
  createRangePartitionedTable _ _ _ := .error "refused"
  runPartitionMaintenance _ _ := .error "refused"
  markPartitionUnavailable _ _ _ _ _ := .error "refused"
  repairPartition _ _ _ _ := .error "refused"

lemma all_refusing (P : Type) : (refusing P).All fun m => ∀ d, m d = .error "refused" :=
  ⟨fun _ _ _ _ => rfl, fun _ _ _ => rfl, fun _ _ => rfl, fun _ _ _ _ _ => rfl, fun _ _ _ _ => rfl⟩

lemma all_default (P : Type) : (default : Mutations P).All fun m => ∀ d, m d = .ok none :=
  ⟨fun _ _ _ _ => rfl, fun _ _ _ => rfl, fun _ _ => rfl, fun _ _ _ _ _ => rfl, fun _ _ _ _ => rfl⟩

section Writes

variable {S}

lemma exec_executeWrite_of_error {username : String} {sql : List Char} {s : Conn P K} {e : String}
    (h : writeTarget S.mutations S.parser username sql s.session.now.cat = .error e) :
    exec (executeWrite D S username sql) s = (.error e, s) := by
  unfold executeWrite
  rw [exec_bind, exec_onSession, exec_executeCatalogAwareWriteAs, h]

/-- A write fails where the mutations and the engine refuse. -/
lemma exec_executeWrite_refusing (username : String) (sql : List Char) (s : Conn P K)
    (hM : S.mutations = refusing P) (hD : ∀ sql, D.execute sql = throw "refused") :
    ∃ e t, exec (executeWrite D S username sql) s = (.error e, t) := by
  unfold executeWrite
  rw [exec_bind, exec_onSession, exec_executeCatalogAwareWriteAs]
  rcases htarget : writeTarget S.mutations S.parser username sql s.session.now.cat with
    e | _ | ⟨m, affected⟩
  · exact ⟨e, _, rfl⟩
  · simp only [WriteTarget.run, exec_pure, hD]
    exact ⟨"refused", _, rfl⟩
  · have hm : ∀ d, m d = .error "refused" := of_writeTarget (hM ▸ all_refusing P) htarget
    simp only [WriteTarget.run, exec_bind, exec_mutation, hm]
    exact ⟨"refused", _, rfl⟩

/-- A write that is not refused succeeds where the mutations find nothing to do and the engine
obliges. -/
lemma exec_executeWrite_default (username : String) (sql : List Char) (s : Conn P K)
    (hM : S.mutations = default) (hD : ∀ sql, D.execute sql = pure 0)
    (h : ∀ e, writeTarget S.mutations S.parser username sql s.session.now.cat ≠ .error e) :
    ∃ n t, exec (executeWrite D S username sql) s = (.ok n, t) := by
  unfold executeWrite
  rw [exec_bind, exec_onSession, exec_executeCatalogAwareWriteAs]
  rcases htarget : writeTarget S.mutations S.parser username sql s.session.now.cat with
    e | _ | ⟨m, affected⟩
  · exact absurd htarget (h e)
  · simp only [WriteTarget.run, exec_pure, hD]
    exact ⟨0, _, rfl⟩
  · have hm : ∀ d, m d = .ok none := of_writeTarget (hM ▸ all_default P) htarget
    simp only [WriteTarget.run, exec_bind, exec_mutation, hm, exec_pure]
    rcases affected 0 with _ | n
    · simp only [hD]
      exact ⟨0, _, rfl⟩
    · exact ⟨n, _, rfl⟩

end Writes

/-! ### The three kinds of texts -/

section Kinds

variable {D S} {R : EngineReading P K} {s : Conn P K}

/-- An emulated answer that the prepared statement gets too. -/
lemma agree_of_answer (h : (rewriteMysqlPlaceholders (trim payload)).2 = 0)
    {result r : SqlTypedResult C} (hown : ownAnswer C session payload = some result)
    (hcut : cutText S session (trim payload) = .ok ())
    (hway : ownWay D S session payload s = .ok (.answer r))
    (houtcome : outcome (.ok r) = outcome (.ok result)) :
    ProtocolsAgree D S session payload maxResultRows s := by
  have hrun := exec_askFor D S session payload maxResultRows s
  unfold ProtocolsAgree
  rw [exec_textRequest_own D S maxResultRows hown, exec_preparedRequest D S maxResultRows h, hcut,
    hway]
  simp only [Way.describe, exec_pure, hrun, hway, Way.execute]
  exact ⟨houtcome.symm, rfl⟩

/-- Where the engine and the mutations refuse, no other emulated answer is the prepared one. -/
lemma answer_of_agree (hquery : ∀ sql, D.query sql = throw "refused")
    (hexecute : ∀ sql, D.execute sql = throw "refused") (hM : S.mutations = refusing P)
    (h : (rewriteMysqlPlaceholders (trim payload)).2 = 0) {result : SqlTypedResult C}
    (hown : ownAnswer C session payload = some result)
    (hagree : ProtocolsAgree D S session payload maxResultRows s) :
    cutText S session (trim payload) = .ok () ∧
      ∃ r, ownWay D S session payload s = .ok (.answer r) ∧
        outcome (.ok r) = outcome (.ok result) := by
  have hrun := exec_askFor D S session payload maxResultRows s
  unfold ProtocolsAgree at hagree
  rw [exec_textRequest_own D S maxResultRows hown, exec_preparedRequest D S maxResultRows h]
    at hagree
  rcases hcut : cutText S session (trim payload) with e | ⟨⟩
  · rw [hcut] at hagree
    exact absurd hagree (not_sameRun_error _ _ _ _)
  refine ⟨rfl, ?_⟩
  rw [hcut] at hagree
  rcases hway : ownWay D S session payload s with e | r | sql | ⟨sql, command⟩
  · rw [hway] at hagree
    exact absurd hagree (not_sameRun_error _ _ _ _)
  · simp only [hway, Way.describe, exec_pure, hrun, Way.execute] at hagree
    exact ⟨r, rfl, hagree.1.symm⟩
  · simp only [hway, Way.describe, exec_describeQuerySqlBlocking, hquery, exec_throw] at hagree
    exact absurd hagree (not_sameRun_error _ _ _ _)
  · obtain ⟨e, t, hwrite⟩ := exec_executeWrite_refusing D
      (String.ofList session.username) sql s hM hexecute
    simp only [hway, Way.describe, exec_pure, hrun, Way.execute, exec_bind, hwrite] at hagree
    exact absurd hagree (not_sameRun_error _ _ _ _)

/-- A text without an answer of its own, whose query leaves the connection as it was. -/
lemma agree_of_unchanged (h : (rewriteMysqlPlaceholders (trim payload)).2 = 0)
    (hown : ownAnswer C session payload = none)
    (hreads : cutText S session (trim payload) = .ok () → ∀ sql,
      ownWay D S session payload s = .ok (.query sql) → (exec (D.query sql) s).2 = s) :
    ProtocolsAgree D S session payload maxResultRows s := by
  have hrun := exec_askFor D S session payload maxResultRows s
  unfold ProtocolsAgree
  rw [exec_textRequest D S maxResultRows hown, exec_preparedRequest D S maxResultRows h]
  rcases hcut : cutText S session (trim payload) with e | ⟨⟩
  · exact sameRun_errors e e s
  rcases hway : ownWay D S session payload s with e | r | sql | ⟨sql, command⟩
  · exact sameRun_errors e e s
  · simp only [Way.describe, exec_pure, hrun, hway]
    exact sameRun_of_eq rfl
  · have hsame := hreads hcut sql hway
    simp only [Way.describe, exec_describeQuerySqlBlocking, Way.execute]
    rcases hopen : exec (D.query sql) s with ⟨e | opened, t⟩
    · rw [hopen] at hsame
      simp only at hsame
      subst hsame
      simp only [queryTypedSqlBlocking, exec_bind, hopen]
      exact sameRun_errors e e t
    · rw [hopen] at hsame
      simp only at hsame
      subst hsame
      simp only [hrun, hway, Way.execute]
      exact sameRun_of_eq rfl
  · simp only [Way.describe, exec_pure, hrun, hway]
    exact sameRun_of_eq rfl

lemma exec_queryTyped_restless (hquery : D.query = R.restless) (sql : List Char) (t : Conn P K) :
    exec (queryTypedSqlBlocking D sql maxResultRows) t =
      (.ok (.query (EngineReading.openColumns t) []), (exec (R.restless (C := C) sql) t).2) := by
  unfold queryTypedSqlBlocking
  rw [hquery, exec_bind]
  rfl

/-- A text that does more than read is answered otherwise the second time. -/
lemma reads_of_agree (hquery : D.query = R.restless)
    (h : (rewriteMysqlPlaceholders (trim payload)).2 = 0)
    (hown : ownAnswer C session payload = none)
    (hagree : ProtocolsAgree D S session payload maxResultRows s)
    (hcut : cutText S session (trim payload) = .ok ()) :
    ReadsAlong R s (ownWay D S session payload s) := by
  intro sql hway
  by_contra hreads
  have hstirred := R.exec_restless_of_not_readsOnly (C := C) hreads
  have hrun := exec_askFor D S session payload maxResultRows (EngineReading.stirred s)
  have hway' : ownWay D S session payload (EngineReading.stirred s) = .ok (.query sql) := hway
  unfold ProtocolsAgree at hagree
  rw [exec_textRequest D S maxResultRows hown, exec_preparedRequest D S maxResultRows h, hcut,
    hway] at hagree
  have hopen : exec (D.query sql) s =
      (.ok ⟨EngineReading.openColumns s, [], none⟩, EngineReading.stirred s) := by
    rw [hquery]
    exact Prod.ext rfl hstirred
  simp only [Way.describe, exec_describeQuerySqlBlocking, hopen, hrun, hway', Way.execute,
    exec_queryTyped_restless maxResultRows hquery] at hagree
  have hcolumns := congrArg List.length (Outcome.rows.inj hagree.1).1
  exact EngineReading.openColumns_stirred s hcolumns.symm

/-- What is prepared leaves the connection as it was. -/
lemma exec_cutPrepare_iff (D : DuckDb C P K) (S : Service P) (s : Conn P K) :
    (exec (do
        fromExcept (cutText S session (rewriteMysqlPlaceholders (trim payload)).1)
        handleStmtPrepare D S session payload) s).2 = s ↔
      (cutText S session (rewriteMysqlPlaceholders (trim payload)).1 = .ok () → ∀ sql,
        preparedWay D S session payload s = .ok (.query sql) → (exec (D.query sql) s).2 = s) := by
  rw [exec_bind, exec_fromExcept]
  rcases cutText S session (rewriteMysqlPlaceholders (trim payload)).1 with e | ⟨⟩
  · simp
  · simp [handleStmtPrepare_unchanged_iff]

lemma exec_textRequest_of_refused (hown : ownAnswer C session payload = none)
    (hrefused : cutText S session (trim payload) = .ok () → Refused D S session payload s) :
    ∃ e, exec (textRequest D S session payload maxResultRows) s = (.error e, s) := by
  rw [exec_textRequest D S maxResultRows hown]
  rcases hcut : cutText S session (trim payload) with e | ⟨⟩
  · exact ⟨e, rfl⟩
  rcases hway : ownWay D S session payload s with e | way
  · exact ⟨e, rfl⟩
  · obtain ⟨sql, command, e, rfl, he⟩ := hrefused hcut way hway
    refine ⟨e, ?_⟩
    simp only [Way.execute, exec_bind, exec_executeWrite_of_error D he]

/-- Where the engine obliges and the mutations find nothing to do, only what is refused fails. -/
lemma refused_of_error (hquery : D.query = R.restless) (hexecute : ∀ sql, D.execute sql = pure 0)
    (hM : S.mutations = default) (hown : ownAnswer C session payload = none)
    (hcut : cutText S session (trim payload) = .ok ())
    (herror : outcome (exec (textRequest D S session payload maxResultRows) s).1 = .error) :
    Refused D S session payload s := by
  rw [exec_textRequest D S maxResultRows hown, hcut] at herror
  intro way hway
  rw [hway] at herror
  cases way with
  | answer r =>
    cases r with
    | query => cases herror
    | execute => cases herror
  | query sql =>
    simp only [Way.execute, exec_queryTyped_restless maxResultRows hquery] at herror
    cases herror
  | write sql command =>
    by_contra hnot
    obtain ⟨n, t, hwrite⟩ := exec_executeWrite_default D (String.ofList session.username) sql s hM
      hexecute fun e he => hnot ⟨sql, command, e, rfl, he⟩
    simp only [Way.execute, exec_bind, hwrite, exec_pure] at herror
    cases herror

/-- A text in which placeholders are found: it is refused, and its preparation opens nothing or
leaves the connection as it was. -/
lemma agree_of_refused (h : (rewriteMysqlPlaceholders (trim payload)).2 ≠ 0)
    (hown : ownAnswer C session payload = none)
    (hrefused : cutText S session (trim payload) = .ok () → Refused D S session payload s)
    (hreads : cutText S session (rewriteMysqlPlaceholders (trim payload)).1 = .ok () → ∀ sql,
      preparedWay D S session payload s = .ok (.query sql) → (exec (D.query sql) s).2 = s) :
    ProtocolsAgree D S session payload maxResultRows s := by
  obtain ⟨e, hprepared⟩ := exec_preparedRequest_of_placeholders D S maxResultRows h s
  obtain ⟨e', htext⟩ := exec_textRequest_of_refused maxResultRows hown hrefused
  have hleft := (exec_cutPrepare_iff D S s).2 hreads
  unfold ProtocolsAgree
  rw [hprepared, htext, hleft]
  exact sameRun_errors e' e s

lemma of_agree_placeholders (hquery : D.query = R.restless)
    (hexecute : ∀ sql, D.execute sql = pure 0) (hM : S.mutations = default)
    (h : (rewriteMysqlPlaceholders (trim payload)).2 ≠ 0)
    (hagree : ProtocolsAgree D S session payload maxResultRows s) :
    ownAnswer C session payload = none ∧
      (cutText S session (trim payload) = .ok () → Refused D S session payload s) ∧
      (cutText S session (rewriteMysqlPlaceholders (trim payload)).1 = .ok () →
        ReadsAlong R s (preparedWay D S session payload s)) := by
  obtain ⟨e, hprepared⟩ := exec_preparedRequest_of_placeholders D S maxResultRows h s
  unfold ProtocolsAgree at hagree
  rw [hprepared] at hagree
  have hown : ownAnswer C session payload = none := by
    rcases hown : ownAnswer C session payload with _ | result
    · rfl
    · rw [exec_textRequest_own D S maxResultRows hown] at hagree
      exact absurd hagree (not_sameRun_error _ _ _ _)
  obtain ⟨houtcome, hleft⟩ := hagree
  rw [outcome_error] at houtcome
  have hrefused (hcut : cutText S session (trim payload) = .ok ()) :
      Refused D S session payload s :=
    refused_of_error maxResultRows hquery hexecute hM hown hcut houtcome
  obtain ⟨e', htext⟩ := exec_textRequest_of_refused maxResultRows hown hrefused
  rw [htext] at hleft
  dsimp only at hleft
  have hunchanged := (exec_cutPrepare_iff D S s).1 hleft.symm
  refine ⟨hown, hrefused, fun hcut sql hway => ?_⟩
  have hsame := hunchanged hcut sql hway
  by_contra hreads
  rw [hquery, R.exec_restless_of_not_readsOnly hreads] at hsame
  exact EngineReading.stirred_ne s hsame

end Kinds

lemma cutText_with (mutations : Mutations P) :
    cutText { S with mutations } session = cutText S session := by
  funext sql
  simp only [cutText]

variable (session payload) in
lemma ownWay_with (query : List Char → Eff (Conn P K) (Opened C))
    (execute : List Char → Eff (Conn P K) ℕ) (mutations : Mutations P) (s : Conn P K) :
    ownWay { D with query, execute } { S with mutations } session payload s =
      ownWay D S session payload s := by
  unfold ownWay
  rw [wayOf_with]

variable (session payload) in
lemma refused_with (query : List Char → Eff (Conn P K) (Opened C))
    (execute : List Char → Eff (Conn P K) ℕ) (mutations : Mutations P) (s : Conn P K) :
    Refused { D with query, execute } { S with mutations } session payload s ↔
      Refused D S session payload s := by
  unfold Refused
  rw [ownWay_with]
  refine forall₂_congr fun way _ => exists_congr fun sql => exists_congr fun command => ?_
  constructor
  · rintro ⟨e, hway, he⟩
    exact ⟨e, hway, writeTarget_error S.mutations he⟩
  · rintro ⟨e, hway, he⟩
    exact ⟨e, hway, writeTarget_error mutations he⟩

/-- Texts in which placeholders are found. -/
lemma agree_placeholders_iff (R : EngineReading P K) (s : Conn P K)
    (h : (rewriteMysqlPlaceholders (trim payload)).2 ≠ 0) :
    (∀ query execute mutations, R.ReadsQuietly query →
        ProtocolsAgree { D with query, execute } { S with mutations } session payload
          maxResultRows s) ↔
      ownAnswer C session payload = none ∧
        (cutText S session (trim payload) = .ok () → Refused D S session payload s) ∧
        (cutText S session (rewriteMysqlPlaceholders (trim payload)).1 = .ok () →
          ReadsAlong R s (preparedWay D S session payload s)) := by
  constructor
  · intro hagree
    have hoblige := of_agree_placeholders maxResultRows rfl (fun _ => rfl) rfl h
      (hagree R.restless (fun _ => pure 0) default R.readsQuietly_restless)
    rwa [cutText_with, refused_with, preparedWay_with] at hoblige
  · rintro ⟨hown, hrefused, hreads⟩ query execute mutations hquery
    refine agree_of_refused maxResultRows h hown ?_ ?_
    · rw [cutText_with, refused_with]
      exact hrefused
    · rw [cutText_with, preparedWay_with]
      exact fun hcut sql hway => hquery s sql (hreads hcut sql hway)

def beginText : List Char := "BEGIN".toList

/-- The one statement of its parser begins a transaction. -/
def beginService : Service ℕ :=
  { insertService with parser := .knows (.startTransaction true beginText) }

lemma rewriteSql_beginText (T : MetadataTexts) :
    rewriteSql T beginText "main".toList "u".toList = none := by
  have hdot : '.' ∉ beginText := by decide
  have hsystem : rewriteMysqlSystemSql T beginText = none := replaceRelations_of_dot _ _ hdot
  have hinformation : rewriteInformationSchemaSql T beginText "u".toList = none :=
    replaceRelations_of_dot _ _ hdot
  unfold rewriteSql
  rw [hsystem, hinformation]
  rfl

lemma mysqlExecutionSql_beginText (T : MetadataTexts) :
    mysqlExecutionSql T (trim beginText) ⟨"u".toList, []⟩ = beginText := by
  have htrim : trim beginText = beginText := by rfl
  have hcatalog : mysqlCatalogQuerySql T beginText ⟨"u".toList, []⟩ = none :=
    rewriteSql_beginText T
  have hlimit : rewriteMysqlLimitOffsetComma beginText = none := by rfl
  have hquoted : rewriteMysqlQuotedIdentifiers beginText = beginText := by rfl
  unfold mysqlExecutionSql
  have hnone : ((none : Option (List Char)) <|> none).getD beginText = beginText := rfl
  rw [htrim, hcatalog, hlimit, hnone, hquoted]

/-- A user without rights may not begin a transaction. -/
lemma ownWay_beginText :
    ownWay countingEngine beginService ⟨"u".toList, []⟩ beginText freshConn =
      .error "permission denied for statement type: SQL" := by
  have htrim : trim beginText = beginText := by rfl
  have hne : beginText ≠ [] := by decide
  have hroute : routeSql beginService.parser beginText = .ok ⟨.write, "BEGIN"⟩ := by rfl
  have hbind : bindSqlParams beginText [] = .ok beginText := bindSqlParams_self (by rfl)
  have hrequest : routeRequest beginService.parser beginText [] =
      .ok (beginText, ⟨.write, "BEGIN"⟩) := by
    simp only [routeRequest, htrim, hne, if_false, hbind]
    simp [hroute, bind, Except.bind, pure, Except.pure]
  have hguard : passGuard beginService "u" oneUser beginText =
      .error "permission denied for statement type: SQL" := by decide +kernel
  have hshortcut : shortcut countingEngine beginService "u" ⟨oneUser, 0⟩ beginText = .ok none := by
    have hcompat : compatResult plainCrates beginText = none := by rfl
    have hpartitions : showPartitionsResult countingEngine.partitionTimes oneUser "u" beginText =
        .ok none := by rfl
    have hdiagnostic : isReservedDiagnosticRead beginText = false := by rfl
    simp only [shortcut, hcompat, hpartitions, rewriteSql_beginText, hdiagnostic]
    rfl
  unfold ownWay wayOf
  rw [mysqlExecutionSql_beginText, hrequest]
  simp only [htrim, hne, if_false, String.ofList_toList, freshConn, hshortcut, hguard]

end Rsduck.Mysql
