import Rsduck.Mysql.Answers

/-!
A whole connection: the commands of a client, and what the loop does with each.

A reply is right when it is the response its command calls for, and the session keeps the
statements the command is not about. `Answerable` names the inputs for which a handler comes to
its reply; the others leave the loop without one.
-/

namespace Rsduck.Mysql

open Lib Lib.Text Lib.Wire Lib.Wire.Reader Db

variable {C : Crates}

/-! ### Answers without the database -/

lemma sound_singleTextRow (column : String) {value : List Char}
    (hcolumn : (utf8 column.toList).length < 2 ^ 64) (hvalue : (utf8 value).length < 2 ^ 64) :
    (singleTextRow C column value).Sound := by
  refine ⟨by simp, by simp, ?_, ?_⟩
  · intro c hc
    rw [List.mem_singleton] at hc
    rw [hc]
    exact hcolumn
  · intro row hrow
    rw [List.mem_singleton] at hrow
    subst hrow
    refine ⟨rfl, fun v hv => ?_⟩
    rw [List.mem_singleton] at hv
    rw [hv]
    exact hvalue

/-- A table of constant texts is sound. -/
lemma sound_texts (columns : List String) (rows : List (List String)) (hcolumns : columns ≠ [])
    (hcount : columns.length < 2 ^ 64)
    (hnames : ∀ c ∈ columns, (utf8 c.toList).length < 2 ^ 64)
    (hrows : ∀ row ∈ rows, row.length = columns.length ∧
      ∀ v ∈ row, (utf8 v.toList).length < 2 ^ 64) :
    (SqlTypedResult.query (C := C) (columns.map fun c => ⟨c.toList, .text⟩)
      (rows.map fun row => row.map fun v => .text v.toList)).Sound := by
  refine ⟨by simpa using hcolumns, by simpa using hcount, ?_, ?_⟩
  · intro c hc
    obtain ⟨name, hname, rfl⟩ := List.mem_map.1 hc
    exact hnames name hname
  · intro row hrow
    obtain ⟨texts, htexts, rfl⟩ := List.mem_map.1 hrow
    obtain ⟨hlen, hall⟩ := hrows texts htexts
    refine ⟨by rw [List.length_map, List.length_map, hlen], fun v hv => ?_⟩
    obtain ⟨text, htext, rfl⟩ := List.mem_map.1 hv
    exact hall text htext

lemma sound_systemVariablesResult (pattern : Option (List Char)) :
    (systemVariablesResult C pattern).Sound := by
  have hall : ∀ x ∈ mysqlSystemVariables, (utf8 x.1.toList).length < 2 ^ 64 ∧
      (utf8 x.2.toList).length < 2 ^ 64 := by decide
  have hsound := sound_texts (C := C) ["Variable_name", "Value"]
    ((mysqlSystemVariables.filter fun x =>
      pattern.all fun pattern => mysqlLikeMatches pattern x.1.toList).map fun x => [x.1, x.2])
    (by decide) (by decide) (by decide) (by
      intro row hrow
      obtain ⟨x, hx, rfl⟩ := List.mem_map.1 hrow
      obtain ⟨hname, hvalue⟩ := hall x (List.mem_of_mem_filter hx)
      refine ⟨rfl, fun v hv => ?_⟩
      rcases List.mem_cons.1 hv with rfl | hv
      · exact hname
      · rw [List.mem_singleton] at hv
        rw [hv]
        exact hvalue)
  rw [List.map_map] at hsound
  exact hsound

lemma sound_mysqlEnginesResult : (mysqlEnginesResult C).Sound :=
  sound_texts (C := C) ["ENGINE", "SUPPORT", "COMMENT", "TRANSACTIONS", "XA", "SAVEPOINTS"]
    [["InnoDB", "DEFAULT", "rsduck MySQL protocol compatibility engine", "YES", "NO", "YES"]]
    (by decide) (by decide) (by decide) (by decide)

/-- **Every answer without the database is a sound result.** -/
lemma sound_mysqlCompatResult {sql : List Char} {session : MySqlSession}
    {result : SqlTypedResult C} (hdatabase : (utf8 session.database).length < 2 ^ 64)
    (h : mysqlCompatResult C sql session = some result) : result.Sound := by
  unfold mysqlCompatResult compatResult at h
  split_ifs at h with hengines
  · cases h
    exact sound_mysqlEnginesResult
  · rcases hpattern : showVariablesLikePattern sql with _ | pattern
    · simp only [hpattern] at h
      split_ifs at h
      · cases h
        exact sound_systemVariablesResult none
      · cases h
        exact sound_singleTextRow "DATABASE()" (by decide) hdatabase
      · cases h
        exact sound_singleTextRow "@@version_comment" (by decide) (by decide)
      · cases h
        exact sound_singleTextRow "version()" (by decide) (by decide)
    · simp only [hpattern] at h
      cases h
      exact sound_systemVariablesResult (some pattern)

/-! ### Commands -/

/-- A packet of the client, and the calls of the database while it is handled. -/
structure Command (C : Crates) where
  payload : List UInt8
  db : DbCalls C
  fits : payload.length < 2 ^ 64

/-- The response a command calls for. -/
def responseKind : List UInt8 → ResponseKind
  | [] => .nothing
  | command :: _ =>
    if command = comQuery then .resultSet false
    else if command = comStmtPrepare then .prepare
    else if command = comStmtExecute then .resultSet true
    else if command = comStmtClose then .nothing
    else if command = comStmtSendLongData then .refusal
    else .ack

/-- The same with no response to `COM_STMT_SEND_LONG_DATA`. -/
def silentKind (payload : List UInt8) : ResponseKind :=
  if payload.head? = some comStmtSendLongData then .nothing else responseKind payload

/-- The prepared statement a command is about. -/
def addressed (s : CommandSession) : List UInt8 → Option ℕ
  | [] => none
  | command :: payload =>
    if command = comStmtPrepare then some s.nextStatementId
    else if command = comStmtExecute ∨ command = comStmtClose ∨ command = comStmtReset then
      match (getLe 4).run payload with
      | .ok (id, _) => some id
      | .error _ => none
    else none

/-- The user and every other statement stay. Only preparing and closing do more to the statement
they are about than to set the types of its parameters. -/
structure Keeps (s s' : CommandSession) (payload : List UInt8) : Prop where
  username : s'.username = s.username
  others : ∀ id, addressed s payload ≠ some id → s'.statements id = s.statements id
  usable : payload.head? ≠ some comStmtPrepare → payload.head? ≠ some comStmtClose →
    ∀ id entry, s.statements id = some entry →
      ∃ types, s'.statements id = some { entry with paramTypes := types }

/-- A name of a database no longer than memory, and a statement id of 32 bits. -/
structure CommandSession.Fits (s : CommandSession) : Prop where
  database : (utf8 s.database).length < 2 ^ 64
  nextStatementId : s.nextStatementId < 2 ^ 32

section Conditions

variable (T : MetadataTexts) (db : DbCalls C) (s : CommandSession)

/-- The text is cut at the starts of characters, where it is not answered before. -/
def Readable (C : Crates) (payload : List UInt8) : Prop :=
  ∃ text, ofUtf8 payload = some text ∧
    (isMysqlSessionStatement (trim text) = true ∨
      (mysqlCompatResult C (trim text) s.toMySqlSession).isSome ∨
      ∃ run, slicedExecutionSql T (trim text) s.toMySqlSession = .ok run)

/-- The text is cut at the starts of characters, is described, and the numbers of its columns
and parameters have sixteen bits. -/
def Preparable (payload : List UInt8) : Prop :=
  ∃ text run columns, ofUtf8 payload = some text ∧
    slicedExecutionSql T (rewriteMysqlPlaceholders (trim text)).1 s.toMySqlSession = .ok run ∧
    db.describe s.username run
      (dummyParamsForDescribe run (rewriteMysqlPlaceholders (trim text)).2) = .ok columns ∧
    (rewriteMysqlPlaceholders (trim text)).2 < 2 ^ 16 ∧ columns.length < 2 ^ 16

/-- The payload names an open statement and holds its parameters. -/
def Executable (payload : List UInt8) : Prop :=
  ∃ id rest entry x, readExecuteHead.run payload = .ok (id, rest) ∧
    s.statements id = some entry ∧
    (parseExecuteParams entry.statement.paramCount entry.paramTypes).run rest = .ok x

/-- The handler of the command comes to its reply. -/
def Answerable : List UInt8 → Prop
  | [] => True
  | command :: payload =>
    (command = comQuery → Readable T s C payload) ∧
      (command = comInitDb → (ofUtf8 payload).isSome) ∧
      (command = comStmtPrepare → Preparable T db s payload) ∧
      (command = comStmtExecute → Executable s payload) ∧
      (command = comStmtClose ∨ command = comStmtReset → 4 ≤ payload.length)

end Conditions

/-! ### One command -/

/-- A reply that is right, and what it leaves. -/
structure Answered (kind : ResponseKind) (payload : List UInt8) (s : CommandSession)
    (reply : List (List UInt8)) (s' : CommandSession) : Prop where
  response : ∃ response, Answers kind reply response
  keeps : Keeps s s' payload

lemma answers_nothing : Answers .nothing [] .nothing := fun _ => rfl

/-- A session with the same user and statements keeps everything. -/
lemma keeps_of_eq {s s' : CommandSession} (payload : List UInt8) (hu : s'.username = s.username)
    (hs : s'.statements = s.statements) : Keeps s s' payload where
  username := hu
  others := fun _ _ => by rw [hs]
  usable := fun _ _ _ entry h => ⟨entry.paramTypes, by rw [hs, h]⟩

section Step

variable {T : MetadataTexts} {db : DbCalls C} {s : CommandSession} {payload : List UInt8}

variable (db) in
/-- The text of a result that is run is sound whatever the database gives. -/
lemma query_answered (h : Readable T s C payload) (hs : s.Fits) :
    ∃ reply, handleQuery T db s payload = .ok (reply, s) ∧
      ∃ response, Answers (.resultSet false) reply response := by
  obtain ⟨text, htext, hcases⟩ := h
  have hdecode : decodeText "invalid COM_QUERY SQL UTF-8" payload = .ok text := by
    simp only [decodeText, htext]
  by_cases hsession : isMysqlSessionStatement (trim text) = true
  · refine ⟨[okPacket], ?_, .ok 0, answers_resultSet_ok false (by decide)⟩
    simp only [handleQuery, hdecode, bind, Except.bind, hsession, if_true]
    rfl
  · rcases hcompat : mysqlCompatResult C (trim text) s.toMySqlSession with _ | result
    · obtain ⟨run, hrun⟩ : ∃ run, slicedExecutionSql T (trim text) s.toMySqlSession = .ok run := by
        rcases hcases with h | h | h
        · exact absurd h hsession
        · rw [hcompat] at h
          cases h
        · exact h
      refine ⟨sendResult (db.execute s.username run) false, ?_,
        answers_sendResult false fun r hr => db.execute_sound hr⟩
      simp only [handleQuery, hdecode, bind, Except.bind, hsession, hcompat, executionText, hrun]
      rfl
    · refine ⟨sendResult (.ok result) false, ?_,
        answers_sendResult false fun r hr => ?_⟩
      · simp only [handleQuery, hdecode, bind, Except.bind, hsession, hcompat]
        rfl
      · cases hr
        exact sound_mysqlCompatResult hs.database hcompat

/-- Preparing opens one statement. -/
lemma prepare_answered (h : Preparable T db s payload) (hs : s.Fits) :
    ∃ reply statement, stmtPrepare T db s payload = .ok (reply, s.openStatement statement) ∧
      ∃ response, Answers .prepare reply response := by
  obtain ⟨text, run, columns, htext, hrun, hdescribe, hparams, hcolumns⟩ := h
  have hdecode : decodeText "invalid COM_STMT_PREPARE SQL UTF-8" payload = .ok text := by
    simp only [decodeText, htext]
  refine ⟨_, ⟨run, (rewriteMysqlPlaceholders (trim text)).2, columns⟩, ?_, _,
    answers_prepareReply hs.database hs.nextStatementId hparams hcolumns
      (db.describe_sound hdescribe)⟩
  simp only [stmtPrepare, hdecode, bind, Except.bind, executionText, hrun, hdescribe]
  rfl

lemma fits_openStatement (hs : s.Fits) (statement : PreparedStatement) :
    (s.openStatement statement).Fits where
  database := hs.database
  nextStatementId := by
    have hmod : (s.nextStatementId + 1) % 2 ^ 32 < 2 ^ 32 := Nat.mod_lt _ (by decide)
    exact max_lt hmod (by decide)

lemma keeps_openStatement (s : CommandSession) (statement : PreparedStatement)
    (payload : List UInt8) : Keeps s (s.openStatement statement) (comStmtPrepare :: payload) where
  username := rfl
  others := by
    intro id hid
    refine Function.update_of_ne ?_ _ _
    rintro rfl
    exact hid rfl
  usable := fun h => absurd rfl h

lemma getLe_of_readExecuteHead {id : ℕ} {rest : List UInt8}
    (h : readExecuteHead.run payload = .ok (id, rest)) :
    ∃ rest', (getLe 4).run payload = .ok (id, rest') := by
  obtain ⟨n, rest', hn, h⟩ := run_bind_eq_ok.1 h
  obtain ⟨_, _, -, h⟩ := run_bind_eq_ok.1 h
  obtain ⟨_, _, -, h⟩ := run_bind_eq_ok.1 h
  cases h
  exact ⟨rest', hn⟩

variable (db) in
/-- Executing sets the parameter types of the statement it names. -/
lemma execute_answered (h : Executable s payload) :
    ∃ reply id rest entry types, (getLe 4).run payload = .ok (id, rest) ∧
      s.statements id = some entry ∧
      stmtExecute db s payload = .ok (reply,
        { s with statements :=
          Function.update s.statements id (some { entry with paramTypes := types }) }) ∧
      ∃ response, Answers (.resultSet true) reply response := by
  obtain ⟨id, rest, entry, ⟨⟨params, types⟩, rest'⟩, hhead, hentry, hparse⟩ := h
  obtain ⟨after, hid⟩ := getLe_of_readExecuteHead hhead
  refine ⟨sendResult (db.executeWithParams s.username entry.statement.boundSql params) true,
    id, after, entry, types, hid, hentry, ?_,
    answers_sendResult true fun r hr => db.executeWithParams_sound hr⟩
  have hfirst : readPayload readExecuteHead payload = .ok (id, rest) := by
    simp only [readPayload, hhead]
  have hsecond : readPayload (parseExecuteParams entry.statement.paramCount entry.paramTypes)
      rest = .ok ((params, types), rest') := by
    simp only [readPayload, hparse]
  simp only [stmtExecute, hfirst, bind, Except.bind, hentry, hsecond]
  rfl

lemma run_getLe (h : 4 ≤ payload.length) :
    ∃ id, (getLe 4).run payload = .ok (id, payload.drop 4) := by
  refine ⟨ofLeBytes (payload.take 4), ?_⟩
  refine run_map_eq_ok.2 ⟨payload.take 4, ?_, rfl⟩
  exact run_take_eq_ok.2 ⟨h, rfl, rfl⟩

/-- Updating one statement keeps the others. -/
lemma keeps_of_update {command : UInt8} {id : ℕ} {rest : List UInt8} (entry : Option OpenStatement)
    (hcommand : command = comStmtExecute ∨ command = comStmtClose ∨ command = comStmtReset)
    (hid : (getLe 4).run payload = .ok (id, rest))
    (hentry : command ≠ comStmtClose → ∀ old, s.statements id = some old →
      ∃ types, entry = some { old with paramTypes := types }) :
    Keeps s { s with statements := Function.update s.statements id entry }
      (command :: payload) where
  username := rfl
  others := by
    intro other hother
    have hprepare : command ≠ comStmtPrepare := by
      rcases hcommand with rfl | rfl | rfl <;> decide
    have haddressed : addressed s (command :: payload) = some id := by
      simp only [addressed, if_neg hprepare, if_pos hcommand, hid]
    rw [haddressed] at hother
    refine Function.update_of_ne ?_ _ _
    rintro rfl
    exact hother rfl
  usable := by
    intro _ hclose other old hold
    by_cases hother : other = id
    · subst hother
      obtain ⟨types, htypes⟩ := hentry (fun h => hclose (congrArg some h)) old hold
      exact ⟨types, by rw [← htypes]; exact Function.update_self _ _ _⟩
    · exact ⟨old.paramTypes, by rw [← hold]; exact Function.update_of_ne hother _ _⟩

/-- **One command is answered.** The cases are the arms of the loop. -/
lemma handleCommand_answered {command : UInt8} (h : Answerable T db s (command :: payload))
    (hs : s.Fits) (hfits : payload.length < 2 ^ 64) :
    ∃ reply s', handleCommand T db s command payload = .ok (reply, s') ∧
      Answered (responseKind (command :: payload)) (command :: payload) s reply s' ∧ s'.Fits := by
  obtain ⟨hquery, hinit, hprepare, hexecute, hclose⟩ := h
  have hok : ∃ response, Answers .ack [okPacket] response := ⟨_, answers_ack (by decide)⟩
  unfold handleCommand
  by_cases h1 : command = comPing
  · subst h1
    exact ⟨[okPacket], s, rfl, ⟨hok, keeps_of_eq _ rfl rfl⟩, hs⟩
  by_cases h2 : command = comInitDb
  · subst h2
    obtain ⟨database, hdatabase⟩ := Option.isSome_iff_exists.1 (hinit rfl)
    have hbytes : utf8 database = payload := ofUtf8_eq_some.1 hdatabase
    refine ⟨[okPacket], { s with database }, ?_, ⟨hok, keeps_of_eq _ rfl rfl⟩,
      ⟨by rw [hbytes]; exact hfits, hs.nextStatementId⟩⟩
    simp only [if_neg h1, if_true, decodeText, hdatabase]
    rfl
  by_cases h3 : command = comQuery
  · subst h3
    obtain ⟨reply, hreply, hresponse⟩ := query_answered db (hquery rfl) hs
    simp only [if_neg h1, if_neg h2, if_true]
    exact ⟨reply, s, hreply, ⟨hresponse, keeps_of_eq _ rfl rfl⟩, hs⟩
  by_cases h4 : command = comStmtPrepare
  · subst h4
    obtain ⟨reply, statement, hreply, hresponse⟩ := prepare_answered (hprepare rfl) hs
    simp only [if_neg h1, if_neg h2, if_neg h3, if_true]
    exact ⟨reply, _, hreply, ⟨hresponse, keeps_openStatement s statement payload⟩,
      fits_openStatement hs statement⟩
  by_cases h5 : command = comStmtExecute
  · subst h5
    obtain ⟨reply, id, rest, entry, types, hid, hentry, hreply, hresponse⟩ :=
      execute_answered db (hexecute rfl)
    simp only [if_neg h1, if_neg h2, if_neg h3, if_neg h4, if_true]
    refine ⟨reply, _, hreply, ⟨hresponse, keeps_of_update _ (.inl rfl) hid ?_⟩,
      ⟨hs.database, hs.nextStatementId⟩⟩
    intro _ old hold
    rw [hentry] at hold
    cases hold
    exact ⟨types, rfl⟩
  by_cases h6 : command = comStmtClose
  · subst h6
    obtain ⟨id, hid⟩ := run_getLe (hclose (.inl rfl))
    refine ⟨[], _, ?_, ⟨⟨_, answers_nothing⟩,
      keeps_of_update none (.inr (.inl rfl)) hid fun h => absurd rfl h⟩,
      ⟨hs.database, hs.nextStatementId⟩⟩
    simp only [if_neg h1, if_neg h2, if_neg h3, if_neg h4, if_neg h5, if_true, stmtClose,
      readPayload, hid, bind, Except.bind]
    rfl
  by_cases h7 : command = comStmtReset
  · subst h7
    obtain ⟨id, hid⟩ := run_getLe (hclose (.inr rfl))
    refine ⟨[okPacket], _, ?_, ⟨hok, keeps_of_update
      ((s.statements id).map fun entry => { entry with paramTypes := [] })
      (.inr (.inr rfl)) hid ?_⟩, ⟨hs.database, hs.nextStatementId⟩⟩
    · simp only [if_neg h1, if_neg h2, if_neg h3, if_neg h4, if_neg h5, if_neg h6, if_true,
        stmtReset, readPayload, hid, bind, Except.bind]
      rfl
    · intro _ old hold
      rw [hold]
      exact ⟨[], rfl⟩
  by_cases h8 : command = comStmtSendLongData
  · subst h8
    have hkind : responseKind (comStmtSendLongData :: payload) = .refusal := rfl
    refine ⟨_, s, rfl, ⟨?_, keeps_of_eq _ rfl rfl⟩, hs⟩
    rw [hkind]
    exact ⟨_, answers_err (by decide) (by decide) _ _⟩
  · have hkind : responseKind (command :: payload) = .ack := by
      simp only [responseKind, if_neg h3, if_neg h4, if_neg h5, if_neg h6, if_neg h8]
    simp only [if_neg h1, if_neg h2, if_neg h3, if_neg h4, if_neg h5, if_neg h6, if_neg h7,
      if_neg h8]
    refine ⟨_, s, rfl, ⟨?_, keeps_of_eq _ rfl rfl⟩, hs⟩
    rw [hkind]
    exact ⟨_, answers_err (by decide) (by decide) _ _⟩

end Step

/-! ### Whole connections -/

section Runs

variable (T : MetadataTexts)

/-- Each command up to the end gets the response it calls for, and none leaves the loop but the
one that quits. -/
def EachAnswered (kind : List UInt8 → ResponseKind) : CommandSession → List (Command C) → Prop
  | _, [] => True
  | s, c :: cs =>
    match commandStep T c.db s c.payload with
    | .quit => True
    | .leave _ => False
    | .goOn reply s' => Answered (kind c.payload) c.payload s reply s' ∧ EachAnswered kind s' cs

/-- Every command can be answered in the session it comes to. -/
def AllAnswerable : CommandSession → List (Command C) → Prop
  | _, [] => True
  | s, c :: cs => Answerable T c.db s c.payload ∧
    ∀ reply s', commandStep T c.db s c.payload = .goOn reply s' → AllAnswerable s' cs

/-- The commands the loop answers, each with its reply. -/
def exchanged : CommandSession → List (Command C) → List (List UInt8 × List (List UInt8))
  | _, [] => []
  | s, c :: cs =>
    match commandStep T c.db s c.payload with
    | .goOn reply s' => (c.payload, reply) :: exchanged s' cs
    | _ => []

/-- A client that reads the packets one response after the other reads all of them, and one
response for each command. -/
def InStep (kind : List UInt8 → ResponseKind) (s : CommandSession) (cs : List (Command C)) : Prop :=
  ∃ responses,
    readResponses ((exchanged T s cs).map fun x => kind x.1)
      ((exchanged T s cs).map fun x => x.2).flatten = some (responses, []) ∧
    responses.length = (exchanged T s cs).length

end Runs

variable {T : MetadataTexts}

lemma inStep_of_eachAnswered {kind : List UInt8 → ResponseKind} {s : CommandSession}
    {cs : List (Command C)} (h : EachAnswered T kind s cs) : InStep T kind s cs := by
  have hall : List.Forall₂ (fun kind reply => ∃ response, Answers kind reply response)
      ((exchanged T s cs).map fun x => kind x.1) ((exchanged T s cs).map fun x => x.2) := by
    induction cs generalizing s with
    | nil => exact List.Forall₂.nil
    | cons c cs ih =>
      rw [EachAnswered] at h
      rw [exchanged]
      rcases hstep : commandStep T c.db s c.payload with _ | failure | ⟨reply, s'⟩
      · exact List.Forall₂.nil
      · exact List.Forall₂.nil
      · rw [hstep] at h
        exact List.Forall₂.cons h.1.response (ih h.2)
  obtain ⟨responses, hread, hlen⟩ := readResponses_flatten hall []
  rw [List.append_nil] at hread
  rw [List.length_map] at hlen
  exact ⟨responses, hread, hlen⟩

lemma eachAnswered_of_answerable {s : CommandSession} (hs : s.Fits) {cs : List (Command C)}
    (h : AllAnswerable T s cs) : EachAnswered T responseKind s cs := by
  induction cs generalizing s with
  | nil => exact trivial
  | cons c cs ih =>
    obtain ⟨hanswerable, hrest⟩ := h
    obtain ⟨payload, db, hfits⟩ := c
    rw [EachAnswered]
    rcases payload with _ | ⟨command, payload⟩
    · exact ⟨⟨⟨_, answers_nothing⟩, keeps_of_eq _ rfl rfl⟩, ih hs (hrest [] s rfl)⟩
    · by_cases hquit : command = comQuit
      · have hstep : commandStep T db s (command :: payload) = .quit := if_pos hquit
        simp only [hstep]
      · obtain ⟨reply, s', hreply, hanswered, hs'⟩ :=
          handleCommand_answered hanswerable hs (Nat.lt_of_succ_lt hfits)
        have hstep : commandStep T db s (command :: payload) = .goOn reply s' := by
          simp only [commandStep, if_neg hquit, hreply]
        simp only [hstep]
        exact ⟨hanswered, ih hs' (hrest reply s' hstep)⟩

/-- **Each command is answered by its response**: on every connection whose commands can be
answered, whatever the database does. -/
theorem each_command_answered (T : MetadataTexts) (s : CommandSession) (hs : s.Fits)
    (cs : List (Command C)) (h : AllAnswerable T s cs) :
    EachAnswered T responseKind s cs ∧ InStep T responseKind s cs :=
  ⟨eachAnswered_of_answerable hs h, inStep_of_eachAnswered (eachAnswered_of_answerable hs h)⟩

/-- Every query gives the text `1`, and nothing can be described. -/
def oneCalls : DbCalls plainCrates where
  describe _ _ _ := .error "no such table".toList
  execute _ _ := .ok (singleTextRow plainCrates "1" ['1'])
  executeWithParams _ _ _ := .ok (singleTextRow plainCrates "1" ['1'])
  describe_sound := by
    intro _ _ _ columns h
    cases h
  execute_sound := by
    intro _ _ result h
    cases h
    exact sound_singleTextRow "1" (by decide) (by decide)
  executeWithParams_sound := by
    intro _ _ _ result h
    cases h
    exact sound_singleTextRow "1" (by decide) (by decide)

def someSession : CommandSession := .new "admin".toList none

lemma fits_someSession : someSession.Fits := ⟨by decide, by decide⟩

def queryOne : Command plainCrates :=
  ⟨comQuery :: utf8 "SELECT 1".toList, oneCalls, by decide⟩

def closeOne : Command plainCrates := ⟨[comStmtClose, 1, 0, 0, 0], oneCalls, by decide⟩

/-- A query and the closing of a statement. -/
theorem each_command_answered_query :
    EachAnswered default responseKind someSession [queryOne, closeOne] ∧
      InStep default responseKind someSession [queryOne, closeOne] := by
  refine each_command_answered default someSession fits_someSession [queryOne, closeOne] ?_
  have hne : ∀ {a b : UInt8} {p : Prop}, a ≠ b → a = b → p := fun h h' => absurd h' h
  refine ⟨⟨fun _ => ?_, hne (by decide), hne (by decide), hne (by decide), by decide⟩,
    fun reply s _ => ?_⟩
  · exact ⟨_, ofUtf8_utf8 _, .inr (.inr ⟨"SELECT 1".toList, rfl⟩)⟩
  · exact ⟨⟨hne (by decide), hne (by decide), hne (by decide), hne (by decide), by decide⟩,
      fun _ _ _ => trivial⟩

def sendLongData : Command plainCrates :=
  ⟨[comStmtSendLongData, 1, 0, 0, 0, 0, 0], oneCalls, by decide⟩

def prepareMissing : Command plainCrates :=
  ⟨comStmtPrepare :: utf8 "SELECT * FROM t".toList, oneCalls, by decide⟩

/-- A command that calls for no response is answered, and a statement that cannot be described
ends the connection. -/
theorem commands_out_of_step :
    ¬ EachAnswered default silentKind someSession [sendLongData] ∧
      ¬ EachAnswered default silentKind someSession [prepareMissing] := by
  constructor
  · intro h
    obtain ⟨⟨response, hresponse⟩, -⟩ := h.1
    have hread := hresponse []
    rw [List.append_nil] at hread
    have hkind : readResponse (silentKind sendLongData.payload)
        [errPacket 1235 "0A000" "COM_STMT_SEND_LONG_DATA is not supported".toList] =
          some (.nothing,
            [errPacket 1235 "0A000" "COM_STMT_SEND_LONG_DATA is not supported".toList]) := rfl
    rw [hkind] at hread
    cases hread
  · intro h
    have hrun : slicedExecutionSql default "SELECT * FROM t".toList someSession.toMySqlSession =
        .ok "SELECT * FROM t".toList := rfl
    have htrim : rewriteMysqlPlaceholders (trim "SELECT * FROM t".toList) =
        ("SELECT * FROM t".toList, 0) := by decide
    have hdecode : decodeText "invalid COM_STMT_PREPARE SQL UTF-8"
        (utf8 "SELECT * FROM t".toList) = .ok "SELECT * FROM t".toList := by
      simp only [decodeText, ofUtf8_utf8]
    have hhandle : stmtPrepare default oneCalls someSession (utf8 "SELECT * FROM t".toList) =
        .error (.error (String.ofList "no such table".toList)) := by
      simp only [stmtPrepare, hdecode, bind, Except.bind, htrim, executionText, hrun]
      rfl
    have hstep : commandStep default oneCalls someSession prepareMissing.payload =
        .leave (.error (String.ofList "no such table".toList)) := by
      have hcommand : handleCommand default oneCalls someSession comStmtPrepare
          (utf8 "SELECT * FROM t".toList) =
            stmtPrepare default oneCalls someSession (utf8 "SELECT * FROM t".toList) := rfl
      have hquit : comStmtPrepare ≠ comQuit := by decide
      rw [prepareMissing, commandStep, if_neg hquit, hcommand, hhandle]
    rw [EachAnswered] at h
    have hdb : prepareMissing.db = oneCalls := rfl
    rw [hdb, hstep] at h
    exact h

end Rsduck.Mysql
