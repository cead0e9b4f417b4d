import Rsduck.Lib.Run
import Rsduck.Mysql.Conversation
import Rsduck.Mysql.ParamsDecoding

/-!
The ids of prepared statements.

An id is a number of 32 bits, and zero is passed over. So the ids come round after `2 ^ 32 - 1`
prepares, and a statement that is open by then loses its id to a new one.
-/

namespace Rsduck.Mysql

open Lib Lib.Text Lib.Wire Lib.Wire.Reader Db

variable {C : Crates} (T : MetadataTexts)

/-! ### What the client was told -/

/-- A statement that was prepared and not closed: its id and text, and the number of prepares
before its own. -/
structure Prepared where
  id : ℕ
  text : List Char
  number : ℕ

/-- The session, and beside it what the client knows: how often it has prepared, and the
statements it has not closed, the latest first. -/
structure Told where
  session : CommandSession
  prepares : ℕ
  live : List Prepared

namespace Told

def new (username : List Char) (database : Option (List Char)) : Told :=
  ⟨.new username database, 0, []⟩

/-- The statement that the id stands for: the latest one that was prepared under it. -/
def named (s : Told) (id : ℕ) : Option Prepared := s.live.find? (·.id == id)

end Told

/-- The text a command prepares. -/
def textPrepared (s : CommandSession) : List UInt8 → Option (List Char)
  | [] => none
  | command :: payload =>
    if command = comStmtPrepare then
      (ofUtf8 payload).bind fun text =>
        (executionText T s (rewriteMysqlPlaceholders (trim text)).1).toOption
    else none

/-- The id a command closes. -/
def idClosed : List UInt8 → Option ℕ
  | [] => none
  | command :: payload =>
    if command = comStmtClose then ((getLe 4).run payload).toOption.map (·.1) else none

/-- What the client knows after a command that was answered. -/
def Told.heard (s : Told) (payload : List UInt8) (session : CommandSession) : Told :=
  match textPrepared T s.session payload, idClosed payload with
  | some text, _ => ⟨session, s.prepares + 1, ⟨s.session.nextStatementId, text, s.prepares⟩ :: s.live⟩
  | none, some id => ⟨session, s.prepares, s.live.filter (·.id != id)⟩
  | none, none => ⟨session, s.prepares, s.live⟩

variable (C) in
def commands : System Told (Command C) where
  step s c :=
    match commandStep T c.db s.session c.payload with
    | .goOn _ session => some (s.heard T c.payload session)
    | _ => none

/-! ### One statement to an id -/

/-- A command that is answered keeps each id to one statement. -/
structure KeepsIds (s : Told) (c : Command C) (reply : List (List UInt8))
    (t : CommandSession) : Prop where
  /-- a prepare is given an id that no open statement has -/
  fresh : (textPrepared T s.session c.payload).isSome →
    s.session.statements s.session.nextStatementId = none
  /-- an execution runs the text that was prepared last under its id -/
  latest : ∀ payload, c.payload = comStmtExecute :: payload →
    ∃ id rest x params, readExecuteHead.run payload = .ok (id, rest) ∧ s.named id = some x ∧
      reply = sendResult (c.db.executeWithParams s.session.username x.text params) true
  /-- closing one statement leaves the others -/
  others : ∀ id, idClosed c.payload = some id →
    ∀ other ≠ id, t.statements other = s.session.statements other

/-- Whatever the command is answered with. -/
def IdsKept (s : Told) (c : Command C) : Prop :=
  ∀ reply t, commandStep T c.db s.session c.payload = .goOn reply t → KeepsIds T s c reply t

/-- The ids there are. -/
def idCount : ℕ := 2 ^ 32 - 1

/-- No open statement is older than the last prepares that took all the other ids. -/
def NotOutlived (s : Told) (c : Command C) : Prop :=
  (∃ t, (commands C T).step s c = some t) → (textPrepared T s.session c.payload).isSome →
    ∀ x ∈ s.live, s.prepares < x.number + idCount

/-! ### What a command does to the statements -/

variable {T} {s t : CommandSession}

lemma ofUtf8_of_decodeText {what : String} {payload : List UInt8} {text : List Char}
    (h : decodeText what payload = .ok text) : ofUtf8 payload = some text := by
  unfold decodeText at h
  split at h
  · next text' htext =>
    cases h
    exact htext
  · cases h

/-- A prepare that is answered opens a statement of its text. -/
lemma stmtPrepare_eq_ok {db : DbCalls C} {payload : List UInt8} {reply : List (List UInt8)}
    (h : stmtPrepare T db s payload = .ok (reply, t)) :
    ∃ statement, textPrepared T s (comStmtPrepare :: payload) = some statement.boundSql ∧
      t = s.openStatement statement := by
  unfold stmtPrepare at h
  rcases htext : decodeText "invalid COM_STMT_PREPARE SQL UTF-8" payload with e | text
  · rw [htext] at h
    cases h
  · rw [htext] at h
    simp only [bind, Except.bind] at h
    rcases hrun : executionText T s (rewriteMysqlPlaceholders (trim text)).1 with e | run
    · rw [hrun] at h
      cases h
    · rw [hrun] at h
      simp only at h
      split at h
      · cases h
      · cases h
        refine ⟨_, ?_, rfl⟩
        simp only [textPrepared, if_true, ofUtf8_of_decodeText htext, Option.bind_some, hrun]
        rfl

/-- An execution that is answered runs the text of the statement it names. -/
lemma stmtExecute_eq_ok {db : DbCalls C} {payload : List UInt8} {reply : List (List UInt8)}
    (h : stmtExecute db s payload = .ok (reply, t)) :
    ∃ id rest entry params types, readExecuteHead.run payload = .ok (id, rest) ∧
      s.statements id = some entry ∧
      reply = sendResult (db.executeWithParams s.username entry.statement.boundSql params) true ∧
      t = { s with statements :=
        Function.update s.statements id (some { entry with paramTypes := types }) } := by
  unfold stmtExecute readPayload at h
  rcases hhead : readExecuteHead.run payload with e | ⟨id, rest⟩
  · rw [hhead] at h
    cases h
  · rw [hhead] at h
    simp only [bind, Except.bind] at h
    split at h
    · cases h
    · next entry hentry =>
      rcases hparams : (parseExecuteParams entry.statement.paramCount entry.paramTypes).run rest
        with e | ⟨⟨params, types⟩, rest'⟩
      · rw [hparams] at h
        cases h
      · rw [hparams] at h
        cases h
        exact ⟨id, rest, entry, params, types, rfl, hentry, rfl, rfl⟩

/-- The ids have the texts they had. -/
structure SameTexts (s t : CommandSession) : Prop where
  next : t.nextStatementId = s.nextStatementId
  texts : ∀ id, (t.statements id).map (·.statement.boundSql) =
    (s.statements id).map (·.statement.boundSql)

lemma sameTexts_of_eq (hnext : t.nextStatementId = s.nextStatementId)
    (hstatements : t.statements = s.statements) : SameTexts s t :=
  ⟨hnext, fun id => by rw [hstatements]⟩

/-- New parameter types for one statement. -/
lemma sameTexts_update {id : ℕ} {entry : OpenStatement} (types : List UInt8)
    (hentry : s.statements id = some entry) :
    SameTexts s
      { s with statements :=
        Function.update s.statements id (some { entry with paramTypes := types }) } := by
  refine ⟨rfl, fun other => ?_⟩
  by_cases hother : other = id
  · subst hother
    simp [hentry]
  · exact congrArg _ (Function.update_of_ne hother _ _)

lemma stmtReset_eq_ok {payload : List UInt8} {reply : List (List UInt8)}
    (h : stmtReset s payload = .ok (reply, t)) : SameTexts s t := by
  unfold stmtReset readPayload at h
  rcases hid : (getLe 4).run payload with e | ⟨id, rest⟩
  · rw [hid] at h
    cases h
  · rw [hid] at h
    cases h
    refine ⟨rfl, fun other => ?_⟩
    by_cases hother : other = id
    · subst hother
      rcases hold : s.statements other with _ | entry
      · simp
      · simp
    · exact congrArg _ (Function.update_of_ne hother _ _)

lemma stmtClose_eq_ok {payload : List UInt8} {reply : List (List UInt8)}
    (h : stmtClose s payload = .ok (reply, t)) :
    ∃ id, idClosed (comStmtClose :: payload) = some id ∧
      t = { s with statements := Function.update s.statements id none } := by
  unfold stmtClose readPayload at h
  rcases hid : (getLe 4).run payload with e | ⟨id, rest⟩
  · rw [hid] at h
    cases h
  · rw [hid] at h
    cases h
    refine ⟨id, ?_, rfl⟩
    simp only [idClosed, if_true, hid]
    rfl

lemma handleQuery_eq_ok {db : DbCalls C} {payload : List UInt8} {reply : List (List UInt8)}
    (h : handleQuery T db s payload = .ok (reply, t)) : t = s := by
  unfold handleQuery at h
  rcases htext : decodeText "invalid COM_QUERY SQL UTF-8" payload with e | text
  · rw [htext] at h
    cases h
  · rw [htext] at h
    simp only [bind, Except.bind] at h
    split at h
    · cases h
      rfl
    · split at h
      · cases h
        rfl
      · rcases hrun : executionText T s (trim text) with e | run
        · rw [hrun] at h
          cases h
        · rw [hrun] at h
          cases h
          rfl

lemma handleCommand_of_goOn {db : DbCalls C} {command : UInt8} {payload : List UInt8}
    {reply : List (List UInt8)} (h : commandStep T db s (command :: payload) = .goOn reply t) :
    handleCommand T db s command payload = .ok (reply, t) := by
  rw [commandStep] at h
  split at h
  · cases h
  · rcases hhandle : handleCommand T db s command payload with e | ⟨reply', t'⟩
    · rw [hhandle] at h
      cases h
    · rw [hhandle] at h
      cases h
      rfl

/-- **What an answered command does**: it prepares, closes, or keeps the text of each id. -/
lemma answered_cases {db : DbCalls C} {payload : List UInt8} {reply : List (List UInt8)}
    (h : commandStep T db s payload = .goOn reply t) :
    (∃ statement, textPrepared T s payload = some statement.boundSql ∧
        t = s.openStatement statement) ∨
      (textPrepared T s payload = none ∧ ∃ id, idClosed payload = some id ∧
        t = { s with statements := Function.update s.statements id none }) ∨
      (textPrepared T s payload = none ∧ idClosed payload = none ∧ SameTexts s t) := by
  rcases payload with _ | ⟨command, payload⟩
  · cases h
    exact .inr (.inr ⟨rfl, rfl, sameTexts_of_eq rfl rfl⟩)
  have hhandle := handleCommand_of_goOn h
  unfold handleCommand at hhandle
  by_cases hprepare : command = comStmtPrepare
  · subst hprepare
    exact .inl (stmtPrepare_eq_ok hhandle)
  have hnone : textPrepared T s (command :: payload) = none := if_neg hprepare
  by_cases hclose : command = comStmtClose
  · subst hclose
    exact .inr (.inl ⟨hnone, stmtClose_eq_ok hhandle⟩)
  have hopen : idClosed (command :: payload) = none := if_neg hclose
  refine .inr (.inr ⟨hnone, hopen, ?_⟩)
  rw [if_neg hprepare, if_neg hclose] at hhandle
  split_ifs at hhandle
  · cases hhandle
    exact sameTexts_of_eq rfl rfl
  · rcases hname : decodeText "invalid database name" payload with e | database
    · rw [hname] at hhandle
      cases hhandle
    · rw [hname] at hhandle
      cases hhandle
      exact sameTexts_of_eq rfl rfl
  · rw [handleQuery_eq_ok hhandle]
    exact sameTexts_of_eq rfl rfl
  · obtain ⟨id, rest, entry, params, types, -, hentry, -, rfl⟩ := stmtExecute_eq_ok hhandle
    exact sameTexts_update types hentry
  · exact stmtReset_eq_ok hhandle
  · cases hhandle
    exact sameTexts_of_eq rfl rfl
  · cases hhandle
    exact sameTexts_of_eq rfl rfl

/-! ### The ids of a run -/

/-- The id of the prepare that comes after so many others. -/
def idOf (number : ℕ) : ℕ := number % idCount + 1

lemma idOf_succ (n : ℕ) : max ((idOf n + 1) % 2 ^ 32) 1 = idOf (n + 1) := by
  unfold idOf idCount
  omega

/-- Before the ids have come round once more, only the prepare that ends the round has the same. -/
lemma idOf_eq_iff {n m : ℕ} (hlt : n < m) (hle : m ≤ n + idCount) :
    idOf n = idOf m ↔ m = n + idCount := by
  unfold idOf idCount at *
  omega

/-- The session has what the client was told. -/
structure Told.Sound (s : Told) : Prop where
  next : s.session.nextStatementId = idOf s.prepares
  ids : ∀ x ∈ s.live, x.id = idOf x.number ∧ x.number < s.prepares ∧
    s.prepares ≤ x.number + idCount
  texts : ∀ id, (s.session.statements id).map (·.statement.boundSql) = (s.named id).map (·.text)

lemma sound_new (username : List Char) (database : Option (List Char)) :
    (Told.new username database).Sound where
  next := rfl
  ids := fun _ h => (List.not_mem_nil h).elim
  texts := fun _ => rfl

lemma named_eq_none_iff {s : Told} {id : ℕ} : s.named id = none ↔ ∀ x ∈ s.live, x.id ≠ id := by
  unfold Told.named
  rw [List.find?_eq_none]
  simp

/-- The next id is free exactly when no open statement has used the round up. -/
lemma Told.Sound.fresh_iff {s : Told} (hs : s.Sound) :
    s.session.statements s.session.nextStatementId = none ↔
      ∀ x ∈ s.live, s.prepares < x.number + idCount := by
  have htexts := hs.texts s.session.nextStatementId
  have hnone : s.session.statements s.session.nextStatementId = none ↔
      s.named s.session.nextStatementId = none := by
    rw [← Option.map_eq_none_iff, htexts, Option.map_eq_none_iff]
  rw [hnone, named_eq_none_iff]
  refine forall₂_congr fun x hx => ?_
  obtain ⟨hid, hlt, hle⟩ := hs.ids x hx
  rw [hid, hs.next, ne_eq, idOf_eq_iff hlt hle]
  omega

/-- A prepare whose id is free leaves the session sound. -/
lemma Told.Sound.prepare {s : Told} (hs : s.Sound) (statement : PreparedStatement)
    (hfree : ∀ x ∈ s.live, s.prepares < x.number + idCount) :
    Told.Sound ⟨s.session.openStatement statement, s.prepares + 1,
      ⟨s.session.nextStatementId, statement.boundSql, s.prepares⟩ :: s.live⟩ where
  next := by
    have hnext := idOf_succ s.prepares
    rw [← hs.next] at hnext
    exact hnext
  ids := by
    intro x hx
    rcases List.mem_cons.1 hx with rfl | hx
    · refine ⟨hs.next, Nat.lt_succ_self _, ?_⟩
      simp only [idCount]
      omega
    · obtain ⟨hid, hlt, hle⟩ := hs.ids x hx
      have := hfree x hx
      exact ⟨hid, by simp only; omega, by simp only; omega⟩
  texts := by
    intro id
    unfold Told.named
    simp only [List.find?_cons]
    by_cases hid : s.session.nextStatementId = id
    · subst hid
      simp [CommandSession.openStatement]
    · have hne : (s.session.nextStatementId == id) = false := beq_false_of_ne hid
      rw [hne]
      have hold : (s.session.openStatement statement).statements id = s.session.statements id :=
        Function.update_of_ne (Ne.symm hid) _ _
      rw [hold]
      exact hs.texts id

lemma Told.Sound.close {s : Told} (hs : s.Sound) (id : ℕ) :
    Told.Sound ⟨{ s.session with statements := Function.update s.session.statements id none },
      s.prepares, s.live.filter (·.id != id)⟩ where
  next := hs.next
  ids := fun x hx => hs.ids x (List.mem_of_mem_filter hx)
  texts := by
    intro other
    unfold Told.named
    by_cases hother : other = id
    · subst hother
      simp [List.find?_filter]
    · have hfind : (s.live.filter (·.id != id)).find? (·.id == other) =
          s.live.find? (·.id == other) := by
        rw [List.find?_filter]
        congr 1
        funext x
        by_cases hx : x.id = other
        · simp [hx, hother]
        · simp [hx]
      simp only [hfind]
      rw [Function.update_of_ne hother]
      exact hs.texts other

lemma Told.Sound.keep {s : Told} (hs : s.Sound) {t : CommandSession}
    (h : SameTexts s.session t) : Told.Sound ⟨t, s.prepares, s.live⟩ where
  next := h.next.trans hs.next
  ids := hs.ids
  texts := fun id => (h.texts id).trans (hs.texts id)

variable (T) in
/-- One answered command leaves the session sound, unless it gives an id away twice. -/
lemma sound_step (s : Told) (c : Command C) (t : Told) (hs : s.Sound) (hok : NotOutlived T s c)
    (hstep : (commands C T).step s c = some t) : t.Sound := by
  have hok := hok ⟨t, hstep⟩
  simp only [commands] at hstep
  split at hstep
  · next reply session hanswered =>
    cases hstep
    unfold Told.heard
    rcases answered_cases hanswered with ⟨statement, htext, rfl⟩ | ⟨htext, id, hid, rfl⟩ |
        ⟨htext, hid, hsame⟩
    · rw [htext] at hok ⊢
      exact hs.prepare statement (hok rfl)
    · rw [htext, hid]
      exact hs.close id
    · rw [htext, hid]
      exact hs.keep hsame
  · cases hstep

/-- Where the session is sound, a command keeps the ids exactly when it does not outlive one. -/
lemma idsKept_iff (s : Told) (c : Command C) (hs : s.Sound) :
    IdsKept T s c ↔ NotOutlived T s c := by
  constructor
  · rintro h ⟨t, hstep⟩ hprepares
    simp only [commands] at hstep
    split at hstep
    · next reply session hanswered =>
      exact hs.fresh_iff.1 ((h reply session hanswered).fresh hprepares)
    · cases hstep
  · intro hok reply t hanswered
    refine ⟨fun hprepares => ?_, fun payload hpayload => ?_, fun id hid other hother => ?_⟩
    · refine hs.fresh_iff.2 (hok ⟨s.heard T c.payload t, ?_⟩ hprepares)
      simp only [commands, hanswered]
    · rw [hpayload] at hanswered
      obtain ⟨id, rest, entry, params, types, hhead, hentry, hreply, -⟩ :=
        stmtExecute_eq_ok (handleCommand_of_goOn hanswered)
      have htexts := hs.texts id
      rw [hentry] at htexts
      obtain ⟨x, hx, htext⟩ := Option.map_eq_some_iff.1 htexts.symm
      refine ⟨id, rest, x, params, hhead, hx, ?_⟩
      rw [htext]
      exact hreply
    · rcases answered_cases hanswered with ⟨statement, htext, -⟩ | ⟨-, id', hid', rfl⟩ |
          ⟨-, hnone, -⟩
      · rcases hpayload : c.payload with _ | ⟨command, payload⟩
        · rw [hpayload] at hid
          cases hid
        · rw [hpayload] at hid htext
          have hclose : command = comStmtClose := by
            by_contra hne
            rw [idClosed, if_neg hne] at hid
            cases hid
          rw [textPrepared, if_neg (by rw [hclose]; decide)] at htext
          cases htext
      · rw [hid] at hid'
        cases hid'
        exact Function.update_of_ne hother _ _
      · rw [hid] at hnone
        cases hnone

variable (T)

/-- **When an id names one statement for its whole life**: when no statement stays open through
as many prepares as there are ids. -/
theorem idsKept_along_iff (username : List Char) (database : Option (List Char))
    (cs : List (Command C)) :
    (commands C T).Along (IdsKept T) (.new username database) cs ↔
      (commands C T).Along (NotOutlived T) (.new username database) cs :=
  System.along_congr (fun s c t => sound_step T s c t) (fun s c => idsKept_iff s c)
    (sound_new username database) cs

/-! ### A statement that is left open -/

/-- Every text has one column. -/
def describedCalls : DbCalls plainCrates :=
  { oneCalls with
    describe := fun _ _ _ => .ok [⟨['1'], .int4⟩]
    describe_sound := by
      intro _ _ _ columns h c hc
      cases h
      rw [List.mem_singleton] at hc
      subst hc
      decide }

def selectOne : List Char := "SELECT 1".toList

def prepareOne : Command plainCrates := ⟨comStmtPrepare :: utf8 selectOne, describedCalls, by decide⟩

def closeId (id : ℕ) : Command plainCrates :=
  ⟨comStmtClose :: leBytes 4 id, describedCalls, by simp⟩

/-- One statement is prepared and left open; `n` others are prepared, and closed at once. -/
def leftOpen (n : ℕ) : List (Command plainCrates) :=
  prepareOne :: (List.range n).flatMap fun k => [prepareOne, closeId (idOf (k + 1))]

/-- The session of `leftOpen` after its first statements. -/
structure OneOpen (s : Told) (n : ℕ) : Prop where
  user : s.session.toMySqlSession = ⟨"admin".toList, "memory".toList⟩
  sound : s.Sound
  prepares : s.prepares = n
  live : s.live = [⟨1, selectOne, 0⟩]

lemma textPrepared_prepareOne {s : CommandSession}
    (h : s.toMySqlSession = ⟨"admin".toList, "memory".toList⟩) :
    textPrepared default s prepareOne.payload = some selectOne := by
  have hrun : slicedExecutionSql default selectOne ⟨"admin".toList, "memory".toList⟩ =
      .ok selectOne := rfl
  have hnumbered : (rewriteMysqlPlaceholders (trim selectOne)).1 = selectOne := by decide
  simp only [prepareOne, textPrepared, if_true, ofUtf8_utf8, Option.bind_some, hnumbered,
    executionText, h, hrun]
  rfl

lemma step_prepareOne {s : Told}
    (h : s.session.toMySqlSession = ⟨"admin".toList, "memory".toList⟩) :
    ∃ statement, statement.boundSql = selectOne ∧
      (commands plainCrates default).step s prepareOne =
        some ⟨s.session.openStatement statement, s.prepares + 1,
          ⟨s.session.nextStatementId, selectOne, s.prepares⟩ :: s.live⟩ := by
  have hrun : slicedExecutionSql default selectOne ⟨"admin".toList, "memory".toList⟩ =
      .ok selectOne := rfl
  have hnumbered : rewriteMysqlPlaceholders (trim selectOne) = (selectOne, 0) := by decide
  have hdecode : decodeText "invalid COM_STMT_PREPARE SQL UTF-8" (utf8 selectOne) =
      .ok selectOne := by
    simp only [decodeText, ofUtf8_utf8]
  have hhandle : ∃ reply, stmtPrepare default describedCalls s.session (utf8 selectOne) =
      .ok (reply, s.session.openStatement ⟨selectOne, 0, [⟨['1'], .int4⟩]⟩) := by
    refine ⟨prepareReply s.session.database s.session.nextStatementId 0 [⟨['1'], .int4⟩], ?_⟩
    simp only [stmtPrepare, hdecode, bind, Except.bind, hnumbered, executionText, h, hrun]
    rfl
  obtain ⟨reply, hhandle⟩ := hhandle
  have hanswered : commandStep default describedCalls s.session prepareOne.payload =
      .goOn reply (s.session.openStatement ⟨selectOne, 0, [⟨['1'], .int4⟩]⟩) := by
    have hcommand : handleCommand default describedCalls s.session comStmtPrepare
        (utf8 selectOne) = stmtPrepare default describedCalls s.session (utf8 selectOne) := rfl
    have hquit : comStmtPrepare ≠ comQuit := by decide
    rw [prepareOne, commandStep, if_neg hquit, hcommand, hhandle]
  refine ⟨⟨selectOne, 0, [⟨['1'], .int4⟩]⟩, rfl, ?_⟩
  have hdb : prepareOne.db = describedCalls := rfl
  simp only [commands, hdb, hanswered, Told.heard, textPrepared_prepareOne h]

lemma step_closeId (s : Told) {id : ℕ} (hid : id < 2 ^ 32) :
    (commands plainCrates default).step s (closeId id) =
      some ⟨{ s.session with statements := Function.update s.session.statements id none },
        s.prepares, s.live.filter (·.id != id)⟩ := by
  have hread : (getLe 4).run (leBytes 4 id) = .ok (id, []) := by
    have htakes := takes_getLe (k := 4) hid []
    rwa [List.append_nil] at htakes
  have hclosed : idClosed (closeId id).payload = some id := by
    simp only [closeId, idClosed, if_true, hread]
    rfl
  have htext : textPrepared default s.session (closeId id).payload = none := rfl
  have hhandle : stmtClose s.session (leBytes 4 id) =
      .ok ([], { s.session with statements := Function.update s.session.statements id none }) := by
    simp only [stmtClose, readPayload, hread]
    rfl
  have hanswered : commandStep default describedCalls s.session (closeId id).payload =
      .goOn [] { s.session with statements := Function.update s.session.statements id none } := by
    have hcommand : handleCommand default describedCalls s.session comStmtClose (leBytes 4 id) =
        stmtClose s.session (leBytes 4 id) := rfl
    have hquit : comStmtClose ≠ comQuit := by decide
    rw [closeId, commandStep, if_neg hquit, hcommand, hhandle]
  have hdb : (closeId id).db = describedCalls := rfl
  simp only [commands, hdb, hanswered, Told.heard, htext, hclosed]

lemma oneOpen_prepareOne :
    ∃ t, (commands plainCrates default).step (.new "admin".toList none) prepareOne = some t ∧
      OneOpen t 1 := by
  have hsound := sound_new "admin".toList none
  obtain ⟨statement, htext, hstep⟩ := step_prepareOne (s := .new "admin".toList none) rfl
  refine ⟨_, hstep, rfl, ?_, rfl, rfl⟩
  rw [← htext]
  exact hsound.prepare statement (by simp [Told.new])

/-- Another statement is prepared and closed. -/
lemma oneOpen_succ {s : Told} {n : ℕ} (h : OneOpen s n) (hpos : 0 < n) (hlt : n < idCount) :
    ∃ t, (commands plainCrates default).run s [prepareOne, closeId (idOf n)] = some t ∧
      OneOpen t (n + 1) := by
  obtain ⟨statement, htext, hstep⟩ := step_prepareOne h.user
  have hid : idOf n < 2 ^ 32 := by
    unfold idOf idCount
    omega
  have hne : idOf n ≠ 1 := by
    unfold idOf idCount at *
    omega
  have hsound := h.sound.prepare statement (by
    rw [h.live, h.prepares]
    simpa using hlt)
  rw [htext] at hsound
  refine ⟨_, (System.run_cons_eq_some _).2 ⟨_, hstep, (System.run_cons_eq_some _).2
    ⟨_, step_closeId _ hid, rfl⟩⟩, h.user, hsound.close (idOf n), ?_, ?_⟩
  · simp only [h.prepares]
  · have hnext : s.session.nextStatementId = idOf n := h.prepares ▸ h.sound.next
    simp only [h.live, hnext]
    simp [Ne.symm hne]

lemma run_leftOpen (n : ℕ) (h : n < idCount) :
    ∃ t, (commands plainCrates default).run (.new "admin".toList none) (leftOpen n) = some t ∧
      OneOpen t (n + 1) := by
  induction n with
  | zero =>
    obtain ⟨t, hstep, ht⟩ := oneOpen_prepareOne
    exact ⟨t, (System.run_cons_eq_some _).2 ⟨t, hstep, rfl⟩, ht⟩
  | succ n ih =>
    obtain ⟨t, hrun, ht⟩ := ih (by omega)
    obtain ⟨u, hu, hopen⟩ := oneOpen_succ ht (by omega) h
    refine ⟨u, ?_, hopen⟩
    have hsplit : leftOpen (n + 1) = leftOpen n ++ [prepareOne, closeId (idOf (n + 1))] := by
      simp [leftOpen, List.range_succ]
    rw [hsplit]
    exact System.run_append _ hrun hu

/-- **The next prepare takes the id of the open statement.** -/
theorem id_given_twice :
    ¬ (commands plainCrates default).Along (IdsKept default) (.new "admin".toList none)
      (leftOpen (idCount - 1) ++ [prepareOne]) := by
  intro h
  obtain ⟨t, hrun, ht⟩ := run_leftOpen (idCount - 1) (by simp [idCount])
  have hlast := (System.along_append_right hrun h).1
  obtain ⟨statement, -, hstep⟩ := step_prepareOne ht.user
  have hfresh := (idsKept_iff t prepareOne ht.sound).1 hlast ⟨_, hstep⟩
    (by rw [textPrepared_prepareOne ht.user]; rfl)
  have hage := hfresh ⟨1, selectOne, 0⟩ (by rw [ht.live]; exact List.mem_singleton_self _)
  rw [ht.prepares] at hage
  simp [idCount] at hage

end Rsduck.Mysql
