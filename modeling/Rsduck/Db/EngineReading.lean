import Rsduck.Db.Execute
import Rsduck.Sql.DuckDb
import Rsduck.Sql.Reads

/-!
How the engine reads a text, and what it does with one by its reading alone.

The engine has a parser of its own. A text that only reads leaves nothing behind; one statement
that is no transaction statement is all or nothing.
-/

namespace Rsduck

open Lib Lib.Text Sql

/-! ### Trees -/

/-- Running the statement gives rows and no more, as far as its constructors say. -/
def Sql.Statement.readsOnly : Statement → Bool
  | .query q => !q.modifies
  | .explain analyze options _ statement => !explainRuns analyze options || statement.readsOnly
  | .pragma value _ => !value
  | .other kind parts => kind ∈ readKinds && kind != .exportData && !partsModify parts
  | _ => false

/-- Running the statement may begin or end a transaction. -/
def Sql.Statement.controlsTransaction : Statement → Bool
  | .startTransaction _ _ => true
  | .explain _ _ _ statement => statement.controlsTransaction
  | .other kind _ => kind ∈ [.commit, .rollback, .execute]
  | _ => false

/-! ### Names that are run -/

/-- Blanks and comments. -/
def Sql.DuckDb.Token.isGap (t : DuckDb.Token) : Bool :=
  t.kind == .line || t.kind == .block || t.text.all isAsciiWhitespace

/-- What stands before a bracket, or after the word `PRAGMA`. -/
def runNames : List DuckDb.Token → List (List Char)
  | t :: u :: ts =>
    (if u.text = ['('] then [t.text] else []) ++
      (if eqIgnoreAsciiCase t.text "pragma".toList then [u.text] else []) ++ runNames (u :: ts)
  | _ => []

/-- The functions and pragmas that a text runs, as they are written. -/
def namesRun (text : List Char) : List (List Char) :=
  runNames ((DuckDb.lex text).filter fun t => !t.isGap)

namespace Db

open Lib.Eff

/-- The engine's reading of texts: its parser, and which functions, pragmas and relations do more on
a connection than give rows (a sequence that advances, a view over a function that writes). -/
structure EngineReading (P K : Type) where
  parse : List Char → Except String (List Statement)
  acts : Conn P K → List Char → Prop
  actsWhenRead : Conn P K → ObjectName → Prop

namespace EngineReading

variable {C : Crates} {P K : Type} (R : EngineReading P K)

/-- The text only reads: its statements do, and so does what they run and read. -/
def ReadsOnly (s : Conn P K) (text : List Char) : Prop :=
  ∀ statements, R.parse text = .ok statements →
    (∀ statement ∈ statements, statement.readsOnly = true ∧
      ∀ name ∈ statement.reads, ¬ R.actsWhenRead s name) ∧
    ∀ name ∈ namesRun text, ¬ R.acts s name

/-- At most one statement, and none that begins or ends a transaction. -/
def StandsAlone (text : List Char) : Prop :=
  ∀ statements, R.parse text = .ok statements →
    statements.length ≤ 1 ∧ ∀ statement ∈ statements, statement.controlsTransaction = false

/-! ### What the engine does -/

/-- Opening a text that only reads leaves the connection as it was. -/
def ReadsQuietly (query : List Char → Eff (Conn P K) (Opened C)) : Prop :=
  ∀ s text, R.ReadsOnly s text → (exec (query text) s).2 = s

/-- Outside a transaction a text that stands alone is one statement of its own. -/
def Autocommits (execute : List Char → Eff (Conn P K) ℕ) : Prop :=
  ∀ s text, s.session.saved = none → R.StandsAlone text → ∃ m : Eff (Db P) ℕ,
    ((exec (execute text) s).1, (exec (execute text) s).2.session) =
      exec (Session.statement m) s.session

/-! ### An engine that does no more than it must -/

/-- A transaction begun, or ended. -/
def stirred (s : Conn P K) : Conn P K :=
  { s with session := { s.session with
      saved := if s.session.saved.isNone then some s.session.now else none } }

lemma isNone_stirred (s : Conn P K) :
    (stirred s).session.saved.isNone = !s.session.saved.isNone := by
  unfold stirred
  rcases s.session.saved with _ | d
  · rfl
  · rfl

lemma stirred_ne (s : Conn P K) : stirred s ≠ s := by
  intro h
  have hsaved := isNone_stirred s
  rw [h] at hsaved
  exact Bool.self_ne_not _ hsaved

/-- Columns that tell whether a transaction is open. -/
def openColumns (s : Conn P K) : List SqlColumn :=
  if s.session.saved.isNone then [] else [⟨"open".toList, .text⟩]

lemma openColumns_stirred (s : Conn P K) :
    (openColumns (stirred s)).length ≠ (openColumns s).length := by
  unfold openColumns
  rw [isNone_stirred]
  rcases s.session.saved.isNone with _ | _
  · decide
  · decide

open Classical in
/-- Texts that only read are all it leaves alone. -/
noncomputable def restless (text : List Char) : Eff (Conn P K) (Opened C) := fun s =>
  (.ok ⟨openColumns s, [], none⟩, if R.ReadsOnly s text then s else stirred s)

lemma readsQuietly_restless : R.ReadsQuietly (restless (C := C) R) := by
  intro s text h
  simp only [restless, exec, if_pos h]

lemma exec_restless_of_not_readsOnly {s : Conn P K} {text : List Char} (h : ¬ R.ReadsOnly s text) :
    (exec (restless (C := C) R text) s).2 = stirred s := by
  simp only [restless, exec, if_neg h]

end EngineReading

end Db

end Rsduck
