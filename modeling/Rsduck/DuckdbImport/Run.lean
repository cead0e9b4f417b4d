import Mathlib.Logic.Function.Basic
import Rsduck.DuckdbImport.Plan

/-!
A run of `import-duckdb`.

The source is read in one transaction. Of the server only its answers are seen, and what it does to
the tables of the target schema is a part of the state that the other parties of the run have.
-/

namespace Rsduck.DuckdbImport

open Lib Lib.Eff Lib.Attempt Lib.Text

inductive TableStatus
  | planned | succeeded | failed | unknown
  deriving DecidableEq

structure ImportTableReport where
  sourceSchema : String
  sourceTable : String
  targetTable : String
  status : TableStatus
  sourceRows : Option ℕ
  targetRows : Option ℕ
  error : Option String
  deriving DecidableEq

inductive ReportStatus
  | dryRun | dryRunFailed | succeeded | partialFailure
  deriving DecidableEq

structure ImportDuckDbReport where
  migrationId : String
  source : String
  targetSchema : String
  status : ReportStatus
  total : ℕ
  succeeded : ℕ
  failed : ℕ
  tables : List ImportTableReport
  deriving DecidableEq

def ImportDuckDbReport.exitCode (r : ImportDuckDbReport) : ℕ := if r.failed = 0 then 0 else 2

inductive ImportCallError
  | rejected (e : String)
  /-- the answer did not come, or could not be read -/
  | unknown (e : String)

/-- The source as its read transaction shows it. -/
structure Source where
  tables : Except String (List (String × String))
  columnTypes : String → String → Except String (List String)
  countRows : String → String → Except String ℤ

/-- The calls that a run makes, on the state of all that they reach. -/
structure Parties (ω : Type) where
  source : Source
  openSource : String → Eff ω String
  copyTo : (schema table path : String) → Eff ω PUnit
  login : (endpoint username password : String) → Eff ω PUnit
  importRoot : Eff ω String
  executeSql : String → Eff ω PUnit
  importTable : (source schema table : String) → ω → Except ImportCallError ℕ × ω
  createDirAll : String → Eff ω PUnit
  removeFile : String → ω → ω
  removeDir : String → ω → ω
  writeReport : ImportDuckDbReport → Eff ω PUnit

def quoteIdent (value : String) : String :=
  "\"" ++ String.ofList (value.toList.flatMap fun c => if c = '"' then ['"', '"'] else [c]) ++ "\""

def createSchemaSql (schema : String) : String := "CREATE SCHEMA IF NOT EXISTS " ++ quoteIdent schema

def dropTableSql (schema table : String) : String :=
  "DROP TABLE " ++ quoteIdent schema ++ "." ++ quoteIdent table

def validateConfig (config : ImportDuckDbConfig) : Except String Unit := do
  validateTargetIdentifier "schema" config.targetSchema
  if trimString config.username = "" then .error "import-duckdb username cannot be empty"
  else if config.password = "" then .error "import-duckdb password cannot be empty"
  else if config.ifExists ≠ "error" then
    .error "import-duckdb if-exists currently supports only: error"
  else .ok ()

def failedTableReport (t : SourceTable) (sourceRows : Option ℕ) (error : String) :
    ImportTableReport :=
  ⟨t.schema, t.table, t.table, .failed, sourceRows, none, some error⟩

def failedTableReportWithTarget (t : SourceTable) (sourceRows targetRows : ℕ) (error : String) :
    ImportTableReport :=
  { failedTableReport t (some sourceRows) error with targetRows := some targetRows }

def unknownTableReport (t : SourceTable) (sourceRows : ℕ) (error : String) : ImportTableReport :=
  { failedTableReport t (some sourceRows) error with status := .unknown }

def rowCountMismatch (sourceRows targetRows : ℕ) : String :=
  "row count mismatch: source=" ++ toString sourceRows ++ ", target=" ++ toString targetRows

section Run

variable {ω : Type} (W : Parties ω)

/-- A call that always comes back. -/
def call {α : Type} (f : ω → α × ω) : Eff ω α := fun w => (.ok (f w).1, (f w).2)

def sourceRowCount (t : SourceTable) : Except String ℕ := do
  let count ← W.source.countRows t.schema t.table
  if count < 0 then
    .error ("source table row count is invalid: " ++ t.schema ++ "." ++ t.table ++ "=" ++
      toString count)
  else .ok count.toNat

/-- Six digits at least. -/
def fileName (position : ℕ) : String :=
  let digits := Nat.toDigits 10 (position + 1)
  String.ofList (List.replicate (6 - digits.length) '0' ++ digits) ++ ".parquet"

/-- What the answer to an import says of the table. A table of another size is dropped again. -/
def settleTable (config : ImportDuckDbConfig) (t : SourceTable) (sourceRows : ℕ) :
    Except ImportCallError ℕ → Eff ω ImportTableReport
  | .ok targetRows =>
    if targetRows = sourceRows then
      return ⟨t.schema, t.table, t.table, .succeeded, some sourceRows, some targetRows, none⟩
    else do
      let mismatch := rowCountMismatch sourceRows targetRows
      match ← attempt (W.executeSql (dropTableSql config.targetSchema t.table)) with
      | .ok _ => return failedTableReportWithTarget t sourceRows targetRows mismatch
      | .error e =>
        return failedTableReportWithTarget t sourceRows targetRows
          (mismatch ++ "; cleanup target table failed: " ++ e)
  | .error (.rejected e) => return failedTableReport t (some sourceRows) e
  | .error (.unknown e) => return unknownTableReport t sourceRows e

def importSourceTable (config : ImportDuckDbConfig) (importRoot relativeJobDir : String)
    (position : ℕ) (t : SourceTable) : Eff ω ImportTableReport :=
  match t.preflightError with
  | some e => return failedTableReport t none e
  | none =>
    match sourceRowCount W t with
    | .error e => return failedTableReport t none e
    | .ok sourceRows => do
      let relativeParquet := relativeJobDir ++ "/" ++ fileName position
      let parquetPath := importRoot ++ "/" ++ relativeParquet
      match ← attempt (W.copyTo t.schema t.table parquetPath) with
      | .error e =>
        modify (W.removeFile parquetPath)
        return failedTableReport t (some sourceRows) e
      | .ok _ =>
        let answer ← call (W.importTable relativeParquet config.targetSchema t.table)
        if !config.keepTemp then modify (W.removeFile parquetPath)
        settleTable W config t sourceRows answer

def importSourceTables (config : ImportDuckDbConfig) (importRoot relativeJobDir : String) :
    ℕ → List SourceTable → Eff ω (List ImportTableReport)
  | _, [] => return []
  | position, t :: rest => do
    let report ← importSourceTable W config importRoot relativeJobDir position t
    let reports ← importSourceTables config importRoot relativeJobDir (position + 1) rest
    return report :: reports

def dryRunReport (t : SourceTable) : ImportTableReport :=
  ⟨t.schema, t.table, t.table, if t.preflightError.isSome then .failed else .planned, none, none,
    t.preflightError⟩

def runImportDuckdb (migrationId : String) (config : ImportDuckDbConfig) :
    Eff ω ImportDuckDbReport := do
  fromExcept (validateConfig config)
  let source ← W.openSource config.source
  let found ← fromExcept W.source.tables
  let planned ← fromExcept (plannedTables W.source.columnTypes found config.tables)
  W.login config.endpoint config.username config.password
  if config.dryRun then
    let tables := planned.map dryRunReport
    let failed := tables.countP fun t => t.status == .failed
    let report : ImportDuckDbReport :=
      { migrationId, source, targetSchema := config.targetSchema
        status := if failed = 0 then .dryRun else .dryRunFailed
        total := tables.length, succeeded := 0, failed, tables }
    W.writeReport report
    return report
  else
    let importRoot ← W.importRoot
    mapError ("create target schema failed: " ++ ·)
      (W.executeSql (createSchemaSql config.targetSchema))
    let relativeJobDir := ".rsduck-import/" ++ migrationId
    W.createDirAll (importRoot ++ "/" ++ relativeJobDir)
    let tables ← importSourceTables W config importRoot relativeJobDir 0 planned
    if !config.keepTemp then
      modify (W.removeDir (importRoot ++ "/" ++ relativeJobDir))
      modify (W.removeDir (importRoot ++ "/.rsduck-import"))
    let succeeded := tables.countP fun t => t.status == .succeeded
    let failed := tables.length - succeeded
    let report : ImportDuckDbReport :=
      { migrationId, source, targetSchema := config.targetSchema
        status := if failed = 0 then .succeeded else .partialFailure
        total := tables.length, succeeded, failed, tables }
    W.writeReport report
    return report

end Run

/-! ### What a report says of the target -/

/-- The tables of the target schema, by their names in lower case, with their numbers of rows, as the
calls are documented to change them. -/
structure Faithful {ω : Type} (W : Parties ω) (schema : String) (target : ω → String → Option ℕ) :
    Prop where
  openSource : ∀ path w, Spares target (W.openSource path) w
  login : ∀ endpoint username password w, Spares target (W.login endpoint username password) w
  importRoot : ∀ w, Spares target W.importRoot w
  createSchema : ∀ w, Spares target (W.executeSql (createSchemaSql schema)) w
  createDirAll : ∀ path w, Spares target (W.createDirAll path) w
  copyTo : ∀ s t path w, Spares target (W.copyTo s t path) w
  removeFile : ∀ path w, target (W.removeFile path w) = target w
  removeDir : ∀ path w, target (W.removeDir path w) = target w
  writeReport : ∀ report w, Spares target (W.writeReport report) w
  /-- an import makes its table, or changes nothing when it is rejected -/
  imported : ∀ path table w n w', W.importTable path schema table w = (.ok n, w') →
    target w' (lowerString table) = some n
  rejected : ∀ path table w e w', W.importTable path schema table w = (.error (.rejected e), w') →
    target w' = target w
  importOther : ∀ path table w name, name ≠ lowerString table →
    target (W.importTable path schema table w).2 name = target w name
  dropped : ∀ table w u w', Runs (W.executeSql (dropTableSql schema table)) w u w' →
    target w' (lowerString table) = none
  dropOther : ∀ table w name, name ≠ lowerString table →
    target (exec (W.executeSql (dropTableSql schema table)) w).2 name = target w name

/-- What a line of the report says is so. -/
def ImportTableReport.IsTrue (source : Source) (before after : String → Option ℕ)
    (r : ImportTableReport) : Prop :=
  match r.status with
  | .planned => after (lowerString r.targetTable) = before (lowerString r.targetTable)
  | .succeeded =>
    ∃ n : ℕ, source.countRows r.sourceSchema r.sourceTable = .ok (n : ℤ) ∧
      r.sourceRows = some n ∧ r.targetRows = some n ∧ after (lowerString r.targetTable) = some n
  | .failed =>
    match r.sourceRows, r.targetRows with
    | some m, some n => m ≠ n ∧ (r.error = some (rowCountMismatch m n) →
      after (lowerString r.targetTable) = none)
    | _, _ => after (lowerString r.targetTable) = before (lowerString r.targetTable)
  | .unknown => True

section Truth

variable {ω : Type} {W : Parties ω} {config : ImportDuckDbConfig} {target : ω → String → Option ℕ}
  {w w' : ω} {t : SourceTable} {r : ImportTableReport}

lemma runs_call {α : Type} {f : ω → α × ω} {a : α} : Runs (call f) w a w' ↔ f w = (a, w') := by
  unfold call Runs exec
  rw [Prod.mk.injEq, Except.ok.injEq, Prod.ext_iff]

lemma sourceRowCount_eq_ok {n : ℕ} (h : sourceRowCount W t = .ok n) :
    W.source.countRows t.schema t.table = .ok (n : ℤ) := by
  unfold sourceRowCount at h
  obtain ⟨count, hcount, h⟩ := bind_eq_ok.1 h
  obtain ⟨hnonneg, h⟩ := ite_error_eq_ok.1 h
  rw [hcount]
  cases h
  congr 1
  omega

/-- One table after its import was answered. -/
lemma settleTable_true (hW : Faithful W config.targetSchema target) {b : String → Option ℕ}
    {m : ℕ} {answer : Except ImportCallError ℕ}
    (hcount : W.source.countRows t.schema t.table = .ok (m : ℤ))
    (hok : ∀ n, answer = .ok n → target w (lowerString t.table) = some n)
    (hrejected : ∀ e, answer = .error (.rejected e) → target w = b)
    (h : Runs (settleTable W config t m answer) w r w') :
    r.sourceSchema = t.schema ∧ r.sourceTable = t.table ∧ r.targetTable = t.table ∧
      r.IsTrue W.source b (target w') ∧
      ∀ name, name ≠ lowerString t.table → target w' name = target w name := by
  rcases answer with (e | e) | n
  · obtain ⟨rfl, rfl⟩ := runs_pure.1 h
    refine ⟨rfl, rfl, rfl, ?_, fun _ _ => rfl⟩
    exact congrFun (hrejected e rfl) _
  · obtain ⟨rfl, rfl⟩ := runs_pure.1 h
    exact ⟨rfl, rfl, rfl, trivial, fun _ _ => rfl⟩
  · rw [settleTable] at h
    split_ifs at h with hsame
    · obtain ⟨rfl, rfl⟩ := runs_pure.1 h
      subst hsame
      exact ⟨rfl, rfl, rfl, ⟨n, hcount, rfl, rfl, hok n rfl⟩, fun _ _ => rfl⟩
    · obtain ⟨outcome, w₁, hdrop, h⟩ := runs_bind.1 h
      have hexec : exec (W.executeSql (dropTableSql config.targetSchema t.table)) w =
          (outcome, w₁) := by
        have := hdrop
        simp only [Runs, exec_attempt, Prod.mk.injEq, Except.ok.injEq] at this
        exact Prod.ext this.1 this.2
      have hother : ∀ name, name ≠ lowerString t.table → target w₁ name = target w name :=
        fun name hname => by
          have := hW.dropOther t.table w name hname
          rwa [hexec] at this
      rcases outcome with e | u
      · obtain ⟨rfl, rfl⟩ := runs_pure.1 h
        refine ⟨rfl, rfl, rfl, ⟨Ne.symm hsame, fun herror => ?_⟩, hother⟩
        have hlength := congrArg String.length (Option.some.inj herror)
        simp only [String.length_append] at hlength
        have hlong : 0 < "; cleanup target table failed: ".length := by decide
        omega
      · obtain ⟨rfl, rfl⟩ := runs_pure.1 h
        exact ⟨rfl, rfl, rfl, ⟨Ne.symm hsame, fun _ => hW.dropped _ _ _ _ hexec⟩, hother⟩

/-- One table of the plan. -/
lemma importSourceTable_true (hW : Faithful W config.targetSchema target) {root job : String}
    {position : ℕ} (h : Runs (importSourceTable W config root job position t) w r w') :
    r.sourceSchema = t.schema ∧ r.sourceTable = t.table ∧ r.targetTable = t.table ∧
      r.IsTrue W.source (target w) (target w') ∧
      ∀ name, (t.preflightError = none → name ≠ lowerString t.table) →
        target w' name = target w name := by
  unfold importSourceTable at h
  rcases hpre : t.preflightError with _ | e
  · rw [hpre] at h
    rcases hrows : sourceRowCount W t with e | m
    · rw [hrows] at h
      obtain ⟨rfl, rfl⟩ := runs_pure.1 h
      exact ⟨rfl, rfl, rfl, rfl, fun _ _ => rfl⟩
    · rw [hrows] at h
      have hcount := sourceRowCount_eq_ok hrows
      obtain ⟨outcome, w₁, hcopy, h⟩ := runs_bind.1 h
      have hcopied : target w₁ = target w := by
        have hspares := hW.copyTo t.schema t.table (root ++ "/" ++ (job ++ "/" ++ fileName position)) w
        exact (within_attempt hspares).of_runs hcopy
      rcases outcome with e | u
      · obtain ⟨_, w₂, hremove, h⟩ := runs_bind.1 h
        obtain rfl := runs_modify.1 hremove
        obtain ⟨rfl, rfl⟩ := runs_pure.1 h
        have hsame : target (W.removeFile (root ++ "/" ++ (job ++ "/" ++ fileName position)) w₁) =
            target w := (hW.removeFile _ _).trans hcopied
        exact ⟨rfl, rfl, rfl, congrFun hsame _, fun _ _ => congrFun hsame _⟩
      · obtain ⟨answer, w₂, himport, h⟩ := runs_bind.1 h
        have hcall : W.importTable (job ++ "/" ++ fileName position) config.targetSchema t.table w₁ =
            (answer, w₂) := runs_call.1 himport
        have hremoved : ∃ w₃, target w₃ = target w₂ ∧
            Runs (settleTable W config t m answer) w₃ r w' := by
          rcases hkeep : config.keepTemp with _ | _
          · simp only [hkeep, Bool.not_false, if_true] at h
            obtain ⟨_, w₃, hremove, h⟩ := runs_bind.1 h
            obtain rfl := runs_modify.1 hremove
            exact ⟨_, hW.removeFile _ _, h⟩
          · simp only [hkeep, Bool.not_true, Bool.false_eq_true, if_false] at h
            exact ⟨_, rfl, h⟩
        obtain ⟨w₃, hw₃, hsettle⟩ := hremoved
        have hother : ∀ name, name ≠ lowerString t.table → target w₃ name = target w name :=
          fun name hname => by
            have := hW.importOther (job ++ "/" ++ fileName position) t.table w₁ name hname
            rw [hcall] at this
            rw [hw₃, this, hcopied]
        obtain ⟨h1, h2, h3, htrue, hframe⟩ := settleTable_true hW (b := target w) hcount
          (fun n hn => by
            subst hn
            rw [hw₃]
            exact hW.imported _ _ _ _ _ hcall)
          (fun e he => by
            subst he
            rw [hw₃, hW.rejected _ _ _ _ _ hcall, hcopied]) hsettle
        refine ⟨h1, h2, h3, htrue, fun name hname => ?_⟩
        rw [hframe name (hname rfl), hother name (hname rfl)]
  · rw [hpre] at h
    obtain ⟨rfl, rfl⟩ := runs_pure.1 h
    exact ⟨rfl, rfl, rfl, rfl, fun _ _ => rfl⟩

/-- A line of the report is about a table of the plan. -/
def ImportTableReport.IsOf (r : ImportTableReport) (t : SourceTable) : Prop :=
  r.sourceSchema = t.schema ∧ r.sourceTable = t.table ∧ r.targetTable = t.table

/-- What is true of a table stays true when others are imported. -/
lemma ImportTableReport.IsTrue.of_eq {source : Source} {before before' after after' : String → Option ℕ}
    (h : r.IsTrue source before after)
    (hbefore : before' (lowerString r.targetTable) = before (lowerString r.targetTable))
    (hafter : after' (lowerString r.targetTable) = after (lowerString r.targetTable)) :
    r.IsTrue source before' after' := by
  unfold ImportTableReport.IsTrue at h ⊢
  rw [hbefore, hafter]
  exact h

/-- The loop over the plan: every line is true when the last table is done. -/
lemma importSourceTables_true (hW : Faithful W config.targetSchema target) {root job : String}
    {planned : List SourceTable}
    (hapart : planned.Pairwise fun p q => p.preflightError = none ∨ q.preflightError = none →
      lowerString p.table ≠ lowerString q.table) {position : ℕ} {reports : List ImportTableReport}
    (h : Runs (importSourceTables W config root job position planned) w reports w') :
    List.Forall₂ (fun t r => r.IsOf t ∧ r.IsTrue W.source (target w) (target w')) planned reports ∧
      ∀ name, (∀ t ∈ planned, t.preflightError = none → name ≠ lowerString t.table) →
        target w' name = target w name := by
  induction planned generalizing position reports w with
  | nil =>
    obtain ⟨rfl, rfl⟩ := runs_pure.1 h
    exact ⟨List.Forall₂.nil, fun _ _ => rfl⟩
  | cons t rest ih =>
    obtain ⟨hfirst, hapart⟩ := List.pairwise_cons.1 hapart
    obtain ⟨r, w₁, hone, h⟩ := runs_bind.1 h
    obtain ⟨rs, w₂, hrest, h⟩ := runs_bind.1 h
    obtain ⟨rfl, rfl⟩ := runs_pure.1 h
    obtain ⟨h1, h2, h3, htrue, hframe⟩ := importSourceTable_true hW hone
    obtain ⟨hall, hothers⟩ := ih hapart hrest
    constructor
    · refine List.Forall₂.cons ⟨⟨h1, h2, h3⟩, htrue.of_eq rfl ?_⟩ ?_
      · rw [h3]
        exact hothers _ fun u hu hnone => hfirst u hu (Or.inr hnone)
      · refine ((List.forall₂_and_left _ _).2 ⟨fun u hu => hu, hall⟩).imp fun u r' hr => ?_
        obtain ⟨hu, hof, htrue'⟩ := hr
        refine ⟨hof, htrue'.of_eq ?_ rfl⟩
        rw [hof.2.2]
        exact (hframe _ fun hnone hsame => hfirst u hu (Or.inl hnone) hsame.symm).symm
    · intro name hname
      rw [hothers name fun u hu => hname u (List.mem_cons_of_mem t hu)]
      exact hframe name (hname t List.mem_cons_self)

lemma exitCode_eq_zero {report : ImportDuckDbReport} : report.exitCode = 0 ↔ report.failed = 0 := by
  unfold ImportDuckDbReport.exitCode
  split_ifs with h <;> simp [h]

/-- **A report is true of the target.** However the source, the server and the file system answer,
a run that comes to its report has one line for each planned table, in order; each says what has
become of its table, as the target is when the run is over, and no other table was touched. The
numbers add up, and the exit code is 0 when no table has failed. -/
theorem runImportDuckdb_true (hW : Faithful W config.targetSchema target) {migrationId : String}
    {report : ImportDuckDbReport} (h : Runs (runImportDuckdb W migrationId config) w report w') :
    ∃ found planned, W.source.tables = .ok found ∧
      plannedTables W.source.columnTypes found config.tables = .ok planned ∧
      List.Forall₂ (fun t r => r.IsOf t ∧ r.IsTrue W.source (target w) (target w')) planned
        report.tables ∧
      (∀ name, (∀ t ∈ planned, name ≠ lowerString t.table) → target w' name = target w name) ∧
      report.total = planned.length ∧
      (config.dryRun = true → target w' = target w ∧ report.succeeded = 0) ∧
      (config.dryRun = false → report.total = report.succeeded + report.failed) ∧
      (report.exitCode = 0 ↔
        ∀ r ∈ report.tables, r.status = if config.dryRun then .planned else .succeeded) := by
  unfold runImportDuckdb at h
  obtain ⟨-, -, h⟩ := runs_fromExcept_bind.1 h
  obtain ⟨source, w₁, hopen, h⟩ := runs_bind.1 h
  obtain ⟨found, hfound, h⟩ := runs_fromExcept_bind.1 h
  obtain ⟨planned, hplanned, h⟩ := runs_fromExcept_bind.1 h
  obtain ⟨_, w₂, hlogin, h⟩ := runs_bind.1 h
  have hw₂ : target w₂ = target w :=
    ((hW.login _ _ _ _).of_runs hlogin).trans ((hW.openSource _ _).of_runs hopen)
  refine ⟨found, planned, hfound, hplanned, ?_⟩
  rcases hdry : config.dryRun with _ | _
  · simp only [hdry, Bool.false_eq_true, if_false] at h
    obtain ⟨root, w₃, hroot, h⟩ := runs_bind.1 h
    obtain ⟨_, w₄, hschema, h⟩ := runs_bind.1 h
    obtain ⟨_, w₅, hdir, h⟩ := runs_bind.1 h
    obtain ⟨reports, w₆, hloop, h⟩ := runs_bind.1 h
    have hw₅ : target w₅ = target w :=
      ((hW.createDirAll _ _).of_runs hdir).trans
        (((within_mapError _ (hW.createSchema _)).of_runs hschema).trans
          (((hW.importRoot _).of_runs hroot).trans hw₂))
    have hremoved : ∃ w₇, target w₇ = target w₆ ∧ Runs (do
        let succeeded := reports.countP fun t => t.status == .succeeded
        let failed := reports.length - succeeded
        let report : ImportDuckDbReport :=
          { migrationId, source, targetSchema := config.targetSchema
            status := if failed = 0 then .succeeded else .partialFailure
            total := reports.length, succeeded, failed, tables := reports }
        W.writeReport report
        return report) w₇ report w' := by
      rcases hkeep : config.keepTemp with _ | _
      · simp only [hkeep, Bool.not_false, if_true] at h
        obtain ⟨_, w₇, hremove, h⟩ := runs_bind.1 h
        obtain rfl := runs_modify.1 hremove
        obtain ⟨_, w₈, hremove', h⟩ := runs_bind.1 h
        obtain rfl := runs_modify.1 hremove'
        exact ⟨_, (hW.removeDir _ _).trans (hW.removeDir _ _), h⟩
      · simp only [hkeep, Bool.not_true, Bool.false_eq_true, if_false] at h
        exact ⟨_, rfl, h⟩
    obtain ⟨w₇, hw₇, h⟩ := hremoved
    obtain ⟨_, w₈, hwrite, h⟩ := runs_bind.1 h
    obtain ⟨rfl, rfl⟩ := runs_pure.1 h
    have hw' : target w' = target w₆ := ((hW.writeReport _ _).of_runs hwrite).trans hw₇
    have hapart := pairwise_of_judged (judged_of_plannedTables hplanned)
    obtain ⟨hall, hothers⟩ := importSourceTables_true hW hapart hloop
    rw [hw₅, ← hw'] at hall hothers
    refine ⟨hall, fun name hname => hothers name fun t ht _ => hname t ht, hall.length_eq.symm,
      nofun, fun _ => ?_, ?_⟩
    · exact (Nat.add_sub_of_le List.countP_le_length).symm
    · have hle := List.countP_le_length (p := fun t : ImportTableReport => t.status == .succeeded)
        (l := reports)
      have hzero : reports.length - reports.countP (fun t => t.status == .succeeded) = 0 ↔
          reports.countP (fun t => t.status == .succeeded) = reports.length := by omega
      simp only [exitCode_eq_zero, Bool.false_eq_true, if_false, hzero, List.countP_eq_length,
        beq_iff_eq]
  · simp only [hdry, if_true] at h
    obtain ⟨_, w₃, hwrite, h⟩ := runs_bind.1 h
    obtain ⟨rfl, rfl⟩ := runs_pure.1 h
    have hsame : target w' = target w := ((hW.writeReport _ _).of_runs hwrite).trans hw₂
    refine ⟨?_, fun name _ => congrFun hsame name, List.length_map _, fun _ => ⟨hsame, rfl⟩, nofun, ?_⟩
    · refine List.forall₂_map_right_iff.2 (List.forall₂_same.2 fun t _ => ⟨⟨rfl, rfl, rfl⟩, ?_⟩)
      rw [hsame]
      unfold ImportTableReport.IsTrue dryRunReport
      rcases t.preflightError with _ | e <;> rfl
    · simp only [exitCode_eq_zero, if_true, List.countP_eq_zero, beq_iff_eq, List.forall_mem_map]
      refine forall₂_congr fun t _ => ?_
      unfold dryRunReport
      rcases t.preflightError with _ | e <;> simp

end Truth

/-! ### Two tables -/

/-- A source with the tables `Events` and `Log`, each of two rows. -/
def eventsSource : Source where
  tables := .ok [("main", "Events"), ("main", "Log")]
  columnTypes _ _ := .ok ["BIGINT"]
  countRows _ _ := .ok 2

/-- A server that takes what it is sent but for `log`, and drops nothing. -/
def eventsParties : Parties (List (String × ℕ)) where
  source := eventsSource
  openSource path := pure path
  copyTo _ _ _ := pure ⟨⟩
  login _ _ _ := pure ⟨⟩
  importRoot := pure "/var/lib/rsduck"
  executeSql sql := if sql.toList.head? = some 'D' then throw "forbidden" else pure ⟨⟩
  importTable _ _ table w :=
    if lowerString table = "log" then (.error (.rejected "table exists"), w)
    else (.ok 2, (lowerString table, 2) :: w)
  createDirAll _ := pure ⟨⟩
  removeFile _ w := w
  removeDir _ w := w
  writeReport _ := pure ⟨⟩

def eventsConfig : ImportDuckDbConfig :=
  ⟨"events.duckdb", "crm", defaultEndpoint, defaultUsername, "secret", [], false, false, none, "error"⟩

def rowsIn (w : List (String × ℕ)) (name : String) : Option ℕ :=
  (w.find? fun t => t.1 == name).map (·.2)

lemma executeSql_dropTable (schema table : String) :
    eventsParties.executeSql (dropTableSql schema table) = throw "forbidden" := by
  refine if_pos ?_
  simp [dropTableSql, String.toList_append]

lemma importTable_log {path schema table : String} {w : List (String × ℕ)}
    (h : lowerString table = "log") :
    eventsParties.importTable path schema table w = (.error (.rejected "table exists"), w) :=
  if_pos h

lemma importTable_other {path schema table : String} {w : List (String × ℕ)}
    (h : lowerString table ≠ "log") :
    eventsParties.importTable path schema table w = (.ok 2, (lowerString table, 2) :: w) :=
  if_neg h

lemma faithful_eventsParties : Faithful eventsParties "crm" rowsIn where
  openSource _ _ := rfl
  login _ _ _ _ := rfl
  importRoot _ := rfl
  createSchema _ := rfl
  createDirAll _ _ := rfl
  copyTo _ _ _ _ := rfl
  removeFile _ _ := rfl
  removeDir _ _ := rfl
  writeReport _ _ := rfl
  imported path table w n w' h := by
    by_cases hlog : lowerString table = "log"
    · rw [importTable_log hlog] at h
      cases h
    · rw [importTable_other hlog] at h
      cases h
      simp [rowsIn]
  rejected path table w e w' h := by
    by_cases hlog : lowerString table = "log"
    · rw [importTable_log hlog] at h
      cases h
      rfl
    · rw [importTable_other hlog] at h
      cases h
  importOther path table w name hname := by
    by_cases hlog : lowerString table = "log"
    · rw [importTable_log hlog]
    · rw [importTable_other hlog]
      simp [rowsIn, Ne.symm hname]
  dropped table w u w' h := by
    rw [executeSql_dropTable] at h
    cases h
  dropOther table w name _ := by rw [executeSql_dropTable]; rfl

/-- One table has come over and the other was there before, and the report says so. -/
theorem events_true :
    ∃ w', Runs (runImportDuckdb eventsParties "job" eventsConfig) [("log", 7)]
        ⟨"job", "events.duckdb", "crm", .partialFailure, 2, 1, 1,
          [⟨"main", "Events", "Events", .succeeded, some 2, some 2, none⟩,
            ⟨"main", "Log", "Log", .failed, some 2, none, some "table exists"⟩]⟩ w' ∧
      (⟨"main", "Events", "Events", .succeeded, some 2, some 2, none⟩ : ImportTableReport).IsTrue
        eventsSource (rowsIn [("log", 7)]) (rowsIn w') ∧
      rowsIn w' (lowerString "Log") = some 7 := by
  have hrun : Runs (runImportDuckdb eventsParties "job" eventsConfig) [("log", 7)]
      ⟨"job", "events.duckdb", "crm", .partialFailure, 2, 1, 1,
        [⟨"main", "Events", "Events", .succeeded, some 2, some 2, none⟩,
          ⟨"main", "Log", "Log", .failed, some 2, none, some "table exists"⟩]⟩
      [("events", 2), ("log", 7)] := by
    rfl
  obtain ⟨_, _, -, -, hall, -⟩ := runImportDuckdb_true faithful_eventsParties hrun
  rcases hall with _ | ⟨⟨-, hevents⟩, _ | ⟨⟨-, hlog⟩, -⟩⟩
  exact ⟨_, hrun, hevents, hlog⟩

end Rsduck.DuckdbImport
