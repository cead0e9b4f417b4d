import Rsduck.DuckdbImport.Args
import Rsduck.Lib.Effect

/-!
Which tables `import-duckdb` takes, and which of them it leaves to the report as failed before it
asks the server for anything.
-/

namespace Rsduck.DuckdbImport

open Lib Lib.Attempt Lib.Text

structure SourceTable where
  schema : String
  table : String
  preflightError : Option String := none
  deriving DecidableEq

/-- A selector with a point names a schema too. -/
def selects (selector : String) (t : SourceTable) : Bool :=
  if selector.toList.contains '.' then
    lowerString selector == lowerString (t.schema ++ "." ++ t.table)
  else lowerString selector == lowerString t.table

/-- The selectors are tried in turn, and the first that selects the table is noted. -/
def selectTable (t : SourceTable) (matched : List String) : List String → Bool × List String
  | [] => (false, matched)
  | selector :: rest =>
    if selects selector t then (true, matched ++ [lowerString selector])
    else selectTable t matched rest

/-- `retain`, with the selectors noted. -/
def retainSelected (selectors matched : List String) :
    List SourceTable → List SourceTable × List String
  | [] => ([], matched)
  | t :: rest =>
    match selectTable t matched selectors with
    | (selected, matched) =>
      match retainSelected selectors matched rest with
      | (kept, matched) => (if selected then t :: kept else kept, matched)

def applyTableFilter (tables : List SourceTable) (selectors : List String) :
    Except String (List SourceTable) :=
  if selectors = [] then .ok tables
  else
    match retainSelected selectors [] tables with
    | (kept, matched) =>
      let missing := selectors.filter fun selector => !matched.contains (lowerString selector)
      if missing = [] then .ok kept
      else .error ("selected source tables do not exist: " ++ String.intercalate ", " missing)

def markDuplicateTargets (tables : List SourceTable) : List SourceTable :=
  tables.map fun t =>
    if 1 < tables.countP (fun u => lowerString u.table == lowerString t.table) then
      { t with
        preflightError := some ("duplicate target table name across source schemas: " ++ t.table) }
    else t

def hasFixedArray (dataType : String) : Bool :=
  let bytes := dataType.toList
  (bytes.zip bytes.tail).any fun (a, b) => a == '[' && b.isDigit

/-- The checks of one table, on the types of its columns. -/
def markUnsupportedTable (types : String → String → Except String (List String)) (t : SourceTable) :
    Except String SourceTable :=
  if t.preflightError.isSome then .ok t
  else
    match validateTargetIdentifier "table" t.table with
    | .error e => .ok { t with preflightError := some e }
    | .ok () => do
      let types ← types t.schema t.table
      match types.find? hasFixedArray with
      | some dataType =>
        let e := "fixed-size array type cannot be safely migrated through Parquet: " ++ dataType
        return { t with preflightError := some e }
      | none => return t

def markUnsupportedTables (types : String → String → Except String (List String))
    (tables : List SourceTable) : Except String (List SourceTable) :=
  tables.mapM (markUnsupportedTable types)

/-- The tables of the source, from the rows of the query for them. -/
def discoverSourceTables (rows : List (String × String)) : List SourceTable :=
  rows.map fun (schema, table) => { schema, table }

/-- What is found in the source is narrowed down and checked. -/
def plannedTables (types : String → String → Except String (List String))
    (found : List (String × String)) (selectors : List String) :
    Except String (List SourceTable) := do
  let sourceTables := discoverSourceTables found
  if sourceTables = [] then .error "source DuckDB contains no ordinary persistent tables"
  else
    let tables ← applyTableFilter sourceTables selectors
    markUnsupportedTables types (markDuplicateTargets tables)

/-! ### The filter -/

/-- The first selector that selects the table. -/
def selectorOf (selectors : List String) (t : SourceTable) : Option String :=
  selectors.find? fun selector => selects selector t

lemma selectTable_eq (t : SourceTable) (matched selectors : List String) :
    selectTable t matched selectors =
      ((selectorOf selectors t).isSome,
        matched ++ ((selectorOf selectors t).map lowerString).toList) := by
  induction selectors with
  | nil => simp [selectTable, selectorOf]
  | cons selector rest ih =>
    rw [selectTable, selectorOf, List.find?_cons]
    rcases hsel : selects selector t with _ | _
    · simpa [selectorOf] using ih
    · simp

lemma retainSelected_eq (selectors matched : List String) (tables : List SourceTable) :
    retainSelected selectors matched tables =
      (tables.filter fun t => (selectorOf selectors t).isSome,
        matched ++ tables.filterMap fun t => (selectorOf selectors t).map lowerString) := by
  induction tables generalizing matched with
  | nil => simp [retainSelected]
  | cons t rest ih =>
    rw [retainSelected, selectTable_eq]
    simp only [ih]
    rcases hsel : selectorOf selectors t with _ | selector <;> simp [hsel]

/-- A selector is counted only where no earlier one selects the table. -/
def Counts (selectors : List String) (found : List SourceTable) (selector : String) : Prop :=
  ∃ t ∈ found, ∃ first, selectorOf selectors t = some first ∧
    lowerString first = lowerString selector

lemma applyTableFilter_eq_ok {found kept : List SourceTable} {selectors : List String} :
    applyTableFilter found selectors = .ok kept ↔
      (selectors = [] ∧ kept = found) ∨
        (selectors ≠ [] ∧ (∀ selector ∈ selectors, Counts selectors found selector) ∧
          kept = found.filter fun t => selectors.any fun selector => selects selector t) := by
  unfold applyTableFilter
  by_cases hnone : selectors = []
  · simp [hnone, eq_comm]
  · have hfilter : (fun t => (selectorOf selectors t).isSome) =
        fun t => selectors.any fun selector => selects selector t := by
      ext t
      rw [Bool.eq_iff_iff, selectorOf, List.find?_isSome, List.any_eq_true]
    have hcounts : (selectors.filter fun selector => !(found.filterMap fun t =>
        (selectorOf selectors t).map lowerString).contains (lowerString selector)) = [] ↔
        ∀ selector ∈ selectors, Counts selectors found selector := by
      simp [List.filter_eq_nil_iff, Counts]
    rw [if_neg hnone, retainSelected_eq]
    simp only [List.nil_append, hfilter]
    by_cases hall : ∀ selector ∈ selectors, Counts selectors found selector
    · rw [if_pos (hcounts.2 hall), Except.ok.injEq]
      exact ⟨fun h => Or.inr ⟨hnone, hall, h.symm⟩, fun h => (h.resolve_left fun h => hnone h.1).2.2.symm⟩
    · rw [if_neg fun h => hall (hcounts.1 h)]
      simp [hnone, hall]

/-! ### The plan -/

/-- The tables that are selected: all of them without a selector. -/
def selectedOf (selectors : List String) (found : List (String × String)) : List SourceTable :=
  (discoverSourceTables found).filter fun t =>
    selectors = [] || selectors.any fun selector => selects selector t

/-- A table that the server is asked to take. -/
structure Importable (types : String → String → Except String (List String))
    (selected : List SourceTable) (t : SourceTable) : Prop where
  alone : selected.countP (fun u => lowerString u.table == lowerString t.table) ≤ 1
  named : validateTargetIdentifier "table" t.table = .ok ()
  carried : ∃ ts, types t.schema t.table = .ok ts ∧ ∀ dataType ∈ ts, hasFixedArray dataType = false

lemma applyTableFilter_found {found : List (String × String)} {kept : List SourceTable}
    {selectors : List String} :
    applyTableFilter (discoverSourceTables found) selectors = .ok kept ↔
      (∀ selector ∈ selectors, Counts selectors (discoverSourceTables found) selector) ∧
        kept = selectedOf selectors found := by
  rw [applyTableFilter_eq_ok, selectedOf]
  by_cases hnone : selectors = []
  · subst hnone
    simp
  · simp [hnone]

/-- The table with the error that `mark_duplicate_targets` finds for it. -/
def markDuplicate (selected : List SourceTable) (t : SourceTable) : SourceTable :=
  if 1 < selected.countP (fun u => lowerString u.table == lowerString t.table) then
    { t with
      preflightError := some ("duplicate target table name across source schemas: " ++ t.table) }
  else t

section Judged

variable {types : String → String → Except String (List String)} {selected : List SourceTable}
  {t p : SourceTable}

lemma judged_of_mark (ht : t.preflightError = none)
    (h : markUnsupportedTable types (markDuplicate selected t) = .ok p) :
    p.schema = t.schema ∧ p.table = t.table ∧
      (p.preflightError = none ↔ Importable types selected t) := by
  unfold markDuplicate at h
  split_ifs at h with halone
  · simp only [markUnsupportedTable, Option.isSome_some, if_true] at h
    cases h
    refine ⟨rfl, rfl, fun h => (by cases h), fun h => ?_⟩
    exact absurd h.alone (by omega)
  · rw [markUnsupportedTable, if_neg (by simp [ht])] at h
    rcases hnamed : validateTargetIdentifier "table" t.table with e | ⟨⟩
    · rw [hnamed] at h
      cases h
      refine ⟨rfl, rfl, fun h => (by cases h), fun h => ?_⟩
      have := h.named
      rw [hnamed] at this
      cases this
    · simp only [hnamed, bind_eq_ok] at h
      obtain ⟨ts, hts, h⟩ := h
      rcases hfind : ts.find? hasFixedArray with _ | dataType
      · rw [hfind] at h
        cases h
        refine ⟨rfl, rfl, fun _ => ⟨by omega, hnamed, ts, hts, ?_⟩, fun _ => ht⟩
        simpa using hfind
      · rw [hfind] at h
        cases h
        refine ⟨rfl, rfl, fun h => (by cases h), fun h => ?_⟩
        obtain ⟨ts', hts', hall⟩ := h.carried
        obtain rfl : ts = ts' := by
          rw [hts] at hts'
          cases hts'
          rfl
        have hfixed := List.find?_some hfind
        rw [hall _ (List.mem_of_find?_eq_some hfind)] at hfixed
        cases hfixed

lemma exists_mark_iff (ht : t.preflightError = none) :
    (∃ p, markUnsupportedTable types (markDuplicate selected t) = .ok p) ↔
      (selected.countP (fun u => lowerString u.table == lowerString t.table) ≤ 1 →
        validateTargetIdentifier "table" t.table = .ok () →
          ∃ ts, types t.schema t.table = .ok ts) := by
  unfold markDuplicate
  split_ifs with halone
  · simp only [markUnsupportedTable, Option.isSome_some, if_true]
    exact ⟨fun _ hle => absurd hle (by omega), fun _ => ⟨_, rfl⟩⟩
  · rw [markUnsupportedTable, if_neg (by simp [ht])]
    rcases hnamed : validateTargetIdentifier "table" t.table with e | ⟨⟩
    · exact ⟨fun _ _ h => (by cases h), fun _ => ⟨_, rfl⟩⟩
    · rcases hts : types t.schema t.table with e | ts
      · simp [bind, Except.bind, halone]
      · refine ⟨fun _ _ _ => ⟨ts, rfl⟩, fun _ => ?_⟩
        simp only [bind_eq_ok]
        rcases hfind : ts.find? hasFixedArray with _ | dataType
        · exact ⟨_, ts, rfl, by rw [hfind]; rfl⟩
        · exact ⟨_, ts, rfl, by rw [hfind]; rfl⟩

end Judged

lemma preflightError_of_selected {selectors : List String} {found : List (String × String)}
    {t : SourceTable} (h : t ∈ selectedOf selectors found) : t.preflightError = none := by
  obtain ⟨⟨schema, table⟩, -, rfl⟩ := List.mem_map.1 (List.mem_of_mem_filter h)
  rfl

lemma exists_of_forall₂ {α β : Type} {R : α → β → Prop} {xs : List α} {ys : List β}
    (h : List.Forall₂ R xs ys) {y : β} (hy : y ∈ ys) : ∃ x ∈ xs, R x y := by
  induction h with
  | nil => cases hy
  | cons hxy _ ih =>
    rcases List.mem_cons.1 hy with rfl | hy
    · exact ⟨_, List.mem_cons_self, hxy⟩
    · obtain ⟨x, hx, hR⟩ := ih hy
      exact ⟨x, List.mem_cons_of_mem _ hx, hR⟩

/-- Two tables with one target name are not both alone with it. -/
lemma pairwise_of_judged {types : String → String → Except String (List String)}
    {selected planned : List SourceTable}
    (h : List.Forall₂ (fun t p => p.schema = t.schema ∧ p.table = t.table ∧
      (p.preflightError = none ↔ Importable types selected t)) selected planned) :
    planned.Pairwise fun p q => p.preflightError = none ∨ q.preflightError = none →
      lowerString p.table ≠ lowerString q.table := by
  have hnames : planned.map (·.table) = selected.map (·.table) := by
    have hrel : List.Forall₂ (fun t p => p.table = t.table) selected planned :=
      h.imp fun _ _ hp => hp.2.1
    clear h
    induction hrel with
    | nil => rfl
    | cons hp _ ih => rw [List.map_cons, List.map_cons, ih, hp]
  have htwice : ∀ p ∈ planned, p.preflightError = none →
      ((planned.map (·.table)).countP fun name => lowerString name == lowerString p.table) ≤ 1 := by
    intro p hp hnone
    obtain ⟨t, -, -, htable, himp⟩ := exists_of_forall₂ h hp
    rw [hnames, List.countP_map, htable]
    exact (himp.1 hnone).alone
  rw [List.pairwise_iff_forall_sublist]
  intro p q hsub hnone hsame
  have htwo : ∀ name, name = lowerString p.table →
      2 ≤ (planned.map (·.table)).countP fun other => lowerString other == name := by
    rintro _ rfl
    rw [List.countP_map]
    refine le_trans ?_ hsub.countP_le
    simp [hsame]
  rcases hnone with hnone | hnone
  · exact absurd (htwo _ rfl) (by have := htwice p (hsub.subset (by simp)) hnone; omega)
  · exact absurd (htwo _ hsame.symm) (by have := htwice q (hsub.subset (by simp)) hnone; omega)

/-- A plan names the tables that are selected, and each one is marked by itself. -/
lemma plannedTables_eq_ok {types : String → String → Except String (List String)}
    {found : List (String × String)} {selectors : List String} {planned : List SourceTable} :
    plannedTables types found selectors = .ok planned ↔ found ≠ [] ∧
      (∀ selector ∈ selectors, Counts selectors (discoverSourceTables found) selector) ∧
      (selectedOf selectors found).mapM
        (fun t => markUnsupportedTable types (markDuplicate (selectedOf selectors found) t)) =
          .ok planned := by
  have hnil : discoverSourceTables found = [] ↔ found = [] := List.map_eq_nil_iff
  unfold plannedTables
  simp only [ite_error_eq_ok, hnil, bind_eq_ok, applyTableFilter_found]
  constructor
  · rintro ⟨hne, kept, ⟨hcounts, rfl⟩, h⟩
    refine ⟨hne, hcounts, ?_⟩
    rw [← h, markUnsupportedTables, markDuplicateTargets, List.mapM_map]
    rfl
  · rintro ⟨hne, hcounts, h⟩
    refine ⟨hne, _, ⟨hcounts, rfl⟩, ?_⟩
    rw [← h, markUnsupportedTables, markDuplicateTargets, List.mapM_map]
    rfl

/-- Each table of a plan is judged by its names and its columns. -/
lemma judged_of_plannedTables {types : String → String → Except String (List String)}
    {found : List (String × String)} {selectors : List String} {planned : List SourceTable}
    (h : plannedTables types found selectors = .ok planned) :
    List.Forall₂ (fun t p => p.schema = t.schema ∧ p.table = t.table ∧
        (p.preflightError = none ↔ Importable types (selectedOf selectors found) t))
      (selectedOf selectors found) planned := by
  obtain ⟨-, -, hmap⟩ := plannedTables_eq_ok.1 h
  exact ((List.forall₂_and_left _ _).2 ⟨fun t ht => preflightError_of_selected ht,
    mapM_eq_ok.1 hmap⟩).imp fun t p hp => judged_of_mark hp.1 hp.2

/-- **What the plan says.** It fails only where nothing is found, where a selector selects no table
of its own, or where the types of a table that would be taken cannot be read. It lists the
selected tables in their order; those without an error are the importable ones, and such a table
shares its target with no other. -/
theorem plannedTables_exact (types : String → String → Except String (List String))
    (found : List (String × String)) (selectors : List String) :
    ((∃ planned, plannedTables types found selectors = .ok planned) ↔
      found ≠ [] ∧
        (∀ selector ∈ selectors, Counts selectors (discoverSourceTables found) selector) ∧
        ∀ t ∈ selectedOf selectors found,
          (selectedOf selectors found).countP
              (fun u => lowerString u.table == lowerString t.table) ≤ 1 →
            validateTargetIdentifier "table" t.table = .ok () →
              ∃ ts, types t.schema t.table = .ok ts) ∧
      ∀ planned, plannedTables types found selectors = .ok planned →
        List.Forall₂ (fun t p => p.schema = t.schema ∧ p.table = t.table ∧
            (p.preflightError = none ↔ Importable types (selectedOf selectors found) t))
          (selectedOf selectors found) planned ∧
        planned.Pairwise fun p q => p.preflightError = none ∨ q.preflightError = none →
          lowerString p.table ≠ lowerString q.table := by
  refine ⟨?_, fun planned h => ?_⟩
  · simp only [plannedTables_eq_ok]
    have hexists := exists_mapM_eq_ok (l := selectedOf selectors found)
      (f := fun t => markUnsupportedTable types (markDuplicate (selectedOf selectors found) t))
    constructor
    · rintro ⟨planned, hne, hcounts, h⟩
      refine ⟨hne, hcounts, fun t ht => ?_⟩
      exact (exists_mark_iff (preflightError_of_selected ht)).1 (hexists.1 ⟨planned, h⟩ t ht)
    · rintro ⟨hne, hcounts, h⟩
      obtain ⟨planned, hmap⟩ := hexists.2 fun t ht =>
        (exists_mark_iff (preflightError_of_selected ht)).2 (h t ht)
      exact ⟨planned, hne, hcounts, hmap⟩
  · exact ⟨judged_of_plannedTables h, pairwise_of_judged (judged_of_plannedTables h)⟩

/-- A table that is named twice counts for the first of its two names only. -/
example : plannedTables (fun _ _ => .ok []) [("main", "events")] ["events", "main.events"] =
    .error "selected source tables do not exist: main.events" := by
  rfl

end Rsduck.DuckdbImport
