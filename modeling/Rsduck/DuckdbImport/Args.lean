import Mathlib.Data.List.Nodup
import Rsduck.Lib.Attempt
import Rsduck.Lib.Text

/-!
The command line of `import-duckdb`.

What is accepted is a sequence of options, each at most once, in any order; the rest of the module
shows that this is all there is to the parser's loop over the words.
-/

namespace Rsduck.DuckdbImport

open Lib.Attempt Lib.Text

def defaultEndpoint : String := "http://127.0.0.1:13307"
def defaultUsername : String := "admin"

structure ImportDuckDbConfig where
  source : String
  targetSchema : String
  endpoint : String
  username : String
  password : String
  tables : List String
  dryRun : Bool
  keepTemp : Bool
  report : Option String
  ifExists : String
  deriving DecidableEq

def reservedSchemas : List String :=
  ["rsduck_catalog", "rsduck_internal", "information_schema", "pg_catalog"]

def isIdentifierByte (c : Char) : Bool := c.isAlphanum || c == '_'

def validateTargetIdentifier (kind value : String) : Except String Unit :=
  match value.toList with
  | [] => .error ("import-duckdb target " ++ kind ++ " cannot be empty")
  | first :: rest =>
    if !(first.isAlpha || first == '_') || !rest.all isIdentifierByte then
      .error ("import-duckdb target " ++ kind ++ " contains unsupported characters: " ++ value)
    else if kind == "schema" && reservedSchemas.contains (lowerString value) then
      .error ("import-duckdb target schema is reserved: " ++ value)
    else .ok ()

/-- The options that take a value. -/
inductive ValueOption
  | source | targetSchema | endpoint | username | password | tables | report | ifExists
  deriving DecidableEq

namespace ValueOption

def all : List ValueOption :=
  [source, targetSchema, endpoint, username, password, tables, report, ifExists]

def flag : ValueOption → String
  | source => "--source"
  | targetSchema => "--target-schema"
  | endpoint => "--endpoint"
  | username => "--username"
  | password => "--password"
  | tables => "--tables"
  | report => "--report"
  | ifExists => "--if-exists"

def ofFlag (word : String) : Option ValueOption := all.find? fun o => o.flag == word

@[simp] lemma ofFlag_flag (o : ValueOption) : ofFlag o.flag = some o := by
  cases o <;> decide

lemma flag_of_ofFlag {word : String} {o : ValueOption} (h : ofFlag word = some o) :
    o.flag = word := by
  have hfound := List.find?_some (p := fun o : ValueOption => o.flag == word) h
  exact beq_iff_eq.1 hfound

lemma flag_ne_dryRun (o : ValueOption) : o.flag ≠ "--dry-run" := by
  cases o <;> decide

lemma flag_ne_keepTemp (o : ValueOption) : o.flag ≠ "--keep-temp" := by
  cases o <;> decide

end ValueOption

/-- The names in the value of `--tables`. -/
def selectedTables (value : String) : List String :=
  (((value.toList.splitOn ',').map trim).filter (· ≠ [])).map String.ofList

/-- What has been read of the options. -/
structure ImportOptions where
  source : Option String := none
  targetSchema : Option String := none
  endpoint : Option String := none
  username : Option String := none
  password : Option String := none
  tables : Option (List String) := none
  report : Option String := none
  ifExists : Option String := none
  dryRun : Bool := false
  keepTemp : Bool := false

namespace ImportOptions

def isSet (o : ImportOptions) : ValueOption → Bool
  | .source => o.source.isSome
  | .targetSchema => o.targetSchema.isSome
  | .endpoint => o.endpoint.isSome
  | .username => o.username.isSome
  | .password => o.password.isSome
  | .tables => o.tables.isSome
  | .report => o.report.isSome
  | .ifExists => o.ifExists.isSome

def put (o : ImportOptions) (value : String) : ValueOption → ImportOptions
  | .source => { o with source := some value }
  | .targetSchema => { o with targetSchema := some (trimString value) }
  | .endpoint => { o with endpoint := some (trimString value) }
  | .username => { o with username := some (trimString value) }
  | .password => { o with password := some value }
  | .tables => { o with tables := some (selectedTables value) }
  | .report => { o with report := some value }
  | .ifExists => { o with ifExists := some (lowerString (trimString value)) }

def setOnce (o : ImportOptions) (option : ValueOption) (value : String) :
    Except String ImportOptions :=
  if option = .tables ∧ selectedTables value = [] then
    .error "--tables must include at least one table"
  else if o.isSet option then .error ("duplicate import-duckdb option: " ++ option.flag)
  else .ok (o.put value option)

end ImportOptions

def readOptions (o : ImportOptions) : List String → Except String ImportOptions
  | [] => .ok o
  | flag :: rest =>
    if flag = "--dry-run" then
      if o.dryRun then .error "duplicate import-duckdb option: --dry-run"
      else readOptions { o with dryRun := true } rest
    else if flag = "--keep-temp" then
      if o.keepTemp then .error "duplicate import-duckdb option: --keep-temp"
      else readOptions { o with keepTemp := true } rest
    else
      match ValueOption.ofFlag flag with
      | none => .error ("unknown import-duckdb option: " ++ flag)
      | some option =>
        match rest with
        | [] => .error ("missing value for import-duckdb option: " ++ flag)
        | value :: rest =>
          if trimString value = "" then .error ("empty value for import-duckdb option: " ++ flag)
          else
            match o.setOnce option value with
            | .error e => .error e
            | .ok o => readOptions o rest

def required {α : Type} (flag : String) : Option α → Except String α
  | some value => .ok value
  | none => .error ("missing required option: " ++ flag)

def parseImportDuckdbArgs (args : List String) : Except String ImportDuckDbConfig := do
  let o ← readOptions {} args
  let targetSchema ← required "--target-schema" o.targetSchema
  validateTargetIdentifier "schema" targetSchema
  let password ← required "--password" o.password
  let ifExists := o.ifExists.getD "error"
  if ifExists ≠ "error" then .error "--if-exists currently supports only: error"
  else
    let source ← required "--source" o.source
    return {
      source, targetSchema, password, ifExists
      endpoint := o.endpoint.getD defaultEndpoint
      username := o.username.getD defaultUsername
      tables := o.tables.getD []
      dryRun := o.dryRun
      keepTemp := o.keepTemp
      report := o.report }

/-! ### The options of a command line -/

inductive Arg
  | dryRun
  | keepTemp
  | value (option : ValueOption) (text : String)

namespace Arg

def words : Arg → List String
  | dryRun => ["--dry-run"]
  | keepTemp => ["--keep-temp"]
  | value option text => [option.flag, text]

/-- The word that names it. -/
def flag : Arg → String
  | dryRun => "--dry-run"
  | keepTemp => "--keep-temp"
  | value option _ => option.flag

/-- The value is not blank, and a list of tables names one. -/
def Proper : Arg → Prop
  | dryRun | keepTemp => True
  | value option text => trimString text ≠ "" ∧ (option = .tables → selectedTables text ≠ [])

/-- The value it gives for an option. -/
def textFor (k : ValueOption) : Arg → Option String
  | dryRun | keepTemp => none
  | value option text => if option = k then some text else none

lemma flag_of_textFor {a : Arg} {k : ValueOption} {text : String} (h : a.textFor k = some text) :
    a.flag = k.flag := by
  rcases a with _ | _ | ⟨o, v⟩
  · cases h
  · cases h
  · rw [textFor] at h
    split_ifs at h with ho
    rw [flag, ho]

end Arg

/-- Each option at most once, with a proper value. -/
structure Admissible (given : List Arg) : Prop where
  once : (given.map Arg.flag).Nodup
  proper : ∀ a ∈ given, a.Proper

/-- The value given for an option. -/
def valueOf (given : List Arg) (option : ValueOption) : Option String :=
  given.findSome? (Arg.textFor option)

/-- **What an accepted command line says**: the options of its words, with the defaults of those
that are left out. -/
structure Says (given : List Arg) (c : ImportDuckDbConfig) : Prop where
  source : valueOf given .source = some c.source
  targetSchema : (valueOf given .targetSchema).map trimString = some c.targetSchema
  schemaOk : validateTargetIdentifier "schema" c.targetSchema = .ok ()
  endpoint : c.endpoint = ((valueOf given .endpoint).map trimString).getD defaultEndpoint
  username : c.username = ((valueOf given .username).map trimString).getD defaultUsername
  password : valueOf given .password = some c.password
  tables : c.tables = ((valueOf given .tables).map selectedTables).getD []
  report : c.report = valueOf given .report
  ifExists : ((valueOf given .ifExists).map fun v => lowerString (trimString v)).getD "error" =
    "error" ∧ c.ifExists = "error"
  dryRun : c.dryRun = true ↔ Arg.dryRun ∈ given
  keepTemp : c.keepTemp = true ↔ Arg.keepTemp ∈ given

/-! ### The loop over the words -/

namespace ImportOptions

def add (o : ImportOptions) : Arg → ImportOptions
  | .dryRun => { o with dryRun := true }
  | .keepTemp => { o with keepTemp := true }
  | .value option text => o.put text option

def has (o : ImportOptions) : Arg → Bool
  | .dryRun => o.dryRun
  | .keepTemp => o.keepTemp
  | .value option _ => o.isSet option

lemma isSet_put (o : ImportOptions) (text : String) (k l : ValueOption) :
    (o.put text k).isSet l = (o.isSet l || decide (k = l)) := by
  cases k <;> cases l <;> simp [put, isSet]

lemma flag_injective {k l : ValueOption} (h : k.flag = l.flag) : k = l := by
  have hk := ValueOption.ofFlag_flag k
  rw [h, ValueOption.ofFlag_flag] at hk
  exact (Option.some.inj hk).symm

lemma has_add (o : ImportOptions) (a b : Arg) :
    (o.add a).has b = true ↔ o.has b = true ∨ a.flag = b.flag := by
  have hdry := fun k => (ValueOption.flag_ne_dryRun k)
  have hkeep := fun k => (ValueOption.flag_ne_keepTemp k)
  rcases a with _ | _ | ⟨k, v⟩ <;> rcases b with _ | _ | ⟨l, w⟩
  all_goals simp only [add, has, Arg.flag]
  · simp
  · simp
  · cases l <;> simp [isSet, (hdry _).symm]
  · simp
  · simp
  · cases l <;> simp [isSet, (hkeep _).symm]
  · cases k <;> simp [put, hdry]
  · cases k <;> simp [put, hkeep]
  · rw [isSet_put]
    simp only [Bool.or_eq_true, decide_eq_true_eq]
    exact or_congr_right ⟨fun h => by rw [h], flag_injective⟩

end ImportOptions

lemma setOnce_eq_ok {o o' : ImportOptions} {k : ValueOption} {v : String} :
    o.setOnce k v = .ok o' ↔
      (k = .tables → selectedTables v ≠ []) ∧ o.isSet k = false ∧ o' = o.put v k := by
  unfold ImportOptions.setOnce
  split_ifs with htables hset
  · simp [htables]
  · simp [hset]
  · simp only [not_and, Except.ok.injEq] at htables ⊢
    exact ⟨fun h => ⟨htables, by simpa using hset, h.symm⟩, fun h => h.2.2.symm⟩

/-- One option is read. -/
lemma readOptions_words {o o' : ImportOptions} {a : Arg} {rest : List String} :
    readOptions o (a.words ++ rest) = .ok o' ↔
      a.Proper ∧ o.has a = false ∧ readOptions (o.add a) rest = .ok o' := by
  rcases a with _ | _ | ⟨k, v⟩
  · show readOptions o ("--dry-run" :: rest) = _ ↔ _
    rw [readOptions, if_pos rfl]
    rcases hset : o.dryRun with _ | _ <;>
      simp [Arg.Proper, ImportOptions.has, ImportOptions.add, hset]
  · show readOptions o ("--keep-temp" :: rest) = _ ↔ _
    rw [readOptions, if_neg (by decide), if_pos rfl]
    rcases hset : o.keepTemp with _ | _ <;>
      simp [Arg.Proper, ImportOptions.has, ImportOptions.add, hset]
  · show readOptions o (k.flag :: v :: rest) = _ ↔ _
    rw [readOptions, if_neg k.flag_ne_dryRun, if_neg k.flag_ne_keepTemp, ValueOption.ofFlag_flag]
    simp only [Arg.Proper, ImportOptions.has, ImportOptions.add]
    by_cases hblank : trimString v = ""
    · simp [hblank]
    · rw [if_neg hblank]
      rcases hset : o.setOnce k v with e | o₁
      · have hno : ¬ ((k = .tables → selectedTables v ≠ []) ∧ o.isSet k = false) := fun h => by
          have := setOnce_eq_ok.2 ⟨h.1, h.2, rfl⟩
          rw [hset] at this
          cases this
        simp only [reduceCtorEq, false_iff]
        rintro ⟨⟨-, htables⟩, hunset, -⟩
        exact hno ⟨htables, hunset⟩
      · obtain ⟨htables, hunset, rfl⟩ := setOnce_eq_ok.1 hset
        exact ⟨fun h => ⟨⟨hblank, htables⟩, hunset, h⟩, fun h => h.2.2⟩

/-- What is read begins with an option. -/
lemma exists_words_of_readOptions {o o' : ImportOptions} {flag : String} {rest : List String}
    (h : readOptions o (flag :: rest) = .ok o') :
    ∃ (a : Arg) (rest' : List String), flag :: rest = a.words ++ rest' := by
  rw [readOptions] at h
  split_ifs at h with hdry _ hkeep
  · exact ⟨.dryRun, rest, by rw [hdry]; rfl⟩
  · exact ⟨.keepTemp, rest, by rw [hkeep]; rfl⟩
  · rcases hflag : ValueOption.ofFlag flag with _ | k
    · rw [hflag] at h
      cases h
    · rcases rest with _ | ⟨v, rest⟩
      · rw [hflag] at h
        cases h
      · exact ⟨.value k v, rest, by rw [← ValueOption.flag_of_ofFlag hflag]; rfl⟩

/-- **The loop accepts options**, each at most once and none that it has already. -/
lemma readOptions_eq_ok {o o' : ImportOptions} {args : List String} :
    readOptions o args = .ok o' ↔
      ∃ given : List Arg, args = given.flatMap Arg.words ∧ Admissible given ∧
        (∀ a ∈ given, o.has a = false) ∧ o' = given.foldl ImportOptions.add o := by
  constructor
  · intro h
    induction hn : args.length using Nat.strong_induction_on generalizing o args with
    | _ n ih =>
      rcases args with _ | ⟨flag, rest⟩
      · rw [readOptions] at h
        cases h
        exact ⟨[], rfl, ⟨List.nodup_nil, by simp⟩, by simp, rfl⟩
      · obtain ⟨a, rest', hwords⟩ := exists_words_of_readOptions h
        rw [hwords] at h hn
        obtain ⟨hproper, hunset, hrest⟩ := readOptions_words.1 h
        have hshort : rest'.length < n := by
          rw [← hn, List.length_append]
          rcases a with _ | _ | ⟨k, v⟩ <;> simp [Arg.words]
        obtain ⟨given, rfl, hadm, hnew, rfl⟩ := ih _ hshort hrest rfl
        have hapart : ∀ b ∈ given, a.flag ≠ b.flag ∧ o.has b = false := fun b hb => by
          have hb := hnew b hb
          rw [Bool.eq_false_iff, ne_eq, ImportOptions.has_add, not_or, ← ne_eq,
            ← Bool.eq_false_iff] at hb
          exact hb.symm
        refine ⟨a :: given, by rw [hwords, List.flatMap_cons], ⟨?_, ?_⟩, ?_, rfl⟩
        · rw [List.map_cons, List.nodup_cons, List.mem_map]
          refine ⟨?_, hadm.once⟩
          rintro ⟨b, hb, hflag⟩
          exact (hapart b hb).1 hflag.symm
        · exact List.forall_mem_cons.2 ⟨hproper, hadm.proper⟩
        · exact List.forall_mem_cons.2 ⟨hunset, fun b hb => (hapart b hb).2⟩
  · rintro ⟨given, rfl, hadm, hnew, rfl⟩
    induction given generalizing o with
    | nil => rw [List.flatMap_nil, readOptions, List.foldl_nil]
    | cons a given ih =>
      obtain ⟨hfirst, hrest⟩ := List.nodup_cons.1 hadm.once
      rw [List.flatMap_cons, readOptions_words, List.foldl_cons]
      refine ⟨hadm.proper a List.mem_cons_self, hnew a List.mem_cons_self, ?_⟩
      refine ih ⟨hrest, fun b hb => hadm.proper b (List.mem_cons_of_mem a hb)⟩ fun b hb => ?_
      rw [Bool.eq_false_iff, ne_eq, ImportOptions.has_add, not_or]
      refine ⟨?_, fun hflag => hfirst (List.mem_map.2 ⟨b, hb, hflag.symm⟩)⟩
      rw [hnew b (List.mem_cons_of_mem a hb)]
      exact Bool.false_ne_true

/-! ### What the options come to -/

section Values

variable {α : Type} {g : ImportOptions → Option α} {f : String → α} {k : ValueOption}

lemma valueOf_cons (a : Arg) (given : List Arg) :
    valueOf (a :: given) k = (a.textFor k).or (valueOf given k) := by
  unfold valueOf
  rw [List.findSome?_cons]
  rcases a.textFor k with _ | text <;> rfl

lemma valueOf_eq_none {given : List Arg} (h : ∀ a ∈ given, a.flag ≠ k.flag) :
    valueOf given k = none := by
  unfold valueOf
  rw [List.findSome?_eq_none_iff]
  intro a ha
  rcases htext : a.textFor k with _ | text
  · rfl
  · exact absurd (Arg.flag_of_textFor htext) (h a ha)

/-- A field that only its own option sets. -/
lemma get_foldl_add
    (hget : ∀ (o : ImportOptions) (a : Arg), g (o.add a) = ((a.textFor k).map f).or (g o))
    {given : List Arg} (honce : (given.map Arg.flag).Nodup) (o : ImportOptions) :
    g (given.foldl ImportOptions.add o) = ((valueOf given k).map f).or (g o) := by
  induction given generalizing o with
  | nil => rfl
  | cons a given ih =>
    obtain ⟨hfirst, hrest⟩ := List.nodup_cons.1 honce
    rw [List.foldl_cons, ih hrest, hget, valueOf_cons]
    rcases htext : a.textFor k with _ | text
    · simp
    · have hnone : valueOf given k = none := valueOf_eq_none fun b hb hflag => by
        refine hfirst (List.mem_map.2 ⟨b, hb, ?_⟩)
        rw [hflag, Arg.flag_of_textFor htext]
      simp [hnone]

end Values

/-- The record of what has been read holds the values that were given. -/
structure ImportOptions.Holds (o : ImportOptions) (given : List Arg) : Prop where
  source : o.source = valueOf given .source
  targetSchema : o.targetSchema = (valueOf given .targetSchema).map trimString
  endpoint : o.endpoint = (valueOf given .endpoint).map trimString
  username : o.username = (valueOf given .username).map trimString
  password : o.password = valueOf given .password
  tables : o.tables = (valueOf given .tables).map selectedTables
  report : o.report = valueOf given .report
  ifExists : o.ifExists = (valueOf given .ifExists).map fun v => lowerString (trimString v)
  dryRun : o.dryRun = true ↔ Arg.dryRun ∈ given
  keepTemp : o.keepTemp = true ↔ Arg.keepTemp ∈ given

lemma dryRun_foldl_add (given : List Arg) (o : ImportOptions) :
    (given.foldl ImportOptions.add o).dryRun = true ↔ o.dryRun = true ∨ Arg.dryRun ∈ given := by
  induction given generalizing o with
  | nil => simp
  | cons a given ih =>
    rw [List.foldl_cons, ih, List.mem_cons]
    rcases a with _ | _ | ⟨_ | _ | _ | _ | _ | _ | _ | _, v⟩ <;>
      simp [ImportOptions.add, ImportOptions.put]

lemma keepTemp_foldl_add (given : List Arg) (o : ImportOptions) :
    (given.foldl ImportOptions.add o).keepTemp = true ↔
      o.keepTemp = true ∨ Arg.keepTemp ∈ given := by
  induction given generalizing o with
  | nil => simp
  | cons a given ih =>
    rw [List.foldl_cons, ih, List.mem_cons]
    rcases a with _ | _ | ⟨_ | _ | _ | _ | _ | _ | _ | _, v⟩ <;>
      simp [ImportOptions.add, ImportOptions.put]

lemma holds_foldl_add {given : List Arg} (honce : (given.map Arg.flag).Nodup) :
    (given.foldl ImportOptions.add {}).Holds given where
  source := by
    have hget := get_foldl_add (g := (·.source)) (f := id) (k := .source)
      (fun o a => by rcases a with _ | _ | ⟨_ | _ | _ | _ | _ | _ | _ | _, v⟩ <;> rfl) honce {}
    simpa using hget
  targetSchema := by
    have hget := get_foldl_add (g := (·.targetSchema)) (f := trimString) (k := .targetSchema)
      (fun o a => by rcases a with _ | _ | ⟨_ | _ | _ | _ | _ | _ | _ | _, v⟩ <;> rfl) honce {}
    simpa using hget
  endpoint := by
    have hget := get_foldl_add (g := (·.endpoint)) (f := trimString) (k := .endpoint)
      (fun o a => by rcases a with _ | _ | ⟨_ | _ | _ | _ | _ | _ | _ | _, v⟩ <;> rfl) honce {}
    simpa using hget
  username := by
    have hget := get_foldl_add (g := (·.username)) (f := trimString) (k := .username)
      (fun o a => by rcases a with _ | _ | ⟨_ | _ | _ | _ | _ | _ | _ | _, v⟩ <;> rfl) honce {}
    simpa using hget
  password := by
    have hget := get_foldl_add (g := (·.password)) (f := id) (k := .password)
      (fun o a => by rcases a with _ | _ | ⟨_ | _ | _ | _ | _ | _ | _ | _, v⟩ <;> rfl) honce {}
    simpa using hget
  tables := by
    have hget := get_foldl_add (g := (·.tables)) (f := selectedTables) (k := .tables)
      (fun o a => by rcases a with _ | _ | ⟨_ | _ | _ | _ | _ | _ | _ | _, v⟩ <;> rfl) honce {}
    simpa using hget
  report := by
    have hget := get_foldl_add (g := (·.report)) (f := id) (k := .report)
      (fun o a => by rcases a with _ | _ | ⟨_ | _ | _ | _ | _ | _ | _ | _, v⟩ <;> rfl) honce {}
    simpa using hget
  ifExists := by
    have hget := get_foldl_add (g := (·.ifExists)) (f := fun v => lowerString (trimString v))
      (k := .ifExists)
      (fun o a => by rcases a with _ | _ | ⟨_ | _ | _ | _ | _ | _ | _ | _, v⟩ <;> rfl) honce {}
    simpa using hget
  dryRun := by simp [dryRun_foldl_add]
  keepTemp := by simp [keepTemp_foldl_add]

lemma required_eq_ok {α : Type} {flag : String} {x : Option α} {a : α} :
    required flag x = .ok a ↔ x = some a := by
  rcases x with _ | b <;> simp [required]

/-- **`import-duckdb` takes a sequence of options**: in any order, each at most once and with a value
that is not blank, a target schema that may be written, a password and a source among them. What
it reads are their values. -/
theorem parseImportDuckdbArgs_eq_ok {args : List String} {c : ImportDuckDbConfig} :
    parseImportDuckdbArgs args = .ok c ↔
      ∃ given : List Arg, args = given.flatMap Arg.words ∧ Admissible given ∧ Says given c := by
  simp only [parseImportDuckdbArgs, bind_eq_ok, readOptions_eq_ok, required_eq_ok, ite_error_eq_ok,
    pure_eq_ok, not_not]
  constructor
  · rintro ⟨o, ⟨given, hwords, hadm, -, rfl⟩, schema, hschema, ⟨⟩, hvalid, password, hpassword,
      herror, source, hsource, rfl⟩
    have ho := holds_foldl_add hadm.once
    refine ⟨given, hwords, hadm, ?_⟩
    exact
      { source := ho.source.symm.trans hsource
        targetSchema := ho.targetSchema.symm.trans hschema
        schemaOk := hvalid
        endpoint := by rw [ho.endpoint]
        username := by rw [ho.username]
        password := ho.password.symm.trans hpassword
        tables := by rw [ho.tables]
        report := ho.report
        ifExists := ⟨by rw [← ho.ifExists, herror], herror⟩
        dryRun := ho.dryRun
        keepTemp := ho.keepTemp }
  · rintro ⟨given, hwords, hadm, hsays⟩
    have ho := holds_foldl_add hadm.once
    have herror : (given.foldl ImportOptions.add {}).ifExists.getD "error" = "error" := by
      rw [ho.ifExists, hsays.ifExists.1]
    refine ⟨_, ⟨given, hwords, hadm, ?_, rfl⟩, c.targetSchema, ?_, ⟨⟩, hsays.schemaOk, c.password, ?_,
      herror, c.source, ?_, ?_⟩
    · rintro (_ | _ | ⟨_ | _ | _ | _ | _ | _ | _ | _, v⟩) - <;> rfl
    · exact ho.targetSchema.trans hsays.targetSchema
    · exact ho.password.trans hsays.password
    · exact ho.source.trans hsays.source
    · have hdry : (given.foldl ImportOptions.add {}).dryRun = c.dryRun := by
        rw [Bool.eq_iff_iff, ho.dryRun, hsays.dryRun]
      have hkeep : (given.foldl ImportOptions.add {}).keepTemp = c.keepTemp := by
        rw [Bool.eq_iff_iff, ho.keepTemp, hsays.keepTemp]
      rw [herror, hdry, hkeep, ho.endpoint, ho.username, ho.tables, ho.report, ← hsays.endpoint,
        ← hsays.username, ← hsays.tables, ← hsays.report, ← hsays.ifExists.2]

/-- The options of a migration may come in any order. -/
example :
    parseImportDuckdbArgs ["--dry-run", "--password", " secret", "--tables", "main.memory, ,events",
        "--target-schema", "crm", "--source", "a.duckdb"] =
      .ok ⟨"a.duckdb", "crm", "http://127.0.0.1:13307", "admin", " secret", ["main.memory", "events"],
        true, false, none, "error"⟩ := by
  rfl

end Rsduck.DuckdbImport
