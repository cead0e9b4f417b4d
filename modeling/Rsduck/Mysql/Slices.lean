import Rsduck.Mysql.Command

/-!
Where the text of a statement is cut.

A keyword is looked for by cutting as many bytes off the text as the keyword has. A text whose
characters take several bytes can be cut inside one of them, and then the task that serves the
connection panics. Where it does not, the text that is run is `mysqlExecutionSql`.
-/

namespace Rsduck.Mysql

open Lib.Text Db

/-- The text has a character starting at byte `n`, or ends at or before it. -/
def endsOnBoundary : ℕ → List Char → Bool
  | 0, _ | _, [] => true
  | n, c :: r => c.utf8Size ≤ n && endsOnBoundary (n - c.utf8Size) r

structure Panic where
  deriving DecidableEq

/-- A reading of the text, which may find nothing, or panic. -/
abbrev Slicing := OptionT (Except Panic)

namespace Slicing

variable {α β : Type}

def ofOption (o : Option α) : Slicing α := OptionT.mk (.ok o)

def panic : Slicing α := OptionT.mk (.error ⟨⟩)

/-- Where the reading does not panic, it finds the given result. -/
def Agrees (m : Slicing α) (o : Option α) : Prop := ∀ x, m.run = .ok x → x = o

lemma agrees_ofOption (o : Option α) : Agrees (ofOption o) o := by
  intro x h
  cases h
  rfl

lemma agrees_panic (o : Option α) : Agrees panic o := by
  intro x h
  cases h

lemma agrees_pure (a : α) : Agrees (pure a) (some a) := by
  intro x h
  cases h
  rfl

lemma agrees_bind {m : Slicing α} {o : Option α} {f : α → Slicing β} {g : α → Option β}
    (hm : Agrees m o) (hf : ∀ a, Agrees (f a) (g a)) : Agrees (m >>= f) (o >>= g) := by
  intro x h
  rw [OptionT.run_bind] at h
  rcases hrun : m.run with e | y
  · rw [hrun] at h
    cases h
  · rw [hrun] at h
    rw [← hm y hrun]
    rcases y with _ | a
    · cases h
      rfl
    · exact hf a x h

lemma agrees_map {m : Slicing α} {o : Option α} (f : α → β) (hm : Agrees m o) :
    Agrees (f <$> m) (o.map f) := by
  have h := agrees_bind hm fun a => agrees_pure (f a)
  rw [bind_pure_comp] at h
  have hmap : (o >>= fun a => some (f a)) = o.map f := by
    cases o <;> rfl
  rwa [hmap] at h

lemma agrees_orElse {m m' : Slicing α} {o o' : Option α} (hm : Agrees m o) (hm' : Agrees m' o') :
    Agrees (m <|> m') (o <|> o') := by
  intro x h
  rcases hrun : m.run with e | y
  · have : (m <|> m').run = .error e := by
      show (m.run >>= _) = _
      rw [hrun]
      rfl
    rw [this] at h
    cases h
  · rw [← hm y hrun]
    rcases y with _ | a
    · have : (m <|> m').run = m'.run := by
        show (m.run >>= _) = _
        rw [hrun]
        rfl
      rw [this] at h
      rw [hm' x h]
      rfl
    · have : (m <|> m').run = .ok (some a) := by
        show (m.run >>= _) = _
        rw [hrun]
        rfl
      rw [this] at h
      cases h
      rfl

lemma agrees_some_bind {m : Slicing α} {a : α} {f : α → Slicing β} {o : Option β}
    (hm : Agrees m (some a)) (hf : Agrees (f a) o) : Agrees (m >>= f) o := by
  intro x h
  rw [OptionT.run_bind] at h
  rcases hrun : m.run with e | y
  · rw [hrun] at h
    cases h
  · rw [hrun, hm y hrun] at h
    exact hf x h

/-- Whether the reading finds something, and what. -/
def found (m : Slicing α) : Slicing (Option α) := OptionT.mk (some <$> m.run)

lemma agrees_found {m : Slicing α} {o : Option α} (hm : Agrees m o) :
    Agrees (found m) (some o) := by
  intro x h
  rcases hrun : m.run with e | y
  · rw [found, OptionT.run_mk, hrun] at h
    cases h
  · rw [found, OptionT.run_mk, hrun] at h
    cases h
    rw [hm y hrun]

/-! ### Words of a statement -/

def consumeKeyword (keyword : String) (s : List Char) : Slicing (List Char) :=
  if endsOnBoundary keyword.length s then ofOption (Mysql.consumeKeyword keyword s) else panic

def keyword (keyword : String) (s : List Char) : Slicing (List Char) :=
  skipMysqlSpace <$> consumeKeyword keyword s

def optionalKeyword (kw : String) (s : List Char) : Slicing (Bool × List Char) := do
  match ← found (keyword kw s) with
  | some r => return (true, r)
  | none => return (false, s)

def parseOptionalSchemaClause (s : List Char) : Slicing (Option (List Char) × List Char) := do
  match ← found (consumeKeyword "from" s <|> consumeKeyword "in" s) with
  | some r =>
    let (schema, r) ← ofOption (parseMysqlIdentifier (skipMysqlSpace r))
    return (some schema, skipMysqlSpace r)
  | none => return (none, s)

def parseShowFilter (s : List Char) : Slicing ShowFilter := do
  let s := skipMysqlSpace s
  if s = [] then return .none
  match ← found (consumeKeyword "like" s) with
  | some r => ofOption ((parseSingleQuotedLiteral (skipMysqlSpace r)).map .like)
  | none =>
    match ← found (consumeKeyword "where" s) with
    | some r => ofOption (if trim r = [] then none else some (.where (trim r)))
    | none => ofOption none

lemma agrees_consumeKeyword (kw : String) (s : List Char) :
    Agrees (consumeKeyword kw s) (Mysql.consumeKeyword kw s) := by
  unfold consumeKeyword
  split_ifs
  · exact agrees_ofOption _
  · exact agrees_panic _

lemma agrees_keyword (kw : String) (s : List Char) :
    Agrees (keyword kw s) (Mysql.keyword kw s) :=
  agrees_map _ (agrees_consumeKeyword kw s)

lemma agrees_optionalKeyword (kw : String) (s : List Char) :
    Agrees (optionalKeyword kw s) (some (Mysql.optionalKeyword kw s)) := by
  refine agrees_some_bind (agrees_found (agrees_keyword kw s)) ?_
  unfold Mysql.optionalKeyword
  rcases Mysql.keyword kw s with _ | r
  · exact agrees_pure _
  · exact agrees_pure _

lemma agrees_parseOptionalSchemaClause (s : List Char) :
    Agrees (parseOptionalSchemaClause s) (Mysql.parseOptionalSchemaClause s) := by
  refine agrees_some_bind (agrees_found (agrees_orElse (agrees_consumeKeyword "from" s)
    (agrees_consumeKeyword "in" s))) ?_
  unfold Mysql.parseOptionalSchemaClause
  rcases Mysql.consumeKeyword "from" s <|> Mysql.consumeKeyword "in" s with _ | r
  · exact agrees_pure _
  · exact agrees_bind (agrees_ofOption _) fun _ => agrees_pure _

lemma agrees_parseShowFilter (s : List Char) :
    Agrees (parseShowFilter s) (Mysql.parseShowFilter s) := by
  unfold parseShowFilter Mysql.parseShowFilter
  by_cases hs : skipMysqlSpace s = []
  · simp only [hs, if_true]
    exact agrees_pure _
  · simp only [hs, if_false]
    refine agrees_some_bind (agrees_found (agrees_consumeKeyword "like" _)) ?_
    rcases Mysql.consumeKeyword "like" (skipMysqlSpace s) with _ | r
    · refine agrees_some_bind (agrees_found (agrees_consumeKeyword "where" _)) ?_
      rcases Mysql.consumeKeyword "where" (skipMysqlSpace s) with _ | r
      · exact agrees_ofOption _
      · exact agrees_ofOption _
    · exact agrees_ofOption _

/-! ### Statements -/

def parseShowTablesQuery (sql : List Char) : Slicing ShowTablesQuery := do
  let s ← keyword "show" (bareStatement sql)
  let (full, s) ← optionalKeyword "full" s
  let s ← keyword "tables" s
  let (schema, s) ← parseOptionalSchemaClause s
  return { full, schema, filter := ← parseShowFilter s }

def parseShowTableStatusQuery (sql : List Char) : Slicing ShowTablesQuery := do
  let s ← keyword "show" (bareStatement sql)
  let (_, s) ← optionalKeyword "extended" s
  let s ← keyword "table" s
  let s ← keyword "status" s
  let (schema, s) ← parseOptionalSchemaClause s
  return { full := false, schema, filter := ← parseShowFilter s }

def parseShowTableDetailQuery (sql : List Char) : Slicing ShowTableDetailQuery := do
  let s ← keyword "show" (bareStatement sql)
  let s ← keyword "table" s
  let (schema, table, s) ← ofOption (parseMysqlQualifiedIdentifier s)
  ofOption (if skipMysqlSpace s = [] then some { schema, table } else none)

def parseShowSource (s : List Char) :
    Slicing (Option (List Char) × List Char × List Char) := do
  let s ← keyword "from" s <|> keyword "in" s
  let (schema, table, s) ← ofOption (parseMysqlQualifiedIdentifier s)
  let s := skipMysqlSpace s
  match schema with
  | some _ => return (schema, table, s)
  | none =>
    let (schema, s) ← parseOptionalSchemaClause s
    return (schema, table, s)

def parseShowColumnsQuery (sql : List Char) : Slicing ShowColumnsQuery := do
  let s := bareStatement sql
  match ← found (keyword "describe" s <|> keyword "desc" s) with
  | some s =>
    let (schema, table, s) ← ofOption (parseMysqlQualifiedIdentifier s)
    return { full := false, schema, table, filter := ← parseShowFilter s }
  | none =>
    let s ← keyword "show" s
    let (_, s) ← optionalKeyword "extended" s
    let (full, s) ← optionalKeyword "full" s
    let s ← keyword "columns" s <|> keyword "fields" s
    let (schema, table, s) ← parseShowSource s
    return { full, schema, table, filter := ← parseShowFilter s }

def parseShowIndexQuery (sql : List Char) : Slicing ShowIndexQuery := do
  let s ← keyword "show" (bareStatement sql)
  let s ← keyword "index" s <|> keyword "indexes" s <|> keyword "keys" s
  let (schema, table, s) ← parseShowSource s
  return { schema, table, filter := ← parseShowFilter s }

def parseShowRoutineStatus (sql : List Char) : Slicing (Bool × ShowFilter) := do
  let s ← keyword "show" (bareStatement sql)
  let (isFunction, s) ← ((true, ·) <$> keyword "function" s) <|>
    ((false, ·) <$> keyword "procedure" s)
  return (isFunction, ← parseShowFilter (← consumeKeyword "status" s))

lemma agrees_parseShowTablesQuery (sql : List Char) :
    Agrees (parseShowTablesQuery sql) (Mysql.parseShowTablesQuery sql) := by
  refine agrees_bind (agrees_keyword _ _) fun s => ?_
  refine agrees_some_bind (agrees_optionalKeyword _ _) ?_
  refine agrees_bind (agrees_keyword _ _) fun s => ?_
  refine agrees_bind (agrees_parseOptionalSchemaClause _) fun _ => ?_
  exact agrees_bind (agrees_parseShowFilter _) fun _ => agrees_pure _

lemma agrees_parseShowTableStatusQuery (sql : List Char) :
    Agrees (parseShowTableStatusQuery sql) (Mysql.parseShowTableStatusQuery sql) := by
  refine agrees_bind (agrees_keyword _ _) fun s => ?_
  refine agrees_some_bind (agrees_optionalKeyword _ _) ?_
  refine agrees_bind (agrees_keyword _ _) fun s => ?_
  refine agrees_bind (agrees_keyword _ _) fun s => ?_
  refine agrees_bind (agrees_parseOptionalSchemaClause _) fun _ => ?_
  exact agrees_bind (agrees_parseShowFilter _) fun _ => agrees_pure _

lemma agrees_parseShowTableDetailQuery (sql : List Char) :
    Agrees (parseShowTableDetailQuery sql) (Mysql.parseShowTableDetailQuery sql) := by
  refine agrees_bind (agrees_keyword _ _) fun s => ?_
  refine agrees_bind (agrees_keyword _ _) fun s => ?_
  exact agrees_bind (agrees_ofOption _) fun _ => agrees_ofOption _

lemma agrees_parseShowSource (s : List Char) :
    Agrees (parseShowSource s) (Mysql.parseShowSource s) := by
  refine agrees_bind (agrees_orElse (agrees_keyword _ _) (agrees_keyword _ _)) fun s => ?_
  refine agrees_bind (agrees_ofOption _) fun x => ?_
  obtain ⟨schema, table, r⟩ := x
  rcases schema with _ | schema
  · exact agrees_bind (agrees_parseOptionalSchemaClause _) fun _ => agrees_pure _
  · exact agrees_pure _

lemma agrees_parseShowColumnsQuery (sql : List Char) :
    Agrees (parseShowColumnsQuery sql) (Mysql.parseShowColumnsQuery sql) := by
  refine agrees_some_bind
    (agrees_found (agrees_orElse (agrees_keyword "describe" _) (agrees_keyword "desc" _))) ?_
  unfold Mysql.parseShowColumnsQuery
  dsimp only
  rcases Mysql.keyword "describe" (bareStatement sql) <|>
    Mysql.keyword "desc" (bareStatement sql) with _ | s
  · refine agrees_bind (agrees_keyword _ _) fun s => ?_
    refine agrees_some_bind (agrees_optionalKeyword _ _) ?_
    refine agrees_some_bind (agrees_optionalKeyword _ _) ?_
    refine agrees_bind (agrees_orElse (agrees_keyword _ _) (agrees_keyword _ _)) fun s => ?_
    refine agrees_bind (agrees_parseShowSource _) fun _ => ?_
    exact agrees_bind (agrees_parseShowFilter _) fun _ => agrees_pure _
  · refine agrees_bind (agrees_ofOption _) fun _ => ?_
    exact agrees_bind (agrees_parseShowFilter _) fun _ => agrees_pure _

lemma agrees_parseShowIndexQuery (sql : List Char) :
    Agrees (parseShowIndexQuery sql) (Mysql.parseShowIndexQuery sql) := by
  refine agrees_bind (agrees_keyword _ _) fun s => ?_
  refine agrees_bind (agrees_orElse (agrees_keyword _ _)
    (agrees_orElse (agrees_keyword _ _) (agrees_keyword _ _))) fun s => ?_
  refine agrees_bind (agrees_parseShowSource _) fun _ => ?_
  exact agrees_bind (agrees_parseShowFilter _) fun _ => agrees_pure _

lemma agrees_parseShowRoutineStatus (sql : List Char) :
    Agrees (parseShowRoutineStatus sql) (Mysql.parseShowRoutineStatus sql) := by
  refine agrees_bind (agrees_keyword _ _) fun s => ?_
  refine agrees_bind (agrees_orElse (agrees_map _ (agrees_keyword _ _))
    (agrees_map _ (agrees_keyword _ _))) fun _ => ?_
  refine agrees_bind (agrees_consumeKeyword _ _) fun _ => ?_
  exact agrees_bind (agrees_parseShowFilter _) fun _ => agrees_pure _

/-! ### The text that is run -/

variable (T : MetadataTexts) (sql currentSchema username : List Char)

/-- The statement read with its slices, then the query it becomes. -/
def rewriteSql : Slicing (List Char) :=
  (parseShowTableStatusQuery sql *> ofOption (showTableStatusSql T sql currentSchema username)) <|>
    (parseShowTableDetailQuery sql *>
      ofOption (showTableDetailSql T sql currentSchema username)) <|>
    (parseShowTablesQuery sql *> ofOption (showTablesSql T sql currentSchema username)) <|>
    (parseShowColumnsQuery sql *> ofOption (showColumnsSql T sql currentSchema username)) <|>
    (parseShowIndexQuery sql *> ofOption (showIndexSql T sql currentSchema username)) <|>
    (parseShowRoutineStatus sql *> ofOption (showRoutineStatusSql T sql currentSchema)) <|>
    ofOption (rewriteMysqlSystemSql T sql) <|>
    ofOption (rewriteInformationSchemaSql T sql username)

lemma agrees_then {m : Slicing α} {o : Option α} {o' : Option β} (hm : Agrees m o)
    (hnone : o = none → o' = none) : Agrees (m *> ofOption o') o' := by
  intro x h
  have hseq : (m *> ofOption o') = m >>= fun _ => ofOption o' := rfl
  rw [hseq, OptionT.run_bind] at h
  rcases hrun : m.run with e | y
  · rw [hrun] at h
    cases h
  · rw [hrun] at h
    have hy := hm y hrun
    rcases y with _ | a
    · cases h
      rw [hnone hy.symm]
    · cases h
      rfl

lemma agrees_rewriteSql :
    Agrees (rewriteSql T sql currentSchema username)
      (Mysql.rewriteSql T sql currentSchema username) := by
  refine agrees_orElse (agrees_then (agrees_parseShowTableStatusQuery sql) fun h => ?_) ?_
  · rw [showTableStatusSql, h]
    rfl
  refine agrees_orElse (agrees_then (agrees_parseShowTableDetailQuery sql) fun h => ?_) ?_
  · rw [showTableDetailSql, h]
    rfl
  refine agrees_orElse (agrees_then (agrees_parseShowTablesQuery sql) fun h => ?_) ?_
  · rw [showTablesSql, h]
    rfl
  refine agrees_orElse (agrees_then (agrees_parseShowColumnsQuery sql) fun h => ?_) ?_
  · rw [showColumnsSql, h]
    rfl
  refine agrees_orElse (agrees_then (agrees_parseShowIndexQuery sql) fun h => ?_) ?_
  · rw [showIndexSql, h]
    rfl
  refine agrees_orElse (agrees_then (agrees_parseShowRoutineStatus sql) fun h => ?_) ?_
  · rw [showRoutineStatusSql, h]
    rfl
  exact agrees_orElse (agrees_ofOption _) (agrees_ofOption _)

end Slicing

open Slicing

/-! ### `LIMIT offset, count` -/

/-- One of the keywords is looked for, until one is found. -/
def keywordsCut : List String → List Char → Bool
  | [], _ => false
  | kw :: kws, s =>
    !endsOnBoundary kw.length s || (consumeKeyword kw s).isNone && keywordsCut kws s

/-- A slice on the way of `findLimitCountEnd` ends inside a character. -/
def countEndCuts : ℕ → ℕ → List Char → Bool
  | 0, _, _ | _, _, [] => false
  | fuel + 1, depth, c :: r =>
    if startsComment (c :: r) ∧ depth = 0 then false
    else
      match skipOpaque (c :: r) with
      | some (_, rest) => countEndCuts fuel depth rest
      | none =>
        if c = ';' ∧ depth = 0 then false
        else if isAsciiWhitespace c ∧ depth = 0 then
          let rest := skipMysqlSpace (c :: r)
          keywordsCut limitTailKeywords rest ||
            !(limitTailKeywords.any fun kw => (consumeKeyword kw rest).isSome) &&
              countEndCuts fuel depth rest
        else countEndCuts fuel (depthAfter depth c) r

def limitTermsCut (s : List Char) : Bool :=
  match findLimitComma s.length 0 (skipMysqlSpace s) with
  | some (_, afterComma) => countEndCuts afterComma.length 0 (skipMysqlSpace afterComma)
  | none => false

/-- A slice on the way of `rewriteLimitFrom` ends inside a character. -/
def limitCuts : ℕ → Option Char → List Char → Bool
  | 0, _, _ | _, _, [] => false
  | fuel + 1, prev, c :: r =>
    match skipOpaque (c :: r) with
    | some (passed, rest) => limitCuts fuel passed.getLast? rest
    | none =>
      !endsOnBoundary "limit".length (c :: r) ||
        match consumeWord "limit" prev (c :: r) with
        | none => limitCuts fuel (some c) r
        | some terms =>
          limitTermsCut terms ||
            match parseMysqlLimitCommaTerms terms with
            | some (_, count, rest) => limitCuts fuel count.getLast? rest
            | none => limitCuts fuel (some c) r

/-! ### The text that is run -/

variable (T : MetadataTexts) (sql : List Char) (session : MySqlSession)

/-- The text that is run, or the panic on the way to it. -/
def slicedExecutionSql : Except Panic (List Char) := do
  match ← (Slicing.rewriteSql T sql (currentMysqlSchema session) session.username).run with
  | some rewritten => return rewriteMysqlQuotedIdentifiers rewritten
  | none =>
    if limitCuts sql.length none sql then throw ⟨⟩
    else return rewriteMysqlQuotedIdentifiers ((rewriteMysqlLimitOffsetComma sql).getD sql)

/-- **Without a panic the text is the one that is run.** -/
lemma slicedExecutionSql_eq {text : List Char} (h : slicedExecutionSql T sql session = .ok text) :
    text = mysqlExecutionSql T sql session := by
  unfold slicedExecutionSql at h
  have hagrees := agrees_rewriteSql T sql (currentMysqlSchema session) session.username
  unfold mysqlExecutionSql mysqlCatalogQuerySql
  rcases hrun : (Slicing.rewriteSql T sql (currentMysqlSchema session) session.username).run with
    e | x
  · rw [hrun] at h
    cases h
  · rw [← hagrees x hrun]
    rw [hrun] at h
    rcases x with _ | rewritten
    · simp only [pure, Except.pure, bind, Except.bind] at h
      split_ifs at h
      cases h
      rfl
    · cases h
      rfl

/-- A character of two bytes behind a keyword's length, and one that stands clear of it. -/
example : limitCuts 10 none "SELECT é".toList = true ∧
    limitCuts 20 none "SELECT 'many é'".toList = false := by decide

end Rsduck.Mysql
