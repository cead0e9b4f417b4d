import Mathlib.Algebra.Group.Nat.Defs
import Rsduck.Lib.DecimalText
import Rsduck.Lib.Nesting
import Rsduck.Lib.Window
import Rsduck.Sql.Lexical
import Rsduck.Sql.Syntax
import Rsduck.Sql.Text

/-!
A page of a query's result for the web console.

The text of the query is put into the parentheses of another query, which selects the rows of
the page.
-/

namespace Rsduck.Server

open Sql Lib Lib.Text

/-! ### What is asked of the parser crate -/

/-- The limit clause of a query. -/
inductive LimitClause
  | limitOffset (limit offset : Option (List Char))
  | offsetCommaLimit (offset limit : List Char)

/-- The parser crate: how it cuts a text into tokens, the statements of the tokens, how deep it goes
for them, and what a query says besides its tree. -/
structure QueryParser where
  Token : Type
  lexer : Lexer Char Token
  /-- The text reaches the token's own end. -/
  complete : Token → Bool
  isLineComment : Token → Bool
  mark : Token → Mark
  parseTokens : List Token → Except String (List Statement)
  depth : List Token → ℕ
  /-- What a query in parentheses adds to the depth. -/
  derivedDepth : ℕ
  recursionLimit : ℕ
  limitClause : Query → Option LimitClause
  fetch : Query → Option (List Char)

namespace QueryParser

variable (P : QueryParser)

def parse (sql : List Char) : Except String (List Statement) := P.parseTokens (P.lexer.lex sql)

/-! ### `sql_route.rs` -/

def isPageableSql (sql : List Char) : Except String Bool :=
  match P.parse sql with
  | .error e => .error ("sql parse failed: " ++ e)
  | .ok [.query _] => .ok true
  | .ok _ => .ok false

def hasTopLevelLimitOrOffset (sql : List Char) : Except String Bool :=
  match P.parse sql with
  | .error e => .error ("sql parse failed: " ++ e)
  | .ok [.query q] => .ok ((P.fetch q).isSome ||
      match P.limitClause q with
      | some (.limitOffset limit offset) => limit.isSome || offset.isSome
      | some (.offsetCommaLimit _ _) => true
      | none => false)
  | .ok _ => .ok false

end QueryParser

/-! ### `paged_sql` -/

/-- The text without white space and semicolons around it. -/
def bareQuery (sql : List Char) : List Char := trim (trimEndMatches ';' (trim sql))

/-- The largest `usize`. -/
def usizeMax : ℕ := 2 ^ 64 - 1

def pageLimit (pageSize : ℕ) : ℕ := max 1 (min pageSize 100000)

def pageOffset (page pageSize : ℕ) : ℕ := min (page * pageLimit pageSize) usizeMax

def pageOpening : List Char := "SELECT * FROM (".toList

def pageClosing (limit offset : List Char) : List Char :=
  ") __rsduck_page LIMIT ".toList ++ limit ++ " OFFSET ".toList ++ offset

def pageText (sql : List Char) (limit offset : ℕ) : List Char :=
  pageOpening ++ (sql ++ pageClosing (Nat.toDigits 10 limit) (Nat.toDigits 10 offset))

/-- A refusal of the parser counts as no. -/
def unwrapOrFalse : Except String Bool → Bool
  | .ok b => b
  | .error _ => false

def pagedSql (P : QueryParser) (sql : List Char) (page pageSize : ℕ) : List Char :=
  let sql := bareQuery sql
  if !unwrapOrFalse (P.isPageableSql sql) then sql
  else if unwrapOrFalse (P.hasTopLevelLimitOrOffset sql) then sql
  else pageText sql (pageLimit pageSize) (pageOffset page pageSize)

/-! ### What a page says -/

/-- The query that selects from `q` alone, with its limit and offset as written. -/
def pageOf (q : Query) (limit offset : List Char) : Query :=
  .mk false []
    (.select [.text pageOpening, .query q, .text ") __rsduck_page".toList])
    [.text (" LIMIT ".toList ++ limit ++ " OFFSET ".toList ++ offset)]

/-- The rows from number `offset` on of the query `q`, `limit` of them. -/
def windowOf (q : Query) (limit offset : ℕ) : Query :=
  pageOf q (Nat.toDigits 10 limit) (Nat.toDigits 10 offset)

/-- The largest offset that the database takes. -/
def maxOffset : ℕ := 2 ^ 63 - 1

/-- What the database gives for a query, when it takes it: the rows of a window are a window of the
rows. It takes no offset above its largest integer, and no statement that modifies for a source. -/
structure Denotation (Row : Type) where
  rows : Query → Option (List Row)
  rows_windowOf : ∀ {q limit offset}, q.modifies = false → limit ≤ maxOffset → offset ≤ maxOffset →
    rows (windowOf q limit offset) = (rows q).map (window offset limit)
  refuses_offset : ∀ {q limit offset}, maxOffset < offset → rows (windowOf q limit offset) = none
  refuses_modifying : ∀ {q limit offset}, q.modifies = true → rows (windowOf q limit offset) = none

/-- The rows the text of a page denotes. -/
def pageRows {Row : Type} (P : QueryParser) (D : Denotation Row) (sql : List Char)
    (page pageSize : ℕ) : Option (List Row) :=
  match P.parse (pagedSql P sql page pageSize) with
  | .ok [.query q] => D.rows q
  | _ => none

/-- The page of the text is one statement, whose only source is the query of the text, and it denotes
the rows by their numbers. -/
structure PagedExactly {Row : Type} (P : QueryParser) (D : Denotation Row) (sql : List Char) (q : Query)
    (rows : List Row) (page pageSize : ℕ) : Prop where
  statement : P.parse (pagedSql P sql page pageSize) =
    .ok [.query (windowOf q (pageLimit pageSize) (pageOffset page pageSize))]
  numbered : pageRows P D sql page pageSize =
    some (window (page * pageLimit pageSize) (pageLimit pageSize) rows)

/-! ### What is relied on -/

namespace QueryParser

/-- How the parser crate reads the texts a page is made of. -/
structure Lawful (P : QueryParser) : Prop where
  /-- The opening is cut off. -/
  lex_opening : ∀ s, P.lexer.lex (pageOpening ++ s) = P.lexer.lex pageOpening ++ P.lexer.lex s
  /-- A parenthesis is no part of a token that is complete. -/
  lex_closing : ∀ s r, (∀ t ∈ (P.lexer.lex s).getLast?, P.complete t = true) →
    P.lexer.lex (s ++ ')' :: r) = P.lexer.lex s ++ P.lexer.lex (')' :: r)
  /-- A line comment runs to the end of its line. -/
  lex_comment : ∀ s r t, (P.lexer.lex s).getLast? = some t → P.isLineComment t = true →
    P.complete t = false → '\n' ∉ r →
    ∃ u, P.isLineComment u = true ∧ P.lexer.lex (s ++ r) = (P.lexer.lex s).dropLast ++ [u]
  mark_comment : ∀ t, P.isLineComment t = true → P.mark t = .other
  nest_opening : nest 0 ((P.lexer.lex pageOpening).map P.mark) = some 1
  nest_closing : ∀ limit offset : ℕ, nest 1 ((P.lexer.lex
    (pageClosing (Nat.toDigits 10 limit) (Nat.toDigits 10 offset))).map P.mark) = some 0
  /-- Strings, names and block comments are read to their ends. -/
  complete_of_query : ∀ ts q, P.parseTokens ts = .ok [.query q] → ∀ t ∈ ts,
    P.complete t = true ∨ P.isLineComment t = true
  /-- In a query parentheses are closed, and semicolons are outside. -/
  nested_of_query : ∀ ts q, P.parseTokens ts = .ok [.query q] → Nested (ts.map P.mark)
  /-- A query without semicolons may stand in parentheses after `FROM`, -/
  parse_derived : ∀ ts q, P.parseTokens ts = .ok [.query q] → .stop ∉ ts.map P.mark →
    P.depth ts + P.derivedDepth ≤ P.recursionLimit →
    ∀ limit offset : ℕ, P.parseTokens (P.lexer.lex pageOpening ++ (ts ++
      P.lexer.lex (pageClosing (Nat.toDigits 10 limit) (Nat.toDigits 10 offset)))) =
        .ok [.query (windowOf q limit offset)]
  /-- unless the parser would have to go too deep. -/
  too_deep : ∀ ts q, P.parseTokens ts = .ok [.query q] →
    P.recursionLimit < P.depth ts + P.derivedDepth →
    ∀ (limit offset : ℕ) (q' : Query), P.parseTokens (P.lexer.lex pageOpening ++ (ts ++
      P.lexer.lex (pageClosing (Nat.toDigits 10 limit) (Nat.toDigits 10 offset)))) ≠
        .ok [.query q']

/-- The last token is a line comment that no line end closes. -/
def EndsInComment (P : QueryParser) (sql : List Char) : Prop :=
  ∃ t, (P.lexer.lex sql).getLast? = some t ∧ P.isLineComment t = true ∧ P.complete t = false

/-- A semicolon is left in the text. -/
def HasSemicolon (P : QueryParser) (sql : List Char) : Prop :=
  Mark.stop ∈ (P.lexer.lex sql).map P.mark

instance (P : QueryParser) (sql : List Char) : Decidable (P.HasSemicolon sql) :=
  inferInstanceAs (Decidable (Mark.stop ∈ _))

/-- The parser does not go too deep for the text in parentheses. -/
def Shallow (P : QueryParser) (sql : List Char) : Prop :=
  P.depth (P.lexer.lex sql) + P.derivedDepth ≤ P.recursionLimit

instance (P : QueryParser) (sql : List Char) : Decidable (P.Shallow sql) :=
  inferInstanceAs (Decidable (_ ≤ _))

end QueryParser

/-- What is asked of a text, its query and a page. -/
structure PageFits (P : QueryParser) (sql : List Char) (q : Query) (page pageSize : ℕ) : Prop where
  noSemicolon : ¬ P.HasSemicolon sql
  noComment : ¬ P.EndsInComment sql
  shallow : P.Shallow sql
  reads : q.modifies = false
  offset : page * pageLimit pageSize ≤ maxOffset

/-! ### The text in parentheses -/

lemma not_newline_pageClosing (limit offset : ℕ) :
    '\n' ∉ pageClosing (Nat.toDigits 10 limit) (Nat.toDigits 10 offset) := by
  have hdigits : ∀ n : ℕ, '\n' ∉ Nat.toDigits 10 n := by
    intro n hn
    have hdigit := Nat.isDigit_of_mem_toDigits (by omega) (by omega) hn
    exact absurd hdigit (by decide)
  unfold pageClosing
  simp only [List.mem_append, not_or]
  exact ⟨⟨⟨by decide, hdigits limit⟩, by decide⟩, hdigits offset⟩

section Wrap

variable {P : QueryParser} {sql : List Char} {q : Query}

/-- The text of a page is the text in parentheses. -/
lemma pagedSql_eq (hquery : P.parse (bareQuery sql) = .ok [.query q])
    (hlimit : P.hasTopLevelLimitOrOffset (bareQuery sql) = .ok false) (page pageSize : ℕ) :
    pagedSql P sql page pageSize =
      pageText (bareQuery sql) (pageLimit pageSize) (pageOffset page pageSize) := by
  have hpageable : P.isPageableSql (bareQuery sql) = .ok true := by
    unfold QueryParser.isPageableSql
    rw [hquery]
  unfold pagedSql
  simp only [hpageable, hlimit, unwrapOrFalse]
  rfl

variable (hP : P.Lawful)

include hP

lemma complete_getLast (hquery : P.parse sql = .ok [.query q]) (hend : ¬ P.EndsInComment sql) :
    ∀ t ∈ (P.lexer.lex sql).getLast?, P.complete t = true := by
  intro t ht
  have hmem : t ∈ P.lexer.lex sql := List.mem_of_getLast? ht
  rcases hP.complete_of_query _ q hquery t hmem with h | h
  · exact h
  · by_contra hopen
    exact hend ⟨t, ht, h, by simpa using hopen⟩

lemma lex_pageText (hquery : P.parse sql = .ok [.query q]) (hend : ¬ P.EndsInComment sql)
    (limit offset : ℕ) :
    P.lexer.lex (pageText sql limit offset) = P.lexer.lex pageOpening ++ (P.lexer.lex sql ++
      P.lexer.lex (pageClosing (Nat.toDigits 10 limit) (Nat.toDigits 10 offset))) := by
  unfold pageText
  rw [hP.lex_opening]
  exact congrArg _ (hP.lex_closing sql _ (complete_getLast hP hquery hend))

/-- In parentheses a text is a page exactly when it has no semicolon and no open comment, and is not
nested too deep. -/
lemma parse_pageText_iff (hquery : P.parse sql = .ok [.query q]) (limit offset : ℕ) :
    P.parse (pageText sql limit offset) = .ok [.query (windowOf q limit offset)] ↔
      ¬ P.HasSemicolon sql ∧ ¬ P.EndsInComment sql ∧ P.Shallow sql := by
  have hnested := hP.nested_of_query _ q hquery
  constructor
  · intro h
    have hpage := hP.nested_of_query _ _ h
    have hend : ¬ P.EndsInComment sql := by
      rintro ⟨t, hlast, hcomment, hopen⟩
      obtain ⟨u, hu, hlex⟩ := hP.lex_comment sql _ t hlast hcomment hopen
        (not_newline_pageClosing limit offset)
      -- the comment takes the closing parenthesis in
      have hsame : (P.lexer.lex (pageText sql limit offset)).map P.mark =
          (P.lexer.lex pageOpening).map P.mark ++ (P.lexer.lex sql).map P.mark := by
        unfold pageText
        rw [hP.lex_opening, hlex, List.map_append, List.map_append, List.map_singleton,
          hP.mark_comment u hu, ← hP.mark_comment t hcomment, ← List.map_singleton,
          ← List.map_append, List.dropLast_append_getLast? t hlast]
      rw [hsame] at hpage
      exact not_nested_open hP.nest_opening hnested hpage
    unfold QueryParser.parse at h
    rw [lex_pageText hP hquery hend] at h hpage
    rw [List.map_append, List.map_append] at hpage
    refine ⟨(nested_enclose_iff hP.nest_opening hnested (hP.nest_closing limit offset)).1 hpage,
      hend, not_lt.1 fun hdeep => ?_⟩
    exact hP.too_deep _ q hquery hdeep limit offset _ h
  · rintro ⟨hstop, hend, hshallow⟩
    unfold QueryParser.parse
    rw [lex_pageText hP hquery hend]
    exact hP.parse_derived _ q hquery hstop hshallow limit offset

end Wrap

/-! ### The pages of a text -/

section Pages

variable {P : QueryParser} {sql : List Char} {q : Query} {Row : Type} {D : Denotation Row}
  {rows : List Row} {page pageSize : ℕ}

lemma pageLimit_le (pageSize : ℕ) : pageLimit pageSize ≤ maxOffset := by
  unfold pageLimit maxOffset
  omega

/-- An offset that the database takes is the product itself. -/
lemma pageOffset_le_iff : pageOffset page pageSize ≤ maxOffset ↔
    page * pageLimit pageSize ≤ maxOffset := by
  unfold pageOffset maxOffset usizeMax
  omega

lemma pageOffset_eq (h : page * pageLimit pageSize ≤ maxOffset) :
    pageOffset page pageSize = page * pageLimit pageSize := by
  unfold maxOffset at h
  unfold pageOffset usizeMax
  omega

/-- The rows of one page, where the text of the page is read as one. -/
lemma pageRows_eq (h : P.parse (pagedSql P sql page pageSize) =
      .ok [.query (windowOf q (pageLimit pageSize) (pageOffset page pageSize))]) :
    pageRows P D sql page pageSize =
      D.rows (windowOf q (pageLimit pageSize) (pageOffset page pageSize)) := by
  unfold pageRows
  rw [h]

/-- The window of a query that runs is the one of its rows where the query reads and the database
takes the offset. -/
lemma rows_page_iff (hrows : D.rows q = some rows) :
    D.rows (windowOf q (pageLimit pageSize) (pageOffset page pageSize)) =
        some (window (page * pageLimit pageSize) (pageLimit pageSize) rows) ↔
      q.modifies = false ∧ page * pageLimit pageSize ≤ maxOffset := by
  constructor
  · intro h
    constructor
    · by_contra hmodifies
      rw [D.refuses_modifying (by simpa using hmodifies)] at h
      cases h
    · by_contra hlarge
      rw [D.refuses_offset (not_le.1 (mt pageOffset_le_iff.1 hlarge))] at h
      cases h
  · rintro ⟨hreads, hsmall⟩
    rw [D.rows_windowOf hreads (pageLimit_le pageSize) (pageOffset_le_iff.2 hsmall), hrows,
      pageOffset_eq hsmall]
    rfl

/-- **Paging**: a page of a query that runs and has no limit is exactly its window of the result when
the text put into the parentheses has no semicolon left, does not end in a line comment and is not
nested too deep, the query reads, and the database takes the offset; and only then. Pages that
are, one after another, are the first rows. -/
theorem pagedExactly_iff (hP : P.Lawful) (hquery : P.parse (bareQuery sql) = .ok [.query q])
    (hlimit : P.hasTopLevelLimitOrOffset (bareQuery sql) = .ok false)
    (hrows : D.rows q = some rows) :
    (∀ page pageSize, PagedExactly P D sql q rows page pageSize ↔
      PageFits P (bareQuery sql) q page pageSize) ∧
    ∀ pageSize count, (∀ page < count, PagedExactly P D sql q rows page pageSize) →
      (List.range count).flatMap (fun page => (pageRows P D sql page pageSize).getD []) =
        rows.take (count * pageLimit pageSize) := by
  have htext := fun page pageSize => pagedSql_eq hquery hlimit page pageSize
  constructor
  · intro page pageSize
    constructor
    · rintro ⟨hstatement, hnumbered⟩
      rw [pageRows_eq hstatement, rows_page_iff hrows] at hnumbered
      rw [htext] at hstatement
      obtain ⟨hstop, hend, hshallow⟩ := (parse_pageText_iff hP hquery _ _).1 hstatement
      exact ⟨hstop, hend, hshallow, hnumbered.1, hnumbered.2⟩
    · rintro ⟨hstop, hend, hshallow, hreads, hoffset⟩
      have hstatement : P.parse (pagedSql P sql page pageSize) =
          .ok [.query (windowOf q (pageLimit pageSize) (pageOffset page pageSize))] := by
        rw [htext]
        exact (parse_pageText_iff hP hquery _ _).2 ⟨hstop, hend, hshallow⟩
      refine ⟨hstatement, ?_⟩
      rw [pageRows_eq hstatement, rows_page_iff hrows]
      exact ⟨hreads, hoffset⟩
  · intro pageSize count hpages
    rw [← flatMap_window]
    refine List.flatMap_congr fun page hpage => ?_
    rw [(hpages page (List.mem_range.1 hpage)).numbered, Option.getD_some]

end Pages

/-! ### A parser that knows one query and its pages -/

def symbol (c : Char) : Token := ⟨.sym, [c], true⟩

def wordOf (text : List Char) : Token := ⟨.word, text, true⟩

def markOf (t : Token) : Mark :=
  if t = symbol '(' then .opening
  else if t = symbol ')' then .closing
  else if t = symbol ';' then .stop
  else .other

/-- Without white space and comments. -/
def significant (ts : List Token) : List Token :=
  ts.filter fun t => t.kind != .line && t.kind != .block && t != symbol ' '

def openingTokens : List Token :=
  [wordOf "SELECT".toList, symbol '*', wordOf "FROM".toList, symbol '(']

def closingTokens (limit offset : List Char) : List Token :=
  [symbol ')', wordOf "__rsduck_page".toList, wordOf "LIMIT".toList, wordOf limit,
    wordOf "OFFSET".toList, wordOf offset]

/-- `SELECT 1`. -/
def one : Query := .mk false [] (.select [.text "SELECT 1".toList]) []

/-- The query of the tokens: the known one, or a page of what stands in the parentheses. -/
def readOne : ℕ → List Token → Option Query
  | 0, _ => none
  | fuel + 1, ts =>
    let inner := (ts.drop 4).take (ts.length - 10)
    let closing := (ts.drop 4).drop (ts.length - 10)
    let limit := ((closing[3]?).map Token.text).getD []
    let offset := ((closing[5]?).map Token.text).getD []
    if ts = [wordOf "SELECT".toList, wordOf "1".toList] then some one
    else if ts = openingTokens ++ (inner ++ closingTokens limit offset) then
      (readOne fuel inner).map (pageOf · limit offset)
    else none

def knowsOne : QueryParser where
  Token := Token
  lexer := scannerLexer
  complete := Token.closed
  isLineComment t := t.kind == .line
  mark := markOf
  parseTokens ts :=
    if (∀ t ∈ ts, t.closed = true ∨ (t.kind == .line) = true) ∧ Nested (ts.map markOf) ∧
        (ts.map markOf).count .opening ≤ 50 then
      match readOne ts.length (significant ts) with
      | some q => .ok [.query q]
      | none => .error "Expected: an SQL statement"
    else .error "Expected: an SQL statement"
  depth ts := (ts.map markOf).count .opening
  derivedDepth := 1
  recursionLimit := 50
  limitClause _ := none
  fetch _ := none

lemma readOne_succ {fuel : ℕ} {ts : List Token} {q : Query} (h : readOne fuel ts = some q) :
    readOne (fuel + 1) ts = some q := by
  induction fuel generalizing ts q with
  | zero => cases h
  | succ fuel ih =>
    rw [readOne] at h ⊢
    split_ifs at h ⊢ with hone hpage
    · exact h
    · obtain ⟨inner, hinner, rfl⟩ := Option.map_eq_some_iff.1 h
      exact Option.map_eq_some_iff.2 ⟨inner, ih hinner, rfl⟩

lemma readOne_of_le {fuel more : ℕ} (hle : fuel ≤ more) {ts : List Token} {q : Query}
    (h : readOne fuel ts = some q) : readOne more ts = some q := by
  induction more, hle using Nat.le_induction with
  | base => exact h
  | succ more _ ih => exact readOne_succ ih

/-- A page is read where its query is. -/
lemma readOne_page {fuel : ℕ} {ts : List Token} {q : Query} (h : readOne fuel ts = some q)
    (limit offset : List Char) :
    readOne (fuel + 1) (openingTokens ++ (ts ++ closingTokens limit offset)) =
      some (pageOf q limit offset) := by
  have hdrop : (openingTokens ++ (ts ++ closingTokens limit offset)).drop 4 =
      ts ++ closingTokens limit offset := rfl
  have hlength : (openingTokens ++ (ts ++ closingTokens limit offset)).length - 10 = ts.length := by
    simp only [List.length_append, openingTokens, closingTokens, List.length_cons, List.length_nil]
    omega
  have hne : openingTokens ++ (ts ++ closingTokens limit offset) ≠
      [wordOf "SELECT".toList, wordOf "1".toList] := by
    intro heq
    have := congrArg List.length heq
    simp only [List.length_append, openingTokens, closingTokens, List.length_cons,
      List.length_nil] at this
    omega
  rw [readOne]
  simp only [hdrop, hlength, List.take_left, List.drop_left, if_neg hne]
  exact (if_pos rfl).trans (congrArg (Option.map _) h)

/-! ### Its tokens -/

lemma readLine_of_not_mem {s : List Char} (h : '\n' ∉ s) : readLine s = (s, false, []) := by
  induction s with
  | nil => rfl
  | cons c r ih =>
    obtain ⟨hc, hr⟩ := not_or.1 (fun hmem => h (List.mem_cons.2 hmem))
    rw [readLine, if_neg (Ne.symm hc), ih hr]
    rfl

lemma not_mem_of_open {s : List Char} (h : (readLine s).2.1 = false) : '\n' ∉ s := by
  induction s with
  | nil => exact List.not_mem_nil
  | cons c r ih =>
    rw [readLine] at h
    split_ifs at h with hc
    intro hmem
    rcases List.mem_cons.1 hmem with rfl | hmem
    · exact hc rfl
    · exact ih h hmem

/-- A token that opens a line comment without an end takes in what follows on the line. -/
lemma valid_comment_append {t : Token} (h : scanner.Valid t) (hkind : t.kind = .line)
    (hopen : t.closed = false) {r : List Char} (hr : '\n' ∉ r) :
    scanner.Valid ⟨.line, t.text ++ r, false⟩ ∧ t.text.head? = some '-' := by
  obtain ⟨c, s, hnext⟩ := h
  have hnext : (next c s).1 = t := hnext
  subst hnext
  unfold next at hkind hopen ⊢
  split_ifs at hkind hopen ⊢ with h1 h2 h3 h4 h5 h6
  · cases hkind
  · cases hkind
  · obtain ⟨rfl, -⟩ := h3
    have hline : '\n' ∉ s.tail := not_mem_of_open hopen
    have hboth : '\n' ∉ s.tail ++ r := fun hmem => (List.mem_append.1 hmem).elim hline hr
    refine ⟨⟨'-', '-' :: (s.tail ++ r), ?_⟩, rfl⟩
    have hread : scanner.next '-' ('-' :: (s.tail ++ r)) =
        cutToken .line ['-', '-'] (readLine (s.tail ++ r)) := rfl
    rw [hread, cutToken, cutToken, readLine_of_not_mem hboth, readLine_of_not_mem hline]
    rfl
  · cases hkind

/-- A line comment at the end of a text goes on to the end of the line. -/
lemma lex_comment_append {s r : List Char} {t : Token} (hlast : (scanner.lex s).getLast? = some t)
    (hkind : t.kind = .line) (hopen : t.closed = false) (hr : '\n' ∉ r) :
    scanner.lex (s ++ r) = (scanner.lex s).dropLast ++ [⟨.line, t.text ++ r, false⟩] := by
  have hsplit : (scanner.lex s).dropLast ++ [t] = scanner.lex s :=
    List.dropLast_append_getLast? t hlast
  have hvalid : ∀ u ∈ scanner.lex s, scanner.Valid u := fun _ => scanner.valid_of_mem
  obtain ⟨hcomment, hhead⟩ := valid_comment_append
    (hvalid t (List.mem_of_getLast? hlast)) hkind hopen hr
  have hchain := scanner.isChain_lex s
  have hrender : scanner.render ((scanner.lex s).dropLast ++ [⟨.line, t.text ++ r, false⟩]) =
      s ++ r := by
    have hs := scanner.render_lex s
    rw [← hsplit, Lexer.render_append, Lexer.render_cons, Lexer.render_nil, List.append_nil] at hs
    have hright : s ++ r = scanner.render (scanner.lex s).dropLast ++ (scanner.text t ++ r) := by
      rw [← List.append_assoc, hs]
    rw [Lexer.render_append, Lexer.render_cons, Lexer.render_nil, List.append_nil, hright]
    rfl
  rw [← hrender, scanner.lex_render_iff_isChain]
  · rw [← hsplit, List.isChain_append] at hchain
    obtain ⟨hinit, -, hadjacent⟩ := hchain
    refine List.isChain_append.2 ⟨hinit, List.isChain_singleton _, ?_⟩
    intro u hu v hv
    obtain rfl : _ = v := by simpa using hv
    intro d hd
    refine hadjacent u hu t (by simp) d ?_
    have htext : (t.text ++ r).head? = some '-' := by
      rw [List.head?_append, hhead]
      rfl
    show t.text.head? = some d
    rw [hhead]
    rw [← htext]
    exact hd
  · intro u hu
    rcases List.mem_append.1 hu with hu | hu
    · exact hvalid u (List.dropLast_subset _ hu)
    · obtain rfl : u = _ := by simpa using hu
      exact hcomment

lemma follow_parenthesis {t : Token} (hclosed : t.closed = true) : follow t ')' = true := by
  have hword : isWordChar ')' = false := by decide
  obtain ⟨kind, text, closed⟩ := t
  cases kind with
  | word =>
    show (!isWordChar ')') = true
    rw [hword]
    rfl
  | sym => simp [follow]
  | _ => simp_all [follow]

lemma lex_parenthesis {s r : List Char} (h : ∀ t ∈ (scanner.lex s).getLast?, t.closed = true) :
    scanner.lex (s ++ ')' :: r) = scanner.lex s ++ scanner.lex (')' :: r) := by
  refine scanner.lex_append fun t ht d hd => ?_
  obtain rfl : ')' = d := by simpa using hd
  exact follow_parenthesis (h t ht)

lemma markOf_of_kind {t : Token} (h : t.kind ≠ .sym) : markOf t = .other := by
  have hne : ∀ c, t ≠ symbol c := by
    rintro c rfl
    exact h rfl
  unfold markOf
  rw [if_neg (hne _), if_neg (hne _), if_neg (hne _)]

lemma follow_symbol {c : Char} (hc : c ∉ ['-', '/', '$']) (d : Char) :
    follow (symbol c) d = true := by
  simp only [List.mem_cons, List.not_mem_nil, or_false, not_or] at hc
  simp [follow, symbol, hc]

lemma valid_wordOf {w : List Char} (hne : w ≠ []) (hw : ∀ c ∈ w, isWordChar c = true) :
    scanner.Valid (wordOf w) := by
  obtain ⟨c, r, rfl⟩ := List.exists_cons_of_ne_nil hne
  refine ⟨c, r, ?_⟩
  show (next c r).1 = _
  rw [next_word (hw c (by simp)), List.takeWhile_eq_self_iff.2 fun d hd => hw d (by simp [hd])]
  rfl

lemma isWordChar_toDigits (n : ℕ) : ∀ c ∈ Nat.toDigits 10 n, isWordChar c = true := by
  intro c hc
  have hdigit : c.isDigit = true := Nat.isDigit_of_mem_toDigits (by omega) (by omega) hc
  simp [isWordChar, Char.isAlphanum, hdigit]

/-- The tokens of a page's end, with its blanks. -/
def closingText (limit offset : List Char) : List Token :=
  [symbol ')', symbol ' ', wordOf "__rsduck_page".toList, symbol ' ', wordOf "LIMIT".toList,
    symbol ' ', wordOf limit, symbol ' ', wordOf "OFFSET".toList, symbol ' ', wordOf offset]

lemma lex_pageClosing (limit offset : ℕ) :
    scanner.lex (pageClosing (Nat.toDigits 10 limit) (Nat.toDigits 10 offset)) =
      closingText (Nat.toDigits 10 limit) (Nat.toDigits 10 offset) := by
  have hopening : ") __rsduck_page LIMIT ".toList =
      [')', ' '] ++ ("__rsduck_page".toList ++ ([' '] ++ ("LIMIT".toList ++ [' ']))) := by
    decide +kernel
  have hoffset : " OFFSET ".toList = [' '] ++ ("OFFSET".toList ++ [' ']) := by decide +kernel
  have hrender : scanner.render (closingText (Nat.toDigits 10 limit) (Nat.toDigits 10 offset)) =
      pageClosing (Nat.toDigits 10 limit) (Nat.toDigits 10 offset) := by
    calc scanner.render (closingText (Nat.toDigits 10 limit) (Nat.toDigits 10 offset))
        = ([')', ' '] ++ ("__rsduck_page".toList ++ ([' '] ++ ("LIMIT".toList ++ [' '])))) ++
            Nat.toDigits 10 limit ++ ([' '] ++ ("OFFSET".toList ++ [' '])) ++
            Nat.toDigits 10 offset := by
          simp [closingText, Lexer.render, scanner, scannerLexer, symbol, wordOf]
      _ = _ := by
          rw [← hopening, ← hoffset]
          rfl
  rw [← hrender, scanner.lex_render_iff_isChain]
  · have hblank : ∀ u, scanner.Adjacent (symbol ' ') u := fun u d _ =>
      follow_symbol (by decide : ' ' ∉ ['-', '/', '$']) d
    have hclose : ∀ u, scanner.Adjacent (symbol ')') u := fun u d _ =>
      follow_symbol (by decide : ')' ∉ ['-', '/', '$']) d
    have hword : ∀ w, scanner.Adjacent (wordOf w) (symbol ' ') := by
      intro w d hd
      obtain rfl : ' ' = d := by simpa [scanner, scannerLexer, symbol] using hd
      show (!isWordChar ' ') = true
      decide
    simp only [closingText, List.isChain_cons_cons, List.isChain_singleton, and_true]
    exact ⟨hclose _, hblank _, hword _, hblank _, hword _, hblank _, hword _, hblank _, hword _,
      hblank _⟩
  · have hsymbol : ∀ c ∈ [')', ' '], scanner.Valid (symbol c) := by
      intro c hc
      refine ⟨c, [], ?_⟩
      rcases List.mem_pair.1 hc with rfl | rfl
      · decide
      · decide
    have hdigits : ∀ n : ℕ, scanner.Valid (wordOf (Nat.toDigits 10 n)) := fun n =>
      valid_wordOf Nat.toDigits_ne_nil (isWordChar_toDigits n)
    simp only [closingText, List.forall_mem_cons, List.not_mem_nil, false_imp_iff, implies_true,
      and_true]
    have hblank := hsymbol ' ' (by decide)
    have hword : ∀ w : List Char, w ≠ [] → w.all isWordChar = true → scanner.Valid (wordOf w) :=
      fun w hne hall => valid_wordOf hne (List.all_eq_true.1 hall)
    exact ⟨hsymbol ')' (by decide), hblank, hword _ (by decide) (by decide), hblank,
      hword _ (by decide) (by decide), hblank, hdigits limit, hblank,
      hword _ (by decide) (by decide), hblank, hdigits offset⟩

lemma nest_closingText (limit offset : List Char) :
    nest 1 ((closingText limit offset).map markOf) = some 0 := by
  have hkind : TokenKind.word ≠ TokenKind.sym := by decide
  have hword : ∀ w, markOf (wordOf w) = .other := fun w => markOf_of_kind hkind
  have hblank : markOf (symbol ' ') = .other := by decide
  have hclose : markOf (symbol ')') = .closing := by decide
  simp only [closingText, List.map_cons, List.map_nil, hword, hblank, hclose]
  rfl

lemma significant_closingText (limit offset : List Char) :
    significant (closingText limit offset) = closingTokens limit offset := by
  simp [significant, closingText, closingTokens, wordOf, symbol]

lemma parseTokens_knowsOne {ts : List Token} {q : Query} :
    knowsOne.parseTokens ts = .ok [.query q] ↔
      (∀ t ∈ ts, t.closed = true ∨ (t.kind == .line) = true) ∧ Nested (ts.map markOf) ∧
        (ts.map markOf).count .opening ≤ 50 ∧ readOne ts.length (significant ts) = some q := by
  show (if (∀ t ∈ ts, t.closed = true ∨ (t.kind == .line) = true) ∧ Nested (ts.map markOf) ∧
      (ts.map markOf).count .opening ≤ 50 then
    match readOne ts.length (significant ts) with
    | some q => Except.ok [Statement.query q]
    | none => .error "Expected: an SQL statement"
    else .error "Expected: an SQL statement") = _ ↔ _
  split_ifs with hgood
  · obtain ⟨hcomplete, hnested, hshallow⟩ := hgood
    rw [and_iff_right hcomplete, and_iff_right hnested, and_iff_right hshallow]
    rcases readOne ts.length (significant ts) with _ | q'
    · simp
    · simp
  · constructor
    · intro h
      cases h
    · rintro ⟨hcomplete, hnested, hshallow, -⟩
      exact absurd ⟨hcomplete, hnested, hshallow⟩ hgood

/-- A page has one more parenthesis. -/
lemma count_opening_page (ts : List Token) (limit offset : ℕ) :
    ((scanner.lex pageOpening ++ (ts ++
      scanner.lex (pageClosing (Nat.toDigits 10 limit) (Nat.toDigits 10 offset)))).map markOf).count
        .opening = (ts.map markOf).count .opening + 1 := by
  have hopening : ((scanner.lex pageOpening).map markOf).count .opening = 1 := by decide +kernel
  have hkind : TokenKind.word ≠ TokenKind.sym := by decide
  have hword : ∀ w, markOf (wordOf w) = .other := fun w => markOf_of_kind hkind
  have hblank : markOf (symbol ' ') = .other := by decide
  have hclose : markOf (symbol ')') = .closing := by decide
  have hclosing : ((closingText (Nat.toDigits 10 limit) (Nat.toDigits 10 offset)).map
      markOf).count .opening = 0 := by
    simp only [closingText, List.map_cons, List.map_nil, hword, hblank, hclose]
    decide
  rw [lex_pageClosing, List.map_append, List.map_append, List.count_append, List.count_append,
    hopening, hclosing, add_zero, add_comm]

/-- A page of a query that is known is known. -/
lemma parseTokens_page {ts : List Token} {q : Query} (h : knowsOne.parseTokens ts = .ok [.query q])
    (hstop : Mark.stop ∉ ts.map markOf) (hshallow : (ts.map markOf).count .opening + 1 ≤ 50)
    (limit offset : ℕ) :
    knowsOne.parseTokens (scanner.lex pageOpening ++ (ts ++
      scanner.lex (pageClosing (Nat.toDigits 10 limit) (Nat.toDigits 10 offset)))) =
        .ok [.query (windowOf q limit offset)] := by
  obtain ⟨hcomplete, hnested, -, hread⟩ := parseTokens_knowsOne.1 h
  have hcount := count_opening_page ts limit offset
  have hopening : scanner.lex pageOpening =
      [wordOf "SELECT".toList, symbol ' ', symbol '*', symbol ' ', wordOf "FROM".toList, symbol ' ',
        symbol '('] := by decide +kernel
  rw [lex_pageClosing] at hcount ⊢
  refine parseTokens_knowsOne.2 ⟨?_, ?_, hcount ▸ hshallow, ?_⟩
  · intro t ht
    rcases List.mem_append.1 ht with ht | ht
    · left
      have hclosed : ∀ u ∈ scanner.lex pageOpening, u.closed = true := by
        rw [hopening]
        decide
      exact hclosed t ht
    rcases List.mem_append.1 ht with ht | ht
    · exact hcomplete t ht
    · left
      simp only [closingText, List.mem_cons, List.not_mem_nil, or_false] at ht
      rcases ht with rfl | rfl | rfl | rfl | rfl | rfl | rfl | rfl | rfl | rfl | rfl <;> rfl
  · rw [List.map_append, List.map_append, hopening]
    exact (nested_enclose_iff (by decide) hnested (nest_closingText _ _)).2 hstop
  · have hsplit : significant (scanner.lex pageOpening ++ (ts ++
        closingText (Nat.toDigits 10 limit) (Nat.toDigits 10 offset))) =
        openingTokens ++ (significant ts ++
          closingTokens (Nat.toDigits 10 limit) (Nat.toDigits 10 offset)) := by
      rw [← significant_closingText, hopening, significant, List.filter_append, List.filter_append]
      rfl
    rw [hsplit]
    refine readOne_of_le ?_ (readOne_page hread _ _)
    rw [hopening, List.length_append, List.length_append, List.length_cons]
    omega

lemma lawful_knowsOne : knowsOne.Lawful where
  lex_opening s := by
    have hlast : (scanner.lex pageOpening).getLast? = some (symbol '(') := by decide +kernel
    refine scanner.lex_append fun t ht d _ => ?_
    obtain rfl : symbol '(' = t := Option.some.inj (hlast.symm.trans ht)
    have hplain : '(' ∉ ['-', '/', '$'] := by decide
    exact follow_symbol hplain d
  lex_closing s r h := lex_parenthesis h
  lex_comment s r t hlast hcomment hopen hr :=
    ⟨_, rfl, lex_comment_append hlast (eq_of_beq hcomment) hopen hr⟩
  mark_comment t h := by
    have hkind : t.kind ≠ .sym := by
      rw [eq_of_beq h]
      decide
    exact markOf_of_kind hkind
  nest_opening := by decide +kernel
  nest_closing limit offset := by
    show nest 1 ((scanner.lex _).map markOf) = some 0
    rw [lex_pageClosing]
    exact nest_closingText _ _
  complete_of_query ts q h := (parseTokens_knowsOne.1 h).1
  nested_of_query ts q h := (parseTokens_knowsOne.1 h).2.1
  parse_derived ts q h hstop hshallow limit offset := parseTokens_page h hstop hshallow limit offset
  too_deep ts q h hdeep limit offset q' hpage := by
    have hcount := (parseTokens_knowsOne.1 hpage).2.2.1
    exact absurd hdeep (not_lt.2 ((count_opening_page ts limit offset).symm.trans_le hcount))

/-! ### What its queries denote -/

/-- The numbers after `LIMIT` and `OFFSET`. -/
def readTail (tail : List Char) : Option (ℕ × ℕ) := do
  let rest ← stripPrefix " LIMIT " tail
  let limit ← DecimalText.readNat (rest.takeWhile Char.isDigit)
  let rest ← stripPrefix " OFFSET " (rest.dropWhile Char.isDigit)
  return (limit, ← DecimalText.readNat rest)

lemma readTail_digits (limit offset : ℕ) :
    readTail (" LIMIT ".toList ++ Nat.toDigits 10 limit ++ " OFFSET ".toList ++
      Nat.toDigits 10 offset) = some (limit, offset) := by
  have hdigits : ∀ c ∈ Nat.toDigits 10 limit, c.isDigit = true := fun c hc =>
    Nat.isDigit_of_mem_toDigits (by omega) (by omega) hc
  have hblank : " OFFSET ".toList = ' ' :: "OFFSET ".toList := by decide
  have htake : (Nat.toDigits 10 limit ++ (" OFFSET ".toList ++ Nat.toDigits 10 offset)).takeWhile
      Char.isDigit = Nat.toDigits 10 limit := by
    rw [List.takeWhile_append_of_pos hdigits, hblank]
    exact List.append_nil _
  have hdrop : (Nat.toDigits 10 limit ++ (" OFFSET ".toList ++ Nat.toDigits 10 offset)).dropWhile
      Char.isDigit = " OFFSET ".toList ++ Nat.toDigits 10 offset := by
    rw [List.dropWhile_append_of_pos hdigits, hblank]
    rfl
  unfold readTail
  rw [List.append_assoc, List.append_assoc, stripPrefix_append]
  simp only [Option.bind_eq_bind, Option.bind_some, htake, hdrop, DecimalText.readNat_toDigits,
    stripPrefix_append]
  rfl

/-- A page has its window of the rows; any other query has the row 1. -/
def rowsOfOne : Query → Option (List ℕ)
  | .mk false [] (.select [.text opening, .query q, .text closing]) [.text tail] =>
    if opening = pageOpening ∧ closing = ") __rsduck_page".toList then
      match readTail tail with
      | some (limit, offset) =>
        if q.modifies = true ∨ maxOffset < offset then none
        else (rowsOfOne q).map (window offset limit)
      | none => some [1]
    else some [1]
  | _ => some [1]

lemma rowsOfOne_windowOf (q : Query) (limit offset : ℕ) : rowsOfOne (windowOf q limit offset) =
    if q.modifies = true ∨ maxOffset < offset then none
    else (rowsOfOne q).map (window offset limit) := by
  unfold windowOf pageOf
  rw [rowsOfOne, if_pos ⟨rfl, rfl⟩, readTail_digits]

def denotesOne : Denotation ℕ where
  rows := rowsOfOne
  rows_windowOf hreads _ hoffset := by
    rw [rowsOfOne_windowOf, if_neg]
    rintro (hmodifies | hlarge)
    · rw [hreads] at hmodifies
      cases hmodifies
    · exact absurd hoffset (not_le.2 hlarge)
  refuses_offset h := by rw [rowsOfOne_windowOf, if_pos (Or.inr h)]
  refuses_modifying h := by rw [rowsOfOne_windowOf, if_pos (Or.inl h)]

lemma denotesOne_one : denotesOne.rows one = some [1] := by
  show rowsOfOne one = _
  unfold one
  rw [rowsOfOne]
  rintro _ _ _ _ ⟨⟩

/-- The query with a comment in it is read page by page. -/
theorem pagedExactly_block_comment :
    PagedExactly knowsOne denotesOne " SELECT 1 /* ; -- */; ".toList one [1] 0 10 := by
  have hquery : knowsOne.parse (bareQuery " SELECT 1 /* ; -- */; ".toList) = .ok [.query one] := by
    rfl
  refine ((pagedExactly_iff lawful_knowsOne hquery (by decide +kernel) denotesOne_one).1 0 10).2
    ⟨by decide +kernel, ?_, by decide +kernel, by decide, by decide⟩
  rintro ⟨t, hlast, hcomment, hopen⟩
  have hend : (scanner.lex (bareQuery " SELECT 1 /* ; -- */; ".toList)).getLast? =
    some ⟨.block, "/* ; -- */".toList, true⟩ := by decide +kernel
  obtain rfl := Option.some.inj (hend.symm.trans hlast)
  cases hopen

/-- After a line comment the parentheses are not closed. -/
theorem line_comment_not_paged :
    knowsOne.isPageableSql "SELECT 1 -- one".toList = .ok true ∧
      knowsOne.hasTopLevelLimitOrOffset "SELECT 1 -- one".toList = .ok false ∧
      pagedSql knowsOne "SELECT 1 -- one".toList 0 10 =
        "SELECT * FROM (SELECT 1 -- one) __rsduck_page LIMIT 10 OFFSET 0".toList ∧
      knowsOne.Lawful ∧ denotesOne.rows one = some [1] ∧
      ¬ PagedExactly knowsOne denotesOne "SELECT 1 -- one".toList one [1] 0 10 := by
  refine ⟨by decide +kernel, by decide +kernel, by decide +kernel, lawful_knowsOne, denotesOne_one, ?_⟩
  intro h
  have htext : pagedSql knowsOne "SELECT 1 -- one".toList 0 10 =
      "SELECT * FROM (SELECT 1 -- one) __rsduck_page LIMIT 10 OFFSET 0".toList := by decide +kernel
  have hrefused : knowsOne.parse
      "SELECT * FROM (SELECT 1 -- one) __rsduck_page LIMIT 10 OFFSET 0".toList =
        .error "Expected: an SQL statement" := by rfl
  have hpage := h.statement
  rw [htext, hrefused] at hpage
  cases hpage

end Rsduck.Server
