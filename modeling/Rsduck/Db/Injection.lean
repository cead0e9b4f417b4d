import Rsduck.Db.Binding

/-!
When binding cannot inject.

A literal may join what stands directly before or after its placeholder. `fits` names the
ways this happens; where none of them does, the bound text has exactly the tokens of the
statement with every placeholder replaced.
-/

namespace Rsduck.Db

open Lib Sql FloatFormat

/-- The literal is a string literal. -/
def SqlParam.isQuoted : SqlParam → Bool
  | .text _ | .bytes _ => true
  | _ => false

/-- The literal starts with a minus sign. -/
def SqlParam.startsMinus : SqlParam → Bool
  | .integer n => n < 0
  | .float x => f64.negative x
  | _ => false

/-- The literal starts with a digit. -/
def SqlParam.startsDigit : SqlParam → Bool
  | .integer n => 0 ≤ n
  | .float x => !f64.negative x
  | _ => false

/-- The literal starts with a letter or a digit. -/
def SqlParam.startsWord : SqlParam → Bool
  | .null | .bool _ => true
  | p => p.startsDigit

/-- The literal ends with a letter or a digit. -/
def SqlParam.endsWord : SqlParam → Bool
  | .null | .bool _ | .integer _ | .float _ => true
  | _ => false

/-- The literal may stand directly after the token. -/
def fitsAfter (t : Token) (q : SqlParam) : Bool :=
  match t.kind with
  | .str => !q.isQuoted
  | .word => !q.startsWord
  | .sym => !(t.text == ['-'] && q.startsMinus) && !(t.text == ['$'] && q.startsDigit)
  | _ => true

/-- The token may stand directly after the literal. -/
def fitsBefore (p : SqlParam) (u : Token) : Bool :=
  !(p.isQuoted && u.kind == .str) && !(p.endsWord && u.kind == .word)

/-- The second literal may stand directly after the first. -/
def fitsBetween (p q : SqlParam) : Bool :=
  !(p.isQuoted && q.isQuoted) && !(p.endsWord && q.startsWord)

/-- What stands in the place of two neighbouring tokens stays apart. -/
def fits (params : List SqlParam) (t u : Token) : Bool :=
  match paramOf params t, paramOf params u with
  | none, none => true
  | none, some q => fitsAfter t q
  | some p, none => fitsBefore p u
  | some p, some q => fitsBetween p q

/-! ### The ends of a literal -/

/-- What the first character of a literal says about the value. -/
structure Start (p : SqlParam) (d : Char) : Prop where
  quote : d = '\'' ↔ p.isQuoted = true
  minus : d = '-' ↔ p.startsMinus = true
  digit : d.isDigit = p.startsDigit
  word : isWordChar d = p.startsWord
  other : d ≠ '"' ∧ d ≠ '*'

lemma start_of_isDigit {p : SqlParam} {d : Char} (hd : d.isDigit = true)
    (hq : p.isQuoted = false) (hm : p.startsMinus = false) (hg : p.startsDigit = true)
    (hw : p.startsWord = true) : Start p d := by
  have hne : ∀ {e : Char}, e.isDigit = false → d ≠ e := by
    rintro e he rfl
    simp [he] at hd
  exact ⟨by simp [hq, hne (e := '\'') (by decide)], by simp [hm, hne (e := '-') (by decide)],
    by rw [hd, hg], by rw [isWordChar_of_isDigit hd, hw],
    hne (by decide), hne (by decide)⟩

lemma start_minus {p : SqlParam} (hq : p.isQuoted = false) (hm : p.startsMinus = true)
    (hg : p.startsDigit = false) (hw : p.startsWord = false) : Start p '-' := by
  refine ⟨by simp [hq], by simp [hm], by rw [hg]; decide, by rw [hw]; decide, by decide⟩

lemma literal_start {p : SqlParam} {lit : List Char} (h : sqlParamLiteral p = .ok lit) :
    ∀ d ∈ lit.head?, Start p d := by
  cases p with
  | null =>
    cases h
    rintro d hd
    obtain rfl : 'N' = d := by simpa using hd
    exact ⟨by decide, by decide, by decide, by decide, by decide⟩
  | text value =>
    cases h
    rintro d hd
    obtain rfl : '\'' = d := by simpa [sqlStringLiteral] using hd
    exact ⟨by simp [SqlParam.isQuoted], by simp [SqlParam.startsMinus], rfl, rfl, by decide⟩
  | bool value =>
    cases h
    rintro d hd
    cases value with
    | false =>
      obtain rfl : 'f' = d := by simpa using hd
      exact ⟨by decide, by decide, by decide, by decide, by decide⟩
    | true =>
      obtain rfl : 't' = d := by simpa using hd
      exact ⟨by decide, by decide, by decide, by decide, by decide⟩
  | integer n =>
    cases h
    rintro d hd
    by_cases hn : n < 0
    · obtain rfl : '-' = d := by simpa [intText, hn] using hd
      have : ¬ (0 ≤ n) := by omega
      exact start_minus rfl (by simp [SqlParam.startsMinus, hn])
        (by simp [SqlParam.startsDigit, this])
        (by simp [SqlParam.startsWord, SqlParam.startsDigit, this])
    · have hdig : d.isDigit = true := by
        refine allDigits_toDigits n.natAbs d (List.mem_of_mem_head? ?_)
        simpa [intText, hn] using hd
      have : 0 ≤ n := by omega
      exact start_of_isDigit hdig rfl (by simp [SqlParam.startsMinus, hn])
        (by simp [SqlParam.startsDigit, this])
        (by simp [SqlParam.startsWord, SqlParam.startsDigit, this])
  | float x =>
    simp only [sqlParamLiteral] at h
    split_ifs at h with hfin
    cases h
    obtain ⟨hne, hi, -⟩ := f64.magnitudeText_digits x
    rintro d hd
    rw [f64.display_eq hfin] at hd
    cases hneg : f64.negative x with
    | true =>
      obtain rfl : '-' = d := by simpa [sign, hneg] using hd
      exact start_minus rfl hneg (by simp [SqlParam.startsDigit, hneg])
        (by simp [SqlParam.startsWord, SqlParam.startsDigit, hneg])
    | false =>
      have hdig : d.isDigit = true := by
        refine hi d (List.mem_of_mem_head? ?_)
        simpa [sign, hneg, List.head?_append_of_ne_nil _ hne] using hd
      exact start_of_isDigit hdig rfl hneg (by simp [SqlParam.startsDigit, hneg])
        (by simp [SqlParam.startsWord, SqlParam.startsDigit, hneg])
  | floatArray values =>
    simp only [sqlParamLiteral] at h
    split_ifs at h with hne
    rcases hf : values.find? fun v => !f32.isFinite v with _ | v
    · simp only [hf, Except.ok.injEq] at h
      subst h
      rintro d hd
      obtain rfl : '[' = d := by simpa [floatArrayText] using hd
      exact ⟨by simp [SqlParam.isQuoted], by simp [SqlParam.startsMinus], rfl, rfl, by decide⟩
    · simp [hf] at h
  | bytes value =>
    cases h
    rintro d hd
    obtain rfl : '\'' = d := by simpa using hd
    exact ⟨by simp [SqlParam.isQuoted], by simp [SqlParam.startsMinus], rfl, rfl, by decide⟩

/-- What may follow a literal. -/
lemma follow_literal (p : SqlParam) (d : Char) :
    ∀ x ∈ (literalTokens p).getLast?,
      (follow x d = true ↔ ¬ (p.isQuoted = true ∧ d = '\'') ∧
        ¬ (p.endsWord = true ∧ isWordChar d = true)) := by
  have hword : ∀ w, follow (word w) d = !isWordChar d := fun _ => rfl
  cases p with
  | null | bool _ => simp [literalTokens, hword, SqlParam.isQuoted, SqlParam.endsWord]
  | text _ | bytes _ => simp [literalTokens, follow, SqlParam.isQuoted, SqlParam.endsWord]
  | integer n => simp [literalTokens, hword, SqlParam.isQuoted, SqlParam.endsWord]
  | float x =>
    rcases hf : (f64.magnitudeText x).2 with _ | ⟨c, r⟩
    · simp [literalTokens, floatTokens, fractionTokens, hf, hword, SqlParam.isQuoted,
        SqlParam.endsWord]
    · simp [literalTokens, floatTokens, fractionTokens, hf, hword, SqlParam.isQuoted,
        SqlParam.endsWord]
  | floatArray values =>
    simp [literalTokens, follow, sym, SqlParam.isQuoted, SqlParam.endsWord, List.getLast?_append,
      List.getLast?_cons]

/-! ### Neighbours -/

/-- What the first character of a token says about its kind. -/
lemma head_kind {t : Token} (h : scanner.Valid t) :
    ∀ d ∈ t.text.head?, (d = '\'' ↔ t.kind = .str) ∧ (isWordChar d = true ↔ t.kind = .word) := by
  obtain ⟨c, r, rfl⟩ := h
  change ∀ d ∈ (next c r).1.text.head?, (d = '\'' ↔ (next c r).1.kind = .str) ∧
    (isWordChar d = true ↔ (next c r).1.kind = .word)
  rw [head?_text_next]
  rintro d hd
  obtain rfl : c = d := by simpa using hd
  unfold next
  split_ifs with h1 h2 h3 h4 h5 h6
  · subst h1
    simp [cutToken]
    decide
  · subst h2
    simp [cutToken]
    decide
  · obtain ⟨rfl, -⟩ := h3
    simp [cutToken]
    decide
  · obtain ⟨rfl, -⟩ := h4
    simp [cutToken]
    decide
  · obtain ⟨rfl, -⟩ := h5
    simp
    decide
  · simp [h1, h6]
  · simp [h1, h6]

lemma lex_text {t : Token} (h : scanner.Valid t) : lex t.text = [t] := by
  obtain ⟨c, r, rfl⟩ := h
  have hr : scanner.Readable [(scanner.next c r).1] :=
    .cons ((scanner.reads_iff c r []).2 (by simp)) .nil
  have := (scanner.lex_render_iff _).2 hr
  rwa [Lexer.render_cons, Lexer.render_nil, List.append_nil] at this

variable {params : List SqlParam} {t u : Token}

lemma lex_boundText (ht : scanner.Valid t)
    (hb : t.kind = .param → ∃ p lit, paramOf params t = some p ∧ sqlParamLiteral p = .ok lit) :
    lex (boundText params t) = boundTokens params t := by
  unfold boundText boundTokens
  rcases hp : paramOf params t with _ | p
  · exact lex_text ht
  · have hk : t.kind = .param := by
      by_contra hk
      simp [paramOf, hk] at hp
    obtain ⟨p', lit, hp', hl⟩ := hb hk
    obtain rfl : p = p' := by simpa [hp] using hp'
    simp [hl, Except.toOption, lex_sqlParamLiteral hl]

/-- A literal is never empty. -/
lemma literal_cons {p : SqlParam} {lit : List Char} (h : sqlParamLiteral p = .ok lit) :
    ∃ d r, lit = d :: r ∧ Start p d := by
  cases lit with
  | nil =>
    have hlex := lex_sqlParamLiteral h
    rw [lex, Lexer.lex_nil] at hlex
    cases p <;> simp [literalTokens, floatTokens] at hlex
  | cons d r => exact ⟨d, r, rfl, literal_start h d rfl⟩

lemma fitsAfter_iff {q : SqlParam} {d : Char} (hd : Start q d) (hk : t.kind ≠ .param)
    (hclosed : t.kind = .str ∨ t.kind = .ident ∨ t.kind = .line ∨ t.kind = .block →
      t.closed = true) :
    follow t d = true ↔ fitsAfter t q = true := by
  unfold follow fitsAfter
  cases h : t.kind
  · simp [hclosed (by simp [h]), hd.quote]
  · simp [hclosed (by simp [h]), hd.other.1]
  · simp [hclosed (by simp [h])]
  · simp [hclosed (by simp [h])]
  · exact absurd h hk
  · simp [hd.word]
  · simp [← hd.digit, hd.minus, hd.other.2, ← Bool.not_eq_true]

lemma fitsBefore_iff {p : SqlParam} {x : Token} (hx : x ∈ (literalTokens p).getLast?)
    (hu : scanner.Valid u) {d : Char} (hd : d ∈ u.text.head?) :
    follow x d = true ↔ fitsBefore p u = true := by
  obtain ⟨h1, h2⟩ := head_kind hu d hd
  rw [follow_literal p d x hx, h1, h2]
  simp [fitsBefore, imp_iff_not_or]

lemma fitsBetween_iff {p q : SqlParam} {x : Token} (hx : x ∈ (literalTokens p).getLast?)
    {d : Char} (hd : Start q d) : follow x d = true ↔ fitsBetween p q = true := by
  rw [follow_literal p d x hx, hd.quote, hd.word]
  simp [fitsBetween, imp_iff_not_or]

lemma kind_of_paramOf {p : SqlParam} (h : paramOf params t = some p) : t.kind = .param := by
  by_contra hk
  simp [paramOf, hk] at h

/-- Next to each other in the statement, so apart after binding iff the literals fit. -/
lemma fits_iff (ht : scanner.Valid t) (hu : scanner.Valid u) (hadj : scanner.Adjacent t u)
    (hbt : t.kind = .param → ∃ p lit, paramOf params t = some p ∧ sqlParamLiteral p = .ok lit)
    (hbu : u.kind = .param → ∃ p lit, paramOf params u = some p ∧ sqlParamLiteral p = .ok lit) :
    (∀ x ∈ (lex (boundText params t)).getLast?, ∀ d ∈ (boundText params u).head?,
      follow x d = true) ↔ fits params t u = true := by
  have hadj : ∀ d ∈ u.text.head?, follow t d = true := hadj
  obtain ⟨c, r, hc⟩ : ∃ c r, u.text = c :: r := List.exists_cons_of_ne_nil hu.text_ne_nil
  rw [lex_boundText ht hbt]
  unfold boundTokens boundText fits
  rcases hpt : paramOf params t with _ | p <;> rcases hpu : paramOf params u with _ | q
  · simpa using hadj
  · -- a literal after a token of the statement
    obtain ⟨q', lit, hq, hl⟩ := hbu (kind_of_paramOf hpu)
    obtain rfl : q = q' := by simpa [hpu] using hq
    obtain ⟨d, r', rfl, hd⟩ := literal_cons hl
    have hk : t.kind ≠ .param := by
      intro hk
      obtain ⟨p, _, hp, -⟩ := hbt hk
      simp [hpt] at hp
    have := fitsAfter_iff hd hk fun h => by
      have hf := hadj c (by simp [hc])
      rcases h with h | h | h | h <;> simp_all [follow]
    simpa [hl, Except.toOption] using this
  · -- a token of the statement after a literal
    have hlast : ∃ x, (literalTokens p).getLast? = some x := by
      cases p <;> simp [literalTokens, floatTokens, List.getLast?_append, List.getLast?_cons]
    obtain ⟨x, hx⟩ := hlast
    have := fitsBefore_iff hx hu (d := c) (by simp [hc])
    simpa [hx, hc] using this
  · -- two literals
    obtain ⟨q', lit, hq, hl⟩ := hbu (kind_of_paramOf hpu)
    obtain rfl : q = q' := by simpa [hpu] using hq
    obtain ⟨d, r', rfl, hd⟩ := literal_cons hl
    have hlast : ∃ x, (literalTokens p).getLast? = some x := by
      cases p <;> simp [literalTokens, floatTokens, List.getLast?_append, List.getLast?_cons]
    obtain ⟨x, hx⟩ := hlast
    have := fitsBetween_iff hx hd
    simpa [hx, hl, Except.toOption] using this

/-- **When binding cannot inject**: the bound text has the tokens of the statement, each
placeholder replaced by the complete literal of its value, iff no literal joins a neighbour. -/
theorem bindSqlParams_tokens_iff {sql out : List Char} (h : bindSqlParams sql params = .ok out) :
    lex out = (lex sql).flatMap (boundTokens params) ↔
      (lex sql).IsChain fun t u => fits params t u = true := by
  obtain ⟨rfl, hb⟩ := bindSqlParams_ok h
  have hv : ∀ t ∈ lex sql, scanner.Valid t := fun t ht => scanner.valid_of_mem ht
  have hseg : (lex sql).flatMap (boundTokens params) =
      (lex sql).flatMap fun t => lex (boundText params t) :=
    List.flatMap_congr fun t ht => (lex_boundText (hv t ht) (hb t ht)).symm
  have hne : ∀ t ∈ lex sql, boundText params t ≠ [] := by
    intro t ht
    unfold boundText
    rcases hp : paramOf params t with _ | p
    · exact (hv t ht).text_ne_nil
    · obtain ⟨q, lit, hq, hl⟩ := hb t ht (kind_of_paramOf hp)
      obtain rfl : p = q := by simpa [hp] using hq
      obtain ⟨d, r, rfl, -⟩ := literal_cons hl
      simp [hl, Except.toOption]
  rw [hseg]
  refine (scanner.lex_substitute_iff (boundText params) hne).trans ?_
  exact isChain_congr (scanner.isChain_lex sql) fun t ht u hu hadj =>
    fits_iff (hv t ht) (hv u hu) hadj (hb t ht) (hb u hu)

/-- A negative number after a minus sign: the two signs start a comment. -/
theorem bindSqlParams_comment :
    ∃ out, bindSqlParams "SELECT 1-$1".toList [.integer (-1)] = .ok out ∧
      lex out ≠ (lex "SELECT 1-$1".toList).flatMap (boundTokens [.integer (-1)]) := by
  refine ⟨"SELECT 1--1".toList, ?_, by decide⟩
  rw [bindSqlParams, scanSqlParams, scan_normal]
  rfl

/-- A text with a quote, in a condition and before a line comment. -/
theorem bindSqlParams_tokens_text :
    lex "SELECT * FROM t WHERE a = 'O''Reilly' -- $1".toList =
      (lex "SELECT * FROM t WHERE a = $1 -- $1".toList).flatMap
        (boundTokens [.text "O'Reilly".toList]) := by
  have h : bindSqlParams "SELECT * FROM t WHERE a = $1 -- $1".toList [.text "O'Reilly".toList] =
      .ok "SELECT * FROM t WHERE a = 'O''Reilly' -- $1".toList := by
    rw [bindSqlParams, scanSqlParams, scan_normal]
    rfl
  exact (bindSqlParams_tokens_iff h).2 (by decide)

end Rsduck.Db
