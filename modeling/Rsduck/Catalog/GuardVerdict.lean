import Mathlib
import Rsduck.Catalog.Guard
import Rsduck.Lib.Infix
import Rsduck.Sql.DuckDb

/-!
The guard's verdict on a text and the tokens of the text.

The guard looks for a schema and a dot in the text without name quotes. The tokens say the same for
every spelling: with a comment the schema can be put into any text, and with a blank it can be
taken apart from its dot.
-/

namespace Rsduck.Catalog

open Lib Lib.Text Sql

/-! ### What a text says, token by token -/

/-- What a token says: a name whatever its case and quotes, a literal whatever it holds, or the
token itself. -/
inductive Meaning
  | name (content : List Char)
  | literal
  | other (text : List Char)
  deriving DecidableEq

/-- The name after its opening quote, with its doubled quotes once. -/
def unquoteName : List Char → List Char
  | [] => []
  | [c] => if c = '"' then [] else [c]
  | c :: d :: r =>
    if c = '"' ∧ d = '"' then c :: unquoteName r
    else if c = '"' then unquoteName (d :: r)
    else c :: unquoteName (d :: r)

/-- White space and comments say nothing. -/
def meaning (t : DuckDb.Token) : Option Meaning :=
  match t.kind with
  | .line | .block => none
  | .str | .escaped | .dollar => some .literal
  | .ident => some (.name (toAsciiLowercase (unquoteName t.text.tail)))
  | .word => some (.name (toAsciiLowercase t.text))
  | .param | .num => some (.other (toAsciiLowercase t.text))
  | .sym => if t.text.all isAsciiWhitespace then none else some (.other t.text)

def meanings (sql : List Char) : List Meaning := (DuckDb.lex sql).filterMap meaning

/-- The lexer reads the text: no literal, name or block comment is left open. -/
def Lexes (sql : List Char) : Prop := ∀ t ∈ DuckDb.lex sql, t.closed = true ∨ t.kind = .line

instance (sql : List Char) : Decidable (Lexes sql) :=
  inferInstanceAs (Decidable (∀ t ∈ DuckDb.lex sql, t.closed = true ∨ t.kind = .line))

/-- The texts are read as the same tokens. -/
structure SameTokens (s t : List Char) : Prop where
  left : Lexes s
  right : Lexes t
  same : meanings s = meanings t

/-- A relation of a schema that is managed by the service is named. -/
def NamesManaged (sql : List Char) : Prop :=
  Lexes sql ∧ ∃ schema ∈ ["rsduck_catalog", "rsduck_internal"],
    [.name schema.toList, .other ['.']] <:+: meanings sql

/-! ### The law and when it holds -/

def refuses (sql : List Char) : Bool :=
  match guardExternalSql sql with
  | .ok _ => false
  | .error _ => true

/-- The verdicts on the text are the verdicts on its tokens, and what it names of the managed schemas
is refused. -/
structure JudgesTokens (sql : List Char) : Prop where
  same : ∀ other, SameTokens sql other → refuses other = refuses sql ∧
    isReservedDiagnosticRead other = isReservedDiagnosticRead sql
  refused : NamesManaged sql → refuses sql = true

def isNameQuote (c : Char) : Bool := c == '"' || c == '`'

/-- What the guard looks for. -/
def guardNeedles : List String :=
  ["rsduck_catalog.", "rsduck_internal.", "pg_catalog.", "information_schema."]

/-- A name holds a reserved schema's name with a dot. -/
def HidesSchema (sql : List Char) : Prop :=
  ∃ content, .name content ∈ meanings sql ∧ ∃ needle ∈ guardNeedles,
    contains needle (content.filter fun c => !isNameQuote c) = true

/-- A text with these tokens begins, for the guard, as a query that reads. -/
def BeginsAsRead (sql : List Char) : Prop :=
  ∃ other, SameTokens sql other ∧ isCatalogProjectionRead (normalizeForGuard other) = true

lemma SameTokens.refl {s : List Char} (h : Lexes s) : SameTokens s s := ⟨h, h, rfl⟩

/-! ### Searching the normalized text -/

/-- The text in lower case without name quotes. -/
def bare (sql : List Char) : List Char := (toAsciiLowercase sql).filter fun c => !isNameQuote c

lemma bare_append (s t : List Char) : bare (s ++ t) = bare s ++ bare t := by
  unfold bare toAsciiLowercase
  rw [List.map_append, List.filter_append]

lemma bare_flatMap {τ : Type} (f : τ → List Char) (ts : List τ) :
    bare (ts.flatMap f) = ts.flatMap fun t => bare (f t) := by
  induction ts with
  | nil => rfl
  | cons t ts ih => rw [List.flatMap_cons, List.flatMap_cons, bare_append, ih]

lemma normalizeForGuard_eq (sql : List Char) :
    normalizeForGuard sql = joinWords (words (bare (trimEndMatches ';' (trim sql)))) := by
  have hquote : (fun c : Char => c != '"' && c != '`') = fun c => !isNameQuote c := by
    funext c
    simp [isNameQuote, bne]
  unfold normalizeForGuard bare
  rw [hquote]

lemma toLower_of_isWhitespace {c : Char} (h : isWhitespace c = true) : c.toLower = c := by
  have hnot : ¬ (c.val ≥ 'A'.val ∧ c.val ≤ 'Z'.val) := by
    rintro ⟨hlo, hhi⟩
    simp only [isWhitespace, Bool.or_eq_true, Bool.and_eq_true, decide_eq_true_eq, beq_iff_eq] at h
    have hlo' : 65 ≤ c.toNat := hlo
    have hhi' : c.toNat ≤ 90 := hhi
    omega
  unfold Char.toLower
  rw [dif_neg hnot]

/-- The parts a search text is made of: no white space, no semicolon. -/
def Searchable (needle : String) : Prop :=
  needle.toList ≠ [] ∧ ∀ c ∈ needle.toList, isWhitespace c = false ∧ c ≠ ';'

instance (needle : String) : Decidable (Searchable needle) :=
  decidable_of_iff
    (needle.toList ≠ [] ∧ needle.toList.all (fun c => !isWhitespace c && c != ';') = true)
    (by simp [Searchable])

/-- Trimming and joining hide nothing that is searched for. -/
lemma contains_normalizeForGuard {needle : String} (h : Searchable needle) (sql : List Char) :
    contains needle (normalizeForGuard sql) = true ↔ needle.toList <:+: bare sql := by
  obtain ⟨hne, hchars⟩ := h
  obtain ⟨a, b, hsql, ha, hb⟩ := exists_trim sql
  obtain ⟨d, htrim, hd⟩ := exists_trimEndMatches ';' (trim sql)
  have hspace : ∀ s, (∀ c ∈ s, isWhitespace c = true) → ∀ c ∈ bare s, c ∉ needle.toList := by
    intro s hs c hc hmem
    obtain ⟨e, he, rfl⟩ := List.mem_map.1 (List.mem_filter.1 hc).1
    rw [toLower_of_isWhitespace (hs e he)] at hmem
    have := (hchars e hmem).1
    rw [hs e he] at this
    cases this
  have hsemicolon : ∀ c ∈ bare d, c ∉ needle.toList := by
    intro c hc hmem
    obtain ⟨e, he, rfl⟩ := List.mem_map.1 (List.mem_filter.1 hc).1
    rw [hd e he] at hmem
    exact (hchars _ hmem).2 rfl
  have hsplit : bare sql = bare a ++ (bare (trimEndMatches ';' (trim sql)) ++ (bare d ++ bare b)) := by
    conv_lhs => rw [hsql, htrim]
    simp only [bare_append, List.append_assoc]
  have hright : ∀ c ∈ bare d ++ bare b, c ∉ needle.toList := fun c hc =>
    (List.mem_append.1 hc).elim (hsemicolon c) (hspace b hb c)
  rw [contains_iff, normalizeForGuard_eq, infix_joinWords_iff hne fun c hc => (hchars c hc).1, hsplit,
    infix_append_iff_right hne (hspace a ha), infix_append_iff_left hne hright]

lemma searchable_guardNeedles : ∀ needle ∈ guardNeedles, Searchable needle := by
  decide +kernel

/-- Which texts the guard refuses. -/
lemma refuses_iff (sql : List Char) : refuses sql = true ↔
    (∃ needle ∈ ["rsduck_catalog.", "rsduck_internal."],
        contains needle (normalizeForGuard sql) = true) ∨
      isCatalogProjectionRead (normalizeForGuard sql) = false ∧
        ∃ needle ∈ ["pg_catalog.", "information_schema."],
          contains needle (normalizeForGuard sql) = true := by
  have hnone : ∀ p : String → Prop, ¬ ∃ needle ∈ ([] : List String), p needle := by
    rintro p ⟨needle, hmem, -⟩
    exact List.not_mem_nil hmem
  simp only [List.exists_mem_cons_iff, hnone, or_false]
  unfold refuses guardExternalSql
  by_cases hcatalog : contains "rsduck_catalog." (normalizeForGuard sql) = true
  · simp [hcatalog]
  by_cases hinternal : contains "rsduck_internal." (normalizeForGuard sql) = true
  · simp [hcatalog, hinternal]
  by_cases hread : isCatalogProjectionRead (normalizeForGuard sql) = true
  · simp [hcatalog, hinternal, hread]
  by_cases hpg : contains "pg_catalog." (normalizeForGuard sql) = true
  · simp [hcatalog, hinternal, hread, hpg]
  by_cases hinfo : contains "information_schema." (normalizeForGuard sql) = true
  · simp [hcatalog, hinternal, hread, hpg, hinfo]
  · simp [hcatalog, hinternal, hread, hpg, hinfo]

/-- A text that does not begin as a read is refused for any of the schemas. -/
lemma refuses_of_contains {sql : List Char} {needle : String} (hmem : needle ∈ guardNeedles)
    (hneedle : contains needle (normalizeForGuard sql) = true)
    (hread : isCatalogProjectionRead (normalizeForGuard sql) = false) : refuses sql = true := by
  rw [refuses_iff]
  have hsplit : needle ∈ ["rsduck_catalog.", "rsduck_internal."] ∨
      needle ∈ ["pg_catalog.", "information_schema."] := List.mem_append.1 hmem
  rcases hsplit with hmem | hmem
  · exact .inl ⟨needle, hmem, hneedle⟩
  · exact .inr ⟨hread, needle, hmem, hneedle⟩

/-- A text that begins as a read is a diagnostic when it is refused, and only then. -/
lemma isReservedDiagnosticRead_eq (sql : List Char) : isReservedDiagnosticRead sql =
    (isCatalogProjectionRead (normalizeForGuard sql) && refuses sql) := by
  rw [Bool.eq_iff_iff, Bool.and_eq_true, refuses_iff]
  unfold isReservedDiagnosticRead
  by_cases hread : isCatalogProjectionRead (normalizeForGuard sql) = true
  · simp [hread]
  · simp [hread]

/-! ### A comment with the schema -/

def schemaComment : List Char := "/*rsduck_catalog.*/".toList

def schemaCommentToken : DuckDb.Token := ⟨.block, schemaComment, true⟩

lemma lex_schemaComment (sql : List Char) :
    DuckDb.lex (schemaComment ++ sql) = schemaCommentToken :: DuckDb.lex sql := by
  have hlex : DuckDb.lexer.lex schemaComment = [schemaCommentToken] := by decide +kernel
  have happend := DuckDb.lexer.lex_append (s := schemaComment) (u := sql) fun t ht d _ => by
    rw [hlex] at ht
    obtain rfl : schemaCommentToken = t := Option.some.inj ht
    rfl
  rw [hlex] at happend
  exact happend

lemma sameTokens_schemaComment {sql : List Char} (h : Lexes sql) :
    SameTokens sql (schemaComment ++ sql) where
  left := h
  right := by
    intro t ht
    rw [lex_schemaComment] at ht
    rcases List.mem_cons.1 ht with rfl | ht
    · exact .inl rfl
    · exact h t ht
  same := by
    rw [meanings, meanings, lex_schemaComment]
    rfl

lemma head?_words {c : Char} (hc : isWhitespace c = false) (r : List Char) :
    (joinWords (words (c :: r))).head? = some c := by
  obtain ⟨w, ws, hw⟩ : ∃ w ws, r.splitOnP isWhitespace = w :: ws :=
    List.exists_cons_of_ne_nil (List.splitOnP_ne_nil _ _)
  have hsplit : (c :: r).splitOnP isWhitespace = (c :: w) :: ws := by
    rw [List.splitOnP_cons_eq_if_modifyHead, hc, hw]
    rfl
  rw [words, hsplit]
  show (joinWords ((c :: w) :: ws.filter (· != []))).head? = some c
  rcases ws.filter (· != []) with _ | ⟨v, vs⟩
  · rfl
  · rw [joinWords, List.intercalate_cons_cons]
    rfl

lemma exists_rdropWhile_cons {p : Char → Bool} {c : Char} (hc : p c = false) (r : List Char) :
    ∃ r', (c :: r).rdropWhile p = c :: r' := by
  have hne : (c :: r).rdropWhile p ≠ [] := by
    intro hnil
    have := List.rdropWhile_eq_nil_iff.1 hnil c List.mem_cons_self
    rw [hc] at this
    cases this
  obtain ⟨d, r', hd⟩ := List.exists_cons_of_ne_nil hne
  have hpre := List.rdropWhile_prefix (p := p) (l := c :: r)
  rw [hd] at hpre
  obtain ⟨rfl, -⟩ := List.cons_prefix_cons.1 hpre
  exact ⟨r', hd⟩

/-- The first character of a text that is not trimmed away is the first one the guard sees. -/
lemma head?_normalizeForGuard {c : Char} (hspace : isWhitespace c = false) (hsemicolon : c ≠ ';')
    (hquote : isNameQuote c = false) (hlower : c.toLower = c) (r : List Char) :
    (normalizeForGuard (c :: r)).head? = some c := by
  have htrimStart : trimStart (c :: r) = c :: r := by
    rw [trimStart, List.dropWhile_cons, if_neg (by simp [hspace])]
  obtain ⟨r1, h1⟩ := exists_rdropWhile_cons hspace r
  obtain ⟨r2, h2⟩ := exists_rdropWhile_cons (p := (· == ';')) (by simpa using hsemicolon) r1
  rw [normalizeForGuard_eq, trim, htrimStart, trimEnd, h1, trimEndMatches, h2]
  have hbare : bare (c :: r2) = c :: bare r2 := by
    unfold bare toAsciiLowercase
    rw [List.map_cons, hlower, List.filter_cons, if_pos (by simp [hquote])]
  rw [hbare]
  exact head?_words hspace _

lemma not_beginsAsRead_slash (r : List Char) :
    isCatalogProjectionRead (normalizeForGuard ('/' :: r)) = false := by
  have hhead := head?_normalizeForGuard (c := '/') (by decide) (by decide) (by decide) (by decide) r
  rcases h : normalizeForGuard ('/' :: r) with _ | ⟨d, t⟩
  · rfl
  · rw [h] at hhead
    obtain rfl : d = '/' := by simpa using hhead
    rfl

/-- With the comment in front the text is refused, and is no diagnostic. -/
lemma refuses_schemaComment (sql : List Char) :
    refuses (schemaComment ++ sql) = true ∧
      isReservedDiagnosticRead (schemaComment ++ sql) = false := by
  have hread : isCatalogProjectionRead (normalizeForGuard (schemaComment ++ sql)) = false :=
    not_beginsAsRead_slash _
  have hmem : "rsduck_catalog." ∈ guardNeedles := by decide
  have hneedle : contains "rsduck_catalog." (normalizeForGuard (schemaComment ++ sql)) = true := by
    rw [contains_normalizeForGuard (searchable_guardNeedles _ hmem), bare_append]
    have hcomment : bare schemaComment = "/*".toList ++ "rsduck_catalog.".toList ++ "*/".toList := by
      decide +kernel
    rw [hcomment]
    exact List.infix_append_of_infix_left (List.infix_append _ _ _)
  refine ⟨refuses_of_contains hmem hneedle hread, ?_⟩
  rw [isReservedDiagnosticRead_eq, hread]
  rfl

/-! ### A spelling with blanks -/

def blankToken : DuckDb.Token := ⟨.sym, [' '], true⟩

def emptyLiteral : DuckDb.Token := ⟨.str, "''".toList, true⟩

/-- What stands for a token: a blank for a comment, the empty literal for a literal, and blanks
around names and parameters. -/
def spaced (t : DuckDb.Token) : List Char :=
  match t.kind with
  | .line | .block => [' ']
  | .str | .escaped | .dollar => " '' ".toList
  | .ident | .word | .param => ' ' :: (t.text ++ [' '])
  | .num | .sym => t.text

def spacedText (sql : List Char) : List Char := (DuckDb.lex sql).flatMap spaced

/-- The tokens of what stands for a token. -/
def spacedTokens (t : DuckDb.Token) : List DuckDb.Token :=
  match t.kind with
  | .line | .block => [blankToken]
  | .str | .escaped | .dollar => [blankToken, emptyLiteral, blankToken]
  | .ident | .word | .param => [blankToken, t, blankToken]
  | .num | .sym => [t]

lemma lex_blank_cons (s : List Char) : DuckDb.lex (' ' :: s) = blankToken :: DuckDb.lex s := by
  have hnext : DuckDb.next ' ' s = (blankToken, s) := by
    simp [DuckDb.next, isWordChar, blankToken]
  have hlex := DuckDb.lexer.lex_cons ' ' s
  have hnext : DuckDb.lexer.next ' ' s = (blankToken, s) := hnext
  rw [hnext] at hlex
  exact hlex

/-- A closed token ends before a blank. -/
lemma follow_blank {t : DuckDb.Token} (h : t.closed = true) : DuckDb.follow t ' ' = true := by
  have hword : isWordChar ' ' = false := by decide
  have hnum : DuckDb.isNumChar ' ' = false := by decide
  obtain ⟨kind, text, closed⟩ := t
  have hclosed : closed = true := h
  subst hclosed
  cases kind with
  | num => simp [DuckDb.follow, hnum]
  | word => simp [DuckDb.follow, DuckDb.isNameChar, hword]
  | param => simp [DuckDb.follow, hword]
  | sym => simp [DuckDb.follow, hword]
  | _ => rfl

lemma lex_text_blank {t : DuckDb.Token} (hvalid : DuckDb.lexer.Valid t) (h : t.closed = true) :
    DuckDb.lex (t.text ++ [' ']) = [t, blankToken] := by
  have hlex := DuckDb.lex_text hvalid
  have happend := DuckDb.lexer.lex_append (s := t.text) (u := [' ']) fun u hu d hd => by
    rw [show DuckDb.lexer.lex t.text = [t] from hlex] at hu
    obtain rfl : t = u := Option.some.inj hu
    obtain rfl : ' ' = d := Option.some.inj hd
    exact follow_blank h
  rw [show DuckDb.lexer.lex t.text = [t] from hlex] at happend
  exact happend.trans (by rw [show DuckDb.lexer.lex [' '] = [blankToken] from by decide]; rfl)

/-- Comments aside, a token of a text that is read is closed. -/
lemma Lexes.closed {sql : List Char} (h : Lexes sql) {t : DuckDb.Token} (ht : t ∈ DuckDb.lex sql)
    (hkind : t.kind ≠ .line) : t.closed = true := (h t ht).resolve_right hkind

lemma lex_spaced {sql : List Char} (h : Lexes sql) {t : DuckDb.Token} (ht : t ∈ DuckDb.lex sql) :
    DuckDb.lex (spaced t) = spacedTokens t := by
  have hvalid : DuckDb.lexer.Valid t := DuckDb.lexer.valid_of_mem ht
  have hnamed : t.kind ≠ .line →
      DuckDb.lex (' ' :: (t.text ++ [' '])) = [blankToken, t, blankToken] := fun hkind => by
    rw [lex_blank_cons, lex_text_blank hvalid (h.closed ht hkind)]
  unfold spaced spacedTokens
  split
  · decide
  · decide
  · decide +kernel
  · decide +kernel
  · decide +kernel
  · rename_i hkind
    exact hnamed (by rw [hkind]; exact DuckDb.Kind.noConfusion)
  · rename_i hkind
    exact hnamed (by rw [hkind]; exact DuckDb.Kind.noConfusion)
  · rename_i hkind
    exact hnamed (by rw [hkind]; exact DuckDb.Kind.noConfusion)
  · exact DuckDb.lex_text hvalid
  · exact DuckDb.lex_text hvalid

lemma follow_blankToken (d : Char) : DuckDb.follow blankToken d = true := by
  simp [DuckDb.follow, blankToken]

/-- What stands for a token begins with a blank or as the token. -/
lemma head?_spaced (t : DuckDb.Token) :
    (spaced t).head? = some ' ' ∨ (spaced t).head? = t.text.head? := by
  unfold spaced
  split
  all_goals first
    | exact .inl rfl
    | exact .inr rfl

/-- It ends with a blank or with the token. -/
lemma getLast?_spacedTokens (t : DuckDb.Token) : (spacedTokens t).getLast? = some blankToken ∨
    (spacedTokens t).getLast? = some t ∧ t.kind ≠ .line := by
  unfold spacedTokens
  split
  · exact .inl rfl
  · exact .inl rfl
  · exact .inl rfl
  · exact .inl rfl
  · exact .inl rfl
  · exact .inl rfl
  · exact .inl rfl
  · exact .inl rfl
  · rename_i hkind
    exact .inr ⟨rfl, by rw [hkind]; exact DuckDb.Kind.noConfusion⟩
  · rename_i hkind
    exact .inr ⟨rfl, by rw [hkind]; exact DuckDb.Kind.noConfusion⟩

lemma spaced_ne_nil {sql : List Char} {t : DuckDb.Token} (ht : t ∈ DuckDb.lex sql) :
    spaced t ≠ [] := by
  have hne : t.text ≠ [] := DuckDb.tokenLexer.text_ne_nil_of_mem ht
  unfold spaced
  split
  · exact List.cons_ne_nil _ _
  · exact List.cons_ne_nil _ _
  · decide
  · decide
  · decide
  · exact List.cons_ne_nil _ _
  · exact List.cons_ne_nil _ _
  · exact List.cons_ne_nil _ _
  · exact hne
  · exact hne

/-- The tokens of the spelling with blanks. -/
lemma lex_spacedText {sql : List Char} (h : Lexes sql) :
    DuckDb.lex (spacedText sql) = (DuckDb.lex sql).flatMap spacedTokens := by
  have hseg : (DuckDb.lex sql).flatMap (fun t => DuckDb.lexer.lex (spaced t)) =
      (DuckDb.lex sql).flatMap spacedTokens := by
    refine List.flatMap_congr fun t ht => ?_
    exact lex_spaced h ht
  rw [← hseg]
  refine (DuckDb.lexer.lex_substitute_iff spaced fun t ht => spaced_ne_nil ht).2 ?_
  have hchain := DuckDb.lexer.isChain_lex sql
  refine (isChain_congr hchain fun t ht u _ hadjacent => ⟨fun _ => hadjacent, fun _ => ?_⟩).2 hchain
  intro x hx d hd
  rw [show DuckDb.lexer.lex (spaced t) = spacedTokens t from lex_spaced h ht] at hx
  rcases getLast?_spacedTokens t with hlast | ⟨hlast, hkind⟩
  · rw [hlast] at hx
    obtain rfl : blankToken = x := Option.some.inj hx
    exact follow_blankToken d
  · rw [hlast] at hx
    obtain rfl : t = x := Option.some.inj hx
    rcases head?_spaced u with hhead | hhead
    · rw [hhead] at hd
      obtain rfl : ' ' = d := Option.some.inj hd
      exact follow_blank (h.closed ht hkind)
    · rw [hhead] at hd
      exact hadjacent d hd

lemma meaning_blankToken : meaning blankToken = none := by decide

/-- What stands for a token says the same. -/
lemma filterMap_spacedTokens (t : DuckDb.Token) :
    (spacedTokens t).filterMap meaning = (meaning t).toList := by
  have hthree : ∀ u, [blankToken, u, blankToken].filterMap meaning = (meaning u).toList := by
    intro u
    cases hu : meaning u with
    | none => simp [meaning_blankToken, hu]
    | some m => simp [meaning_blankToken, hu]
  have hone : [t].filterMap meaning = (meaning t).toList := by
    cases hu : meaning t with
    | none => simp [hu]
    | some m => simp [hu]
  have hliteral : meaning emptyLiteral = some .literal := rfl
  unfold spacedTokens
  split
  · rename_i hkind
    rw [meaning, hkind]
    rfl
  · rename_i hkind
    rw [meaning, hkind]
    rfl
  · rename_i hkind
    rw [hthree, hliteral, meaning, hkind]
  · rename_i hkind
    rw [hthree, hliteral, meaning, hkind]
  · rename_i hkind
    rw [hthree, hliteral, meaning, hkind]
  · exact hthree t
  · exact hthree t
  · exact hthree t
  · exact hone
  · exact hone

lemma closed_spacedTokens {t u : DuckDb.Token} (ht : t.kind ≠ .line → t.closed = true)
    (hu : u ∈ spacedTokens t) : u.closed = true := by
  have hthree : ∀ v : DuckDb.Token, v.closed = true → u ∈ [blankToken, v, blankToken] →
      u.closed = true := by
    intro v hv hmem
    simp only [List.mem_cons, List.not_mem_nil, or_false] at hmem
    rcases hmem with rfl | rfl | rfl
    · rfl
    · exact hv
    · rfl
  have hblank : u ∈ [blankToken] → u.closed = true := by
    intro hmem
    rw [List.mem_singleton.1 hmem]
    rfl
  unfold spacedTokens at hu
  split at hu
  · exact hblank hu
  · exact hblank hu
  · exact hthree _ rfl hu
  · exact hthree _ rfl hu
  · exact hthree _ rfl hu
  all_goals
    rename_i hkind
    rw [hkind] at ht
    have hclosed := ht DuckDb.Kind.noConfusion
  · exact hthree t hclosed hu
  · exact hthree t hclosed hu
  · exact hthree t hclosed hu
  · rwa [List.mem_singleton.1 hu]
  · rwa [List.mem_singleton.1 hu]

lemma sameTokens_spacedText {sql : List Char} (h : Lexes sql) : SameTokens sql (spacedText sql) where
  left := h
  right := by
    intro u hu
    rw [lex_spacedText h] at hu
    obtain ⟨t, ht, hu⟩ := List.mem_flatMap.1 hu
    exact .inl (closed_spacedTokens (h.closed ht) hu)
  same := by
    unfold meanings
    rw [lex_spacedText h, List.filterMap_flatMap, List.filterMap_eq_flatMap_toList]
    exact List.flatMap_congr fun t _ => (filterMap_spacedTokens t).symm

/-! ### Where the schemas are left -/

/-- The letters that each schema's name has and no number or symbol. -/
def telltale (c : Char) : Prop := c = 'g' ∨ c = 'l' ∨ c = 'm'

/-- The names and parameters, as the guard sees them between the blanks. -/
def namedText (t : DuckDb.Token) : Option (List Char) :=
  match t.kind with
  | .ident | .word | .param => some (bare t.text)
  | _ => none

lemma bare_spaced_of_named {t : DuckDb.Token} {m : List Char} (h : namedText t = some m) :
    bare (spaced t) = ' ' :: (m ++ [' ']) := by
  have hnamed : bare (' ' :: (t.text ++ [' '])) = ' ' :: (bare t.text ++ [' ']) := by
    rw [show ' ' :: (t.text ++ [' ']) = [' '] ++ (t.text ++ [' ']) from rfl, bare_append,
      bare_append]
    rfl
  unfold namedText at h
  unfold spaced
  split at h
  · rename_i hkind
    rw [hkind, ← Option.some.inj h]
    exact hnamed
  · rename_i hkind
    rw [hkind, ← Option.some.inj h]
    exact hnamed
  · rename_i hkind
    rw [hkind, ← Option.some.inj h]
    exact hnamed
  · cases h

lemma isAlpha_of_telltale {c : Char} (h : telltale c.toLower) : c.isAlpha = true := by
  by_cases hupper : c.val ≥ 'A'.val ∧ c.val ≤ 'Z'.val
  · have hisUpper : c.isUpper = true := by simpa [Char.isUpper] using hupper
    simp [Char.isAlpha, hisUpper]
  · have hsame : c.toLower = c := by
      unfold Char.toLower
      rw [dif_neg hupper]
    rw [hsame] at h
    rcases h with rfl | rfl | rfl
    · decide
    · decide
    · decide

lemma not_telltale_of_isNumChar {c : Char} (h : DuckDb.isNumChar c = true) :
    ¬ telltale c.toLower := by
  intro htell
  have halpha := isAlpha_of_telltale htell
  unfold DuckDb.isNumChar at h
  rcases Bool.or_eq_true_iff.1 h with hdigit | hletter
  · simp only [Char.isAlpha, Char.isUpper, Char.isLower, Char.isDigit, Bool.or_eq_true,
      Bool.and_eq_true, decide_eq_true_eq, ge_iff_le, UInt32.le_iff_toNat_le] at halpha hdigit
    simp at halpha hdigit
    omega
  · revert hletter
    rcases htell with h | h | h
    · rw [h]
      decide
    · rw [h]
      decide
    · rw [h]
      decide

lemma not_telltale_of_not_isWordChar {c : Char} (h : isWordChar c = false) :
    ¬ telltale c.toLower := by
  intro htell
  have halpha := isAlpha_of_telltale htell
  simp [isWordChar, Char.isAlphanum, halpha] at h

lemma mem_bare {c : Char} {s : List Char} (h : c ∈ bare s) : ∃ d ∈ s, c = d.toLower := by
  obtain ⟨d, hd, rfl⟩ := List.mem_map.1 (List.mem_filter.1 h).1
  exact ⟨d, hd, rfl⟩

/-- What is no name has none of the letters. -/
lemma not_telltale_spaced {t : DuckDb.Token} (hplain : DuckDb.Plain t) (h : namedText t = none) :
    ∀ c ∈ bare (spaced t), ¬ telltale c := by
  have hblank : ∀ c ∈ bare [' '], ¬ telltale c := by
    intro c hc
    obtain rfl : c = ' ' := by simpa [bare, toAsciiLowercase, isNameQuote] using hc
    simp [telltale]
  have hliteral : ∀ c ∈ bare " '' ".toList, ¬ telltale c := by
    have hlist : bare " '' ".toList = [' ', '\'', '\'', ' '] := by decide +kernel
    rw [hlist]
    intro c hc
    simp only [List.mem_cons, List.not_mem_nil, or_false] at hc
    rcases hc with rfl | rfl | rfl | rfl <;> simp [telltale]
  intro c hc
  unfold namedText at h
  unfold spaced at hc
  unfold DuckDb.Plain at hplain
  cases hkind : t.kind with
  | ident => simp [hkind] at h
  | word => simp [hkind] at h
  | param => simp [hkind] at h
  | line =>
    rw [hkind] at hc
    exact hblank c hc
  | block =>
    rw [hkind] at hc
    exact hblank c hc
  | str =>
    rw [hkind] at hc
    exact hliteral c hc
  | escaped =>
    rw [hkind] at hc
    exact hliteral c hc
  | dollar =>
    rw [hkind] at hc
    exact hliteral c hc
  | num =>
    rw [hkind] at hc hplain
    obtain ⟨d, hd, rfl⟩ := mem_bare hc
    exact not_telltale_of_isNumChar (hplain d hd)
  | sym =>
    rw [hkind] at hc hplain
    obtain ⟨d, hd, rfl⟩ := mem_bare hc
    obtain ⟨e, htext, he⟩ := hplain
    rw [htext] at hd
    rw [List.mem_singleton.1 hd]
    exact not_telltale_of_not_isWordChar he

lemma exists_telltale : ∀ needle ∈ guardNeedles, ∃ c ∈ needle.toList, telltale c := by
  intro needle hmem
  simp only [guardNeedles, List.mem_cons, List.not_mem_nil, or_false] at hmem
  rcases hmem with rfl | rfl | rfl | rfl
  · exact ⟨'g', by decide, .inl rfl⟩
  · exact ⟨'l', by decide, .inr (.inl rfl)⟩
  · exact ⟨'g', by decide, .inl rfl⟩
  · exact ⟨'m', by decide, .inr (.inr rfl)⟩

/-- Without its quotes a name is the same before and after its doubled quotes are read. -/
lemma bare_unquoteName (s : List Char) : bare (unquoteName s) = bare s := by
  have hquote : ∀ r, bare ('"' :: r) = bare r := fun r => by
    simp [bare, toAsciiLowercase, isNameQuote]
  have hcons : ∀ c r r', bare r = bare r' → bare (c :: r) = bare (c :: r') := by
    intro c r r' h
    rw [← List.singleton_append, ← List.singleton_append (l := r'), bare_append, bare_append, h]
  fun_induction unquoteName s with
  | case1 => rfl
  | case2 => rfl
  | case3 c hc => rfl
  | case4 c d r h ih =>
    obtain ⟨rfl, rfl⟩ := h
    rw [hquote, hquote, hquote, ih]
  | case5 d r h ih => rw [hquote, ih]
  | case6 c d r h1 h2 ih => exact hcons c _ _ ih

lemma mem_dot_guardNeedles : ∀ needle ∈ guardNeedles, '.' ∈ needle.toList := by decide

/-- What the guard finds in a name is in the name. -/
lemma hidesSchema_of_named {sql : List Char} {t : DuckDb.Token} (ht : t ∈ DuckDb.lex sql)
    {m : List Char} (hm : namedText t = some m) {needle : String} (hmem : needle ∈ guardNeedles)
    (hin : needle.toList <:+: m) : HidesSchema sql := by
  have hplain := DuckDb.plain_of_valid (DuckDb.lexer.valid_of_mem ht)
  have hname : ∀ content, meaning t = some (.name content) →
      (content.filter fun c => !isNameQuote c) = m → HidesSchema sql := by
    rintro content hcontent rfl
    exact ⟨content, List.mem_filterMap.2 ⟨t, ht, hcontent⟩, needle, hmem,
      (contains_iff _ _).2 hin⟩
  unfold namedText at hm
  unfold DuckDb.Plain at hplain
  split at hm
  · rename_i hkind
    rw [hkind] at hplain
    refine hname (toAsciiLowercase (unquoteName t.text.tail)) (by rw [meaning, hkind]) ?_
    rw [← Option.some.inj hm, hplain]
    exact (bare_unquoteName _).trans (by simp [bare, toAsciiLowercase, isNameQuote])
  · rename_i hkind
    exact hname (toAsciiLowercase t.text) (by rw [meaning, hkind]) (Option.some.inj hm)
  · -- a parameter has no dot
    rename_i hkind
    rw [hkind] at hplain
    rw [← Option.some.inj hm] at hin
    obtain ⟨d, hd, hlower⟩ := mem_bare (hin.subset (mem_dot_guardNeedles needle hmem))
    have hdot := hplain d hd
    rw [eq_of_toLower_eq (by decide) hlower.symm] at hdot
    exact absurd hdot (by decide)
  · cases hm

/-- The spelling with blanks is accepted, unless a name hides a schema. -/
lemma not_contains_spacedText {sql : List Char} (hhides : ¬ HidesSchema sql)
    {needle : String} (hmem : needle ∈ guardNeedles) :
    contains needle (normalizeForGuard (spacedText sql)) = false := by
  have hsearch := searchable_guardNeedles needle hmem
  have hblank : ' ' ∉ needle.toList := fun hc => by
    have := (hsearch.2 ' ' hc).1
    revert this
    decide
  rw [Bool.eq_false_iff]
  intro hcontains
  rw [contains_normalizeForGuard hsearch, spacedText, bare_flatMap, ← List.nil_append
    (List.flatMap _ _)] at hcontains
  have hplain : ∀ t ∈ DuckDb.lex sql, namedText t = none → ∀ c ∈ bare (spaced t), ¬ telltale c :=
    fun t ht => not_telltale_spaced (DuckDb.plain_of_valid (DuckDb.lexer.valid_of_mem ht))
  rcases infix_pieces hblank (fun t _ m => bare_spaced_of_named) hplain
    (fun c hc => absurd hc List.not_mem_nil) hcontains with hall | ⟨t, ht, m, hm, hin⟩
  · obtain ⟨c, hc, htell⟩ := exists_telltale needle hmem
    exact hall c hc htell
  · exact hhides (hidesSchema_of_named ht hm hmem hin)

lemma refuses_spacedText {sql : List Char} (hhides : ¬ HidesSchema sql) :
    refuses (spacedText sql) = false := by
  have hnone : ∀ needle ∈ guardNeedles,
      contains needle (normalizeForGuard (spacedText sql)) = false := fun needle =>
    not_contains_spacedText hhides
  rw [Bool.eq_false_iff]
  intro h
  rcases (refuses_iff _).1 h with ⟨needle, hmem, hneedle⟩ | ⟨-, needle, hmem, hneedle⟩
  · rw [hnone needle (List.mem_append_left ["pg_catalog.", "information_schema."] hmem)] at hneedle
    cases hneedle
  · rw [hnone needle (List.mem_append_right ["rsduck_catalog.", "rsduck_internal."] hmem)] at hneedle
    cases hneedle

/-- What a name hides is found in every spelling. -/
lemma contains_of_hidesSchema {sql : List Char} (h : HidesSchema sql) :
    ∃ needle ∈ guardNeedles, contains needle (normalizeForGuard sql) = true := by
  obtain ⟨content, hname, needle, hmem, hin⟩ := h
  refine ⟨needle, hmem, (contains_normalizeForGuard (searchable_guardNeedles needle hmem) sql).2 ?_⟩
  obtain ⟨t, ht, hmeaning⟩ := List.mem_filterMap.1 hname
  have hplain := DuckDb.plain_of_valid (DuckDb.lexer.valid_of_mem ht)
  have hsame : (content.filter fun c => !isNameQuote c) = bare t.text := by
    unfold meaning at hmeaning
    unfold DuckDb.Plain at hplain
    cases hkind : t.kind with
    | ident =>
      rw [hkind] at hmeaning hplain
      cases hmeaning
      rw [hplain]
      exact (bare_unquoteName _).trans (by simp [bare, toAsciiLowercase, isNameQuote])
    | word =>
      rw [hkind] at hmeaning
      cases hmeaning
      rfl
    | sym =>
      rw [hkind] at hmeaning
      simp only at hmeaning
      split_ifs at hmeaning
      cases hmeaning
    | line => simp [hkind] at hmeaning
    | block => simp [hkind] at hmeaning
    | str => simp [hkind] at hmeaning
    | escaped => simp [hkind] at hmeaning
    | dollar => simp [hkind] at hmeaning
    | param => simp [hkind] at hmeaning
    | num => simp [hkind] at hmeaning
  obtain ⟨before, after, htext⟩ := List.append_of_mem ht
  have hsql : sql = DuckDb.lexer.render before ++ (t.text ++ DuckDb.lexer.render after) := by
    have hrender := DuckDb.lexer.render_lex sql
    have hlex : DuckDb.lexer.lex sql = before ++ t :: after := htext
    rw [hlex, Lexer.render_append, Lexer.render_cons] at hrender
    exact hrender.symm
  rw [hsql, bare_append, bare_append, ← hsame]
  exact List.infix_append_of_infix_right (List.infix_append_of_infix_left ((contains_iff _ _).1 hin))

/-! ### The law -/

/-- **The guard and the tokens**: the verdicts on a text are the verdicts on its tokens exactly when
it is no sequence of tokens, or one of its names hides a reserved schema and no spelling of it
begins as a read. -/
theorem judgesTokens_iff (sql : List Char) :
    JudgesTokens sql ↔ ¬ Lexes sql ∨ HidesSchema sql ∧ ¬ BeginsAsRead sql := by
  by_cases hlexes : Lexes sql
  · rw [or_iff_right (not_not.2 hlexes)]
    constructor
    · intro h
      obtain ⟨hrefuses, hdiagnostic⟩ := h.same _ (sameTokens_schemaComment hlexes)
      obtain ⟨hcomment, hnone⟩ := refuses_schemaComment sql
      rw [hcomment] at hrefuses
      rw [hnone] at hdiagnostic
      constructor
      · by_contra hhides
        have hspaced := (h.same _ (sameTokens_spacedText hlexes)).1
        rw [refuses_spacedText hhides, ← hrefuses] at hspaced
        cases hspaced
      · rintro ⟨other, hother, hread⟩
        -- a read that is refused is a diagnostic
        obtain ⟨hsame, hsame'⟩ := h.same other hother
        rw [isReservedDiagnosticRead_eq, hread, hsame, ← hrefuses, ← hdiagnostic] at hsame'
        cases hsame'
    · rintro ⟨hhides, hbegins⟩
      have hall : ∀ other, SameTokens sql other →
          refuses other = true ∧ isReservedDiagnosticRead other = false := by
        intro other hother
        have hread : isCatalogProjectionRead (normalizeForGuard other) = false := by
          rw [Bool.eq_false_iff]
          exact fun hread => hbegins ⟨other, hother, hread⟩
        have hhides' : HidesSchema other := by
          unfold HidesSchema at hhides ⊢
          rwa [← hother.same]
        obtain ⟨needle, hmem, hneedle⟩ := contains_of_hidesSchema hhides'
        refine ⟨refuses_of_contains hmem hneedle hread, ?_⟩
        rw [isReservedDiagnosticRead_eq, hread]
        rfl
      obtain ⟨hself, hself'⟩ := hall sql (.refl hlexes)
      refine ⟨fun other hother => ?_, fun _ => hself⟩
      obtain ⟨hrefuses, hdiagnostic⟩ := hall other hother
      rw [hrefuses, hdiagnostic, hself, hself']
      exact ⟨rfl, rfl⟩
  · refine iff_of_true ⟨fun other hother => absurd hother.left hlexes, ?_⟩ (.inl hlexes)
    exact fun hnames => absurd hnames.1 hlexes

/-- A managed relation is not refused when a blank stands before the dot, and harmless texts are
refused for a comment. -/
theorem blank_before_dot_not_judged :
    NamesManaged "SELECT * FROM rsduck_catalog .rs_user".toList ∧
      refuses "SELECT * FROM rsduck_catalog .rs_user".toList = false ∧
      SameTokens "SELECT 1".toList "SELECT 1 -- rsduck_catalog.".toList ∧
      refuses "SELECT 1".toList = false ∧ refuses "SELECT 1 -- rsduck_catalog.".toList = true ∧
      ¬ JudgesTokens "SELECT * FROM rsduck_catalog .rs_user".toList := by
  have hnames : NamesManaged "SELECT * FROM rsduck_catalog .rs_user".toList := by
    refine ⟨by decide +kernel, "rsduck_catalog", by decide, [.name "select".toList, .other ['*'],
      .name "from".toList], [.name "rs_user".toList], by decide +kernel⟩
  have hpassed : refuses "SELECT * FROM rsduck_catalog .rs_user".toList = false := by decide +kernel
  refine ⟨hnames, hpassed, ⟨by decide +kernel, by decide +kernel, by decide +kernel⟩,
    by decide +kernel, by decide +kernel, fun h => ?_⟩
  rw [h.refused hnames] at hpassed
  cases hpassed

end Rsduck.Catalog
