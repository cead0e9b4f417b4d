import Rsduck.Catalog.Guard
import Rsduck.Lib.Adjacent

/-!
The relations that a printed statement names after a keyword, by where the names stand in the text.
The guard finds just these with its tokens.
-/

namespace Rsduck.Catalog

open Lib Lib.Text Lib.Adjacent Lib.Adjacent.Alphabet Sql

/-- Commas are gaps like white space, brackets are words of their own, and semicolons do not count
at the ends of a word. -/
def sqlAlphabet : Alphabet Char where
  gap c := isWhitespace c || c == ','
  mark c := c == '(' || c == ')'
  edge c := c == ';'
  edge_letter c h := by
    obtain rfl := beq_iff_eq.1 h
    decide

/-- The word is a keyword, in whatever case. -/
def IsKeyword (keyword : String) (word : List Char) : Prop :=
  toAsciiLowercase (sqlAlphabet.bare word) = keyword.toList

/-- The word names the relation, with its schema or without; a parameter and a word that goes on
with the clause name none. -/
def Spells (word : List Char) (r : RelationName) : Prop :=
  word.head? ≠ some '$' ∧ String.ofList (toAsciiLowercase word) ∉ notRelations ∧ r.2 ≠ [] ∧
    ('.' ∉ word ∧ r = ("main".toList, normalizeRelationIdentifier word) ∨
      ∃ schema relation, word = schema ++ '.' :: relation ∧ '.' ∉ schema ∧ '.' ∉ relation ∧
        r = (normalizeRelationIdentifier schema, normalizeRelationIdentifier relation) ∧ r.1 ≠ [])

/-- The word after one of the keywords names the relation. -/
def NamedAfter (keywords : List String) (text : List Char) (r : RelationName) : Prop :=
  ∃ before key between word after, text = before ++ key ++ between ++ word ++ after ∧
    sqlAlphabet.Next before key between word after ∧ (∃ keyword ∈ keywords, IsKeyword keyword key) ∧
    Spells (sqlAlphabet.bare word) r

/-- The keyword stands in the text as a word. -/
def Occurs (keyword : String) (text : List Char) : Prop :=
  ∃ before word after, text = before ++ word ++ after ∧ sqlAlphabet.Stands before word after ∧
    IsKeyword keyword word

/-- The word after the first occurrence of the keyword names the relation. -/
def NamedAfterFirst (keyword : String) (text : List Char) (r : RelationName) : Prop :=
  ∃ before key between word after, text = before ++ key ++ between ++ word ++ after ∧
    sqlAlphabet.Next before key between word after ∧ IsKeyword keyword key ∧
    ¬ Occurs keyword before ∧ Spells (sqlAlphabet.bare word) r

/-! ### The tokens of the guard -/

lemma words_space {c : Char} (hc : isWhitespace c = true) (s : List Char) :
    words (c :: s) = words s := by
  rw [words, List.splitOnP_cons_eq_if_modifyHead, if_pos hc, List.filter_cons_of_neg (by simp)]
  rfl

/-- A piece without white space, up to the white space after it, is a word. -/
lemma words_piece {piece rest : List Char} (hne : piece ≠ [])
    (hpiece : ∀ c ∈ piece, isWhitespace c = false)
    (hrest : ∀ c ∈ rest.head?, isWhitespace c = true) :
    words (piece ++ rest) = piece :: words rest := by
  have hkeep : (fun x : List Char => x != []) piece = true := by simpa using hne
  rcases rest with _ | ⟨c, rest⟩
  · rw [List.append_nil, words, List.splitOnP_eq_singleton hpiece]
    exact List.filter_cons_of_pos hkeep
  · have hc := hrest c rfl
    rw [words_space hc, words, List.splitOnP_append_cons_of_forall_mem hpiece c hc]
    exact List.filter_cons_of_pos hkeep

lemma letter_iff {c : Char} : sqlAlphabet.letter c = true ↔
    isWhitespace c = false ∧ c ≠ ',' ∧ c ≠ '(' ∧ c ≠ ')' := by
  simp [letter, sqlAlphabet, and_assoc]

lemma flatMap_spaceTokens {word : List Char} (h : ∀ c ∈ word, sqlAlphabet.letter c = true) :
    word.flatMap spaceTokens = word := by
  induction word with
  | nil => rfl
  | cons c word ih =>
    obtain ⟨-, hcomma, hopen, hclose⟩ := letter_iff.1 (h c List.mem_cons_self)
    rw [List.flatMap_cons, ih fun d hd => h d (List.mem_cons_of_mem _ hd), spaceTokens,
      if_neg hcomma, if_neg (not_or.2 ⟨hopen, hclose⟩)]
    rfl

/-- What is spaced out begins with white space where a word ends. -/
lemma head?_spacedOut {s : List Char} (h : ∀ c ∈ s.head?, sqlAlphabet.letter c = false) :
    ∀ c ∈ (s.flatMap spaceTokens).head?, isWhitespace c = true := by
  rcases s with _ | ⟨d, s⟩
  · rintro _ ⟨⟩
  · intro c hc
    have hd := h d rfl
    rw [List.flatMap_cons, spaceTokens] at hc
    split_ifs at hc with hcomma hbracket
    · cases hc
      decide
    · cases hc
      decide
    · cases hc
      by_contra hspace
      rw [Bool.not_eq_true] at hspace
      rw [not_or] at hbracket
      rw [letter_iff.2 ⟨hspace, hcomma, hbracket⟩] at hd
      cases hd

/-- Spacing out a text and splitting it gives the units of the text. -/
lemma words_spaced (s : List Char) : words (s.flatMap spaceTokens) = sqlAlphabet.units s := by
  induction s using units.induct sqlAlphabet with
  | case1 =>
    rw [units]
    rfl
  | case2 c s hgap ih =>
    rw [units_gap hgap, ← ih, List.flatMap_cons]
    rcases Bool.or_eq_true_iff.1 hgap with hspace | hcomma
    · have hplain : spaceTokens c = [c] := by
        have hc : c ≠ ',' ∧ c ≠ '(' ∧ c ≠ ')' := by
          refine ⟨?_, ?_, ?_⟩
          all_goals
            rintro rfl
            revert hspace
            decide
        rw [spaceTokens, if_neg hc.1, if_neg (not_or.2 hc.2)]
      rw [hplain]
      exact words_space hspace _
    · obtain rfl := beq_iff_eq.1 hcomma
      exact words_space (by decide) _
  | case3 c s hgap hmark ih =>
    rw [units_mark (Bool.eq_false_iff.2 hgap) hmark, ← ih, List.flatMap_cons]
    have hbracket : c = '(' ∨ c = ')' := by simpa [sqlAlphabet] using hmark
    have hspaced : spaceTokens c = ' ' :: ([c] ++ [' ']) := by
      rcases hbracket with rfl | rfl <;> rfl
    rw [hspaced, List.cons_append, words_space (by decide), List.append_assoc,
      words_piece (List.cons_ne_nil _ _) ?_ (by rintro _ ⟨⟩; decide), List.singleton_append,
      words_space (by decide)]
    intro d hd
    rw [List.mem_singleton.1 hd]
    rcases hbracket with rfl | rfl <;> decide
  | case4 c s hgap hmark ih =>
    obtain ⟨word, rest, heq, hne, hword, hrest, hdrop⟩ := exists_word (s := s) hgap hmark
    rw [← hdrop] at ih
    rw [heq, units_word hne hword hrest, ← ih, List.flatMap_append, flatMap_spaceTokens hword]
    exact words_piece hne (fun d hd => (letter_iff.1 (hword d hd)).1) (head?_spacedOut hrest)

lemma trimMatches_of_forall {p : Char → Bool} {s : List Char} (h : ∀ c ∈ s, p c = false) :
    trimMatches p s = s := by
  have hdrop : s.dropWhile p = s := by
    rcases s with _ | ⟨c, s⟩
    · rfl
    · rw [List.dropWhile_cons_of_neg (by simp [h c List.mem_cons_self])]
  rw [trimMatches, hdrop, List.rdropWhile_eq_self_iff]
  intro hne
  simp [h _ (List.getLast_mem hne)]

lemma mem_of_mem_bare {word : List Char} {c : Char} (h : c ∈ sqlAlphabet.bare word) : c ∈ word :=
  (List.dropWhile_sublist _).subset ((List.rdropWhile_prefix _ _).subset h)

/-- No unit has white space or a comma in it. -/
lemma plain_of_mem_units {s unit : List Char} (h : unit ∈ sqlAlphabet.units s) :
    ∀ c ∈ unit, isWhitespace c = false ∧ c ≠ ',' := by
  obtain ⟨before, after, hsplit⟩ := List.append_of_mem h
  obtain ⟨a, b, -, -, -, hstands⟩ := exists_of_units hsplit
  intro c hc
  rcases hstands with hstands | ⟨d, hgap, -, rfl⟩
  · obtain ⟨hspace, hcomma, -⟩ := letter_iff.1 (hstands.letters c hc)
    exact ⟨hspace, hcomma⟩
  · rw [List.mem_singleton.1 hc]
    simpa [sqlAlphabet] using hgap

/-- **The guard's tokens are the tokens of the text.** -/
lemma sqlTokens_eq (s : List Char) : sqlTokens s = sqlAlphabet.tokens s := by
  have hmap : (sqlAlphabet.units s).map (fun token =>
        trim (trimMatches (· == ',') (trimMatches (· == ';') token))) =
      (sqlAlphabet.units s).map sqlAlphabet.bare := by
    refine List.map_congr_left fun unit hunit => ?_
    have hplain : ∀ c ∈ sqlAlphabet.bare unit, isWhitespace c = false ∧ c ≠ ',' :=
      fun c hc => plain_of_mem_units hunit c (mem_of_mem_bare hc)
    change trim (trimMatches (· == ',') (sqlAlphabet.bare unit)) = _
    rw [trimMatches_of_forall fun c hc => by simpa using (hplain c hc).2]
    exact trim_of_ends (fun c hc => (hplain c (List.mem_of_mem_head? hc)).1)
      fun c hc => (hplain c (List.mem_of_getLast? hc)).1
  rw [sqlTokens, words_spaced, hmap, tokens]
  exact List.filter_congr fun t _ => by cases t <;> rfl

/-! ### The relation a word names -/

lemma trimMatches_trimMatches (p : Char → Bool) (s : List Char) :
    trimMatches p (trimMatches p s) = trimMatches p s := by
  have hdrop : (trimMatches p s).dropWhile p = trimMatches p s := by
    rcases h : trimMatches p s with _ | ⟨c, t⟩
    · rfl
    · have hprefix : trimMatches p s <+: s.dropWhile p := List.rdropWhile_prefix p (s.dropWhile p)
      rw [h] at hprefix
      obtain ⟨u, hu⟩ := hprefix
      have hstop := List.head?_dropWhile_not p s
      rw [← hu, List.cons_append, List.head?_cons] at hstop
      rw [List.dropWhile_cons_of_neg (by simpa using hstop)]
  rw [trimMatches, hdrop, trimMatches, List.rdropWhile_idempotent]

lemma no_point {s : List Char} (h : '.' ∉ s) : ∀ c ∈ s, (c == '.') = false := by
  intro c hc
  rw [beq_eq_false_iff_ne]
  rintro rfl
  exact h hc

lemma splitOnP_pair {schema relation : List Char} (hs : '.' ∉ schema) (hr : '.' ∉ relation) :
    (schema ++ '.' :: relation).splitOnP (· == '.') = [schema, relation] := by
  rw [List.splitOnP_append_cons_of_forall_mem (no_point hs) '.' rfl,
    List.splitOnP_eq_singleton (no_point hr)]

/-- The parts of a name between its points, when there are two at most. -/
lemma splitOnP_point (word : List Char) :
    '.' ∉ word ∨ (∃ schema relation, word = schema ++ '.' :: relation ∧ '.' ∉ schema ∧ '.' ∉ relation) ∨
      '.' ∈ word ∧ ∃ a b c cs, word.splitOnP (· == '.') = a :: b :: c :: cs := by
  by_cases hmem : '.' ∈ word
  · obtain ⟨a, b, rfl, ha⟩ := List.eq_append_cons_of_mem hmem
    by_cases hb : '.' ∈ b
    · obtain ⟨c, d, rfl, hc⟩ := List.eq_append_cons_of_mem hb
      obtain ⟨e, es, he⟩ := List.exists_cons_of_ne_nil (List.splitOnP_ne_nil (· == '.') d)
      refine .inr (.inr ⟨hmem, a, c, e, es, ?_⟩)
      rw [List.splitOnP_append_cons_of_forall_mem (no_point ha) '.' rfl,
        List.splitOnP_append_cons_of_forall_mem (no_point hc) '.' rfl, he]
    · exact .inr (.inl ⟨a, b, rfl, ha, hb⟩)
  · exact .inl hmem

/-- The guard takes a word for the relation that it names. -/
lemma relationFromToken_bare {word : List Char} (hletters : ∀ c ∈ word, sqlAlphabet.letter c = true)
    (hne : sqlAlphabet.bare word ≠ []) {r : RelationName} :
    relationFromToken (sqlAlphabet.bare word) = some r ↔ Spells (sqlAlphabet.bare word) r := by
  have hplain : ∀ c ∈ sqlAlphabet.bare word,
      isWhitespace c = false ∧ c ≠ ',' ∧ c ≠ '(' ∧ c ≠ ')' :=
    fun c hc => letter_iff.1 (hletters c (mem_of_mem_bare hc))
  have htrim : trim (sqlAlphabet.bare word) = sqlAlphabet.bare word :=
    trim_of_ends (fun c hc => (hplain c (List.mem_of_mem_head? hc)).1)
      fun c hc => (hplain c (List.mem_of_getLast? hc)).1
  have hsemicolons : trimMatches (· == ';') (sqlAlphabet.bare word) = sqlAlphabet.bare word :=
    trimMatches_trimMatches _ _
  have hopen : '(' ∉ sqlAlphabet.bare word := fun h => (hplain _ h).2.2.1 rfl
  have hcommas : trimMatches (· == ',') (sqlAlphabet.bare word) = sqlAlphabet.bare word :=
    trimMatches_of_forall fun c hc => by simpa using (hplain c hc).2.1
  have hopens : trimMatches (· == '(') (sqlAlphabet.bare word) = sqlAlphabet.bare word :=
    trimMatches_of_forall fun c hc => by simpa using (hplain c hc).2.2.1
  have hcloses : trimMatches (· == ')') (sqlAlphabet.bare word) = sqlAlphabet.bare word :=
    trimMatches_of_forall fun c hc => by simpa using (hplain c hc).2.2.2
  rw [relationFromToken, htrim, hsemicolons, hcommas, hopens, hcloses, htrim, Spells]
  generalize sqlAlphabet.bare word = token at hne hopen ⊢
  by_cases hdollar : token.head? = some '$'
  · simp [hdollar]
  by_cases hword : String.ofList (toAsciiLowercase token) ∈ notRelations
  · rw [if_neg (not_or.2 ⟨hne, hdollar⟩), if_pos (Or.inl hword)]
    simp [hword]
  rw [if_neg (not_or.2 ⟨hne, hdollar⟩), if_neg (not_or.2 ⟨hword, hopen⟩)]
  rcases splitOnP_point token with hno | ⟨schema, relation, rfl, hs, hr⟩ |
    ⟨hmem, a, b, c, cs, hsplit⟩
  · rw [List.splitOnP_eq_singleton (no_point hno), List.map_singleton]
    constructor
    · intro h
      dsimp only at h
      split_ifs at h with hnil
      cases h
      exact ⟨hdollar, hword, hnil, .inl ⟨hno, rfl⟩⟩
    · rintro ⟨-, -, hnil, ⟨-, rfl⟩ | ⟨schema, relation, rfl, -⟩⟩
      · exact if_neg hnil
      · simp at hno
  · rw [splitOnP_pair hs hr, List.map_cons, List.map_singleton]
    constructor
    · intro h
      dsimp only at h
      split_ifs at h with hnil
      cases h
      rw [not_or] at hnil
      exact ⟨hdollar, hword, hnil.2, .inr ⟨schema, relation, rfl, hs, hr, rfl, hnil.1⟩⟩
    · rintro ⟨-, -, hnil, ⟨hno, -⟩ | ⟨schema', relation', heq, hs', hr', rfl, hnil'⟩⟩
      · simp at hno
      · have hparts := splitOnP_pair hs hr
        rw [heq, splitOnP_pair hs' hr'] at hparts
        cases hparts
        exact if_neg (not_or.2 ⟨hnil', hnil⟩)
  · rw [hsplit, List.map_cons, List.map_cons, List.map_cons]
    refine iff_of_false (by rintro ⟨⟩) ?_
    rintro ⟨-, -, -, ⟨hno, -⟩ | ⟨schema, relation, rfl, hs, hr, -⟩⟩
    · exact hno hmem
    · rw [splitOnP_pair hs hr] at hsplit
      cases hsplit

/-! ### What the guard finds -/

lemma readRelationsOf_cons (token : List Char) (tokens : List (List Char)) :
    readRelationsOf (token :: tokens) =
      (if toAsciiLowercase token = "from".toList ∨ toAsciiLowercase token = "join".toList then
        (tokens.head?.bind relationFromToken).toList else []) ++ readRelationsOf tokens := by
  cases tokens with
  | nil => simp [readRelationsOf]
  | cons next tokens =>
    rw [readRelationsOf]
    split_ifs <;> simp_all

lemma mem_readRelationsOf {tokens : List (List Char)} {r : RelationName} :
    r ∈ readRelationsOf tokens ↔ ∃ pre key word post, tokens = pre ++ key :: word :: post ∧
      (∃ keyword ∈ ["from", "join"], toAsciiLowercase key = String.toList keyword) ∧
      relationFromToken word = some r := by
  induction tokens with
  | nil => simp [readRelationsOf]
  | cons token tokens ih =>
    rw [readRelationsOf_cons, List.mem_append, ih]
    constructor
    · rintro (h | ⟨pre, key, word, post, rfl, hkey, hr⟩)
      · split_ifs at h with hkey
        · obtain ⟨word, hword, hr⟩ := Option.bind_eq_some_iff.1 (Option.mem_toList.1 h)
          obtain ⟨post, rfl⟩ := List.head?_eq_some_iff.1 hword
          exact ⟨[], token, word, post, rfl, by simpa using hkey, hr⟩
        · cases h
      · exact ⟨token :: pre, key, word, post, rfl, hkey, hr⟩
    · rintro ⟨pre, key, word, post, heq, hkey, hr⟩
      rcases pre with _ | ⟨first, pre⟩
      · obtain ⟨rfl, rfl⟩ := List.cons.inj heq
        refine .inl ?_
        rw [if_pos (by simpa using hkey)]
        simp [hr]
      · obtain ⟨rfl, rfl⟩ := List.cons.inj heq
        exact .inr ⟨pre, key, word, post, rfl, hkey, hr⟩

/-- A word in small letters, and no single bracket. -/
def PlainKeyword (keyword : String) : Prop :=
  toAsciiLowercase keyword.toList = keyword.toList ∧ 2 ≤ keyword.toList.length

lemma ne_of_keyword {keyword : String} (h : PlainKeyword keyword) {key : List Char}
    (hkey : toAsciiLowercase key = keyword.toList) : key ≠ [] ∧ ∀ c, key ≠ [c] := by
  have hlen : key.length = keyword.toList.length := by
    rw [← hkey, toAsciiLowercase, List.length_map]
  have h2 := h.2
  constructor
  · rintro rfl
    rw [List.length_nil] at hlen
    omega
  · rintro c rfl
    rw [List.length_singleton] at hlen
    omega

lemma ne_of_relation {word : List Char} {r : RelationName} (h : relationFromToken word = some r) :
    word ≠ [] ∧ ∀ c, sqlAlphabet.mark c = true → word ≠ [c] := by
  constructor
  · rintro rfl
    cases h
  · rintro c hc rfl
    have hbracket : c = '(' ∨ c = ')' := by simpa [sqlAlphabet] using hc
    rcases hbracket with rfl | rfl <;> cases h

/-- The token after a keyword is the word after it in the text. -/
lemma tokens_named {text : List Char} {keyword : String} (h : PlainKeyword keyword)
    {r : RelationName} (P : List (List Char) → Prop) :
    (∃ pre key word post, sqlTokens text = pre ++ key :: word :: post ∧
      toAsciiLowercase key = keyword.toList ∧ relationFromToken word = some r ∧ P pre) ↔
    ∃ before key between word after, text = before ++ key ++ between ++ word ++ after ∧
      sqlAlphabet.Next before key between word after ∧ IsKeyword keyword key ∧
      Spells (sqlAlphabet.bare word) r ∧ P (sqlTokens before) := by
  simp only [sqlTokens_eq]
  constructor
  · rintro ⟨pre, key, word, post, htokens, hkey, hr, hP⟩
    obtain ⟨hkne, hkmark⟩ := ne_of_keyword h hkey
    obtain ⟨hwne, hwmark⟩ := ne_of_relation hr
    obtain ⟨before, key, between, word, after, rfl, hnext, rfl, rfl, hP⟩ :=
      (next_iff hkne hwne (fun c _ => hkmark c) hwmark P).1 ⟨pre, post, htokens, hP⟩
    exact ⟨before, key, between, word, after, rfl, hnext, hkey,
      (relationFromToken_bare hnext.second.letters hwne).1 hr, hP⟩
  · rintro ⟨before, key, between, word, after, rfl, hnext, hkey, hspells, hP⟩
    obtain ⟨hkne, hkmark⟩ := ne_of_keyword h hkey
    have hwne : sqlAlphabet.bare word ≠ [] := by
      intro hnil
      rw [hnil] at hspells
      obtain ⟨-, -, hr, ⟨-, rfl⟩ | ⟨schema, relation, heq, -⟩⟩ := hspells
      · exact hr rfl
      · simp at heq
    have hr := (relationFromToken_bare hnext.second.letters hwne).2 hspells
    obtain ⟨pre, post, htokens, hP⟩ := (next_iff hkne hwne (fun c _ => hkmark c)
      (ne_of_relation hr).2 P).2 ⟨before, key, between, word, after, rfl, hnext, rfl, rfl, hP⟩
    exact ⟨pre, _, _, post, htokens, hkey, hr, hP⟩

/-- **The relations read are those named after `FROM` and `JOIN`.** -/
theorem mem_extractReadRelations {text : List Char} {r : RelationName} :
    r ∈ extractReadRelations text ↔ NamedAfter ["from", "join"] text r := by
  rw [extractReadRelations, mem_readRelationsOf]
  constructor
  · rintro ⟨pre, key, word, post, htokens, ⟨keyword, hmem, hkey⟩, hr⟩
    have hplain : PlainKeyword keyword := by
      rcases List.mem_pair.1 hmem with rfl | rfl <;> exact ⟨by decide, by decide⟩
    obtain ⟨before, key, between, word, after, htext, hnext, hkey, hspells, -⟩ :=
      (tokens_named hplain fun _ => True).1 ⟨pre, key, word, post, htokens, hkey, hr, trivial⟩
    exact ⟨before, key, between, word, after, htext, hnext, ⟨keyword, hmem, hkey⟩, hspells⟩
  · rintro ⟨before, key, between, word, after, htext, hnext, ⟨keyword, hmem, hkey⟩, hspells⟩
    have hplain : PlainKeyword keyword := by
      rcases List.mem_pair.1 hmem with rfl | rfl <;> exact ⟨by decide, by decide⟩
    obtain ⟨pre, key, word, post, htokens, hkey, hr, -⟩ := (tokens_named hplain fun _ => True).2
      ⟨before, key, between, word, after, htext, hnext, hkey, hspells, trivial⟩
    exact ⟨pre, key, word, post, htokens, ⟨keyword, hmem, hkey⟩, hr⟩

lemma not_occurs_iff {keyword : String} (h : PlainKeyword keyword) {text : List Char} :
    ¬ Occurs keyword text ↔ ∀ t ∈ sqlTokens text, toAsciiLowercase t ≠ keyword.toList := by
  rw [sqlTokens_eq]
  constructor
  · intro hno t ht hkey
    obtain ⟨hne, hmark⟩ := ne_of_keyword h hkey
    obtain ⟨before, word, after, htext, hstands, rfl⟩ :=
      (mem_tokens_iff hne fun c _ => hmark c).1 ht
    exact hno ⟨before, word, after, htext, hstands, hkey⟩
  · rintro hall ⟨before, word, after, htext, hstands, hkey⟩
    obtain ⟨hne, hmark⟩ := ne_of_keyword h hkey
    exact hall _ ((mem_tokens_iff hne fun c _ => hmark c).2 ⟨before, word, after, htext, hstands,
      rfl⟩) hkey

/-- The token after the first keyword. -/
lemma extractRelationAfter_eq_some {text : List Char} {keyword : String} (h : PlainKeyword keyword)
    {r : RelationName} :
    extractRelationAfter text keyword = some r ↔
      ∃ pre key word post, sqlTokens text = pre ++ key :: word :: post ∧
        toAsciiLowercase key = keyword.toList ∧ relationFromToken word = some r ∧
        ∀ t ∈ pre, toAsciiLowercase t ≠ keyword.toList := by
  have hword : ∀ t, (!eqIgnoreAsciiCase t keyword.toList) = true ↔
      toAsciiLowercase t ≠ keyword.toList := by
    intro t
    rw [eqIgnoreAsciiCase, h.1]
    simp
  have hsplit := List.takeWhile_append_dropWhile (p := fun t => !eqIgnoreAsciiCase t keyword.toList)
    (l := sqlTokens text)
  rw [extractRelationAfter]
  constructor
  · intro hr
    split at hr
    · rename_i key word post hdrop
      have hstop := List.head?_dropWhile_not (fun t => !eqIgnoreAsciiCase t keyword.toList)
        (sqlTokens text)
      rw [hdrop] at hsplit hstop
      refine ⟨_, key, word, post, hsplit.symm, ?_, hr, fun t ht => ?_⟩
      · by_contra hne
        have hkey := (hword key).2 hne
        simp [hkey] at hstop
      · exact (hword t).1 (List.mem_takeWhile_imp (p := fun t => !eqIgnoreAsciiCase t keyword.toList) ht)
    · cases hr
  · rintro ⟨pre, key, word, post, htokens, hkey, hr, hpre⟩
    have hdrop : (sqlTokens text).dropWhile (fun t => !eqIgnoreAsciiCase t keyword.toList) =
        key :: word :: post := by
      rw [htokens, List.dropWhile_append_of_pos fun t ht => (hword t).2 (hpre t ht),
        List.dropWhile_cons_of_neg]
      exact fun hne => (hword key).1 hne hkey
    rw [hdrop]
    exact hr

/-- **The target is the relation named after the first keyword.** -/
theorem extractRelationAfter_iff {text : List Char} {keyword : String} (h : PlainKeyword keyword)
    {r : RelationName} :
    extractRelationAfter text keyword = some r ↔ NamedAfterFirst keyword text r := by
  rw [extractRelationAfter_eq_some h,
    tokens_named h fun pre => ∀ t ∈ pre, toAsciiLowercase t ≠ keyword.toList]
  simp only [← not_occurs_iff h, NamedAfterFirst]
  refine exists_congr fun before => exists_congr fun key => exists_congr fun between =>
    exists_congr fun word => exists_congr fun after => ?_
  tauto

end Rsduck.Catalog
