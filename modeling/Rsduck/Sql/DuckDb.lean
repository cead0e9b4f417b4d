import Rsduck.Sql.Lexical

/-!
The lexical rules of DuckDB.

A literal is single-quoted with doubled quotes, `E`-quoted with backslashes, or stands between two
`$tag$`; a name may be double-quoted; a line comment ends with its line, block comments nest. A
number is a run of digits and the letters numbers have; operators are read symbol by symbol.
-/

namespace Rsduck.Sql.DuckDb

open Lib

inductive Kind
  | str | escaped | dollar | ident | line | block | param | word | num | sym
  deriving DecidableEq

/-- A token: its text, and whether the text reaches the token's own end. -/
structure Token where
  kind : Kind
  text : List Char
  closed : Bool := true
  deriving DecidableEq

def isNameChar (c : Char) : Bool := isWordChar c || c == '$'

/-- Digits, and the letters of hexadecimal, octal, binary and exponent forms. -/
def isNumChar (c : Char) : Bool :=
  c.isDigit || ['a', 'b', 'c', 'd', 'e', 'f', 'o', 'x', '_'].contains c.toLower

/-- Through the end of the line. -/
def readLine : List Char → Cut
  | [] => ([], false, [])
  | c :: r => if c = '\n' ∨ c = '\r' then ([c], true, r) else (readLine r).cons c

/-- Through the `*/` that closes the comment, `depth` comments being open inside it. -/
def readNested : ℕ → List Char → Cut
  | _, [] => ([], false, [])
  | _, [c] => ([c], false, [])
  | depth, c :: d :: r =>
    if c = '*' ∧ d = '/' then
      if depth = 0 then ([c, d], true, r) else ((readNested (depth - 1) r).cons d).cons c
    else if c = '/' ∧ d = '*' then ((readNested (depth + 1) r).cons d).cons c
    else (readNested depth (d :: r)).cons c

/-- Through the closing quote of an `E`-quoted literal. -/
def readEscaped : List Char → Cut
  | [] => ([], false, [])
  | c :: r =>
    if c = '\\' then
      match r with
      | [] => ([c], false, [])
      | d :: r' => ((readEscaped r').cons d).cons c
    else if c = '\'' then
      match r with
      | [] => ([c], true, [])
      | d :: r' => if d = '\'' then ((readEscaped r').cons d).cons c else ([c], true, r)
    else (readEscaped r).cons c

/-- Through the first occurrence of `closing`. -/
def readUntil (closing : List Char) : List Char → Cut
  | [] => ([], false, [])
  | c :: r =>
    if closing.isPrefixOf (c :: r) then (closing, true, (c :: r).drop closing.length)
    else (readUntil closing r).cons c

def cutToken (kind : Kind) (opening : List Char) (x : Cut) : Token × List Char :=
  (⟨kind, opening ++ x.1, x.2.1⟩, x.2.2)

/-- A dollar sign and a name that open no literal: a parameter, or the sign alone. -/
def bareDollar (tag : List Char) : Token :=
  if tag = [] then ⟨.sym, ['$'], true⟩ else ⟨.param, '$' :: tag, true⟩

/-- What starts with a dollar sign and the name `tag`. -/
def dollarToken (tag rest : List Char) : Token × List Char :=
  if rest.head? = some '$' ∧ tag.head?.any Char.isDigit = false then
    cutToken .dollar ('$' :: tag ++ ['$']) (readUntil ('$' :: tag ++ ['$']) rest.tail)
  else (bareDollar tag, rest)

def nextDollar (r : List Char) : Token × List Char :=
  dollarToken (r.takeWhile isWordChar) (r.dropWhile isWordChar)

/-- The first token of the text `c :: r`. -/
def next (c : Char) (r : List Char) : Token × List Char :=
  if c = '\'' then cutToken .str [c] (readQuoted c r)
  else if (c = 'e' ∨ c = 'E') ∧ r.head? = some '\'' then
    cutToken .escaped [c, '\''] (readEscaped r.tail)
  else if c = '"' then cutToken .ident [c] (readQuoted c r)
  else if c = '-' ∧ r.head? = some '-' then cutToken .line [c, '-'] (readLine r.tail)
  else if c = '/' ∧ r.head? = some '*' then cutToken .block [c, '*'] (readNested 0 r.tail)
  else if c = '$' then nextDollar r
  else if c.isDigit then
    (⟨.num, c :: r.takeWhile isNumChar, true⟩, r.dropWhile isNumChar)
  else if isWordChar c then
    (⟨.word, c :: r.takeWhile isNameChar, true⟩, r.dropWhile isNameChar)
  else (⟨.sym, [c], true⟩, r)

/-- Which characters may stand directly after a token. -/
def follow (t : Token) (d : Char) : Bool :=
  match t.kind with
  | .str | .escaped => t.closed && d != '\''
  | .ident => t.closed && d != '"'
  | .line | .block | .dollar => t.closed
  | .param => !isWordChar d && (d != '$' || t.text.tail.head?.any Char.isDigit)
  | .num => !isNumChar d
  | .word => !isNameChar d && !((t.text == ['e'] || t.text == ['E']) && d == '\'')
  | .sym => !(t.text == ['-'] && d == '-') && !(t.text == ['/'] && d == '*') &&
      !(t.text == ['$'] && (isWordChar d || d == '$'))

/-! ### Reading up to an end -/

lemma readLine_text (s : List Char) : (readLine s).1 ++ (readLine s).2.2 = s := by
  fun_induction readLine s <;> simp_all [Cut.cons]

lemma readNested_text (depth : ℕ) (s : List Char) :
    (readNested depth s).1 ++ (readNested depth s).2.2 = s := by
  fun_induction readNested depth s <;> simp_all [Cut.cons]

lemma readEscaped_text (s : List Char) : (readEscaped s).1 ++ (readEscaped s).2.2 = s := by
  fun_induction readEscaped s <;> simp_all [Cut.cons]

lemma readUntil_text (closing s : List Char) :
    (readUntil closing s).1 ++ (readUntil closing s).2.2 = s := by
  induction s with
  | nil => rfl
  | cons c r ih =>
    rw [readUntil]
    split_ifs with h
    · exact List.prefix_iff_eq_append.1 (List.isPrefixOf_iff_prefix.1 h)
    · show c :: ((readUntil closing r).1 ++ (readUntil closing r).2.2) = c :: r
      rw [ih]

lemma readLine_open {s : List Char} (h : (readLine s).2.1 = false) : (readLine s).2.2 = [] := by
  fun_induction readLine s <;> simp_all [Cut.cons]

lemma readNested_open {depth : ℕ} {s : List Char} (h : (readNested depth s).2.1 = false) :
    (readNested depth s).2.2 = [] := by
  fun_induction readNested depth s <;> simp_all [Cut.cons]

lemma readEscaped_open {s : List Char} (h : (readEscaped s).2.1 = false) :
    (readEscaped s).2.2 = [] := by
  fun_induction readEscaped s <;> simp_all [Cut.cons]

lemma readUntil_open {closing s : List Char} (h : (readUntil closing s).2.1 = false) :
    (readUntil closing s).2.2 = [] := by
  induction s with
  | nil => rfl
  | cons c r ih =>
    rw [readUntil] at h ⊢
    split_ifs at h ⊢
    exact ih h

lemma readLine_append {s : List Char} (h : (readLine s).2.1 = true) (rest : List Char) :
    readLine ((readLine s).1 ++ rest) = ((readLine s).1, true, rest) := by
  fun_induction readLine s <;> simp_all [Cut.cons, readLine]

lemma head?_readNested (depth : ℕ) (s : List Char) : (readNested depth s).1.head? = s.head? := by
  fun_induction readNested depth s <;> simp [Cut.cons]

lemma readNested_end (depth : ℕ) (r : List Char) :
    readNested depth ('*' :: '/' :: r) =
      if depth = 0 then (['*', '/'], true, r) else ((readNested (depth - 1) r).cons '/').cons '*' := by
  simp [readNested]

lemma readNested_begin (depth : ℕ) (r : List Char) :
    readNested depth ('/' :: '*' :: r) = ((readNested (depth + 1) r).cons '*').cons '/' := by
  simp [readNested]

lemma readNested_other {c : Char} {r : List Char} (h1 : ¬ (c = '*' ∧ r.head? = some '/'))
    (h2 : ¬ (c = '/' ∧ r.head? = some '*')) (depth : ℕ) :
    readNested depth (c :: r) = (readNested depth r).cons c := by
  cases r with
  | nil => rfl
  | cons d r =>
    have h1 : ¬ (c = '*' ∧ d = '/') := by simpa using h1
    have h2 : ¬ (c = '/' ∧ d = '*') := by simpa using h2
    rw [readNested, if_neg h1, if_neg h2]

lemma readNested_append {depth : ℕ} {s : List Char} (h : (readNested depth s).2.1 = true)
    (rest : List Char) :
    readNested depth ((readNested depth s).1 ++ rest) = ((readNested depth s).1, true, rest) := by
  fun_induction readNested depth s with
  | case1 => cases h
  | case2 => cases h
  | case3 c d r hc =>
    obtain ⟨rfl, rfl⟩ := hc
    exact readNested_end 0 rest
  | case4 depth c d r hc hdepth ih =>
    obtain ⟨rfl, rfl⟩ := hc
    show readNested depth ('*' :: '/' :: ((readNested (depth - 1) r).1 ++ rest)) = _
    rw [readNested_end, if_neg hdepth, ih h]
    rfl
  | case5 depth c d r _ hc ih =>
    obtain ⟨rfl, rfl⟩ := hc
    show readNested depth ('/' :: '*' :: ((readNested (depth + 1) r).1 ++ rest)) = _
    rw [readNested_begin, ih h]
    rfl
  | case6 depth c d r h1 h2 ih =>
    have hhead : ((readNested depth (d :: r)).1 ++ rest).head? = some d := by
      rw [List.head?_append, head?_readNested]
      rfl
    show readNested depth (c :: ((readNested depth (d :: r)).1 ++ rest)) = _
    rw [readNested_other (by simpa [hhead] using h1) (by simpa [hhead] using h2), ih h]
    rfl

lemma readEscaped_backslash (d : Char) (r : List Char) :
    readEscaped ('\\' :: d :: r) = ((readEscaped r).cons d).cons '\\' := by
  simp [readEscaped]

lemma readEscaped_doubled (r : List Char) :
    readEscaped ('\'' :: '\'' :: r) = ((readEscaped r).cons '\'').cons '\'' := by
  simp [readEscaped]

lemma readEscaped_end {r : List Char} (h : r.head? ≠ some '\'') :
    readEscaped ('\'' :: r) = (['\''], true, r) := by
  cases r <;> simp_all [readEscaped]

lemma readEscaped_other {c : Char} (h1 : c ≠ '\\') (h2 : c ≠ '\'') (r : List Char) :
    readEscaped (c :: r) = (readEscaped r).cons c := by
  cases r <;> simp [readEscaped, h1, h2]

/-- A literal that found its end finds it again in front of anything but a quote. -/
lemma readEscaped_append {s : List Char} (h : (readEscaped s).2.1 = true) {rest : List Char}
    (hr : rest.head? ≠ some '\'') :
    readEscaped ((readEscaped s).1 ++ rest) = ((readEscaped s).1, true, rest) := by
  fun_induction readEscaped s with
  | case1 => cases h
  | case2 => cases h
  | case3 d r ih =>
    show readEscaped ('\\' :: d :: ((readEscaped r).1 ++ rest)) = _
    rw [readEscaped_backslash, ih h]
    rfl
  | case4 => exact readEscaped_end hr
  | case5 r _ ih =>
    show readEscaped ('\'' :: '\'' :: ((readEscaped r).1 ++ rest)) = _
    rw [readEscaped_doubled, ih h]
    rfl
  | case6 => exact readEscaped_end hr
  | case7 c r h1 h2 ih =>
    show readEscaped (c :: ((readEscaped r).1 ++ rest)) = _
    rw [readEscaped_other h1 h2, ih h]
    rfl

/-- In front of a quote it goes on. -/
lemma readEscaped_append_quote {s : List Char} (h : (readEscaped s).2.1 = true)
    (rest : List Char) :
    (readEscaped ((readEscaped s).1 ++ '\'' :: rest)).1 ≠ (readEscaped s).1 := by
  fun_induction readEscaped s with
  | case1 => cases h
  | case2 => cases h
  | case3 d r ih =>
    have := ih h
    simpa [readEscaped_backslash, Cut.cons] using this
  | case4 => simp [readEscaped_doubled, Cut.cons]
  | case5 r _ ih =>
    have := ih h
    simpa [readEscaped_doubled, Cut.cons] using this
  | case6 => simp [readEscaped_doubled, Cut.cons]
  | case7 c r h1 h2 ih =>
    have := ih h
    simpa [readEscaped_other h1 h2, Cut.cons] using this

lemma length_le_readUntil {closing s : List Char} (h : (readUntil closing s).2.1 = true) :
    closing.length ≤ (readUntil closing s).1.length := by
  induction s with
  | nil => cases h
  | cons c r ih =>
    rw [readUntil] at h ⊢
    split_ifs at h ⊢ with hc
    · exact Nat.le_refl _
    · exact (ih h).trans (Nat.le_succ _)

lemma readUntil_append {closing s : List Char} (hne : closing ≠ [])
    (h : (readUntil closing s).2.1 = true) (rest : List Char) :
    readUntil closing ((readUntil closing s).1 ++ rest) = ((readUntil closing s).1, true, rest) := by
  induction s with
  | nil => cases h
  | cons c r ih =>
    rw [readUntil] at h ⊢
    split_ifs at h ⊢ with hc
    · obtain ⟨k, ks, rfl⟩ := List.exists_cons_of_ne_nil hne
      have hpre : (k :: ks).isPrefixOf (k :: (ks ++ rest)) = true :=
        List.isPrefixOf_iff_prefix.2 (List.prefix_append (k :: ks) rest)
      have hdrop : ((k :: ks) ++ rest).drop (k :: ks).length = rest := List.drop_left
      show readUntil (k :: ks) (k :: (ks ++ rest)) = _
      rw [readUntil, if_pos hpre]
      exact congrArg (fun x => (k :: ks, true, x)) hdrop
    · -- an earlier occurrence would not reach beyond what was read
      have hnot : closing.isPrefixOf (c :: ((readUntil closing r).1 ++ rest)) = false := by
        rw [Bool.eq_false_iff]
        intro hpre
        have hwhole : closing <+: (c :: (readUntil closing r).1) ++ rest :=
          List.isPrefixOf_iff_prefix.1 hpre
        have hread : closing <+: c :: (readUntil closing r).1 :=
          List.prefix_of_prefix_length_le hwhole (List.prefix_append _ _)
            ((length_le_readUntil h).trans (Nat.le_succ _))
        have htext : c :: (readUntil closing r).1 <+: c :: r :=
          ⟨(readUntil closing r).2.2, congrArg (c :: ·) (readUntil_text closing r)⟩
        exact hc (List.isPrefixOf_iff_prefix.2 (hread.trans htext))
      show readUntil closing (c :: ((readUntil closing r).1 ++ rest)) = _
      rw [readUntil, hnot, if_neg Bool.false_ne_true, ih h]
      rfl

/-! ### The lexer -/

lemma reads_escaped (s rest : List Char) :
    readEscaped ((readEscaped s).1 ++ rest) = ((readEscaped s).1, (readEscaped s).2.1, rest) ↔
      ∀ d ∈ rest.head?, ((readEscaped s).2.1 && d != '\'') = true := by
  refine reads_cut (fun _ => readEscaped_open) readEscaped_text fun h => ?_
  constructor
  · intro h' d hd
    by_contra hq
    obtain rfl : d = '\'' := by simpa using hq
    obtain ⟨r, rfl⟩ : ∃ r, rest = '\'' :: r := by cases rest <;> simp_all
    exact readEscaped_append_quote h r (by rw [h'])
  · intro h'
    exact readEscaped_append h fun hq => by simpa using h' '\'' hq

lemma reads_line (s rest : List Char) :
    readLine ((readLine s).1 ++ rest) = ((readLine s).1, (readLine s).2.1, rest) ↔
      ∀ d ∈ rest.head?, ((readLine s).2.1 && (fun _ => true) d) = true :=
  reads_cut (fun _ => readLine_open) readLine_text fun h => by simp [readLine_append h]

lemma reads_nested (s rest : List Char) :
    readNested 0 ((readNested 0 s).1 ++ rest) = ((readNested 0 s).1, (readNested 0 s).2.1, rest) ↔
      ∀ d ∈ rest.head?, ((readNested 0 s).2.1 && (fun _ => true) d) = true :=
  reads_cut (fun _ => readNested_open) (readNested_text 0) fun h => by simp [readNested_append h]

lemma reads_until {closing : List Char} (hne : closing ≠ []) (s rest : List Char) :
    readUntil closing ((readUntil closing s).1 ++ rest) =
        ((readUntil closing s).1, (readUntil closing s).2.1, rest) ↔
      ∀ d ∈ rest.head?, ((readUntil closing s).2.1 && (fun _ => true) d) = true :=
  reads_cut (fun _ => readUntil_open) (readUntil_text closing) fun h => by
    simp [readUntil_append hne h]

lemma text_bareDollar (tag : List Char) : (bareDollar tag).text = '$' :: tag := by
  unfold bareDollar
  split_ifs with h
  · rw [h]
  · rfl

lemma text_dollarToken (tag rest : List Char) :
    (dollarToken tag rest).1.text ++ (dollarToken tag rest).2 = '$' :: (tag ++ rest) := by
  unfold dollarToken
  split_ifs with h
  · have htail : '$' :: rest.tail = rest := by
      cases rest <;> simp_all
    simp [cutToken, readUntil_text, htail]
  · rw [text_bareDollar]
    rfl

lemma text_nextDollar (r : List Char) : (nextDollar r).1.text ++ (nextDollar r).2 = '$' :: r := by
  rw [nextDollar, text_dollarToken, List.takeWhile_append_dropWhile]

lemma text_next (c : Char) (r : List Char) : (next c r).1.text ++ (next c r).2 = c :: r := by
  have htail : ∀ {d : Char}, r.head? = some d → d :: r.tail = r := by
    intro d h
    cases r <;> simp_all
  unfold next
  split_ifs with h1 h2 h3 h4 h5 h6 h7 h8
  · simp [cutToken, readQuoted_text]
  · simp [cutToken, readEscaped_text, htail h2.2]
  · simp [cutToken, readQuoted_text]
  · simp [cutToken, readLine_text, htail h4.2]
  · simp [cutToken, readNested_text, htail h5.2]
  · rw [text_nextDollar, h6]
  · simp
  · simp
  · simp

lemma nextDollar_append {tag rest : List Char} (htag : ∀ c ∈ tag, isWordChar c = true)
    (hrest : ∀ d ∈ rest.head?, isWordChar d = false) :
    nextDollar (tag ++ rest) = dollarToken tag rest := by
  obtain ⟨htake, hdrop⟩ := (takeWhile_append_iff htag rest).2 hrest
  rw [nextDollar, htake, hdrop]

lemma kind_bareDollar (tag : List Char) : (bareDollar tag).kind ≠ .dollar := by
  unfold bareDollar
  split_ifs
  · exact Kind.noConfusion
  · exact Kind.noConfusion

/-- A token that is no literal ends where its name ends. -/
lemma nextDollar_eq_bare {r tag rest : List Char} (h : nextDollar r = (bareDollar tag, rest)) :
    r.takeWhile isWordChar = tag ∧ r.dropWhile isWordChar = rest := by
  unfold nextDollar dollarToken at h
  split_ifs at h with hopens
  · have hdollar : Kind.dollar = (bareDollar tag).kind := congrArg (fun x => x.1.kind) h
    exact absurd hdollar.symm (kind_bareDollar tag)
  · obtain ⟨htoken, hrest⟩ := Prod.mk.inj h
    have htext := congrArg Token.text htoken
    rw [text_bareDollar, text_bareDollar] at htext
    exact ⟨(List.cons.inj htext).2, hrest⟩

lemma follow_bareDollar (tag : List Char) (d : Char) :
    follow (bareDollar tag) d = (!isWordChar d && (d != '$' || tag.head?.any Char.isDigit)) := by
  unfold bareDollar
  split_ifs with h
  · subst h
    simp [follow, bne]
  · rfl

lemma nextDollar_bare_iff {tag : List Char} (htag : ∀ c ∈ tag, isWordChar c = true)
    (rest : List Char) : nextDollar (tag ++ rest) = (bareDollar tag, rest) ↔
      ∀ d ∈ rest.head?, follow (bareDollar tag) d = true := by
  simp only [follow_bareDollar]
  constructor
  · intro h d hd
    have hword := (takeWhile_append_iff htag rest).1 (nextDollar_eq_bare h)
    rw [nextDollar_append htag hword, dollarToken] at h
    split_ifs at h with hopens
    · have hdollar : Kind.dollar = (bareDollar tag).kind := congrArg (fun x => x.1.kind) h
      exact absurd hdollar.symm (kind_bareDollar tag)
    · rw [hword d hd]
      by_cases hdollar : d = '$'
      · subst hdollar
        rw [not_and, Bool.not_eq_false] at hopens
        simp [hopens hd]
      · simp [hdollar]
  · intro h
    have hword : ∀ d ∈ rest.head?, isWordChar d = false := fun d hd => by
      have := h d hd
      simp_all
    rw [nextDollar_append htag hword, dollarToken, if_neg]
    rintro ⟨hhead, hdigit⟩
    have := h '$' hhead
    simp [hdigit] at this

lemma nextDollar_dollar_iff {tag after : List Char} (htag : ∀ c ∈ tag, isWordChar c = true)
    (hopens : after.head? = some '$' ∧ tag.head?.any Char.isDigit = false) (rest : List Char) :
    nextDollar ((dollarToken tag after).1.text.tail ++ rest) = ((dollarToken tag after).1, rest) ↔
      ∀ d ∈ rest.head?, follow (dollarToken tag after).1 d = true := by
  have hcut : dollarToken tag after = cutToken .dollar ('$' :: tag ++ ['$'])
      (readUntil ('$' :: tag ++ ['$']) after.tail) := if_pos hopens
  have hne : '$' :: tag ++ ['$'] ≠ [] := List.cons_ne_nil _ _
  have htail : (dollarToken tag after).1.text.tail ++ rest =
      tag ++ '$' :: ((readUntil ('$' :: tag ++ ['$']) after.tail).1 ++ rest) := by
    rw [hcut]
    simp [cutToken]
  have hnot : ∀ d ∈ ('$' :: ((readUntil ('$' :: tag ++ ['$']) after.tail).1 ++ rest)).head?,
      isWordChar d = false := by
    intro d hd
    obtain rfl : '$' = d := by simpa using hd
    decide
  have hagain : dollarToken tag ('$' :: ((readUntil ('$' :: tag ++ ['$']) after.tail).1 ++ rest)) =
      cutToken .dollar ('$' :: tag ++ ['$'])
        (readUntil ('$' :: tag ++ ['$']) ((readUntil ('$' :: tag ++ ['$']) after.tail).1 ++ rest)) :=
    if_pos ⟨rfl, hopens.2⟩
  rw [htail, nextDollar_append htag hnot, hagain, hcut]
  simpa [cutToken, follow, Prod.ext_iff, and_assoc] using reads_until hne after.tail rest

/-- A dollar sign goes on as far as its token when the next character does not belong to it. -/
lemma nextDollar_append_iff (r rest : List Char) :
    nextDollar ((nextDollar r).1.text.tail ++ rest) = ((nextDollar r).1, rest) ↔
      ∀ d ∈ rest.head?, follow (nextDollar r).1 d = true := by
  have htag : ∀ c ∈ r.takeWhile isWordChar, isWordChar c = true := fun c hc =>
    List.mem_takeWhile_imp hc
  have hnext : nextDollar r = dollarToken (r.takeWhile isWordChar) (r.dropWhile isWordChar) := rfl
  rw [hnext]
  generalize r.takeWhile isWordChar = tag at htag ⊢
  generalize r.dropWhile isWordChar = after
  by_cases hopens : after.head? = some '$' ∧ tag.head?.any Char.isDigit = false
  · exact nextDollar_dollar_iff htag hopens rest
  · have htoken : (dollarToken tag after).1 = bareDollar tag := by rw [dollarToken, if_neg hopens]
    rw [htoken, text_bareDollar]
    exact nextDollar_bare_iff htag rest

lemma reads_while {p : Char → Bool} {kind : Kind} {c : Char} (r rest : List Char) :
    ((⟨kind, c :: (r.takeWhile p ++ rest).takeWhile p, true⟩ : Token),
        (r.takeWhile p ++ rest).dropWhile p) = (⟨kind, c :: r.takeWhile p, true⟩, rest) ↔
      ∀ d ∈ rest.head?, p d = false := by
  have ht := takeWhile_append_iff (p := p) (w := r.takeWhile p)
    (fun c hc => List.mem_takeWhile_imp (l := r) hc) rest
  simpa [Prod.ext_iff] using ht

lemma isWordChar_of_isDigit {c : Char} (h : c.isDigit = true) : isWordChar c = true := by
  simp [isWordChar, Char.isAlphanum, h]

/-- A digit starts a number, whatever follows. -/
lemma next_num {c : Char} (h : c.isDigit = true) (r : List Char) :
    next c r = (⟨.num, c :: r.takeWhile isNumChar, true⟩, r.dropWhile isNumChar) := by
  have hne : ∀ {d : Char}, d.isDigit = false → c ≠ d := by
    rintro d hd rfl
    rw [hd] at h
    cases h
  have he : ¬ (c = 'e' ∨ c = 'E') := not_or.2 ⟨hne (by decide), hne (by decide)⟩
  unfold next
  rw [if_neg (hne (by decide)), if_neg fun hc => he hc.1, if_neg (hne (by decide)),
    if_neg fun hc => hne (by decide) hc.1, if_neg fun hc => hne (by decide) hc.1,
    if_neg (hne (by decide)), if_pos h]

/-- A letter starts a word, unless it starts a literal. -/
lemma next_word {c : Char} (hw : isWordChar c = true) (hd : c.isDigit = false) {r : List Char}
    (he : ¬ ((c = 'e' ∨ c = 'E') ∧ r.head? = some '\'')) :
    next c r = (⟨.word, c :: r.takeWhile isNameChar, true⟩, r.dropWhile isNameChar) := by
  have hne : ∀ {d : Char}, isWordChar d = false → c ≠ d := by
    rintro d h rfl
    rw [h] at hw
    cases hw
  unfold next
  rw [if_neg (hne (by decide)), if_neg he, if_neg (hne (by decide)),
    if_neg fun hc => hne (by decide) hc.1, if_neg fun hc => hne (by decide) hc.1,
    if_neg (hne (by decide)), if_neg (by simp [hd]), if_pos hw]

lemma next_word_append_iff {c : Char} (hw : isWordChar c = true) (hd : c.isDigit = false)
    (r rest : List Char) :
    next c (r.takeWhile isNameChar ++ rest) =
        (⟨.word, c :: r.takeWhile isNameChar, true⟩, rest) ↔
      ∀ d ∈ rest.head?, follow ⟨.word, c :: r.takeWhile isNameChar, true⟩ d = true := by
  have hquote : isNameChar '\'' = false := by decide
  by_cases he : (c = 'e' ∨ c = 'E') ∧ (r.takeWhile isNameChar ++ rest).head? = some '\''
  · obtain ⟨hc, hhead⟩ := he
    -- the word is the letter alone, and the quote makes a literal of it
    have hnil : r.takeWhile isNameChar = [] := by
      rcases h : r.takeWhile isNameChar with _ | ⟨a, t⟩
      · rfl
      · rw [h] at hhead
        have ha : isNameChar a = true := List.mem_takeWhile_imp (h ▸ List.mem_cons_self)
        obtain rfl : a = '\'' := by simpa using hhead
        rw [hquote] at ha
        cases ha
    rw [hnil] at hhead ⊢
    have hne : c ≠ '\'' := by
      rintro rfl
      exact absurd hw (by decide)
    have hescaped : next c ([] ++ rest) = cutToken .escaped [c, '\''] (readEscaped rest.tail) := by
      rw [next, if_neg hne, if_pos ⟨hc, hhead⟩]
      rfl
    constructor
    · intro h
      rw [hescaped] at h
      cases congrArg (fun x => x.1.kind) h
    · intro h
      have hfollow := h '\'' hhead
      rcases hc with rfl | rfl
      · exact absurd hfollow (by decide)
      · exact absurd hfollow (by decide)
  · rw [next_word hw hd he, reads_while]
    refine forall_congr' fun d => forall_congr' fun hmem => ?_
    have hletter : ((c :: r.takeWhile isNameChar == ['e'] || c :: r.takeWhile isNameChar == ['E']) &&
        d == '\'') = false := by
      rw [Bool.eq_false_iff]
      intro h
      rw [Bool.and_eq_true, Bool.or_eq_true, beq_iff_eq, beq_iff_eq, beq_iff_eq] at h
      obtain ⟨htext, rfl⟩ := h
      have hc : c = 'e' ∨ c = 'E' := htext.imp (fun h => (List.cons.inj h).1) fun h => (List.cons.inj h).1
      have hnil : r.takeWhile isNameChar = [] :=
        htext.elim (fun h => (List.cons.inj h).2) fun h => (List.cons.inj h).2
      exact he ⟨hc, by rw [hnil]; exact hmem⟩
    show isNameChar d = false ↔ (!isNameChar d && !_) = true
    rw [hletter]
    simp

/-- A single symbol is told from what follows it by one character. -/
lemma next_sym_iff {c : Char} (h1 : c ≠ '\'') (h3 : c ≠ '"') (h6 : c ≠ '$')
    (hw : isWordChar c = false) (rest : List Char) :
    next c rest = (⟨.sym, [c], true⟩, rest) ↔
      ∀ d ∈ rest.head?, follow ⟨.sym, [c], true⟩ d = true := by
  have hd : ¬ c.isDigit = true := fun h => by
    rw [isWordChar_of_isDigit h] at hw
    cases hw
  have he : ¬ (c = 'e' ∨ c = 'E') := by
    rintro (rfl | rfl)
    · exact absurd hw (by decide)
    · exact absurd hw (by decide)
  have hnext : ∀ r, next c r = if c = '-' ∧ r.head? = some '-' then
      cutToken .line [c, '-'] (readLine r.tail)
      else if c = '/' ∧ r.head? = some '*' then cutToken .block [c, '*'] (readNested 0 r.tail)
      else (⟨.sym, [c], true⟩, r) := by
    intro r
    simp [next, h1, he, h3, h6, hd, hw]
  rw [hnext]
  cases rest with
  | nil => simp
  | cons d r =>
    by_cases h4 : c = '-' ∧ d = '-'
    · simp [h4, cutToken, follow]
    by_cases h5 : c = '/' ∧ d = '*'
    · simp [h5, cutToken, follow]
    · have hsym : (if c = '-' ∧ (d :: r).head? = some '-' then
          cutToken .line [c, '-'] (readLine (d :: r).tail)
          else if c = '/' ∧ (d :: r).head? = some '*' then
            cutToken .block [c, '*'] (readNested 0 (d :: r).tail)
          else ((⟨.sym, [c], true⟩ : Token), d :: r)) = (⟨.sym, [c], true⟩, d :: r) := by
        simp [h4, h5]
      rw [hsym]
      simp only [not_and] at h4 h5
      simpa [follow, h6, ← imp_iff_not_or] using ⟨h4, h5⟩

/-- A token is told from what follows it by one character. -/
lemma next_append_iff (c : Char) (r rest : List Char) :
    next c ((next c r).1.text.tail ++ rest) = ((next c r).1, rest) ↔
      ∀ d ∈ rest.head?, follow (next c r).1 d = true := by
  by_cases h1 : c = '\''
  · subst h1
    simpa [next, cutToken, follow, Prod.ext_iff, and_assoc] using reads_quoted '\'' r rest
  by_cases h2 : (c = 'e' ∨ c = 'E') ∧ r.head? = some '\''
  · simpa [next, h1, h2, cutToken, follow, Prod.ext_iff, and_assoc] using
      reads_escaped r.tail rest
  by_cases h3 : c = '"'
  · subst h3
    simpa [next, cutToken, follow, Prod.ext_iff, and_assoc] using reads_quoted '"' r rest
  by_cases h4 : c = '-' ∧ r.head? = some '-'
  · simpa [next, h4, cutToken, follow, Prod.ext_iff, and_assoc] using reads_line r.tail rest
  by_cases h5 : c = '/' ∧ r.head? = some '*'
  · simpa [next, h5, cutToken, follow, Prod.ext_iff, and_assoc] using reads_nested r.tail rest
  by_cases h6 : c = '$'
  · subst h6
    exact nextDollar_append_iff r rest
  by_cases h7 : c.isDigit = true
  · rw [next_num h7 r]
    show next c (r.takeWhile isNumChar ++ rest) = _ ↔ ∀ d ∈ rest.head?, (!isNumChar d) = true
    rw [next_num h7 _, reads_while]
    simp
  by_cases h8 : isWordChar c = true
  · have h7 : c.isDigit = false := by simpa using h7
    rw [next_word h8 h7 h2]
    exact next_word_append_iff h8 h7 r rest
  · have hs : next c r = (⟨.sym, [c], true⟩, r) := by
      unfold next
      rw [if_neg h1, if_neg h2, if_neg h3, if_neg h4, if_neg h5, if_neg h6, if_neg h7, if_neg h8]
    rw [hs]
    exact next_sym_iff h1 h3 h6 (by simpa using h8) rest

lemma head?_text_next (c : Char) (r : List Char) : (next c r).1.text.head? = some c := by
  by_cases hdollar : c = '$'
  · subst hdollar
    show (dollarToken _ _).1.text.head? = some '$'
    unfold dollarToken
    split_ifs
    · rfl
    · rw [text_bareDollar]
      rfl
  · unfold next
    rw [if_neg hdollar]
    split_ifs <;> rfl

lemma text_next_ne_nil (c : Char) (r : List Char) : (next c r).1.text ≠ [] := by
  intro h
  simpa [h] using head?_text_next c r

def tokenLexer : Lexer Char Token where
  next := next
  text := Token.text
  text_next := text_next
  text_ne_nil := text_next_ne_nil

lemma reads_iff (c : Char) (r rest : List Char) : tokenLexer.Reads (next c r).1 rest ↔
    ∀ d ∈ rest.head?, follow (next c r).1 d = true := by
  obtain ⟨body, hb⟩ : ∃ body, (next c r).1.text = c :: body := by
    have hhead := head?_text_next c r
    cases h : (next c r).1.text <;> simp_all
  rw [← next_append_iff, hb]
  constructor
  · rintro ⟨c', r', hs, hn⟩
    change (next c r).1.text ++ rest = _ at hs
    rw [hb, List.cons_append, List.cons.injEq] at hs
    obtain ⟨rfl, rfl⟩ := hs
    exact hn
  · intro h
    exact ⟨c, body ++ rest, congrArg (· ++ rest) hb, h⟩

/-- DuckDB's reading of SQL. -/
def lexer : LocalLexer Char Token where
  toLexer := tokenLexer
  follow := follow
  reads_iff := reads_iff

/-- The tokens of an SQL text. -/
def lex (s : List Char) : List Token := lexer.lex s

/-! ### What tokens look like -/

/-- What a token of the kind is made of, where it is no literal or comment. -/
def Plain (t : Token) : Prop :=
  match t.kind with
  | .num => ∀ c ∈ t.text, isNumChar c = true
  | .param => ∀ c ∈ t.text, isNameChar c = true
  | .sym => ∃ c, t.text = [c] ∧ isWordChar c = false
  | .ident => t.text = '"' :: t.text.tail
  | _ => True

lemma plain_bareDollar {tag : List Char} (htag : ∀ c ∈ tag, isWordChar c = true) :
    Plain (bareDollar tag) := by
  unfold bareDollar
  split_ifs
  · exact ⟨'$', rfl, by decide⟩
  · intro c hc
    rcases List.mem_cons.1 hc with rfl | hc
    · decide
    · simp [isNameChar, htag c hc]

lemma plain_of_valid {t : Token} (h : lexer.Valid t) : Plain t := by
  obtain ⟨c, r, h⟩ := h
  have h : (next c r).1 = t := h
  subst h
  unfold next
  split_ifs with h1 h2 h3 h4 h5 h6 h7 h8
  · trivial
  · trivial
  · rw [h3]
    rfl
  · trivial
  · trivial
  · unfold nextDollar dollarToken
    split_ifs
    · trivial
    · exact plain_bareDollar fun c hc => List.mem_takeWhile_imp hc
  · intro d hd
    rcases List.mem_cons.1 hd with rfl | hd
    · simp [isNumChar, h7]
    · exact List.mem_takeWhile_imp hd
  · trivial
  · exact ⟨c, rfl, by simpa using h8⟩

/-- A token on its own. -/
lemma lex_text {t : Token} (h : lexer.Valid t) : lex t.text = [t] := by
  have hrender : lexer.render [t] = t.text := by
    rw [Lexer.render_cons, Lexer.render_nil, List.append_nil]
    rfl
  have hvalid : ∀ u ∈ [t], lexer.Valid u := by
    intro u hu
    rwa [List.mem_singleton.1 hu]
  rw [← hrender]
  exact (lexer.lex_render_iff_isChain hvalid).2 (List.isChain_singleton t)

end Rsduck.Sql.DuckDb
