import Mathlib.Data.List.TakeWhile
import Rsduck.Lib.Lexing

/-!
The lexical rules the parameter scanner reads SQL by.

A single-quoted string doubles its quotes, so does a double-quoted name; a line comment runs
to the end of its line, a block comment to its first `*/`; a placeholder is a dollar sign and
digits. Everything else is words and single symbols.
-/

namespace Rsduck.Sql

open Lib

inductive TokenKind
  | str | ident | line | block | param | word | sym
  deriving DecidableEq

/-- A token: its text, and whether the text reaches the token's own end. -/
structure Token where
  kind : TokenKind
  text : List Char
  closed : Bool := true
  deriving DecidableEq

/-- Letters, digits, the underscore and everything outside ASCII. -/
def isWordChar (c : Char) : Bool := c.isAlphanum || c == '_' || 128 ≤ c.toNat

/-- What is read, whether its end was found, and the rest of the text. -/
abbrev Cut := List Char × Bool × List Char

def Cut.cons (c : Char) (x : Cut) : Cut := (c :: x.1, x.2)

/-- Through the closing quote, after an opening quote `q`. -/
def readQuoted (q : Char) : List Char → Cut
  | [] => ([], false, [])
  | c :: r =>
    if c = q then
      match r with
      | [] => ([c], true, [])
      | d :: r' => if d = q then ((readQuoted q r').cons d).cons c else ([c], true, r)
    else (readQuoted q r).cons c

/-- Through the end of the line. -/
def readLine : List Char → Cut
  | [] => ([], false, [])
  | c :: r => if c = '\n' then ([c], true, r) else (readLine r).cons c

/-- Through the first `*/`. -/
def readBlock : List Char → Cut
  | [] => ([], false, [])
  | c :: r =>
    match r with
    | [] => ([c], false, [])
    | d :: r' => if c = '*' ∧ d = '/' then ([c, d], true, r') else (readBlock r).cons c

def cutToken (kind : TokenKind) (opening : List Char) (x : Cut) : Token × List Char :=
  (⟨kind, opening ++ x.1, x.2.1⟩, x.2.2)

/-- The first token of the text `c :: r`. -/
def next (c : Char) (r : List Char) : Token × List Char :=
  if c = '\'' then cutToken .str [c] (readQuoted c r)
  else if c = '"' then cutToken .ident [c] (readQuoted c r)
  else if c = '-' ∧ r.head? = some '-' then cutToken .line [c, '-'] (readLine r.tail)
  else if c = '/' ∧ r.head? = some '*' then cutToken .block [c, '*'] (readBlock r.tail)
  else if c = '$' ∧ r.head?.any Char.isDigit then
    (⟨.param, c :: r.takeWhile Char.isDigit, true⟩, r.dropWhile Char.isDigit)
  else if isWordChar c then
    (⟨.word, c :: r.takeWhile isWordChar, true⟩, r.dropWhile isWordChar)
  else (⟨.sym, [c], true⟩, r)

/-- Which characters may stand directly after a token. -/
def follow (t : Token) (d : Char) : Bool :=
  match t.kind with
  | .str => t.closed && d != '\''
  | .ident => t.closed && d != '"'
  | .line | .block => t.closed
  | .param => !d.isDigit
  | .word => !isWordChar d
  | .sym => !(t.text == ['-'] && d == '-') && !(t.text == ['/'] && d == '*') &&
      !(t.text == ['$'] && d.isDigit)

/-! ### Reading up to an end -/

lemma readQuoted_text (q : Char) (s : List Char) :
    (readQuoted q s).1 ++ (readQuoted q s).2.2 = s := by
  fun_induction readQuoted q s <;> simp_all [Cut.cons]

lemma readLine_text (s : List Char) : (readLine s).1 ++ (readLine s).2.2 = s := by
  fun_induction readLine s <;> simp_all [Cut.cons]

lemma readBlock_text (s : List Char) : (readBlock s).1 ++ (readBlock s).2.2 = s := by
  fun_induction readBlock s <;> simp_all [Cut.cons]

lemma readQuoted_open {q : Char} {s : List Char} (h : (readQuoted q s).2.1 = false) :
    (readQuoted q s).2.2 = [] := by
  fun_induction readQuoted q s <;> simp_all [Cut.cons]

lemma readLine_open {s : List Char} (h : (readLine s).2.1 = false) : (readLine s).2.2 = [] := by
  fun_induction readLine s <;> simp_all [Cut.cons]

lemma readBlock_open {s : List Char} (h : (readBlock s).2.1 = false) :
    (readBlock s).2.2 = [] := by
  fun_induction readBlock s <;> simp_all [Cut.cons]

lemma readQuoted_other {q c : Char} (h : c ≠ q) (r : List Char) :
    readQuoted q (c :: r) = (readQuoted q r).cons c := by
  cases r <;> simp [readQuoted, h]

lemma readQuoted_doubled (q : Char) (r : List Char) :
    readQuoted q (q :: q :: r) = ((readQuoted q r).cons q).cons q := by
  simp [readQuoted]

lemma readQuoted_end (q : Char) {r : List Char} (h : r.head? ≠ some q) :
    readQuoted q (q :: r) = ([q], true, r) := by
  cases r <;> simp_all [readQuoted]

lemma readBlock_end (r : List Char) : readBlock ('*' :: '/' :: r) = (['*', '/'], true, r) := by
  simp [readBlock]

lemma readBlock_other {c : Char} {r : List Char} (h : c ≠ '*' ∨ r.head? ≠ some '/') :
    readBlock (c :: r) = (readBlock r).cons c := by
  cases r with
  | nil => rfl
  | cons d r =>
    have : ¬ (c = '*' ∧ d = '/') := by simpa [imp_iff_not_or] using h
    simp [readBlock, this]

/-- A quoted text that found its end finds it again in front of anything but a quote. -/
lemma readQuoted_append {q : Char} {s : List Char} (h : (readQuoted q s).2.1 = true)
    {rest : List Char} (hr : rest.head? ≠ some q) :
    readQuoted q ((readQuoted q s).1 ++ rest) = ((readQuoted q s).1, true, rest) := by
  fun_induction readQuoted q s with
  | case1 => simp at h
  | case2 => exact readQuoted_end q hr
  | case3 r' ih =>
    simp only [Cut.cons] at h ⊢
    simp [readQuoted_doubled, ih h, Cut.cons]
  | case4 => exact readQuoted_end q hr
  | case5 c r hc ih =>
    simp only [Cut.cons] at h ⊢
    simp [readQuoted_other hc, ih h, Cut.cons]

/-- In front of a quote it goes on. -/
lemma readQuoted_append_quote {q : Char} {s : List Char} (h : (readQuoted q s).2.1 = true)
    (rest : List Char) :
    (readQuoted q ((readQuoted q s).1 ++ q :: rest)).1 ≠ (readQuoted q s).1 := by
  fun_induction readQuoted q s with
  | case1 => simp at h
  | case2 => simp [readQuoted_doubled, Cut.cons]
  | case3 r' ih =>
    simp only [Cut.cons] at h ⊢
    simpa [readQuoted_doubled, Cut.cons] using ih h
  | case4 => simp [readQuoted_doubled, Cut.cons]
  | case5 c r hc ih =>
    simp only [Cut.cons] at h ⊢
    simpa [readQuoted_other hc, Cut.cons] using ih h

lemma readLine_append {s : List Char} (h : (readLine s).2.1 = true) (rest : List Char) :
    readLine ((readLine s).1 ++ rest) = ((readLine s).1, true, rest) := by
  fun_induction readLine s <;> simp_all [Cut.cons, readLine]

lemma head?_readBlock (s : List Char) : (readBlock s).1.head? = s.head? := by
  fun_induction readBlock s <;> simp [Cut.cons]

lemma readBlock_append {s : List Char} (h : (readBlock s).2.1 = true) (rest : List Char) :
    readBlock ((readBlock s).1 ++ rest) = ((readBlock s).1, true, rest) := by
  fun_induction readBlock s with
  | case1 => simp at h
  | case2 => simp at h
  | case3 c d r' hc =>
    obtain ⟨rfl, rfl⟩ := hc
    exact readBlock_end rest
  | case4 c d r' hc ih =>
    simp only [Cut.cons] at h ⊢
    have hd : ((readBlock (d :: r')).1 ++ rest).head? = some d := by
      rw [List.head?_append, head?_readBlock]
      rfl
    rw [List.cons_append, readBlock_other (by rw [hd]; simpa [imp_iff_not_or] using hc), ih h]
    rfl

/-! ### The lexer -/

lemma takeWhile_append_iff {p : Char → Bool} {w : List Char} (hw : ∀ c ∈ w, p c = true)
    (rest : List Char) :
    (w ++ rest).takeWhile p = w ∧ (w ++ rest).dropWhile p = rest ↔
      ∀ d ∈ rest.head?, p d = false := by
  rw [List.takeWhile_append_of_pos hw, List.dropWhile_append_of_pos hw]
  cases rest with
  | nil => simp
  | cons d r => by_cases h : p d <;> simp [h]

/-- When a cut gives the same token again in front of `rest`. -/
lemma reads_cut {read : List Char → Cut} {good : Char → Bool} {s rest : List Char}
    (hopen : ∀ s, (read s).2.1 = false → (read s).2.2 = [])
    (htext : ∀ s, (read s).1 ++ (read s).2.2 = s)
    (hclosed : (read s).2.1 = true → (read ((read s).1 ++ rest) = ((read s).1, true, rest) ↔
      ∀ d ∈ rest.head?, good d = true)) :
    read ((read s).1 ++ rest) = ((read s).1, (read s).2.1, rest) ↔
      ∀ d ∈ rest.head?, ((read s).2.1 && good d) = true := by
  cases hc : (read s).2.1
  · have hs := htext s
    rw [hopen s hc, List.append_nil] at hs
    rw [hs]
    constructor
    · intro h
      -- an open cut reads to the end of the text
      have hrest : rest = [] := by
        have := hopen (s ++ rest) (by rw [h])
        rwa [h] at this
      simp [hrest]
    · intro h
      cases rest with
      | nil => rw [List.append_nil]; exact Prod.ext hs (Prod.ext hc (hopen s hc))
      | cons d r => simp at h
  · simp [hclosed hc]

lemma reads_quoted (q : Char) (s rest : List Char) :
    readQuoted q ((readQuoted q s).1 ++ rest) = ((readQuoted q s).1, (readQuoted q s).2.1, rest) ↔
      ∀ d ∈ rest.head?, ((readQuoted q s).2.1 && d != q) = true := by
  refine reads_cut (fun _ => readQuoted_open) (readQuoted_text q) fun h => ?_
  constructor
  · intro h' d hd
    by_contra hq
    obtain rfl : d = q := by simpa using hq
    obtain ⟨r, rfl⟩ : ∃ r, rest = d :: r := by cases rest <;> simp_all
    exact readQuoted_append_quote h r (by rw [h'])
  · intro h'
    exact readQuoted_append h fun hq => by simpa using h' q hq

lemma reads_line (s rest : List Char) :
    readLine ((readLine s).1 ++ rest) = ((readLine s).1, (readLine s).2.1, rest) ↔
      ∀ d ∈ rest.head?, ((readLine s).2.1 && (fun _ => true) d) = true :=
  reads_cut (fun _ => readLine_open) readLine_text fun h => by simp [readLine_append h]

lemma reads_block (s rest : List Char) :
    readBlock ((readBlock s).1 ++ rest) = ((readBlock s).1, (readBlock s).2.1, rest) ↔
      ∀ d ∈ rest.head?, ((readBlock s).2.1 && (fun _ => true) d) = true :=
  reads_cut (fun _ => readBlock_open) readBlock_text fun h => by simp [readBlock_append h]

lemma text_next (c : Char) (r : List Char) : (next c r).1.text ++ (next c r).2 = c :: r := by
  have htail : ∀ {d : Char}, r.head? = some d → d :: r.tail = r := by
    intro d h
    cases r <;> simp_all
  unfold next
  split_ifs with h1 h2 h3 h4 h5 h6
  · simp [cutToken, readQuoted_text]
  · simp [cutToken, readQuoted_text]
  · simp [cutToken, readLine_text, htail h3.2]
  · simp [cutToken, readBlock_text, htail h4.2]
  · simp
  · simp
  · simp

lemma head?_takeWhile_append {p : Char → Bool} {r rest : List Char} (h : r.head?.any p = true) :
    (r.takeWhile p ++ rest).head? = r.head? := by
  cases r <;> simp_all

/-- A word character starts a word, whatever follows. -/
lemma next_word {c : Char} (h : isWordChar c = true) (r : List Char) :
    next c r = (⟨.word, c :: r.takeWhile isWordChar, true⟩, r.dropWhile isWordChar) := by
  have hne : ∀ {d : Char}, isWordChar d = false → c ≠ d := by
    rintro d hd rfl
    simp [hd] at h
  unfold next
  rw [if_neg (hne (by decide)), if_neg (hne (by decide)),
    if_neg fun hc => hne (by decide) hc.1, if_neg fun hc => hne (by decide) hc.1,
    if_neg fun hc => hne (by decide) hc.1, if_pos h]

/-- A single symbol is told from what follows it by one character. -/
lemma next_sym_iff {c : Char} (h1 : c ≠ '\'') (h2 : c ≠ '"') (hw : isWordChar c = false)
    (rest : List Char) :
    next c rest = (⟨.sym, [c], true⟩, rest) ↔
      ∀ d ∈ rest.head?, follow ⟨.sym, [c], true⟩ d = true := by
  cases rest with
  | nil => simp [next, h1, h2, hw]
  | cons d r =>
    by_cases h3 : c = '-' ∧ d = '-'
    · simp [next, h3, cutToken, follow]
    by_cases h4 : c = '/' ∧ d = '*'
    · simp [next, h4, cutToken, follow]
    by_cases h5 : c = '$' ∧ d.isDigit = true
    · simp [next, h5, follow]
    · have hn : next c (d :: r) = (⟨.sym, [c], true⟩, d :: r) := by
        simp [next, h1, h2, h3, h4, h5, hw]
      rw [hn]
      simp only [not_and, Bool.not_eq_true] at h3 h4 h5
      simpa [follow, ← imp_iff_not_or] using ⟨⟨h3, h4⟩, h5⟩

/-- A token is told from what follows it by one character. -/
lemma next_append_iff (c : Char) (r rest : List Char) :
    next c ((next c r).1.text.tail ++ rest) = ((next c r).1, rest) ↔
      ∀ d ∈ rest.head?, follow (next c r).1 d = true := by
  by_cases h1 : c = '\''
  · subst h1
    simpa [next, cutToken, follow, Prod.ext_iff, and_assoc] using
      reads_quoted '\'' r rest
  by_cases h2 : c = '"'
  · subst h2
    simpa [next, cutToken, follow, Prod.ext_iff, and_assoc] using
      reads_quoted '"' r rest
  by_cases h3 : c = '-' ∧ r.head? = some '-'
  · simpa [next, h3, cutToken, follow, Prod.ext_iff, and_assoc] using
      reads_line r.tail rest
  by_cases h4 : c = '/' ∧ r.head? = some '*'
  · simpa [next, h4, cutToken, follow, Prod.ext_iff, and_assoc] using
      reads_block r.tail rest
  by_cases h5 : c = '$' ∧ r.head?.any Char.isDigit
  · have ht := takeWhile_append_iff (p := Char.isDigit) (w := r.takeWhile Char.isDigit)
      (fun c hc => List.mem_takeWhile_imp (l := r) hc) rest
    simpa [next, h5, head?_takeWhile_append h5.2, follow, Prod.ext_iff] using ht
  by_cases h6 : isWordChar c = true
  · have ht := takeWhile_append_iff (p := isWordChar) (w := r.takeWhile isWordChar)
      (fun c hc => List.mem_takeWhile_imp (l := r) hc) rest
    simpa [next_word h6, follow, Prod.ext_iff] using ht
  · have hs : next c r = (⟨.sym, [c], true⟩, r) := by
      unfold next
      rw [if_neg h1, if_neg h2, if_neg h3, if_neg h4, if_neg h5, if_neg h6]
    rw [hs]
    exact next_sym_iff h1 h2 (by simpa using h6) rest

lemma head?_text_next (c : Char) (r : List Char) : (next c r).1.text.head? = some c := by
  unfold next
  split_ifs <;> simp [cutToken]

lemma text_next_ne_nil (c : Char) (r : List Char) : (next c r).1.text ≠ [] := by
  intro h
  simpa [h] using head?_text_next c r

def scannerLexer : Lexer Char Token where
  next := next
  text := Token.text
  text_next := text_next
  text_ne_nil := text_next_ne_nil

lemma reads_iff (c : Char) (r rest : List Char) : scannerLexer.Reads (next c r).1 rest ↔
    ∀ d ∈ rest.head?, follow (next c r).1 d = true := by
  obtain ⟨body, hb⟩ : ∃ body, (next c r).1.text = c :: body := by
    have hhead := head?_text_next c r
    cases h : (next c r).1.text <;> simp_all
  rw [← next_append_iff, hb]
  constructor
  · rintro ⟨c', r', hs, hn⟩
    change (next c r).1.text ++ rest = _ at hs
    rw [hb, List.cons_append, List.cons.injEq] at hs
    obtain ⟨rfl, rfl⟩ := hs
    exact hn
  · intro h
    exact ⟨c, body ++ rest, congrArg (· ++ rest) hb, h⟩

/-- The parameter scanner's reading of SQL. -/
def scanner : LocalLexer Char Token where
  toLexer := scannerLexer
  follow := follow
  reads_iff := reads_iff

/-- The tokens of an SQL text. -/
def lex (s : List Char) : List Token := scanner.lex s

end Rsduck.Sql
