import Mathlib
import Rsduck.Db.Params

/-!
What binding does to the tokens of a statement.

The scanner copies every token but the placeholders, and puts a literal in the place of each
of those. The text it returns has the expected tokens exactly when no literal runs into its
neighbours.
-/

namespace Rsduck.Db

open Lib Sql FloatFormat

/-! ### The scanner, token by token -/

/-- One step of the scanner on a whole token. -/
def bindToken (params : Option (List SqlParam)) (t : Token) (maxParam : ℕ) :
    Except String (List Char × ℕ) :=
  if t.kind = .param then
    match parseParamNumber t.text.tail with
    | .error e => .error e
    | .ok n =>
      match paramText params t.text.tail n with
      | .error e => .error e
      | .ok lit => .ok (lit, max maxParam n)
  else .ok (t.text, maxParam)

def bindTokens (params : Option (List SqlParam)) : List Token → ℕ → Except String (List Char × ℕ)
  | [], m => .ok ([], m)
  | t :: ts, m =>
    match bindToken params t m with
    | .error e => .error e
    | .ok (text, m') => emit text (bindTokens params ts m')

lemma emit_emit (s t : List Char) (x : Except String (List Char × ℕ)) :
    emit s (emit t x) = emit (s ++ t) x := by
  cases x <;> simp [emit]

variable (params : Option (List SqlParam))

lemma scan_singleQuote (s : List Char) (m : ℕ) :
    scanFrom params .singleQuote s m =
      emit (readQuoted '\'' s).1 (scanFrom params .normal (readQuoted '\'' s).2.2 m) := by
  fun_induction readQuoted '\'' s with
  | case1 => simp [scanFrom, emit]
  | case2 => simp [scanFrom, emit]
  | case3 r' ih => rw [scanFrom]; simp [ih, emit_emit, Cut.cons]
  | case4 d r' h =>
    conv_lhs => rw [scanFrom]
    simp [h]
  | case5 c r h ih => rw [scanFrom]; simp [h, ih, emit_emit, Cut.cons]

lemma scan_doubleQuote (s : List Char) (m : ℕ) :
    scanFrom params .doubleQuote s m =
      emit (readQuoted '"' s).1 (scanFrom params .normal (readQuoted '"' s).2.2 m) := by
  fun_induction readQuoted '"' s with
  | case1 => simp [scanFrom, emit]
  | case2 => simp [scanFrom, emit]
  | case3 r' ih => rw [scanFrom]; simp [ih, emit_emit, Cut.cons]
  | case4 d r' h =>
    conv_lhs => rw [scanFrom]
    simp [h]
  | case5 c r h ih => rw [scanFrom]; simp [h, ih, emit_emit, Cut.cons]

lemma scan_lineComment (s : List Char) (m : ℕ) :
    scanFrom params .lineComment s m =
      emit (readLine s).1 (scanFrom params .normal (readLine s).2.2 m) := by
  fun_induction readLine s with
  | case1 => simp [scanFrom, emit]
  | case2 r => rw [scanFrom]; simp
  | case3 c r h ih => rw [scanFrom]; simp [h, ih, emit_emit, Cut.cons]

lemma scan_blockComment (s : List Char) (m : ℕ) :
    scanFrom params .blockComment s m =
      emit (readBlock s).1 (scanFrom params .normal (readBlock s).2.2 m) := by
  fun_induction readBlock s with
  | case1 => simp [scanFrom, emit]
  | case2 c => rw [scanFrom]; simp [scanFrom, emit]
  | case3 c d r' h => rw [scanFrom]; simp [h]
  | case4 c d r' h ih => rw [scanFrom]; simp [h, ih, emit_emit, Cut.cons]

lemma scan_wordChar {c : Char} (h : isWordChar c = true) (r : List Char) (m : ℕ) :
    scanFrom params .normal (c :: r) m = emit [c] (scanFrom params .normal r m) := by
  have hne : ∀ {d : Char}, isWordChar d = false → c ≠ d := by
    rintro d hd rfl
    simp [hd] at h
  rw [scanFrom]
  simp only [hne (d := '\'') (by decide), hne (d := '"') (by decide), hne (d := '-') (by decide),
    hne (d := '/') (by decide), hne (d := '$') (by decide), false_and, if_false]

/-- A word is copied. -/
lemma scan_word (s : List Char) (m : ℕ) :
    scanFrom params .normal s m =
      emit (s.takeWhile isWordChar) (scanFrom params .normal (s.dropWhile isWordChar) m) := by
  induction s with
  | nil => simp [scanFrom, emit]
  | cons c r ih =>
    by_cases h : isWordChar c = true
    · rw [scan_wordChar params h, ih, emit_emit]
      simp [h]
    · have : ∀ x, emit [] x = x := by
        intro x
        cases x <;> rfl
      simp [h, this]

/-- **The scanner reads tokens**: its loop is one pass over the tokens of the text. -/
theorem scan_normal (s : List Char) (m : ℕ) :
    scanFrom params .normal s m = bindTokens params (lex s) m := by
  induction s using scanner.induction generalizing m with
  | nil => simp [scanFrom, bindTokens, lex]
  | cons c r ih =>
    have hlex : lex (c :: r) = (next c r).1 :: lex (next c r).2 := scanner.lex_cons c r
    have ih : ∀ m, scanFrom params .normal (next c r).2 m =
        bindTokens params (lex (next c r).2) m := ih
    rw [hlex, bindTokens, ← funext ih]
    by_cases h6 : isWordChar c = true
    · rw [scan_wordChar params h6, scan_word, emit_emit, next_word h6]
      simp [bindToken]
    rw [scanFrom]
    unfold next
    split_ifs with h1 h2 h3 h4 h5
    · subst h1
      simp [scan_singleQuote, cutToken, bindToken, emit_emit]
    · subst h2
      simp [scan_doubleQuote, cutToken, bindToken, emit_emit]
    · simp [scan_lineComment, cutToken, bindToken, emit_emit]
    · simp [scan_blockComment, cutToken, bindToken, emit_emit]
    · simp only [bindToken, if_true, List.tail_cons]
      rcases parseParamNumber (r.takeWhile Char.isDigit) with e | n
      · rfl
      · rcases hp : paramText params (r.takeWhile Char.isDigit) n with e | lit <;> simp [hp]
    · simp [bindToken]

/-- A text that no value is needed for, and without quotes and comments, is bound to itself. -/
lemma bindSqlParams_self {s : List Char}
    (h : (s.all fun c => c ∉ ['\'', '"', '-', '/', '$']) = true) :
    bindSqlParams s [] = .ok s := by
  have hscan : scanFrom (some []) .normal s 0 = .ok (s, 0) := by
    induction s with
    | nil => simp [scanFrom]
    | cons c r ih =>
      rw [List.all_cons, Bool.and_eq_true, decide_eq_true_iff] at h
      obtain ⟨hc, hr⟩ := h
      simp only [List.mem_cons, List.not_mem_nil, or_false, not_or] at hc
      rw [scanFrom]
      simp [hc, ih hr, emit]
  simp [bindSqlParams, scanSqlParams, hscan, Except.map]

/-! ### What a successful binding puts where -/

/-- The value a placeholder names. -/
def paramOf (params : List SqlParam) (t : Token) : Option SqlParam :=
  if t.kind = .param then params[Nat.ofDigitChars 10 t.text.tail 0 - 1]? else none

/-- The text in the place of a token. -/
def boundText (params : List SqlParam) (t : Token) : List Char :=
  match paramOf params t with
  | some p => (sqlParamLiteral p).toOption.getD []
  | none => t.text

/-- Every placeholder names a value that has a literal. -/
def Bound (params : List SqlParam) (ts : List Token) : Prop :=
  ∀ t ∈ ts, t.kind = .param → ∃ p lit, paramOf params t = some p ∧ sqlParamLiteral p = .ok lit

lemma bindToken_ok {params : List SqlParam} {t : Token} {m m' : ℕ} {out : List Char}
    (h : bindToken (some params) t m = .ok (out, m')) :
    out = boundText params t ∧
      (t.kind = .param → ∃ p lit, paramOf params t = some p ∧ sqlParamLiteral p = .ok lit) := by
  unfold bindToken at h
  split_ifs at h with hk
  · rcases hn : parseParamNumber t.text.tail with e | n
    · simp [hn] at h
    · have hval : n = Nat.ofDigitChars 10 t.text.tail 0 := by
        unfold parseParamNumber at hn
        simp only at hn
        split_ifs at hn
        cases hn
        rfl
      rcases hp : params[n - 1]? with _ | p
      · simp [hn, paramText, hp] at h
      · rcases hl : sqlParamLiteral p with e | lit
        · simp [hn, paramText, hp, hl] at h
        · have hof : paramOf params t = some p := by
            simp [paramOf, hk, ← hval, hp]
          simp only [hn, paramText, hp, hl, Except.ok.injEq, Prod.mk.injEq] at h
          exact ⟨by simp [boundText, hof, hl, h.1, Except.toOption], fun _ => ⟨p, lit, hof, hl⟩⟩
  · simp only [Except.ok.injEq, Prod.mk.injEq] at h
    exact ⟨by simp [boundText, paramOf, hk, h.1], fun hk' => absurd hk' hk⟩

lemma bindTokens_ok {params : List SqlParam} {ts : List Token} {m m' : ℕ} {out : List Char}
    (h : bindTokens (some params) ts m = .ok (out, m')) :
    out = ts.flatMap (boundText params) ∧ Bound params ts := by
  induction ts generalizing m out with
  | nil =>
    cases h
    exact ⟨rfl, by simp [Bound]⟩
  | cons t ts ih =>
    rw [bindTokens] at h
    rcases ht : bindToken (some params) t m with e | ⟨text, k⟩
    · simp [ht] at h
    · rcases hts : bindTokens (some params) ts k with e | ⟨rest, k'⟩
      · simp [ht, hts, emit] at h
      · simp only [ht, hts, emit, Except.ok.injEq, Prod.mk.injEq] at h
        obtain ⟨rfl, rfl⟩ := h
        obtain ⟨rfl, hb⟩ := bindToken_ok ht
        obtain ⟨rfl, hbs⟩ := ih hts
        refine ⟨by simp, fun u hu => ?_⟩
        rcases List.mem_cons.1 hu with rfl | hu
        · exact hb
        · exact hbs u hu

lemma bindSqlParams_ok {params : List SqlParam} {sql out : List Char}
    (h : bindSqlParams sql params = .ok out) :
    out = (lex sql).flatMap (boundText params) ∧ Bound params (lex sql) := by
  unfold bindSqlParams scanSqlParams at h
  rw [scan_normal] at h
  rcases hs : bindTokens (some params) (lex sql) 0 with e | ⟨out', m⟩
  · simp [hs, Except.map] at h
  · simp only [hs] at h
    split_ifs at h
    · simp [Except.map] at h
    · cases h
      exact bindTokens_ok hs

/-! ### The tokens of a literal -/

def sym (c : Char) : Token := ⟨.sym, [c], true⟩
def word (w : List Char) : Token := ⟨.word, w, true⟩

def signTokens (negative : Bool) : List Token := if negative then [sym '-'] else []

def fractionTokens : List Char → List Token
  | [] => []
  | f => [sym '.', word f]

/-- A signed number, as its sign, its digits and its decimals. -/
def floatTokens (F : FloatFormat) (b : F.Bits) : List Token :=
  signTokens (F.negative b) ++ word (F.magnitudeText b).1 :: fractionTokens (F.magnitudeText b).2

/-- The complete literal of a value, as tokens. -/
def literalTokens : SqlParam → List Token
  | .null => [word "NULL".toList]
  | .text value => [⟨.str, sqlStringLiteral value, true⟩]
  | .bool value => [word (if value then "true".toList else "false".toList)]
  | .integer value => signTokens (decide (value < 0)) ++ [word (Nat.toDigits 10 value.natAbs)]
  | .float value => floatTokens f64 value
  | .floatArray values =>
    sym '[' :: List.intercalate [sym ','] (values.map (floatTokens f32)) ++
      [sym ']', sym ':', sym ':', word "FLOAT".toList, sym '[', sym ']']
  | .bytes value => [⟨.str, "'\\x".toList ++ hexEncode value ++ ['\''], true⟩]

lemma lex_append_word {w : List Char} (hne : w ≠ []) (hw : ∀ c ∈ w, isWordChar c = true)
    {s : List Char} (hs : ∀ d ∈ s.head?, isWordChar d = false) :
    lex (w ++ s) = word w :: lex s := by
  obtain ⟨c, r, rfl⟩ := List.exists_cons_of_ne_nil hne
  have ht := (takeWhile_append_iff (w := r) (fun d hd => hw d (by simp [hd])) s).2 hs
  have hc := next_word (hw c (by simp)) (r ++ s)
  rw [ht.1, ht.2] at hc
  have := scanner.lex_cons c (r ++ s)
  rw [show scanner.next c (r ++ s) = next c (r ++ s) from rfl, hc] at this
  exact this

/-- A symbol that nothing joins. -/
def isPlain (c : Char) : Bool := !isWordChar c && !(['\'', '"', '-', '/', '$'].contains c)

lemma lex_plain {c : Char} (h : isPlain c = true) (s : List Char) :
    lex (c :: s) = sym c :: lex s := by
  have hn : next c s = (sym c, s) := by
    simp [isPlain] at h
    simp [next, h, sym]
  have := scanner.lex_cons c s
  rw [show scanner.next c s = next c s from rfl, hn] at this
  exact this

lemma lex_minus {s : List Char} (h : s.head? ≠ some '-') :
    lex ('-' :: s) = sym '-' :: lex s := by
  have hn : next '-' s = (sym '-', s) := by
    simp [next, h, sym, isWordChar, Char.isAlphanum, Char.isAlpha, Char.isUpper, Char.isLower,
      Char.isDigit]
  have := scanner.lex_cons '-' s
  rw [show scanner.next '-' s = next '-' s from rfl, hn] at this
  exact this

lemma isWordChar_of_isDigit {c : Char} (h : c.isDigit = true) : isWordChar c = true := by
  simp [isWordChar, Char.isAlphanum, h]

/-- A signed decimal in front of something that is no word. -/
lemma lex_decimal (negative : Bool) {i f s : List Char} (hne : i ≠ []) (hi : AllDigits i)
    (hf : AllDigits f) (hs : ∀ d ∈ s.head?, isWordChar d = false) :
    lex ((if negative then ['-'] else []) ++ i ++ fraction f ++ s) =
      signTokens negative ++ word i :: fractionTokens f ++ lex s := by
  have hfrac : lex (fraction f ++ s) = fractionTokens f ++ lex s := by
    cases f with
    | nil => rfl
    | cons d r =>
      change lex ('.' :: ((d :: r) ++ s)) = _
      rw [lex_plain (by decide), lex_append_word (by simp) (fun c hc =>
        isWordChar_of_isDigit (hf c hc)) hs]
      rfl
  have hhead : ∀ d ∈ (fraction f ++ s).head?, isWordChar d = false := by
    cases f with
    | nil => exact hs
    | cons d r =>
      intro d hd
      obtain rfl : '.' = d := by simpa [fraction] using hd
      decide
  have hint : lex (i ++ (fraction f ++ s)) = word i :: (fractionTokens f ++ lex s) := by
    rw [lex_append_word hne (fun c hc => isWordChar_of_isDigit (hi c hc)) hhead, hfrac]
  cases negative with
  | false => simpa [signTokens] using hint
  | true =>
    have hminus : (i ++ (fraction f ++ s)).head? ≠ some '-' := by
      obtain ⟨c, r, rfl⟩ := List.exists_cons_of_ne_nil hne
      intro h
      obtain rfl : c = '-' := by simpa using h
      exact absurd (hi '-' (by simp)) (by decide)
    simp only [if_true, List.append_assoc, List.cons_append, List.nil_append, signTokens]
    rw [lex_minus hminus, hint]

lemma lex_display {F : FloatFormat} {b : F.Bits} (h : F.isFinite b = true) {s : List Char}
    (hs : ∀ d ∈ s.head?, isWordChar d = false) :
    lex (F.display b ++ s) = floatTokens F b ++ lex s := by
  obtain ⟨hne, hi, hf⟩ := F.magnitudeText_digits b
  rw [F.display_eq h]
  simpa [floatTokens, sign] using lex_decimal (F.negative b) hne hi hf hs

/-- The elements of an array and its closing bracket. -/
lemma lex_elements (values : List F32) (hfin : ∀ v ∈ values, f32.isFinite v = true) (s : List Char)
    (hs : ∀ d ∈ s.head?, isWordChar d = false) :
    lex (List.intercalate [','] (values.map f32.display) ++ s) =
      List.intercalate [sym ','] (values.map (floatTokens f32)) ++ lex s := by
  induction values with
  | nil => simp [List.intercalate]
  | cons v vs ih =>
    have hv : f32.isFinite v = true := hfin v (by simp)
    have ih := ih fun u hu => hfin u (by simp [hu])
    cases vs with
    | nil => simpa [List.intercalate] using lex_display hv hs
    | cons u us =>
      rw [List.map_cons, List.map_cons, List.map_cons, List.map_cons,
        List.intercalate_cons_cons, List.intercalate_cons_cons]
      rw [List.map_cons, List.map_cons] at ih
      simp only [List.append_assoc, List.cons_append, List.nil_append]
      rw [lex_display hv (by simp; decide), lex_plain (by decide), ih]

lemma readQuoted_doubleQuotes (value s : List Char) (hs : s.head? ≠ some '\'') :
    readQuoted '\'' (doubleQuotes value ++ '\'' :: s) = (doubleQuotes value ++ ['\''], true, s) := by
  induction value with
  | nil => exact readQuoted_end '\'' hs
  | cons c r ih =>
    by_cases h : c = '\''
    · subst h
      change readQuoted '\'' ('\'' :: '\'' :: (doubleQuotes r ++ '\'' :: s)) = _
      rw [readQuoted_doubled, ih]
      rfl
    · have hd : doubleQuotes (c :: r) = c :: doubleQuotes r := by simp [doubleQuotes, h]
      rw [hd, List.cons_append, readQuoted_other h, ih]
      rfl

/-- Text without a quote needs no doubling. -/
lemma doubleQuotes_eq {value : List Char} (h : '\'' ∉ value) : doubleQuotes value = value := by
  induction value with
  | nil => rfl
  | cons c r ih =>
    have hc : c ≠ '\'' := fun hc => h (by simp [hc])
    have hr : '\'' ∉ r := fun hr => h (by simp [hr])
    have := ih hr
    simp only [doubleQuotes, List.flatMap_cons, hc, if_false, List.singleton_append] at this ⊢
    rw [this]

lemma lex_sqlStringLiteral (value : List Char) :
    lex (sqlStringLiteral value) = [⟨.str, sqlStringLiteral value, true⟩] := by
  have hn : next '\'' (doubleQuotes value ++ ['\'']) =
      (⟨.str, sqlStringLiteral value, true⟩, []) := by
    simp only [next, if_true, readQuoted_doubleQuotes value [] (by simp)]
    rfl
  have := scanner.lex_cons '\'' (doubleQuotes value ++ ['\''])
  rw [show scanner.next '\'' (doubleQuotes value ++ ['\'']) =
    next '\'' (doubleQuotes value ++ ['\'']) from rfl, hn] at this
  exact this

/-- A blob's literal is a string literal. -/
lemma bytes_literal (value : List UInt8) :
    "'\\x".toList ++ hexEncode value ++ ['\''] = sqlStringLiteral ('\\' :: 'x' :: hexEncode value) := by
  have hdigit : ∀ n < 16, Nat.digitChar n ≠ '\'' := by decide
  have hq : '\'' ∉ '\\' :: 'x' :: hexEncode value := by
    simp only [hexEncode, List.mem_cons, List.mem_flatMap, List.not_mem_nil, or_false, not_or,
      not_exists, not_and]
    refine ⟨by decide, by decide, fun b _ => ⟨?_, ?_⟩⟩
    · exact (hdigit _ (by have := b.toNat_lt; omega)).symm
    · exact (hdigit _ (by omega)).symm
  rw [sqlStringLiteral, doubleQuotes_eq hq]
  rfl

/-- **A literal lexes as one value**: a keyword, a signed number, one string or an array. -/
theorem lex_sqlParamLiteral {p : SqlParam} {lit : List Char} (h : sqlParamLiteral p = .ok lit) :
    lex lit = literalTokens p := by
  cases p with
  | null => cases h; decide
  | text value => cases h; exact lex_sqlStringLiteral value
  | bool value => cases h; cases value <;> decide
  | integer value =>
    cases h
    have := lex_decimal (decide (value < 0)) (i := Nat.toDigits 10 value.natAbs) (f := []) (s := [])
      Nat.toDigits_ne_nil (allDigits_toDigits _) (by simp [AllDigits]) (by simp)
    simpa [intText, literalTokens, fraction, fractionTokens, lex] using this
  | float value =>
    simp only [sqlParamLiteral] at h
    split_ifs at h with hfin
    cases h
    simpa [literalTokens, lex] using lex_display hfin (s := []) (by simp)
  | floatArray values =>
    simp only [sqlParamLiteral] at h
    split_ifs at h with hne
    rcases hf : values.find? fun v => !f32.isFinite v with _ | v
    · simp only [hf, Except.ok.injEq] at h
      subst h
      have hfin : ∀ v ∈ values, f32.isFinite v = true := by
        simpa using List.find?_eq_none.1 hf
      have hend : ∀ d ∈ "]::FLOAT[]".toList.head?, isWordChar d = false := by
        rintro d ⟨⟩
        rfl
      have := lex_elements values hfin "]::FLOAT[]".toList hend
      rw [floatArrayText, List.cons_append, lex_plain (by decide), this]
      rfl
    · simp [hf] at h
  | bytes value =>
    cases h
    rw [bytes_literal, lex_sqlStringLiteral, literalTokens, bytes_literal]

/-- The tokens in the place of a token. -/
def boundTokens (params : List SqlParam) (t : Token) : List Token :=
  match paramOf params t with
  | some p => literalTokens p
  | none => [t]

end Rsduck.Db
