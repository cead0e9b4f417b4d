import Mathlib.Data.List.Basic
import Mathlib.Data.List.DropRight
import Mathlib.Data.List.TakeWhile
import Mathlib.Tactic.Common

/-!
Words that stand in a text. Gaps separate words, a mark is a word of its own, and letters make up
the others; at the ends of a word some letters do not count.
-/

namespace Rsduck.Lib.Adjacent

/-- Which characters are gaps, which are marks, and which letters do not count at a word's ends. -/
structure Alphabet (α : Type) where
  gap : α → Bool
  mark : α → Bool
  edge : α → Bool
  edge_letter : ∀ c, edge c = true → gap c = false ∧ mark c = false

variable {α : Type} (A : Alphabet α)

namespace Alphabet

def letter (c : α) : Bool := !A.gap c && !A.mark c

/-- A word without what does not count at its ends. -/
def bare (word : List α) : List α := (word.dropWhile A.edge).rdropWhile A.edge

/-- Nothing but letters, and no letter next to it. -/
structure Stands (before word after : List α) : Prop where
  ne : word ≠ []
  letters : ∀ c ∈ word, A.letter c = true
  left : ∀ c ∈ before.getLast?, A.letter c = false
  right : ∀ c ∈ after.head?, A.letter c = false

/-- The marks and the longest runs of letters, in order. -/
def units : List α → List (List α)
  | [] => []
  | c :: s =>
    if A.gap c then units s
    else if A.mark c then [c] :: units s
    else (c :: s.takeWhile A.letter) :: units (s.dropWhile A.letter)
  termination_by s => s.length
  decreasing_by
    · exact Nat.lt_succ_self _
    · exact Nat.lt_succ_self _
    · exact Nat.lt_succ_of_le (List.dropWhile_sublist _).length_le

variable {A}

lemma letter_eq_false_iff {c : α} : A.letter c = false ↔ A.gap c = true ∨ A.mark c = true := by
  rw [letter]
  cases A.gap c <;> cases A.mark c <;> simp

/-- A word that stands at the head is the first unit. -/
lemma units_word {word after : List α} (hne : word ≠ []) (hword : ∀ c ∈ word, A.letter c = true)
    (hafter : ∀ c ∈ after.head?, A.letter c = false) :
    A.units (word ++ after) = word :: A.units after := by
  obtain ⟨c, word, rfl⟩ := List.exists_cons_of_ne_nil hne
  have hc := hword c List.mem_cons_self
  have hrest : ∀ d ∈ word, A.letter d = true := fun d hd => hword d (List.mem_cons_of_mem _ hd)
  have hstop : after.takeWhile A.letter = [] ∧ after.dropWhile A.letter = after := by
    rcases after with _ | ⟨d, after⟩
    · exact ⟨rfl, rfl⟩
    · have hd := hafter d rfl
      exact ⟨by simp [hd], by simp [hd]⟩
  have hkind : A.gap c = false ∧ A.mark c = false := by
    rw [letter] at hc
    simpa using hc
  rw [List.cons_append, units, hkind.1, hkind.2, List.takeWhile_append_of_pos hrest,
    List.dropWhile_append_of_pos hrest, hstop.1, hstop.2, List.append_nil]
  rfl

lemma units_gap {c : α} (h : A.gap c = true) (s : List α) : A.units (c :: s) = A.units s := by
  rw [units, if_pos h]

lemma units_mark {c : α} (hgap : A.gap c = false) (hmark : A.mark c = true) (s : List α) :
    A.units (c :: s) = [c] :: A.units s := by
  rw [units, hgap, hmark]
  rfl

/-- Either a text begins with a gap or a mark, or with a word. -/
lemma exists_word {c : α} {s : List α} (hgap : ¬ A.gap c = true) (hmark : ¬ A.mark c = true) :
    ∃ word rest, c :: s = word ++ rest ∧ word ≠ [] ∧ (∀ d ∈ word, A.letter d = true) ∧
      (∀ d ∈ rest.head?, A.letter d = false) ∧ rest = s.dropWhile A.letter := by
  refine ⟨c :: s.takeWhile A.letter, s.dropWhile A.letter, ?_, List.cons_ne_nil _ _, ?_, ?_, rfl⟩
  · rw [List.cons_append, List.takeWhile_append_dropWhile]
  · intro d hd
    rcases List.mem_cons.1 hd with rfl | hd
    · simp [letter, hgap, hmark]
    · exact List.mem_takeWhile_imp hd
  · intro d hd
    have hstop := List.head?_dropWhile_not A.letter s
    rw [Option.mem_def.1 hd] at hstop
    simpa using hstop

/-- What comes last in a text comes last in a part at its end. -/
lemma left_of_append {a b : List α} {P : α → Prop} (h : ∀ c ∈ (a ++ b).getLast?, P c) :
    ∀ c ∈ b.getLast?, P c := by
  intro c hc
  rcases b with _ | ⟨d, b⟩
  · cases hc
  · refine h c ?_
    rw [List.getLast?_append_of_ne_nil _ (List.cons_ne_nil d b)]
    exact hc

/-- Where no letters touch, the units of two texts are those of each. -/
lemma units_append {a b : List α}
    (h : (∀ c ∈ a.getLast?, A.letter c = false) ∨ ∀ c ∈ b.head?, A.letter c = false) :
    A.units (a ++ b) = A.units a ++ A.units b := by
  induction a using units.induct A with
  | case1 =>
    rw [units]
    rfl
  | case2 c s hgap ih =>
    rw [List.cons_append, units_gap hgap, units_gap hgap]
    exact ih (h.imp_left (left_of_append (a := [c])))
  | case3 c s hgap hmark ih =>
    have hgap := Bool.eq_false_iff.2 hgap
    rw [List.cons_append, units_mark hgap hmark, units_mark hgap hmark,
      ih (h.imp_left (left_of_append (a := [c])))]
    rfl
  | case4 c s hgap hmark ih =>
    obtain ⟨word, rest, heq, hne, hword, hrest, hdrop⟩ := exists_word (s := s) hgap hmark
    rw [← hdrop] at ih
    rw [heq] at h ⊢
    have hstop : ∀ d ∈ (rest ++ b).head?, A.letter d = false := by
      rcases rest with _ | ⟨d, rest⟩
      · -- the word itself comes last
        refine h.resolve_left fun hleft => ?_
        rw [List.append_nil] at hleft
        have hlast := hleft _ (List.getLast?_eq_getLast_of_ne_nil hne)
        rw [hword _ (List.getLast_mem hne)] at hlast
        cases hlast
      · exact hrest
    rw [List.append_assoc, units_word hne hword hstop, units_word hne hword hrest,
      ih (h.imp_left left_of_append)]
    rfl

/-- Each unit stands somewhere in the text, with the units before it and those after it. -/
lemma exists_of_units {s : List α} {before after : List (List α)} {unit : List α}
    (h : A.units s = before ++ unit :: after) :
    ∃ a b, s = a ++ unit ++ b ∧ A.units a = before ∧ A.units b = after ∧
      (A.Stands a unit b ∨ ∃ c, A.gap c = false ∧ A.mark c = true ∧ unit = [c]) := by
  induction s using units.induct A generalizing before with
  | case1 =>
    rw [units] at h
    simp at h
  | case2 c s hgap ih =>
    rw [units_gap hgap] at h
    obtain ⟨a, b, rfl, ha, hb, hunit⟩ := ih h
    refine ⟨c :: a, b, rfl, (units_gap hgap a).trans ha, hb, hunit.imp_left fun hs => ?_⟩
    refine ⟨hs.ne, hs.letters, ?_, hs.right⟩
    rcases a with _ | ⟨d, a⟩
    · rintro _ ⟨⟩
      exact letter_eq_false_iff.2 (.inl hgap)
    · exact hs.left
  | case3 c s hgap hmark ih =>
    have hgap := Bool.eq_false_iff.2 hgap
    rw [units_mark hgap hmark] at h
    rcases before with _ | ⟨first, before⟩
    · obtain ⟨rfl, rfl⟩ := List.cons.inj h
      exact ⟨[], s, rfl, units.eq_1 A, rfl, .inr ⟨c, hgap, hmark, rfl⟩⟩
    · obtain ⟨rfl, hmore⟩ := List.cons.inj h
      obtain ⟨a, b, rfl, ha, hb, hunit⟩ := ih hmore
      refine ⟨c :: a, b, rfl, (units_mark hgap hmark a).trans (congrArg _ ha), hb,
        hunit.imp_left fun hs => ⟨hs.ne, hs.letters, ?_, hs.right⟩⟩
      rcases a with _ | ⟨d, a⟩
      · rintro _ ⟨⟩
        exact letter_eq_false_iff.2 (.inr hmark)
      · exact hs.left
  | case4 c s hgap hmark ih =>
    obtain ⟨word, rest, heq, hne, hword, hrest, hdrop⟩ := exists_word (s := s) hgap hmark
    rw [← hdrop] at ih
    rw [heq, units_word hne hword hrest] at h
    rw [heq]
    rcases before with _ | ⟨first, before⟩
    · obtain ⟨rfl, rfl⟩ := List.cons.inj h
      exact ⟨[], rest, rfl, units.eq_1 A, rfl, .inl ⟨hne, hword, by rintro _ ⟨⟩, hrest⟩⟩
    · obtain ⟨rfl, hmore⟩ := List.cons.inj h
      obtain ⟨a, b, hsplit, ha, hb, hunit⟩ := ih hmore
      refine ⟨word ++ a, b, by rw [hsplit]; simp, ?_, hb, ?_⟩
      · have hstop : ∀ d ∈ a.head?, A.letter d = false := by
          rcases a with _ | ⟨d, a⟩
          · rintro _ ⟨⟩
          · intro e he
            refine hrest e ?_
            rw [hsplit]
            exact he
        rw [units_word hne hword hstop, ha]
      · refine hunit.imp_left fun hs => ⟨hs.ne, hs.letters, ?_, hs.right⟩
        rcases a with _ | ⟨d, a⟩
        · -- the two words would touch
          obtain ⟨e, u, rfl⟩ := List.exists_cons_of_ne_nil hs.ne
          have he := hrest e (by rw [hsplit]; rfl)
          rw [hs.letters e List.mem_cons_self] at he
          cases he
        · rw [List.getLast?_append_of_ne_nil _ (List.cons_ne_nil d a)]
          exact hs.left

/-! ### Words next to each other -/

variable (A) in
/-- The units that are more than their ends. -/
def tokens (s : List α) : List (List α) := ((A.units s).map A.bare).filter fun t => !t.isEmpty

variable (A) in
/-- A word stands after another, with nothing between them that counts. -/
structure Next (before key between word after : List α) : Prop where
  first : A.Stands before key (between ++ word ++ after)
  second : A.Stands (before ++ key ++ between) word after
  between : ∀ c ∈ between, A.gap c = true ∨ A.edge c = true

lemma bare_eq_nil_iff {word : List α} : A.bare word = [] ↔ ∀ c ∈ word, A.edge c = true := by
  have hdrop : A.bare word = [] ↔ word.dropWhile A.edge = [] := by
    rw [bare, List.rdropWhile_eq_nil_iff]
    constructor
    · intro h
      by_contra hne
      obtain ⟨c, rest, hdrop⟩ := List.exists_cons_of_ne_nil hne
      have hstop := List.head?_dropWhile_not A.edge word
      rw [hdrop, List.head?_cons] at hstop
      have hc := h c (by rw [hdrop]; exact List.mem_cons_self)
      simp [hc] at hstop
    · intro h c hc
      rw [h] at hc
      cases hc
  rw [hdrop, List.dropWhile_eq_nil_iff]

lemma bare_mark {c : α} (h : A.mark c = true) : A.bare [c] = [c] := by
  have hedge : A.edge c = false := by
    by_contra hc
    have hmark := (A.edge_letter c (by simpa using hc)).2
    rw [h] at hmark
    cases hmark
  simp [bare, hedge, List.rdropWhile_singleton]

/-- Whatever is no gap belongs to a unit. -/
lemma exists_unit {s : List α} {c : α} (hc : c ∈ s) (hgap : A.gap c = false) :
    ∃ unit ∈ A.units s, c ∈ unit := by
  induction s using units.induct A with
  | case1 => cases hc
  | case2 d s hd ih =>
    rw [units_gap hd]
    rcases List.mem_cons.1 hc with rfl | hc
    · rw [hgap] at hd
      cases hd
    · exact ih hc
  | case3 d s hd hmark ih =>
    rw [units_mark (Bool.eq_false_iff.2 hd) hmark]
    rcases List.mem_cons.1 hc with rfl | hc
    · exact ⟨[c], List.mem_cons_self, List.mem_cons_self⟩
    · obtain ⟨unit, hunit, hcu⟩ := ih hc
      exact ⟨unit, List.mem_cons_of_mem _ hunit, hcu⟩
  | case4 d s hd hmark ih =>
    obtain ⟨word, rest, heq, hne, hword, hrest, hdrop⟩ := exists_word (s := s) hd hmark
    rw [← hdrop] at ih
    rw [heq] at hc ⊢
    rw [units_word hne hword hrest]
    rcases List.mem_append.1 hc with hc | hc
    · exact ⟨word, List.mem_cons_self, hc⟩
    · obtain ⟨unit, hunit, hcu⟩ := ih hc
      exact ⟨unit, List.mem_cons_of_mem _ hunit, hcu⟩

/-- A text of gaps and edges has no tokens, and no other text that has none. -/
lemma tokens_eq_nil_iff {s : List α} :
    A.tokens s = [] ↔ ∀ c ∈ s, A.gap c = true ∨ A.edge c = true := by
  have hall : A.tokens s = [] ↔ ∀ unit ∈ A.units s, A.bare unit = [] := by
    simp [tokens, List.filter_eq_nil_iff]
  rw [hall]
  constructor
  · intro h c hc
    rcases hgap : A.gap c with _ | _
    · obtain ⟨unit, hunit, hcu⟩ := exists_unit hc hgap
      exact .inr (bare_eq_nil_iff.1 (h unit hunit) c hcu)
    · exact .inl rfl
  · intro h unit hunit
    obtain ⟨before, after, hsplit⟩ := List.append_of_mem hunit
    obtain ⟨a, b, rfl, -, -, hstands⟩ := exists_of_units hsplit
    refine bare_eq_nil_iff.2 fun c hc => ?_
    have hcs := h c (List.mem_append_left _ (List.mem_append_right _ hc))
    rcases hstands with hstands | ⟨d, hgap, hmark, rfl⟩
    · refine hcs.resolve_left fun hgap => ?_
      have hletter := hstands.letters c hc
      rw [letter, hgap] at hletter
      cases hletter
    · rw [List.mem_singleton.1 hc] at hcs ⊢
      exact hcs.resolve_left (by rw [hgap]; exact Bool.false_ne_true)

lemma tokens_append {a b : List α}
    (h : (∀ c ∈ a.getLast?, A.letter c = false) ∨ ∀ c ∈ b.head?, A.letter c = false) :
    A.tokens (a ++ b) = A.tokens a ++ A.tokens b := by
  rw [tokens, units_append h, List.map_append, List.filter_append]
  rfl

/-- What the tokens are around a word that stands in a text. -/
lemma Stands.tokens {before word after : List α} (h : A.Stands before word after)
    (hword : A.bare word ≠ []) :
    A.tokens (before ++ word ++ after) = A.tokens before ++ A.bare word :: A.tokens after := by
  have htokens : A.tokens (word ++ after) = A.bare word :: A.tokens after := by
    rw [Alphabet.tokens, units_word h.ne h.letters h.right, List.map_cons,
      List.filter_cons_of_pos (by simpa using hword)]
    rfl
  rw [List.append_assoc, tokens_append (.inl h.left), htokens]

/-- Each token that is no mark stands somewhere in the text, with the tokens before it and those
after it. -/
lemma exists_of_tokens {s : List α} {pre post : List (List α)} {t : List α}
    (h : A.tokens s = pre ++ t :: post) (ht : ∀ c, A.mark c = true → t ≠ [c]) :
    ∃ before word after, s = before ++ word ++ after ∧ A.Stands before word after ∧
      A.bare word = t ∧ A.tokens before = pre ∧ A.tokens after = post := by
  obtain ⟨bares, rest, hbares, hpre, hrest⟩ := List.filter_eq_append_iff.1 h
  obtain ⟨skipped, more, hmore, hskipped, hne, hpost⟩ := List.filter_eq_cons_iff.1 hrest
  obtain ⟨U, V, hunits, rfl, hV⟩ := List.map_eq_append_iff.1 hbares
  rw [hmore] at hV
  obtain ⟨W, X, rfl, rfl, hX⟩ := List.map_eq_append_iff.1 hV
  obtain ⟨word, Y, rfl, rfl, rfl⟩ := List.map_eq_cons_iff.1 hX
  rw [← List.append_assoc] at hunits
  obtain ⟨before, after, rfl, hbefore, hafter, hstands⟩ := exists_of_units hunits
  refine ⟨before, word, after, rfl, hstands.resolve_right ?_, rfl, ?_, ?_⟩
  · rintro ⟨c, -, hmark, rfl⟩
    exact ht c hmark (bare_mark hmark)
  · have hnil : (W.map A.bare).filter (fun t => !t.isEmpty) = [] :=
      List.filter_eq_nil_iff.2 fun t ht => by simpa using hskipped t ht
    rw [Alphabet.tokens, hbefore, List.map_append, List.filter_append, hnil, List.append_nil, hpre]
  · rw [Alphabet.tokens, hafter, hpost]

/-- **Tokens next to each other are words next to each other.** -/
theorem next_iff {s : List α} {k w : List α} (hk : k ≠ []) (hw : w ≠ [])
    (hkmark : ∀ c, A.mark c = true → k ≠ [c]) (hwmark : ∀ c, A.mark c = true → w ≠ [c])
    (P : List (List α) → Prop) :
    (∃ pre post, A.tokens s = pre ++ k :: w :: post ∧ P pre) ↔
      ∃ before key between word after, s = before ++ key ++ between ++ word ++ after ∧
        A.Next before key between word after ∧ A.bare key = k ∧ A.bare word = w ∧
        P (A.tokens before) := by
  constructor
  · rintro ⟨pre, post, h, hP⟩
    obtain ⟨before, key, rest, rfl, hkey, rfl, rfl, hrest⟩ := exists_of_tokens h hkmark
    have hnext : A.tokens rest = [] ++ w :: post := hrest
    obtain ⟨between, word, after, rfl, hword, rfl, hbetween, -⟩ := exists_of_tokens hnext hwmark
    refine ⟨before, key, between, word, after, by simp, ⟨hkey, ?_, ?_⟩, rfl, rfl, hP⟩
    · refine ⟨hword.ne, hword.letters, ?_, hword.right⟩
      rcases between with _ | ⟨c, between⟩
      · -- the two words would touch
        obtain ⟨c, word, rfl⟩ := List.exists_cons_of_ne_nil hword.ne
        have hc := hkey.right c rfl
        rw [hword.letters c List.mem_cons_self] at hc
        cases hc
      · rw [List.getLast?_append_of_ne_nil _ (List.cons_ne_nil c between)]
        exact hword.left
    · exact tokens_eq_nil_iff.1 hbetween
  · rintro ⟨before, key, between, word, after, rfl, hnext, rfl, rfl, hP⟩
    refine ⟨A.tokens before, A.tokens after, ?_, hP⟩
    have hword : A.Stands between word after :=
      ⟨hnext.second.ne, hnext.second.letters, left_of_append hnext.second.left, hnext.second.right⟩
    have hsplit : before ++ key ++ between ++ word ++ after =
        before ++ key ++ (between ++ word ++ after) := by simp
    rw [hsplit, hnext.first.tokens hk, hword.tokens hw, tokens_eq_nil_iff.2 hnext.between]
    rfl

/-- A token that is no mark is a word that stands in the text. -/
lemma mem_tokens_iff {s t : List α} (hne : t ≠ []) (ht : ∀ c, A.mark c = true → t ≠ [c]) :
    t ∈ A.tokens s ↔ ∃ before word after, s = before ++ word ++ after ∧
      A.Stands before word after ∧ A.bare word = t := by
  constructor
  · intro h
    obtain ⟨pre, post, hsplit⟩ := List.append_of_mem h
    obtain ⟨before, word, after, hs, hstands, hbare, -⟩ := exists_of_tokens hsplit ht
    exact ⟨before, word, after, hs, hstands, hbare⟩
  · rintro ⟨before, word, after, rfl, hstands, rfl⟩
    rw [hstands.tokens hne]
    simp

end Alphabet

end Rsduck.Lib.Adjacent
