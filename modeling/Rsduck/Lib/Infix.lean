import Mathlib.Data.List.DropRight
import Mathlib.Data.List.Infix
import Mathlib.Data.List.TakeWhile
import Rsduck.Lib.Text

/-!
Where a text occurs in another, when none of its characters separates.
-/

namespace Rsduck.Lib

section Separators

variable {α : Type} {n a b : List α}

/-- A separator stands in no occurrence. -/
lemma infix_append_cons_iff {c : α} (hc : c ∉ n) : n <:+: a ++ c :: b ↔ n <:+: a ∨ n <:+: b := by
  constructor
  · intro h
    have hstart : ∀ m : List α, c ∉ m → m <+: c :: b → m = [] := by
      intro m hm hpre
      rcases m with _ | ⟨d, m⟩
      · rfl
      · obtain ⟨rfl, -⟩ := List.cons_prefix_cons.1 hpre
        exact absurd List.mem_cons_self hm
    rcases List.infix_append_iff.1 h with h | h | ⟨l, r, rfl, hl, hr⟩
    · exact .inl h
    · rcases List.infix_cons_iff.1 h with h | h
      · rw [hstart n hc h]
        exact .inl (List.nil_infix)
      · exact .inr h
    · have hnil := hstart r (fun hmem => hc (List.mem_append_right l hmem)) hr
      rw [hnil, List.append_nil]
      exact .inl hl.isInfix
  · rintro (h | h)
    · exact List.infix_append_of_infix_left h
    · exact List.infix_append_of_infix_right (List.infix_cons h)

lemma infix_append_iff_right (hne : n ≠ []) (ha : ∀ c ∈ a, c ∉ n) : n <:+: a ++ b ↔ n <:+: b := by
  induction a with
  | nil => rfl
  | cons c a ih =>
    have hnil : ¬ n <:+: [] := fun h => hne (List.infix_nil.1 h)
    have hcons := infix_append_cons_iff (a := []) (b := a ++ b) (ha c List.mem_cons_self)
    rw [List.nil_append, or_iff_right hnil] at hcons
    rw [List.cons_append, hcons]
    exact ih fun d hd => ha d (List.mem_cons_of_mem c hd)

lemma infix_append_iff_left (hne : n ≠ []) (hb : ∀ c ∈ b, c ∉ n) : n <:+: a ++ b ↔ n <:+: a := by
  rw [← List.reverse_infix, List.reverse_append, infix_append_iff_right, List.reverse_infix]
  · simpa using hne
  · simpa using hb

/-- An occurrence lies in one of the pieces between separators. -/
lemma infix_splitOnP_iff {p : α → Bool} (hp : ∀ c ∈ n, p c = false) (s : List α) :
    n <:+: s ↔ ∃ w ∈ s.splitOnP p, n <:+: w := by
  induction h : s.length using Nat.strongRecOn generalizing s with
  | ind k ih =>
    by_cases hs : ∀ c ∈ s, p c = false
    · rw [List.splitOnP_eq_singleton hs]
      simp
    · -- cut at the first separator
      have hdrop : s.dropWhile (fun c => !p c) ≠ [] := by
        intro hnil
        refine hs fun c hc => ?_
        have := List.dropWhile_eq_nil_iff.1 hnil c hc
        simpa using this
      obtain ⟨sep, rest, hrest⟩ := List.exists_cons_of_ne_nil hdrop
      have hsep : p sep = true := by
        have := List.head_dropWhile_not (p := fun c => !p c) (l := s) hdrop
        simpa [hrest] using this
      have hsplit : s = s.takeWhile (fun c => !p c) ++ sep :: rest := by
        rw [← hrest, List.takeWhile_append_dropWhile]
      have hfirst : ∀ c ∈ s.takeWhile (fun c => !p c), p c = false := by
        intro c hc
        simpa using List.mem_takeWhile_imp hc
      have hnot : sep ∉ n := fun hmem => by
        rw [hp sep hmem] at hsep
        cases hsep
      have hlength : rest.length < k := by
        have := congrArg List.length hsplit
        simp only [List.length_append, List.length_cons] at this
        omega
      rw [hsplit, infix_append_cons_iff hnot,
        List.splitOnP_append_cons_of_forall_mem hfirst sep hsep, List.exists_mem_cons_iff,
        ih _ hlength rest rfl]

/-- An occurrence in a joined text lies in one of the pieces. -/
lemma infix_intercalate_iff {sep : α} (hne : n ≠ []) (hsep : sep ∉ n) (ws : List (List α)) :
    n <:+: [sep].intercalate ws ↔ ∃ w ∈ ws, n <:+: w := by
  have hnil : ¬ n <:+: [] := fun h => hne (List.infix_nil.1 h)
  induction ws with
  | nil => simpa using hnil
  | cons w ws ih =>
    rcases ws with _ | ⟨v, ws⟩
    · simp
    · rw [List.intercalate_cons_cons, List.append_assoc, List.singleton_append,
        infix_append_cons_iff hsep, List.exists_mem_cons_iff]
      exact or_congr Iff.rfl ih

end Separators

/-! ### Pieces with marked ends -/

section Pieces

variable {α : Type} {n : List α} {sep : α} {plain : α → Prop}

/-- An occurrence among pieces that are plain, or stand between separators, is plain or lies in one
of the latter. -/
lemma infix_pieces {τ : Type} {piece : τ → List α} {inner : τ → Option (List α)} {ts : List τ}
    (hsep : sep ∉ n) (hinner : ∀ t ∈ ts, ∀ m, inner t = some m → piece t = sep :: (m ++ [sep]))
    (hplain : ∀ t ∈ ts, inner t = none → ∀ c ∈ piece t, plain c) {before : List α}
    (hbefore : ∀ c ∈ before, plain c) (h : n <:+: before ++ ts.flatMap piece) :
    (∀ c ∈ n, plain c) ∨ ∃ t ∈ ts, ∃ m, inner t = some m ∧ n <:+: m := by
  induction ts generalizing before with
  | nil =>
    rw [List.flatMap_nil, List.append_nil] at h
    exact .inl fun c hc => hbefore c (h.subset hc)
  | cons t ts ih =>
    rw [List.flatMap_cons] at h
    have hinner' := fun u hu => hinner u (List.mem_cons_of_mem t hu)
    have hplain' := fun u hu => hplain u (List.mem_cons_of_mem t hu)
    cases hm : inner t with
    | none =>
      rw [← List.append_assoc] at h
      have hmore : ∀ c ∈ before ++ piece t, plain c := fun c hc =>
        (List.mem_append.1 hc).elim (hbefore c) (hplain t List.mem_cons_self hm c)
      exact (ih hinner' hplain' hmore h).imp id fun ⟨u, hu, hrest⟩ => ⟨u, List.mem_cons_of_mem t hu, hrest⟩
    | some m =>
      rw [hinner t List.mem_cons_self m hm, List.cons_append, infix_append_cons_iff hsep, List.append_assoc,
        List.singleton_append, infix_append_cons_iff hsep] at h
      rcases h with h | h | h
      · exact .inl fun c hc => hbefore c (h.subset hc)
      · exact .inr ⟨t, List.mem_cons_self, m, hm, h⟩
      · have hnone : ∀ c ∈ ([] : List α), plain c := fun c hc => absurd hc List.not_mem_nil
        have hrest := ih hinner' hplain' hnone h
        exact hrest.imp id fun ⟨u, hu, hrest⟩ => ⟨u, List.mem_cons_of_mem t hu, hrest⟩

end Pieces

/-! ### Trimmed text and words -/

namespace Text

variable {n : List Char}

lemma contains_iff (text : String) (s : List Char) :
    contains text s = true ↔ text.toList <:+: s := by
  unfold contains startsWith
  rw [List.any_eq_true]
  constructor
  · rintro ⟨t, ht, hpre⟩
    exact (List.isPrefixOf_iff_prefix.1 hpre).isInfix.trans ((List.mem_tails _ _).1 ht).isInfix
  · rintro ⟨a, b, rfl⟩
    rw [List.append_assoc]
    exact ⟨text.toList ++ b, (List.mem_tails _ _).2 (List.suffix_append _ _),
      List.isPrefixOf_iff_prefix.2 (List.prefix_append _ _)⟩

/-- An occurrence without white space lies in one of the words. -/
lemma infix_joinWords_iff (hne : n ≠ []) (hn : ∀ c ∈ n, isWhitespace c = false) (s : List Char) :
    n <:+: joinWords (words s) ↔ n <:+: s := by
  have hblank : ' ' ∉ n := fun hmem => by
    have := hn ' ' hmem
    revert this
    decide
  rw [joinWords, infix_intercalate_iff hne hblank, infix_splitOnP_iff hn s, words]
  constructor
  · rintro ⟨w, hw, hnw⟩
    exact ⟨w, (List.mem_filter.1 hw).1, hnw⟩
  · rintro ⟨w, hw, hnw⟩
    have hwne : w ≠ [] := by
      rintro rfl
      exact hne (List.infix_nil.1 hnw)
    exact ⟨w, List.mem_filter.2 ⟨hw, by simpa using hwne⟩, hnw⟩

/-- What trimming takes away. -/
lemma exists_trim (s : List Char) : ∃ a b, s = a ++ trim s ++ b ∧ (∀ c ∈ a, isWhitespace c = true) ∧
    ∀ c ∈ b, isWhitespace c = true := by
  refine ⟨s.takeWhile isWhitespace, (trimStart s).rtakeWhile isWhitespace, ?_, ?_, ?_⟩
  · rw [trim, trimEnd, List.append_assoc, List.rdropWhile_append_rtakeWhile, trimStart,
      List.takeWhile_append_dropWhile]
  · exact fun c hc => List.mem_takeWhile_imp hc
  · exact fun c hc => List.mem_rtakeWhile_imp hc

lemma exists_trimEndMatches (c : Char) (s : List Char) :
    ∃ b, s = trimEndMatches c s ++ b ∧ ∀ d ∈ b, d = c := by
  refine ⟨s.rtakeWhile (· == c), List.rdropWhile_append_rtakeWhile.symm, fun d hd => ?_⟩
  simpa using List.mem_rtakeWhile_imp hd

end Text

end Rsduck.Lib
