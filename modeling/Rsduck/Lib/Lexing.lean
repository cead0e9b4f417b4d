import Mathlib.Data.List.Chain
import Mathlib.Tactic.Common

/-!
Lexers that cut a text into tokens which keep their own text.

A lexer is given by the first token of a nonempty text and what remains after it. Reading
the written tokens back gives the same tokens exactly when every token, written in front of
the ones after it, is still the first token there.
-/

namespace Rsduck.Lib

structure Lexer (α τ : Type) where
  /-- The first token of the text `c :: r`, and the rest of the text. -/
  next : α → List α → τ × List α
  /-- A token as written. -/
  text : τ → List α
  text_next : ∀ c r, text (next c r).1 ++ (next c r).2 = c :: r
  text_ne_nil : ∀ c r, text (next c r).1 ≠ []

namespace Lexer

variable {α τ : Type} (L : Lexer α τ)

lemma length_next (c : α) (r : List α) : (L.next c r).2.length ≤ r.length := by
  have h := congrArg List.length (L.text_next c r)
  have hne := List.length_pos_iff.2 (L.text_ne_nil c r)
  simp only [List.length_append, List.length_cons] at h
  omega

def lexAux : ℕ → List α → List τ
  | 0, _ => []
  | _, [] => []
  | n + 1, c :: r => (L.next c r).1 :: lexAux n (L.next c r).2

/-- All tokens of a text. -/
def lex (s : List α) : List τ := L.lexAux s.length s

/-- Tokens as written. -/
def render (ts : List τ) : List α := ts.flatMap L.text

@[simp] lemma lex_nil : L.lex [] = [] := rfl
@[simp] lemma render_nil : L.render [] = [] := rfl
@[simp] lemma render_cons (t : τ) (ts : List τ) :
    L.render (t :: ts) = L.text t ++ L.render ts := by simp [render]
lemma render_append (ts us : List τ) : L.render (ts ++ us) = L.render ts ++ L.render us := by
  simp [render]

lemma lexAux_eq (n m : ℕ) (s : List α) (hn : s.length ≤ n) (hm : s.length ≤ m) :
    L.lexAux n s = L.lexAux m s := by
  induction n generalizing m s with
  | zero => cases List.length_eq_zero_iff.1 (Nat.le_zero.1 hn); cases m <;> rfl
  | succ n ih =>
    cases s with
    | nil => cases m <;> rfl
    | cons c r =>
      cases m with
      | zero => simp at hm
      | succ m =>
        have hl := L.length_next c r
        simp only [List.length_cons] at hn hm
        simp only [lexAux]
        rw [ih m (L.next c r).2 (by omega) (by omega)]

lemma lex_cons (c : α) (r : List α) :
    L.lex (c :: r) = (L.next c r).1 :: L.lex (L.next c r).2 := by
  simp only [lex, List.length_cons, lexAux]
  rw [L.lexAux_eq r.length _ _ (L.length_next c r) (Nat.le_refl _)]

/-- Induction on a text, token by token. -/
lemma induction {P : List α → Prop} (nil : P [])
    (cons : ∀ c r, P (L.next c r).2 → P (c :: r)) (s : List α) : P s := by
  induction h : s.length using Nat.strongRecOn generalizing s with
  | ind n ih =>
    cases s with
    | nil => exact nil
    | cons c r =>
      have hl := L.length_next c r
      refine cons c r (ih _ ?_ _ rfl)
      simp only [List.length_cons] at h
      omega

/-- No character is lost. -/
@[simp] lemma render_lex (s : List α) : L.render (L.lex s) = s := by
  induction s using L.induction with
  | nil => rfl
  | cons c r ih => rw [lex_cons, render_cons, ih, L.text_next]

lemma text_ne_nil_of_mem {s : List α} {t : τ} (h : t ∈ L.lex s) : L.text t ≠ [] := by
  induction s using L.induction with
  | nil => simp at h
  | cons c r ih =>
    rw [lex_cons] at h
    rcases List.mem_cons.1 h with rfl | h
    · exact L.text_ne_nil c r
    · exact ih h

/-- The token, written in front of `rest`, is read back as the first token. -/
def Reads (t : τ) (rest : List α) : Prop :=
  ∃ c r, L.text t ++ rest = c :: r ∧ L.next c r = (t, rest)

inductive Readable : List τ → Prop
  | nil : Readable []
  | cons {t : τ} {ts : List τ} (head : L.Reads t (L.render ts)) (tail : Readable ts) :
      Readable (t :: ts)

/-- **Reading back**: written tokens lex to themselves iff each of them reads back in front
of the ones after it. -/
theorem lex_render_iff (ts : List τ) : L.lex (L.render ts) = ts ↔ L.Readable ts := by
  induction ts with
  | nil => simp [Readable.nil]
  | cons t ts ih =>
    rw [render_cons]
    constructor
    · intro h
      cases hs : L.text t ++ L.render ts with
      | nil => rw [hs] at h; simp at h
      | cons c r =>
        rw [hs, lex_cons, List.cons.injEq] at h
        have hr : (L.next c r).2 = L.render ts := by
          have := L.text_next c r
          rw [h.1, ← hs] at this
          exact List.append_cancel_left this
        rw [hr] at h
        exact .cons ⟨c, r, hs, Prod.ext h.1 hr⟩ (ih.1 h.2)
    · intro h
      cases h with
      | cons head tail =>
        obtain ⟨c, r, hs, hn⟩ := head
        rw [hs, lex_cons, hn, ih.2 tail]

lemma Readable.reads {t : τ} {ts : List τ} (h : L.Readable (t :: ts)) :
    L.Reads t (L.render ts) := by
  cases h; assumption

lemma Readable.tail {t : τ} {ts : List τ} (h : L.Readable (t :: ts)) : L.Readable ts := by
  cases h; assumption

end Lexer

/-- Two relations that agree on the neighbours of a chain. -/
lemma isChain_congr {τ : Type} {A P Q : τ → τ → Prop} {ts : List τ} (hA : ts.IsChain A)
    (h : ∀ t ∈ ts, ∀ u ∈ ts, A t u → (P t u ↔ Q t u)) : ts.IsChain P ↔ ts.IsChain Q := by
  induction ts with
  | nil => simp
  | cons t ts ih =>
    rw [List.isChain_cons] at hA
    rw [List.isChain_cons, List.isChain_cons, ih hA.2 fun u hu v hv => h u (by simp [hu]) v
      (by simp [hv])]
    refine and_congr_left fun _ => forall_congr' fun u => forall_congr' fun hu => ?_
    exact h t (by simp) u (by simp [List.mem_of_mem_head? hu]) (hA.1 u hu)

/-! ### Tokens that end by the next character -/

/-- A lexer whose tokens are told from what follows them by one character. -/
structure LocalLexer (α τ : Type) extends Lexer α τ where
  /-- The character may stand directly after the token. -/
  follow : τ → α → Bool
  reads_iff : ∀ c r rest, toLexer.Reads (next c r).1 rest ↔
    ∀ d ∈ rest.head?, follow (next c r).1 d = true

namespace LocalLexer

open Lexer

variable {α τ : Type} (L : LocalLexer α τ)

/-- A token the lexer can cut off. -/
def Valid (t : τ) : Prop := ∃ c r, (L.next c r).1 = t

/-- The second token may stand directly after the first. -/
def Adjacent (t u : τ) : Prop := ∀ d ∈ (L.text u).head?, L.follow t d = true

lemma valid_of_mem {s : List α} {t : τ} (h : t ∈ L.lex s) : L.Valid t := by
  induction s using L.induction with
  | nil => simp at h
  | cons c r ih =>
    rw [lex_cons] at h
    rcases List.mem_cons.1 h with rfl | h
    · exact ⟨c, r, rfl⟩
    · exact ih h

lemma Valid.text_ne_nil {t : τ} (h : L.Valid t) : L.text t ≠ [] := by
  obtain ⟨c, r, rfl⟩ := h
  exact L.text_ne_nil c r

lemma head?_render {ts : List τ} (h : ∀ t ∈ ts, L.Valid t) :
    (L.render ts).head? = ts.head?.bind fun t => (L.text t).head? := by
  cases ts with
  | nil => rfl
  | cons t ts =>
    rw [render_cons, List.head?_append_of_ne_nil _ (h t (by simp)).text_ne_nil]
    rfl

/-- **Reading back, locally**: written tokens lex to themselves iff neighbours may stand next
to each other. -/
theorem lex_render_iff_isChain {ts : List τ} (h : ∀ t ∈ ts, L.Valid t) :
    L.lex (L.render ts) = ts ↔ ts.IsChain L.Adjacent := by
  rw [lex_render_iff]
  induction ts with
  | nil => simp [Readable.nil]
  | cons t ts ih =>
    have hts : ∀ u ∈ ts, L.Valid u := fun u hu => h u (by simp [hu])
    obtain ⟨c, r, rfl⟩ := h t (by simp)
    have hhead : L.Reads (L.next c r).1 (L.render ts) ↔
        ∀ u ∈ ts.head?, L.Adjacent (L.next c r).1 u := by
      rw [L.reads_iff, L.head?_render hts]
      simp only [Option.mem_def, Option.bind_eq_some_iff, Adjacent]
      exact ⟨fun hd u hu d hud => hd d ⟨u, hu, hud⟩, fun hd d ⟨u, hu, hud⟩ => hd u hu d hud⟩
    rw [List.isChain_cons, ← ih hts, ← hhead]
    exact ⟨fun hr => ⟨hr.reads, hr.tail⟩, fun ⟨h1, h2⟩ => .cons h1 h2⟩

/-- What may follow a text of tokens is told by its first token. -/
lemma forall_head?_lex {P : α → Prop} (s : List α) :
    (∀ u ∈ (L.lex s).head?, ∀ d ∈ (L.text u).head?, P d) ↔ ∀ d ∈ s.head?, P d := by
  have hv : ∀ t ∈ L.lex s, L.Valid t := fun _ => L.valid_of_mem
  have h := L.head?_render hv
  rw [render_lex] at h
  rw [h]
  simp only [Option.mem_def, Option.bind_eq_some_iff]
  exact ⟨fun hd d ⟨u, hu, hud⟩ => hd u hu d hud, fun hd u hu d hud => hd d ⟨u, hu, hud⟩⟩

lemma isChain_lex (s : List α) : (L.lex s).IsChain L.Adjacent :=
  (L.lex_render_iff_isChain fun _ => L.valid_of_mem).1 (by rw [render_lex])

/-- Two texts lex apart when the second may stand after the last token of the first. -/
lemma lex_append {s u : List α}
    (h : ∀ t ∈ (L.lex s).getLast?, ∀ d ∈ u.head?, L.follow t d = true) :
    L.lex (s ++ u) = L.lex s ++ L.lex u := by
  have hv : ∀ t ∈ L.lex s ++ L.lex u, L.Valid t := fun t ht =>
    (List.mem_append.1 ht).elim L.valid_of_mem L.valid_of_mem
  have hc : (L.lex s ++ L.lex u).IsChain L.Adjacent := by
    refine List.isChain_append.2 ⟨L.isChain_lex s, L.isChain_lex u, fun t ht v hv d hd => ?_⟩
    exact (L.forall_head?_lex u).2 (h t ht) v hv d hd
  have := (L.lex_render_iff_isChain hv).2 hc
  rwa [render_append, render_lex, render_lex] at this

/-- **Substitution**: replacing each token of a text by the tokens of another text gives what
the new text lexes to iff the replacements may stand where the tokens stood. -/
theorem lex_substitute_iff (seg : τ → List α) {ts : List τ} (hne : ∀ t ∈ ts, seg t ≠ []) :
    L.lex (ts.flatMap seg) = ts.flatMap (fun t => L.lex (seg t)) ↔
      ts.IsChain fun t u => ∀ x ∈ (L.lex (seg t)).getLast?, ∀ d ∈ (seg u).head?,
        L.follow x d = true := by
  have hrender : L.render (ts.flatMap fun t => L.lex (seg t)) = ts.flatMap seg := by
    induction ts with
    | nil => rfl
    | cons t ts ih =>
      rw [List.flatMap_cons, List.flatMap_cons, render_append, render_lex,
        ih fun u hu => hne u (by simp [hu])]
  have hvalid : ∀ v ∈ ts.flatMap fun t => L.lex (seg t), L.Valid v := by
    intro v hv
    obtain ⟨t, -, hv⟩ := List.mem_flatMap.1 hv
    exact L.valid_of_mem hv
  have hseg : [] ∉ ts.map fun t => L.lex (seg t) := by
    intro h
    obtain ⟨t, ht, h⟩ := List.mem_map.1 h
    exact hne t ht (by rw [← L.render_lex (seg t), h, render_nil])
  rw [← hrender, L.lex_render_iff_isChain hvalid, List.flatMap_def, List.isChain_flatten hseg,
    List.isChain_map]
  have hin : ∀ l ∈ ts.map fun t => L.lex (seg t), l.IsChain L.Adjacent := by
    intro l hl
    obtain ⟨t, -, rfl⟩ := List.mem_map.1 hl
    exact L.isChain_lex _
  rw [and_iff_right hin]
  refine List.IsChain.iff fun t u => forall_congr' fun x => forall_congr' fun _ => ?_
  exact L.forall_head?_lex (seg u)

end LocalLexer

end Rsduck.Lib
