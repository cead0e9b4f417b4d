import Rsduck.Mysql.CommandLoop

/-!
Which texts a LIKE pattern matches.

The matcher goes over bytes, and tries again at every rest of the text after a `%`. What it decides
on a text of ASCII characters is the language of the pattern, character by character.
-/

namespace Rsduck.Mysql.LikePattern

open Lib.Text Lib.Wire Db

/-! ### The matcher -/

def byteToAsciiLowercase (b : UInt8) : UInt8 := if 65 ≤ b ∧ b ≤ 90 then b + 32 else b

def byteEqIgnoreAsciiCase (a b : UInt8) : Bool := byteToAsciiLowercase a == byteToAsciiLowercase b

/-- The matcher on bytes: 37 is `%`, 95 is `_` and 92 the backslash. -/
def likeInner (pattern value : List UInt8) : Bool :=
  match pattern with
  | [] => value.isEmpty
  | p :: ps =>
    if p = 37 then
      likeInner ps value ||
        match value with
        | [] => false
        | _ :: vs => likeInner (p :: ps) vs
    else if p = 95 then
      match value with
      | [] => false
      | _ :: vs => likeInner ps vs
    else
      match p, ps, value with
      | _, _, [] => false
      | 92, q :: qs, v :: vs => byteEqIgnoreAsciiCase q v && likeInner qs vs
      | p, ps, v :: vs => byteEqIgnoreAsciiCase p v && likeInner ps vs
  termination_by pattern.length + value.length

def mysqlLikeMatchesBytes (pattern value : List Char) : Bool := likeInner (utf8 pattern) (utf8 value)

/-! ### The language of a pattern -/

/-- `%` is any text, `_` any character, a character after a backslash is that character, and any
other is itself, whatever the case of letters. -/
inductive Denotes : List Char → List Char → Prop
  | nil : Denotes [] []
  | anything (skipped : List Char) {ps text} (h : Denotes ps text) :
      Denotes ('%' :: ps) (skipped ++ text)
  | one (c : Char) {ps text} (h : Denotes ps text) : Denotes ('_' :: ps) (c :: text)
  | escaped {q c ps text} (hq : q.toLower = c.toLower) (h : Denotes ps text) :
      Denotes ('\\' :: q :: ps) (c :: text)
  | itself {p c ps text} (hany : p ≠ '%') (hone : p ≠ '_') (hlast : p = '\\' → ps = [])
      (hp : p.toLower = c.toLower) (h : Denotes ps text) : Denotes (p :: ps) (c :: text)

lemma eqIgnoreAsciiCase_singleton {p c : Char} :
    eqIgnoreAsciiCase [p] [c] = true ↔ p.toLower = c.toLower := by
  simp [eqIgnoreAsciiCase, toAsciiLowercase]

/-- A pattern of ordinary characters in front: one character of the text is taken. -/
lemma denotes_ordinary {p c : Char} {ps text : List Char} (hany : p ≠ '%') (hone : p ≠ '_')
    (hlast : p = '\\' → ps = []) :
    Denotes (p :: ps) (c :: text) ↔ p.toLower = c.toLower ∧ Denotes ps text := by
  constructor
  · intro h
    generalize hp : p :: ps = pattern at h
    generalize hv : c :: text = value at h
    cases h with
    | nil => cases hp
    | anything => exact absurd (List.cons.inj hp).1 hany
    | one => exact absurd (List.cons.inj hp).1 hone
    | escaped =>
      obtain ⟨rfl, hps⟩ := List.cons.inj hp
      rw [hlast rfl] at hps
      cases hps
    | itself _ _ _ hp' h' =>
      cases hp
      cases hv
      exact ⟨hp', h'⟩
  · rintro ⟨hp, h⟩
    exact .itself hany hone hlast hp h

lemma denotes_escaped {q c : Char} {ps text : List Char} :
    Denotes ('\\' :: q :: ps) (c :: text) ↔ q.toLower = c.toLower ∧ Denotes ps text := by
  constructor
  · intro h
    generalize hp : '\\' :: q :: ps = pattern at h
    generalize hv : c :: text = value at h
    cases h with
    | nil => cases hp
    | anything => exact absurd (List.cons.inj hp).1 (by decide)
    | one => exact absurd (List.cons.inj hp).1 (by decide)
    | escaped hq h' =>
      cases hp
      cases hv
      exact ⟨hq, h'⟩
    | itself _ _ hlast =>
      obtain ⟨rfl, hps⟩ := List.cons.inj hp
      rw [hlast rfl] at hps
      cases hps
  · rintro ⟨hq, h⟩
    exact .escaped hq h

lemma denotes_one {c : Char} {ps text : List Char} :
    Denotes ('_' :: ps) (c :: text) ↔ Denotes ps text := by
  constructor
  · intro h
    generalize hp : '_' :: ps = pattern at h
    generalize hv : c :: text = value at h
    cases h with
    | nil => cases hp
    | anything => exact absurd (List.cons.inj hp).1 (by decide)
    | one _ h' =>
      cases hp
      cases hv
      exact h'
    | escaped => exact absurd (List.cons.inj hp).1 (by decide)
    | itself _ hone => exact absurd (List.cons.inj hp).1.symm hone
  · exact .one c

lemma denotes_anything {ps value : List Char} :
    Denotes ('%' :: ps) value ↔ ∃ skipped text, value = skipped ++ text ∧ Denotes ps text := by
  constructor
  · intro h
    generalize hp : '%' :: ps = pattern at h
    cases h with
    | nil => cases hp
    | anything skipped h' =>
      cases hp
      exact ⟨skipped, _, rfl, h'⟩
    | one => exact absurd (List.cons.inj hp).1 (by decide)
    | escaped => exact absurd (List.cons.inj hp).1 (by decide)
    | itself hany => exact absurd (List.cons.inj hp).1.symm hany
  · rintro ⟨skipped, text, rfl, h⟩
    exact .anything skipped h

/-- Only `%` takes nothing. -/
lemma not_denotes_nil {p : Char} {ps : List Char} (hany : p ≠ '%') : ¬ Denotes (p :: ps) [] := by
  intro h
  generalize hp : p :: ps = pattern at h
  generalize hv : ([] : List Char) = value at h
  cases h with
  | nil => cases hp
  | anything => exact hany (List.cons.inj hp).1
  | one => cases hv
  | escaped => cases hv
  | itself => cases hv

lemma denotes_nil {value : List Char} : Denotes [] value ↔ value = [] := by
  constructor
  · intro h
    cases h
    rfl
  · rintro rfl
    exact .nil

/-- Over characters, the matcher decides the language of the pattern. -/
lemma mysqlLikeMatches_iff (pattern value : List Char) :
    mysqlLikeMatches pattern value = true ↔ Denotes pattern value := by
  induction hn : pattern.length using Nat.strongRecOn generalizing pattern value with
  | _ n ih =>
    rcases pattern with _ | ⟨p, ps⟩
    · rw [denotes_nil, mysqlLikeMatches, List.isEmpty_iff]
    · have hps : ps.length < n := by simp at hn; omega
      by_cases hany : p = '%'
      · subst hany
        rw [mysqlLikeMatches.eq_def]
        dsimp only
        rw [if_pos rfl, denotes_anything, List.any_eq_true]
        constructor
        · rintro ⟨text, hmem, h⟩
          obtain ⟨skipped, rfl⟩ := (List.mem_tails _ _).1 hmem
          exact ⟨skipped, text, rfl, (ih _ hps ps text rfl).1 h⟩
        · rintro ⟨skipped, text, rfl, h⟩
          exact ⟨text, (List.mem_tails _ _).2 ⟨skipped, rfl⟩, (ih _ hps ps text rfl).2 h⟩
      · rcases value with _ | ⟨c, text⟩
        · rw [mysqlLikeMatches.eq_def]
          dsimp only
          rw [if_neg hany]
          exact iff_of_false (by simp) (not_denotes_nil hany)
        · rw [mysqlLikeMatches.eq_def]
          dsimp only
          rw [if_neg hany]
          by_cases hone : p = '_'
          · subst hone
            rw [if_pos rfl, denotes_one]
            exact ih _ hps ps text rfl
          · rw [if_neg hone]
            split
            · -- an escaped character
              rename_i q qs
              rw [denotes_escaped, Bool.and_eq_true, eqIgnoreAsciiCase_singleton,
                ih _ (by simp at hn; omega) qs text rfl]
            · rename_i hlast
              have hend : p = '\\' → ps = [] := by
                rintro rfl
                rcases ps with _ | ⟨q, qs⟩
                · rfl
                · exact absurd rfl (hlast q qs rfl)
              rw [denotes_ordinary hany hone hend, Bool.and_eq_true, eqIgnoreAsciiCase_singleton,
                ih _ hps ps text rfl]

/-! ### Bytes -/

/-- A text of ASCII characters. -/
def IsAscii (s : List Char) : Prop := ∀ c ∈ s, c.toNat < 128

lemma utf8_cons_of_ascii {c : Char} (s : List Char) (hc : c.toNat < 128) :
    utf8 (c :: s) = UInt8.ofNat c.toNat :: utf8 s := by
  rw [utf8, List.flatMap_cons, utf8EncodeChar_of_ascii hc]
  rfl

lemma utf8_eq_nil {s : List Char} : utf8 s = [] ↔ s = [] := by
  constructor
  · intro h
    have hread := ofUtf8_utf8 s
    rw [h] at hread
    exact (Option.some.inj (hread.symm.trans (ofUtf8_utf8 [])))
  · rintro rfl
    rfl

/-- The first byte of a character that is not ASCII is none of an ASCII character's. -/
lemma exists_utf8_cons {c : Char} (s : List Char) (hc : 128 ≤ c.toNat) :
    ∃ b rest, utf8 (c :: s) = b :: rest ∧ 128 ≤ b.toNat := by
  rw [utf8, List.flatMap_cons]
  unfold String.utf8EncodeChar
  simp only [Char.toNat_val]
  split_ifs with h₁ h₂ h₃
  · omega
  all_goals
    refine ⟨_, _, rfl, ?_⟩
    rw [UInt8.toNat_ofNat']
    omega

lemma toNat_ofNat_toNat {c : Char} (hc : c.toNat < 128) : (UInt8.ofNat c.toNat).toNat = c.toNat := by
  rw [UInt8.toNat_ofNat', Nat.mod_eq_of_lt (by omega)]

lemma ofNat_toNat_eq_iff {c d : Char} (hc : c.toNat < 128) (hd : d.toNat < 128) :
    UInt8.ofNat c.toNat = UInt8.ofNat d.toNat ↔ c = d := by
  constructor
  · intro h
    have hnat := congrArg UInt8.toNat h
    rw [toNat_ofNat_toNat hc, toNat_ofNat_toNat hd] at hnat
    exact Char.toNat_inj.1 hnat
  · rintro rfl
    rfl

lemma toNat_byteToAsciiLowercase (b : UInt8) :
    (byteToAsciiLowercase b).toNat =
      if 65 ≤ b.toNat ∧ b.toNat ≤ 90 then b.toNat + 32 else b.toNat := by
  have hiff : (65 ≤ b ∧ b ≤ 90) ↔ 65 ≤ b.toNat ∧ b.toNat ≤ 90 := Iff.rfl
  unfold byteToAsciiLowercase
  split_ifs with h h' h'
  · have hle := h'.2
    rw [UInt8.toNat_add]
    exact Nat.mod_eq_of_lt (by simp; omega)
  · exact absurd (hiff.1 h) h'
  · exact absurd (hiff.2 h') h
  · rfl

lemma byteEqIgnoreAsciiCase_iff {p c : Char} (hp : p.toNat < 128) (hc : c.toNat < 128) :
    byteEqIgnoreAsciiCase (UInt8.ofNat p.toNat) (UInt8.ofNat c.toNat) = true ↔
      p.toLower = c.toLower := by
  rw [byteEqIgnoreAsciiCase, beq_iff_eq, ← UInt8.toNat_inj, ← Char.toNat_inj,
    toNat_byteToAsciiLowercase, toNat_byteToAsciiLowercase, toNat_ofNat_toNat hp,
    toNat_ofNat_toNat hc, toNat_toLower, toNat_toLower]

/-- A byte past the ASCII codes is no character of the text. -/
lemma byteEqIgnoreAsciiCase_of_ge {b : UInt8} {c : Char} (hb : 128 ≤ b.toNat) (hc : c.toNat < 128) :
    byteEqIgnoreAsciiCase b (UInt8.ofNat c.toNat) = false := by
  rw [byteEqIgnoreAsciiCase, beq_eq_false_iff_ne, Ne, ← UInt8.toNat_inj, toNat_byteToAsciiLowercase,
    toNat_byteToAsciiLowercase, toNat_ofNat_toNat hc]
  split_ifs <;> omega

lemma toLower_ne_of_ge {p c : Char} (hp : 128 ≤ p.toNat) (hc : c.toNat < 128) :
    p.toLower ≠ c.toLower := by
  rw [Ne, ← Char.toNat_inj, toNat_toLower, toNat_toLower]
  split_ifs <;> omega

/-! ### The matcher step by step -/

lemma likeInner_nil (value : List UInt8) : likeInner [] value = value.isEmpty := by
  rw [likeInner.eq_def]

/-- `%` tries every rest of the text. -/
lemma likeInner_anything {ps value : List UInt8} :
    likeInner (37 :: ps) value = true ↔ ∃ rest, rest <:+ value ∧ likeInner ps rest = true := by
  induction value with
  | nil =>
    rw [likeInner.eq_def]
    simp
  | cons v vs ih =>
    rw [likeInner.eq_def]
    simp only [if_true, Bool.or_eq_true, ih]
    constructor
    · rintro (h | ⟨rest, hrest, h⟩)
      · exact ⟨_, List.suffix_refl _, h⟩
      · exact ⟨rest, hrest.trans (List.suffix_cons v vs), h⟩
    · rintro ⟨rest, hrest, h⟩
      rcases List.suffix_cons_iff.1 hrest with rfl | hrest
      · exact .inl h
      · exact .inr ⟨rest, hrest, h⟩

lemma likeInner_one (ps : List UInt8) (v : UInt8) (vs : List UInt8) :
    likeInner (95 :: ps) (v :: vs) = likeInner ps vs := by
  rw [likeInner.eq_def]
  simp

lemma likeInner_escaped (q : UInt8) (qs : List UInt8) (v : UInt8) (vs : List UInt8) :
    likeInner (92 :: q :: qs) (v :: vs) = (byteEqIgnoreAsciiCase q v && likeInner qs vs) := by
  rw [likeInner.eq_def]
  simp

lemma likeInner_ordinary {p : UInt8} {ps : List UInt8} (v : UInt8) (vs : List UInt8) (hany : p ≠ 37)
    (hone : p ≠ 95) (hlast : p = 92 → ps = []) :
    likeInner (p :: ps) (v :: vs) = (byteEqIgnoreAsciiCase p v && likeInner ps vs) := by
  rw [likeInner.eq_def]
  dsimp only
  rw [if_neg hany, if_neg hone]
  split
  · rename_i h
    cases h
  · exact absurd (hlast rfl) (by simp)
  · rename_i hvalue
    obtain ⟨rfl, rfl⟩ := List.cons.inj hvalue
    rfl

lemma likeInner_empty {p : UInt8} {ps : List UInt8} (hany : p ≠ 37) :
    likeInner (p :: ps) [] = false := by
  rw [likeInner.eq_def]
  dsimp only
  rw [if_neg hany]
  split_ifs <;> rfl

lemma isAscii_cons {c : Char} {s : List Char} : IsAscii (c :: s) ↔ c.toNat < 128 ∧ IsAscii s :=
  List.forall_mem_cons

/-- The rests of an ASCII text are cut between characters. -/
lemma suffix_utf8_iff {value : List Char} (hvalue : IsAscii value) {rest : List UInt8} :
    rest <:+ utf8 value ↔ ∃ text, text <:+ value ∧ rest = utf8 text := by
  induction value with
  | nil =>
    rw [show utf8 [] = [] from rfl, List.suffix_nil]
    constructor
    · rintro rfl
      exact ⟨[], List.suffix_refl _, rfl⟩
    · rintro ⟨text, htext, rfl⟩
      rw [List.suffix_nil.1 htext]
      rfl
  | cons c value ih =>
    obtain ⟨hc, hrest⟩ := isAscii_cons.1 hvalue
    rw [utf8_cons_of_ascii _ hc, List.suffix_cons_iff, ih hrest, ← utf8_cons_of_ascii _ hc]
    constructor
    · rintro (rfl | ⟨text, htext, rfl⟩)
      · exact ⟨_, List.suffix_refl _, rfl⟩
      · exact ⟨text, htext.trans (List.suffix_cons c value), rfl⟩
    · rintro ⟨text, htext, rfl⟩
      rcases List.suffix_cons_iff.1 htext with rfl | htext
      · exact .inl rfl
      · exact .inr ⟨text, htext, rfl⟩

/-- The first byte of a character is that of an ASCII character only where it is one. -/
lemma utf8_cons_cases (c : Char) (s : List Char) :
    (c.toNat < 128 ∧ utf8 (c :: s) = UInt8.ofNat c.toNat :: utf8 s) ∨
      128 ≤ c.toNat ∧ ∃ b rest, utf8 (c :: s) = b :: rest ∧ 128 ≤ b.toNat := by
  rcases Nat.lt_or_ge c.toNat 128 with h | h
  · exact .inl ⟨h, utf8_cons_of_ascii s h⟩
  · exact .inr ⟨h, exists_utf8_cons s h⟩

lemma ne_of_ge {b k : UInt8} (hb : 128 ≤ b.toNat) (hk : k.toNat < 128) : b ≠ k := by
  rintro rfl
  omega

/-- **The matcher decides the language of the pattern** on every text of ASCII characters. -/
lemma likeInner_iff {pattern value : List Char} (hvalue : IsAscii value) :
    likeInner (utf8 pattern) (utf8 value) = true ↔ Denotes pattern value := by
  induction hn : pattern.length using Nat.strongRecOn generalizing pattern value with
  | _ n ih =>
    rcases pattern with _ | ⟨p, ps⟩
    · rw [denotes_nil, show utf8 [] = [] from rfl, likeInner_nil, List.isEmpty_iff]
      constructor
      · intro h
        exact utf8_eq_nil.1 h
      · rintro rfl
        rfl
    · have hps : ps.length < n := by
        simp only [List.length_cons] at hn
        omega
      by_cases hany : p = '%'
      · subst hany
        rw [utf8_cons_of_ascii ps (by decide), show UInt8.ofNat '%'.toNat = 37 from rfl,
          likeInner_anything, denotes_anything]
        constructor
        · rintro ⟨rest, hrest, h⟩
          obtain ⟨text, ⟨skipped, rfl⟩, rfl⟩ := (suffix_utf8_iff hvalue).1 hrest
          have htext : IsAscii text := fun c hc => hvalue c (List.mem_append_right _ hc)
          exact ⟨skipped, text, rfl, (ih _ hps htext rfl).1 h⟩
        · rintro ⟨skipped, text, rfl, h⟩
          have htext : IsAscii text := fun c hc => hvalue c (List.mem_append_right _ hc)
          exact ⟨utf8 text, (suffix_utf8_iff hvalue).2 ⟨text, ⟨skipped, rfl⟩, rfl⟩,
            (ih _ hps htext rfl).2 h⟩
      · rcases value with _ | ⟨c, text⟩
        · refine iff_of_false ?_ (not_denotes_nil hany)
          rcases utf8_cons_cases p ps with ⟨hp, heq⟩ | ⟨-, b, rest, heq, hb⟩
          · have hne : UInt8.ofNat p.toNat ≠ 37 :=
              fun h => hany ((ofNat_toNat_eq_iff hp (by decide : '%'.toNat < 128)).1 h)
            rw [heq, show utf8 [] = [] from rfl, likeInner_empty hne]
            exact Bool.false_ne_true
          · rw [heq, show utf8 [] = [] from rfl, likeInner_empty (ne_of_ge hb (by decide))]
            exact Bool.false_ne_true
        · obtain ⟨hc, htext⟩ := isAscii_cons.1 hvalue
          rw [utf8_cons_of_ascii text hc]
          by_cases hone : p = '_'
          · subst hone
            rw [utf8_cons_of_ascii ps (by decide), show UInt8.ofNat '_'.toNat = 95 from rfl,
              likeInner_one, denotes_one]
            exact ih _ hps htext rfl
          · by_cases hescape : p = '\\' ∧ ps ≠ []
            · -- an escaped character, of one byte or of several
              obtain ⟨rfl, hne⟩ := hescape
              obtain ⟨q, qs, rfl⟩ := List.exists_cons_of_ne_nil hne
              have hqs : qs.length < n := by
                simp only [List.length_cons] at hn
                omega
              rw [utf8_cons_of_ascii _ (by decide), show UInt8.ofNat '\\'.toNat = 92 from rfl,
                denotes_escaped]
              rcases utf8_cons_cases q qs with ⟨hq, heq⟩ | ⟨hq, b, rest, heq, hb⟩
              · rw [heq, likeInner_escaped, Bool.and_eq_true, byteEqIgnoreAsciiCase_iff hq hc,
                  ih _ hqs htext rfl]
              · rw [heq, likeInner_escaped, byteEqIgnoreAsciiCase_of_ge hb hc]
                exact iff_of_false (by simp) fun h => toLower_ne_of_ge hq hc h.1
            · have hlast : p = '\\' → ps = [] := fun h => by_contra fun hne => hescape ⟨h, hne⟩
              rw [denotes_ordinary hany hone hlast]
              rcases utf8_cons_cases p ps with ⟨hp, heq⟩ | ⟨hp, b, rest, heq, hb⟩
              · have h37 : UInt8.ofNat p.toNat ≠ 37 :=
                  fun h => hany ((ofNat_toNat_eq_iff hp (by decide : '%'.toNat < 128)).1 h)
                have h95 : UInt8.ofNat p.toNat ≠ 95 :=
                  fun h => hone ((ofNat_toNat_eq_iff hp (by decide : '_'.toNat < 128)).1 h)
                have h92 : UInt8.ofNat p.toNat = 92 → utf8 ps = [] := by
                  intro h
                  rw [hlast ((ofNat_toNat_eq_iff hp (by decide : '\\'.toNat < 128)).1 h)]
                  rfl
                rw [heq, likeInner_ordinary _ _ h37 h95 h92, Bool.and_eq_true,
                  byteEqIgnoreAsciiCase_iff hp hc, ih _ hps htext rfl]
              · rw [heq, likeInner_ordinary _ _ (ne_of_ge hb (by decide)) (ne_of_ge hb (by decide))
                  fun h => absurd h (ne_of_ge hb (by decide)), byteEqIgnoreAsciiCase_of_ge hb hc]
                exact iff_of_false (by simp) fun h => toLower_ne_of_ge hp hc h.1

/-! ### SHOW VARIABLES LIKE -/

lemma ascii_mysqlSystemVariables : ∀ x ∈ mysqlSystemVariables, IsAscii x.1.toList := by
  have hall : (mysqlSystemVariables.all fun x => x.1.toList.all fun c => c.toNat < 128) = true := by
    decide
  intro x hx c hc
  exact of_decide_eq_true (List.all_eq_true.1 (List.all_eq_true.1 hall x hx) c hc)

/-- On the names of the variables, the matcher over characters is the one over bytes. -/
lemma mysqlLikeMatches_eq_bytes {pattern : List Char} {x : String × String}
    (hx : x ∈ mysqlSystemVariables) :
    mysqlLikeMatches pattern x.1.toList = mysqlLikeMatchesBytes pattern x.1.toList := by
  rw [Bool.eq_iff_iff, mysqlLikeMatches_iff, mysqlLikeMatchesBytes,
    likeInner_iff (ascii_mysqlSystemVariables x hx)]

variable {C : Crates}

def variableRow (C : Crates) (x : String × String) : List (SqlValue C) :=
  [.text x.1.toList, .text x.2.toList]

lemma systemVariablesResult_eq (pattern : List Char) :
    systemVariablesResult C (some pattern) =
      .query [⟨"Variable_name".toList, .text⟩, ⟨"Value".toList, .text⟩]
        ((mysqlSystemVariables.filter fun x => mysqlLikeMatchesBytes pattern x.1.toList).map
          (variableRow C)) := by
  have hfilter : (mysqlSystemVariables.filter fun x => mysqlLikeMatchesBytes pattern x.1.toList) =
      mysqlSystemVariables.filter fun x =>
        (some pattern).all fun pattern => mysqlLikeMatches pattern x.1.toList :=
    List.filter_congr fun x hx => (mysqlLikeMatches_eq_bytes hx).symm
  rw [hfilter]
  rfl

/-- **LIKE is exact**: an ASCII text matches when it is in the language of the pattern, and
`SHOW VARIABLES LIKE` answers with the variables whose names are. -/
theorem mysqlLikeMatches_exact :
    (∀ pattern value, IsAscii value →
      (mysqlLikeMatchesBytes pattern value = true ↔ Denotes pattern value)) ∧
    ∀ (C : Crates) (pattern : List Char), ∃ rows,
      systemVariablesResult C (some pattern) =
        .query [⟨"Variable_name".toList, .text⟩, ⟨"Value".toList, .text⟩] rows ∧
      ∀ row, row ∈ rows ↔
        ∃ x ∈ mysqlSystemVariables, Denotes pattern x.1.toList ∧ row = variableRow C x := by
  have hmatch (pattern value : List Char) (hvalue : IsAscii value) :
      mysqlLikeMatchesBytes pattern value = true ↔ Denotes pattern value := likeInner_iff hvalue
  refine ⟨hmatch, fun C pattern => ⟨_, systemVariablesResult_eq pattern, fun row => ?_⟩⟩
  rw [List.mem_map]
  constructor
  · rintro ⟨x, hx, rfl⟩
    obtain ⟨hmem, hlike⟩ := List.mem_filter.1 hx
    exact ⟨x, hmem, (hmatch _ _ (ascii_mysqlSystemVariables x hmem)).1 hlike, rfl⟩
  · rintro ⟨x, hmem, hdenotes, rfl⟩
    have hlike := (hmatch _ _ (ascii_mysqlSystemVariables x hmem)).2 hdenotes
    exact ⟨x, List.mem_filter.2 ⟨hmem, hlike⟩, rfl⟩

/-- The theorem at a pattern with an escape, a `%` and a `_`. -/
theorem mysqlLikeMatches_exact_version :
    mysqlLikeMatchesBytes "V%n\\__om%".toList "version_comment".toList = true := by
  have hascii : IsAscii "version_comment".toList :=
    ascii_mysqlSystemVariables ("version_comment", "rsduck MySQL protocol") (by decide)
  refine (mysqlLikeMatches_exact.1 _ _ hascii).2 ?_
  refine .itself (by decide) (by decide) (by decide) (by decide) ?_
  refine .anything "ersio".toList ?_
  refine .itself (by decide) (by decide) (by decide) (by decide) ?_
  refine .escaped (by decide) (.one 'c' ?_)
  refine .itself (by decide) (by decide) (by decide) (by decide) ?_
  refine .itself (by decide) (by decide) (by decide) (by decide) ?_
  exact .anything "ment".toList .nil

end Rsduck.Mysql.LikePattern
