import Rsduck.Mysql.Command

/-!
The values a statement is described with.

A placeholder's value goes by the type it is cast to. The type is looked for after the first
place where the text has the placeholder's number, in the case of letters the text has.
-/

namespace Rsduck.Mysql

open Lib Lib.Text Sql Db

/-! ### The cast of a placeholder -/

/-- The type named by a cast the text starts with. -/
def castName (rest : List Char) : Option (List Char) := do
  let rest ← stripPrefix "::" (skipMysqlSpace rest)
  let name := (skipMysqlSpace rest).takeWhile isTypeNameChar
  if name = [] then none else return name

lemma castTypeAfterPlaceholder_eq (sql : List Char) (paramNumber : ℕ) :
    castTypeAfterPlaceholder sql paramNumber =
      (afterFirst ('$' :: Nat.toDigits 10 paramNumber) sql).bind castName := rfl

/-- What follows the placeholder outside quotes and comments. -/
def afterPlaceholder (placeholder : List Char) : List Token → Option (List Char)
  | [] => none
  | t :: ts =>
    if t.kind = .param ∧ t.text = placeholder then some (scanner.render ts)
    else afterPlaceholder placeholder ts

def ownRest (sql : List Char) (paramNumber : ℕ) : Option (List Char) :=
  afterPlaceholder ('$' :: Nat.toDigits 10 paramNumber) (lex sql)

/-- The type the placeholder itself is cast to, as the text has it. -/
def ownCast (sql : List Char) (paramNumber : ℕ) : List Char :=
  ((ownRest sql paramNumber).bind castName).getD []

/-- The value of a type name in any case of letters. -/
def dummyOfType (name : List Char) : SqlParam := dummyParam (String.ofList (toAsciiLowercase name))

/-- Each value is the one of the placeholder's own type. -/
def DescribesOwn (sql : List Char) (paramCount : ℕ) : Prop :=
  dummyParamsForDescribe sql paramCount =
    (List.range paramCount).map fun i => dummyOfType (ownCast sql (i + 1))

/-! ### Names of types -/

/-- The kinds of types with a value of their own. -/
inductive TypeKind
  | bool | integer | float | bytes | date | time | timestamp | uuid
  deriving DecidableEq

namespace TypeKind

def all : List TypeKind := [bool, integer, float, bytes, date, time, timestamp, uuid]

def names : TypeKind → List String
  | bool => ["bool", "boolean"]
  | integer => ["tinyint", "smallint", "int2", "int4", "int8", "integer", "int", "bigint"]
  | float => ["float", "real", "double", "float4", "float8", "numeric", "decimal"]
  | bytes => ["blob", "bytea"]
  | date => ["date"]
  | time => ["time"]
  | timestamp => ["timestamp", "datetime", "timestamptz"]
  | uuid => ["uuid"]

end TypeKind

/-- The kind that a name, spelled just so, is a name of. -/
def kindOf (name : List Char) : Option TypeKind :=
  TypeKind.all.find? fun k => String.ofList name ∈ k.names

/-- The value of a kind. -/
def dummyOfKind : Option TypeKind → SqlParam
  | none => .text []
  | some .bool => .bool false
  | some .integer => .integer 0
  | some .float => .float 0
  | some .bytes => .bytes []
  | some .date => .text "1970-01-01".toList
  | some .time => .text "00:00:00".toList
  | some .timestamp => .text "1970-01-01 00:00:00".toList
  | some .uuid => .text "00000000-0000-0000-0000-000000000000".toList

lemma dummyOfKind_injective : Function.Injective dummyOfKind := by
  intro k l h
  rcases k with _ | k <;> rcases l with _ | l
  · rfl
  · cases l <;> cases h
  · cases k <;> cases h
  · cases k <;> cases l <;> first
      | rfl
      | exact absurd h (by decide)

lemma dummyParam_eq (name : List Char) : dummyParam (String.ofList name) = dummyOfKind (kindOf name) := by
  unfold dummyParam kindOf TypeKind.all
  simp only [List.find?_cons, List.find?_nil, TypeKind.names, List.mem_singleton]
  split_ifs <;> simp_all [dummyOfKind]

/-! ### When the values are the placeholders' own -/

/-- The text has the mark, and nowhere before. -/
def FirstPlace (mark text before rest : List Char) : Prop :=
  text = before ++ mark ++ rest ∧ ∀ b r, text = b ++ mark ++ r → before.length ≤ b.length

/-- **The cast that is found** at the first place where the text has the number of the placeholder,
spelled as it is there, is of the kind of the placeholder's own cast in any case of letters. -/
def CastFound (sql : List Char) (paramNumber : ℕ) : Prop :=
  ∀ before rest, FirstPlace ('$' :: Nat.toDigits 10 paramNumber) sql before rest →
    kindOf ((castName rest).getD []) = kindOf (toAsciiLowercase (ownCast sql paramNumber))

/-- The text is looked through from its start. -/
lemma afterFirst_eq_some {mark text rest : List Char} (hmark : mark ≠ []) :
    afterFirst mark text = some rest ↔ ∃ before, FirstPlace mark text before rest := by
  induction text with
  | nil =>
    simp only [afterFirst, reduceCtorEq, false_iff, not_exists]
    rintro before ⟨h, -⟩
    simp [hmark] at h
  | cons c r ih =>
    rw [afterFirst]
    split_ifs with hprefix
    · obtain ⟨after, hafter⟩ := List.isPrefixOf_iff_prefix.1 hprefix
      have hdrop : (c :: r).drop mark.length = after := by
        rw [← hafter, List.drop_left]
      rw [hdrop, Option.some_inj]
      constructor
      · rintro rfl
        exact ⟨[], by simpa using hafter.symm, fun _ _ _ => Nat.zero_le _⟩
      · rintro ⟨before, hthere, hfirst⟩
        have hnil : before = [] :=
          List.length_eq_zero_iff.1 (Nat.le_zero.1 (hfirst [] after (by simpa using hafter.symm)))
        rw [hnil, List.nil_append, ← hafter] at hthere
        exact List.append_cancel_left hthere
    · rw [ih]
      constructor
      · rintro ⟨before, hthere, hfirst⟩
        refine ⟨c :: before, by rw [hthere]; rfl, fun b r' hb => ?_⟩
        rcases b with _ | ⟨d, b⟩
        · exact absurd (List.isPrefixOf_iff_prefix.2 ⟨r', by simpa using hb.symm⟩) hprefix
        · exact Nat.succ_le_succ (hfirst b r' (List.cons.inj hb).2)
      · rintro ⟨_ | ⟨d, before⟩, hthere, hfirst⟩
        · exact absurd (List.isPrefixOf_iff_prefix.2 ⟨rest, by simpa using hthere.symm⟩) hprefix
        · obtain ⟨rfl, htail⟩ : c = d ∧ r = before ++ mark ++ rest := List.cons.inj hthere
          refine ⟨before, htail, fun b r' hb => ?_⟩
          exact Nat.le_of_succ_le_succ (hfirst (c :: b) r' (congrArg (c :: ·) hb))

lemma afterPlaceholder_eq_some {mark rest : List Char} {ts : List Token}
    (h : afterPlaceholder mark ts = some rest) :
    ∃ before, scanner.render ts = before ++ mark ++ rest := by
  induction ts with
  | nil => cases h
  | cons t ts ih =>
    rw [afterPlaceholder] at h
    rw [Lexer.render_cons]
    split_ifs at h with hown
    · cases h
      exact ⟨[], by rw [← hown.2]; rfl⟩
    · obtain ⟨before, hrest⟩ := ih h
      refine ⟨t.text ++ before, ?_⟩
      rw [hrest, List.append_assoc, List.append_assoc, List.append_assoc]
      rfl

lemma afterFirst_ne_none {mark : List Char} (hmark : mark ≠ []) (before rest : List Char) :
    afterFirst mark (before ++ mark ++ rest) ≠ none := by
  induction before with
  | nil =>
    obtain ⟨c, r, rfl⟩ := List.exists_cons_of_ne_nil hmark
    rw [List.nil_append, List.cons_append, afterFirst, if_pos]
    · exact Option.some_ne_none _
    · exact List.isPrefixOf_iff_prefix.2 (List.prefix_append (c :: r) rest)
  | cons d before ih =>
    rw [List.cons_append, List.cons_append, afterFirst]
    split_ifs
    · exact Option.some_ne_none _
    · exact ih

/-- A text without the number has no placeholder of that number. -/
lemma ownRest_of_afterFirst {sql : List Char} {paramNumber : ℕ}
    (h : afterFirst ('$' :: Nat.toDigits 10 paramNumber) sql = none) :
    ownRest sql paramNumber = none := by
  rcases hown : ownRest sql paramNumber with _ | rest
  · rfl
  · obtain ⟨before, hthere⟩ := afterPlaceholder_eq_some hown
    have hsql : sql = before ++ ('$' :: Nat.toDigits 10 paramNumber) ++ rest :=
      (scanner.render_lex sql).symm.trans hthere
    rw [hsql] at h
    exact absurd h (afterFirst_ne_none (List.cons_ne_nil _ _) before rest)

lemma dummy_eq_iff (sql : List Char) (paramNumber : ℕ) :
    dummyParam (String.ofList ((castTypeAfterPlaceholder sql paramNumber).getD [])) =
      dummyOfType (ownCast sql paramNumber) ↔ CastFound sql paramNumber := by
  have hmark : '$' :: Nat.toDigits 10 paramNumber ≠ [] := List.cons_ne_nil _ _
  rw [dummyOfType, dummyParam_eq, dummyParam_eq, dummyOfKind_injective.eq_iff,
    castTypeAfterPlaceholder_eq]
  unfold CastFound
  rcases hfirst : afterFirst ('$' :: Nat.toDigits 10 paramNumber) sql with _ | rest
  · have hown : ownCast sql paramNumber = [] := by
      unfold ownCast
      rw [ownRest_of_afterFirst hfirst]
      rfl
    rw [hown]
    refine iff_of_true rfl fun before rest hplace => ?_
    rw [(afterFirst_eq_some hmark).2 ⟨before, hplace⟩] at hfirst
    cases hfirst
  · constructor
    · intro h before rest' hplace
      obtain rfl : rest = rest' :=
        Option.some.inj (hfirst.symm.trans ((afterFirst_eq_some hmark).2 ⟨before, hplace⟩))
      exact h
    · intro h
      obtain ⟨before, hplace⟩ := (afterFirst_eq_some hmark).1 hfirst
      exact h before rest hplace

lemma ownCast_eq {sql name : List Char} {ts : List Token} {paramNumber : ℕ} (rest : List Char)
    (hlex : lex sql = ts)
    (hrest : afterPlaceholder ('$' :: Nat.toDigits 10 paramNumber) ts = some rest)
    (hname : castName rest = some name) : ownCast sql paramNumber = name := by
  rw [ownCast, ownRest, hlex, hrest, Option.bind_some, hname]
  rfl

lemma not_describesOwn {sql : List Char} (own : List Char) (name lower : String)
    (hname : (castTypeAfterPlaceholder sql 1).getD [] = name.toList)
    (hown : ownCast sql 1 = own) (hlower : toAsciiLowercase own = lower.toList)
    (hne : dummyParam name ≠ dummyParam lower) : ¬ DescribesOwn sql 1 := by
  intro h
  have hhead : dummyParam (String.ofList ((castTypeAfterPlaceholder sql 1).getD [])) =
      dummyOfType (ownCast sql 1) := (List.cons.inj h).1
  rw [dummyOfType, hname, hown, hlower, String.ofList_toList, String.ofList_toList] at hhead
  exact hne hhead

end Rsduck.Mysql
