import Mathlib.Data.List.Lex
import Mathlib.Data.List.Induction
import Mathlib.Data.Char
import Rsduck.Lib.DecimalText

/-!
JSON documents and their texts. The numbers of a document are of any type: what writes a text has
its own, and what reads one finds decimals.
-/

namespace Rsduck.Lib.JsonText

open DecimalText FloatFormat

inductive Document (ν : Type)
  | null
  | bool (value : Bool)
  | number (value : ν)
  | string (value : List Char)
  | array (values : List (Document ν))
  | object (fields : List (List Char × Document ν))

variable {ν μ : Type}

namespace Document

mutual

/-- The document with other numbers. -/
def map (f : ν → μ) : Document ν → Document μ
  | .null => .null
  | .bool b => .bool b
  | .number n => .number (f n)
  | .string s => .string s
  | .array ds => .array (mapAll f ds)
  | .object fs => .object (mapFields f fs)

def mapAll (f : ν → μ) : List (Document ν) → List (Document μ)
  | [] => []
  | d :: ds => d.map f :: mapAll f ds

def mapFields (f : ν → μ) : List (List Char × Document ν) → List (List Char × Document μ)
  | [] => []
  | (name, d) :: fs => (name, d.map f) :: mapFields f fs

end

lemma lookup_mapFields (f : ν → μ) (fs : List (List Char × Document ν)) (name : List Char) :
    (mapFields f fs).lookup name = (fs.lookup name).map (map f) := by
  induction fs with
  | nil => rfl
  | cons field fs ih =>
    rw [mapFields, List.lookup_cons, List.lookup_cons, ih]
    cases name == field.1 <;> rfl

end Document

/-! ### Objects -/

section

variable {β : Type}

/-- The fields with this one among them, in the order of their names. -/
def insertField (name : List Char) (value : β) : List (List Char × β) → List (List Char × β)
  | [] => [(name, value)]
  | field :: fs =>
    if name = field.1 then (name, value) :: fs
    else if name < field.1 then (name, value) :: field :: fs
    else field :: insertField name value fs

/-- An object of these fields: of those with one name, the last. -/
def collect (fields : List (List Char × β)) : List (List Char × β) :=
  fields.foldl (fun found field => insertField field.1 field.2 found) []

lemma lookup_cons_of_ne {name other : List Char} (h : other ≠ name) (value : β)
    (fs : List (List Char × β)) : ((name, value) :: fs).lookup other = fs.lookup other := by
  rw [List.lookup_cons, beq_eq_false_iff_ne.2 h]

lemma lookup_insertField_self (name : List Char) (value : β) (fs : List (List Char × β)) :
    (insertField name value fs).lookup name = some value := by
  induction fs with
  | nil => exact List.lookup_cons_self
  | cons field fs ih =>
    rw [insertField]
    split_ifs with heq hlt
    · exact List.lookup_cons_self
    · exact List.lookup_cons_self
    · rw [lookup_cons_of_ne heq, ih]

lemma lookup_insertField_of_ne {name other : List Char} (h : other ≠ name) (value : β)
    (fs : List (List Char × β)) : (insertField name value fs).lookup other = fs.lookup other := by
  induction fs with
  | nil => exact lookup_cons_of_ne h value []
  | cons field fs ih =>
    rw [insertField]
    split_ifs with heq hlt
    · rw [lookup_cons_of_ne h, lookup_cons_of_ne (heq ▸ h)]
    · exact lookup_cons_of_ne h value _
    · rw [List.lookup_cons, List.lookup_cons, ih]

lemma mem_names_insertField {name other : List Char} {value : β} {fs : List (List Char × β)} :
    other ∈ (insertField name value fs).map Prod.fst ↔ other = name ∨ other ∈ fs.map Prod.fst := by
  induction fs with
  | nil => simp [insertField]
  | cons field fs ih =>
    rw [insertField]
    split_ifs with heq hlt
    · simp [heq]
    · simp
    · rw [List.map_cons, List.mem_cons, ih, List.map_cons, List.mem_cons]
      exact or_left_comm

lemma pairwise_insertField (name : List Char) (value : β) {fs : List (List Char × β)}
    (h : (fs.map Prod.fst).Pairwise (· < ·)) :
    ((insertField name value fs).map Prod.fst).Pairwise (· < ·) := by
  induction fs with
  | nil => exact List.pairwise_singleton _ _
  | cons field fs ih =>
    have h' := List.pairwise_cons.1 h
    rw [insertField]
    split_ifs with heq hlt
    · subst heq
      exact h
    · refine List.pairwise_cons.2 ⟨fun n hn => ?_, h⟩
      rcases List.mem_cons.1 hn with rfl | hn
      · exact hlt
      · exact hlt.trans (h'.1 n hn)
    · refine List.pairwise_cons.2 ⟨fun n hn => ?_, ih h'.2⟩
      rcases mem_names_insertField.1 hn with rfl | hn
      · exact lt_of_le_of_ne (not_lt.1 hlt) (Ne.symm heq)
      · exact h'.1 n hn

lemma collect_append_singleton (fs : List (List Char × β)) (field : List Char × β) :
    collect (fs ++ [field]) = insertField field.1 field.2 (collect fs) :=
  List.foldl_concat ..

lemma mem_names_collect {fs : List (List Char × β)} {name : List Char} :
    name ∈ (collect fs).map Prod.fst ↔ name ∈ fs.map Prod.fst := by
  induction fs using List.reverseRecOn with
  | nil => rfl
  | append_singleton fs field ih =>
    rw [collect_append_singleton, mem_names_insertField, ih, List.map_append, List.mem_append,
      or_comm]
    simp

lemma nodup_collect (fs : List (List Char × β)) : ((collect fs).map Prod.fst).Nodup := by
  have hpairwise : ((collect fs).map Prod.fst).Pairwise (· < ·) := by
    induction fs using List.reverseRecOn with
    | nil => exact List.Pairwise.nil
    | append_singleton fs field ih =>
      rw [collect_append_singleton]
      exact pairwise_insertField _ _ ih
  exact hpairwise.imp ne_of_lt

/-- An object keeps all fields exactly when no two have one name. -/
lemma perm_names_collect {fs : List (List Char × β)} :
    ((collect fs).map Prod.fst).Perm (fs.map Prod.fst) ↔ (fs.map Prod.fst).Nodup := by
  constructor
  · exact fun h => h.nodup_iff.1 (nodup_collect fs)
  · exact fun h => (List.perm_ext_iff_of_nodup (nodup_collect fs) h).2 fun _ => mem_names_collect

lemma lookup_collect {fs : List (List Char × β)} (h : (fs.map Prod.fst).Nodup)
    {field : List Char × β} (hfield : field ∈ fs) : (collect fs).lookup field.1 = some field.2 := by
  induction fs using List.reverseRecOn with
  | nil => cases hfield
  | append_singleton fs last ih =>
    rw [List.map_append, List.nodup_append] at h
    obtain ⟨h, -, hdisjoint⟩ := h
    rw [collect_append_singleton]
    rcases List.mem_append.1 hfield with hfield | hfield
    · rw [lookup_insertField_of_ne, ih h hfield]
      exact hdisjoint _ (List.mem_map_of_mem hfield) _ (List.mem_singleton_self _)
    · rw [List.mem_singleton.1 hfield, lookup_insertField_self]

end

/-! ### Reading -/

def hexDigit? (c : Char) : Option ℕ :=
  if c.isDigit then some (c.toNat - 48)
  else if 'a' ≤ c ∧ c ≤ 'f' then some (c.toNat - 87)
  else if 'A' ≤ c ∧ c ≤ 'F' then some (c.toNat - 55)
  else none

/-- The character of a code with four hexadecimal digits; half of a pair is none. -/
def unicode? (a b c d : Char) : Option Char := do
  let code := (((← hexDigit? a) * 16 + (← hexDigit? b)) * 16 + (← hexDigit? c)) * 16 + (← hexDigit? d)
  if code.isValidChar then return Char.ofNat code else none

/-- The character after a backslash that is no code. -/
def escaped? : Char → Option Char
  | '"' => some '"'
  | '\\' => some '\\'
  | '/' => some '/'
  | 'b' => some '\x08'
  | 'f' => some '\x0c'
  | 'n' => some '\n'
  | 'r' => some '\r'
  | 't' => some '\t'
  | _ => none

/-- The rest of a string, and what follows its quote. -/
def readString : List Char → Option (List Char × List Char)
  | [] => none
  | '"' :: s => some ([], s)
  | '\\' :: 'u' :: a :: b :: c :: d :: s => do
    let first ← unicode? a b c d
    let (t, s) ← readString s
    return (first :: t, s)
  | '\\' :: c :: s => do
    let first ← escaped? c
    let (t, s) ← readString s
    return (first :: t, s)
  | c :: s => do
    let (t, s) ← readString s
    return (c :: t, s)

def isNumberChar (c : Char) : Bool := c.isDigit || "+-.eE".toList.contains c

/-- A decimal, or one with an exponent. -/
def readJsonNumber (s : List Char) : Option ℚ :=
  match s.splitOnP (fun c => c == 'e' || c == 'E') with
  | [mantissa] => readDecimal mantissa
  | [mantissa, exponent] => do
    let exponent ← readInt (if exponent.head? = some '+' then exponent.tail else exponent)
    return (← readDecimal mantissa) * 10 ^ exponent
  | _ => none

/-- The values after a first one, each after a comma, up to the bracket. -/
def readMore {α : Type} (read : List Char → Option (α × List Char)) (close : Char) :
    ℕ → List Char → Option (List α × List Char)
  | fuel + 1, c :: s =>
    if c = close then some ([], s)
    else if c = ',' then do
      let (value, s) ← read s
      let (values, s) ← readMore read close fuel s
      return (value :: values, s)
    else none
  | _, _ => none

/-- The values up to the bracket. -/
def readUpTo {α : Type} (read : List Char → Option (α × List Char)) (close : Char) (fuel : ℕ)
    (s : List Char) : Option (List α × List Char) :=
  if s.head? = some close then some ([], s.tail)
  else do
    let (value, s) ← read s
    let (values, s) ← readMore read close fuel s
    return (value :: values, s)

def readField {α : Type} (read : List Char → Option (α × List Char)) :
    List Char → Option ((List Char × α) × List Char)
  | '"' :: s => do
    let (name, s) ← readString s
    match s with
    | ':' :: s =>
      let (value, s) ← read s
      return ((name, value), s)
    | _ => none
  | _ => none

/-- A document without white space, and what follows it. -/
def readDocument : ℕ → List Char → Option (Document ℚ × List Char)
  | 0, _ => none
  | fuel + 1, s =>
    match s with
    | 'n' :: 'u' :: 'l' :: 'l' :: s => some (.null, s)
    | 't' :: 'r' :: 'u' :: 'e' :: s => some (.bool true, s)
    | 'f' :: 'a' :: 'l' :: 's' :: 'e' :: s => some (.bool false, s)
    | '"' :: s => (readString s).map fun (t, s) => (.string t, s)
    | '[' :: s => (readUpTo (readDocument fuel) ']' fuel s).map fun (ds, s) => (.array ds, s)
    | '{' :: s =>
      (readUpTo (readField (readDocument fuel)) '}' fuel s).map fun (fs, s) => (.object fs, s)
    | s => (readJsonNumber (s.takeWhile isNumberChar)).map fun q =>
        (.number q, s.dropWhile isNumberChar)

/-- The document that a text is. -/
def readJson (s : List Char) : Option (Document ℚ) :=
  match readDocument s.length s with
  | some (d, []) => some d
  | _ => none

/-! ### Writing -/

/-- What stands between the quotes of a string, and the second of them. -/
def quotedTail (s : List Char) : List Char :=
  s.flatMap (fun c => if c = '"' ∨ c = '\\' then ['\\', c] else [c]) ++ ['"']

def quoted (s : List Char) : List Char := '"' :: quotedTail s

mutual

/-- The text of a document whose numbers have these texts. -/
def write (number : ν → List Char) : Document ν → List Char
  | .null => "null".toList
  | .bool b => (if b then "true" else "false").toList
  | .number n => number n
  | .string s => quoted s
  | .array [] => "[]".toList
  | .array (d :: ds) => '[' :: write number d ++ writeMore number ds
  | .object [] => "{}".toList
  | .object ((name, d) :: fs) => '{' :: quoted name ++ ':' :: write number d ++ writeFields number fs

def writeMore (number : ν → List Char) : List (Document ν) → List Char
  | [] => [']']
  | d :: ds => ',' :: write number d ++ writeMore number ds

def writeFields (number : ν → List Char) : List (List Char × Document ν) → List Char
  | [] => ['}']
  | (name, d) :: fs => ',' :: quoted name ++ ':' :: write number d ++ writeFields number fs

end

/-! ### What is written is read -/

lemma readString_quotedTail (t rest : List Char) :
    readString (quotedTail t ++ rest) = some (t, rest) := by
  induction t with
  | nil => rfl
  | cons c t ih =>
    have hcons : quotedTail (c :: t) =
        (if c = '"' ∨ c = '\\' then ['\\', c] else [c]) ++ quotedTail t := by
      rw [quotedTail, List.flatMap_cons, List.append_assoc]
      rfl
    rw [hcons, List.append_assoc]
    by_cases hc : c = '"' ∨ c = '\\'
    · rw [if_pos hc]
      rcases hc with rfl | rfl
      · exact congrArg (Option.bind · fun found => some ('"' :: found.1, found.2)) ih
      · exact congrArg (Option.bind · fun found => some ('\\' :: found.1, found.2)) ih
    · rw [if_neg hc, List.singleton_append, readString.eq_def]
      rw [not_or] at hc
      split
      all_goals simp_all

/-- The texts of the numbers are read as these values, and no other character is in them. -/
structure Writes (number : ν → List Char) (value : ν → ℚ) : Prop where
  reads : ∀ n, readJsonNumber (number n) = some (value n)
  chars : ∀ n, ∀ c ∈ number n, isNumberChar c = true

/-- What follows a number does not go on with it. -/
def Ends (rest : List Char) : Prop := ∀ c ∈ rest.head?, isNumberChar c = false

variable {number : ν → List Char} {value : ν → ℚ}

lemma exists_number (h : Writes number value) (n : ν) :
    ∃ c s, number n = c :: s ∧ isNumberChar c = true := by
  rcases hn : number n with _ | ⟨c, s⟩
  · have hread := h.reads n
    rw [hn] at hread
    cases hread
  · exact ⟨c, s, rfl, h.chars n c (by rw [hn]; exact List.mem_cons_self)⟩

lemma readDocument_of_number {c : Char} (hc : isNumberChar c = true) (fuel : ℕ)
    (s : List Char) :
    readDocument (fuel + 1) (c :: s) =
      (readJsonNumber ((c :: s).takeWhile isNumberChar)).map fun q =>
        (.number q, (c :: s).dropWhile isNumberChar) := by
  rw [readDocument]
  all_goals
    intro s heq
    rw [(List.cons.inj heq).1] at hc
    revert hc
    decide

lemma readDocument_number (h : Writes number value) (n : ν) (fuel : ℕ) {rest : List Char}
    (hrest : Ends rest) :
    readDocument (fuel + 1) (number n ++ rest) = some (.number (value n), rest) := by
  obtain ⟨c, s, hhead, hc⟩ := exists_number h n
  have htake : rest.takeWhile isNumberChar = [] ∧ rest.dropWhile isNumberChar = rest := by
    rcases rest with _ | ⟨r, rest⟩
    · exact ⟨rfl, rfl⟩
    · have hr := hrest r rfl
      exact ⟨by simp [hr], by simp [hr]⟩
  have hread := readDocument_of_number hc fuel (s ++ rest)
  rw [← List.cons_append, ← hhead, List.takeWhile_append_of_pos (h.chars n), htake.1,
    List.append_nil, List.dropWhile_append_of_pos (h.chars n), htake.2, h.reads] at hread
  exact hread

/-- A text starts like no bracket that closes. -/
lemma exists_write (h : Writes number value) (d : Document ν) :
    ∃ c s, write number d = c :: s ∧ c ≠ ']' := by
  match d with
  | .null => exact ⟨_, _, rfl, by decide⟩
  | .bool b => cases b <;> exact ⟨_, _, rfl, by decide⟩
  | .number n =>
    obtain ⟨c, s, hhead, hc⟩ := exists_number h n
    refine ⟨c, s, hhead, ?_⟩
    rintro rfl
    revert hc
    decide
  | .string s => exact ⟨_, _, rfl, by decide⟩
  | .array [] => exact ⟨_, _, rfl, by decide⟩
  | .array (d :: ds) => exact ⟨_, _, rfl, by decide⟩
  | .object [] => exact ⟨_, _, rfl, by decide⟩
  | .object ((name, d) :: fs) => exact ⟨_, _, rfl, by decide⟩

lemma ends_writeMore (ds : List (Document ν)) (rest : List Char) :
    Ends (writeMore number ds ++ rest) := by
  cases ds <;> rintro c ⟨⟩ <;> decide

lemma ends_writeFields (fs : List (List Char × Document ν)) (rest : List Char) :
    Ends (writeFields number fs ++ rest) := by
  cases fs <;> rintro c ⟨⟩ <;> decide

lemma readUpTo_of_first {α : Type} {read : List Char → Option (α × List Char)} {close : Char}
    {fuel : ℕ} {s s' rest : List Char} {first : α} {more : List α} (hhead : s.head? ≠ some close)
    (hfirst : read s = some (first, s')) (hmore : readMore read close fuel s' = some (more, rest)) :
    readUpTo read close fuel s = some (first :: more, rest) := by
  rw [readUpTo, if_neg hhead]
  simp [hfirst, hmore]

lemma readMore_of_next {α : Type} {read : List Char → Option (α × List Char)} {close : Char}
    {fuel : ℕ} {s s' rest : List Char} {next : α} {more : List α} (hclose : close ≠ ',')
    (hnext : read s = some (next, s')) (hmore : readMore read close fuel s' = some (more, rest)) :
    readMore read close (fuel + 1) (',' :: s) = some (next :: more, rest) := by
  rw [readMore, if_neg hclose.symm, if_pos rfl]
  simp [hnext, hmore]

lemma readField_of_value {α : Type} {read : List Char → Option (α × List Char)}
    {s rest : List Char} {found : α} (name : List Char) (h : read s = some (found, rest)) :
    readField read (quoted name ++ ':' :: s) = some ((name, found), rest) := by
  change (readString (quotedTail name ++ ':' :: s)).bind _ = _
  rw [readString_quotedTail]
  simp [h]

mutual

/-- A document is read where it stands, with as much fuel as its text is long. -/
theorem readDocument_write (h : Writes number value) (d : Document ν) (fuel : ℕ)
    (rest : List Char) (hfuel : (write number d).length ≤ fuel) (hrest : Ends rest) :
    readDocument fuel (write number d ++ rest) = some (d.map value, rest) := by
  obtain ⟨fuel, rfl⟩ : ∃ k, fuel = k + 1 := by
    obtain ⟨c, s, hwrite, -⟩ := exists_write h d
    rw [hwrite, List.length_cons] at hfuel
    exact ⟨fuel - 1, by omega⟩
  match d with
  | .null => rfl
  | .bool true => rfl
  | .bool false => rfl
  | .number n => exact readDocument_number h n fuel hrest
  | .string s =>
    exact congrArg (Option.map fun found => (Document.string found.1, found.2))
      (readString_quotedTail s rest)
  | .array [] => rfl
  | .array (d :: ds) =>
    obtain ⟨c, s, hwrite, hc⟩ := exists_write h d
    have hlen : (write number d).length + (writeMore number ds).length ≤ fuel := by
      simp only [write, List.length_cons, List.length_append] at hfuel
      omega
    have hfirst := readDocument_write h d fuel (writeMore number ds ++ rest) (by omega)
      (ends_writeMore ds rest)
    have hmore := readMore_writeMore h ds fuel fuel rest (by omega) (by omega)
    have hup := readUpTo_of_first (by rw [hwrite]; simpa using hc) hfirst hmore
    rw [← List.append_assoc] at hup
    exact congrArg (Option.map fun found => (Document.array found.1, found.2)) hup
  | .object [] => rfl
  | .object ((name, d) :: fs) =>
    have hlen : (write number d).length + (writeFields number fs).length ≤ fuel := by
      simp only [write, List.length_cons, List.length_append] at hfuel
      omega
    have hfirst := readField_of_value name (readDocument_write h d fuel
      (writeFields number fs ++ rest) (by omega) (ends_writeFields fs rest))
    have hmore := readMore_writeFields h fs fuel fuel rest (by omega) (by omega)
    have hup := readUpTo_of_first (by simp [quoted]) hfirst hmore
    have htext : write number (.object ((name, d) :: fs)) ++ rest =
        '{' :: (quoted name ++ ':' :: (write number d ++ (writeFields number fs ++ rest))) := by
      simp [write]
    rw [htext]
    exact congrArg (Option.map fun found => (Document.object found.1, found.2)) hup

theorem readMore_writeMore (h : Writes number value) (ds : List (Document ν)) (k fuel : ℕ)
    (rest : List Char) (hk : (writeMore number ds).length ≤ k)
    (hfuel : (writeMore number ds).length ≤ fuel) :
    readMore (readDocument k) ']' fuel (writeMore number ds ++ rest) =
      some (Document.mapAll value ds, rest) := by
  match ds, fuel with
  | [], fuel + 1 => rfl
  | [], 0 | d :: ds, 0 => simp [writeMore] at hfuel
  | d :: ds, fuel + 1 =>
    simp only [writeMore, List.length_cons, List.length_append] at hk hfuel
    have hnext := readDocument_write h d k (writeMore number ds ++ rest) (by omega)
      (ends_writeMore ds rest)
    have hmore := readMore_writeMore h ds k fuel rest (by omega) (by omega)
    rw [writeMore, List.append_assoc, List.cons_append]
    exact readMore_of_next (by decide) hnext hmore

theorem readMore_writeFields (h : Writes number value) (fs : List (List Char × Document ν))
    (k fuel : ℕ) (rest : List Char) (hk : (writeFields number fs).length ≤ k)
    (hfuel : (writeFields number fs).length ≤ fuel) :
    readMore (readField (readDocument k)) '}' fuel (writeFields number fs ++ rest) =
      some (Document.mapFields value fs, rest) := by
  match fs, fuel with
  | [], fuel + 1 => rfl
  | [], 0 | (name, d) :: fs, 0 => simp [writeFields] at hfuel
  | (name, d) :: fs, fuel + 1 =>
    simp only [writeFields, List.length_cons, List.length_append] at hk hfuel
    have hnext := readField_of_value name (readDocument_write h d k
      (writeFields number fs ++ rest) (by omega) (ends_writeFields fs rest))
    have hmore := readMore_writeFields h fs k fuel rest (by omega) (by omega)
    have htext : writeFields number ((name, d) :: fs) ++ rest =
        ',' :: (quoted name ++ ':' :: (write number d ++ (writeFields number fs ++ rest))) := by
      simp [writeFields]
    rw [htext]
    exact readMore_of_next (by decide) hnext hmore

end

/-- **The text of a document is that document.** -/
theorem readJson_write (h : Writes number value) (d : Document ν) :
    readJson (write number d) = some (d.map value) := by
  have hread := readDocument_write h d _ [] le_rfl (by rintro c ⟨⟩)
  rw [List.append_nil] at hread
  rw [readJson, hread]

end Rsduck.Lib.JsonText
