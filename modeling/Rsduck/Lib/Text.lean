import Mathlib.Data.List.DropRight
import Mathlib.Tactic.Common

/-!
Operations on text: white space, trimming, ASCII case, words.
-/

namespace Rsduck.Lib.Text

/-- White space, as Unicode has it. -/
def isWhitespace (c : Char) : Bool :=
  let n := c.toNat
  (9 ≤ n && n ≤ 13) || n == 0x20 || n == 0x85 || n == 0xA0 || n == 0x1680 ||
    (0x2000 ≤ n && n ≤ 0x200A) || n == 0x2028 || n == 0x2029 || n == 0x202F || n == 0x205F ||
    n == 0x3000

def trimStart (s : List Char) : List Char := s.dropWhile isWhitespace

def trimEnd (s : List Char) : List Char := s.rdropWhile isWhitespace

def trim (s : List Char) : List Char := trimEnd (trimStart s)

/-- Nothing is trimmed where no white space stands at the ends. -/
lemma trim_of_ends {s : List Char} (hhead : ∀ c, s.head? = some c → isWhitespace c = false)
    (hlast : ∀ c, s.getLast? = some c → isWhitespace c = false) : trim s = s := by
  have hstart : trimStart s = s := by
    rcases s with _ | ⟨c, s⟩
    · rfl
    · have hc := hhead c rfl
      rw [trimStart, List.dropWhile_cons_of_neg (by simp [hc])]
  rw [trim, hstart, trimEnd, List.rdropWhile_eq_self_iff]
  intro hne
  have := hlast (s.getLast hne) (List.getLast?_eq_getLast_of_ne_nil hne)
  simp [this]

/-- What is no white space keeps something from being trimmed. -/
lemma trim_ne_nil {s : List Char} {c : Char} (h : c ∈ s) (hc : isWhitespace c = false) :
    trim s ≠ [] := by
  intro hnil
  have hall := List.rdropWhile_eq_nil_iff.1 hnil
  rcases hstart : trimStart s with _ | ⟨d, r⟩
  · have hspace := List.dropWhile_eq_nil_iff.1 hstart c h
    rw [hc] at hspace
    cases hspace
  · have hd := hall d (by rw [hstart]; exact List.mem_cons_self)
    have hhead := List.head?_dropWhile_not isWhitespace s
    rw [show s.dropWhile isWhitespace = d :: r from hstart, List.head?_cons] at hhead
    simp [hd] at hhead

lemma mem_of_mem_trim {s : List Char} {c : Char} (h : c ∈ trim s) : c ∈ s :=
  (List.dropWhile_suffix _).subset ((List.rdropWhile_prefix _ _).subset h)

/-- A string without the white space at its ends. -/
def trimString (s : String) : String := String.ofList (trim s.toList)

def toAsciiLowercase (s : List Char) : List Char := s.map Char.toLower

def lowerString (s : String) : String := String.ofList (toAsciiLowercase s.toList)

lemma lowerString_lowerString (s : String) : lowerString (lowerString s) = lowerString s := by
  simp only [lowerString, toAsciiLowercase, String.toList_ofList, List.map_map]
  refine congrArg String.ofList (List.map_congr_left fun c _ => ?_)
  show c.toLower.toLower = c.toLower
  unfold Char.toLower
  split_ifs with h h'
  · -- no lower-case letter is an upper-case one
    simp only [ge_iff_le, UInt32.le_iff_toNat_le, UInt32.toNat_add] at h h'
    simp at h h'
    omega
  all_goals rfl

/-- No visible ASCII character is white space. -/
lemma isWhitespace_of_visible {c : Char} (h : 33 ≤ c.toNat ∧ c.toNat ≤ 126) :
    isWhitespace c = false := by
  simp only [isWhitespace, Bool.or_eq_false_iff, Bool.and_eq_false_iff, decide_eq_false_iff_not,
    beq_eq_false_iff_ne]
  omega

lemma toNat_toLower (c : Char) :
    c.toLower.toNat = if 65 ≤ c.toNat ∧ c.toNat ≤ 90 then c.toNat + 32 else c.toNat := by
  have hiff : (c.val ≥ 'A'.val ∧ c.val ≤ 'Z'.val) ↔ 65 ≤ c.toNat ∧ c.toNat ≤ 90 := Iff.rfl
  unfold Char.toLower
  split_ifs with h h' h'
  · have hle : c.val.toNat ≤ 90 := h'.2
    change (c.val + 32).toNat = c.val.toNat + 32
    rw [UInt32.toNat_add, show (32 : UInt32).toNat = 32 from rfl]
    omega
  · exact absurd (hiff.1 h) h'
  · exact absurd (hiff.2 h') h
  · rfl

lemma isWhitespace_toLower (c : Char) : isWhitespace c.toLower = isWhitespace c := by
  have hlower := toNat_toLower c
  by_cases hu : 65 ≤ c.toNat ∧ c.toNat ≤ 90
  · rw [if_pos hu] at hlower
    rw [isWhitespace_of_visible (by omega), isWhitespace_of_visible (by omega)]
  · rw [if_neg hu] at hlower
    rw [Char.toNat_inj.1 hlower]

/-- Only a letter is another character's lower case. -/
lemma eq_of_toLower_eq {c d : Char} (hd : d.toNat < 97 ∨ 122 < d.toNat) (h : c.toLower = d) :
    c = d := by
  have hlower := toNat_toLower c
  rw [h] at hlower
  apply Char.toNat_inj.1
  split_ifs at hlower <;> omega

lemma eq_of_toAsciiLowercase_eq {s t : List Char} (ht : ∀ d ∈ t, d.toNat < 97 ∨ 122 < d.toNat)
    (h : toAsciiLowercase s = t) : s = t := by
  induction s generalizing t with
  | nil => exact h
  | cons c s ih =>
    subst h
    have hhead := eq_of_toLower_eq (ht c.toLower List.mem_cons_self) rfl
    have htail := ih (fun d hd => ht d (List.mem_cons_of_mem _ hd)) rfl
    rw [toAsciiLowercase, List.map_cons, ← hhead]
    exact congrArg (c :: ·) htail

def eqIgnoreAsciiCase (s t : List Char) : Bool := toAsciiLowercase s == toAsciiLowercase t

def eqIgnoreCase (a b : String) : Bool := lowerString a == lowerString b

lemma eqIgnoreCase_iff {a b : String} : eqIgnoreCase a b = true ↔ lowerString a = lowerString b :=
  beq_iff_eq

/-- White space, as ASCII has it. -/
def isAsciiWhitespace (c : Char) : Bool := c == ' ' || c == '\t' || c == '\n' || c == '\x0c' || c == '\r'

/-- Without the characters `c` at the end. -/
def trimEndMatches (c : Char) (s : List Char) : List Char := s.rdropWhile (· == c)

def trimMatches (p : Char → Bool) (s : List Char) : List Char := (s.dropWhile p).rdropWhile p

/-- The pieces between white space. -/
def words (s : List Char) : List (List Char) := (s.splitOnP isWhitespace).filter (· != [])

/-- The words with one blank between them. -/
def joinWords (ws : List (List Char)) : List Char := List.intercalate [' '] ws

/-- `s` starts with the text. -/
def startsWith (text : String) (s : List Char) : Bool := text.toList.isPrefixOf s

/-- The text occurs somewhere in `s`. -/
def contains (text : String) (s : List Char) : Bool := s.tails.any (startsWith text)

/-- What is left when `s` starts with the text. -/
def stripPrefix (text : String) (s : List Char) : Option (List Char) :=
  if startsWith text s then some (s.drop text.length) else none

lemma stripPrefix_append (text : String) (s : List Char) :
    stripPrefix text (text.toList ++ s) = some s := by
  unfold stripPrefix startsWith
  rw [if_pos (List.isPrefixOf_iff_prefix.2 (List.prefix_append _ s)), ← String.length_toList,
    List.drop_left]

end Rsduck.Lib.Text
