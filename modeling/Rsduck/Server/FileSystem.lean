import Rsduck.Lib.Text
import Rsduck.Lib.Wire

/-!
Files and their names, as a program sees them.

A name is any bytes without a slash. A location is what a path leads to once every link and every
`..` in it is resolved.
-/

namespace Rsduck.Server

open Lib Lib.Text Lib.Wire

/-! ### Names and paths -/

def slash : UInt8 := 47

structure FileName where
  bytes : List UInt8
  ne_nil : bytes ≠ []
  noSlash : slash ∉ bytes
  deriving DecidableEq

/-- The names on the way from the root directory. -/
abbrev FilePath := List FileName

/-- The bytes of an absolute path. -/
def FilePath.bytes (path : FilePath) : List UInt8 :=
  if path = [] then [slash] else path.flatMap fun name => slash :: name.bytes

/-- A path that is relative to another one. -/
def joinPath (path : FilePath) (relative : List UInt8) : List UInt8 :=
  if path = [] then slash :: relative else path.bytes ++ slash :: relative

/-- A name cut before its last dot; a dot at the front does not count. -/
def splitAtDot (name : List UInt8) : List UInt8 × Option (List UInt8) :=
  let tail := (name.reverse.takeWhile (· != 46)).reverse
  let front := name.take (name.length - tail.length - 1)
  if name = [46, 46] ∨ tail.length = name.length ∨ front = [] then (name, none)
  else (front, some tail)

def fileStem (path : FilePath) : Option (List UInt8) :=
  path.getLast?.map fun name => (splitAtDot name.bytes).1

def extension (path : FilePath) : Option (List UInt8) :=
  path.getLast?.bind fun name => (splitAtDot name.bytes).2

/-! ### Bytes as text -/

def replacementCharacter : Char := '\uFFFD'

/-- How many bytes of a broken character are replaced together. -/
def brokenLength : List UInt8 → ℕ
  | b :: c :: r =>
    let second : Bool :=
      if b = 0xE0 then 0xA0 ≤ c && c ≤ 0xBF
      else if b = 0xED then 0x80 ≤ c && c ≤ 0x9F
      else if b = 0xF0 then 0x90 ≤ c && c ≤ 0xBF
      else if b = 0xF4 then 0x80 ≤ c && c ≤ 0x8F
      else (0xE1 ≤ b && b ≤ 0xEF || 0xF1 ≤ b && b ≤ 0xF3) && 0x80 ≤ c && c ≤ 0xBF
    if second then
      match r with
      | d :: _ => if 0xF0 ≤ b && 0x80 ≤ d && d ≤ 0xBF then 3 else 2
      | [] => 2
    else 1
  | _ => 1

/-- The character at the front. -/
def frontChar (bytes : List UInt8) : Option (Char × ℕ) :=
  [1, 2, 3, 4].findSome? fun n =>
    match ofUtf8 (bytes.take n) with
    | some [c] => some (c, n)
    | _ => none

def lossyFrom : ℕ → List UInt8 → List Char
  | 0, _ => []
  | _, [] => []
  | fuel + 1, bytes =>
    match frontChar bytes with
    | some (c, n) => c :: lossyFrom fuel (bytes.drop n)
    | none => replacementCharacter :: lossyFrom fuel (bytes.drop (brokenLength bytes))

/-- The text of the bytes, with a replacement where they are none. -/
def toStringLossy (bytes : List UInt8) : List Char :=
  match ofUtf8 bytes with
  | some s => s
  | none => lossyFrom bytes.length bytes

@[simp] lemma toStringLossy_utf8 (s : List Char) : toStringLossy (utf8 s) = s := by
  unfold toStringLossy
  rw [ofUtf8_utf8]

/-! ### The files of a machine -/

inductive FileKind
  | file
  | directory
  | other
  deriving DecidableEq

/-- What the machine answers about the bytes of a path; links are followed. -/
structure FileSystem where
  canonicalize : List UInt8 → Except String FilePath
  metadata : List UInt8 → Except String FileKind
  readDir : List UInt8 → Except String (List (Except String FileName))
  /-- A location leads to itself. -/
  canonicalize_canonical : ∀ {p c}, canonicalize p = .ok c → canonicalize c.bytes = .ok c
  metadata_canonical : ∀ {p c}, canonicalize p = .ok c → metadata c.bytes = metadata p

def FileSystem.isFile (F : FileSystem) (path : FilePath) : Bool :=
  match F.metadata path.bytes with
  | .ok kind => kind == .file
  | .error _ => false

lemma FileSystem.isFile_iff {F : FileSystem} {path : FilePath} :
    F.isFile path = true ↔ F.metadata path.bytes = .ok .file := by
  unfold isFile
  rcases F.metadata path.bytes with e | kind
  · simp
  · simp

lemma FileSystem.isFile_canonical {F : FileSystem} {path c : FilePath}
    (h : F.canonicalize path.bytes = .ok c) : F.isFile c = F.isFile path := by
  unfold isFile
  rw [F.metadata_canonical h]

end Rsduck.Server
