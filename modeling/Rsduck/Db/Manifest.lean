import Mathlib.Data.List.Lex
import Mathlib.Data.List.Sort
import Mathlib.Data.Prod.Lex
import Mathlib.Data.String.Basic
import Rsduck.Lib.Periods

/-!
The directory of the snapshots, and the latest snapshot in it.

A snapshot is a directory named after its time, with a manifest that can be read.
-/

namespace Rsduck.Db

open Lib Lib.Calendar Lib.Text

/-! ### Manifests -/

structure SnapshotTable where
  relationId : ℤ
  schema : String
  relation : String
  file : String
  rowCount : ℤ
  deriving DecidableEq

structure SnapshotView where
  relationId : ℤ
  schema : String
  name : String
  ddl : String
  checksum : String
  deriving DecidableEq

structure SnapshotMacro where
  schema : String
  name : String
  macroType : String
  parameters : String
  ddl : String
  checksum : String
  deriving DecidableEq

structure SnapshotManifest where
  snapshotFormatVersion : ℤ
  snapshotName : List Char
  catalogEpoch : ℤ
  catalogChecksum : String
  tables : List SnapshotTable
  views : List SnapshotView
  macros : List SnapshotMacro
  deriving DecidableEq

def snapshotFormatVersion : ℤ := 3

/-- An entry of the directory, and what reading and parsing the manifest in it gives. -/
structure DirEntry where
  fileName : List Char
  isDir : Bool
  manifest : Except String SnapshotManifest
  deriving DecidableEq

def readSnapshotManifest (e : DirEntry) : Except String SnapshotManifest := do
  let manifest ← e.manifest
  if manifest.snapshotFormatVersion ≠ snapshotFormatVersion then
    throw s!"unsupported snapshot format version: {manifest.snapshotFormatVersion}"
  if manifest.snapshotName ≠ e.fileName then
    throw ("snapshot manifest name mismatch: expected=" ++ String.ofList e.fileName ++ ", actual=" ++
      String.ofList manifest.snapshotName)
  return manifest

/-- The entries of the directory that can be listed; one that is missing has none. -/
structure Directory where
  entries : List DirEntry
  nodup : (entries.map (·.fileName)).Nodup

/-! ### The latest snapshot -/

def parseSnapshotDirTimestamp (fileName snapshotPrefix : List Char) : Option DateTime := do
  let tsPart ← stripPrefix (String.ofList (snapshotPrefix ++ ['_'])) fileName
  if tsPart.contains '.' then none
  else
    (readItems [.year, .month, .day, .literal '_', .hour, .minute, .second] tsPart {}).bind
      Fields.dateTime?

/-- What the snapshots are sorted by: the time and then the name. -/
def sortKey (x : DateTime × List Char) : ℤ ×ₗ ℕ ×ₗ List Char :=
  toLex (x.1.seconds, toLex (x.1.nanosecond, x.2))

/-- The snapshots, with their times. -/
def snapshotsOf (entries : List DirEntry) (snapshotPrefix : List Char) :
    List (DateTime × List Char) :=
  (entries.filter (·.isDir)).filterMap fun e => do
    let timestamp ← parseSnapshotDirTimestamp e.fileName snapshotPrefix
    if (readSnapshotManifest e).isOk then some (timestamp, e.fileName) else none

/-- The name of the latest snapshot. -/
def findLatestSnapshotDir (base : Directory) (snapshotPrefix : List Char) : Option (List Char) :=
  let files := (snapshotsOf base.entries snapshotPrefix).insertionSort
    fun a b => sortKey b ≤ sortKey a
  files.head?.map (·.2)

section Latest

variable {d : Directory} {entries : List DirEntry} {snapshotPrefix name : List Char}
  {ts : DateTime}

/-- A directory of the prefix that can be restored from. -/
structure IsSnapshot (snapshotPrefix : List Char) (e : DirEntry) (ts : DateTime) : Prop where
  isDir : e.isDir = true
  timestamp : parseSnapshotDirTimestamp e.fileName snapshotPrefix = some ts
  manifest : (readSnapshotManifest e).isOk = true

lemma mem_snapshotsOf : (ts, name) ∈ snapshotsOf entries snapshotPrefix ↔
    ∃ e ∈ entries, IsSnapshot snapshotPrefix e ts ∧ e.fileName = name := by
  simp only [snapshotsOf, List.mem_filterMap, List.mem_filter, Option.bind_eq_bind,
    Option.bind_eq_some_iff, Option.ite_none_right_eq_some, Option.some.injEq, Prod.mk.injEq]
  constructor
  · rintro ⟨e, ⟨he, hdir⟩, t, htime, hok, rfl, rfl⟩
    exact ⟨e, he, ⟨hdir, htime, hok⟩, rfl⟩
  · rintro ⟨e, he, ⟨hdir, htime, hok⟩, rfl⟩
    exact ⟨e, ⟨he, hdir⟩, ts, htime, hok, rfl, rfl⟩

/-- Names are compared where the times are the same. -/
lemma name_eq_of_sortKey {x y : DateTime × List Char} (h : sortKey x = sortKey y) : x.2 = y.2 := by
  have hkey := congrArg (fun k => (ofLex (ofLex k).2).2) h
  exact hkey

/-- **The latest snapshot** is the one that no other comes after. -/
lemma findLatestSnapshotDir_eq_some_iff :
    findLatestSnapshotDir d snapshotPrefix = some name ↔
      ∃ ts, (ts, name) ∈ snapshotsOf d.entries snapshotPrefix ∧
        ∀ y ∈ snapshotsOf d.entries snapshotPrefix, sortKey y ≤ sortKey (ts, name) := by
  set files := snapshotsOf d.entries snapshotPrefix
  let later : DateTime × List Char → DateTime × List Char → Prop := fun a b => sortKey b ≤ sortKey a
  have htotal : Std.Total later := ⟨fun a b => le_total (sortKey b) (sortKey a)⟩
  have htrans : IsTrans _ later := ⟨fun _ _ _ h h' => le_trans h' h⟩
  have hsorted := List.pairwise_insertionSort later files
  have hmem : ∀ x, x ∈ files.insertionSort later ↔ x ∈ files := fun x => List.mem_insertionSort _
  change (files.insertionSort later).head?.map (·.2) = some name ↔ _
  rcases hfiles : files.insertionSort later with _ | ⟨x, rest⟩
  · simp only [hfiles, List.not_mem_nil, false_iff] at hmem
    simp [hmem]
  · rw [hfiles] at hsorted hmem
    have hfirst : ∀ y ∈ files, sortKey y ≤ sortKey x := by
      intro y hy
      rcases List.mem_cons.1 ((hmem y).2 hy) with rfl | hrest
      · exact le_rfl
      · exact List.rel_of_pairwise_cons hsorted hrest
    have hx : x ∈ files := (hmem x).1 List.mem_cons_self
    simp only [List.head?_cons, Option.map_some, Option.some.injEq]
    constructor
    · rintro rfl
      exact ⟨x.1, hx, hfirst⟩
    · rintro ⟨ts, hts, hlast⟩
      exact name_eq_of_sortKey (le_antisymm (hlast x hx) (hfirst _ hts))

end Latest

end Rsduck.Db
