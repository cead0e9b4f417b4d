import Rsduck.Db.Manifest
import Rsduck.Lib.Run

/-!
The periodic task: a snapshot is saved, and then the old ones are removed, by age alone.
-/

namespace Rsduck.Db

open Lib Lib.Calendar Lib.Text

/-! ### The cleanup -/

/-- What has become of a directory that was to be removed. -/
inductive Removal
  | removed
  /-- an error stopped the removal, before or after it came to the manifest -/
  | stopped (manifestLeft : Bool)
  deriving DecidableEq

/-- One call of the cleanup: its time and its hours, and how the removals end. -/
structure Cleanup where
  now : DateTime
  retainHours : UInt64
  removal : List Char → Removal

/-- `Local::now() - Duration::hours(_)`, which panics for too many hours. -/
def Cleanup.cutoff (c : Cleanup) : Option DateTime :=
  let seconds := c.retainHours.toInt64.toInt * 3600
  if seconds.natAbs ≤ 9223372036854775 then c.now.addSeconds? (-seconds) else none

def removeDirAll (removal : Removal) (e : DirEntry) : Option DirEntry :=
  match removal with
  | .removed => none
  | .stopped true => some e
  | .stopped false => some { e with manifest := .error "read snapshot manifest failed" }

section Cleanup

-- when a local time is; a time that the clock leaps over is no local time
variable (zone : DateTime → Option DateTime) (snapshotPrefix : List Char)

def cleanupEntry (c : Cleanup) (cutoff : DateTime) (e : DirEntry) : Option DirEntry :=
  if e.isDir then
    match parseSnapshotDirTimestamp e.fileName snapshotPrefix with
    | some ts =>
      if (zone ts).getD ts < cutoff then removeDirAll (c.removal e.fileName) e else some e
    | none => some e
  else some e

/-- The entries that the cleanup leaves; it panics before its loop or not at all. -/
def cleanupEntries (c : Cleanup) (entries : List DirEntry) : List DirEntry :=
  match c.cutoff with
  | some cutoff => entries.filterMap (cleanupEntry zone snapshotPrefix c cutoff)
  | none => entries

/-- The name is of a snapshot older than the cutoff. -/
def Cleanup.Expires (c : Cleanup) (name : List Char) : Prop :=
  ∃ cutoff ts, c.cutoff = some cutoff ∧
    parseSnapshotDirTimestamp name snapshotPrefix = some ts ∧ (zone ts).getD ts < cutoff

/-- The cleanup leaves the snapshot of the name to be found. -/
def Cleanup.Spares (c : Cleanup) (name : List Char) : Prop :=
  ¬ c.Expires zone snapshotPrefix name ∨ c.removal name = .stopped true

variable {zone snapshotPrefix} {c : Cleanup} {cutoff ts : DateTime} {e f : DirEntry}
  {entries : List DirEntry} {name : List Char}

lemma removeDirAll_fileName {removal : Removal} (h : removeDirAll removal e = some f) :
    f.fileName = e.fileName ∧ f.isDir = e.isDir := by
  rcases removal with _ | (_ | _)
  · cases h
  · cases h
    exact ⟨rfl, rfl⟩
  · cases h
    exact ⟨rfl, rfl⟩

variable (zone snapshotPrefix) in
/-- What the cleanup does to an entry. -/
lemma cleanupEntry_cases (hcutoff : c.cutoff = some cutoff) (e : DirEntry) :
    (e.isDir = true ∧ c.Expires zone snapshotPrefix e.fileName ∧
        cleanupEntry zone snapshotPrefix c cutoff e = removeDirAll (c.removal e.fileName) e) ∨
      (¬ (e.isDir = true ∧ c.Expires zone snapshotPrefix e.fileName) ∧
        cleanupEntry zone snapshotPrefix c cutoff e = some e) := by
  have hiff : ∀ ts, parseSnapshotDirTimestamp e.fileName snapshotPrefix = some ts →
      (c.Expires zone snapshotPrefix e.fileName ↔ (zone ts).getD ts < cutoff) := by
    intro ts hts
    simp [Cleanup.Expires, hcutoff, hts]
  unfold cleanupEntry
  by_cases hdir : e.isDir = true
  · rw [if_pos hdir]
    rcases hts : parseSnapshotDirTimestamp e.fileName snapshotPrefix with _ | ts
    · refine .inr ⟨?_, rfl⟩
      rintro ⟨-, _, _, -, hsome, -⟩
      cases hts.symm.trans hsome
    · by_cases hold : (zone ts).getD ts < cutoff
      · exact .inl ⟨hdir, (hiff ts hts).2 hold, if_pos hold⟩
      · exact .inr ⟨fun h => hold ((hiff ts hts).1 h.2), if_neg hold⟩
  · rw [if_neg hdir]
    exact .inr ⟨fun h => hdir h.1, rfl⟩

lemma mem_cleanupEntries : f ∈ cleanupEntries zone snapshotPrefix c entries ↔
    ∃ e ∈ entries, (e.isDir = true ∧ c.Expires zone snapshotPrefix e.fileName ∧
        removeDirAll (c.removal e.fileName) e = some f) ∨
      (¬ (e.isDir = true ∧ c.Expires zone snapshotPrefix e.fileName) ∧ e = f) := by
  unfold cleanupEntries
  rcases hcutoff : c.cutoff with _ | cutoff
  · have hnever : ∀ name, ¬ c.Expires zone snapshotPrefix name := by
      rintro name ⟨_, _, h, _⟩
      rw [hcutoff] at h
      cases h
    simp [hnever]
  · simp only [List.mem_filterMap]
    refine exists_congr fun e => and_congr_right fun _ => ?_
    rcases cleanupEntry_cases zone snapshotPrefix hcutoff e with ⟨hdir, hold, h⟩ | ⟨hnot, h⟩
    · simp [h, hdir, hold]
    · rw [h, Option.some.injEq]
      constructor
      · exact fun heq => .inr ⟨hnot, heq⟩
      · rintro (⟨hdir, hold, -⟩ | ⟨-, heq⟩)
        · exact absurd ⟨hdir, hold⟩ hnot
        · exact heq

/-- An entry keeps its name, so that no two share one afterwards. -/
lemma map_filterMap_sublist {α β : Type} {g : α → Option α} {key : α → β}
    (h : ∀ a b, g a = some b → key b = key a) (l : List α) :
    ((l.filterMap g).map key).Sublist (l.map key) := by
  induction l with
  | nil => exact List.Sublist.slnil
  | cons a l ih =>
    rcases hg : g a with _ | b
    · rw [List.filterMap_cons_none hg]
      exact ih.cons _
    · rw [List.filterMap_cons_some hg, List.map_cons, List.map_cons, h a b hg]
      exact ih.cons_cons _

lemma nodup_cleanupEntries (h : (entries.map (·.fileName)).Nodup) :
    ((cleanupEntries zone snapshotPrefix c entries).map (·.fileName)).Nodup := by
  unfold cleanupEntries
  rcases hcutoff : c.cutoff with _ | cutoff
  · exact h
  · refine h.sublist (map_filterMap_sublist (fun e f hf => ?_) entries)
    rcases cleanupEntry_cases zone snapshotPrefix hcutoff e with ⟨-, -, heq⟩ | ⟨-, heq⟩
    · exact (removeDirAll_fileName (heq ▸ hf)).1
    · cases heq.symm.trans hf
      rfl

variable (zone snapshotPrefix) in
def cleanupOldSnapshots (c : Cleanup) (base : Directory) : Directory :=
  ⟨cleanupEntries zone snapshotPrefix c base.entries, nodup_cleanupEntries base.nodup⟩

end Cleanup

/-! ### The periods -/

section Periods

variable (zone : DateTime → Option DateTime) (snapshotPrefix : List Char)

/-- A period of the task: what the directory is after the save, and the cleanup that follows. -/
structure Period where
  saved : Directory
  cleanup : Cleanup

/-- The save has failed: it may leave a temporary directory, but no snapshot is new or changed. -/
def SaveFails (d : Directory) (p : Period) : Prop :=
  ∀ e, (parseSnapshotDirTimestamp e.fileName snapshotPrefix).isSome →
    (e ∈ p.saved.entries ↔ e ∈ d.entries)

def retention : System Directory Period :=
  ⟨fun _ p => some (cleanupOldSnapshots zone snapshotPrefix p.cleanup p.saved)⟩

variable {zone snapshotPrefix} {c : Cleanup} {d d' : Directory} {e : DirEntry} {ts : DateTime}
  {name : List Char}

/-- The snapshots that the cleanup leaves are those it spares, as they were. -/
lemma mem_cleanup_iff (hmanifest : (readSnapshotManifest e).isOk = true) :
    e ∈ (cleanupOldSnapshots zone snapshotPrefix c d).entries ↔ e ∈ d.entries ∧
      (e.isDir = true → c.Spares zone snapshotPrefix e.fileName) := by
  change e ∈ cleanupEntries zone snapshotPrefix c d.entries ↔ _
  rw [mem_cleanupEntries]
  constructor
  · rintro ⟨e₀, he₀, ⟨hdir, hold, hremove⟩ | ⟨hnot, rfl⟩⟩
    · have hname := removeDirAll_fileName hremove
      rcases hremoval : c.removal e₀.fileName with _ | (_ | _)
      · rw [hremoval] at hremove
        cases hremove
      · rw [hremoval] at hremove
        cases hremove
        cases hmanifest
      · rw [hremoval] at hremove
        cases hremove
        exact ⟨he₀, fun _ => .inr hremoval⟩
    · exact ⟨he₀, fun hdir => .inl fun hold => hnot ⟨hdir, hold⟩⟩
  · rintro ⟨he, hspares⟩
    by_cases hold : e.isDir = true ∧ c.Expires zone snapshotPrefix e.fileName
    · rcases hspares hold.1 with hnot | hstopped
      · exact absurd hold.2 hnot
      · exact ⟨e, he, .inl ⟨hold.1, hold.2, by rw [hstopped]; rfl⟩⟩
    · exact ⟨e, he, .inr ⟨hold, rfl⟩⟩

lemma mem_snapshotsOf_cleanup :
    (ts, name) ∈ snapshotsOf (cleanupOldSnapshots zone snapshotPrefix c d).entries snapshotPrefix ↔
      (ts, name) ∈ snapshotsOf d.entries snapshotPrefix ∧ c.Spares zone snapshotPrefix name := by
  simp only [mem_snapshotsOf]
  constructor
  · rintro ⟨e, he, hsnap, rfl⟩
    obtain ⟨he, hspares⟩ := (mem_cleanup_iff hsnap.manifest).1 he
    exact ⟨⟨e, he, hsnap, rfl⟩, hspares hsnap.isDir⟩
  · rintro ⟨⟨e, he, hsnap, rfl⟩, hspares⟩
    exact ⟨e, (mem_cleanup_iff hsnap.manifest).2 ⟨he, fun _ => hspares⟩, hsnap, rfl⟩

/-- **The cleanup leaves the latest snapshot** as the latest, if it spares it. -/
lemma findLatest_cleanup_iff (h : findLatestSnapshotDir d snapshotPrefix = some name) :
    findLatestSnapshotDir (cleanupOldSnapshots zone snapshotPrefix c d) snapshotPrefix = some name ↔
      c.Spares zone snapshotPrefix name := by
  obtain ⟨ts, hts, hlast⟩ := findLatestSnapshotDir_eq_some_iff.1 h
  rw [findLatestSnapshotDir_eq_some_iff]
  constructor
  · rintro ⟨t, ht, -⟩
    exact (mem_snapshotsOf_cleanup.1 ht).2
  · intro hspares
    exact ⟨ts, mem_snapshotsOf_cleanup.2 ⟨hts, hspares⟩, fun y hy =>
      hlast y (mem_snapshotsOf_cleanup.1 hy).1⟩

lemma snapshotsOf_of_saveFails {p : Period} (h : SaveFails snapshotPrefix d p)
    (x : DateTime × List Char) :
    x ∈ snapshotsOf p.saved.entries snapshotPrefix ↔ x ∈ snapshotsOf d.entries snapshotPrefix := by
  obtain ⟨ts, name⟩ := x
  simp only [mem_snapshotsOf]
  refine exists_congr fun e => ?_
  constructor
  · rintro ⟨he, hsnap, rfl⟩
    exact ⟨(h e (by rw [hsnap.timestamp]; rfl)).1 he, hsnap, rfl⟩
  · rintro ⟨he, hsnap, rfl⟩
    exact ⟨(h e (by rw [hsnap.timestamp]; rfl)).2 he, hsnap, rfl⟩

/-- No snapshot comes from a period whose save fails; one that is still there has been spared. -/
lemma snapshot_of_run {d t : Directory} {periods : List Period}
    (hfail : (retention zone snapshotPrefix).Along (SaveFails snapshotPrefix) d periods)
    (hrun : (retention zone snapshotPrefix).run d periods = some t)
    (h : (ts, name) ∈ snapshotsOf t.entries snapshotPrefix) :
    (ts, name) ∈ snapshotsOf d.entries snapshotPrefix ∧
      ∀ p ∈ periods, p.cleanup.Spares zone snapshotPrefix name := by
  induction periods generalizing d with
  | nil =>
    cases hrun
    exact ⟨h, by simp⟩
  | cons p periods ih =>
    obtain ⟨u, hu, hrun⟩ := (System.run_cons_eq_some _).1 hrun
    obtain ⟨hmem, hspares⟩ := ih (hfail.2 u hu) hrun
    obtain rfl := Option.some.inj hu
    obtain ⟨hsaved, hspared⟩ := mem_snapshotsOf_cleanup.1 hmem
    exact ⟨(snapshotsOf_of_saveFails hfail.1 _).1 hsaved, List.forall_mem_cons.2 ⟨hspared, hspares⟩⟩

lemma findLatest_of_saveFails {p : Period} (hfail : SaveFails snapshotPrefix d p)
    (h : findLatestSnapshotDir d snapshotPrefix = some name) :
    findLatestSnapshotDir p.saved snapshotPrefix = some name := by
  obtain ⟨ts, hts, hlast⟩ := findLatestSnapshotDir_eq_some_iff.1 h
  exact findLatestSnapshotDir_eq_some_iff.2 ⟨ts, (snapshotsOf_of_saveFails hfail _).2 hts,
    fun y hy => hlast y ((snapshotsOf_of_saveFails hfail _).1 hy)⟩

/-- While no save succeeds, the latest snapshot stays the latest until a cleanup takes it. -/
lemma findLatest_run_iff {d t : Directory} {periods : List Period}
    (hfail : (retention zone snapshotPrefix).Along (SaveFails snapshotPrefix) d periods)
    (hrun : (retention zone snapshotPrefix).run d periods = some t)
    (h : findLatestSnapshotDir d snapshotPrefix = some name) :
    findLatestSnapshotDir t snapshotPrefix = some name ↔
      ∀ p ∈ periods, p.cleanup.Spares zone snapshotPrefix name := by
  constructor
  · intro hfind
    obtain ⟨ts, hts, -⟩ := findLatestSnapshotDir_eq_some_iff.1 hfind
    exact (snapshot_of_run hfail hrun hts).2
  · intro hspares
    induction periods generalizing d with
    | nil =>
      cases hrun
      exact h
    | cons p periods ih =>
      obtain ⟨u, hu, hrun⟩ := (System.run_cons_eq_some _).1 hrun
      obtain ⟨hspared, hspares⟩ := List.forall_mem_cons.1 hspares
      refine ih (hfail.2 u hu) hrun ?_ hspares
      obtain rfl := Option.some.inj hu
      exact (findLatest_cleanup_iff (findLatest_of_saveFails hfail.1 h)).2 hspared

/-- **Retention is by age**: only directories of the prefix that are older than the cutoff are
touched, and the latest snapshot stays the latest unless it is one of them. -/
theorem retention_by_age (zone : DateTime → Option DateTime) (snapshotPrefix : List Char) :
    (∀ (c : Cleanup) (d : Directory) (e : DirEntry),
      (e ∈ d.entries → ¬ (e.isDir = true ∧ c.Expires zone snapshotPrefix e.fileName) →
        e ∈ (cleanupOldSnapshots zone snapshotPrefix c d).entries) ∧
      (e ∈ (cleanupOldSnapshots zone snapshotPrefix c d).entries → e ∈ d.entries ∨
        e.isDir = true ∧ c.Expires zone snapshotPrefix e.fileName ∧
          e.fileName ∈ d.entries.map (·.fileName))) ∧
    (∀ (c : Cleanup) (d : Directory) (name : List Char),
      findLatestSnapshotDir d snapshotPrefix = some name →
        (findLatestSnapshotDir (cleanupOldSnapshots zone snapshotPrefix c d) snapshotPrefix =
            some name ↔ c.Spares zone snapshotPrefix name)) ∧
    ∀ (d t : Directory) (periods : List Period) (name : List Char),
      (retention zone snapshotPrefix).Along (SaveFails snapshotPrefix) d periods →
      (retention zone snapshotPrefix).run d periods = some t →
      findLatestSnapshotDir d snapshotPrefix = some name →
        (findLatestSnapshotDir t snapshotPrefix = some name ↔
          ∀ p ∈ periods, p.cleanup.Spares zone snapshotPrefix name) := by
  refine ⟨fun c d e => ⟨fun he hnot => ?_, fun he => ?_⟩, fun c d name => findLatest_cleanup_iff,
    fun d t periods name => findLatest_run_iff⟩
  · exact mem_cleanupEntries.2 ⟨e, he, .inr ⟨hnot, rfl⟩⟩
  · obtain ⟨e₀, he₀, ⟨hdir, hold, hremove⟩ | ⟨-, rfl⟩⟩ := mem_cleanupEntries.1 he
    · obtain ⟨hname, hdir'⟩ := removeDirAll_fileName hremove
      exact .inr ⟨hdir'.trans hdir, hname ▸ hold, hname ▸ List.mem_map_of_mem he₀⟩
    · exact .inl he₀

end Periods

/-! ### An outage -/

/-- The last snapshot that could be saved, of 2026-07-01. -/
def julySnapshot : DirEntry :=
  ⟨"rsduck_20260701_000000".toList, true,
    .ok ⟨3, "rsduck_20260701_000000".toList, 1, "c0ffee", [], [], []⟩⟩

def julyDirectory : Directory := ⟨[julySnapshot], by simp⟩

/-- Midnight, nine days later. -/
def julyCleanup (retainHours : UInt64) : Cleanup :=
  ⟨(Date.of 2026 7 10 (Eq.refl true)).midnight, retainHours, fun _ => .removed⟩

/-- It is removed, though it is the only one that there is. -/
theorem last_snapshot_removed :
    findLatestSnapshotDir julyDirectory "rsduck".toList = some julySnapshot.fileName ∧
      findLatestSnapshotDir (cleanupOldSnapshots some "rsduck".toList (julyCleanup 24)
        julyDirectory) "rsduck".toList = none := by
  decide

/-- With 300 hours it is still there after two periods without a save. -/
theorem last_snapshot_spared :
    ∃ t, (retention some "rsduck".toList).run julyDirectory
        [⟨julyDirectory, julyCleanup 300⟩, ⟨julyDirectory, julyCleanup 300⟩] = some t ∧
      findLatestSnapshotDir t "rsduck".toList = some julySnapshot.fileName := by
  have hentries : (cleanupOldSnapshots some "rsduck".toList (julyCleanup 300)
      julyDirectory).entries = julyDirectory.entries := by decide
  have hyoung : ∀ cutoff ∈ (julyCleanup 300).cutoff,
      ∀ ts ∈ parseSnapshotDirTimestamp julySnapshot.fileName "rsduck".toList,
        ¬ ts < cutoff := by decide
  have hspares : (julyCleanup 300).Spares some "rsduck".toList julySnapshot.fileName :=
    .inl fun ⟨cutoff, ts, hcutoff, hts, hlt⟩ => hyoung cutoff hcutoff ts hts hlt
  refine ⟨_, rfl, ((retention_by_age some "rsduck".toList).2.2 julyDirectory _
    [⟨julyDirectory, julyCleanup 300⟩, ⟨julyDirectory, julyCleanup 300⟩] _ ?_ rfl
    (by decide)).2 ?_⟩
  · refine ⟨fun e _ => Iff.rfl, fun t ht => ⟨fun e _ => ?_, fun _ _ => trivial⟩⟩
    obtain rfl := Option.some.inj ht
    rw [hentries]
  · intro p hp
    rcases List.mem_pair.1 hp with rfl | rfl <;> exact hspares

end Rsduck.Db
