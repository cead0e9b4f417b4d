import Mathlib.Data.List.Dedup
import Rsduck.Lib.Attempt
import Rsduck.Server.ParquetImport

/-!
Which files an import reads.

The files of a request lie below the root. What the database opens for a file is all that its path,
taken for a pattern, stands for.
-/

namespace Rsduck.Server

open Lib Lib.Eff Lib.Text Lib.Wire Db Catalog Catalog.ColumnTypes

/-! ### Paths as bytes -/

section Paths

variable {a b : List UInt8} {u v : List UInt8}

/-- A name ends where the next slash, or nothing, follows. -/
lemma eq_of_append_slash (ha : slash ∉ a) (hb : slash ∉ b) (hu : ∀ x, u.head? = some x → x = slash)
    (hv : ∀ x, v.head? = some x → x = slash) (h : a ++ u = b ++ v) : a = b ∧ u = v := by
  have htake : ∀ {c w : List UInt8}, slash ∉ c → (∀ x, w.head? = some x → x = slash) →
      (c ++ w).takeWhile (· != slash) = c := by
    intro c w hc hw
    have hall : ∀ x ∈ c, (x != slash) = true := by
      intro x hx
      rw [bne_iff_ne]
      rintro rfl
      exact hc hx
    rw [List.takeWhile_append_of_pos hall]
    rcases w with _ | ⟨x, w⟩
    · simp
    · obtain rfl := hw x rfl
      simp
  have hab : a = b := by
    rw [← htake ha hu, h, htake hb hv]
  subst hab
  exact ⟨rfl, List.append_cancel_left h⟩

lemma FilePath.mem_bytes {path : FilePath} {name : FileName} {b : UInt8} (hname : name ∈ path)
    (hb : b ∈ name.bytes) : b ∈ path.bytes := by
  unfold FilePath.bytes
  rw [if_neg (List.ne_nil_of_mem hname)]
  exact List.mem_flatMap.2 ⟨name, hname, List.mem_cons_of_mem _ hb⟩

/-- **Different paths are different bytes.** -/
lemma FilePath.bytes_injective : Function.Injective FilePath.bytes := by
  have hhead : ∀ (p : FilePath) (x : UInt8),
      (p.flatMap fun name => slash :: name.bytes).head? = some x → x = slash := by
    intro p x hx
    cases p with
    | nil => cases hx
    | cons n p => exact (Option.some.inj hx).symm
  have hflat : ∀ p q : FilePath, (p.flatMap fun name => slash :: name.bytes) =
      (q.flatMap fun name => slash :: name.bytes) → p = q := by
    intro p
    induction p with
    | nil =>
      intro q h
      cases q with
      | nil => rfl
      | cons m q => simp at h
    | cons n p ih =>
      intro q h
      cases q with
      | nil => simp at h
      | cons m q =>
        simp only [List.flatMap_cons, List.cons_append, List.cons.injEq, true_and] at h
        obtain ⟨hname, hrest⟩ := eq_of_append_slash n.noSlash m.noSlash (hhead p) (hhead q) h
        have hnm : n = m := by
          cases n
          cases m
          cases hname
          rfl
        rw [hnm, ih q hrest]
  -- The root directory alone is a slash with nothing after it.
  have hroot : ∀ p : FilePath, p ≠ [] →
      (p.flatMap fun name => slash :: name.bytes) ≠ [slash] := by
    intro p hp h
    obtain ⟨n, p, rfl⟩ := List.exists_cons_of_ne_nil hp
    simp only [List.flatMap_cons, List.cons_append, List.cons.injEq, true_and,
      List.append_eq_nil_iff] at h
    exact n.ne_nil h.1
  intro p q h
  unfold FilePath.bytes at h
  split_ifs at h with hp hq hq
  · rw [hp, hq]
  · exact absurd h.symm (hroot q hq)
  · exact absurd h (hroot p hp)
  · exact hflat p q h

lemma FilePath.head?_bytes (p : FilePath) : p.bytes.head? = some slash := by
  unfold FilePath.bytes
  cases p with
  | nil => rfl
  | cons n p => rfl

/-- A path in UTF-8 is handed over as it is. -/
lemma duckdbPath_of_utf8 {path : FilePath} {text : List Char} (h : utf8 text = path.bytes) :
    duckdbPath path = text := by
  unfold duckdbPath
  rw [← h, toStringLossy_utf8]
  have hnone : stripPrefix "\\\\?\\" text = none := by
    unfold stripPrefix
    rw [if_neg]
    intro hprefix
    obtain ⟨r, rfl⟩ := List.isPrefixOf_iff_prefix.1 hprefix
    have hhead := FilePath.head?_bytes path
    rw [← h] at hhead
    cases hhead
  simp only [hnone, Option.getD_none]

end Paths

/-! ### The files of a request -/

section Resolve

variable {F : FileSystem} {parquetImportRoot : List UInt8} {req : ParquetImportReq}

/-- The files that a source text leads to: the one it names, or those of the directory it names. -/
inductive Selected (F : FileSystem) (parquetImportRoot : List UInt8) (source : List Char) :
    FilePath → Prop
  | file {root f} (hroot : F.canonicalize parquetImportRoot = .ok root)
      (hpath : F.canonicalize (joinPath root (utf8 (trim source))) = .ok f)
      (hfile : F.isFile f = true) : Selected F parquetImportRoot source f
  | entry {root directory entries name f} (hroot : F.canonicalize parquetImportRoot = .ok root)
      (hpath : F.canonicalize (joinPath root (utf8 (trim source))) = .ok directory)
      (hdirectory : F.metadata directory.bytes = .ok .directory)
      (hentries : F.readDir directory.bytes = .ok entries) (hname : .ok name ∈ entries)
      (hfile : F.isFile (directory ++ [name]) = true)
      (hparquet : isParquetFile (directory ++ [name]) = true)
      (hf : F.canonicalize (FilePath.bytes (directory ++ [name])) = .ok f) :
      Selected F parquetImportRoot source f

/-- A file as it was resolved. -/
structure Resolved (F : FileSystem) (root : FilePath) (p : FilePath × ParquetImportSource) : Prop where
  canonical : F.canonicalize p.1.bytes = .ok p.1
  inside : root <+: p.1
  isFile : F.isFile p.1 = true
  path : p.2.path.toList = duckdbPath p.1

lemma mapError_eq_ok {α : Type} {f : String → String} {x : Except String α} {a : α} :
    x.mapError f = .ok a ↔ x = .ok a := by
  cases x <;> simp [Except.mapError]

lemma parquetSource_eq_ok {root path : FilePath} {table : Option (List Char)}
    {p : FilePath × ParquetImportSource} (h : parquetSource F root table path = .ok p) :
    F.canonicalize path.bytes = .ok p.1 ∧ root <+: p.1 ∧ p.2.path.toList = duckdbPath p.1 := by
  unfold parquetSource at h
  obtain ⟨canonical, hcanonical, h⟩ := Attempt.bind_eq_ok.1 h
  rw [mapError_eq_ok] at hcanonical
  split_ifs at h with hinside
  simp only [Bool.not_eq_true, Bool.not_eq_false', List.isPrefixOf_iff_prefix] at hinside
  rcases table with _ | table
  · dsimp only at h
    rcases hstem : (fileStem canonical).bind ofUtf8 with _ | stem
    · rw [hstem] at h
      cases h
    · rw [hstem] at h
      cases h
      exact ⟨hcanonical, hinside, String.toList_ofList⟩
  · cases h
    exact ⟨hcanonical, hinside, String.toList_ofList⟩

/-- The names that a directory lists, all of them readable. -/
lemma mem_names {α : Type} {entries : List (Except String α)} {names : List α}
    (h : entries.mapM id = .ok names) (name : α) : name ∈ names ↔ .ok name ∈ entries := by
  rw [(mem_of_mapM h).1]
  simp

/-- What is found at the source, and where it leads to, is what the source selects. -/
lemma selected_iff {root sourcePath : FilePath} {table : Option (List Char)}
    {found : List FilePath} (hroot : F.canonicalize parquetImportRoot = .ok root)
    (hpath : F.canonicalize (joinPath root (utf8 (trim req.source))) = .ok sourcePath)
    (hfound : sourceFiles F sourcePath table = .ok found) (f : FilePath) :
    Selected F parquetImportRoot req.source f ↔
      ∃ path ∈ found, F.isFile path = true ∧ F.canonicalize path.bytes = .ok f := by
  have hself : F.canonicalize sourcePath.bytes = .ok sourcePath := F.canonicalize_canonical hpath
  unfold sourceFiles at hfound
  obtain ⟨kind, hkind, hfound⟩ := Attempt.bind_eq_ok.1 hfound
  rw [mapError_eq_ok] at hkind
  cases kind with
  | file =>
    dsimp only at hfound
    split_ifs at hfound
    cases hfound
    constructor
    · rintro (⟨hroot', hpath', hfile⟩ | ⟨hroot', hpath', hdirectory, -, -, -, -, -⟩)
      · obtain rfl := Except.ok.inj (hroot.symm.trans hroot')
        obtain rfl := Except.ok.inj (hpath.symm.trans hpath')
        exact ⟨_, List.mem_singleton_self _, hfile, hself⟩
      · obtain rfl := Except.ok.inj (hroot.symm.trans hroot')
        obtain rfl := Except.ok.inj (hpath.symm.trans hpath')
        rw [hkind] at hdirectory
        cases hdirectory
    · rintro ⟨path, hmem, hfile, hf⟩
      obtain rfl := List.mem_singleton.1 hmem
      obtain rfl := Except.ok.inj (hself.symm.trans hf)
      exact .file hroot hpath hfile
  | directory =>
    dsimp only at hfound
    split_ifs at hfound
    unfold directoryFiles at hfound
    obtain ⟨entries, hentries, hfound⟩ := Attempt.bind_eq_ok.1 hfound
    obtain ⟨names, hnames, hfound⟩ := Attempt.bind_eq_ok.1 hfound
    rw [mapError_eq_ok] at hentries hnames
    cases hfound
    constructor
    · rintro (⟨hroot', hpath', hfile⟩ | ⟨hroot', hpath', -, hentries', hname, hfile, hparquet, hf⟩)
      · obtain rfl := Except.ok.inj (hroot.symm.trans hroot')
        obtain rfl := Except.ok.inj (hpath.symm.trans hpath')
        rw [FileSystem.isFile_iff, hkind] at hfile
        cases hfile
      · obtain rfl := Except.ok.inj (hroot.symm.trans hroot')
        obtain rfl := Except.ok.inj (hpath.symm.trans hpath')
        obtain rfl := Except.ok.inj (hentries.symm.trans hentries')
        refine ⟨_, List.mem_filter.2 ⟨List.mem_map_of_mem ((mem_names hnames _).2 hname), ?_⟩, hfile, hf⟩
        rw [hfile, hparquet]
        rfl
    · rintro ⟨path, hmem, hfile, hf⟩
      obtain ⟨hmem, hboth⟩ := List.mem_filter.1 hmem
      obtain ⟨name, hname, rfl⟩ := List.mem_map.1 hmem
      rw [Bool.and_eq_true] at hboth
      exact .entry hroot hpath hkind hentries ((mem_names hnames name).1 hname) hfile hboth.2 hf
  | other => cases hfound

/-- All that is found at a source are files. -/
lemma isFile_of_sourceFiles {sourcePath : FilePath} {table : Option (List Char)}
    {found : List FilePath} (h : sourceFiles F sourcePath table = .ok found) :
    ∀ path ∈ found, F.isFile path = true := by
  unfold sourceFiles at h
  obtain ⟨kind, hkind, h⟩ := Attempt.bind_eq_ok.1 h
  rw [mapError_eq_ok] at hkind
  cases kind with
  | file =>
    dsimp only at h
    split_ifs at h
    cases h
    intro path hpath
    obtain rfl := List.mem_singleton.1 hpath
    exact FileSystem.isFile_iff.2 hkind
  | directory =>
    dsimp only at h
    split_ifs at h
    unfold directoryFiles at h
    obtain ⟨entries, -, h⟩ := Attempt.bind_eq_ok.1 h
    obtain ⟨names, -, h⟩ := Attempt.bind_eq_ok.1 h
    cases h
    intro path hpath
    have hboth := (List.mem_filter.1 hpath).2
    rw [Bool.and_eq_true] at hboth
    exact hboth.1
  | other => cases h

/-- **What resolving a request gives**: its files, each below the root, and no others. -/
lemma resolved_of_ok {files : List (FilePath × ParquetImportSource)}
    (h : resolveParquetFiles F parquetImportRoot req = .ok files) :
    ∃ root, F.canonicalize parquetImportRoot = .ok root ∧ (∀ p ∈ files, Resolved F root p) ∧
      ∀ f, Selected F parquetImportRoot req.source f ↔ ∃ p ∈ files, p.1 = f := by
  unfold resolveParquetFiles at h
  dsimp only at h
  split_ifs at h
  obtain ⟨root, hroot, h⟩ := Attempt.bind_eq_ok.1 h
  obtain ⟨sourcePath, hpath, h⟩ := Attempt.bind_eq_ok.1 h
  unfold importRoot at hroot
  rw [mapError_eq_ok] at hroot hpath
  split_ifs at h
  obtain ⟨found, hfound, h⟩ := Attempt.bind_eq_ok.1 h
  split_ifs at h
  obtain ⟨hsources, hall⟩ := mem_of_mapM h
  have hfiles := isFile_of_sourceFiles hfound
  have hmem : ∀ path, path ∈ found.insertionSort (fun p q => pathKey p ≤ pathKey q) ↔
      path ∈ found := fun path => List.mem_insertionSort _
  refine ⟨root, hroot, ?_, ?_⟩
  · intro p hp
    obtain ⟨path, hpath', hsource⟩ := (hsources p).1 hp
    obtain ⟨hcanonical, hinside, htext⟩ := parquetSource_eq_ok hsource
    refine ⟨F.canonicalize_canonical hcanonical, hinside, ?_, htext⟩
    rw [F.isFile_canonical hcanonical]
    exact hfiles path ((hmem path).1 hpath')
  · intro f
    rw [selected_iff hroot hpath hfound]
    constructor
    · rintro ⟨path, hpath', -, hf⟩
      obtain ⟨p, hp, hsource⟩ := hall path ((hmem path).2 hpath')
      refine ⟨p, hp, ?_⟩
      exact Except.ok.inj ((parquetSource_eq_ok hsource).1.symm.trans hf)
    · rintro ⟨p, hp, rfl⟩
      obtain ⟨path, hpath', hsource⟩ := (hsources p).1 hp
      have hpath'' := (hmem path).1 hpath'
      exact ⟨path, hpath'', hfiles path hpath'', (parquetSource_eq_ok hsource).1⟩

end Resolve

/-! ### The tables of an import -/

section Import

variable {F : FileSystem} {ρ : Type} {R : ParquetReader F ρ}
variable {owner : ℤ} {schema : String} {d d' : Db (Tables ρ)} {n : ℕ}

/-- A table is made of what its source is read as, and no other table changes. -/
lemma table_of_importParquetTable {source : ParquetImportSource}
    (h : Runs (importParquetTable R owner schema source) d n d') :
    ∃ content, readParquet R (pathLiteral source) = .ok content ∧
      d.phys (tableKey schema source.table) = none ∧
      d'.phys = Function.update d.phys (tableKey schema source.table) (some content) := by
  unfold importParquetTable at h
  obtain ⟨relOid, d₁, h₁, h⟩ := runs_bind.1 h
  obtain ⟨typeOid, d₂, h₂, h⟩ := runs_bind.1 h
  obtain ⟨journalId, d₃, h₃, h⟩ := runs_bind.1 h
  obtain ⟨content, d₄, h₄, h⟩ := runs_bind.1 h
  obtain ⟨columns, d₅, h₅, h⟩ := runs_bind.1 h
  obtain ⟨_, d₆, h₆, h⟩ := runs_bind.1 h
  obtain ⟨-, rfl⟩ := runs_pure.1 h
  have hbefore : d₃.phys = d.phys := by
    rw [(Db.runs_onCatalog.1 h₃).2, (Db.runs_onCatalog.1 h₂).2, (Db.runs_onCatalog.1 h₁).2]
  have hafter : d'.phys = d₄.phys := by
    rw [(Db.runs_onCatalog.1 h₆).2, (Db.runs_onCatalog.1 h₅).2]
  rw [runs_mapError] at h₄
  unfold createTableFromParquet at h₄
  rw [runs_get_bind] at h₄
  obtain ⟨content', hread, h₄⟩ := runs_fromExcept_bind.1 h₄
  obtain ⟨tables, htables, h₄⟩ := runs_fromExcept_bind.1 h₄
  obtain ⟨_, d₇, hset, h₄⟩ := runs_bind.1 h₄
  obtain ⟨rfl, rfl⟩ := runs_pure.1 h₄
  obtain rfl := runs_set.1 hset
  unfold createTableAs at htables
  rcases hnew : d₃.phys (tableKey schema source.table) with _ | old
  · rw [hnew] at htables
    cases htables
    refine ⟨content, hread, ?_, ?_⟩
    · rw [← hbefore, hnew]
    · rw [hafter, ← hbefore]
  · rw [hnew] at htables
    cases htables

/-- One table after the other: what there was stays, and each source has its table. -/
lemma tables_of_foldlM {sources : List ParquetImportSource} {total : ℕ}
    (h : Runs (sources.foldlM (fun totalRows source => do
      let rowCount ← importParquetTable R owner schema source
      ensure (totalRows + rowCount < 2 ^ 64) "Parquet import row count overflow"
      return totalRows + rowCount) total) d n d') :
    (∀ key content, d.phys key = some content → d'.phys key = some content) ∧
      ∀ source ∈ sources, ∃ content, readParquet R (pathLiteral source) = .ok content ∧
        d'.phys (tableKey schema source.table) = some content := by
  induction sources generalizing total d with
  | nil =>
    obtain ⟨-, rfl⟩ := runs_pure.1 h
    exact ⟨fun _ _ hkey => hkey, by simp⟩
  | cons source sources ih =>
    rw [List.foldlM_cons] at h
    obtain ⟨total', d₁, h₁, hrest⟩ := runs_bind.1 h
    obtain ⟨rowCount, d₂, htable, h₁⟩ := runs_bind.1 h₁
    obtain ⟨-, h₁⟩ := runs_ensure_bind.1 h₁
    obtain ⟨-, rfl⟩ := runs_pure.1 h₁
    obtain ⟨content, hread, hnew, htables⟩ := table_of_importParquetTable htable
    obtain ⟨hkeep, hsources⟩ := ih hrest
    refine ⟨fun key old hkey => hkeep key old ?_, fun s hs => ?_⟩
    · have hne : key ≠ tableKey schema source.table := by
        rintro rfl
        rw [hnew] at hkey
        cases hkey
      rw [htables, Function.update_of_ne hne, hkey]
    · rcases List.mem_cons.1 hs with rfl | hs
      · refine ⟨content, hread, hkeep _ _ ?_⟩
        rw [htables, Function.update_self]
      · exact hsources s hs

/-- **An import that succeeds** has made a table of each source, of what the source is read as. -/
lemma tables_of_import {refuse : Db (Tables ρ) → Option String} {username : String}
    {sources : List ParquetImportSource} {session session' : Session (Db (Tables ρ))}
    (h : Runs ((importParquetTablesAs R username schema sources).exec refuse) session n session') :
    ∀ source ∈ sources, ∃ content, readParquet R (pathLiteral source) = .ok content ∧
      session'.now.phys (tableKey schema source.table) = some content := by
  unfold Runs at h
  rw [exec_mutation] at h
  rcases hbody : importParquetTablesAs R username schema sources session.now with e | body
  · rw [hbody] at h
    cases h
  · have himport : ∃ owner, body = some { run := importTables R owner schema sources } := by
      unfold importParquetTablesAs at hbody
      split_ifs at hbody with _ _ hschema
      · obtain ⟨_, -, hbody⟩ := Attempt.bind_eq_ok.1 hbody
        obtain ⟨_, -, hbody⟩ := Attempt.bind_eq_ok.1 hbody
        cases hbody
      · obtain ⟨_, -, hbody⟩ := Attempt.bind_eq_ok.1 hbody
        obtain ⟨_, -, hbody⟩ := Attempt.bind_eq_ok.1 hbody
        obtain ⟨principal, -, hbody⟩ := Attempt.bind_eq_ok.1 hbody
        obtain ⟨_, -, hbody⟩ := Attempt.bind_eq_ok.1 hbody
        obtain ⟨_, -, hbody⟩ := Attempt.bind_eq_ok.1 hbody
        exact ⟨principal.userId, (Except.ok.inj hbody).symm⟩
    obtain ⟨owner, rfl⟩ := himport
    rw [hbody] at h
    have hbracket : exec (runCatalogTx refuse { run := importTables R owner schema sources }) session =
        exec (Session.transact (catalogTransactions refuse) (importTables R owner schema sources))
          session := by
      rcases hs : session.saved with _ | saved
      · simp [exec, runCatalogTx, Session.bracket, hs]
      · simp [exec, runCatalogTx, Session.bracket, hs]
    dsimp only at h
    rw [hbracket] at h
    obtain ⟨-, -, hrun, -⟩ := Session.runs_transact.1 h
    obtain ⟨_, d₁, -, hrun⟩ := runs_bind.1 hrun
    exact (tables_of_foldlM hrun).2

end Import

/-! ### Reading the resolved files and no others -/

section Reads

variable {F : FileSystem} {ρ : Type} (R : ParquetReader F ρ)

/-- What is handed over for a file leads to that file, below the root, and makes the database open
exactly it and read what it holds. -/
structure ReadsOnly (root : FilePath) (p : FilePath × ParquetImportSource) : Prop where
  leads : F.canonicalize (utf8 p.2.path.toList) = .ok p.1
  inside : root <+: p.1
  isFile : F.isFile p.1 = true
  opens : ∃ path, openedFiles R (pathLiteral p.2) = [path] ∧ F.canonicalize path.bytes = .ok p.1
  reads : readParquet R (pathLiteral p.2) = R.content p.1

/-- The files of a request are read, each into its table, and nothing else is. -/
structure ReadsResolved (parquetImportRoot : List UInt8)
    (files : List (FilePath × ParquetImportSource)) : Prop where
  reads : ∀ root, F.canonicalize parquetImportRoot = .ok root → ∀ p ∈ files, ReadsOnly R root p
  tables : ∀ refuse username schema session n session',
    Runs ((importParquetTablesAs R username schema (files.map Prod.snd)).exec refuse)
      session n session' →
    ∀ p ∈ files, ∃ content, R.content p.1 = .ok content ∧
      session'.now.phys (tableKey schema p.2.table) = some content

/-- A file of this path that the text stands for: one that it matches, or the one that it spells where
it matches none. -/
def StandsFor (text : List Char) (path : FilePath) : Prop :=
  F.isFile path = true ∧ (R.isMatch text path = true ∨
    path.bytes = utf8 text ∧ ∀ other, F.isFile other = true → R.isMatch text other = false)

/-- The text of a location leads to it; one path to it is the only one of a file that the text, as a
pattern, stands for; and the columns that are read off that path are no others than the file has. -/
structure SpelledAlone (f : FilePath) : Prop where
  leads : F.canonicalize (utf8 (duckdbPath f)) = .ok f
  alone : ∃ path, F.canonicalize path.bytes = .ok f ∧
    (∀ other, StandsFor R (duckdbPath f) other ↔ other = path) ∧
    ∀ t, R.content f = .ok t → R.withPartitions (R.partitionColumns path) t = t

/-- **A path in UTF-8 without the letters of patterns and partitions is spelled alone.** -/
lemma spelledAlone_of_plain {f : FilePath} {text : List Char} (hf : F.canonicalize f.bytes = .ok f)
    (hfile : F.isFile f = true) (htext : utf8 text = f.bytes) (hplain : IsPlain text)
    (hequals : equalsSign ∉ f.bytes) : SpelledAlone R f := by
  have hpath := duckdbPath_of_utf8 htext
  refine ⟨by rw [hpath, htext, hf], f, hf, fun other => ?_, fun t _ => ?_⟩
  · unfold StandsFor
    rw [hpath, R.isMatch_plain hplain, htext]
    constructor
    · rintro ⟨-, h | ⟨h, -⟩⟩
      · exact FilePath.bytes_injective h
      · exact FilePath.bytes_injective h
    · rintro rfl
      exact ⟨hfile, Or.inl rfl⟩
  · rw [R.partitionColumns_plain hequals, R.withPartitions_nil]

lemma eq_singleton_iff {α : Type} {xs : List α} {a : α} (h : xs.Nodup) :
    xs = [a] ↔ ∀ x, x ∈ xs ↔ x = a := by
  constructor
  · rintro rfl x
    exact List.mem_singleton
  · intro hx
    refine List.perm_singleton.1 ((List.perm_ext_iff_of_nodup h (List.nodup_singleton a)).2 ?_)
    intro x
    rw [hx x, List.mem_singleton]

/-- Quoting does not change what is read as a pattern. -/
lemma openedFiles_pathLiteral {root : FilePath} {p : FilePath × ParquetImportSource}
    (h : Resolved F root p) : openedFiles R (pathLiteral p.2) = R.expand (duckdbPath p.1) := by
  unfold openedFiles pathLiteral
  rw [stringValue_sqlStringLiteral, h.path]

/-- What is read of the one file that is opened. -/
lemma readParquet_of_opened {literal : List Char} {path f : FilePath}
    (hopen : openedFiles R literal = [path]) (hpath : F.canonicalize path.bytes = .ok f) :
    readParquet R literal = (R.content f).map (R.withPartitions (R.partitionColumns path)) := by
  unfold readParquet
  rw [hopen]
  exact R.scan_one hpath

lemma map_eq_self_iff {α : Type} {x : Except String α} {g : α → α} :
    x.map g = x ↔ ∀ a, x = .ok a → g a = a := by
  rcases x with e | a
  · exact iff_of_true rfl fun a h => by cases h
  · simp [Except.map]

lemma readsOnly_iff {root : FilePath} {p : FilePath × ParquetImportSource} (h : Resolved F root p) :
    ReadsOnly R root p ↔ SpelledAlone R p.1 := by
  have hopens : ∀ path, openedFiles R (pathLiteral p.2) = [path] ↔
      ∀ other, StandsFor R (duckdbPath p.1) other ↔ other = path := by
    intro path
    rw [openedFiles_pathLiteral R h, eq_singleton_iff (R.nodup_expand _)]
    exact forall_congr' fun other => by rw [R.mem_expand, StandsFor]
  constructor
  · rintro ⟨hleads, -, -, ⟨path, hopen, hpath⟩, hreads⟩
    rw [h.path] at hleads
    rw [readParquet_of_opened R hopen hpath, map_eq_self_iff] at hreads
    exact ⟨hleads, path, hpath, (hopens path).1 hopen, hreads⟩
  · rintro ⟨hleads, path, hpath, halone, hcolumns⟩
    have hopen := (hopens path).2 halone
    refine ⟨?_, h.inside, h.isFile, ⟨path, hopen, hpath⟩, ?_⟩
    · rw [h.path]
      exact hleads
    · rw [readParquet_of_opened R hopen hpath, map_eq_self_iff]
      exact hcolumns

/-- **An import reads exactly the resolved files if and only if the path of each file that the request
selects is, as a pattern, that file's alone**, and no directory of it adds a column. -/
theorem readsResolved_iff {parquetImportRoot : List UInt8} {req : ParquetImportReq}
    {files : List (FilePath × ParquetImportSource)}
    (h : resolveParquetFiles F parquetImportRoot req = .ok files) :
    ReadsResolved R parquetImportRoot files ↔
      ∀ f, Selected F parquetImportRoot req.source f → SpelledAlone R f := by
  obtain ⟨root, hroot, hresolved, hselected⟩ := resolved_of_ok h
  constructor
  · intro hreads f hf
    obtain ⟨p, hp, rfl⟩ := (hselected f).1 hf
    exact (readsOnly_iff R (hresolved p hp)).1 (hreads.reads root hroot p hp)
  · intro halone
    have hreads : ∀ p ∈ files, ReadsOnly R root p := fun p hp =>
      (readsOnly_iff R (hresolved p hp)).2 (halone p.1 ((hselected p.1).2 ⟨p, hp, rfl⟩))
    refine ⟨fun root' hroot' p hp => ?_, ?_⟩
    · obtain rfl := Except.ok.inj (hroot.symm.trans hroot')
      exact hreads p hp
    · intro refuse username schema session n session' hrun p hp
      obtain ⟨content, hread, htable⟩ := tables_of_import hrun p.2 (List.mem_map_of_mem hp)
      exact ⟨content, (hreads p hp).reads.symm.trans hread, htable⟩

end Reads

/-! ### Patterns -/

/-- A part of a pattern: one letter of some kind, or any run of letters. -/
inductive GlobPart (α : Type)
  | one (accepts : α → Bool)
  | run

/-- Whether the parts stand for the whole word. -/
def spells {α : Type} : List (GlobPart α) → List α → Bool
  | [], word => word.isEmpty
  | .run :: parts, word => word.tails.any fun rest => spells parts rest
  | .one accepts :: parts, word =>
    match word with
    | [] => false
    | a :: rest => accepts a && spells parts rest

/-- The letters between brackets, `a-z` for all from the one to the other. -/
def inBrackets : List UInt8 → UInt8 → Bool
  | a :: 45 :: b :: r, c => (a ≤ c && c ≤ b) || inBrackets r c
  | a :: r, c => a == c || inBrackets r c
  | [], _ => false

/-- The parts of one name of a pattern; the first argument is what brackets hold so far. -/
def nameParts : Option (List UInt8) → List UInt8 → List (GlobPart UInt8)
  | none, [] => []
  | some _, [] => [.one fun _ => false]
  | none, 42 :: r => .run :: nameParts none r
  | none, 63 :: r => .one (fun _ => true) :: nameParts none r
  | none, 91 :: r => nameParts (some []) r
  | none, b :: r => .one (· == b) :: nameParts none r
  | some held, b :: r =>
    if b = 93 ∧ held ≠ [] then .one (inBrackets held) :: nameParts none r
    else nameParts (some (held ++ [b])) r

/-- The parts of a pattern: `**` is any run of directories, and any other name is one name. -/
def pathParts (text : List Char) : List (GlobPart FileName) :=
  ((utf8 text).splitOn slash).tail.map fun part =>
    if part = [42, 42] then .run else .one fun name => spells (nameParts none part) name.bytes

instance (text : List Char) : Decidable (IsPlain text) :=
  inferInstanceAs (Decidable (_ ∧ _ ∧ _))

/-! ### A link that leads out of the root -/

/-- A path, and what it leads to. -/
structure Node where
  path : FilePath
  location : FilePath
  kind : FileKind
  deriving DecidableEq

def nodeAt (nodes : List Node) (bytes : List UInt8) : Option Node :=
  nodes.find? fun n => n.path.bytes == bytes

/-- A location leads to itself. -/
def Closed (nodes : List Node) : Prop :=
  ∀ n ∈ nodes, nodeAt nodes n.location.bytes = some ⟨n.location, n.location, n.kind⟩

instance (nodes : List Node) : Decidable (Closed nodes) :=
  inferInstanceAs (Decidable (∀ n ∈ nodes, _ = _))

def notFound : String := "No such file or directory (os error 2)"

/-- A machine on which these are all paths. -/
def machine (nodes : List Node) (h : Closed nodes) : FileSystem where
  canonicalize bytes :=
    match nodeAt nodes bytes with
    | some n => .ok n.location
    | none => .error notFound
  metadata bytes :=
    match nodeAt nodes bytes with
    | some n => .ok n.kind
    | none => .error notFound
  readDir bytes :=
    .ok ((nodes.filter fun n => FilePath.bytes n.path.dropLast == bytes).filterMap fun n =>
      n.path.getLast?.map .ok)
  canonicalize_canonical := by
    intro p c hp
    rcases hn : nodeAt nodes p with _ | n
    · rw [hn] at hp
      cases hp
    · rw [hn] at hp
      cases hp
      rw [h n (List.mem_of_find?_eq_some hn)]
  metadata_canonical := by
    intro p c hp
    rcases hn : nodeAt nodes p with _ | n
    · rw [hn] at hp
      cases hp
    · rw [hn] at hp
      cases hp
      simp only [h n (List.mem_of_find?_eq_some hn)]

lemma mem_of_isFile {nodes : List Node} {h : Closed nodes} {path : FilePath}
    (hfile : (machine nodes h).isFile path = true) : path ∈ nodes.map (·.path) := by
  rw [FileSystem.isFile_iff] at hfile
  unfold machine at hfile
  dsimp only at hfile
  rcases hn : nodeAt nodes path.bytes with _ | n
  · rw [hn] at hfile
    cases hfile
  · have hbytes : n.path.bytes = path.bytes := by simpa using List.find?_some hn
    rw [← FilePath.bytes_injective hbytes]
    exact List.mem_map_of_mem (List.mem_of_find?_eq_some hn)

/-- The keys and values of the directories `key=value`. -/
def keyValues (path : FilePath) : List (List UInt8 × List UInt8) :=
  path.dropLast.filterMap fun name =>
    match name.bytes.splitOn equalsSign with
    | [key, value] => if key = [] then none else some (key, value)
    | _ => none

lemma keyValues_plain {path : FilePath} (h : equalsSign ∉ path.bytes) : keyValues path = [] := by
  refine List.filterMap_eq_nil_iff.2 fun name hname => ?_
  have hmem : name ∈ path := List.mem_of_mem_dropLast hname
  have hno : equalsSign ∉ name.bytes := fun hb => h (FilePath.mem_bytes hmem hb)
  rw [List.splitOn_eq_singleton hno]

/-- A path that the text matches: the one that it spells, where it has no pattern. -/
def matchesText (text : List Char) (path : FilePath) : Bool :=
  if IsPlain text then path.bytes == utf8 text else spells (pathParts text) path

/-- The files of such a machine that a text stands for. -/
def standingFiles (nodes : List Node) (h : Closed nodes) (text : List Char) : List FilePath :=
  let files := ((nodes.map (·.path)).dedup).filter fun path => (machine nodes h).isFile path
  let matched := files.filter (matchesText text)
  if matched = [] then files.filter fun path => path.bytes == utf8 text else matched

/-- The database on such a machine, whose files all hold one row, their own path. -/
def pathReader (nodes : List Node) (h : Closed nodes) :
    ParquetReader (machine nodes h) FilePath where
  isMatch := matchesText
  isMatch_plain := by
    intro text path hplain
    unfold matchesText
    rw [if_pos hplain, beq_iff_eq]
  expand := standingFiles nodes h
  mem_expand := by
    intro text path
    have hfiles : ∀ other, other ∈ ((nodes.map (·.path)).dedup).filter
        (fun path => (machine nodes h).isFile path) ↔ (machine nodes h).isFile other = true := by
      intro other
      rw [List.mem_filter, List.mem_dedup]
      exact and_iff_right_of_imp mem_of_isFile
    unfold standingFiles
    dsimp only
    split_ifs with hnone
    · rw [List.filter_eq_nil_iff] at hnone
      have hno : ∀ other, (machine nodes h).isFile other = true →
          matchesText text other = false :=
        fun other hother => Bool.eq_false_iff.2 (hnone other ((hfiles other).2 hother))
      rw [List.mem_filter, hfiles, beq_iff_eq]
      refine and_congr_right fun hfile => ⟨fun hbytes => Or.inr ⟨hbytes, hno⟩, ?_⟩
      rintro (hmatch | ⟨hbytes, -⟩)
      · rw [hno path hfile] at hmatch
        cases hmatch
      · exact hbytes
    · rw [List.mem_filter, hfiles]
      refine and_congr_right fun hfile => ⟨Or.inl, ?_⟩
      rintro (hmatch | ⟨-, hno⟩)
      · exact hmatch
      · refine absurd (List.filter_eq_nil_iff.2 fun other hother => ?_) hnone
        rw [hno other ((hfiles other).1 hother)]
        exact Bool.false_ne_true
  nodup_expand text := by
    unfold standingFiles
    dsimp only
    split_ifs
    · exact ((List.nodup_dedup _).filter _).filter _
    · exact ((List.nodup_dedup _).filter _).filter _
  content f := .ok ⟨[⟨"path", "VARCHAR", true, none, 1⟩], [f]⟩
  partitionColumns := keyValues
  partitionColumns_plain := keyValues_plain
  withPartitions keys t := { t with
    columns := t.columns ++ keys.map fun key =>
      ⟨String.ofList (toStringLossy key.1), "VARCHAR", true, none, 2⟩ }
  withPartitions_nil t := by rw [List.map_nil, List.append_nil]
  scan paths := do
    let locations ← paths.mapM fun path => (machine nodes h).canonicalize path.bytes
    return ⟨[⟨"path", "VARCHAR", true, none, 1⟩] ++ (keyValues (paths.headD [])).map fun key =>
      ⟨String.ofList (toStringLossy key.1), "VARCHAR", true, none, 2⟩, locations⟩
  scan_one := by
    intro path f hf
    simp only [List.mapM_cons, List.mapM_nil, hf]
    rfl

def rootName : FileName := ⟨utf8 "r".toList, by decide, by decide⟩
def starName : FileName := ⟨utf8 "*".toList, by decide, by decide⟩
def linkName : FileName := ⟨utf8 "l".toList, by decide, by decide⟩
def outsideName : FileName := ⟨utf8 "o".toList, by decide, by decide⟩
def dataName : FileName := ⟨utf8 "f.parquet".toList, by decide, by decide⟩

/-- Below `/r`, a file `f.parquet`, a directory `*` with another one, and a link `l` to the directory
`/o`, which has one too. -/
def linkedNodes : List Node :=
  [⟨[rootName], [rootName], .directory⟩,
    ⟨[rootName, dataName], [rootName, dataName], .file⟩,
    ⟨[rootName, starName], [rootName, starName], .directory⟩,
    ⟨[rootName, starName, dataName], [rootName, starName, dataName], .file⟩,
    ⟨[rootName, linkName], [outsideName], .directory⟩,
    ⟨[rootName, linkName, dataName], [outsideName, dataName], .file⟩,
    ⟨[outsideName], [outsideName], .directory⟩,
    ⟨[outsideName, dataName], [outsideName, dataName], .file⟩]

lemma closed_linkedNodes : Closed linkedNodes := by decide

def linkedMachine : FileSystem := machine linkedNodes closed_linkedNodes

def linkedReader : ParquetReader linkedMachine FilePath := pathReader linkedNodes closed_linkedNodes

/-- The file of a plain name is read and no other one. -/
theorem readsResolved_plain :
    ReadsResolved linkedReader (utf8 "/r".toList)
      [([rootName, dataName], ⟨"f", "/r/f.parquet"⟩)] := by
  have hresolve : resolveParquetFiles linkedMachine (utf8 "/r".toList)
      ⟨"f.parquet".toList, "main", none⟩ = .ok [([rootName, dataName], ⟨"f", "/r/f.parquet"⟩)] := by
    rfl
  refine (readsResolved_iff linkedReader hresolve).2 fun f hf => ?_
  obtain ⟨root, -, hresolved, hselected⟩ := resolved_of_ok hresolve
  obtain ⟨p, hp, rfl⟩ := (hselected f).1 hf
  have hfile := hresolved p hp
  obtain rfl := List.mem_singleton.1 hp
  have htext : utf8 "/r/f.parquet".toList = FilePath.bytes [rootName, dataName] := by decide
  exact spelledAlone_of_plain linkedReader hfile.canonical hfile.isFile htext (by decide) (by decide)

/-- The source `*/f.parquet` is one file below the root, and the database opens two: the other one is
reached by the link, outside the root. -/
theorem reads_through_link :
    resolveParquetFiles linkedMachine (utf8 "/r".toList) ⟨"*/f.parquet".toList, "main", none⟩ =
      .ok [([rootName, starName, dataName], ⟨"f", "/r/*/f.parquet"⟩)] ∧
    openedFiles linkedReader (pathLiteral ⟨"f", "/r/*/f.parquet"⟩) =
      [[rootName, starName, dataName], [rootName, linkName, dataName]] ∧
    linkedMachine.canonicalize (FilePath.bytes [rootName, linkName, dataName]) =
      .ok [outsideName, dataName] ∧
    ¬ [rootName] <+: [outsideName, dataName] ∧
    ¬ ReadsResolved linkedReader (utf8 "/r".toList)
      [([rootName, starName, dataName], ⟨"f", "/r/*/f.parquet"⟩)] := by
  have hopened : openedFiles linkedReader (pathLiteral ⟨"f", "/r/*/f.parquet"⟩) =
      [[rootName, starName, dataName], [rootName, linkName, dataName]] := by
    rfl
  refine ⟨by rfl, hopened, by rfl, by decide, fun hreads => ?_⟩
  obtain ⟨path, hopen, -⟩ := (hreads.reads [rootName] (by rfl) _ (List.mem_singleton_self _)).opens
  rw [hopened] at hopen
  cases hopen

end Rsduck.Server
