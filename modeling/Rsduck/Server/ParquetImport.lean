import Rsduck.Catalog.Auth.Authorize
import Rsduck.Catalog.ColumnTypes
import Rsduck.Catalog.Mutation.Executor
import Rsduck.Db.Literal
import Rsduck.Db.Worker
import Rsduck.Server.FileSystem

/-!
The import of Parquet files: which files a request names, and the tables that are made of them.

A file is checked as a path of the file system and then handed over as a text, which the database
reads once more as a pattern.
-/

namespace Rsduck.Server

open Lib Lib.Eff Lib.Text Lib.Wire Db Catalog Catalog.ColumnTypes

/-! ### The files of a request -/

structure ParquetImportReq where
  source : List Char
  schema : String
  table : Option (List Char)

def isParquetFile (path : FilePath) : Bool :=
  match (extension path).bind ofUtf8 with
  | some value => eqIgnoreAsciiCase value "parquet".toList
  | none => false

/-- The path as the database is given it, without the mark of a verbatim path. -/
def duckdbPath (path : FilePath) : List Char :=
  let value := toStringLossy path.bytes
  (stripPrefix "\\\\?\\" value).getD value

/-- The Parquet files directly in a directory. -/
def directoryFiles (F : FileSystem) (path : FilePath) : Except String (List FilePath) := do
  let entries ← (F.readDir path.bytes).mapError
    ("read Parquet import source directory failed: " ++ ·)
  let names ← (entries.mapM id).mapError ("read Parquet import source entry failed: " ++ ·)
  return (names.map fun name => path ++ [name]).filter fun p => F.isFile p && isParquetFile p

/-- The files that the source leads to. -/
def sourceFiles (F : FileSystem) (path : FilePath) (table : Option (List Char)) :
    Except String (List FilePath) := do
  match ← (F.metadata path.bytes).mapError ("read Parquet import source metadata failed: " ++ ·) with
  | .file =>
    if isParquetFile path then .ok [path]
    else .error "Parquet import source file must use the .parquet extension"
  | .directory =>
    if table.isSome then .error "target table can only be specified for a single Parquet file"
    else directoryFiles F path
  | .other => .error "Parquet import source must be a Parquet file or directory"

/-- The location of a file, with the table that it is read into and the path that it is read from. -/
def parquetSource (F : FileSystem) (root : FilePath) (table : Option (List Char)) (path : FilePath) :
    Except String (FilePath × ParquetImportSource) := do
  let canonical ← (F.canonicalize path.bytes).mapError ("resolve Parquet source failed: " ++ ·)
  if !root.isPrefixOf canonical then .error "Parquet source escapes the configured root"
  else
    match table with
    | some table => .ok (canonical, ⟨String.ofList (trim table), String.ofList (duckdbPath canonical)⟩)
    | none =>
      match (fileStem canonical).bind ofUtf8 with
      | some stem => .ok (canonical, ⟨String.ofList stem, String.ofList (duckdbPath canonical)⟩)
      | none => .error "Parquet file name is not valid UTF-8"

/-- What the files are sorted by. -/
def pathKey (path : FilePath) : String := String.ofList (toAsciiLowercase (toStringLossy path.bytes))

def importRoot (F : FileSystem) (parquetImportRoot : List UInt8) : Except String FilePath :=
  (F.canonicalize parquetImportRoot).mapError fun e =>
    "Parquet import root is unavailable: " ++ String.ofList (toStringLossy parquetImportRoot) ++
      ": " ++ e

/-- The files with what is asked of the database for each of them. -/
def resolveParquetFiles (F : FileSystem) (parquetImportRoot : List UInt8) (req : ParquetImportReq) :
    Except String (List (FilePath × ParquetImportSource)) := do
  let source := trim req.source
  if source = [] then .error "Parquet import source path cannot be empty"
  else if source.head? = some '/' then
    .error "Parquet import source path must be relative to the configured root"
  else
    let root ← importRoot F parquetImportRoot
    let sourcePath ← (F.canonicalize (joinPath root (utf8 source))).mapError fun e =>
      "Parquet import source is unavailable: " ++ String.ofList source ++ ": " ++ e
    if !root.isPrefixOf sourcePath then .error "Parquet import source escapes the configured root"
    else
      let found ← sourceFiles F sourcePath req.table
      let files := found.insertionSort fun p q => pathKey p ≤ pathKey q
      if files = [] then .error "Parquet import source contains no .parquet files"
      else if 256 < files.length then
        .error "Parquet import supports at most 256 files per batch"
      else files.mapM (parquetSource F root req.table)

/-! ### Reading files -/

structure ParquetTable (ρ : Type) where
  columns : List DuckdbColumn
  rows : List ρ

def equalsSign : UInt8 := 61

/-- A text in which the database sees no pattern. -/
def IsPlain (text : List Char) : Prop := '*' ∉ text ∧ '?' ∉ text ∧ '[' ∉ text

/-- How the database reads Parquet files. A text stands for the files whose paths it matches, or, when
it matches none, for the file of that path; a plain text matches just that path. What is read is
what the files hold, with the columns that are read off the directories `key=value` of their paths,
which are added to it or take the place of its own. -/
structure ParquetReader (F : FileSystem) (ρ : Type) where
  isMatch : List Char → FilePath → Bool
  isMatch_plain : ∀ {text path}, IsPlain text → (isMatch text path = true ↔ path.bytes = utf8 text)
  expand : List Char → List FilePath
  mem_expand : ∀ {text path}, path ∈ expand text ↔ F.isFile path = true ∧ (isMatch text path = true ∨
    path.bytes = utf8 text ∧ ∀ other, F.isFile other = true → isMatch text other = false)
  nodup_expand : ∀ text, (expand text).Nodup
  /-- What is in the file of a location. -/
  content : FilePath → Except String (ParquetTable ρ)
  partitionColumns : FilePath → List (List UInt8 × List UInt8)
  partitionColumns_plain : ∀ {path : FilePath}, equalsSign ∉ path.bytes → partitionColumns path = []
  withPartitions : List (List UInt8 × List UInt8) → ParquetTable ρ → ParquetTable ρ
  withPartitions_nil : ∀ t, withPartitions [] t = t
  scan : List FilePath → Except String (ParquetTable ρ)
  scan_one : ∀ {path f : FilePath}, F.canonicalize path.bytes = .ok f →
    scan [path] = (content f).map (withPartitions (partitionColumns path))

section Import

variable {F : FileSystem} {ρ : Type} (R : ParquetReader F ρ)

/-- The files that `read_parquet` opens for its argument, a literal. -/
def openedFiles (literal : List Char) : List FilePath :=
  match stringValue literal with
  | some text => R.expand text
  | none => []

def readParquet (literal : List Char) : Except String (ParquetTable ρ) :=
  match openedFiles R literal with
  | [] => .error ("IO Error: No files found that match the pattern " ++ String.ofList literal)
  | files => R.scan files

/-! ### The import -/

/-- The tables of the database, by schema and name in lower case. -/
abbrev Tables (ρ : Type) := String × String → Option (ParquetTable ρ)

def tableKey (schema table : String) : String × String := (lowerString schema, lowerString table)

def createTableAs (schema table : String) (content : ParquetTable ρ) (tables : Tables ρ) :
    Except String (Tables ρ) :=
  match tables (tableKey schema table) with
  | some _ => .error ("Catalog Error: Table with name \"" ++ table ++ "\" already exists!")
  | none => .ok (Function.update tables (tableKey schema table) (some content))

def escapeJson (c : Char) : List Char :=
  if c = '"' ∨ c = '\\' then ['\\', c]
  else if c = '\n' then ['\\', 'n']
  else if c = '\r' then ['\\', 'r']
  else if c = '\t' then ['\\', 't']
  else if c = '\x08' then ['\\', 'b']
  else if c = '\x0c' then ['\\', 'f']
  else if c.toNat < 32 then
    "\\u00".toList ++ [Nat.digitChar (c.toNat / 16), Nat.digitChar (c.toNat % 16)]
  else [c]

def jsonString (s : String) : String := "\"" ++ String.ofList (s.toList.flatMap escapeJson) ++ "\""

def importRequest (schema : String) (source : ParquetImportSource) : String :=
  "\x7b\"source\":" ++ jsonString source.path ++ ",\"target\":" ++
    jsonString (schema ++ "." ++ source.table) ++ "\x7d"

def pathLiteral (source : ParquetImportSource) : List Char := sqlStringLiteral source.path.toList

def createTableFromParquet (schema : String) (source : ParquetImportSource) :
    Eff (Db (Tables ρ)) (ParquetTable ρ) := do
  let d ← get
  let content ← fromExcept (readParquet R (pathLiteral source))
  let tables ← fromExcept (createTableAs schema source.table content d.phys)
  set { d with phys := tables }
  return content

/-- One table of an import, and the number of its rows. -/
def importParquetTable (ownerUserId : ℤ) (schema : String) (source : ParquetImportSource) :
    Eff (Db (Tables ρ)) ℕ := do
  let relOid ← Db.onCatalog allocateOid
  let typeOid ← Db.onCatalog allocateOid
  let journalId ← Db.onCatalog
    (insertJournal "import_parquet_table" relOid (importRequest schema source))
  let content ← mapError
    (("import Parquet into " ++ schema ++ "." ++ source.table ++ " failed: ") ++ ·)
    (createTableFromParquet R schema source)
  let columns ← Db.onCatalog (loadDuckdbColumns schema source.table content.columns)
  let rowCount := content.rows.length
  Db.onCatalog do
    insertRelationRows ⟨relOid, typeOid, schema, source.table, .table, .ordinary, .user, "",
      ownerUserId⟩ columns
    updateRows Slot.relation (·.oid == relOid) (fun r => { r with reltuples := rowCount })
      fun _ _ => rfl
    finishJournal journalId
  return rowCount

def importTables (ownerUserId : ℤ) (schema : String) (sources : List ParquetImportSource) :
    Eff (Db (Tables ρ)) ℕ := do
  sources.forM fun source => do
    let d ← get
    ensure (!relationExists d.cat schema source.table)
      ("relation already exists: " ++ schema ++ "." ++ source.table)
  sources.foldlM (fun totalRows source => do
    let rowCount ← importParquetTable R ownerUserId schema source
    ensure (totalRows + rowCount < 2 ^ 64) "Parquet import row count overflow"
    return totalRows + rowCount) 0

def validateImportIdentifier (kind value : String) : Except String Unit :=
  match value.toList with
  | [] => .error ("Parquet import " ++ kind ++ " cannot be empty")
  | first :: rest =>
    if (first.isAlpha || first == '_') && rest.all fun c => isAsciiAlphanumeric c || c == '_' then
      .ok ()
    else .error ("Parquet import " ++ kind ++ " contains unsupported characters: " ++ value)

/-- The checks on each source, with those before it. -/
def validateImportSources : List ParquetImportSource → List ParquetImportSource → Except String Unit
  | _, [] => .ok ()
  | existing, source :: rest => do
    validateImportIdentifier "table" source.table
    if trim source.path.toList = [] then
      .error ("Parquet source path is empty for table " ++ source.table)
    else if existing.any fun e => eqIgnoreAsciiCase e.table.toList source.table.toList then
      .error ("duplicate target table in Parquet import: " ++ source.table)
    else validateImportSources (existing ++ [source]) rest

def importParquetTablesAs (username schema : String) (sources : List ParquetImportSource) :
    Mutation (Tables ρ) := fun d => do
  if sources = [] then .error "Parquet import requires at least one source file"
  else if 256 < sources.length then
    .error "Parquet import supports at most 256 tables per batch"
  else
    validateImportIdentifier "schema" schema
    rejectReservedSchema schema.toList
    if !namespaceExists d.cat schema then .error ("schema does not exist: " ++ schema)
    else
      let principal ← principalForUsername d.cat username
      requireSchemaAction d.cat principal schema .ddl
      validateImportSources [] sources
      return some { run := importTables R principal.userId schema sources }

end Import

end Rsduck.Server
