import Rsduck.Catalog.Journal
import Rsduck.Catalog.Mutation.Parser

/-!
DuckDB types and the ids the catalog knows them by.

A scalar type has a fixed id. A complex type (a list, a fixed array, a struct or a map of
scalars) is registered in `rs_type` when a column first has it.
-/

namespace Rsduck.Catalog

open Lib Lib.Eff Lib.Text

/-! ### Fixed ids -/

def adminUserId : ℤ := 10
def informationSchemaNs : ℤ := 12
def rsduckCatalogNs : ℤ := 13
def rsduckInternalNs : ℤ := 14
def mainNs : ℤ := 15

def typeBool : ℤ := 1001
def typeInt8 : ℤ := 1002
def typeInt2 : ℤ := 1003
def typeInt4 : ℤ := 1004
def typeText : ℤ := 1005
def typeFloat4 : ℤ := 1006
def typeFloat8 : ℤ := 1007
def typeVarchar : ℤ := 1008
def typeDate : ℤ := 1009
def typeTime : ℤ := 1010
def typeTimestamp : ℤ := 1011
def typeNumeric : ℤ := 1012

/-! ### Scalar types -/

/-- A scalar type: the names it has, the texts its name may start with, and its id. -/
structure ScalarType where
  names : List String
  openings : List String
  typeId : ℤ

def scalarTypes : List ScalarType :=
  [⟨["boolean", "bool"], [], typeBool⟩,
    ⟨["smallint", "int2"], [], typeInt2⟩,
    ⟨["integer", "int", "int4"], [], typeInt4⟩,
    ⟨["bigint", "int8"], [], typeInt8⟩,
    ⟨["real", "float", "float4"], [], typeFloat4⟩,
    ⟨["double", "double precision", "float8"], [], typeFloat8⟩,
    ⟨[], ["decimal", "numeric"], typeNumeric⟩,
    ⟨["varchar"], ["varchar("], typeVarchar⟩,
    ⟨["text", "string"], [], typeText⟩,
    ⟨["date"], [], typeDate⟩,
    ⟨["time"], ["time("], typeTime⟩,
    ⟨["datetime"], ["timestamp"], typeTimestamp⟩]

def ScalarType.is (lower : String) (t : ScalarType) : Bool :=
  t.names.contains lower || t.openings.any (startsWith · lower.toList)

def scalarTypeIdForDuckdbType (duckdbType : String) : Option ℤ :=
  (scalarTypes.find? (·.is (lowerString duckdbType))).map (·.typeId)

def scalarTypeIds : List ℤ := scalarTypes.map (·.typeId)

lemma scalarTypeId_mem {duckdbType : String} {id : ℤ}
    (h : scalarTypeIdForDuckdbType duckdbType = some id) : id ∈ scalarTypeIds := by
  obtain ⟨t, ht, rfl⟩ := Option.map_eq_some_iff.1 h
  exact List.mem_map_of_mem (List.mem_of_find?_eq_some ht)

def unsupportedType (duckdbType : String) : String :=
  "unsupported DuckDB type for rsduck catalog: " ++ duckdbType

/-! ### Type modifiers -/

def isDecimalType (duckdbType : String) : Bool :=
  let lower := lowerString (trimString duckdbType)
  lower == "decimal" || lower == "numeric" || startsWith "decimal(" lower.toList ||
    startsWith "numeric(" lower.toList

/-- A decimal number of eight bits, with an optional plus. -/
def parseU8 (s : List Char) : Option ℕ :=
  let ds := match s with
    | '+' :: r => r
    | _ => s
  if ds = [] ∨ !ds.all Char.isDigit then none
  else
    let n := ds.foldl (fun n d => 10 * n + (d.toNat - '0'.toNat)) 0
    if n < 256 then some n else none

/-- Precision and scale that a decimal may have. -/
def validDecimal (precision scale : ℕ) : Bool :=
  precision != 0 && decide (precision ≤ 38) && decide (scale ≤ precision)

def decimalPrecisionAndScale (duckdbType : String) : Option (ℕ × ℕ) :=
  let trimmed := trim duckdbType.toList
  if !isDecimalType duckdbType then none
  else
    let (_, fromOpen) := trimmed.span (· != '(')
    -- through the last closing parenthesis
    let inner := (fromOpen.tail.reverse.dropWhile (· != ')')).tail.reverse
    let after := (fromOpen.tail.reverse.takeWhile (· != ')')).reverse
    if fromOpen = [] ∨ ')' ∉ fromOpen.tail ∨ inner = [] ∨ trim after ≠ [] then none
    else
      match inner.span (· != ',') with
      | (precision, _ :: scale) =>
        match parseU8 (trim precision), parseU8 (trim scale) with
        | some p, some s => if validDecimal p s then some (p, s) else none
        | _, _ => none
      | _ => none

def typeModifierHeaderSize : ℤ := 4

def typeModifierForDuckdbType (duckdbType : String) : ℤ :=
  match decimalPrecisionAndScale duckdbType with
  | some (precision, scale) => ((precision * 2 ^ 16 + scale : ℕ) : ℤ) + typeModifierHeaderSize
  | none => -1

/-- The two bytes of a modifier, each cut to eight bits. -/
def decimalPrecisionAndScaleFromModifier (typeModifier : ℤ) : Option (ℕ × ℕ) :=
  if typeModifier < typeModifierHeaderSize then none
  else
    let encoded := (typeModifier - typeModifierHeaderSize).toNat
    let precision := encoded / 2 ^ 16 % 256
    let scale := encoded % 256
    if validDecimal precision scale then some (precision, scale) else none

def duckdbTypeWithModifier (physicalType : String) (typeModifier : ℤ) : String :=
  if !isDecimalType physicalType then physicalType
  else
    match decimalPrecisionAndScaleFromModifier typeModifier with
    | some (precision, scale) => "DECIMAL(" ++ toString precision ++ "," ++ toString scale ++ ")"
    | none => physicalType

/-! ### Complex types -/

def containsComplexTypeMarker (s : List Char) : Bool :=
  let lower := toAsciiLowercase (trim s)
  "[]".toList.isSuffixOf lower || (lower.getLast? == some ']' && lower.contains '[') ||
    startsWith "struct(" lower || startsWith "map(" lower || startsWith "list(" lower ||
    startsWith "list<" lower

def isScalarTypePart (s : List Char) : Bool :=
  (scalarTypeIdForDuckdbType (String.ofList (trim s))).isSome

/-- A character before the first piece. -/
def consPiece (c : Char) : List (List Char) → List (List Char)
  | [] => [[c]]
  | piece :: pieces => (c :: piece) :: pieces

/-- The pieces between delimiters outside quotes and brackets; none when these do not match. -/
def splitTypePieces (delimiter : Char) :
    Option Char → ℤ → List Char → Option (List (List Char))
  | none, depth, [] => if depth = 0 then some [[]] else none
  | some _, _, [] => none
  | some quote, depth, c :: r =>
    if c = quote then
      match r with
      | d :: r' =>
        if d = quote then
          (splitTypePieces delimiter (some quote) depth r').map (consPiece c ∘ consPiece d)
        else (splitTypePieces delimiter none depth (d :: r')).map (consPiece c)
      | [] => (splitTypePieces delimiter none depth []).map (consPiece c)
    else (splitTypePieces delimiter (some quote) depth r).map (consPiece c)
  | none, depth, c :: r =>
    if c = '\'' ∨ c = '"' ∨ c = (Char.ofNat 96) then
      (splitTypePieces delimiter (some c) depth r).map (consPiece c)
    else if c = '(' ∨ c = '<' then
      (splitTypePieces delimiter none (depth + 1) r).map (consPiece c)
    else if c = ')' ∨ c = '>' then
      if depth - 1 < 0 then none
      else (splitTypePieces delimiter none (depth - 1) r).map (consPiece c)
    else if c = delimiter ∧ depth = 0 then
      (splitTypePieces delimiter none depth r).map ([] :: ·)
    else (splitTypePieces delimiter none depth r).map (consPiece c)

/-- The trimmed pieces; an empty last piece is no piece. -/
def splitTypes (s : List Char) : Except String (List (List Char)) :=
  match splitTypePieces ',' none 0 s with
  | none => .error ("invalid complex type syntax: " ++ String.ofList s)
  | some pieces =>
    let pieces := pieces.map trim
    .ok (if pieces.getLast? = some [] then pieces.dropLast else pieces)

/-- After the quote that closes a name; a quote directly after a quote does not close it. -/
def afterQuotedField (quote : Char) : Bool → List Char → Option (List Char)
  | _, [] => none
  | escaped, c :: r =>
    if c = quote then if escaped then afterQuotedField quote false r else some r
    else afterQuotedField quote false r

/-- The type of a field of a struct. -/
def structFieldType (field : List Char) : Except String (List Char) :=
  let field := trim field
  match field with
  | [] => .error "STRUCT field cannot be empty"
  | c :: r =>
    if c = '"' ∨ c = (Char.ofNat 96) then
      match afterQuotedField c false r with
      | some rest =>
        if trim rest = [] then .error ("STRUCT field is missing type: " ++ String.ofList field)
        else .ok (trim rest)
      | none => .error ("invalid quoted STRUCT field: " ++ String.ofList field)
    else
      let type := trim (field.dropWhile fun c => !isWhitespace c)
      if type = [] then .error ("STRUCT field is missing type: " ++ String.ofList field)
      else .ok type

def nestedComplexType (duckdbType : String) : String :=
  "nested complex DuckDB types are not supported by rsduck catalog: " ++ duckdbType

def validateStructField (duckdbType : String) (field : List Char) : Except String Unit := do
  let fieldType ← structFieldType field
  if containsComplexTypeMarker fieldType then .error (nestedComplexType duckdbType)
  else if isScalarTypePart fieldType then .ok ()
  else .error ("unsupported STRUCT field type for rsduck catalog: " ++ String.ofList fieldType)

def validateMapPart (duckdbType : String) (part : List Char) : Except String Unit :=
  if containsComplexTypeMarker part then .error (nestedComplexType duckdbType)
  else if isScalarTypePart part then .ok ()
  else .error ("unsupported MAP key/value type for rsduck catalog: " ++ String.ofList part)

/-- The text is cut at the last bracket, and its last character is taken for the closing one. -/
def fixedFloatArrayDimension (duckdbType : String) : Except String ℕ :=
  let s := duckdbType.toList
  let invalid := "invalid fixed array DuckDB type syntax: " ++ duckdbType
  if '[' ∉ s then .error invalid
  else
    let element := trim (s.reverse.dropWhile (· != '[')).tail.reverse
    let dimensionText := trim (s.reverse.takeWhile (· != '[')).reverse.dropLast
    if element = [] ∨ '[' ∈ element ∨ ']' ∈ element ∨ dimensionText = [] ∨
        !dimensionText.all Char.isDigit then .error invalid
    else if scalarTypeIdForDuckdbType (String.ofList element) ≠ some typeFloat4 then
      .error ("fixed array DuckDB type only supports FLOAT elements: " ++ duckdbType)
    else
      let n := dimensionText.foldl (fun n d => 10 * n + (d.toNat - '0'.toNat)) 0
      if 2 ^ 64 ≤ n then .error ("invalid fixed array dimension: " ++ duckdbType)
      else if n = 0 then
        .error ("fixed array dimension must be greater than zero: " ++ duckdbType)
      else .ok n

def validateSupportedComplexType (duckdbType : String) : Except String Unit :=
  let trimmed := trim duckdbType.toList
  let lower := toAsciiLowercase trimmed
  if "[]".toList.isSuffixOf trimmed then
    let element := trimmed.dropLast.dropLast
    if "[]".toList.isSuffixOf element || containsComplexTypeMarker element then
      .error (nestedComplexType duckdbType)
    else if isScalarTypePart element then .ok ()
    else .error (unsupportedType duckdbType)
  else if trimmed.getLast? = some ']' then
    (fixedFloatArrayDimension (String.ofList trimmed)).map fun _ => ()
  else if startsWith "struct(" lower && trimmed.getLast? == some ')' then do
    let fields ← splitTypes (trimmed.drop 7).dropLast
    if fields = [] then .error "STRUCT complex type must contain at least one field"
    else fields.forM (validateStructField duckdbType)
  else if startsWith "map(" lower && trimmed.getLast? == some ')' then do
    let parts ← splitTypes (trimmed.drop 4).dropLast
    if parts.length ≠ 2 then
      .error ("MAP complex type must specify key and value types: " ++ duckdbType)
    else parts.forM (validateMapPart duckdbType)
  else .error (unsupportedType duckdbType)

/-! ### Registration -/

def isAsciiAlphanumeric (c : Char) : Bool := c.isAlpha || c.isDigit

def complexTypname (duckdbType : String) : String :=
  "complex_" ++ String.ofList (trimMatches (· == '_')
    (duckdbType.toList.map fun c => if isAsciiAlphanumeric c then c.toLower else '_'))

def complexTypeRow (typeId : ℤ) (duckdbType : String) : TypeRow :=
  { oid := typeId, typname := complexTypname duckdbType, typnamespace := rsduckCatalogNs
    typowner := adminUserId, typlen := -1, typbyval := false, typtype := "b", typcategory := "J"
    typisdefined := true, typrelid := 0, typelem := 0, typarray := 0
    rsduckPhysicalType := duckdbType }

/-- The id of a type; a complex type that no column has had is registered. -/
def ensureTypeIdForDuckdbType (duckdbType : String) : Eff Catalog ℤ := do
  match scalarTypeIdForDuckdbType duckdbType with
  | some typeId => return typeId
  | none =>
    fromExcept (validateSupportedComplexType duckdbType)
    match (← get).rsType.find (·.rsduckPhysicalType == duckdbType) with
    | some existing => return existing.oid
    | none =>
      let typeId ← allocateOid
      insertRow Slot.type ("register complex DuckDB type " ++ duckdbType ++ " failed: ")
        (complexTypeRow typeId duckdbType)
      return typeId

end Rsduck.Catalog
