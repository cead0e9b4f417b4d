import Mathlib.Data.List.Sort
import Rsduck.Catalog.Bootstrap
import Rsduck.Catalog.Lookup
import Rsduck.Lib.DecimalText

/-!
The types of a table's columns, as the catalog records them and gives them back.

A scalar type is recorded as its id and, for a decimal, its precision and scale; what is given back
is the one name that the catalog has for the id. A complex type is recorded by its text.
-/

namespace Rsduck.Catalog.ColumnTypes

open Lib Lib.Eff Lib.Text Lib.FloatFormat Lib.DecimalText

/-! ### The type that is given back -/

/-- What `rs_type` has for a scalar type. -/
def physicalName (typeId : ℤ) : String :=
  ((bootstrapTypes.find? (·.oid == typeId)).map (·.rsduckPhysicalType)).getD ""

/-- The type rebuilt from what is recorded of a type. -/
def rebuiltType (duckdbType : String) : String :=
  match scalarTypeIdForDuckdbType duckdbType with
  | some typeId => duckdbTypeWithModifier (physicalName typeId) (typeModifierForDuckdbType duckdbType)
  | none => duckdbType

def decimalText (precision scale : ℕ) : String :=
  "DECIMAL(" ++ toString precision ++ "," ++ toString scale ++ ")"

/-- The names that the catalog has for the scalar types, in lower case. -/
def physicalNames : List String :=
  ["boolean", "smallint", "integer", "bigint", "real", "double", "varchar", "date", "time",
    "timestamp", "decimal"]

/-- A type that is given back as it was: a complex type, a scalar type under the name that the catalog
has for it, or a decimal with its precision and scale written out. -/
def KeptType (duckdbType : String) : Prop :=
  scalarTypeIdForDuckdbType duckdbType = none ∨ lowerString duckdbType ∈ physicalNames ∨
    ∃ precision scale, validDecimal precision scale = true ∧
      lowerString duckdbType = lowerString (decimalText precision scale)

/-! ### Decimals -/

section Decimals

variable {t : String} {precision scale : ℕ}

/-- The parts of a text that is a decimal's but for case. -/
lemma toList_of_lower_decimal
    (h : lowerString t = lowerString (decimalText precision scale)) :
    ∃ w, toAsciiLowercase w = "decimal".toList ∧
      t.toList = w ++ '(' :: (Nat.toDigits 10 precision ++ ',' :: (Nat.toDigits 10 scale ++ [')'])) := by
  have hp := toAsciiLowercase_digits (allDigits_toDigits precision)
  have hs := toAsciiLowercase_digits (allDigits_toDigits scale)
  have hlist : toAsciiLowercase t.toList = "decimal".toList ++
      ('(' :: (Nat.toDigits 10 precision ++ ',' :: (Nat.toDigits 10 scale ++ [')']))) := by
    have := congrArg String.toList h
    unfold lowerString decimalText at this
    rw [String.toList_ofList, String.toList_ofList] at this
    rw [this]
    unfold toAsciiLowercase at hp hs ⊢
    simp only [String.toList_append, List.map_append, Nat.toString_eq_repr, Nat.toList_repr, hp, hs]
    simp
  unfold toAsciiLowercase at hlist
  obtain ⟨w, rest, ht, hw, hrest⟩ := List.map_eq_append_iff.1 hlist
  refine ⟨w, hw, ?_⟩
  rw [ht, eq_of_toAsciiLowercase_eq ?_ hrest]
  intro d hd
  simp only [List.mem_cons, List.mem_append, List.not_mem_nil, or_false] at hd
  rcases hd with rfl | hd | rfl | hd | rfl
  · decide
  · have := toNat_of_isDigit (allDigits_toDigits precision d hd)
    omega
  · decide
  · have := toNat_of_isDigit (allDigits_toDigits scale d hd)
    omega
  · decide

lemma parseU8_digits {s : List Char} (h : AllDigits s) (hne : s ≠ [])
    (hlt : Nat.ofDigitChars 10 s 0 < 256) : parseU8 s = some (Nat.ofDigitChars 10 s 0) := by
  have hall : s.all Char.isDigit = true := List.all_eq_true.2 h
  unfold parseU8
  split
  · rename_i r
    have hplus := h '+' List.mem_cons_self
    cases hplus
  · change (if s = [] ∨ _ then none else
      if Nat.ofDigitChars 10 s 0 < 256 then some (Nat.ofDigitChars 10 s 0) else none) = _
    rw [if_neg (by simp [hne, hall]), if_pos hlt]

/-- **A decimal that is written out is read** with its precision and scale. -/
lemma decimalPrecisionAndScale_of_lower (hvalid : validDecimal precision scale = true)
    (h : lowerString t = lowerString (decimalText precision scale)) :
    decimalPrecisionAndScale t = some (precision, scale) := by
  obtain ⟨w, hw, ht⟩ := toList_of_lower_decimal h
  have hbounds : precision ≤ 38 ∧ scale ≤ precision := by
    unfold validDecimal at hvalid
    simp only [Bool.and_eq_true, decide_eq_true_eq] at hvalid
    exact ⟨hvalid.1.2, hvalid.2⟩
  obtain ⟨c, v, rfl⟩ : ∃ c v, w = c :: v := by
    rcases w with _ | ⟨c, v⟩
    · cases hw
    · exact ⟨c, v, rfl⟩
  have hhead : isWhitespace c = false := by
    have hlower : c.toLower = 'd' := (List.cons.inj hw).1
    rw [← isWhitespace_toLower, hlower]
    rfl
  have hend : t.toList = ((c :: v) ++ '(' :: (Nat.toDigits 10 precision ++ ',' ::
      Nat.toDigits 10 scale)) ++ [')'] := by
    rw [ht]
    simp
  have htrim : trim t.toList = t.toList := by
    refine trim_of_ends (fun d hd => ?_) fun d hd => ?_
    · rw [ht, List.cons_append, List.head?_cons] at hd
      cases hd
      exact hhead
    · rw [hend, List.getLast?_concat] at hd
      cases hd
      rfl
  have hdecimal : isDecimalType t = true := by
    have hstart : startsWith "decimal(" (toAsciiLowercase t.toList) = true := by
      rw [ht, toAsciiLowercase, List.map_append, ← toAsciiLowercase, hw, List.map_cons]
      exact List.isPrefixOf_iff_prefix.2 ⟨_, rfl⟩
    unfold isDecimalType trimString lowerString
    simp only [htrim, String.ofList_toList, String.toList_ofList, hstart, Bool.or_true, Bool.true_or]
  have hopen : t.toList.dropWhile (· != '(') =
      '(' :: (Nat.toDigits 10 precision ++ ',' :: Nat.toDigits 10 scale ++ [')']) := by
    have hnone : ∀ d ∈ c :: v, (d != '(') = true := by
      intro d hd
      rw [bne_iff_ne]
      rintro rfl
      have hmem : '('.toLower ∈ toAsciiLowercase (c :: v) := List.mem_map_of_mem hd
      rw [hw] at hmem
      revert hmem
      decide
    rw [ht, List.dropWhile_append_of_pos hnone, List.dropWhile_cons_of_neg (by simp)]
    simp
  have hcomma : (Nat.toDigits 10 precision ++ ',' :: Nat.toDigits 10 scale).span (· != ',') =
      (Nat.toDigits 10 precision, ',' :: Nat.toDigits 10 scale) := by
    have hnone : ∀ d ∈ Nat.toDigits 10 precision, (d != ',') = true := by
      intro d hd
      rw [bne_iff_ne]
      rintro rfl
      have := allDigits_toDigits precision ',' hd
      cases this
    rw [List.span_eq_takeWhile_dropWhile, List.takeWhile_append_of_pos hnone,
      List.dropWhile_append_of_pos hnone]
    simp
  have hprecision : parseU8 (trim (Nat.toDigits 10 precision)) = some precision := by
    rw [trim_digits (allDigits_toDigits _), parseU8_digits (allDigits_toDigits _)
      Nat.toDigits_ne_nil (by rw [Nat.ofDigitChars_ten_toDigits]; omega),
      Nat.ofDigitChars_ten_toDigits]
  have hscale : parseU8 (trim (Nat.toDigits 10 scale)) = some scale := by
    rw [trim_digits (allDigits_toDigits _), parseU8_digits (allDigits_toDigits _)
      Nat.toDigits_ne_nil (by rw [Nat.ofDigitChars_ten_toDigits]; omega),
      Nat.ofDigitChars_ten_toDigits]
  have hbefore : ((Nat.toDigits 10 precision ++ ',' :: Nat.toDigits 10 scale ++ [')']).reverse.dropWhile
      (· != ')')).tail.reverse = Nat.toDigits 10 precision ++ ',' :: Nat.toDigits 10 scale := by
    rw [List.reverse_append, List.reverse_singleton, List.singleton_append,
      List.dropWhile_cons_of_neg (by simp), List.tail_cons, List.reverse_reverse]
  have hafter : ((Nat.toDigits 10 precision ++ ',' :: Nat.toDigits 10 scale ++ [')']).reverse.takeWhile
      (· != ')')).reverse = [] := by
    rw [List.reverse_append, List.reverse_singleton, List.singleton_append,
      List.takeWhile_cons_of_neg (by simp), List.reverse_nil]
  have htrimNil : trim [] = [] := rfl
  unfold decimalPrecisionAndScale
  rw [List.span_eq_takeWhile_dropWhile] at hcomma
  simp only [htrim, hdecimal, Bool.not_true, Bool.false_eq_true, if_false,
    List.span_eq_takeWhile_dropWhile, hopen, List.tail_cons, hbefore, hafter, hcomma, hprecision,
    hscale, hvalid, if_true]
  simp [htrimNil]

/-- What a modifier is made of is read from it. -/
lemma fromModifier_of_decimal (h : decimalPrecisionAndScale t = some (precision, scale))
    (hvalid : validDecimal precision scale = true) :
    decimalPrecisionAndScaleFromModifier (typeModifierForDuckdbType t) = some (precision, scale) := by
  have hbounds : precision ≤ 38 ∧ scale ≤ precision := by
    unfold validDecimal at hvalid
    simp only [Bool.and_eq_true, decide_eq_true_eq] at hvalid
    exact ⟨hvalid.1.2, hvalid.2⟩
  have hmodifier : typeModifierForDuckdbType t =
      ((precision * 2 ^ 16 + scale : ℕ) : ℤ) + typeModifierHeaderSize := by
    unfold typeModifierForDuckdbType
    rw [h]
  have hencoded : (((precision * 2 ^ 16 + scale : ℕ) : ℤ) + typeModifierHeaderSize -
      typeModifierHeaderSize).toNat = precision * 2 ^ 16 + scale := by omega
  have hprecision : (precision * 2 ^ 16 + scale) / 2 ^ 16 % 256 = precision := by omega
  have hscale : (precision * 2 ^ 16 + scale) % 256 = scale := by omega
  unfold decimalPrecisionAndScaleFromModifier
  rw [hmodifier, if_neg (by omega)]
  simp only [hencoded, hprecision, hscale, hvalid, if_true]

/-- No scalar type before the decimals has a name that starts like theirs. -/
lemma scalarTypeId_decimal (h : startsWith "decimal" (toAsciiLowercase t.toList) = true) :
    scalarTypeIdForDuckdbType t = some typeNumeric := by
  have hlist : (lowerString t).toList = toAsciiLowercase t.toList := String.toList_ofList
  have hnames : ∀ e ∈ scalarTypes.take 6, e.openings = [] ∧
      ∀ name ∈ e.names, startsWith "decimal" name.toList = false := by
    decide +kernel
  have hsplit : scalarTypes = scalarTypes.take 6 ++
      ⟨[], ["decimal", "numeric"], typeNumeric⟩ :: scalarTypes.drop 7 := rfl
  have hfirst : (scalarTypes.take 6).find? (·.is (lowerString t)) = none := by
    rw [List.find?_eq_none]
    intro e he
    obtain ⟨hopen, hname⟩ := hnames e he
    unfold ScalarType.is
    rw [hopen, List.any_nil, Bool.or_false, List.contains_iff_mem]
    intro hmem
    have hfalse := hname _ hmem
    rw [hlist, h] at hfalse
    cases hfalse
  have hdecimal : (ScalarType.mk [] ["decimal", "numeric"] typeNumeric).is (lowerString t) = true := by
    unfold ScalarType.is
    rw [hlist]
    simp [h]
  unfold scalarTypeIdForDuckdbType
  rw [hsplit, List.find?_append, hfirst, Option.none_or, List.find?_cons_of_pos hdecimal]
  rfl

end Decimals

/-! ### Which types are given back -/

lemma scalarTypeId_congr {t u : String} (h : lowerString t = lowerString u) :
    scalarTypeIdForDuckdbType t = scalarTypeIdForDuckdbType u := by
  unfold scalarTypeIdForDuckdbType
  rw [h]

/-- What every scalar id is written as. -/
lemma physicalName_mem : ∀ typeId ∈ scalarTypeIds, lowerString (physicalName typeId) ∈ physicalNames ∧
    (typeId ≠ typeNumeric → isDecimalType (physicalName typeId) = false) := by
  decide +kernel

/-- What every name of the catalog is mapped to. -/
lemma scalarTypeId_physicalName : ∀ name ∈ physicalNames, ∃ typeId ∈ scalarTypeIds,
    scalarTypeIdForDuckdbType name = some typeId ∧ lowerString (physicalName typeId) = name ∧
      (typeId = typeNumeric → name = "decimal") := by
  decide +kernel


section Kept

variable {t : String}

/-- Without a parenthesis no precision is read. -/
lemma decimalPrecisionAndScale_of_not_mem (h : '(' ∉ t.toList) : decimalPrecisionAndScale t = none := by
  have hnone : (trim t.toList).dropWhile (· != '(') = [] := by
    rw [List.dropWhile_eq_nil_iff]
    intro c hc
    rw [bne_iff_ne]
    rintro rfl
    exact h (mem_of_mem_trim hc)
  unfold decimalPrecisionAndScale
  simp only [List.span_eq_takeWhile_dropWhile, hnone, true_or, if_true]
  split_ifs <;> rfl

lemma rebuiltType_of_plain {typeId : ℤ} (h : scalarTypeIdForDuckdbType t = some typeId)
    (hne : typeId ≠ typeNumeric) : rebuiltType t = physicalName typeId := by
  have hplain := (physicalName_mem typeId (scalarTypeId_mem h)).2 hne
  unfold rebuiltType duckdbTypeWithModifier
  rw [h]
  simp only [hplain, Bool.not_false, if_true]

lemma rebuiltType_of_numeric (h : scalarTypeIdForDuckdbType t = some typeNumeric) :
    rebuiltType t =
      match decimalPrecisionAndScaleFromModifier (typeModifierForDuckdbType t) with
      | some (precision, scale) => decimalText precision scale
      | none => "DECIMAL" := by
  have hdecimal : isDecimalType "DECIMAL" = true := by decide +kernel
  have hname : physicalName typeNumeric = "DECIMAL" := by decide +kernel
  unfold rebuiltType duckdbTypeWithModifier decimalText
  rw [h]
  rcases decimalPrecisionAndScaleFromModifier (typeModifierForDuckdbType t) with _ | ⟨_, _⟩
  · simp only [hname, hdecimal, Bool.not_true, Bool.false_eq_true, if_false]
  · simp only [hname, hdecimal, Bool.not_true, Bool.false_eq_true, if_false]

lemma validDecimal_of_modifier {typeModifier : ℤ} {precision scale : ℕ}
    (h : decimalPrecisionAndScaleFromModifier typeModifier = some (precision, scale)) :
    validDecimal precision scale = true := by
  unfold decimalPrecisionAndScaleFromModifier at h
  split_ifs at h
  dsimp only at h
  split_ifs at h with hvalid
  cases h
  exact hvalid

/-- A type that comes back the same up to case is one of the kept ones. -/
lemma keptType_of_lower_eq (h : lowerString (rebuiltType t) = lowerString t) : KeptType t := by
  rcases hid : scalarTypeIdForDuckdbType t with _ | typeId
  · exact Or.inl hid
  · by_cases hne : typeId = typeNumeric
    · subst hne
      rw [rebuiltType_of_numeric hid] at h
      rcases hmodifier : decimalPrecisionAndScaleFromModifier (typeModifierForDuckdbType t)
        with _ | ⟨precision, scale⟩
      · rw [hmodifier] at h
        refine Or.inr (Or.inl ?_)
        rw [← h]
        decide +kernel
      · rw [hmodifier] at h
        exact Or.inr (Or.inr ⟨precision, scale, validDecimal_of_modifier hmodifier, h.symm⟩)
    · rw [rebuiltType_of_plain hid hne] at h
      refine Or.inr (Or.inl ?_)
      rw [← h]
      exact (physicalName_mem typeId (scalarTypeId_mem hid)).1

lemma lower_eq_of_name (h : lowerString t ∈ physicalNames) :
    lowerString (rebuiltType t) = lowerString t := by
  obtain ⟨typeId, -, hid, hname, hnumeric⟩ := scalarTypeId_physicalName _ h
  rw [scalarTypeId_congr (lowerString_lowerString t)] at hid
  by_cases hne : typeId = typeNumeric
  · subst hne
    have hlower := hnumeric rfl
    have hparenthesis : '(' ∉ t.toList := by
      intro hmem
      have hmem' : '('.toLower ∈ toAsciiLowercase t.toList := List.mem_map_of_mem hmem
      have hlist : toAsciiLowercase t.toList = "decimal".toList := by
        rw [← hlower, lowerString, String.toList_ofList]
      rw [hlist] at hmem'
      revert hmem'
      decide
    have hmodifier : typeModifierForDuckdbType t = -1 := by
      unfold typeModifierForDuckdbType
      rw [decimalPrecisionAndScale_of_not_mem hparenthesis]
    rw [rebuiltType_of_numeric hid, hmodifier, hlower]
    decide +kernel
  · rw [rebuiltType_of_plain hid hne, hname]

lemma lower_eq_of_decimal {precision scale : ℕ} (hvalid : validDecimal precision scale = true)
    (h : lowerString t = lowerString (decimalText precision scale)) :
    lowerString (rebuiltType t) = lowerString t := by
  obtain ⟨w, hw, ht⟩ := toList_of_lower_decimal h
  have hstart : startsWith "decimal" (toAsciiLowercase t.toList) = true := by
    rw [ht, toAsciiLowercase, List.map_append, ← toAsciiLowercase, hw]
    exact List.isPrefixOf_iff_prefix.2 ⟨_, rfl⟩
  rw [rebuiltType_of_numeric (scalarTypeId_decimal hstart),
    fromModifier_of_decimal (decimalPrecisionAndScale_of_lower hvalid h) hvalid, h]

/-- **Which types come back** as they were, up to case. -/
lemma lower_rebuiltType_iff : lowerString (rebuiltType t) = lowerString t ↔ KeptType t := by
  constructor
  · exact keptType_of_lower_eq
  · rintro (hcomplex | hname | ⟨precision, scale, hvalid, htext⟩)
    · unfold rebuiltType
      rw [hcomplex]
    · exact lower_eq_of_name hname
    · exact lower_eq_of_decimal hvalid htext

end Kept

/-! ### Recording and reading columns -/

/-- A column, as `duckdb_columns()` reports it. -/
structure DuckdbColumn where
  columnName : String
  dataType : String
  isNullable : Bool
  columnDefault : Option String
  columnIndex : ℤ

structure CatalogColumn where
  name : String
  typeId : ℤ
  duckdbType : String
  attnum : ℤ
  notNull : Bool
  defaultExpr : Option String

def loadDuckdbColumn (col : DuckdbColumn) : Eff Catalog CatalogColumn := do
  let typeId ← ensureTypeIdForDuckdbType col.dataType
  return { name := col.columnName, typeId, duckdbType := col.dataType, attnum := col.columnIndex
           notNull := !col.isNullable, defaultExpr := col.columnDefault }

def loadDuckdbColumns (schema relation : String) (cols : List DuckdbColumn) :
    Eff Catalog (List CatalogColumn) := do
  let columns ← cols.mapM loadDuckdbColumn
  ensure (!columns.isEmpty) ("DuckDB relation has no columns: " ++ schema ++ "." ++ relation)
  return columns

def attributeRow (relOid : ℤ) (column : CatalogColumn) : ColumnRow where
  attrelid := relOid
  attname := column.name
  atttypid := column.typeId
  attnum := column.attnum
  atttypmod := typeModifierForDuckdbType column.duckdbType
  attnotnull := column.notNull
  atthasdef := column.defaultExpr.isSome
  attisdropped := false
  attidentity := ""
  attgenerated := ""
  attoptions := ""

def insertAttributeRow (relOid : ℤ) (column : CatalogColumn) : Eff Catalog PUnit := do
  insertRow Slot.column "write rs_column failed: " (attributeRow relOid column)
  match column.defaultExpr with
  | none => return ⟨⟩
  | some defaultExpr =>
    let defaultOid ← allocateOid
    insertRow Slot.columnDefault "write rs_column_default failed: "
      ⟨defaultOid, relOid, column.attnum, defaultExpr⟩

/-- What a relation is registered with. -/
structure NewRelation where
  relOid : ℤ
  typeOid : ℤ
  schema : String
  relation : String
  relkind : RelKind
  managedKind : ManagedKind
  visibility : Visibility
  generatedSql : String
  ownerUserId : ℤ

def NewRelation.typeRow (r : NewRelation) (namespaceOid : ℤ) : TypeRow :=
  { oid := r.typeOid, typname := r.relation, typnamespace := namespaceOid, typowner := r.ownerUserId
    typlen := -1, typbyval := false, typtype := "c", typcategory := "C", typisdefined := true
    typrelid := r.relOid, typelem := 0, typarray := 0, rsduckPhysicalType := "STRUCT" }

def NewRelation.relationRow (r : NewRelation) (namespaceOid : ℤ) (columns : ℕ) : RelationRow :=
  { oid := r.relOid, relname := r.relation, relnamespace := namespaceOid, reltype := r.typeOid
    relowner := r.ownerUserId, relkind := r.relkind, relpersistence := "p", relnatts := columns
    reltuples := 0, relhasindex := false, relispartition := false, relpartbound := ""
    reloptions := "", status := .active, errorMessage := "" }

def NewRelation.extRow (r : NewRelation) : RelationExtRow :=
  { relid := r.relOid, managedKind := r.managedKind, storageMode := "memory"
    visibility := r.visibility, partitionKey := "", partitionKeyType := "", partitionUnit := none
    retentionCount := 0, generatedSql := r.generatedSql, propertiesJson := "\x7b\x7d" }

def insertRelationRows (r : NewRelation) (columns : List CatalogColumn) : Eff Catalog PUnit := do
  let namespaceOid ← look (namespaceOid · r.schema)
  insertRow Slot.type "write relation row type failed: " (r.typeRow namespaceOid)
  insertRow Slot.relation "write rs_relation failed: " (r.relationRow namespaceOid columns.length)
  columns.forM (insertAttributeRow r.relOid)
  insertRow Slot.relationExt "write rs_relation_ext failed: " r.extRow

/-- A relation is registered with the columns that DuckDB reports of it. -/
def registerRelation (r : NewRelation) (cols : List DuckdbColumn) : Eff Catalog PUnit := do
  let columns ← loadDuckdbColumns r.schema r.relation cols
  insertRelationRows r columns

/-- A row of `rs_column` with its type and default. -/
def catalogColumn (c : Catalog) (a : ColumnRow) : Option CatalogColumn := do
  let t ← c.rsType.find (·.oid == a.atttypid)
  let default := c.rsColumnDefault.find fun d => d.adrelid == a.attrelid && d.adnum == a.attnum
  return { name := a.attname, typeId := a.atttypid
           duckdbType := duckdbTypeWithModifier t.rsduckPhysicalType a.atttypmod
           attnum := a.attnum, notNull := a.attnotnull, defaultExpr := default.map (·.adbin) }

def catalogColumns (c : Catalog) (relOid : ℤ) : List CatalogColumn :=
  ((c.rsColumn.select fun a => a.attrelid == relOid && !a.attisdropped).insertionSort
    fun a b : ColumnRow => a.attnum ≤ b.attnum).filterMap (catalogColumn c)

def columnMismatch (k p : CatalogColumn) : String :=
  "column mismatch at catalog attnum " ++ toString k.attnum ++ ": catalog=" ++ k.name ++ ":" ++
    k.duckdbType ++ " duckdb=" ++ p.name ++ ":" ++ p.duckdbType

def columnsMatch (k p : CatalogColumn) : Bool :=
  eqIgnoreCase k.name p.name && k.typeId == p.typeId && eqIgnoreCase k.duckdbType p.duckdbType

def validateCatalogColumnsMatchDuckdb (relOid : ℤ) (schema relname : String)
    (cols : List DuckdbColumn) : Eff Catalog PUnit := do
  let catalog := catalogColumns (← get) relOid
  let physical ← loadDuckdbColumns schema relname cols
  ensure (catalog.length == physical.length) ("column count mismatch: catalog=" ++
    toString catalog.length ++ ", duckdb=" ++ toString physical.length)
  (catalog.zip physical).forM fun p => ensure (columnsMatch p.1 p.2) (columnMismatch p.1 p.2)

/-! ### Types that the catalog knows -/

section Known

variable {c c' : Catalog} {t : String} {typeId : ℤ}

/-- The catalog is not that of a database without the built-in types. -/
def Bootstrapped (c : Catalog) : Prop := ∀ r ∈ bootstrapTypes, r ∈ c.rsType.rows

/-- The type has this id, and need not be registered. -/
def Known (c : Catalog) (t : String) (typeId : ℤ) : Prop :=
  scalarTypeIdForDuckdbType t = some typeId ∨
    scalarTypeIdForDuckdbType t = none ∧ validateSupportedComplexType t = .ok () ∧
      ∃ r, c.rsType.find (·.rsduckPhysicalType == t) = some r ∧ r.oid = typeId

lemma Known.of_prefix (h : Known c t typeId) (hle : c.rsType.rows <+: c'.rsType.rows) :
    Known c' t typeId := by
  rcases h with h | ⟨hnone, hvalid, r, hr, hoid⟩
  · exact Or.inl h
  · obtain ⟨rest, hrest⟩ := hle
    refine Or.inr ⟨hnone, hvalid, r, ?_, hoid⟩
    unfold Table.find at hr ⊢
    rw [← hrest, List.find?_append, hr, Option.some_or]

/-- A list's type ends where no precision is read. -/
lemma decimalPrecisionAndScale_of_bracket (h : (trim t.toList).getLast? = some ']') :
    decimalPrecisionAndScale t = none := by
  have hlast : ∀ {xs : List Char}, xs <:+ trim t.toList → xs ≠ [] → xs.getLast? = some ']' := by
    rintro xs ⟨ys, hys⟩ hne
    rw [← hys, List.getLast?_append_of_ne_nil _ hne] at h
    exact h
  unfold decimalPrecisionAndScale
  simp only [List.span_eq_takeWhile_dropWhile]
  split_ifs with hdecimal hbad
  · rfl
  · rfl
  · exfalso
    rw [not_or, not_or, not_or, not_not, not_not] at hbad
    obtain ⟨hopen, hclose, -, hafter⟩ := hbad
    have htail : ((trim t.toList).dropWhile (· != '(')).tail ≠ [] := fun hnil => by
      rw [hnil] at hclose
      cases hclose
    have hbracket := hlast ((List.tail_suffix _).trans (List.dropWhile_suffix _)) htail
    obtain ⟨r, hr⟩ : ∃ r, ((trim t.toList).dropWhile (· != '(')).tail.reverse = ']' :: r := by
      rcases hrev : ((trim t.toList).dropWhile (· != '(')).tail.reverse with _ | ⟨c, r⟩
      · exact absurd (List.reverse_eq_nil_iff.1 hrev) htail
      · rw [← List.head?_reverse, hrev] at hbracket
        cases hbracket
        exact ⟨r, rfl⟩
    rw [hr, List.takeWhile_cons_of_pos (by decide), List.reverse_cons] at hafter
    exact trim_ne_nil (c := ']') (by simp) (by decide) hafter

/-- The texts that complex types have at their ends. -/
lemma shape_of_complex (h : validateSupportedComplexType t = .ok ()) :
    (trim t.toList).getLast? = some ']' ∨ startsWith "struct(" (toAsciiLowercase (trim t.toList)) ∨
      startsWith "map(" (toAsciiLowercase (trim t.toList)) := by
  unfold validateSupportedComplexType at h
  dsimp only at h
  by_cases hlist : "[]".toList.isSuffixOf (trim t.toList) = true
  · obtain ⟨rest, hrest⟩ := List.isSuffixOf_iff_suffix.1 hlist
    left
    rw [← hrest]
    simp
  · rw [if_neg hlist] at h
    by_cases harray : (trim t.toList).getLast? = some ']'
    · exact Or.inl harray
    · rw [if_neg harray] at h
      split_ifs at h with hstruct hmap
      · exact Or.inr (Or.inl (Bool.and_eq_true_iff.1 hstruct).1)
      · exact Or.inr (Or.inr (Bool.and_eq_true_iff.1 hmap).1)

lemma head?_of_startsWith {text : String} {s : List Char} {c : Char}
    (hc : text.toList.head? = some c) (h : startsWith text s = true) : s.head? = some c := by
  obtain ⟨r, rfl⟩ := List.isPrefixOf_iff_prefix.1 h
  rw [List.head?_append, hc, Option.some_or]

/-- How a decimal's name begins. -/
lemma head?_of_isDecimalType (h : isDecimalType t = true) :
    (toAsciiLowercase (trim t.toList)).head? = some 'd' ∨
      (toAsciiLowercase (trim t.toList)).head? = some 'n' := by
  have hlist : (lowerString (trimString t)).toList = toAsciiLowercase (trim t.toList) := by
    unfold lowerString trimString
    rw [String.toList_ofList, String.toList_ofList]
  unfold isDecimalType at h
  simp only [Bool.or_eq_true, beq_iff_eq] at h
  rw [← hlist]
  rcases h with ((h | h) | h) | h
  · rw [h]
    exact Or.inl rfl
  · rw [h]
    exact Or.inr rfl
  · exact Or.inl (head?_of_startsWith rfl h)
  · exact Or.inr (head?_of_startsWith rfl h)

/-- A complex type has no modifier, also where it reads like a decimal. -/
lemma withModifier_of_complex (h : validateSupportedComplexType t = .ok ()) :
    duckdbTypeWithModifier t (typeModifierForDuckdbType t) = t := by
  unfold duckdbTypeWithModifier
  by_cases hdecimal : isDecimalType t = true
  · have hlast : (trim t.toList).getLast? = some ']' := by
      rcases shape_of_complex h with hlast | hstruct | hmap
      · exact hlast
      · have hs := head?_of_startsWith (c := 's') rfl hstruct
        rcases head?_of_isDecimalType hdecimal with hd | hn
        · rw [hs] at hd
          cases hd
        · rw [hs] at hn
          cases hn
      · have hm := head?_of_startsWith (c := 'm') rfl hmap
        rcases head?_of_isDecimalType hdecimal with hd | hn
        · rw [hm] at hd
          cases hd
        · rw [hm] at hn
          cases hn
    have hmodifier : typeModifierForDuckdbType t = -1 := by
      unfold typeModifierForDuckdbType
      rw [decimalPrecisionAndScale_of_bracket hlast]
    rw [hmodifier]
    simp only [hdecimal, Bool.not_true, Bool.false_eq_true, if_false]
    rfl
  · rw [if_pos (by simpa using hdecimal)]

/-- The only row with an id is the one found by it. -/
lemma find_oid {r : TypeRow} (hr : r ∈ c.rsType.rows) : c.rsType.find (·.oid == r.oid) = some r := by
  refine Table.find?_eq_some_of_unique hr (beq_self_eq_true _) fun s hs hoid => ?_
  refine Table.eq_of_clash hs hr ?_
  change (decide (s.oid = r.oid) || _) = true
  rw [decide_eq_true (beq_iff_eq.1 hoid), Bool.true_or]

lemma physicalName_of_bootstrap : ∀ typeId ∈ scalarTypeIds, ∃ r ∈ bootstrapTypes, r.oid = typeId ∧
    r.rsduckPhysicalType = physicalName typeId := by
  decide +kernel

/-- What the catalog gives for the id of a known type. -/
lemma Known.find (h : Known c t typeId) (hboot : Bootstrapped c) :
    ∃ r, c.rsType.find (·.oid == typeId) = some r ∧
      duckdbTypeWithModifier r.rsduckPhysicalType (typeModifierForDuckdbType t) = rebuiltType t := by
  rcases h with h | ⟨hnone, hvalid, r, hr, rfl⟩
  · obtain ⟨r, hr, rfl, hname⟩ := physicalName_of_bootstrap typeId (scalarTypeId_mem h)
    refine ⟨r, find_oid (hboot r hr), ?_⟩
    unfold rebuiltType
    rw [h, hname]
  · refine ⟨r, find_oid (List.mem_of_find?_eq_some hr), ?_⟩
    have hphysical : r.rsduckPhysicalType = t := by
      have := List.find?_some hr
      simpa using this
    unfold rebuiltType
    rw [hnone, hphysical, withModifier_of_complex hvalid]

/-- What finding or registering a type does. -/
lemma known_of_runs (h : Runs (ensureTypeIdForDuckdbType t) c typeId c') :
    Known c' t typeId ∧ c.rsType.rows <+: c'.rsType.rows ∧ c'.rsColumn = c.rsColumn := by
  unfold ensureTypeIdForDuckdbType at h
  rcases hid : scalarTypeIdForDuckdbType t with _ | id
  · simp only [hid] at h
    obtain ⟨_, c₁, hcheck, hlookup⟩ := runs_bind.1 h
    obtain ⟨hvalid, rfl⟩ := runs_fromExcept.1 hcheck
    rw [runs_get_bind] at hlookup
    rcases hfind : c₁.rsType.find (·.rsduckPhysicalType == t) with _ | r
    · simp only [hfind] at hlookup
      obtain ⟨oid, c₂, halloc, hregister⟩ := runs_bind.1 hlookup
      obtain ⟨-, rfl⟩ := runs_allocateOid.1 halloc
      obtain ⟨_, c₃, hinsert, hend⟩ := runs_bind.1 hregister
      obtain ⟨rfl, rfl⟩ := runs_pure.1 hend
      obtain ⟨table, htable, rfl⟩ := runs_insertRow.1 hinsert
      have hrows : table.rows = c₁.rsType.rows ++ [complexTypeRow typeId t] :=
        (Table.insert_eq_some.1 htable).2
      refine ⟨Or.inr ⟨hid, hvalid, complexTypeRow typeId t, ?_, rfl⟩, ⟨_, hrows.symm⟩, rfl⟩
      change table.rows.find? _ = _
      unfold Table.find at hfind
      rw [hrows, List.find?_append, hfind, Option.none_or]
      exact List.find?_cons_of_pos (by exact beq_self_eq_true t)
    · simp only [hfind] at hlookup
      obtain ⟨rfl, rfl⟩ := runs_pure.1 hlookup
      exact ⟨Or.inr ⟨hid, hvalid, r, hfind, rfl⟩, List.prefix_refl _, rfl⟩
  · simp only [hid] at h
    obtain ⟨rfl, rfl⟩ := runs_pure.1 h
    exact ⟨Or.inl hid, List.prefix_refl _, rfl⟩

/-- A known type is found again, and nothing is registered. -/
lemma Known.runs (h : Known c t typeId) : Runs (ensureTypeIdForDuckdbType t) c typeId c := by
  unfold ensureTypeIdForDuckdbType
  rcases h with h | ⟨hnone, hvalid, r, hr, rfl⟩
  · simp only [h]
    exact runs_pure.2 ⟨rfl, rfl⟩
  · simp only [hnone]
    refine runs_bind.2 ⟨⟨⟩, c, runs_fromExcept.2 ⟨hvalid, rfl⟩, ?_⟩
    refine runs_get_bind.2 ?_
    simp only [hr]
    exact runs_pure.2 ⟨rfl, rfl⟩

end Known

/-! ### Whole relations -/

section Relations

variable {c c' : Catalog} {r : NewRelation} {cols : List DuckdbColumn}
variable {xs : List CatalogColumn}

/-- A column as it was read from DuckDB. -/
structure Loaded (c : Catalog) (col : DuckdbColumn) (x : CatalogColumn) : Prop where
  name : x.name = col.columnName
  duckdbType : x.duckdbType = col.dataType
  attnum : x.attnum = col.columnIndex
  known : Known c col.dataType x.typeId

lemma Loaded.of_prefix {col : DuckdbColumn} {x : CatalogColumn} (h : Loaded c col x)
    (hle : c.rsType.rows <+: c'.rsType.rows) : Loaded c' col x :=
  ⟨h.name, h.duckdbType, h.attnum, h.known.of_prefix hle⟩

lemma loaded_of_mapM (h : Runs (cols.mapM loadDuckdbColumn) c xs c') :
    cols.Forall₂ (Loaded c') xs ∧ c.rsType.rows <+: c'.rsType.rows ∧ c'.rsColumn = c.rsColumn := by
  induction cols generalizing c xs with
  | nil =>
    obtain ⟨rfl, rfl⟩ := runs_pure.1 h
    exact ⟨.nil, List.prefix_refl _, rfl⟩
  | cons col cols ih =>
    rw [List.mapM_cons] at h
    obtain ⟨x, c₁, hcol, hrest⟩ := runs_bind.1 h
    obtain ⟨ys, c₂, hcols, hend⟩ := runs_bind.1 hrest
    obtain ⟨rfl, rfl⟩ := runs_pure.1 hend
    obtain ⟨typeId, c₃, htype, hx⟩ := runs_bind.1 hcol
    obtain ⟨rfl, rfl⟩ := runs_pure.1 hx
    obtain ⟨hknown, hle, hcolumn⟩ := known_of_runs htype
    obtain ⟨hloaded, hle', hcolumn'⟩ := ih hcols
    exact ⟨.cons ⟨rfl, rfl, rfl, hknown.of_prefix hle'⟩ hloaded, hle.trans hle',
      hcolumn'.trans hcolumn⟩

lemma attnum_of_loaded (h : cols.Forall₂ (Loaded c) xs) :
    xs.map (·.attnum) = cols.map (·.columnIndex) := by
  induction h with
  | nil => rfl
  | cons hx _ ih => rw [List.map_cons, List.map_cons, hx.attnum, ih]

/-- Columns whose types are known are read again, and nothing is registered. -/
lemma runs_mapM_of_loaded (h : cols.Forall₂ (Loaded c) xs) :
    ∃ ys, Runs (cols.mapM loadDuckdbColumn) c ys c ∧ cols.Forall₂ (Loaded c) ys := by
  induction h with
  | nil => exact ⟨[], runs_pure.2 ⟨rfl, rfl⟩, .nil⟩
  | @cons col x cols xs hx _ ih =>
    obtain ⟨ys, hys, hloaded⟩ := ih
    refine ⟨⟨col.columnName, x.typeId, col.dataType, col.columnIndex, !col.isNullable,
      col.columnDefault⟩ :: ys, ?_, .cons ⟨rfl, rfl, rfl, hx.known⟩ hloaded⟩
    rw [List.mapM_cons]
    refine runs_bind.2 ⟨_, c, runs_bind.2 ⟨x.typeId, c, hx.known.runs, runs_pure.2 ⟨rfl, rfl⟩⟩, ?_⟩
    exact runs_bind.2 ⟨ys, c, hys, runs_pure.2 ⟨rfl, rfl⟩⟩

/-- The types stay as they are. -/
lemma rows_of_insertAttributeRow {relOid : ℤ} {x : CatalogColumn} {u : PUnit}
    (h : Runs (insertAttributeRow relOid x) c u c') :
    c'.rsType = c.rsType ∧ c'.rsColumn.rows = c.rsColumn.rows ++ [attributeRow relOid x] := by
  unfold insertAttributeRow at h
  obtain ⟨_, c₁, hcolumn, hdefault⟩ := runs_bind.1 h
  obtain ⟨table, htable, rfl⟩ := runs_insertRow.1 hcolumn
  have hrows : table.rows = c.rsColumn.rows ++ [attributeRow relOid x] :=
    (Table.insert_eq_some.1 htable).2
  rcases hexpr : x.defaultExpr with _ | e
  · simp only [hexpr] at hdefault
    obtain ⟨-, rfl⟩ := runs_pure.1 hdefault
    exact ⟨rfl, hrows⟩
  · simp only [hexpr] at hdefault
    obtain ⟨oid, c₂, halloc, hinsert⟩ := runs_bind.1 hdefault
    obtain ⟨-, rfl⟩ := runs_allocateOid.1 halloc
    obtain ⟨table', -, rfl⟩ := runs_insertRow.1 hinsert
    exact ⟨rfl, hrows⟩

lemma rows_of_forM {relOid : ℤ} {u : PUnit} (h : Runs (xs.forM (insertAttributeRow relOid)) c u c') :
    c'.rsType = c.rsType ∧ c'.rsColumn.rows = c.rsColumn.rows ++ xs.map (attributeRow relOid) := by
  induction xs generalizing c with
  | nil =>
    obtain ⟨-, rfl⟩ := runs_pure.1 h
    exact ⟨rfl, by simp⟩
  | cons x xs ih =>
    obtain ⟨_, c₁, hx, hrest⟩ := runs_bind.1 h
    obtain ⟨htype, hcolumn⟩ := rows_of_insertAttributeRow hx
    obtain ⟨htype', hcolumn'⟩ := ih hrest
    exact ⟨htype'.trans htype, by rw [hcolumn', hcolumn]; simp⟩

lemma rows_of_insertRelationRows {u : PUnit} (h : Runs (insertRelationRows r xs) c u c') :
    c.rsType.rows <+: c'.rsType.rows ∧
      c'.rsColumn.rows = c.rsColumn.rows ++ xs.map (attributeRow r.relOid) := by
  unfold insertRelationRows at h
  obtain ⟨oid, c₁, hlook, hrest⟩ := runs_bind.1 h
  obtain ⟨-, rfl⟩ := runs_look.1 hlook
  obtain ⟨_, c₂, htype, hrest⟩ := runs_bind.1 hrest
  obtain ⟨table, htable, rfl⟩ := runs_insertRow.1 htype
  obtain ⟨_, c₃, hrelation, hrest⟩ := runs_bind.1 hrest
  obtain ⟨table', -, rfl⟩ := runs_insertRow.1 hrelation
  obtain ⟨_, c₄, hcolumns, hext⟩ := runs_bind.1 hrest
  obtain ⟨table'', -, rfl⟩ := runs_insertRow.1 hext
  obtain ⟨htype', hcolumn⟩ := rows_of_forM hcolumns
  have hrows : table.rows = c₁.rsType.rows ++ [r.typeRow oid] := (Table.insert_eq_some.1 htable).2
  refine ⟨⟨[r.typeRow oid], ?_⟩, hcolumn⟩
  change c₁.rsType.rows ++ _ = c₄.rsType.rows
  rw [htype', ← hrows]
  rfl

/-- A column as the catalog gives it back: with the type rebuilt from what was recorded. -/
structure GivenBack (c : Catalog) (col : DuckdbColumn) (k : CatalogColumn) : Prop where
  name : k.name = col.columnName
  known : Known c col.dataType k.typeId
  duckdbType : k.duckdbType = rebuiltType col.dataType

lemma givenBack_of_loaded (relOid : ℤ) {col : DuckdbColumn} {x : CatalogColumn}
    (hboot : Bootstrapped c) (hx : Loaded c col x) :
    ∃ k, catalogColumn c (attributeRow relOid x) = some k ∧ GivenBack c col k := by
  obtain ⟨t, ht, htype⟩ := hx.known.find hboot
  rw [← hx.duckdbType] at htype
  have hfind : c.rsType.find (·.oid == (attributeRow relOid x).atttypid) = some t := ht
  have hread : catalogColumn c (attributeRow relOid x) = some
      { name := x.name, typeId := x.typeId
        duckdbType := duckdbTypeWithModifier t.rsduckPhysicalType
          (typeModifierForDuckdbType x.duckdbType)
        attnum := x.attnum, notNull := x.notNull
        defaultExpr := (c.rsColumnDefault.find fun d => d.adrelid == relOid &&
          d.adnum == x.attnum).map (·.adbin) } := by
    unfold catalogColumn
    rw [hfind]
    simp only [Option.bind_eq_bind, Option.bind_some, attributeRow]
    rfl
  refine ⟨_, hread, hx.name, hx.known, ?_⟩
  rw [← hx.duckdbType]
  dsimp only
  exact htype

/-- The columns of a relation that was registered, as they are read from the catalog. -/
lemma givenBack_of_rows {relOid : ℤ} {rows : List ColumnRow} (hboot : Bootstrapped c)
    (hcolumns : c.rsColumn.rows = rows ++ xs.map (attributeRow relOid))
    (hfresh : ∀ a ∈ rows, a.attrelid ≠ relOid) (hsorted : (xs.map (·.attnum)).Pairwise (· < ·))
    (hloaded : cols.Forall₂ (Loaded c) xs) :
    cols.Forall₂ (GivenBack c) (catalogColumns c relOid) := by
  have hselect : (c.rsColumn.select fun a => a.attrelid == relOid && !a.attisdropped) =
      xs.map (attributeRow relOid) := by
    unfold Table.select
    rw [hcolumns, List.filter_append, List.filter_eq_nil_iff.2, List.nil_append, List.filter_eq_self.2]
    · intro a ha
      obtain ⟨x, -, rfl⟩ := List.mem_map.1 ha
      simp [attributeRow]
    · intro a ha
      simp [hfresh a ha]
  have horder : (xs.map (attributeRow relOid)).insertionSort
      (fun a b : ColumnRow => a.attnum ≤ b.attnum) = xs.map (attributeRow relOid) := by
    refine List.Pairwise.insertionSort_eq ?_
    rw [List.pairwise_map] at hsorted ⊢
    exact hsorted.imp fun {a b} h => le_of_lt h
  unfold catalogColumns
  rw [hselect, horder]
  clear hselect horder hcolumns hsorted
  induction hloaded with
  | nil => exact .nil
  | @cons col x cols xs hx _ ih =>
    obtain ⟨k, hk, hback⟩ := givenBack_of_loaded relOid hboot hx
    rw [List.map_cons, List.filterMap_cons_some hk]
    exact .cons hback ih

lemma Known.unique {t : String} {i j : ℤ} (h : Known c t i) (h' : Known c t j) : i = j := by
  rcases h with h | ⟨hnone, -, a, ha, rfl⟩ <;> rcases h' with h' | ⟨hnone', -, b, hb, rfl⟩
  · exact Option.some.inj (h.symm.trans h')
  · rw [hnone'] at h
    cases h
  · rw [hnone] at h'
    cases h'
  · rw [Option.some.inj (ha.symm.trans hb)]

/-- The types of the columns come back as DuckDB reports them, so that the relation passes the check
of the next start, and columns of different types come back with different types. -/
structure TypesKept (r : NewRelation) (cols : List DuckdbColumn) (c : Catalog) : Prop where
  rebuilt : cols.Forall₂ (fun col k => eqIgnoreCase k.duckdbType col.dataType = true)
    (catalogColumns c r.relOid)
  passes : ∃ u c', Runs (validateCatalogColumnsMatchDuckdb r.relOid r.schema r.relation cols) c u c'
  apart : ∀ p ∈ cols.zip (catalogColumns c r.relOid), ∀ q ∈ cols.zip (catalogColumns c r.relOid),
    eqIgnoreCase p.2.duckdbType q.2.duckdbType = true → eqIgnoreCase p.1.dataType q.1.dataType = true

lemma runs_forM_ensure {α : Type} {ps : List α} {f : α → Bool} {e : α → String}
    (h : ∀ p ∈ ps, f p = true) : Runs (ps.forM fun p => ensure (f p) (e p)) c ⟨⟩ c := by
  induction ps with
  | nil => exact runs_pure.2 ⟨rfl, rfl⟩
  | cons p ps ih =>
    refine runs_bind.2 ⟨⟨⟩, c, runs_ensure.2 ⟨h p List.mem_cons_self, rfl⟩, ?_⟩
    exact ih fun q hq => h q (List.mem_cons_of_mem p hq)

lemma exists_mem_zip {α β : Type} {as : List α} {bs : List β} {a : α}
    (h : as.length = bs.length) (ha : a ∈ as) : ∃ b, (a, b) ∈ as.zip bs := by
  rw [← List.map_fst_zip h.le] at ha
  obtain ⟨⟨a', b⟩, hp, rfl⟩ := List.mem_map.1 ha
  exact ⟨b, hp⟩

/-- Columns that come back the same match what is read again. -/
lemma columnsMatch_of_givenBack {ks : List CatalogColumn} (hback : cols.Forall₂ (GivenBack c) ks)
    (hloaded : cols.Forall₂ (Loaded c) xs) (hkept : ∀ col ∈ cols, KeptType col.dataType) :
    ks.length = xs.length ∧ ∀ p ∈ ks.zip xs, columnsMatch p.1 p.2 = true := by
  induction hback generalizing xs with
  | nil =>
    cases hloaded
    exact ⟨rfl, by simp⟩
  | @cons col k cols ks hk _ ih =>
    cases hloaded with
    | @cons _ x _ xs hx hxs =>
      obtain ⟨hlen, hmatch⟩ := ih hxs fun col' h => hkept col' (List.mem_cons_of_mem col h)
      refine ⟨by simp [hlen], ?_⟩
      intro p hp
      rcases List.mem_cons.1 hp with rfl | hp
      · have htype := lower_rebuiltType_iff.2 (hkept col List.mem_cons_self)
        unfold columnsMatch
        rw [Bool.and_eq_true, Bool.and_eq_true, eqIgnoreCase_iff, eqIgnoreCase_iff, beq_iff_eq, hk.name,
          hk.duckdbType, hx.name, hx.duckdbType]
        exact ⟨⟨rfl, hk.known.unique hx.known⟩, htype⟩
      · exact hmatch p hp

end Relations

section Kept

variable {c c' : Catalog} {r : NewRelation} {cols : List DuckdbColumn} {u : PUnit}

/-- **Which types survive the catalog**: for a new relation, those of all its columns if and only if
every one of them is a complex type, a scalar type under the catalog's name for it, or a decimal with
its precision and scale. -/
theorem typesKept_iff (hboot : Bootstrapped c) (hfresh : ∀ a ∈ c.rsColumn.rows, a.attrelid ≠ r.relOid)
    (horder : (cols.map (·.columnIndex)).Pairwise (· < ·))
    (h : Runs (registerRelation r cols) c u c') :
    TypesKept r cols c' ↔ ∀ col ∈ cols, KeptType col.dataType := by
  obtain ⟨xs, c₁, hload, hinsert⟩ := runs_bind.1 h
  obtain ⟨ys, c₂, hmap, hrest⟩ := runs_bind.1 hload
  obtain ⟨_, c₃, hsome, hend⟩ := runs_bind.1 hrest
  obtain ⟨hne, rfl⟩ := runs_ensure.1 hsome
  obtain ⟨rfl, rfl⟩ := runs_pure.1 hend
  obtain ⟨hloaded, hle, hcolumn⟩ := loaded_of_mapM hmap
  obtain ⟨hle', hcolumns⟩ := rows_of_insertRelationRows hinsert
  have hloaded' : cols.Forall₂ (Loaded c') xs := hloaded.imp fun _ _ hx => hx.of_prefix hle'
  have hboot' : Bootstrapped c' := fun t ht => (hle.trans hle').subset (hboot t ht)
  have hsorted : (xs.map (·.attnum)).Pairwise (· < ·) := by
    rw [attnum_of_loaded hloaded']
    exact horder
  rw [hcolumn] at hcolumns
  have hback : cols.Forall₂ (GivenBack c') (catalogColumns c' r.relOid) :=
    givenBack_of_rows hboot' hcolumns hfresh hsorted hloaded'
  constructor
  · intro hkept col hcol
    obtain ⟨k, hk⟩ := exists_mem_zip hback.length_eq hcol
    have htype := List.forall₂_zip hkept.rebuilt hk
    rw [(List.forall₂_zip hback hk).duckdbType, eqIgnoreCase_iff] at htype
    exact lower_rebuiltType_iff.1 htype
  · intro hkept
    have hrebuilt : cols.Forall₂ (fun col k => eqIgnoreCase k.duckdbType col.dataType = true)
        (catalogColumns c' r.relOid) := by
      refine List.forall₂_iff_zip.2 ⟨hback.length_eq, fun {col k} hk => ?_⟩
      rw [(List.forall₂_zip hback hk).duckdbType, eqIgnoreCase_iff]
      exact lower_rebuiltType_iff.2 (hkept col (List.of_mem_zip hk).1)
    refine ⟨hrebuilt, ?_, ?_⟩
    · obtain ⟨ys, hys, hys'⟩ := runs_mapM_of_loaded hloaded'
      obtain ⟨hlen, hmatch⟩ := columnsMatch_of_givenBack hback hys' hkept
      have hne' : (!ys.isEmpty) = true := by
        have hlength := hys'.length_eq.symm.trans hloaded.length_eq
        rcases ys with _ | ⟨y, ys⟩
        · rw [List.length_eq_zero_iff.1 hlength.symm] at hne
          cases hne
        · rfl
      refine ⟨⟨⟩, c', ?_⟩
      unfold validateCatalogColumnsMatchDuckdb
      refine runs_get_bind.2 (runs_bind.2 ⟨ys, c', ?_, ?_⟩)
      · exact runs_bind.2 ⟨ys, c', hys, runs_bind.2 ⟨⟨⟩, c', runs_ensure.2 ⟨hne', rfl⟩,
          runs_pure.2 ⟨rfl, rfl⟩⟩⟩
      · refine runs_bind.2 ⟨⟨⟩, c', runs_ensure.2 ⟨by simpa using hlen, rfl⟩, ?_⟩
        exact runs_forM_ensure hmatch
    · intro p hp q hq hsame
      have hp' := List.forall₂_zip hrebuilt hp
      have hq' := List.forall₂_zip hrebuilt hq
      rw [eqIgnoreCase_iff] at hp' hq' hsame ⊢
      rw [← hp', ← hq', hsame]

end Kept

/-! ### Two tables -/

def newTable : NewRelation :=
  ⟨20000, 20001, "main", "m", .table, .ordinary, .user, "", adminUserId⟩

def columnOfType (dataType : String) : DuckdbColumn := ⟨"x", dataType, true, none, 1⟩

/-- The catalog of a fresh database in which the table was created. -/
def createdWith (dataType : String) : Catalog :=
  (exec (registerRelation newTable [columnOfType dataType]) (bootstrapRows "" "")).2

/-- A decimal survives. -/
theorem typesKept_decimal :
    TypesKept newTable [columnOfType "DECIMAL(10,2)"] (createdWith "DECIMAL(10,2)") := by
  have hrun : Runs (registerRelation newTable [columnOfType "DECIMAL(10,2)"]) (bootstrapRows "" "")
      ⟨⟩ (createdWith "DECIMAL(10,2)") := by
    rfl
  refine (typesKept_iff (fun _ h => h) (fun _ h => ?_) (List.pairwise_singleton _ _) hrun).2 ?_
  · cases h
  · intro col hcol
    obtain rfl := List.mem_singleton.1 hcol
    exact Or.inr (Or.inr ⟨10, 2, by decide, by decide +kernel⟩)

/-- `CREATE TABLE m(x FLOAT)`, or `REAL`, which DuckDB reports as `FLOAT`: the table does not pass the
next start. Two types of time come back as one. -/
theorem float_not_kept :
    Runs (registerRelation newTable [columnOfType "FLOAT"]) (bootstrapRows "" "") ⟨⟩
      (createdWith "FLOAT") ∧
    (exec (validateCatalogColumnsMatchDuckdb newTable.relOid newTable.schema newTable.relation
      [columnOfType "FLOAT"]) (createdWith "FLOAT")).1 =
        .error "column mismatch at catalog attnum 1: catalog=x:REAL duckdb=x:FLOAT" ∧
    ¬ TypesKept newTable [columnOfType "FLOAT"] (createdWith "FLOAT") ∧
    rebuiltType "TIMESTAMP WITH TIME ZONE" = rebuiltType "TIMESTAMP" := by
  have hcheck : (exec (validateCatalogColumnsMatchDuckdb newTable.relOid newTable.schema
      newTable.relation [columnOfType "FLOAT"]) (createdWith "FLOAT")).1 =
        .error "column mismatch at catalog attnum 1: catalog=x:REAL duckdb=x:FLOAT" := by
    rfl
  refine ⟨by rfl, hcheck, ?_, by decide +kernel⟩
  intro hkept
  obtain ⟨u, c', hruns⟩ := hkept.passes
  rw [show exec _ _ = _ from hruns] at hcheck
  cases hcheck

end Rsduck.Catalog.ColumnTypes
