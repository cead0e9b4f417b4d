import Mathlib.Data.List.Sort
import Mathlib.Data.String.Basic
import Rsduck.Catalog.Journal
import Rsduck.Catalog.Lookup
import Rsduck.Catalog.Partition.Names

/-!
Which partitions retention drops, and what it leaves of them.

The partitions are taken in the order of the texts of their values, and the last ones are kept. The
text of a value is the digits of its period, so that this is the order of time as long as years
have four digits, as they have in a value that bounds are read from.
-/

namespace Rsduck.Catalog.Retention

open Lib Lib.Eff Lib.Calendar Lib.DecimalText Lib.FloatFormat Lib.Text Db Catalog.Partition

/-! ### The order of values -/

section Order

variable {unit : PartitionUnit} {t u : DateTime}

/-- The years that a value with bounds can have. -/
def FourDigits (t : DateTime) : Prop := 0 ≤ t.date.year ∧ t.date.year ≤ 9999

/-- Every time routed to the first value is before every time routed to the second. -/
def Precedes (unit : PartitionUnit) (v w : String) : Prop :=
  ∀ t u, String.ofList (partitionValueForDatetime t unit) = v →
    String.ofList (partitionValueForDatetime u unit) = w → t < u

/-- The number whose digits a value is. -/
def periodNumber (t : DateTime) : PartitionUnit → ℕ
  | .hour => 100 * (100 * (100 * t.date.year.toNat + t.date.month) + t.date.day) + t.hour
  | .day => 100 * (100 * t.date.year.toNat + t.date.month) + t.date.day
  | .month => 100 * t.date.year.toNat + t.date.month
  | .year => t.date.year.toNat

lemma ofDigitChars_append_padded (s : List Char) {n : ℕ} (h : n < 100) :
    Nat.ofDigitChars 10 (s ++ padded 2 n) 0 = 100 * Nat.ofDigitChars 10 s 0 + n := by
  have hlen := length_padded (show 0 < 2 by decide) (show n < 10 ^ 2 by omega)
  rw [Nat.ofDigitChars_append, Nat.ofDigitChars_eq_ofDigitChars_zero, ofDigitChars_padded, hlen]

/-- A value of a year of four digits is digits, as many as its unit has. -/
lemma digits_of_year (h : FourDigits t) (unit : PartitionUnit) :
    AllDigits (partitionValueForDatetime t unit) ∧
      (partitionValueForDatetime t unit).length = valueLength unit ∧
      Nat.ofDigitChars 10 (partitionValueForDatetime t unit) 0 = periodNumber t unit := by
  obtain ⟨hpos, hmax⟩ := h
  have hm := t.date.monthOk
  have hd := t.date.day_le
  have hh := t.hourOk
  have hyear := length_padded (show 0 < 4 by decide) (show t.date.year.toNat < 10 ^ 4 by omega)
  have hmonth := length_padded (show 0 < 2 by decide) (show t.date.month < 10 ^ 2 by omega)
  have hday := length_padded (show 0 < 2 by decide) (show t.date.day < 10 ^ 2 by omega)
  have hhour := length_padded (show 0 < 2 by decide) (show t.hour < 10 ^ 2 by omega)
  have hy := allDigits_padded 4 t.date.year.toNat
  have hmd := allDigits_padded 2 t.date.month
  have hdd := allDigits_padded 2 t.date.day
  have hhd := allDigits_padded 2 t.hour
  unfold partitionValueForDatetime periodNumber
  rw [paddedInt_of_nonneg hpos]
  cases unit with
  | hour =>
    refine ⟨((hy.append hmd).append hdd).append hhd, ?_, ?_⟩
    · simp only [List.length_append]
      change _ = 10
      omega
    · rw [ofDigitChars_append_padded _ (by omega), ofDigitChars_append_padded _ (by omega),
        ofDigitChars_append_padded _ (by omega), ofDigitChars_padded]
  | day =>
    refine ⟨(hy.append hmd).append hdd, ?_, ?_⟩
    · simp only [List.length_append]
      change _ = 8
      omega
    · rw [ofDigitChars_append_padded _ (by omega), ofDigitChars_append_padded _ (by omega),
        ofDigitChars_padded]
  | month =>
    refine ⟨hy.append hmd, ?_, ?_⟩
    · simp only [List.length_append]
      change _ = 6
      omega
    · rw [ofDigitChars_append_padded _ (by omega), ofDigitChars_padded]
  | year => exact ⟨hy, hyear, ofDigitChars_padded 4 _⟩

/-- A value of another year starts with a minus or is too long. -/
lemma fourDigits_of_value {unit : PartitionUnit}
    (h : AllDigits (partitionValueForDatetime t unit))
    (hlen : (partitionValueForDatetime t unit).length = valueLength unit) : FourDigits t := by
  have hm := t.date.monthOk
  have hd := t.date.day_le
  have hh := t.hourOk
  have hmonth := length_padded (show 0 < 2 by decide) (show t.date.month < 10 ^ 2 by omega)
  have hday := length_padded (show 0 < 2 by decide) (show t.date.day < 10 ^ 2 by omega)
  have hhour := length_padded (show 0 < 2 by decide) (show t.hour < 10 ^ 2 by omega)
  have hvalue : ∃ rest, partitionValueForDatetime t unit = paddedInt 4 t.date.year ++ rest ∧
      4 + rest.length = valueLength unit := by
    unfold partitionValueForDatetime
    cases unit with
    | hour =>
      refine ⟨padded 2 t.date.month ++ padded 2 t.date.day ++ padded 2 t.hour, by simp, ?_⟩
      simp only [List.length_append]
      change _ = 10
      omega
    | day =>
      refine ⟨padded 2 t.date.month ++ padded 2 t.date.day, by simp, ?_⟩
      simp only [List.length_append]
      change _ = 8
      omega
    | month =>
      refine ⟨padded 2 t.date.month, rfl, ?_⟩
      change _ = 6
      omega
    | year => exact ⟨[], by simp, rfl⟩
  obtain ⟨rest, hvalue, hrest⟩ := hvalue
  rw [hvalue, List.length_append] at hlen
  rw [hvalue] at h
  constructor
  · by_contra hneg
    have hminus : ('-' : Char).isDigit = true := h '-' (by
      rw [paddedInt, if_pos (by omega)]
      exact List.mem_cons_self)
    cases hminus
  · by_contra hlarge
    have hlong : 4 < (padded 4 t.date.year.toNat).length := lt_length_padded (by omega) (by decide)
    rw [paddedInt_of_nonneg (by omega)] at hlen
    omega

/-- The number of an earlier period is smaller. -/
lemma lt_of_periodNumber_lt (ht : FourDigits t) (hu : FourDigits u)
    (h : periodNumber t unit < periodNumber u unit) : t < u := by
  have hm := t.date.monthOk
  have hd := t.date.day_le
  have hh := t.hourOk
  have hm' := u.date.monthOk
  have hd' := u.date.day_le
  have hh' := u.hourOk
  obtain ⟨hpos, -⟩ := ht
  obtain ⟨hpos', -⟩ := hu
  unfold periodNumber at h
  cases unit with
  | hour =>
    dsimp only at h
    by_cases hdate : t.date.year = u.date.year ∧ t.date.month = u.date.month ∧
        t.date.day = u.date.day
    · obtain ⟨hyear, hmonth, hday⟩ := hdate
      refine lt_of_hour_lt ?_ (by omega)
      unfold Date.dayNumber
      rw [hyear, hmonth, hday]
    · refine lt_of_dayNumber_lt (dayNumber_lt ?_)
      omega
  | day =>
    refine lt_of_dayNumber_lt (dayNumber_lt ?_)
    dsimp only at h
    omega
  | month =>
    refine lt_of_dayNumber_lt (dayNumber_lt ?_)
    dsimp only at h
    omega
  | year =>
    refine lt_of_dayNumber_lt (dayNumber_lt ?_)
    dsimp only at h
    omega

lemma value_lt_iff (ht : FourDigits t) (hu : FourDigits u) :
    partitionValueForDatetime t unit < partitionValueForDatetime u unit ↔
      periodNumber t unit < periodNumber u unit := by
  obtain ⟨hd, hlen, hnumber⟩ := digits_of_year ht unit
  obtain ⟨hd', hlen', hnumber'⟩ := digits_of_year hu unit
  rw [← hnumber, ← hnumber', ofDigitChars_lt_iff hd hd' (hlen.trans hlen'.symm)]

/-- A time with the value of a year of four digits has one, and the same number. -/
lemma periodNumber_of_value (ht : FourDigits t)
    (h : partitionValueForDatetime u unit = partitionValueForDatetime t unit) :
    FourDigits u ∧ periodNumber u unit = periodNumber t unit := by
  obtain ⟨hd, hlen, hnumber⟩ := digits_of_year ht unit
  rw [← h] at hd hlen hnumber
  have hu := fourDigits_of_value hd hlen
  exact ⟨hu, (digits_of_year hu unit).2.2.symm.trans hnumber⟩

lemma precedes_of_lt (ht : FourDigits t) (hu : FourDigits u)
    (h : partitionValueForDatetime t unit < partitionValueForDatetime u unit) :
    Precedes unit (String.ofList (partitionValueForDatetime t unit))
      (String.ofList (partitionValueForDatetime u unit)) := by
  intro a b ha hb
  obtain ⟨hyear, hnumber⟩ := periodNumber_of_value ht (String.ofList_injective ha)
  obtain ⟨hyear', hnumber'⟩ := periodNumber_of_value hu (String.ofList_injective hb)
  have hlt : periodNumber a unit < periodNumber b unit := by
    rw [hnumber, hnumber']
    exact (value_lt_iff ht hu).1 h
  exact lt_of_periodNumber_lt hyear hyear' hlt

/-- **The order of values** is that of the times routed to them. -/
lemma value_lt_iff_precedes (ht : FourDigits t) (hu : FourDigits u) :
    String.ofList (partitionValueForDatetime t unit) <
        String.ofList (partitionValueForDatetime u unit) ↔
      Precedes unit (String.ofList (partitionValueForDatetime t unit))
        (String.ofList (partitionValueForDatetime u unit)) := by
  rw [String.lt_iff_toList_lt, String.toList_ofList, String.toList_ofList]
  constructor
  · exact precedes_of_lt ht hu
  · intro h
    have hlt : t < u := h t u rfl rfl
    rcases lt_trichotomy (partitionValueForDatetime t unit) (partitionValueForDatetime u unit)
      with hless | heq | hmore
    · exact hless
    · exact absurd (h t t rfl (by rw [heq])) (DateTime.lt_irrefl t)
    · exact absurd (precedes_of_lt hu ht hmore u t rfl rfl) (DateTime.lt_asymm hlt)

end Order

/-! ### The partitions of a relation -/

/-- A row of the join that retention reads. -/
structure RetentionPartition where
  partitionValue : String
  schema : String
  relname : String
  relation : RelationRow
  deriving DecidableEq

/-- A table of the engine. -/
structure DuckTable (T : Type) where
  schema : String
  name : String
  content : T

def DuckTable.named {T : Type} (schema name : String) (t : DuckTable T) : Bool :=
  eqIgnoreCase t.schema schema && eqIgnoreCase t.name name

/-- The rows of the partitions that retention counts. -/
def activePartitions (parentOid : ℤ) (c : Catalog) : List PartitionRow :=
  c.rsPartition.select fun p => p.parentRelid == parentOid && p.status == .active &&
    !p.isNullPartition

/-- The relation and the schema that the row of a partition is joined with. -/
def retentionPartition (c : Catalog) (p : PartitionRow) : Option RetentionPartition := do
  let r ← c.rsRelation.find (·.oid == p.childRelid)
  let n ← c.rsSchema.find (·.oid == r.relnamespace)
  return ⟨p.partitionValue, n.nspname, r.relname, r⟩

/-- The partitions in the order of their values. -/
def sortedPartitions (parentOid : ℤ) (c : Catalog) : List PartitionRow :=
  (activePartitions parentOid c).insertionSort fun p q => p.partitionValue ≤ q.partitionValue

def retentionPartitions (parentOid : ℤ) (c : Catalog) : List RetentionPartition :=
  (sortedPartitions parentOid c).filterMap (retentionPartition c)

/-! ### Expiry -/

/-- The rows that go with a relation, by table. -/
def dependencyOf (m : RelationRow) (d : DependencyRow) : Bool := d.objid == m.oid || d.refobjid == m.oid
def commentOf (m : RelationRow) (d : CommentRow) : Bool := d.objoid == m.oid
def columnDefaultOf (m : RelationRow) (d : ColumnDefaultRow) : Bool := d.adrelid == m.oid
def columnOf (m : RelationRow) (d : ColumnRow) : Bool := d.attrelid == m.oid
def constraintOf (m : RelationRow) (d : ConstraintRow) : Bool := d.conrelid == m.oid || d.conindid == m.oid
def indexOf (m : RelationRow) (d : IndexRow) : Bool := d.indexrelid == m.oid || d.indrelid == m.oid
def relationExtOf (m : RelationRow) (d : RelationExtRow) : Bool := d.relid == m.oid
def typeOf (m : RelationRow) (d : TypeRow) : Bool := d.oid == m.reltype || d.typrelid == m.oid
def relationOf (m : RelationRow) (d : RelationRow) : Bool := d.oid == m.oid

def deletePartitionChildCatalog (m : RelationRow) : Eff Catalog PUnit := do
  deleteRows Slot.dependency (dependencyOf m)
  deleteRows Slot.comment (commentOf m)
  deleteRows Slot.columnDefault (columnDefaultOf m)
  deleteRows Slot.column (columnOf m)
  deleteRows Slot.constraint (constraintOf m)
  deleteRows Slot.index (indexOf m)
  deleteRows Slot.relationExt (relationExtOf m)
  deleteRows Slot.type (typeOf m)
  deleteRows Slot.relation (relationOf m)

section Expiry

variable {T : Type}

/-- `DROP TABLE` -/
def dropDuckTable (schema name : String) : Eff (Db (List (DuckTable T))) PUnit := do
  let d ← get
  ensure (d.phys.any (·.named schema name))
    ("Catalog Error: Table with name " ++ name ++ " does not exist!")
  set { d with phys := d.phys.filter fun t : DuckTable T => !t.named schema name }

def expirePartition (parentOid : ℤ) (p : RetentionPartition) :
    Eff (Db (List (DuckTable T))) PUnit := do
  onCatalog (updateRows Slot.partition
    (fun r => r.parentRelid == parentOid && r.childRelid == p.relation.oid && !r.isNullPartition &&
      r.status == .active)
    (fun r => { r with status := .expiring }) fun _ _ => rfl)
  mapError (fun e => "execute DuckDB DROP expired partition " ++ p.schema ++ "." ++ p.relname ++
    " failed: " ++ e) (dropDuckTable p.schema p.relname)
  onCatalog (deletePartitionChildCatalog p.relation)
  onCatalog (updateRows Slot.partition
    (fun r => r.parentRelid == parentOid && r.childRelid == p.relation.oid &&
      r.partitionValue == p.partitionValue)
    (fun r => { r with status := .dropped, errorMessage := "" }) fun _ _ => rfl)

def expireOldPartitions (R : PartitionedRelation) : Eff (Db (List (DuckTable T))) ℕ := do
  if R.retentionCount ≤ 0 then return 0
  let partitions := retentionPartitions R.oid (← get).cat
  let retentionCount := R.retentionCount.toNat
  if partitions.length ≤ retentionCount then return 0
  let expireCount := partitions.length - retentionCount
  (partitions.take expireCount).forM (expirePartition R.oid)
  return expireCount

end Expiry

/-! ### What an expiry leaves -/

/-- The rows that are left when those of some partitions are gone. -/
def Without {ρ : Type} (of : RetentionPartition → ρ → Bool) (ps : List RetentionPartition)
    (xs ys : List ρ) : Prop :=
  ys = xs.filter fun x => ps.all fun p => !of p x

section Without

variable {ρ : Type} {of : RetentionPartition → ρ → Bool} {p : RetentionPartition}
variable {ps : List RetentionPartition} {xs ys zs : List ρ}

lemma Without.nil : Without of [] xs xs := by
  unfold Without
  simp

lemma Without.one : Without of [p] xs (xs.filter fun x => !of p x) := by
  unfold Without
  simp

lemma Without.cons (h : Without of [p] xs ys) (h' : Without of ps ys zs) :
    Without of (p :: ps) xs zs := by
  unfold Without at h h' ⊢
  rw [h', h, List.filter_filter]
  refine List.filter_congr fun x _ => ?_
  rw [List.all_cons, List.all_cons, List.all_nil, Bool.and_true, Bool.and_comm]

end Without

section Expiry

variable {T : Type} {d d' d₁ : Db (List (DuckTable T))} {parentOid : ℤ}
variable {p q : RetentionPartition} {ps : List RetentionPartition}

/-- The tables of the partitions are gone, and the rows of every catalog table that go with them;
every other table and row is as it was, the rows of `rs_partition` left aside. -/
structure Gone (ps : List RetentionPartition) (d d' : Db (List (DuckTable T))) : Prop where
  tables : Without (fun p t => t.named p.schema p.relname) ps d.phys d'.phys
  dependency : Without (fun p => dependencyOf p.relation) ps d.cat.rsDependency.rows
    d'.cat.rsDependency.rows
  comment : Without (fun p => commentOf p.relation) ps d.cat.rsComment.rows d'.cat.rsComment.rows
  columnDefault : Without (fun p => columnDefaultOf p.relation) ps d.cat.rsColumnDefault.rows
    d'.cat.rsColumnDefault.rows
  column : Without (fun p => columnOf p.relation) ps d.cat.rsColumn.rows d'.cat.rsColumn.rows
  constraint : Without (fun p => constraintOf p.relation) ps d.cat.rsConstraint.rows
    d'.cat.rsConstraint.rows
  index : Without (fun p => indexOf p.relation) ps d.cat.rsIndex.rows d'.cat.rsIndex.rows
  relationExt : Without (fun p => relationExtOf p.relation) ps d.cat.rsRelationExt.rows
    d'.cat.rsRelationExt.rows
  type : Without (fun p => typeOf p.relation) ps d.cat.rsType.rows d'.cat.rsType.rows
  relation : Without (fun p => relationOf p.relation) ps d.cat.rsRelation.rows
    d'.cat.rsRelation.rows
  rest : { d'.cat with
    rsDependency := d.cat.rsDependency, rsComment := d.cat.rsComment
    rsColumnDefault := d.cat.rsColumnDefault, rsColumn := d.cat.rsColumn
    rsConstraint := d.cat.rsConstraint, rsIndex := d.cat.rsIndex
    rsRelationExt := d.cat.rsRelationExt, rsType := d.cat.rsType
    rsRelation := d.cat.rsRelation, rsPartition := d.cat.rsPartition } = d.cat

lemma Gone.nil (d : Db (List (DuckTable T))) : Gone [] d d :=
  ⟨.nil, .nil, .nil, .nil, .nil, .nil, .nil, .nil, .nil, .nil, rfl⟩

lemma Gone.cons (h : Gone [p] d d₁) (h' : Gone ps d₁ d') : Gone (p :: ps) d d' where
  tables := h.tables.cons h'.tables
  dependency := h.dependency.cons h'.dependency
  comment := h.comment.cons h'.comment
  columnDefault := h.columnDefault.cons h'.columnDefault
  column := h.column.cons h'.column
  constraint := h.constraint.cons h'.constraint
  index := h.index.cons h'.index
  relationExt := h.relationExt.cons h'.relationExt
  type := h.type.cons h'.type
  relation := h.relation.cons h'.relation
  rest := by
    have hfirst := h.rest
    rw [← h'.rest] at hfirst
    exact hfirst

def markDropped (r : PartitionRow) : PartitionRow := { r with status := .dropped, errorMessage := "" }

/-- The row is that of one of the partitions. -/
def rowOf (parentOid : ℤ) (ps : List RetentionPartition) (r : PartitionRow) : Bool :=
  r.parentRelid == parentOid && ps.any fun p => r.childRelid == p.relation.oid

/-- The rows of the partitions are marked. -/
def Marked (parentOid : ℤ) (ps : List RetentionPartition) (d d' : Db (List (DuckTable T))) : Prop :=
  d'.cat.rsPartition.rows = d.cat.rsPartition.rows.map fun r =>
    if rowOf parentOid ps r then markDropped r else r

lemma Marked.nil (parentOid : ℤ) (d : Db (List (DuckTable T))) : Marked parentOid [] d d := by
  unfold Marked rowOf
  simp

lemma Marked.cons (h : Marked parentOid [p] d d₁) (h' : Marked parentOid ps d₁ d') :
    Marked parentOid (p :: ps) d d' := by
  unfold Marked at h h' ⊢
  rw [h', h, List.map_map]
  refine List.map_congr_left fun r _ => ?_
  rw [Function.comp_apply]
  have hrow : rowOf parentOid ps (markDropped r) = rowOf parentOid ps r := rfl
  have hcons : rowOf parentOid (p :: ps) r = (rowOf parentOid [p] r || rowOf parentOid ps r) := by
    unfold rowOf
    rw [← Bool.and_or_distrib_left, List.any_cons, List.any_cons, List.any_nil, Bool.or_false]
  rw [hcons]
  by_cases hp : rowOf parentOid [p] r = true
  · simp only [hp, if_true, hrow, Bool.true_or]
    split_ifs <;> rfl
  · simp only [hp, Bool.false_eq_true, if_false, Bool.false_or]

/-- The row of the partition is the one that retention read. -/
def Live (parentOid : ℤ) (p : RetentionPartition) (d : Db (List (DuckTable T))) : Prop :=
  ∀ r ∈ d.cat.rsPartition.rows, r.parentRelid = parentOid → r.childRelid = p.relation.oid →
    r.partitionValue = p.partitionValue ∧ r.isNullPartition = false ∧ r.status = .active

/-- The expiry of another partition does not concern it. -/
lemma Live.of_marked (h : Live parentOid q d) (hmarked : Marked parentOid [p] d d')
    (hne : p.relation.oid ≠ q.relation.oid) : Live parentOid q d' := by
  intro r hr hparent hchild
  unfold Marked at hmarked
  rw [hmarked] at hr
  obtain ⟨s, hs, rfl⟩ := List.mem_map.1 hr
  by_cases hrow : rowOf parentOid [p] s = true
  · rw [if_pos hrow] at hchild
    unfold rowOf at hrow
    simp only [List.any_cons, List.any_nil, Bool.or_false, Bool.and_eq_true, beq_iff_eq] at hrow
    exact absurd (hrow.2.symm.trans hchild) hne
  · rw [if_neg hrow] at hparent hchild ⊢
    exact h s hs hparent hchild

/-- The catalog without the rows of a child. -/
def forgetChild (m : RelationRow) (c : Catalog) : Catalog :=
  { c with
    rsDependency := c.rsDependency.delete (dependencyOf m)
    rsComment := c.rsComment.delete (commentOf m)
    rsColumnDefault := c.rsColumnDefault.delete (columnDefaultOf m)
    rsColumn := c.rsColumn.delete (columnOf m)
    rsConstraint := c.rsConstraint.delete (constraintOf m)
    rsIndex := c.rsIndex.delete (indexOf m)
    rsRelationExt := c.rsRelationExt.delete (relationExtOf m)
    rsType := c.rsType.delete (typeOf m)
    rsRelation := c.rsRelation.delete (relationOf m) }

lemma forgetChild_of_runs {m : RelationRow} {c c' : Catalog} {u : PUnit}
    (h : Runs (deletePartitionChildCatalog m) c u c') : c' = forgetChild m c := by
  unfold deletePartitionChildCatalog at h
  obtain ⟨_, c₁, h₁, h⟩ := runs_bind.1 h
  obtain ⟨_, c₂, h₂, h⟩ := runs_bind.1 h
  obtain ⟨_, c₃, h₃, h⟩ := runs_bind.1 h
  obtain ⟨_, c₄, h₄, h⟩ := runs_bind.1 h
  obtain ⟨_, c₅, h₅, h⟩ := runs_bind.1 h
  obtain ⟨_, c₆, h₆, h⟩ := runs_bind.1 h
  obtain ⟨_, c₇, h₇, h⟩ := runs_bind.1 h
  obtain ⟨_, c₈, h₈, h₉⟩ := runs_bind.1 h
  -- each record is reduced before the next is built on it
  simp only [runs_deleteRows, Slot.dependency, Slot.comment, Slot.columnDefault, Slot.column,
    Slot.constraint, Slot.index, Slot.relationExt, Slot.type, Slot.relation]
    at h₁ h₂ h₃ h₄ h₅ h₆ h₇ h₈ h₉
  simp only [h₉, h₈, h₇, h₆, h₅, h₄, h₃, h₂, h₁]
  rfl

/-- The rows of the table, before and after. -/
def setPartitions (t : Table PartitionRow) (c : Catalog) : Catalog := { c with rsPartition := t }

/-- What one expiry does, with the two updates of the row. -/
lemma runs_expirePartition {u : PUnit} (h : Runs (expirePartition parentOid p) d u d') :
    ∃ t : Table PartitionRow,
      d'.cat = setPartitions t (forgetChild p.relation d.cat) ∧
      d'.phys = (d.phys.filter fun t => !t.named p.schema p.relname) ∧
      t.rows = (d.cat.rsPartition.rows.map fun r =>
        if r.parentRelid == parentOid && r.childRelid == p.relation.oid && !r.isNullPartition &&
          r.status == .active then { r with status := .expiring } else r).map fun r =>
        if r.parentRelid == parentOid && r.childRelid == p.relation.oid &&
          r.partitionValue == p.partitionValue then markDropped r else r := by
  unfold expirePartition dropDuckTable at h
  simp only [runs_bind, runs_onCatalog, runs_mapError, runs_get, runs_ensure, runs_set] at h
  obtain ⟨_, d₁, ⟨hexpiring, hphys₁⟩, _, _, ⟨_, _, ⟨rfl, rfl⟩, _, _, ⟨-, rfl⟩, rfl⟩, _, d₃,
    ⟨hdelete, hphys₃⟩, hdropped, hphys'⟩ := h
  have hcat₁ := runs_updateRows.1 hexpiring
  have hcat₃ := forgetChild_of_runs hdelete
  have hcat' := runs_updateRows.1 hdropped
  refine ⟨d'.cat.rsPartition, ?_, by rw [hphys', hphys₃, hphys₁], ?_⟩
  · rw [hcat', hcat₃, hcat₁]
    rfl
  · rw [hcat', hcat₃, hcat₁]
    rfl

/-- **What one expiry leaves.** -/
lemma gone_of_expirePartition {u : PUnit} (hlive : Live parentOid p d)
    (h : Runs (expirePartition parentOid p) d u d') :
    Gone [p] d d' ∧ Marked parentOid [p] d d' := by
  obtain ⟨t, hcat, hphys, hrows⟩ := runs_expirePartition h
  obtain ⟨cat', phys'⟩ := d'
  dsimp only at hcat hphys
  subst hcat hphys
  constructor
  · exact ⟨.one, .one, .one, .one, .one, .one, .one, .one, .one, .one, rfl⟩
  · unfold Marked
    change t.rows = _
    rw [hrows, List.map_map]
    refine List.map_congr_left fun r hr => ?_
    rw [Function.comp_apply]
    unfold rowOf
    rw [List.any_cons, List.any_nil, Bool.or_false]
    by_cases hrow : (r.parentRelid == parentOid && r.childRelid == p.relation.oid) = true
    · obtain ⟨hvalue, hnull, hactive⟩ := hlive r hr (by simp_all) (by simp_all)
      simp [hrow, hvalue, hnull, hactive, markDropped]
    · simp [hrow]

/-- What the expiries of several partitions leave. -/
lemma gone_of_forM {u : PUnit} (hlive : ∀ p ∈ ps, Live parentOid p d)
    (hne : ps.Pairwise fun p q => p.relation.oid ≠ q.relation.oid)
    (h : Runs (ps.forM (expirePartition parentOid)) d u d') :
    Gone ps d d' ∧ Marked parentOid ps d d' := by
  induction ps generalizing d with
  | nil =>
    obtain ⟨-, rfl⟩ := runs_pure.1 h
    exact ⟨.nil d', .nil parentOid d'⟩
  | cons p ps ih =>
    obtain ⟨_, d₁, hfirst, hrest⟩ := runs_bind.1 h
    obtain ⟨hfar, hne⟩ := List.pairwise_cons.1 hne
    obtain ⟨hgone, hmarked⟩ := gone_of_expirePartition (hlive p List.mem_cons_self) hfirst
    obtain ⟨hgone', hmarked'⟩ := ih (fun q hq =>
      (hlive q (List.mem_cons_of_mem p hq)).of_marked hmarked (hfar q hq)) hne hrest
    exact ⟨hgone.cons hgone', hmarked.cons hmarked'⟩

end Expiry

/-! ### Retention -/

section Retention

variable {T : Type} {R : PartitionedRelation} {d d' : Db (List (DuckTable T))} {count : ℕ}

/-- The active partitions are as they were created: their values are of years of four digits, as no
others have bounds, and their tables are in the catalog. -/
structure Managed (R : PartitionedRelation) (c : Catalog) : Prop where
  value : ∀ p ∈ activePartitions R.oid c, ∃ t, FourDigits t ∧
    p.partitionValue = String.ofList (partitionValueForDatetime t R.partitionUnit)
  child : ∀ p ∈ activePartitions R.oid c, ∃ q, retentionPartition c p = some q

/-- Some active partitions are expired and the others are kept: the kept ones are later, by the times
routed to them and by their bounds, and stay active; the tables and the catalog rows of the expired
ones are gone, their rows are marked, and all else is unchanged. -/
structure Retains (R : PartitionedRelation) (expired kept : List PartitionRow)
    (d d' : Db (List (DuckTable T))) : Prop where
  active : (expired ++ kept).Perm (activePartitions R.oid d.cat)
  remain : (activePartitions R.oid d'.cat).Perm kept
  before : ∀ e ∈ expired, ∀ k ∈ kept, Precedes R.partitionUnit e.partitionValue k.partitionValue
  bounds : ∀ e ∈ expired, ∀ k ∈ kept, ∀ b b',
    partitionBounds e.partitionValue.toList R.partitionUnit = .ok b →
      partitionBounds k.partitionValue.toList R.partitionUnit = .ok b' →
        b.upperBound ≤ b'.lowerBound
  marked : d'.cat.rsPartition.rows = d.cat.rsPartition.rows.map fun r =>
    if r ∈ expired then markDropped r else r
  gone : Gone (expired.filterMap (retentionPartition d.cat)) d d'

lemma mem_activePartitions {parentOid : ℤ} {c : Catalog} {p : PartitionRow} :
    p ∈ activePartitions parentOid c ↔ p ∈ c.rsPartition.rows ∧ p.parentRelid = parentOid ∧
      p.status = .active ∧ p.isNullPartition = false := by
  unfold activePartitions Table.select
  simp [and_assoc]

lemma perm_sortedPartitions (parentOid : ℤ) (c : Catalog) :
    (sortedPartitions parentOid c).Perm (activePartitions parentOid c) :=
  List.perm_insertionSort _ _

lemma mem_sortedPartitions {parentOid : ℤ} {c : Catalog} {p : PartitionRow} :
    p ∈ sortedPartitions parentOid c ↔ p ∈ activePartitions parentOid c :=
  (perm_sortedPartitions parentOid c).mem_iff

/-- The row that a partition was joined from. -/
lemma retentionPartition_eq_some {c : Catalog} {p : PartitionRow} {q : RetentionPartition}
    (h : retentionPartition c p = some q) :
    q.partitionValue = p.partitionValue ∧ q.relation.oid = p.childRelid := by
  unfold retentionPartition at h
  obtain ⟨r, hr, h⟩ := Option.bind_eq_some_iff.1 h
  obtain ⟨n, -, h⟩ := Option.bind_eq_some_iff.1 h
  cases h
  have hoid := List.find?_some hr
  exact ⟨rfl, by simpa using hoid⟩

lemma clash_iff {p q : PartitionRow} :
    Keyed.clash p q = true ↔ p.parentRelid = q.parentRelid ∧
      (p.childRelid = q.childRelid ∨ p.partitionValue = q.partitionValue) := by
  change (decide ((p.parentRelid, p.childRelid) = (q.parentRelid, q.childRelid)) ||
    decide ((p.parentRelid, p.partitionValue) = (q.parentRelid, q.partitionValue))) = true ↔ _
  simp only [Prod.mk.injEq, Bool.or_eq_true, decide_eq_true_eq, and_or_left]

/-- Different partitions of a relation have different tables and different values. -/
lemma eq_of_child_or_value {parentOid : ℤ} {c : Catalog} {p q : PartitionRow}
    (hp : p ∈ c.rsPartition.rows) (hq : q ∈ c.rsPartition.rows) (hparent : p.parentRelid = parentOid)
    (hparent' : q.parentRelid = parentOid)
    (h : p.childRelid = q.childRelid ∨ p.partitionValue = q.partitionValue) : p = q :=
  Table.eq_of_clash hp hq (clash_iff.2 ⟨hparent.trans hparent'.symm, h⟩)

lemma nodup_sortedPartitions (parentOid : ℤ) (c : Catalog) :
    (sortedPartitions parentOid c).Nodup := by
  refine (perm_sortedPartitions parentOid c).nodup_iff.2 (List.Nodup.filter _ ?_)
  refine c.rsPartition.keyed.imp fun {a b} h => ?_
  rintro rfl
  have hself : Keyed.clash a a = true := clash_iff.2 ⟨rfl, Or.inl rfl⟩
  rw [hself] at h
  cases h

/-- The bounds of values are in the order of the times routed to them. -/
lemma bounds_le_of_precedes {unit : PartitionUnit} {t u : DateTime} {b b' : PartitionBounds}
    (h : Precedes unit (String.ofList (partitionValueForDatetime t unit))
      (String.ofList (partitionValueForDatetime u unit)))
    (hb : partitionBounds (partitionValueForDatetime t unit) unit = .ok b)
    (hb' : partitionBounds (partitionValueForDatetime u unit) unit = .ok b') :
    b.upperBound ≤ b'.lowerBound := by
  obtain ⟨hu, hyear⟩ := year_of_partitionBounds hb
  obtain ⟨-, hyear'⟩ := year_of_partitionBounds hb'
  obtain ⟨c, hc, hmem⟩ := partitionBounds_value hu hyear
  obtain ⟨c', hc', hmem'⟩ := partitionBounds_value hu hyear'
  obtain rfl : b = c := Except.ok.inj (hb.symm.trans hc)
  obtain rfl : b' = c' := Except.ok.inj (hb'.symm.trans hc')
  obtain ⟨hlow, -⟩ := (hmem t).2 rfl
  obtain ⟨hlow', hhigh'⟩ := (hmem' u).2 rfl
  have hvalue : partitionValueForDatetime b'.lowerBound unit = partitionValueForDatetime u unit :=
    (value_eq_iff hu hyear').2 ((hmem' _).1
      ⟨DateTime.le_refl _, DateTime.lt_of_le_of_lt hlow' hhigh'⟩)
  have hlater : t < b'.lowerBound := h t _ rfl (congrArg String.ofList hvalue)
  refine DateTime.le_of_not_lt fun hlt => ?_
  -- the first time of the later value would be routed to the earlier one
  have hvalue' : partitionValueForDatetime b'.lowerBound unit = partitionValueForDatetime t unit :=
    (value_eq_iff hu hyear).2 ((hmem _).1
      ⟨DateTime.le_of_lt (DateTime.lt_of_le_of_lt hlow hlater), hlt⟩)
  exact DateTime.lt_irrefl _ (h _ _ (congrArg String.ofList hvalue') (congrArg String.ofList hvalue))

/-- Of the sorted partitions, the first ones have smaller values than the others. -/
lemma value_lt_of_sorted (k : ℕ) :
    ∀ e ∈ (sortedPartitions R.oid d.cat).take k, ∀ k' ∈ (sortedPartitions R.oid d.cat).drop k,
      e.partitionValue < k'.partitionValue := by
  intro e he k' hk'
  have hsorted : (sortedPartitions R.oid d.cat).Pairwise fun p q =>
      p.partitionValue ≤ q.partitionValue := List.pairwise_insertionSort _ _
  have hnodup := nodup_sortedPartitions R.oid d.cat
  rw [← List.take_append_drop k (sortedPartitions R.oid d.cat)] at hsorted hnodup
  have hle := (List.pairwise_append.1 hsorted).2.2 e he k' hk'
  refine lt_of_le_of_ne hle fun heq => ?_
  have hactive := mem_activePartitions.1 (mem_sortedPartitions.1 (List.mem_of_mem_take he))
  have hactive' := mem_activePartitions.1 (mem_sortedPartitions.1 (List.mem_of_mem_drop hk'))
  obtain rfl := eq_of_child_or_value hactive.1 hactive'.1 hactive.2.1 hactive'.2.1 (Or.inr heq)
  exact List.disjoint_of_nodup_append hnodup he hk'

lemma live_of_sorted {q : RetentionPartition}
    (h : q ∈ retentionPartitions R.oid d.cat) : Live R.oid q d := by
  obtain ⟨p, hp, hq⟩ := List.mem_filterMap.1 h
  obtain ⟨hvalue, hoid⟩ := retentionPartition_eq_some hq
  obtain ⟨hmem, hparent, hactive, hnull⟩ := mem_activePartitions.1 (mem_sortedPartitions.1 hp)
  intro r hr hparent' hchild
  obtain rfl := eq_of_child_or_value hr hmem hparent' hparent (Or.inl (hchild.trans hoid))
  exact ⟨hvalue.symm, hnull, hactive⟩

lemma pairwise_retentionPartitions :
    (retentionPartitions R.oid d.cat).Pairwise fun p q => p.relation.oid ≠ q.relation.oid := by
  refine List.pairwise_filterMap.2 ?_
  refine (nodup_sortedPartitions R.oid d.cat).imp_of_mem fun {a b} ha hb hne => ?_
  intro q hq q' hq' heq
  have hactive := mem_activePartitions.1 (mem_sortedPartitions.1 ha)
  have hactive' := mem_activePartitions.1 (mem_sortedPartitions.1 hb)
  refine hne (eq_of_child_or_value hactive.1 hactive'.1 hactive.2.1 hactive'.2.1 (Or.inl ?_))
  rw [← (retentionPartition_eq_some hq).2, ← (retentionPartition_eq_some hq').2, heq]

/-- Where every row is joined, as many rows are taken before the join as after it. -/
lemma take_filterMap {α β : Type} {f : α → Option β} {xs : List α} (h : ∀ x ∈ xs, ∃ y, f x = some y)
    (k : ℕ) : (xs.filterMap f).take k = (xs.take k).filterMap f ∧
      (xs.filterMap f).length = xs.length := by
  induction xs generalizing k with
  | nil => simp
  | cons x xs ih =>
    obtain ⟨y, hy⟩ := h x List.mem_cons_self
    have hrest := ih fun z hz => h z (List.mem_cons_of_mem x hz)
    rw [List.filterMap_cons_some hy]
    cases k with
    | zero => exact ⟨rfl, by simp [(hrest 0).2]⟩
    | succ k =>
      rw [List.take_succ_cons, List.take_succ_cons, List.filterMap_cons_some hy, (hrest k).1]
      exact ⟨rfl, by simp [(hrest k).2]⟩

/-- The rows that are marked are those of the partitions taken. -/
lemma rowOf_eq {expired : List PartitionRow} {r : PartitionRow} (hr : r ∈ d.cat.rsPartition.rows)
    (hactive : ∀ e ∈ expired, e ∈ activePartitions R.oid d.cat)
    (hchild : ∀ e ∈ expired, ∃ q, retentionPartition d.cat e = some q) :
    rowOf R.oid (expired.filterMap (retentionPartition d.cat)) r = true ↔ r ∈ expired := by
  unfold rowOf
  rw [Bool.and_eq_true, List.any_eq_true, beq_iff_eq]
  constructor
  · rintro ⟨hparent, q, hq, hoid⟩
    obtain ⟨e, he, hjoin⟩ := List.mem_filterMap.1 hq
    obtain ⟨hmem, hparent', -⟩ := mem_activePartitions.1 (hactive e he)
    have hsame : r.childRelid = e.childRelid :=
      (beq_iff_eq.1 hoid).trans (retentionPartition_eq_some hjoin).2
    obtain rfl := eq_of_child_or_value hr hmem hparent hparent' (Or.inl hsame)
    exact he
  · intro he
    obtain ⟨q, hq⟩ := hchild r he
    obtain ⟨-, hparent, -⟩ := mem_activePartitions.1 (hactive r he)
    refine ⟨hparent, q, List.mem_filterMap.2 ⟨r, he, hq⟩, ?_⟩
    rw [(retentionPartition_eq_some hq).2, beq_self_eq_true]

/-- What stays active is what was active and is not marked. -/
lemma activePartitions_of_marked {parentOid : ℤ} {c c' : Catalog} {expired : List PartitionRow}
    (h : c'.rsPartition.rows = c.rsPartition.rows.map fun r => if r ∈ expired then markDropped r else r) :
    activePartitions parentOid c' = (activePartitions parentOid c).filter fun r => r ∉ expired := by
  unfold activePartitions Table.select
  rw [h, List.filter_filter]
  induction c.rsPartition.rows with
  | nil => rfl
  | cons r rows ih =>
    rw [List.map_cons, List.filter_cons, List.filter_cons, ih]
    by_cases hr : r ∈ expired
    · rw [if_pos hr]
      simp [hr, markDropped]
    · rw [if_neg hr]
      simp [hr]

/-- The sorted partitions, parted where the number to expire says. -/
lemma retains_of_runs {k : ℕ} {u : PUnit} (hmanaged : Managed R d.cat)
    (h : Runs (((retentionPartitions R.oid d.cat).take k).forM (expirePartition R.oid)) d u d') :
    Retains R ((sortedPartitions R.oid d.cat).take k) ((sortedPartitions R.oid d.cat).drop k) d d' := by
  have hchild : ∀ p ∈ sortedPartitions R.oid d.cat, ∃ q, retentionPartition d.cat p = some q :=
    fun p hp => hmanaged.child p (mem_sortedPartitions.1 hp)
  have hactive : ∀ e ∈ (sortedPartitions R.oid d.cat).take k, e ∈ activePartitions R.oid d.cat :=
    fun e he => mem_sortedPartitions.1 (List.mem_of_mem_take he)
  have hperm : ((sortedPartitions R.oid d.cat).take k ++ (sortedPartitions R.oid d.cat).drop k).Perm
      (activePartitions R.oid d.cat) := by
    rw [List.take_append_drop]
    exact perm_sortedPartitions R.oid d.cat
  obtain ⟨hgone, hmarked⟩ := gone_of_forM
    (fun q hq => live_of_sorted (List.mem_of_mem_take hq))
    (pairwise_retentionPartitions.sublist (List.take_sublist k _)) h
  have hjoin : (retentionPartitions R.oid d.cat).take k = _ := (take_filterMap hchild k).1
  rw [hjoin] at hgone hmarked
  have hrows : d'.cat.rsPartition.rows = d.cat.rsPartition.rows.map fun r =>
      if r ∈ (sortedPartitions R.oid d.cat).take k then markDropped r else r := by
    rw [show d'.cat.rsPartition.rows = _ from hmarked]
    refine List.map_congr_left fun r hr => ?_
    have hiff := rowOf_eq hr hactive fun e he => hchild e (List.mem_of_mem_take he)
    exact if_congr hiff rfl rfl
  refine ⟨hperm, ?_, ?_, ?_, hrows, hgone⟩
  · rw [activePartitions_of_marked hrows]
    refine (hperm.symm.filter _).trans ?_
    have hnodup := nodup_sortedPartitions R.oid d.cat
    rw [← List.take_append_drop k (sortedPartitions R.oid d.cat)] at hnodup
    have hdisjoint := List.disjoint_of_nodup_append hnodup
    have hnone : ((sortedPartitions R.oid d.cat).take k).filter
        (fun r => r ∉ (sortedPartitions R.oid d.cat).take k) = [] := by
      rw [List.filter_eq_nil_iff]
      intro r hr
      simp [hr]
    have hall : ((sortedPartitions R.oid d.cat).drop k).filter
        (fun r => r ∉ (sortedPartitions R.oid d.cat).take k) = (sortedPartitions R.oid d.cat).drop k := by
      rw [List.filter_eq_self]
      intro r hr
      simpa using fun hr' => hdisjoint hr' hr
    rw [List.filter_append, hnone, hall, List.nil_append]
  · intro e he f hf
    obtain ⟨t, ht, htext⟩ := hmanaged.value e (hactive e he)
    obtain ⟨w, hw, hwtext⟩ := hmanaged.value f (mem_sortedPartitions.1 (List.mem_of_mem_drop hf))
    rw [htext, hwtext, ← value_lt_iff_precedes ht hw, ← htext, ← hwtext]
    exact value_lt_of_sorted k e he f hf
  · intro e he f hf b b' hb hb'
    obtain ⟨t, ht, htext⟩ := hmanaged.value e (hactive e he)
    obtain ⟨w, hw, hwtext⟩ := hmanaged.value f (mem_sortedPartitions.1 (List.mem_of_mem_drop hf))
    have hlt := value_lt_of_sorted k e he f hf
    rw [htext, hwtext] at hlt
    rw [htext, String.toList_ofList] at hb
    rw [hwtext, String.toList_ofList] at hb'
    exact bounds_le_of_precedes ((value_lt_iff_precedes ht hw).1 hlt) hb hb'

/-- With nothing to expire, nothing changes. -/
lemma retains_all (hmanaged : Managed R d.cat) : Retains R [] (sortedPartitions R.oid d.cat) d d :=
  retains_of_runs (k := 0) hmanaged (runs_pure.2 ⟨rfl, rfl⟩)

/-- How many partitions are kept. -/
def keptCount (retentionCount : ℤ) (active : ℕ) : ℕ :=
  if retentionCount ≤ 0 then active else min retentionCount.toNat active

lemma retains_of_expireOldPartitions (hmanaged : Managed R d.cat)
    (h : Runs (expireOldPartitions R) d count d') :
    ∃ expired kept, Retains R expired kept d d' ∧ expired.length = count ∧
      kept.length = keptCount R.retentionCount (activePartitions R.oid d.cat).length := by
  have hlength : (retentionPartitions R.oid d.cat).length = (activePartitions R.oid d.cat).length :=
    (take_filterMap (fun p hp => hmanaged.child p (mem_sortedPartitions.1 hp)) 0).2.trans
      (perm_sortedPartitions R.oid d.cat).length_eq
  have hsorted := (perm_sortedPartitions R.oid d.cat).length_eq
  unfold expireOldPartitions at h
  unfold keptCount
  by_cases hcount : R.retentionCount ≤ 0
  · rw [if_pos hcount] at h
    obtain ⟨rfl, rfl⟩ := runs_pure.1 h
    exact ⟨_, _, retains_all hmanaged, rfl, by rw [if_pos hcount, hsorted]⟩
  · rw [if_neg hcount] at h
    replace h := runs_get_bind.1 h
    rw [if_neg hcount]
    by_cases hfew : (retentionPartitions R.oid d.cat).length ≤ R.retentionCount.toNat
    · rw [if_pos hfew] at h
      obtain ⟨rfl, rfl⟩ := runs_pure.1 h
      exact ⟨_, _, retains_all hmanaged, rfl, by omega⟩
    · rw [if_neg hfew] at h
      obtain ⟨_, _, hloop, hend⟩ := runs_bind.1 h
      obtain ⟨rfl, rfl⟩ := runs_pure.1 hend
      refine ⟨_, _, retains_of_runs hmanaged hloop, ?_, ?_⟩
      · rw [List.length_take]
        omega
      · rw [List.length_drop]
        omega

/-- **Retention** keeps the newest partitions, as many as it is to keep, and what is expired is gone;
without a positive number it expires nothing. The order of the texts it goes by is that of time. -/
theorem expireOldPartitions_retains (hmanaged : Managed R d.cat)
    (h : Runs (expireOldPartitions R) d count d') :
    (∃ expired kept, Retains R expired kept d d' ∧ expired.length = count ∧
      kept.length = keptCount R.retentionCount (activePartitions R.oid d.cat).length) ∧
    ∀ unit t u, FourDigits t → FourDigits u →
      (String.ofList (partitionValueForDatetime t unit) <
          String.ofList (partitionValueForDatetime u unit) ↔
        Precedes unit (String.ofList (partitionValueForDatetime t unit))
          (String.ofList (partitionValueForDatetime u unit))) :=
  ⟨retains_of_expireOldPartitions hmanaged h, fun _ _ _ ht hu => value_lt_iff_precedes ht hu⟩

end Retention

/-! ### Two years -/

lemma january : 1 ≤ 1 ∧ 1 ≤ 12 := by decide

def newYear (year : ℤ) (h : -262143 ≤ year ∧ year ≤ 262142) : DateTime :=
  Date.midnight ⟨year, 1, 1, h, january, by rw [daysInMonth_one]; decide⟩

def yearRelation (retentionCount : ℤ) : PartitionedRelation :=
  ⟨10, "main".toList, "events".toList, .year, retentionCount, []⟩

def yearRow (childRelid : ℤ) (value : String) : PartitionRow :=
  ⟨10, childRelid, value, .year, none, none, false, .active, 0, none, none, "", ""⟩

def yearTable (oid : ℤ) (name : String) : RelationRow :=
  ⟨oid, name, 4, oid + 1, 1, .table, "p", 1, 0, false, true, "", "", .active, ""⟩

/-- The partitions of 2025 and 2026, one row each. -/
def twoYears : Db (List (DuckTable ℕ)) where
  cat := {
    rsSchema := ⟨[⟨4, "rsduck_internal", 1, ""⟩], by decide⟩
    rsRelation := ⟨[yearTable 20 "events_2025", yearTable 30 "events_2026"], by decide⟩
    rsPartition := ⟨[yearRow 30 "2026", yearRow 20 "2025"], by decide⟩ }
  phys := [⟨"rsduck_internal", "events_2025", 7⟩, ⟨"rsduck_internal", "events_2026", 8⟩]

lemma managed_twoYears (retentionCount : ℤ) : Managed (yearRelation retentionCount) twoYears.cat := by
  have hactive : activePartitions (yearRelation retentionCount).oid twoYears.cat =
      [yearRow 30 "2026", yearRow 20 "2025"] := rfl
  constructor
  · intro p hp
    rw [hactive] at hp
    rcases List.mem_cons.1 hp with rfl | hp
    · exact ⟨newYear 2026 (by decide), ⟨by decide, by decide⟩, by rfl⟩
    · obtain rfl := List.mem_singleton.1 hp
      exact ⟨newYear 2025 (by decide), ⟨by decide, by decide⟩, by rfl⟩
  · intro p hp
    rw [hactive] at hp
    rcases List.mem_cons.1 hp with rfl | hp
    · exact ⟨_, rfl⟩
    · obtain rfl := List.mem_singleton.1 hp
      exact ⟨_, rfl⟩

/-- Of two years one is kept. -/
theorem expireOldPartitions_retains_one : ∃ d' : Db (List (DuckTable ℕ)), ∃ expired kept,
    Retains (yearRelation 1) expired kept twoYears d' ∧ expired.length = 1 ∧ kept.length = 1 := by
  have hrun : Runs (expireOldPartitions (yearRelation 1)) twoYears 1
      (exec (expireOldPartitions (yearRelation 1)) twoYears).2 := by
    rfl
  obtain ⟨⟨expired, kept, hretains, hexpired, hkept⟩, -⟩ :=
    expireOldPartitions_retains (managed_twoYears 1) hrun
  exact ⟨_, expired, kept, hretains, hexpired, hkept⟩

/-- With a retention of zero, which `CREATE` refuses and the loop guards against, both years stay
active; and the text of the year 10000 is before that of 2026. -/
theorem retention_of_zero :
    (Managed (yearRelation 0) twoYears.cat ∧
      Runs (expireOldPartitions (yearRelation 0)) twoYears 0 twoYears ∧
      ¬ ∃ expired kept, Retains (yearRelation 0) expired kept twoYears twoYears ∧
        kept.length = min 0 (activePartitions 10 twoYears.cat).length) ∧
    newYear 2026 (by decide) < newYear 10000 (by decide) ∧
    String.ofList (partitionValueForDatetime (newYear 10000 (by decide)) .year) <
      String.ofList (partitionValueForDatetime (newYear 2026 (by decide)) .year) := by
  refine ⟨⟨managed_twoYears 0, rfl, ?_⟩, by decide, by decide⟩
  rintro ⟨expired, kept, hretains, hkept⟩
  have hlength := hretains.remain.length_eq
  rw [hkept] at hlength
  cases hlength

end Rsduck.Catalog.Retention
