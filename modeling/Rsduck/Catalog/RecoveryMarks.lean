import Rsduck.Catalog.Recovery
import Rsduck.Lib.Sweep

/-!
What a start leaves of a catalog.

A start only takes away: a relation, a partition or a vector index keeps its row or is marked in it,
and nothing that is marked becomes available again. What a check has found stays so through all
later marks.
-/

namespace Rsduck.Catalog.Recovery

open Lib Lib.Eff Lib.Text ColumnTypes

/-! ### Rows that are marked -/

/-- Every row is kept or revised. -/
def Revised {ρ : Type} (R : ρ → ρ → Prop) (xs ys : List ρ) : Prop :=
  ∃ f : ρ → ρ, (∀ x, R x (f x)) ∧ ys = xs.map f

section Revised

variable {ρ : Type} {R : ρ → ρ → Prop} {xs ys zs : List ρ}

lemma Revised.refl (h : ∀ x, R x x) (xs : List ρ) : Revised R xs xs :=
  ⟨id, h, (List.map_id xs).symm⟩

lemma Revised.trans (htrans : ∀ {x y z}, R x y → R y z → R x z) (h : Revised R xs ys)
    (h' : Revised R ys zs) : Revised R xs zs := by
  obtain ⟨f, hf, rfl⟩ := h
  obtain ⟨g, hg, rfl⟩ := h'
  exact ⟨g ∘ f, fun x => htrans (hf x) (hg (f x)), List.map_map⟩

lemma revised_update {p : ρ → Bool} {g : ρ → ρ} (hrefl : ∀ x, R x x) (h : ∀ x, R x (g x)) :
    Revised R xs (xs.map fun x => if p x then g x else x) := by
  refine ⟨fun x => if p x then g x else x, fun x => ?_, rfl⟩
  by_cases hp : p x
  · simp only [hp, if_true]
    exact h x
  · simp only [hp]
    exact hrefl x

lemma Revised.any (h : Revised R xs ys) {q : ρ → Bool} (hq : ∀ x y, R x y → q y = q x) :
    ys.any q = xs.any q := by
  obtain ⟨f, hf, rfl⟩ := h
  rw [List.any_map]
  congr 1
  exact funext fun x => hq x (f x) (hf x)

lemma Revised.mem (h : Revised R xs ys) {y : ρ} (hy : y ∈ ys) : ∃ x ∈ xs, R x y := by
  obtain ⟨f, hf, rfl⟩ := h
  obtain ⟨x, hx, rfl⟩ := List.mem_map.1 hy
  exact ⟨x, hx, hf x⟩

end Revised

/-- The relation is as it was, or is unavailable. -/
def RelationEased (r r' : RelationRow) : Prop :=
  r' = r ∨ ∃ m, r' = { r with status := .unavailable, errorMessage := m }

def PartitionEased (p p' : PartitionRow) : Prop :=
  p' = p ∨ ∃ m, p' = { p with status := .failed, errorMessage := m }

def VectorIndexEased (v v' : VectorIndexRow) : Prop :=
  v' = v ∨ ∃ status m, (status = .unavailable ∨ status = .stale) ∧ v' = v.setStatus status m

/-- Only the statement of its view is another. -/
def ExtEased (e e' : RelationExtRow) : Prop := ∃ sql, e' = { e with generatedSql := sql }

section Rows

variable {r r' r'' : RelationRow} {p p' p'' : PartitionRow} {v v' v'' : VectorIndexRow}
variable {e e' e'' : RelationExtRow}

lemma RelationEased.refl (r : RelationRow) : RelationEased r r := Or.inl rfl
lemma PartitionEased.refl (p : PartitionRow) : PartitionEased p p := Or.inl rfl
lemma VectorIndexEased.refl (v : VectorIndexRow) : VectorIndexEased v v := Or.inl rfl
lemma ExtEased.refl (e : RelationExtRow) : ExtEased e e := ⟨e.generatedSql, rfl⟩

lemma RelationEased.trans (h : RelationEased r r') (h' : RelationEased r' r'') :
    RelationEased r r'' := by
  obtain rfl | ⟨m', rfl⟩ := h'
  · exact h
  · obtain rfl | ⟨m, rfl⟩ := h <;> exact Or.inr ⟨m', rfl⟩

lemma PartitionEased.trans (h : PartitionEased p p') (h' : PartitionEased p' p'') :
    PartitionEased p p'' := by
  obtain rfl | ⟨m', rfl⟩ := h'
  · exact h
  · obtain rfl | ⟨m, rfl⟩ := h <;> exact Or.inr ⟨m', rfl⟩

lemma VectorIndexEased.trans (h : VectorIndexEased v v') (h' : VectorIndexEased v' v'') :
    VectorIndexEased v v'' := by
  obtain rfl | ⟨status, m, hstatus, rfl⟩ := h'
  · exact h
  · obtain rfl | ⟨status', m', -, rfl⟩ := h <;> exact Or.inr ⟨status, m, hstatus, rfl⟩

lemma ExtEased.trans (h : ExtEased e e') (h' : ExtEased e' e'') : ExtEased e e'' := by
  obtain ⟨sql, rfl⟩ := h
  obtain ⟨sql', rfl⟩ := h'
  exact ⟨sql', rfl⟩

/-- A relation that is available is as it was. -/
lemma RelationEased.eq_of_active (h : RelationEased r r') (hactive : r'.status = .active) :
    r' = r := by
  obtain rfl | ⟨m, rfl⟩ := h
  · rfl
  · cases hactive

lemma PartitionEased.eq_of_active (h : PartitionEased p p') (hactive : p'.status = .active) :
    p' = p := by
  obtain rfl | ⟨m, rfl⟩ := h
  · rfl
  · cases hactive

/-- What a mark leaves of a relation's row. -/
structure SameRelation (r r' : RelationRow) : Prop where
  oid : r'.oid = r.oid
  relname : r'.relname = r.relname
  relnamespace : r'.relnamespace = r.relnamespace
  relkind : r'.relkind = r.relkind

lemma RelationEased.same (h : RelationEased r r') : SameRelation r r' := by
  obtain rfl | ⟨m, rfl⟩ := h <;> exact ⟨rfl, rfl, rfl, rfl⟩

end Rows

/-- The tables that a start only reads, once the journal is settled. -/
def readOnly (c : Catalog) : Table VersionRow × Table JournalRow × Table SchemaRow × Table ColumnRow ×
    Table ColumnDefaultRow × Table ConstraintRow × Table IndexRow × Table CommentRow × Table UserRow ×
    Table RoleRow × Table UserRoleRow × Table PrivilegeRow :=
  (c.rsCatalogVersion, c.rsCatalogJournal, c.rsSchema, c.rsColumn, c.rsColumnDefault, c.rsConstraint,
    c.rsIndex, c.rsComment, c.rsUser, c.rsRole, c.rsUserRole, c.rsPrivilege)

/-- A dependency between relations that the catalog has. -/
def BetweenRelations (c : Catalog) (d : DependencyRow) : Prop :=
  d.classid = objectRelationKind ∧ d.refclassid = objectRelationKind ∧
    c.rsRelation.exists? (·.oid == d.objid) = true ∧ c.rsRelation.exists? (·.oid == d.refobjid) = true

/-- **What a start may do to a catalog.** -/
structure Eases (c c' : Catalog) : Prop where
  readOnly : readOnly c' = readOnly c
  type : c.rsType.rows <+: c'.rsType.rows
  relation : Revised RelationEased c.rsRelation.rows c'.rsRelation.rows
  partition : Revised PartitionEased c.rsPartition.rows c'.rsPartition.rows
  vectorIndex : Revised VectorIndexEased c.rsVectorIndex.rows c'.rsVectorIndex.rows
  relationExt : Revised ExtEased c.rsRelationExt.rows c'.rsRelationExt.rows
  dependency : ∀ d ∈ c'.rsDependency.rows, d ∈ c.rsDependency.rows ∨ BetweenRelations c d

namespace Eases

variable {c c' c'' : Catalog}

lemma existsRelation (h : Eases c c') (oid : ℤ) :
    c'.rsRelation.exists? (·.oid == oid) = c.rsRelation.exists? (·.oid == oid) :=
  h.relation.any fun _ _ hr => by rw [hr.same.oid]

lemma refl (c : Catalog) : Eases c c where
  readOnly := rfl
  type := List.prefix_refl _
  relation := Revised.refl RelationEased.refl _
  partition := Revised.refl PartitionEased.refl _
  vectorIndex := Revised.refl VectorIndexEased.refl _
  relationExt := Revised.refl ExtEased.refl _
  dependency _ hd := Or.inl hd

lemma trans (h : Eases c c') (h' : Eases c' c'') : Eases c c'' where
  readOnly := h'.readOnly.trans h.readOnly
  type := h.type.trans h'.type
  relation := h.relation.trans RelationEased.trans h'.relation
  partition := h.partition.trans PartitionEased.trans h'.partition
  vectorIndex := h.vectorIndex.trans VectorIndexEased.trans h'.vectorIndex
  relationExt := h.relationExt.trans ExtEased.trans h'.relationExt
  dependency d hd := by
    rcases h'.dependency d hd with hd | ⟨hclass, hrefclass, hobj, hrefobj⟩
    · exact h.dependency d hd
    · rw [h.existsRelation] at hobj hrefobj
      exact Or.inr ⟨hclass, hrefclass, hobj, hrefobj⟩

instance : Frame Eases := ⟨refl, trans⟩

lemma schema (h : Eases c c') : c'.rsSchema = c.rsSchema := congrArg (·.2.2.1) h.readOnly
lemma column (h : Eases c c') : c'.rsColumn = c.rsColumn := congrArg (·.2.2.2.1) h.readOnly
lemma columnDefault (h : Eases c c') : c'.rsColumnDefault = c.rsColumnDefault :=
  congrArg (·.2.2.2.2.1) h.readOnly
lemma constraint (h : Eases c c') : c'.rsConstraint = c.rsConstraint :=
  congrArg (·.2.2.2.2.2.1) h.readOnly
lemma index (h : Eases c c') : c'.rsIndex = c.rsIndex := congrArg (·.2.2.2.2.2.2.1) h.readOnly

/-- An available relation has been available, with the same row. -/
lemma mem_of_active (h : Eases c c') {r : RelationRow} (hr : r ∈ c'.rsRelation.rows)
    (hactive : r.status = .active) : r ∈ c.rsRelation.rows := by
  obtain ⟨r₀, hr₀, heased⟩ := h.relation.mem hr
  rw [heased.eq_of_active hactive]
  exact hr₀

lemma partition_of_active (h : Eases c c') {p : PartitionRow} (hp : p ∈ c'.rsPartition.rows)
    (hactive : p.status = .active) : p ∈ c.rsPartition.rows := by
  obtain ⟨p₀, hp₀, heased⟩ := h.partition.mem hp
  rw [heased.eq_of_active hactive]
  exact hp₀

end Eases

/-! ### Columns that DuckDB has as the catalog has them -/

/-- A column as the catalog has it stands for one of DuckDB. -/
structure ColumnFits (c : Catalog) (k : CatalogColumn) (col : DuckdbColumn) : Prop where
  known : Known c col.dataType k.typeId
  name : eqIgnoreCase k.name col.columnName = true
  duckdbType : eqIgnoreCase k.duckdbType col.dataType = true

/-- The columns of a relation in the order of their numbers, without the dropped ones. -/
def attributes (c : Catalog) (relOid : ℤ) : List ColumnRow :=
  (c.rsColumn.select fun a => a.attrelid == relOid && !a.attisdropped).insertionSort
    fun a b : ColumnRow => a.attnum ≤ b.attnum

structure ColumnsFit (c : Catalog) (relOid : ℤ) (cols : List DuckdbColumn) : Prop where
  nonempty : cols ≠ []
  typed : ∀ a ∈ attributes c relOid, ∃ k, catalogColumn c a = some k
  each : (catalogColumns c relOid).Forall₂ (ColumnFits c) cols

/-- Every column has a type that is there. -/
def Typed (c : Catalog) : Prop :=
  ∀ a ∈ c.rsColumn.rows, c.rsType.exists? (·.oid == a.atttypid) = true

section Columns

variable {c c' : Catalog} {relOid : ℤ} {cols : List DuckdbColumn} {schema relname : String}

lemma find_of_prefix {α : Type} {q : α → Bool} {xs ys : List α} {x : α} (hle : xs <+: ys)
    (h : xs.find? q = some x) : ys.find? q = some x := by
  obtain ⟨rest, rfl⟩ := hle
  rw [List.find?_append, h, Option.some_or]

lemma catalogColumn_of_eases (h : Eases c c') {a : ColumnRow} {k : CatalogColumn}
    (hk : catalogColumn c a = some k) : catalogColumn c' a = some k := by
  obtain ⟨t, ht, hrest⟩ := Option.bind_eq_some_iff.1 hk
  refine Option.bind_eq_some_iff.2 ⟨t, find_of_prefix h.type ht, ?_⟩
  rw [h.columnDefault]
  exact hrest

lemma attributes_of_eases (h : Eases c c') : attributes c' relOid = attributes c relOid := by
  unfold attributes
  rw [h.column]

/-- Columns whose types are there are read in the same way. -/
lemma ColumnsFit.catalogColumns_eq (hfit : ColumnsFit c relOid cols) (h : Eases c c') :
    catalogColumns c' relOid = catalogColumns c relOid := by
  change (attributes c' relOid).filterMap (catalogColumn c') =
    (attributes c relOid).filterMap (catalogColumn c)
  rw [attributes_of_eases h]
  refine List.filterMap_congr fun a ha => ?_
  obtain ⟨k, hk⟩ := hfit.typed a ha
  rw [hk, catalogColumn_of_eases h hk]

/-- **Columns fit through all marks.** -/
lemma ColumnsFit.of_eases (hfit : ColumnsFit c relOid cols) (h : Eases c c') :
    ColumnsFit c' relOid cols where
  nonempty := hfit.nonempty
  typed a ha := by
    rw [attributes_of_eases h] at ha
    obtain ⟨k, hk⟩ := hfit.typed a ha
    exact ⟨k, catalogColumn_of_eases h hk⟩
  each := by
    rw [hfit.catalogColumns_eq h]
    exact hfit.each.imp fun k col hk => ⟨hk.known.of_prefix h.type, hk.name, hk.duckdbType⟩

lemma catalogColumn_of_typed (htyped : Typed c) {a : ColumnRow} (ha : a ∈ c.rsColumn.rows) :
    ∃ k, catalogColumn c a = some k ∧ k.typeId = a.atttypid ∧
      ∃ t ∈ c.rsType.rows, t.oid = k.typeId := by
  obtain ⟨t, ht⟩ : ∃ t, c.rsType.find (·.oid == a.atttypid) = some t := by
    rcases hfind : c.rsType.find (·.oid == a.atttypid) with _ | t
    · have hnone := List.find?_eq_none.1 hfind
      obtain ⟨t, ht, hoid⟩ := List.any_eq_true.1 (htyped a ha)
      exact absurd hoid (hnone t ht)
    · exact ⟨t, hfind⟩
  refine ⟨_, Option.bind_eq_some_iff.2 ⟨t, ht, rfl⟩, rfl, t, List.mem_of_find?_eq_some ht, ?_⟩
  have hoid := List.find?_some ht
  exact beq_iff_eq.1 hoid

/-- A type is registered under an id that no type has had. -/
lemma ensureTypeId_new {t : String} {typeId : ℤ}
    (h : Runs (ensureTypeIdForDuckdbType t) c typeId c')
    (hold : ∃ r ∈ c.rsType.rows, r.oid = typeId) : c' = c := by
  unfold ensureTypeIdForDuckdbType at h
  rcases hid : scalarTypeIdForDuckdbType t with _ | id
  · simp only [hid] at h
    obtain ⟨_, c₁, hcheck, hlookup⟩ := runs_bind.1 h
    obtain ⟨-, rfl⟩ := runs_fromExcept.1 hcheck
    rw [runs_get_bind] at hlookup
    rcases hfind : c₁.rsType.find (·.rsduckPhysicalType == t) with _ | r
    · simp only [hfind] at hlookup
      obtain ⟨oid, c₂, halloc, hregister⟩ := runs_bind.1 hlookup
      obtain ⟨-, rfl⟩ := runs_allocateOid.1 halloc
      obtain ⟨_, c₃, hinsert, hend⟩ := runs_bind.1 hregister
      obtain ⟨rfl, rfl⟩ := runs_pure.1 hend
      obtain ⟨table, htable, rfl⟩ := runs_insertRow.1 hinsert
      obtain ⟨r, hr, rfl⟩ := hold
      have hclash := (Table.insert_eq_some.1 htable).1 r hr
      have htrue : Keyed.clash r (complexTypeRow r.oid t) = true := by
        change (r.oid == r.oid || _) = true
        rw [beq_self_eq_true, Bool.true_or]
      rw [htrue] at hclash
      cases hclash
    · simp only [hfind] at hlookup
      exact (runs_pure.1 hlookup).2
  · simp only [hid] at h
    exact (runs_pure.1 h).2

/-- Columns of known types are loaded without a change. -/
lemma loadDuckdbColumns_old {xs : List CatalogColumn} (h : Runs (cols.mapM loadDuckdbColumn) c xs c')
    (hold : ∀ x ∈ xs, ∃ r ∈ c.rsType.rows, r.oid = x.typeId) : c' = c := by
  induction cols generalizing c xs with
  | nil => exact (runs_pure.1 h).2
  | cons col cols ih =>
    rw [List.mapM_cons] at h
    obtain ⟨x, c₁, hcol, hrest⟩ := runs_bind.1 h
    obtain ⟨ys, c₂, hcols, hend⟩ := runs_bind.1 hrest
    obtain ⟨rfl, rfl⟩ := runs_pure.1 hend
    obtain ⟨typeId, c₃, htype, hx⟩ := runs_bind.1 hcol
    obtain ⟨rfl, rfl⟩ := runs_pure.1 hx
    obtain rfl := ensureTypeId_new htype (hold _ List.mem_cons_self)
    exact ih hcols fun y hy => hold y (List.mem_cons_of_mem _ hy)

lemma mem_of_mem_attributes {a : ColumnRow} (ha : a ∈ attributes c relOid) :
    a ∈ c.rsColumn.rows := by
  unfold attributes at ha
  rw [List.mem_insertionSort] at ha
  exact List.mem_of_mem_filter ha

lemma columnsMatch_iff {k x : CatalogColumn} : columnsMatch k x = true ↔
    eqIgnoreCase k.name x.name = true ∧ k.typeId = x.typeId ∧
      eqIgnoreCase k.duckdbType x.duckdbType = true := by
  unfold columnsMatch
  rw [Bool.and_eq_true, Bool.and_eq_true, beq_iff_eq, and_assoc]

/-- **What a comparison of columns finds**: where it succeeds the columns fit, and nothing is
registered. -/
lemma runs_validateColumnsMatch (htyped : Typed c) {u : PUnit}
    (h : Runs (validateCatalogColumnsMatchDuckdb relOid schema relname cols) c u c') :
    c' = c ∧ ColumnsFit c relOid cols := by
  unfold validateCatalogColumnsMatchDuckdb at h
  rw [runs_get_bind] at h
  dsimp only at h
  obtain ⟨xs, c₁, hload, h⟩ := runs_bind.1 h
  rw [runs_ensure_bind] at h
  obtain ⟨hlen, hsweep⟩ := h
  obtain ⟨hmatch, rfl⟩ := runs_forM_ensure_iff.1 hsweep
  unfold loadDuckdbColumns at hload
  obtain ⟨ys, c₂, hmap, hload⟩ := runs_bind.1 hload
  rw [runs_ensure_bind] at hload
  obtain ⟨hne, hload⟩ := hload
  obtain ⟨rfl, rfl⟩ := runs_pure.1 hload
  have hloaded := (loaded_of_mapM hmap).1
  have hpairs : (catalogColumns c relOid).Forall₂ (fun k x => columnsMatch k x = true) xs :=
    List.forall₂_iff_zip.2 ⟨beq_iff_eq.1 hlen, fun {k x} hkx => hmatch (k, x) hkx⟩
  have hks : ∀ a ∈ attributes c relOid, ∃ k, catalogColumn c a = some k := fun a ha => by
    obtain ⟨k, hk, -⟩ := catalogColumn_of_typed htyped (mem_of_mem_attributes ha)
    exact ⟨k, hk⟩
  have hold : ∀ x ∈ xs, ∃ r ∈ c.rsType.rows, r.oid = x.typeId := fun x hx => by
    obtain ⟨k, hk, hkx⟩ := exists_mem_of_forall₂_right hpairs hx
    obtain ⟨a, ha, hcol⟩ := List.mem_filterMap.1 hk
    have hmem : a ∈ attributes c relOid := ha
    obtain ⟨k', hk', -, t, ht, hoid⟩ := catalogColumn_of_typed htyped (mem_of_mem_attributes hmem)
    obtain rfl : k' = k := Option.some.inj (hk'.symm.trans hcol)
    exact ⟨t, ht, hoid.trans (columnsMatch_iff.1 hkx).2.1⟩
  obtain rfl := loadDuckdbColumns_old hmap hold
  refine ⟨rfl, ⟨?_, hks, ?_⟩⟩
  · rintro rfl
    cases hloaded
    cases hne
  · refine (forall₂_comp hpairs hloaded.flip).imp ?_
    rintro k col ⟨x, hkx, hx⟩
    obtain ⟨hname, hid, htype⟩ := columnsMatch_iff.1 hkx
    rw [hx.name] at hname
    rw [hx.duckdbType] at htype
    exact ⟨by rw [hid]; exact hx.known, hname, htype⟩

lemma exists_loaded {ks : List CatalogColumn} (h : ks.Forall₂ (ColumnFits c) cols) :
    ∃ xs, cols.Forall₂ (Loaded c) xs := by
  induction h with
  | nil => exact ⟨[], .nil⟩
  | @cons k col ks cols hk _ ih =>
    obtain ⟨xs, hxs⟩ := ih
    exact ⟨⟨col.columnName, k.typeId, col.dataType, col.columnIndex, false, none⟩ :: xs,
      .cons ⟨rfl, rfl, rfl, hk.known⟩ hxs⟩

/-- Columns that fit are compared without a change. -/
lemma ColumnsFit.runs (hfit : ColumnsFit c relOid cols) :
    Runs (validateCatalogColumnsMatchDuckdb relOid schema relname cols) c ⟨⟩ c := by
  obtain ⟨xs, hxs⟩ := exists_loaded hfit.each
  obtain ⟨ys, hrun, hys⟩ := runs_mapM_of_loaded hxs
  have hpairs : (catalogColumns c relOid).Forall₂ (fun k y => columnsMatch k y = true) ys := by
    refine (forall₂_comp hfit.each hys).imp ?_
    rintro k y ⟨col, hk, hy⟩
    have hid := hk.known.unique hy.known
    exact columnsMatch_iff.2 ⟨by rw [hy.name]; exact hk.name, hid, by
      rw [hy.duckdbType]; exact hk.duckdbType⟩
  obtain ⟨hlen, hmatch⟩ := List.forall₂_iff_zip.1 hpairs
  have hne : (!ys.isEmpty) = true := by
    rcases hys with _ | ⟨_, _⟩
    · exact absurd rfl hfit.nonempty
    · rfl
  unfold validateCatalogColumnsMatchDuckdb loadDuckdbColumns
  refine runs_get_bind.2 (runs_bind.2 ⟨ys, c, ?_, ?_⟩)
  · exact runs_bind.2 ⟨ys, c, hrun, runs_ensure_bind.2 ⟨hne, runs_pure.2 ⟨rfl, rfl⟩⟩⟩
  · exact runs_ensure_bind.2 ⟨beq_iff_eq.2 hlen,
      runs_forM_ensure_iff.2 ⟨fun p hp => hmatch (a := p.1) (b := p.2) hp, rfl⟩⟩

end Columns

/-! ### Rows found by their keys -/

section Keys

variable {ρ : Type} [Keyed ρ]

/-- A query that two rows of a table cannot both answer. -/
lemma find_eq_some_iff {t : Table ρ} {q : ρ → Bool} {r : ρ}
    (huniq : ∀ a b, q a = true → q b = true → Keyed.clash a b = true) :
    t.find q = some r ↔ r ∈ t.rows ∧ q r = true := by
  constructor
  · intro h
    have hq := List.find?_some h
    exact ⟨List.mem_of_find?_eq_some h, hq⟩
  · rintro ⟨hr, hq⟩
    exact Table.find?_eq_some_of_unique hr hq fun b hb hqb => Table.eq_of_clash hb hr (huniq b r hqb hq)

variable {c : Catalog}

lemma clash_relation {a b : RelationRow} (h : a.oid = b.oid) : Keyed.clash a b = true := by
  change (a.oid == b.oid || _) = true
  rw [beq_iff_eq.2 h, Bool.true_or]

lemma clash_schema {a b : SchemaRow} (h : a.oid = b.oid) : Keyed.clash a b = true := by
  change (a.oid == b.oid || _) = true
  rw [beq_iff_eq.2 h, Bool.true_or]

lemma clash_vectorIndex {a b : VectorIndexRow} (h : a.indexrelid = b.indexrelid) :
    Keyed.clash a b = true := by
  change (a.indexrelid == b.indexrelid || _) = true
  rw [beq_iff_eq.2 h, Bool.true_or]

lemma find_relation {oid : ℤ} {r : RelationRow} :
    c.rsRelation.find (·.oid == oid) = some r ↔ r ∈ c.rsRelation.rows ∧ r.oid = oid := by
  rw [find_eq_some_iff fun a b ha hb => clash_relation ((beq_iff_eq.1 ha).trans (beq_iff_eq.1 hb).symm),
    beq_iff_eq]

lemma find_schema {oid : ℤ} {n : SchemaRow} :
    c.rsSchema.find (·.oid == oid) = some n ↔ n ∈ c.rsSchema.rows ∧ n.oid = oid := by
  rw [find_eq_some_iff fun a b ha hb => clash_schema ((beq_iff_eq.1 ha).trans (beq_iff_eq.1 hb).symm),
    beq_iff_eq]

lemma eq_of_oid {r s : RelationRow} (hr : r ∈ c.rsRelation.rows) (hs : s ∈ c.rsRelation.rows)
    (h : r.oid = s.oid) : r = s :=
  Table.eq_of_clash hr hs (clash_relation h)

/-- An active relation and its schema. -/
structure IsActive (c : Catalog) (r : RelationRow) (n : SchemaRow) (x : PhysicalRelation) : Prop where
  row : r ∈ c.rsRelation.rows
  active : r.status = .active
  schema : n ∈ c.rsSchema.rows
  relnamespace : n.oid = r.relnamespace
  eq : x = ⟨r.oid, n.nspname, r.relname, r.relkind⟩

lemma mem_activeRelations {kinds : List RelKind} {x : PhysicalRelation} :
    x ∈ activeRelations kinds c ↔ x.relkind ∈ kinds ∧ ∃ r n, IsActive c r n x := by
  unfold activeRelations
  simp only [List.mem_filterMap, List.mem_insertionSort, Table.select, List.mem_filter,
    Option.map_eq_some_iff, find_schema, Bool.and_eq_true, beq_iff_eq, List.contains_iff_mem]
  constructor
  · rintro ⟨r, ⟨hr, hactive, hkind⟩, n, ⟨hn, hoid⟩, rfl⟩
    exact ⟨hkind, r, n, hr, hactive, hn, hoid, rfl⟩
  · rintro ⟨hkind, r, n, hr, hactive, hn, hoid, rfl⟩
    exact ⟨r, ⟨hr, hactive, hkind⟩, n, ⟨hn, hoid⟩, rfl⟩

lemma mem_activeIndexes {parentOid : ℤ} {x : IndexRow × RelationRow} :
    x ∈ activeIndexes c parentOid ↔ x.1 ∈ c.rsIndex.rows ∧ x.1.indrelid = parentOid ∧
      x.2 ∈ c.rsRelation.rows ∧ x.2.oid = x.1.indexrelid ∧ x.2.status = .active := by
  have hfind : ∀ (i : IndexRow) (r : RelationRow),
      c.rsRelation.find (fun r => r.oid == i.indexrelid && r.status == .active) = some r ↔
        r ∈ c.rsRelation.rows ∧ r.oid = i.indexrelid ∧ r.status = .active := fun i r => by
    rw [find_eq_some_iff fun a b ha hb => clash_relation ?_, Bool.and_eq_true, beq_iff_eq, beq_iff_eq]
    rw [Bool.and_eq_true] at ha hb
    exact (beq_iff_eq.1 ha.1).trans (beq_iff_eq.1 hb.1).symm
  unfold activeIndexes
  simp only [List.mem_filterMap, List.mem_insertionSort, Table.select, List.mem_filter,
    Option.map_eq_some_iff, hfind, beq_iff_eq]
  constructor
  · rintro ⟨i, ⟨hi, hparent⟩, r, ⟨hr, hoid, hactive⟩, rfl⟩
    exact ⟨hi, hparent, hr, hoid, hactive⟩
  · rintro ⟨hi, hparent, hr, hoid, hactive⟩
    exact ⟨x.1, ⟨hi, hparent⟩, x.2, ⟨hr, hoid, hactive⟩, rfl⟩

/-- An active partition with its relation and schema. -/
structure IsActiveChild (c : Catalog) (parentOid : ℤ) (p : PartitionRow) (r : RelationRow)
    (n : SchemaRow) (x : ActivePartitionChild) : Prop where
  partition : p ∈ c.rsPartition.rows
  parent : p.parentRelid = parentOid
  active : p.status = .active
  row : r ∈ c.rsRelation.rows
  child : r.oid = p.childRelid
  schema : n ∈ c.rsSchema.rows
  relnamespace : n.oid = r.relnamespace
  eq : x = ⟨p.childRelid, n.nspname, r.relname, r.status⟩

lemma activePartitionChild_eq_some {p : PartitionRow} {x : ActivePartitionChild} :
    activePartitionChild c p = some x ↔ ∃ r n, (r ∈ c.rsRelation.rows ∧ r.oid = p.childRelid) ∧
      (n ∈ c.rsSchema.rows ∧ n.oid = r.relnamespace) ∧
      x = ⟨p.childRelid, n.nspname, r.relname, r.status⟩ := by
  unfold activePartitionChild
  simp only [Option.bind_eq_bind, Option.bind_eq_some_iff, find_relation, find_schema, Option.pure_def,
    Option.some.injEq]
  constructor
  · rintro ⟨r, hr, n, hn, rfl⟩
    exact ⟨r, n, hr, hn, rfl⟩
  · rintro ⟨r, n, hr, hn, rfl⟩
    exact ⟨r, hr, n, hn, rfl⟩

lemma mem_activePartitionChildren {parentOid : ℤ} {x : ActivePartitionChild} :
    x ∈ activePartitionChildren c parentOid ↔ ∃ p r n, IsActiveChild c parentOid p r n x := by
  unfold activePartitionChildren
  simp only [List.mem_filterMap, List.mem_mergeSort, Table.select, List.mem_filter,
    activePartitionChild_eq_some, Bool.and_eq_true, beq_iff_eq]
  constructor
  · rintro ⟨p, ⟨hp, hparent, hactive⟩, r, n, ⟨hr, hoid⟩, ⟨hn, hnoid⟩, rfl⟩
    exact ⟨p, r, n, hp, hparent, hactive, hr, hoid, hn, hnoid, rfl⟩
  · rintro ⟨p, r, n, hp, hparent, hactive, hr, hoid, hn, hnoid, rfl⟩
    exact ⟨p, ⟨hp, hparent, hactive⟩, r, n, ⟨hr, hoid⟩, ⟨hn, hnoid⟩, rfl⟩

end Keys

end Rsduck.Catalog.Recovery
