import Rsduck.Catalog.RecoveryMarks
import Rsduck.Lib.Attempt

/-!
What is checked of the relations of a catalog against DuckDB.

Each check is a property of the state that no later step of the start takes away. A view that is
made anew is another matter for its own name only.
-/

namespace Rsduck.Catalog.Recovery

open Lib Lib.Eff Lib.Text ColumnTypes

variable {P : Type} {E : StartEngine P}

/-! ### Steps of a start -/

/-- DuckDB takes names for one that differ in the case of their letters. -/
def folded (schema relname : String) : String × String := (lowerString schema, lowerString relname)

/-- DuckDB is as it was, but for views under some names. -/
structure Beside (E : StartEngine P) (touched : List (String × String)) (p p' : P) : Prop where
  tables : E.tables p' = E.tables p
  indexes : E.indexes p' = E.indexes p
  loadedVssVersion : E.loadedVssVersion p' = E.loadedVssVersion p
  views : ∀ schema relname, folded schema relname ∉ touched →
    E.views p' schema relname = E.views p schema relname
  columns : ∀ schema relname, folded schema relname ∉ touched →
    E.columns p' schema relname = E.columns p schema relname

/-- A view that is made is what DuckDB has under its name, and all else stays. -/
def Faithful (E : StartEngine P) : Prop :=
  ∀ schema relname query p p', E.execute (viewSql schema relname query) p = .ok p' →
    Beside E [folded schema relname] p p'

/-- A step of the start, which may make views under some names. -/
structure Follows (E : StartEngine P) (touched : List (String × String)) (d d' : Db P) : Prop where
  cat : Eases d.cat d'.cat
  phys : Beside E touched d.phys d'.phys

section Follows

variable {touched : List (String × String)} {d d' d'' : Db P} {p p' p'' : P}

lemma Beside.refl (touched : List (String × String)) (p : P) : Beside E touched p p :=
  ⟨rfl, rfl, rfl, fun _ _ _ => rfl, fun _ _ _ => rfl⟩

lemma Beside.trans (h : Beside E touched p p') (h' : Beside E touched p' p'') :
    Beside E touched p p'' where
  tables := h'.tables.trans h.tables
  indexes := h'.indexes.trans h.indexes
  loadedVssVersion := h'.loadedVssVersion.trans h.loadedVssVersion
  views schema relname hname := (h'.views schema relname hname).trans (h.views schema relname hname)
  columns schema relname hname :=
    (h'.columns schema relname hname).trans (h.columns schema relname hname)

instance : Frame (Follows E touched) where
  refl d := ⟨Eases.refl d.cat, Beside.refl touched d.phys⟩
  trans h h' := ⟨h.cat.trans h'.cat, h.phys.trans h'.phys⟩

lemma Follows.refl (touched : List (String × String)) (d : Db P) : Follows E touched d d :=
  ⟨Eases.refl d.cat, Beside.refl touched d.phys⟩

lemma Follows.trans (h : Follows E touched d d') (h' : Follows E touched d' d'') :
    Follows E touched d d'' :=
  ⟨h.cat.trans h'.cat, h.phys.trans h'.phys⟩

/-- A step on the catalog alone. -/
lemma within_onCatalog {α : Type} {m : Eff Catalog α} (h : Within Eases m d.cat) :
    Within (Follows E touched) (Db.onCatalog m) d :=
  ⟨h, Beside.refl touched d.phys⟩

end Follows

/-! ### What fits -/

structure TableFits (E : StartEngine P) (d : Db P) (oid : ℤ) (schema relname : String) : Prop where
  present : E.tables d.phys schema relname ≠ 0
  columns : ColumnsFit d.cat oid (E.columns d.phys schema relname)

structure ViewFits (E : StartEngine P) (d : Db P) (oid : ℤ) (schema relname : String) : Prop where
  present : E.views d.phys schema relname ≠ 0
  columns : ColumnsFit d.cat oid (E.columns d.phys schema relname)

/-- The index is there, and no operation on it was broken off. An index in use is one of the version
of the extension that is loaded. -/
structure IndexFits (E : StartEngine P) (d : Db P) (oid : ℤ) (schema relname : String) : Prop where
  physical : validateIndexPhysical E oid schema relname d = .ok ⟨⟩
  settled : ∀ v ∈ d.cat.rsVectorIndex.rows, v.indexrelid = oid → interrupted v.buildStatus = false ∧
    (v.buildStatus = .active → E.loadedVssVersion d.phys = .ok v.extensionVersion)

/-- DuckDB has the relation as the catalog describes it. -/
def Fits (E : StartEngine P) (d : Db P) (r : PhysicalRelation) : Prop :=
  match r.relkind with
  | .table => TableFits E d r.oid r.schema r.relname
  | .view => ViewFits E d r.oid r.schema r.relname
  | .index => IndexFits E d r.oid r.schema r.relname
  | .partitioned => True

section Stable

variable {touched : List (String × String)} {d d' : Db P} {oid : ℤ} {schema relname : String}

lemma TableFits.of_follows (hfit : TableFits E d oid schema relname) (h : Follows E touched d d')
    (hname : folded schema relname ∉ touched) : TableFits E d' oid schema relname where
  present := by
    rw [h.phys.tables]
    exact hfit.present
  columns := by
    rw [h.phys.columns schema relname hname]
    exact hfit.columns.of_eases h.cat

lemma ViewFits.of_follows (hfit : ViewFits E d oid schema relname) (h : Follows E touched d d')
    (hname : folded schema relname ∉ touched) : ViewFits E d' oid schema relname where
  present := by
    rw [h.phys.views schema relname hname]
    exact hfit.present
  columns := by
    rw [h.phys.columns schema relname hname]
    exact hfit.columns.of_eases h.cat

lemma partitionedIndexParent_of_eases {c c' : Catalog} (h : Eases c c') :
    partitionedIndexParent c' oid = partitionedIndexParent c oid := by
  unfold partitionedIndexParent
  have hkind : ∀ i : IndexRow,
      c'.rsRelation.exists? (fun r => r.oid == i.indrelid && r.relkind == .partitioned) =
        c.rsRelation.exists? fun r => r.oid == i.indrelid && r.relkind == .partitioned :=
    fun i => h.relation.any fun _ _ hr => by rw [hr.same.oid, hr.same.relkind]
  rw [h.index]
  simp only [hkind]

lemma mem_activeIndexes_of_eases {c c' : Catalog} (h : Eases c c') {parentOid : ℤ}
    {x : IndexRow × RelationRow} (hx : x ∈ activeIndexes c' parentOid) :
    x ∈ activeIndexes c parentOid := by
  obtain ⟨hi, hparent, hr, hoid, hactive⟩ := mem_activeIndexes.1 hx
  rw [h.index] at hi
  exact mem_activeIndexes.2 ⟨hi, hparent, h.mem_of_active hr hactive, hoid, hactive⟩

lemma partitionIndexSpec_of_eases {c c' : Catalog} (h : Eases c c') (parentOid : ℤ) (i : IndexRow)
    (r : RelationRow) : partitionIndexSpec c' parentOid i r = partitionIndexSpec c parentOid i r := by
  have hname : columnNameByAttnum c' parentOid = columnNameByAttnum c parentOid := by
    unfold columnNameByAttnum
    rw [h.column]
  unfold partitionIndexSpec
  rw [hname]

/-- A specification of an index is that of the index's rows. -/
lemma partitionIndexSpec_eq_ok {c : Catalog} {parentOid : ℤ} {i : IndexRow} {r : RelationRow}
    {spec : PartitionIndexSpec} (h : partitionIndexSpec c parentOid i r = .ok spec) :
    spec.indexOid = i.indexrelid ∧ spec.indexName = r.relname := by
  unfold partitionIndexSpec at h
  simp only [Attempt.bind_eq_ok, Attempt.pure_eq_ok] at h
  obtain ⟨_, -, _, -, rfl⟩ := h
  exact ⟨rfl, rfl⟩

/-- A partition that is active has been so, in the same place. -/
lemma mem_activePartitionChildren_of_eases {c c' : Catalog} (h : Eases c c') {parentOid : ℤ}
    {x : ActivePartitionChild} (hx : x ∈ activePartitionChildren c' parentOid) :
    ∃ y ∈ activePartitionChildren c parentOid, y.relname = x.relname := by
  obtain ⟨p, r, n, hchild⟩ := mem_activePartitionChildren.1 hx
  obtain ⟨r₀, hr₀, heased⟩ := h.relation.mem hchild.row
  have hsame := heased.same
  have hn := hchild.schema
  rw [h.schema] at hn
  refine ⟨⟨p.childRelid, n.nspname, r₀.relname, r₀.status⟩, mem_activePartitionChildren.2
    ⟨p, r₀, n, h.partition_of_active hchild.partition hchild.active, hchild.parent, hchild.active, hr₀,
      hsame.oid.symm.trans hchild.child, hn, hchild.relnamespace.trans hsame.relnamespace, rfl⟩, ?_⟩
  rw [hchild.eq]
  exact hsame.relname.symm

/-- **An index stays in place** while its own relation is available. -/
lemma validateIndexPhysical_of_follows (h : Follows E touched d d')
    (hok : validateIndexPhysical E oid schema relname d = .ok ⟨⟩) {r : RelationRow}
    (hr : r ∈ d'.cat.rsRelation.rows) (hoid : r.oid = oid) (hactive : r.status = .active) :
    validateIndexPhysical E oid schema relname d' = .ok ⟨⟩ := by
  unfold validateIndexPhysical at hok ⊢
  rw [partitionedIndexParent_of_eases h.cat]
  rcases hparent : partitionedIndexParent d.cat oid with _ | parentOid
  · simp only [hparent] at hok ⊢
    rw [h.phys.indexes]
    exact hok
  · simp only [hparent, Attempt.bind_eq_ok] at hok ⊢
    obtain ⟨specs, hspecs, hrest⟩ := hok
    have hmem := Lib.mem_of_mapM hspecs
    obtain ⟨specs', hspecs'⟩ : ∃ specs', partitionIndexSpecs d'.cat parentOid = .ok specs' := by
      unfold partitionIndexSpecs
      rw [Attempt.exists_mapM_eq_ok]
      intro x hx
      obtain ⟨spec, -, hspec⟩ := hmem.2 x (mem_activeIndexes_of_eases h.cat hx)
      exact ⟨spec, by rw [partitionIndexSpec_of_eases h.cat]; exact hspec⟩
    have hmem' := Lib.mem_of_mapM hspecs'
    rcases hfind : specs.find? (·.indexOid == oid) with _ | spec
    · simp only [hfind] at hrest
      cases hrest
    · simp only [hfind] at hrest
      have hid : spec.indexOid = oid := by
        have hq := List.find?_some hfind
        exact beq_iff_eq.1 hq
      obtain ⟨x, hx, hspec⟩ := (hmem.1 spec).1 (List.mem_of_find?_eq_some hfind)
      obtain ⟨hi, hxparent, hxr, hxoid, hxactive⟩ := mem_activeIndexes.1 hx
      have hxid : x.1.indexrelid = oid := (partitionIndexSpec_eq_ok hspec).1.symm.trans hid
      -- the row of the index is the one that it had
      have hsame : x.2 = r := eq_of_oid hxr (h.cat.mem_of_active hr hactive)
        (by rw [hxoid, hxid, hoid])
      have hx' : x ∈ activeIndexes d'.cat parentOid := by
        refine mem_activeIndexes.2 ⟨?_, hxparent, by rw [hsame]; exact hr, hxoid, hxactive⟩
        rw [h.cat.index]
        exact hi
      obtain ⟨spec₁, hspec₁, hrun₁⟩ := hmem'.2 x hx'
      obtain ⟨spec', hfind'⟩ : ∃ spec', specs'.find? (·.indexOid == oid) = some spec' := by
        rcases hnone : specs'.find? (·.indexOid == oid) with _ | spec'
        · have hno := List.find?_eq_none.1 hnone spec₁ hspec₁
          rw [(partitionIndexSpec_eq_ok hrun₁).1, hxid] at hno
          exact absurd (beq_self_eq_true oid) hno
        · exact ⟨spec', hnone⟩
      have hid' : spec'.indexOid = oid := by
        have hq := List.find?_some hfind'
        exact beq_iff_eq.1 hq
      obtain ⟨y, hy, hyspec⟩ := (hmem'.1 spec').1 (List.mem_of_find?_eq_some hfind')
      obtain ⟨-, -, hyr, hyoid, hyactive⟩ := mem_activeIndexes.1 hy
      have hyid : y.1.indexrelid = oid := (partitionIndexSpec_eq_ok hyspec).1.symm.trans hid'
      have hysame : y.2 = r := eq_of_oid hyr hr (by rw [hyoid, hyid, hoid])
      have hname : spec'.indexName = spec.indexName := by
        rw [(partitionIndexSpec_eq_ok hyspec).2, (partitionIndexSpec_eq_ok hspec).2, hysame, hsame]
      refine ⟨specs', hspecs', ?_⟩
      simp only [hfind']
      have hall : ∀ child ∈ activePartitionChildren d.cat parentOid,
          validatePartitionIndex E spec d.phys child = .ok ⟨⟩ := forM_eq_ok.1 hrest
      refine forM_eq_ok.2 fun child hchild => ?_
      obtain ⟨child₀, hchild₀, hrelname⟩ := mem_activePartitionChildren_of_eases h.cat hchild
      have hthere := hall child₀ hchild₀
      unfold validatePartitionIndex at hthere ⊢
      rw [h.phys.indexes, hname, ← hrelname]
      exact hthere

lemma IndexFits.of_follows (hfit : IndexFits E d oid schema relname) (h : Follows E touched d d')
    {r : RelationRow} (hr : r ∈ d'.cat.rsRelation.rows) (hoid : r.oid = oid)
    (hactive : r.status = .active) : IndexFits E d' oid schema relname where
  physical := validateIndexPhysical_of_follows h hfit.physical hr hoid hactive
  settled v hv hvid := by
    obtain ⟨v₀, hv₀, heased⟩ := h.cat.vectorIndex.mem hv
    obtain rfl | ⟨status, m, hstatus, rfl⟩ := heased
    · rw [h.phys.loadedVssVersion]
      exact hfit.settled v hv₀ hvid
    · obtain rfl | rfl := hstatus
      · exact ⟨rfl, fun hne => by cases hne⟩
      · exact ⟨rfl, fun hne => by cases hne⟩

/-- **What fits fits to the end**, as long as it is available and no view is made under its name. -/
lemma Fits.of_follows {r : PhysicalRelation} (hfit : Fits E d r) (h : Follows E touched d d')
    (hname : folded r.schema r.relname ∉ touched)
    (hactive : r ∈ activeRelations physicalKinds d'.cat) : Fits E d' r := by
  obtain ⟨-, row, n, hrow⟩ := mem_activeRelations.1 hactive
  unfold Fits at hfit ⊢
  rcases hkind : r.relkind with _ | _ | _ | _
  · simp only [hkind] at hfit ⊢
    exact hfit.of_follows h hname
  · exact trivial
  · simp only [hkind] at hfit ⊢
    exact hfit.of_follows h hname
  · simp only [hkind] at hfit ⊢
    have hoid : row.oid = r.oid := by rw [hrow.eq]
    exact hfit.of_follows h hrow.row hoid hrow.active

end Stable

end Rsduck.Catalog.Recovery
