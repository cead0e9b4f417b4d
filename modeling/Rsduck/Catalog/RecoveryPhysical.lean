import Rsduck.Catalog.RecoveryFits

/-!
The pass over the tables, the views and the indexes.

Afterwards each of them that is available fits, and the pass would do nothing more.
-/

namespace Rsduck.Catalog.Recovery

open Lib Lib.Eff Lib.Text ColumnTypes

/-! ### Statements that a start executes -/

section Statements

variable {c : Catalog}

/-- All that a comparison of columns may write: types that no column has had. -/
structure Registers (c c' : Catalog) : Prop where
  only : c' = { c with rsType := c'.rsType, rsOidAlloc := c'.rsOidAlloc }
  type : c.rsType.rows <+: c'.rsType.rows

instance : Frame Registers where
  refl c := ⟨rfl, List.prefix_refl _⟩
  trans h h' := ⟨by rw [h'.only, h.only], h.type.trans h'.type⟩

lemma Registers.eases {c' : Catalog} (h : Registers c c') : Eases c c' := by
  rw [h.only]
  exact { Eases.refl c with type := h.type }

lemma eases_markRelation (relOid : ℤ) (reason : String) :
    Within Eases (markRelationUnavailable relOid reason) c :=
  { Eases.refl c with
    relation := revised_update RelationEased.refl fun _ => Or.inr ⟨_, rfl⟩
    dependency := fun _ hd => Or.inl hd }

lemma eases_markPartition (parentOid childOid : ℤ) (reason : String) :
    Within Eases (markPartitionFailed parentOid childOid reason) c :=
  { Eases.refl c with partition := revised_update PartitionEased.refl fun _ => Or.inr ⟨_, rfl⟩ }

lemma eases_markVectorIndex (indexOid : ℤ) {status : BuildStatus} (reason : String)
    (hstatus : status = .unavailable ∨ status = .stale) :
    Within Eases (markVectorIndexRecoveryStatus indexOid status reason) c :=
  { Eases.refl c with
    vectorIndex := revised_update VectorIndexEased.refl fun _ => Or.inr ⟨status, reason, hstatus, rfl⟩ }

lemma within_queryRow {ρ : Type} [Keyed ρ] {T : Slot ρ} {R : Catalog → Catalog → Prop} [Frame R]
    (context : String) (p : ρ → Bool) : Within R (queryRow T context p) c := by
  unfold queryRow
  refine within_bind within_get fun c₁ c₂ hget => ?_
  rcases (T.table c₁).find p with _ | row
  · exact within_throw _
  · exact within_pure _

lemma within_insertRow {ρ : Type} [Keyed ρ] {T : Slot ρ} {R : Catalog → Catalog → Prop} [Frame R]
    (context : String) (r : ρ) (h : ∀ t, (T.table c).insert r = some t → R c (T.put t c)) :
    Within R (insertRow T context r) c := by
  unfold insertRow
  refine within_bind within_get fun c₁ c₂ hget => ?_
  obtain ⟨rfl, rfl⟩ := runs_get.1 hget
  rcases hinsert : (T.table c₂).insert r with _ | t
  · exact within_throw _
  · exact h t hinsert

lemma registers_allocateOid : Within Registers allocateOid c := by
  unfold allocateOid
  refine within_bind (within_queryRow _ _) fun row c₁ _ => within_bind_pure _ ?_
  exact ⟨rfl, List.prefix_refl _⟩

/-- A type is registered beside the others. -/
lemma registers_ensureTypeId (t : String) : Within Registers (ensureTypeIdForDuckdbType t) c := by
  unfold ensureTypeIdForDuckdbType
  rcases scalarTypeIdForDuckdbType t with _ | id
  · refine within_bind (within_fromExcept _) fun _ c₁ _ => ?_
    refine within_bind within_get fun c₂ c₃ hget => ?_
    obtain ⟨rfl, rfl⟩ := runs_get.1 hget
    rcases hfind : c₃.rsType.find (·.rsduckPhysicalType == t) with _ | r
    · simp only [hfind]
      refine within_bind registers_allocateOid fun oid c₄ _ => within_bind_pure _ ?_
      refine within_insertRow _ _ fun table hinsert => ?_
      exact ⟨rfl, [_], (Table.insert_eq_some.1 hinsert).2.symm⟩
    · simp only [hfind]
      exact within_pure _
  · exact within_pure _

lemma registers_validateColumnsMatch (relOid : ℤ) (schema relname : String)
    (cols : List DuckdbColumn) :
    Within Registers (validateCatalogColumnsMatchDuckdb relOid schema relname cols) c := by
  unfold validateCatalogColumnsMatchDuckdb loadDuckdbColumns
  refine within_bind within_get fun c₁ c₂ _ => ?_
  refine within_bind ?_ fun xs c₃ _ => ?_
  · refine within_bind (within_mapM fun col _ c₃ => ?_) fun xs c₃ _ => ?_
    · exact within_bind_pure _ (registers_ensureTypeId _)
    · exact within_bind (within_ensure _ _) fun _ c₄ _ => within_pure _
  · refine within_bind (within_ensure _ _) fun _ c₄ _ => ?_
    exact within_forM fun p _ c₅ => within_ensure _ _

end Statements

variable {P : Type} {E : StartEngine P}

section Checks

variable {touched : List (String × String)} {d d' : Db P} {oid : ℤ} {schema relname : String}

/-- A comparison of columns, beside a database that stays as it is. -/
structure Inert (d d' : Db P) : Prop where
  cat : Registers d.cat d'.cat
  phys : d'.phys = d.phys

instance : Frame (Inert (P := P)) where
  refl d := ⟨Frame.refl d.cat, rfl⟩
  trans h h' := ⟨Frame.trans h.cat h'.cat, h'.phys.trans h.phys⟩

lemma Inert.follows (h : Inert d d') : Follows E touched d d' where
  cat := h.cat.eases
  phys := by
    rw [h.phys]
    exact Beside.refl touched d.phys

lemma inert_validateColumns : Within Inert (validateColumns E oid schema relname) d := by
  unfold validateColumns
  refine within_bind within_get fun d₁ d₂ _ => ?_
  exact ⟨registers_validateColumnsMatch _ _ _ _, rfl⟩

lemma inert_validateTablePhysical : Within Inert (validateTablePhysical E oid schema relname) d := by
  unfold validateTablePhysical
  refine within_bind within_get fun d₁ d₂ _ => ?_
  exact within_bind (within_ensure _ _) fun _ d₃ _ => inert_validateColumns

lemma inert_validateViewPhysical : Within Inert (validateViewPhysical E oid schema relname) d := by
  unfold validateViewPhysical
  refine within_bind within_get fun d₁ d₂ _ => ?_
  exact within_bind (within_ensure _ _) fun _ d₃ _ => inert_validateColumns

lemma within_validatePhysical (r : PhysicalRelation) :
    Within (Follows E touched) (validatePhysical E r) d := by
  unfold validatePhysical
  rcases r.relkind with _ | _ | _ | _
  · exact inert_validateTablePhysical.follows
  · exact within_pure _
  · exact inert_validateViewPhysical.follows
  · exact within_bind within_get fun d₁ d₂ _ => within_fromExcept _

lemma within_reconcile (indexOid : ℤ) :
    Within (Follows E touched) (reconcileVectorIndexRuntimeStatus E indexOid) d := by
  unfold reconcileVectorIndexRuntimeStatus
  refine within_bind within_get fun d₁ d₂ hget => ?_
  rcases hfind : d₁.cat.rsVectorIndex.find (·.indexrelid == indexOid) with _ | v
  · simp only [hfind]
    exact within_pure _
  · simp only [hfind]
    split_ifs
    · exact within_onCatalog (eases_markVectorIndex _ _ (Or.inl rfl))
    · exact within_pure _
    · refine within_bind (within_mapError _ (within_fromExcept _)) fun loaded d₃ _ => ?_
      split_ifs
      · exact within_onCatalog (eases_markVectorIndex _ _ (Or.inr rfl))
      · exact within_pure _

lemma within_validatePhysicalRelation (r : PhysicalRelation) :
    Within (Follows E touched) (validatePhysicalRelation E r) d := by
  unfold validatePhysicalRelation
  refine within_bind (within_attempt (within_validatePhysical r)) fun outcome d₁ _ => ?_
  rcases outcome with reason | _
  · refine within_bind (within_onCatalog (eases_markRelation _ _)) fun _ d₂ _ => ?_
    split_ifs
    · exact within_onCatalog (eases_markVectorIndex _ _ (Or.inl rfl))
    · exact within_pure _
  · dsimp only
    split_ifs
    · exact within_reconcile _
    · exact within_pure _

end Checks

/-! ### What a check finds -/

section Found

variable {d d' : Db P} {oid : ℤ} {schema relname : String} {u : PUnit}

lemma runs_validateColumns (htyped : Typed d.cat)
    (h : Runs (validateColumns E oid schema relname) d u d') :
    d' = d ∧ ColumnsFit d.cat oid (E.columns d.phys schema relname) := by
  unfold validateColumns at h
  rw [runs_get_bind] at h
  obtain ⟨hcat, hphys⟩ := Db.runs_onCatalog.1 h
  obtain ⟨hsame, hfit⟩ := runs_validateColumnsMatch htyped hcat
  exact ⟨by rcases d'; cases hsame; cases hphys; rfl, hfit⟩

lemma runs_validateTablePhysical (htyped : Typed d.cat)
    (h : Runs (validateTablePhysical E oid schema relname) d u d') :
    d' = d ∧ TableFits E d oid schema relname := by
  unfold validateTablePhysical at h
  rw [runs_get_bind, runs_ensure_bind] at h
  obtain ⟨hsame, hfit⟩ := runs_validateColumns htyped h.2
  exact ⟨hsame, by simpa using h.1, hfit⟩

lemma runs_validateViewPhysical (htyped : Typed d.cat)
    (h : Runs (validateViewPhysical E oid schema relname) d u d') :
    d' = d ∧ ViewFits E d oid schema relname := by
  unfold validateViewPhysical at h
  rw [runs_get_bind, runs_ensure_bind] at h
  obtain ⟨hsame, hfit⟩ := runs_validateColumns htyped h.2
  exact ⟨hsame, by simpa using h.1, hfit⟩

lemma ColumnsFit.runs_validateColumns (h : ColumnsFit d.cat oid (E.columns d.phys schema relname)) :
    Runs (validateColumns E oid schema relname) d ⟨⟩ d := by
  unfold validateColumns
  exact runs_get_bind.2 (Db.runs_onCatalog.2 ⟨h.runs, rfl⟩)

lemma TableFits.runs (h : TableFits E d oid schema relname) :
    Runs (validateTablePhysical E oid schema relname) d ⟨⟩ d := by
  unfold validateTablePhysical
  exact runs_get_bind.2 (runs_ensure_bind.2 ⟨by simpa using h.present, h.columns.runs_validateColumns⟩)

lemma ViewFits.runs (h : ViewFits E d oid schema relname) :
    Runs (validateViewPhysical E oid schema relname) d ⟨⟩ d := by
  unfold validateViewPhysical
  exact runs_get_bind.2 (runs_ensure_bind.2 ⟨by simpa using h.present, h.columns.runs_validateColumns⟩)

/-- A relation that is marked is not available. -/
lemma not_active_of_marked {c c' : Catalog} {reason : String}
    (h : Runs (markRelationUnavailable oid reason) c u c') {r : RelationRow}
    (hr : r ∈ c'.rsRelation.rows) (hoid : r.oid = oid) : r.status ≠ .active := by
  obtain rfl := runs_updateRows.1 h
  change r ∈ List.map _ _ at hr
  obtain ⟨r₀, hr₀, rfl⟩ := List.mem_map.1 hr
  by_cases hp : (r₀.oid == oid) = true
  · rw [if_pos hp]
    exact fun hc => by cases hc
  · rw [if_neg hp] at hoid
    exact absurd (beq_iff_eq.2 hoid) hp

/-- The index of a check that has passed, after what is said of its operations. -/
lemma runs_reconcile (h : Runs (reconcileVectorIndexRuntimeStatus E oid) d u d') :
    d'.cat.rsRelation = d.cat.rsRelation ∧
      ∀ v ∈ d'.cat.rsVectorIndex.rows, v.indexrelid = oid → interrupted v.buildStatus = false ∧
        (v.buildStatus = .active → E.loadedVssVersion d'.phys = .ok v.extensionVersion) := by
  have hmarked : ∀ {status : BuildStatus} {reason : String}, interrupted status = false →
      status ≠ .active →
      Runs (Db.onCatalog (markVectorIndexRecoveryStatus oid status reason)) d u d' →
      d'.cat.rsRelation = d.cat.rsRelation ∧
        ∀ v ∈ d'.cat.rsVectorIndex.rows, v.indexrelid = oid → interrupted v.buildStatus = false ∧
          (v.buildStatus = .active → E.loadedVssVersion d'.phys = .ok v.extensionVersion) := by
    intro status reason hdone hidle hrun
    obtain ⟨hcat, -⟩ := Db.runs_onCatalog.1 hrun
    have hset := runs_updateRows.1 hcat
    rw [hset]
    refine ⟨rfl, fun v hv hvid => ?_⟩
    change v ∈ List.map _ _ at hv
    obtain ⟨v₀, -, rfl⟩ := List.mem_map.1 hv
    by_cases hp : (v₀.indexrelid == oid) = true
    · rw [if_pos hp]
      exact ⟨hdone, fun hactive => absurd hactive hidle⟩
    · rw [if_neg hp] at hvid
      exact absurd (beq_iff_eq.2 hvid) hp
  unfold reconcileVectorIndexRuntimeStatus at h
  rw [runs_get_bind] at h
  rcases hfind : d.cat.rsVectorIndex.find (·.indexrelid == oid) with _ | v
  · simp only [hfind] at h
    obtain ⟨-, rfl⟩ := runs_pure.1 h
    refine ⟨rfl, fun v hv hvid => ?_⟩
    exact absurd (beq_iff_eq.2 hvid) (List.find?_eq_none.1 hfind v hv)
  · simp only [hfind] at h
    have honly : ∀ w ∈ d.cat.rsVectorIndex.rows, w.indexrelid = oid → w = v := fun w hw hwid => by
      have hv := List.find?_some hfind
      exact Table.eq_of_clash hw (List.mem_of_find?_eq_some hfind)
        (clash_vectorIndex (hwid.trans (beq_iff_eq.1 hv).symm))
    split_ifs at h with hinterrupted hactive
    · exact hmarked rfl (by decide) h
    · obtain ⟨-, rfl⟩ := runs_pure.1 h
      refine ⟨rfl, fun w hw hwid => ?_⟩
      rw [honly w hw hwid]
      exact ⟨by simpa using hinterrupted, fun hyes => absurd hyes hactive⟩
    · obtain ⟨loaded, d₁, hloaded, hrest⟩ := runs_bind.1 h
      rw [runs_mapError] at hloaded
      obtain ⟨hversion, rfl⟩ := runs_fromExcept.1 hloaded
      split_ifs at hrest with hold
      · exact hmarked rfl (by decide) hrest
      · obtain ⟨-, rfl⟩ := runs_pure.1 hrest
        refine ⟨rfl, fun w hw hwid => ?_⟩
        rw [honly w hw hwid]
        refine ⟨by simpa using hinterrupted, fun _ => ?_⟩
        rw [hversion, not_not.1 hold]

/-- **One turn of the pass**: a relation that is still available fits. -/
lemma fits_of_validatePhysicalRelation (htyped : Typed d.cat) {r : PhysicalRelation}
    (h : Runs (validatePhysicalRelation E r) d u d')
    (hactive : r ∈ activeRelations physicalKinds d'.cat) : Fits E d' r := by
  obtain ⟨hkind, row, n, hrow⟩ := mem_activeRelations.1 hactive
  have hoid : row.oid = r.oid := by rw [hrow.eq]
  have hfollows : Follows E [] d d' := (within_validatePhysicalRelation r).of_runs h
  unfold validatePhysicalRelation at h
  obtain ⟨outcome, d₁, hattempt, hrest⟩ := runs_bind.1 h
  have hexec : outcome = (exec (validatePhysical E r) d).1 ∧ d₁ = (exec (validatePhysical E r) d).2 := by
    unfold Runs at hattempt
    rw [exec_attempt] at hattempt
    cases hattempt
    exact ⟨rfl, rfl⟩
  rcases outcome with reason | ⟨⟩
  · -- a mark takes the relation out of those that are available
    exfalso
    obtain ⟨_, d₂, hmark, hlast⟩ := runs_bind.1 hrest
    obtain ⟨hcat, -⟩ := Db.runs_onCatalog.1 hmark
    have hcat₂ : Eases d₂.cat d'.cat := by
      split_ifs at hlast
      · exact (eases_markVectorIndex _ _ (Or.inl rfl)).of_runs (Db.runs_onCatalog.1 hlast).1
      · obtain ⟨-, rfl⟩ := runs_pure.1 hlast
        exact Eases.refl _
    exact not_active_of_marked hcat (hcat₂.mem_of_active hrow.row hrow.active) hoid hrow.active
  · have hrun : Runs (validatePhysical E r) d ⟨⟩ d₁ := by
      unfold Runs
      rw [hexec.1, hexec.2]
    unfold validatePhysical at hrun
    unfold Fits
    rcases hrelkind : r.relkind with _ | _ | _ | _
    · simp only [hrelkind] at hrun hrest ⊢
      obtain ⟨rfl, hfit⟩ := runs_validateTablePhysical htyped hrun
      obtain ⟨-, rfl⟩ := runs_pure.1 hrest
      exact hfit
    · exact trivial
    · simp only [hrelkind] at hrun hrest ⊢
      obtain ⟨rfl, hfit⟩ := runs_validateViewPhysical htyped hrun
      obtain ⟨-, rfl⟩ := runs_pure.1 hrest
      exact hfit
    · simp only [hrelkind] at hrun hrest ⊢
      rw [runs_get_bind, runs_fromExcept] at hrun
      obtain ⟨hok, rfl⟩ := hrun
      exact ⟨validateIndexPhysical_of_follows hfollows hok hrow.row hoid hrow.active,
        (runs_reconcile hrest).2⟩

/-- **Where a relation fits, its turn does nothing.** -/
lemma Fits.runs {r : PhysicalRelation} (hkind : r.relkind ∈ physicalKinds) (h : Fits E d r) :
    Runs (validatePhysicalRelation E r) d ⟨⟩ d := by
  have hrun : Runs (validatePhysical E r) d ⟨⟩ d := by
    unfold Fits at h
    unfold validatePhysical
    rcases hrelkind : r.relkind with _ | _ | _ | _
    · simp only [hrelkind] at h ⊢
      exact h.runs
    · rw [hrelkind] at hkind
      exact absurd hkind (by decide)
    · simp only [hrelkind] at h ⊢
      exact h.runs
    · simp only [hrelkind] at h ⊢
      exact runs_get_bind.2 (runs_fromExcept.2 ⟨h.physical, rfl⟩)
  unfold validatePhysicalRelation
  refine runs_bind.2 ⟨.ok ⟨⟩, d, ?_, ?_⟩
  · unfold Runs
    rw [exec_attempt, show exec (validatePhysical E r) d = _ from hrun]
  · dsimp only
    split_ifs with hindex
    · unfold Fits at h
      rw [hindex] at h
      unfold reconcileVectorIndexRuntimeStatus
      refine runs_get_bind.2 ?_
      rcases hfind : d.cat.rsVectorIndex.find (·.indexrelid == r.oid) with _ | v
      · simp only [hfind]
        exact runs_pure.2 ⟨rfl, rfl⟩
      · have hid := List.find?_some hfind
        obtain ⟨hdone, hversion⟩ := h.settled v (List.mem_of_find?_eq_some hfind) (beq_iff_eq.1 hid)
        simp only [hfind, hdone]
        by_cases hactive : v.buildStatus = .active
        · simp only [hactive, ne_eq, not_true_eq_false, if_false, Bool.false_eq_true]
          refine runs_bind.2 ⟨v.extensionVersion, d, ?_, ?_⟩
          · rw [runs_mapError, runs_fromExcept]
            exact ⟨hversion hactive, rfl⟩
          · simp only [not_true_eq_false, if_false]
            exact runs_pure.2 ⟨rfl, rfl⟩
        · simp only [ne_eq, hactive, not_false_eq_true, if_true, Bool.false_eq_true, if_false]
          exact runs_pure.2 ⟨rfl, rfl⟩
    · exact runs_pure.2 ⟨rfl, rfl⟩

end Found

end Rsduck.Catalog.Recovery
