import Rsduck.Catalog.RecoveryPartitions

/-!
What a start checks of a catalog by itself.

The references of a catalog lead somewhere, mutations that were not finished are closed, and the
checksum that is stored is that of the rows. A start leaves all of this as it is.
-/

namespace Rsduck.Catalog.Recovery

open Lib Lib.Eff Lib.Text ColumnTypes

/-! ### The rules of a catalog -/

/-- An object of a supported class is in the catalog. -/
def Referenced (c : Catalog) (classid objid : ℤ) : Prop :=
  classid = objectRelationKind ∧ c.rsRelation.exists? (·.oid == objid) = true ∨
    classid = objectConstraintKind ∧ c.rsConstraint.exists? (·.oid == objid) = true ∨
    classid = objectSchemaKind ∧ c.rsSchema.exists? (·.oid == objid) = true

/-- The references of a catalog lead somewhere, and its names are unique. -/
structure Sound (c : Catalog) : Prop where
  relation : ∀ r ∈ c.rsRelation.rows, c.rsSchema.exists? (·.oid == r.relnamespace) = true
  column : ∀ a ∈ c.rsColumn.rows, c.rsRelation.exists? (·.oid == a.attrelid) = true
  typed : Typed c
  vectorIndex : ∀ v ∈ c.rsVectorIndex.rows, c.rsIndex.exists? (·.indexrelid == v.indexrelid) = true ∧
    v.dimension ≠ 0
  namesApart : NamesApart c
  dependency : ∀ d ∈ c.rsDependency.rows, Referenced c d.classid d.objid ∧
    Referenced c d.refclassid d.refobjid

section Sound

variable {c c' : Catalog}

lemma nodup_rows {ρ : Type} [Keyed ρ] (hself : ∀ r : ρ, Keyed.clash r r = true) (t : Table ρ) :
    t.rows.Nodup :=
  t.keyed.imp fun {a b} hclash hab => by
    rw [hab, hself b] at hclash
    cases hclash

/-- Names that no two active relations share. -/
lemma namesApart_iff : NamesApart c ↔ (activeNames c).Nodup := by
  have hrows : (c.rsRelation.select (·.status == .active)).Nodup :=
    (nodup_rows (fun _ => clash_relation rfl) c.rsRelation).filter _
  constructor
  · intro h
    refine List.Nodup.map_on (fun r hr s hs hkey => ?_) hrows
    obtain ⟨hr, hactive⟩ := List.mem_filter.1 hr
    obtain ⟨hs, hactive'⟩ := List.mem_filter.1 hs
    obtain ⟨hspace, hname⟩ := Prod.mk.inj hkey
    exact h r hr s hs (beq_iff_eq.1 hactive) (beq_iff_eq.1 hactive') hspace hname
  · intro h r hr s hs hactive hactive' hspace hname
    refine List.inj_on_of_nodup_map h (List.mem_filter.2 ⟨hr, beq_iff_eq.2 hactive⟩)
      (List.mem_filter.2 ⟨hs, beq_iff_eq.2 hactive'⟩) ?_
    exact Prod.ext hspace hname

lemma duplicates_eq_nil {xs : List (ℤ × String)} :
    (xs.dedup.filter fun k => decide (1 < xs.count k)).length = 0 ↔ xs.Nodup := by
  rw [List.length_eq_zero_iff, List.filter_eq_nil_iff, List.nodup_iff_count_le_one]
  constructor
  · intro h k
    by_cases hk : k ∈ xs
    · have := h k (List.mem_dedup.2 hk)
      rw [decide_eq_true_iff] at this
      omega
    · rw [List.count_eq_zero_of_not_mem hk]
      omega
  · intro h k _
    rw [decide_eq_true_iff]
    have := h k
    omega

/-- A dependency that no rule finds fault with. -/
lemma referenced_iff {classid objid : ℤ} : Referenced c classid objid ↔
    supportedClass classid = true ∧ dangling c objectRelationKind classid objid = false ∧
      dangling c objectConstraintKind classid objid = false ∧
      dangling c objectSchemaKind classid objid = false := by
  unfold Referenced supportedClass dangling
  simp only [objectRelationKind, objectConstraintKind, objectSchemaKind]
  by_cases h₁ : classid = 1259
  · subst h₁
    simp
  · by_cases h₂ : classid = 2606
    · subst h₂
      simp
    · by_cases h₃ : classid = 2615
      · subst h₃
        simp
      · simp [h₁, h₂, h₃]

lemma select_eq_zero {ρ : Type} [Keyed ρ] {t : Table ρ} {q : ρ → Bool} :
    (t.select q).length = 0 ↔ ∀ r ∈ t.rows, q r = false := by
  unfold Table.select
  rw [List.length_eq_zero_iff, List.filter_eq_nil_iff]
  simp only [Bool.not_eq_true]

/-- **What the integrity check says.** -/
lemma sound_iff : (∀ rule ∈ integrityRules c, rule.1 = 0) ↔ Sound c := by
  unfold integrityRules
  simp only [List.forall_mem_cons, List.not_mem_nil, false_imp_iff, implies_true, and_true,
    select_eq_zero, duplicates_eq_nil, ← namesApart_iff, Bool.not_eq_false', Bool.or_eq_false_iff]
  constructor
  · rintro ⟨hrel, hcol, htyp, hvec, hdim, hnames, hclass, h1, h2, h3, h4, h5, h6⟩
    refine ⟨hrel, hcol, htyp, fun v hv => ⟨hvec v hv, by simpa using hdim v hv⟩, hnames,
      fun d hd => ⟨referenced_iff.2 ⟨(hclass d hd).1, h1 d hd, h3 d hd, h5 d hd⟩,
        referenced_iff.2 ⟨(hclass d hd).2, h2 d hd, h4 d hd, h6 d hd⟩⟩⟩
  · intro h
    have hobj := fun d hd => referenced_iff.1 (h.dependency d hd).1
    have href := fun d hd => referenced_iff.1 (h.dependency d hd).2
    exact ⟨h.relation, h.column, h.typed, fun v hv => (h.vectorIndex v hv).1,
      fun v hv => by simpa using (h.vectorIndex v hv).2, h.namesApart,
      fun d hd => ⟨(hobj d hd).1, (href d hd).1⟩, fun d hd => (hobj d hd).2.1,
      fun d hd => (href d hd).2.1, fun d hd => (hobj d hd).2.2.1, fun d hd => (href d hd).2.2.1,
      fun d hd => (hobj d hd).2.2.2, fun d hd => (href d hd).2.2.2⟩

lemma runs_validateCatalogIntegrity {u : PUnit} :
    Runs validateCatalogIntegrity c u c' ↔ Sound c ∧ c' = c := by
  unfold validateCatalogIntegrity
  rw [runs_get_bind]
  unfold ensureCatalogCountZero
  rw [runs_forM_ensure_iff, ← sound_iff]
  simp only [beq_iff_eq]

/-- **A start leaves a sound catalog sound.** -/
lemma Sound.of_eases (hc : Sound c) (h : Eases c c') : Sound c' where
  relation r hr := by
    obtain ⟨r₀, hr₀, heased⟩ := h.relation.mem hr
    rw [h.schema, heased.same.relnamespace]
    exact hc.relation r₀ hr₀
  column a ha := by
    rw [h.column] at ha
    rw [h.existsRelation]
    exact hc.column a ha
  typed a ha := by
    rw [h.column] at ha
    exact exists_of_prefix h.type (hc.typed a ha)
  vectorIndex v hv := by
    obtain ⟨v₀, hv₀, heased⟩ := h.vectorIndex.mem hv
    rw [h.index]
    obtain rfl | ⟨status, m, -, rfl⟩ := heased
    · exact hc.vectorIndex v hv₀
    · exact hc.vectorIndex v₀ hv₀
  namesApart r hr s hs hactive hactive' hspace hname :=
    hc.namesApart r (h.mem_of_active hr hactive) s (h.mem_of_active hs hactive') hactive hactive' hspace
      hname
  dependency d hd := by
    have href : ∀ classid objid, Referenced c classid objid → Referenced c' classid objid := by
      intro classid objid
      unfold Referenced
      rw [h.existsRelation, h.constraint, h.schema]
      exact id
    rcases h.dependency d hd with hd | ⟨hclass, hrefclass, hobj, hrefobj⟩
    · exact ⟨href _ _ (hc.dependency d hd).1, href _ _ (hc.dependency d hd).2⟩
    · exact ⟨href _ _ (Or.inl ⟨hclass, hobj⟩), href _ _ (Or.inl ⟨hrefclass, hrefobj⟩)⟩

end Sound

/-! ### The journal -/

section Journal

variable {c c' : Catalog} {u : PUnit}

def pendingSummary (c : Catalog) : String :=
  "; ".intercalate (((pendingJournal c).take 5).map journalSummary)

/-- The catalog with its unfinished mutations failed. -/
def failPending (summary : String) (c : Catalog) : Catalog :=
  { c with
    rsCatalogJournal := c.rsCatalogJournal.update (·.status == .pending)
      (fun r => { r with status := .failed, errorMessage := "recovered at startup: " ++ summary })
      fun _ _ => rfl }

/-- The catalog after its unfinished mutations were closed. -/
def settleJournal (c : Catalog) : Catalog :=
  if (pendingJournal c).isEmpty then c
  else
    let failed := failPending (pendingSummary c) c
    setCatalogChecksum (calculateCatalogChecksum failed) failed

lemma runs_validateCatalogJournalState :
    Runs validateCatalogJournalState c u c' ↔ c' = settleJournal c := by
  unfold validateCatalogJournalState settleJournal
  rw [runs_get_bind]
  dsimp only
  split_ifs
  · rw [runs_pure]
    exact ⟨And.right, fun h => ⟨rfl, h⟩⟩
  · constructor
    · intro h
      obtain ⟨_, c₁, hupdate, hrefresh⟩ := runs_bind.1 h
      rw [runs_refreshCatalogChecksum.1 hrefresh, runs_updateRows.1 hupdate]
      rfl
    · intro h
      exact runs_bind.2 ⟨⟨⟩, _, runs_updateRows.2 rfl, runs_refreshCatalogChecksum.2 h⟩

/-- The catalog but for its version and its journal. -/
def SameObjects (c c' : Catalog) : Prop :=
  c' = { c with rsCatalogVersion := c'.rsCatalogVersion, rsCatalogJournal := c'.rsCatalogJournal }

lemma sameObjects_setCatalogChecksum (x : String) (c : Catalog) :
    SameObjects c (setCatalogChecksum x c) := rfl

lemma sameObjects_settleJournal (c : Catalog) : SameObjects c (settleJournal c) := by
  unfold settleJournal
  split_ifs <;> rfl

lemma Sound.of_sameObjects (hc : Sound c) (h : SameObjects c c') : Sound c' := by
  rw [h]
  exact ⟨hc.relation, hc.column, hc.typed, hc.vectorIndex, hc.namesApart, hc.dependency⟩

lemma SameObjects.schemasApart (h : SameObjects c c') (hc : SchemasApart c) : SchemasApart c' := by
  rw [h]
  exact hc

lemma SameObjects.partitionsAreTables (h : SameObjects c c') (hc : PartitionsAreTables c) :
    PartitionsAreTables c' := by
  rw [h]
  exact hc

/-- A start leaves no mutation open. -/
lemma pendingJournal_settleJournal (c : Catalog) : pendingJournal (settleJournal c) = [] := by
  unfold settleJournal
  split_ifs with h
  · exact List.isEmpty_iff.1 h
  · unfold pendingJournal
    rw [← List.length_eq_zero_iff, List.length_insertionSort, select_eq_zero]
    intro r hr
    change r ∈ List.map _ _ at hr
    obtain ⟨r₀, -, rfl⟩ := List.mem_map.1 hr
    by_cases hp : (r₀.status == .pending) = true
    · rw [if_pos hp]
      rfl
    · rw [if_neg hp]
      exact Bool.eq_false_iff.2 hp

lemma settleJournal_of_no_pending (h : pendingJournal c = []) : settleJournal c = c := by
  unfold settleJournal
  rw [h]
  rfl

lemma failPending_setCatalogChecksum (summary x : String) (c : Catalog) :
    failPending summary (setCatalogChecksum x c) = setCatalogChecksum x (failPending summary c) := rfl

/-- The stored checksum has no part in what is done about the journal. -/
lemma settleJournal_setCatalogChecksum (h : pendingJournal c ≠ []) (x : String) :
    settleJournal (setCatalogChecksum x c) = settleJournal c := by
  have hpending : pendingJournal (setCatalogChecksum x c) = pendingJournal c := rfl
  have hsummary : pendingSummary (setCatalogChecksum x c) = pendingSummary c := rfl
  have hne : ¬ (pendingJournal c).isEmpty = true := fun hc => h (List.isEmpty_iff.1 hc)
  unfold settleJournal
  rw [hpending, if_neg hne, if_neg hne, hsummary]
  dsimp only
  rw [failPending_setCatalogChecksum, calculate_setCatalogChecksum, setCatalogChecksum_setCatalogChecksum]

end Journal

/-! ### What a catalog says of itself -/

section SelfChecks

variable {c c' : Catalog} {u : PUnit}

/-- The version that the program works with. -/
structure Usable (v : VersionRow) : Prop where
  schemaVersion : v.schemaVersion = catalogVersion
  snapshotFormatVersion : v.snapshotFormatVersion = snapshotFormatVersion
  status : v.status = "ready"

def HasUsableVersion (c : Catalog) : Prop :=
  ∃ v, c.rsCatalogVersion.find (·.id == 1) = some v ∧ Usable v

/-- The checksum that is stored is that of the rows beside it. -/
def ChecksumStored (c : Catalog) : Prop :=
  ∃ v, c.rsCatalogVersion.find (·.id == 1) = some v ∧ v.catalogChecksum = calculateCatalogChecksum c

lemma runs_validateCatalogChecksum :
    Runs validateCatalogChecksum c u c' ↔ ChecksumStored c ∧ c' = c := by
  unfold validateCatalogChecksum ChecksumStored
  simp only [runs_bind, runs_queryRow, runs_get, runs_ensure, beq_iff_eq]
  constructor
  · rintro ⟨v, c₁, ⟨hfind, rfl⟩, c₂, c₃, ⟨rfl, rfl⟩, hsum, rfl⟩
    exact ⟨⟨v, hfind, hsum⟩, rfl⟩
  · rintro ⟨⟨v, hfind, hsum⟩, rfl⟩
    exact ⟨v, _, ⟨hfind, rfl⟩, _, _, ⟨rfl, rfl⟩, hsum, rfl⟩

/-- **What the checks of a catalog find.** -/
lemma runs_validateCatalog : Runs validateCatalog c u c' ↔
    HasUsableVersion c ∧ c' = settleJournal c ∧ Sound c' ∧ ChecksumStored c' := by
  unfold validateCatalog
  constructor
  · intro h
    obtain ⟨v, c₁, hquery, hversion⟩ := runs_bind.1 h
    obtain ⟨hfind, rfl⟩ := runs_queryRow.1 hquery
    rw [runs_ensure_bind, runs_ensure_bind, runs_ensure_bind] at hversion
    obtain ⟨hschema, hsnapshot, hstatus, hchecks⟩ := hversion
    obtain ⟨_, c₂, hjournal, hrest⟩ := runs_bind.1 hchecks
    obtain ⟨_, c₃, hsound, hsum⟩ := runs_bind.1 hrest
    obtain ⟨hsound, rfl⟩ := runs_validateCatalogIntegrity.1 hsound
    obtain ⟨hsum, rfl⟩ := runs_validateCatalogChecksum.1 hsum
    exact ⟨⟨v, hfind, beq_iff_eq.1 hschema, beq_iff_eq.1 hsnapshot, beq_iff_eq.1 hstatus⟩,
      runs_validateCatalogJournalState.1 hjournal, hsound, hsum⟩
  · rintro ⟨⟨v, hfind, hv⟩, hsettled, hsound, hsum⟩
    refine runs_bind.2 ⟨v, c, runs_queryRow.2 ⟨hfind, rfl⟩, ?_⟩
    rw [runs_ensure_bind, runs_ensure_bind, runs_ensure_bind]
    refine ⟨beq_iff_eq.2 hv.schemaVersion, beq_iff_eq.2 hv.snapshotFormatVersion,
      beq_iff_eq.2 hv.status, ?_⟩
    refine runs_bind.2 ⟨⟨⟩, c', runs_validateCatalogJournalState.2 hsettled, ?_⟩
    refine runs_bind.2 ⟨⟨⟩, c', runs_validateCatalogIntegrity.2 ⟨hsound, rfl⟩, ?_⟩
    exact runs_validateCatalogChecksum.2 ⟨hsum, rfl⟩

/-- The version after a checksum is stored. -/
lemma find_setCatalogChecksum (x : String) (c : Catalog) :
    (setCatalogChecksum x c).rsCatalogVersion.find (·.id == 1) =
      (c.rsCatalogVersion.find (·.id == 1)).map fun v => { v with catalogChecksum := x } := by
  have h := Table.find_update (ρ := VersionRow) (·.id == 1) (·.id == 1)
    (fun v => { v with catalogChecksum := x }) (fun _ _ => rfl) (fun _ => rfl) c.rsCatalogVersion
  refine h.trans ?_
  rcases hfind : c.rsCatalogVersion.find (·.id == 1) with _ | v
  · rw [hfind]
    rfl
  · have hid := List.find?_some hfind
    rw [hfind, Option.map_some, Option.map_some, if_pos hid]

lemma HasUsableVersion.setCatalogChecksum (h : HasUsableVersion c) (x : String) :
    HasUsableVersion (setCatalogChecksum x c) := by
  obtain ⟨v, hfind, hv⟩ := h
  refine ⟨{ v with catalogChecksum := x }, ?_, hv.schemaVersion, hv.snapshotFormatVersion, hv.status⟩
  rw [find_setCatalogChecksum, hfind]
  rfl

lemma HasUsableVersion.settleJournal (h : HasUsableVersion c) :
    HasUsableVersion (settleJournal c) := by
  unfold Recovery.settleJournal
  split_ifs
  · exact h
  · refine HasUsableVersion.setCatalogChecksum ?_ _
    exact h

lemma checksumStored_refreshed (h : HasUsableVersion c) :
    ChecksumStored (setCatalogChecksum (calculateCatalogChecksum c) c) := by
  obtain ⟨v, hfind, -⟩ := h
  refine ⟨{ v with catalogChecksum := calculateCatalogChecksum c }, ?_, ?_⟩
  · rw [find_setCatalogChecksum, hfind]
    rfl
  · rw [calculate_setCatalogChecksum]

/-- A checksum that is stored is stored again without a change. -/
lemma ChecksumStored.refresh_eq (h : ChecksumStored c) :
    setCatalogChecksum (calculateCatalogChecksum c) c = c := by
  obtain ⟨v, hfind, hsum⟩ := h
  have hrows : c.rsCatalogVersion.update (·.id == 1)
      (fun v => { v with catalogChecksum := calculateCatalogChecksum c }) (fun _ _ => rfl) =
        c.rsCatalogVersion := by
    refine Table.ext ((List.map_congr_left fun w hw => ?_).trans (List.map_id c.rsCatalogVersion.rows))
    by_cases hid : (w.id == 1) = true
    · have hv := List.find?_some hfind
      have hsame : w = v := Table.eq_of_clash hw (List.mem_of_find?_eq_some hfind)
        (beq_iff_eq.2 ((beq_iff_eq.1 hid).trans (beq_iff_eq.1 hv).symm))
      rw [if_pos hid, hsame, ← hsum]
      rfl
    · rw [if_neg hid]
      rfl
  unfold Catalog.setCatalogChecksum
  rw [hrows]

end SelfChecks

end Rsduck.Catalog.Recovery
