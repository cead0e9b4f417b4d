import Rsduck.Catalog.RecoveryChecks

/-!
The start of the program.

After a start the catalog is sound and all that it says to be available is there, and to start again
changes nothing.
-/

namespace Rsduck.Catalog.Recovery

open Lib Lib.Eff Lib.Text ColumnTypes

/-! ### The pass over the partitioned tables -/

section Order

variable {c c' : Catalog} {kinds : List RelKind}

/-- Relations are listed by their oids, each one once. -/
lemma activeRelations_sorted (kinds : List RelKind) (c : Catalog) :
    (activeRelations kinds c).Pairwise fun x y => x.oid < y.oid := by
  have hne : ((c.rsRelation.select fun r => r.status == .active &&
      kinds.contains r.relkind).insertionSort fun r s => r.oid ≤ s.oid).Pairwise
        fun r s => r.oid ≠ s.oid := by
    refine (List.perm_insertionSort _ _).symm.pairwise ?_ fun h => h.symm
    refine (c.rsRelation.keyed.filter _).imp fun {r s} hclash hoid => ?_
    rw [clash_relation hoid] at hclash
    cases hclash
  have hle : ((c.rsRelation.select fun r => r.status == .active &&
      kinds.contains r.relkind).insertionSort fun r s => r.oid ≤ s.oid).Pairwise
        fun r s => r.oid ≤ s.oid := by
    have : Std.Total fun r s : RelationRow => r.oid ≤ s.oid := ⟨fun r s => Int.le_total r.oid s.oid⟩
    have : IsTrans RelationRow fun r s => r.oid ≤ s.oid := ⟨fun _ _ _ => Int.le_trans⟩
    exact List.pairwise_insertionSort _ _
  unfold activeRelations
  rw [List.pairwise_filterMap]
  refine (hne.and hle).imp ?_
  rintro r s ⟨hne, hle⟩ x hx y hy
  obtain ⟨n, -, rfl⟩ := Option.map_eq_some_iff.1 hx
  obtain ⟨m, -, rfl⟩ := Option.map_eq_some_iff.1 hy
  exact lt_of_le_of_ne hle hne

lemma eq_of_sorted {xs ys : List PhysicalRelation} (hxs : xs.Pairwise fun x y => x.oid < y.oid)
    (hys : ys.Pairwise fun x y => x.oid < y.oid) (h : ∀ x, x ∈ xs ↔ x ∈ ys) : xs = ys := by
  have hnodup : ∀ {zs : List PhysicalRelation}, zs.Pairwise (fun x y => x.oid < y.oid) → zs.Nodup :=
    fun hzs => hzs.imp fun hlt heq => by
      rw [heq] at hlt
      exact lt_irrefl _ hlt
  refine List.Perm.eq_of_pairwise (fun x y _ _ hxy hyx => ?_) hxs hys
    ((List.perm_ext_iff_of_nodup (hnodup hxs) (hnodup hys)).2 h)
  exact absurd hxy (lt_asymm hyx)

/-- What is available at the end has been so. -/
lemma Eases.mem_activeRelations (h : Eases c c') {x : PhysicalRelation}
    (hx : x ∈ activeRelations kinds c') : x ∈ activeRelations kinds c := by
  obtain ⟨hkind, r, n, hr⟩ := Recovery.mem_activeRelations.1 hx
  refine Recovery.mem_activeRelations.2 ⟨hkind, r, n, h.mem_of_active hr.row hr.active, hr.active, ?_,
    hr.relnamespace, hr.eq⟩
  rw [← h.schema]
  exact hr.schema

end Order

section Synced

variable {c : Catalog} {ys : List PhysicalRelation} {rows : List DependencyRow}

/-- What the dependencies of some tables are replaced with, one table after the other. -/
def syncedAll (c : Catalog) (ys : List PhysicalRelation) (rows : List DependencyRow) :
    List DependencyRow :=
  ys.foldl (fun rows y => syncedRows y.oid (activePartitionChildren c y.oid) rows) rows

/-- The dependencies of some tables on their partitions. -/
def partitionDependencies (c : Catalog) (ys : List PhysicalRelation) : List DependencyRow :=
  ys.flatMap fun y => (activePartitionChildren c y.oid).map (partitionDependency y.oid)

/-- The dependency is none of some tables on relations. -/
def ownedByNone (ys : List PhysicalRelation) (r : DependencyRow) : Bool :=
  ys.all fun y => !isRelationDependency y.oid r

lemma isRelationDependency_partition {oid parentOid : ℤ} {x : ActivePartitionChild} :
    isRelationDependency oid (partitionDependency parentOid x) = (parentOid == oid) := by
  unfold isRelationDependency partitionDependency
  rw [beq_self_eq_true, Bool.true_and, Bool.and_true]

/-- **What the dependencies come to**: the others stay, and those of the tables are their
partitions. -/
lemma syncedAll_eq (hys : ys.Pairwise fun x y => x.oid < y.oid) :
    syncedAll c ys rows = rows.filter (ownedByNone ys) ++ partitionDependencies c ys := by
  induction ys generalizing rows with
  | nil =>
    change rows = rows.filter (fun _ => true) ++ []
    rw [List.filter_true, List.append_nil]
  | cons y ys ih =>
    obtain ⟨hfirst, hrest⟩ := List.pairwise_cons.1 hys
    have hown : ((activePartitionChildren c y.oid).map (partitionDependency y.oid)).filter
        (ownedByNone ys) = (activePartitionChildren c y.oid).map (partitionDependency y.oid) := by
      rw [List.filter_eq_self]
      intro r hr
      obtain ⟨x, -, rfl⟩ := List.mem_map.1 hr
      unfold ownedByNone
      rw [List.all_eq_true]
      intro z hz
      rw [isRelationDependency_partition, beq_false_of_ne (ne_of_lt (hfirst z hz))]
      rfl
    have hothers : (rows.filter fun r => !isRelationDependency y.oid r).filter (ownedByNone ys) =
        rows.filter (ownedByNone (y :: ys)) := by
      rw [List.filter_filter]
      exact List.filter_congr fun r _ => Bool.and_comm _ _
    calc syncedAll c (y :: ys) rows
        = syncedAll c ys (syncedRows y.oid (activePartitionChildren c y.oid) rows) := rfl
      _ = _ := ih hrest
      _ = _ := by
        unfold syncedRows partitionDependencies
        rw [List.filter_append, hown, hothers, List.flatMap_cons, List.append_assoc]

/-- To bring the dependencies up to date a second time changes nothing. -/
lemma syncedAll_syncedAll (hys : ys.Pairwise fun x y => x.oid < y.oid) :
    syncedAll c ys (syncedAll c ys rows) = syncedAll c ys rows := by
  have hnone : (partitionDependencies c ys).filter (ownedByNone ys) = [] := by
    rw [List.filter_eq_nil_iff]
    intro r hr hnone
    obtain ⟨y, hy, hr⟩ := List.mem_flatMap.1 hr
    obtain ⟨x, -, rfl⟩ := List.mem_map.1 hr
    have hfree := List.all_eq_true.1 hnone y hy
    rw [isRelationDependency_partition, beq_self_eq_true] at hfree
    cases hfree
  rw [syncedAll_eq hys, syncedAll_eq hys, List.filter_append, hnone, List.append_nil,
    List.filter_filter]
  simp only [Bool.and_self]

end Synced

variable {P : Type} {E : StartEngine P}

section Pass

variable {d d' : Db P} {q : PhysicalRelation} {u : PUnit} {xs ys : List PhysicalRelation}

lemma Follows.mono {touched touched' : List (String × String)} (h : Follows E touched d d')
    (hsub : touched ⊆ touched') : Follows E touched' d d' where
  cat := h.cat
  phys := {
    tables := h.phys.tables
    indexes := h.phys.indexes
    loadedVssVersion := h.phys.loadedVssVersion
    views := fun schema relname hname => h.phys.views schema relname fun hmem => hname (hsub hmem)
    columns := fun schema relname hname => h.phys.columns schema relname fun hmem => hname (hsub hmem) }

/-- The names of the views that a pass may make. -/
def entrypoints (xs : List PhysicalRelation) : List (String × String) :=
  xs.map fun x => folded x.schema x.relname

/-- What a pass over some tables comes to: some of them are available at its end. -/
structure Pass (E : StartEngine P) (xs ys : List PhysicalRelation) (d d' : Db P) : Prop where
  sublist : ys.Sublist xs
  mem : ∀ x ∈ xs, x ∈ activeRelations [.partitioned] d'.cat → x ∈ ys
  available : ∀ y ∈ ys, y ∈ activeRelations [.partitioned] d'.cat ∧ PartitionedFits E d' y
  follows : Follows E (entrypoints xs) d d'
  dependency : d'.cat.rsDependency.rows = syncedAll d'.cat ys d.cat.rsDependency.rows
  others : ∀ r ∈ activeRelations [.partitioned] d.cat, (∀ x ∈ xs, r.oid ≠ x.oid) →
    r ∈ activeRelations [.partitioned] d'.cat ∧ (PartitionedFits E d r → PartitionedFits E d' r ∧
      activePartitionChildren d'.cat r.oid = activePartitionChildren d.cat r.oid)

/-- **A pass over the partitioned tables.** -/
lemma pass_of_runs (hE : Faithful E) (hc : Orderly d.cat)
    (hxs : xs.Pairwise fun x y => x.oid < y.oid)
    (hactive : ∀ x ∈ xs, x ∈ activeRelations [.partitioned] d.cat)
    (h : Runs (xs.forM (validatePartitioned E)) d u d') : ∃ ys, Pass E xs ys d d' := by
  induction xs generalizing d with
  | nil =>
    obtain rfl := runs_forM_nil.1 h
    exact ⟨[], List.Sublist.slnil, fun x hx => (List.not_mem_nil hx).elim,
      fun y hy => (List.not_mem_nil hy).elim, Follows.refl _ _, rfl,
      fun r hr _ => ⟨hr, fun hfit => ⟨hfit, rfl⟩⟩⟩
  | cons x xs ih =>
    obtain ⟨t, hx, hrest⟩ := runs_forM_cons.1 h
    obtain ⟨hfirst, htail⟩ := List.pairwise_cons.1 hxs
    have hq := hactive x List.mem_cons_self
    have hturn := turn_of_runs hE hc hq hx
    have hne : ∀ y ∈ xs, y.oid ≠ x.oid := fun y hy => (ne_of_lt (hfirst y hy)).symm
    have hct := hc.of_eases hturn.follows.cat
    obtain ⟨ys, hpass⟩ := ih hct htail
      (fun y hy => hturn.others y (hactive y (List.mem_cons_of_mem x hy)) (hne y hy)) hrest
    have hfollows : Follows E (entrypoints (x :: xs)) d d' := by
      refine (hturn.follows.mono fun name hname => ?_).trans (hpass.follows.mono ?_)
      · rw [List.mem_singleton.1 hname]
        exact List.mem_cons_self
      · exact List.subset_cons_self _ _
    have hothers : ∀ r ∈ activeRelations [.partitioned] d.cat, (∀ z ∈ x :: xs, r.oid ≠ z.oid) →
        r ∈ activeRelations [.partitioned] d'.cat ∧ (PartitionedFits E d r → PartitionedFits E d' r ∧
          activePartitionChildren d'.cat r.oid = activePartitionChildren d.cat r.oid) := by
      intro r hr hapart
      obtain ⟨hrx, hrxs⟩ := List.forall_mem_cons.1 hapart
      obtain ⟨hmem, hkeep⟩ := hpass.others r (hturn.others r hr hrx) hrxs
      refine ⟨hmem, fun hfit => ?_⟩
      obtain ⟨hfits, hsame⟩ := hkeep (hturn.fits hc hq hr hrx hfit)
      exact ⟨hfits, hsame.trans (hturn.children_eq hc hrx hfit)⟩
    rcases hturn.outcome with ⟨hgone, hdependency⟩ | ⟨hthere, hfit, hdependency⟩
    · refine ⟨ys, hpass.sublist.cons x, fun y hy hyactive => ?_, hpass.available, hfollows, ?_, hothers⟩
      · rcases List.mem_cons.1 hy with rfl | hy
        · exact absurd (hpass.follows.cat.mem_activeRelations hyactive) hgone
        · exact hpass.mem y hy hyactive
      · rw [hpass.dependency, hdependency]
    · obtain ⟨hmem, hkeep⟩ := hpass.others x hthere fun y hy => (hne y hy).symm
      obtain ⟨hfits, hsame⟩ := hkeep hfit
      refine ⟨x :: ys, hpass.sublist.cons_cons x, fun y hy hyactive => ?_,
        List.forall_mem_cons.2 ⟨⟨hmem, hfits⟩, hpass.available⟩, hfollows, ?_, hothers⟩
      · rcases List.mem_cons.1 hy with rfl | hy
        · exact List.mem_cons_self
        · exact List.mem_cons_of_mem x (hpass.mem y hy hyactive)
      · rw [hpass.dependency, hdependency, ← hsame]
        rfl

/-- All that is available at the end of a whole pass. -/
lemma Pass.eq (hpass : Pass E (activeRelations [.partitioned] d.cat) ys d d') :
    ys = activeRelations [.partitioned] d'.cat := by
  refine eq_of_sorted ((activeRelations_sorted _ _).sublist hpass.sublist)
    (activeRelations_sorted _ _) fun x => ⟨fun hx => (hpass.available x hx).1, fun hx => ?_⟩
  exact hpass.mem x (hpass.follows.cat.mem_activeRelations hx) hx

lemma partitionedFits_withDependencies {t : Table DependencyRow} (h : PartitionedFits E d q) :
    PartitionedFits E (withDependencies d t) q :=
  ⟨fun x hx => ⟨(h.children x hx).1, tableFits_withDependencies (h.children x hx).2⟩, h.generated,
    viewFits_withDependencies h.view⟩

/-- A pass over tables that fit writes their dependencies, and does nothing else. -/
lemma runs_validatePartitioned_again (hfits : ∀ y ∈ ys, PartitionedFits E d y) :
    ∃ t, t.rows = syncedAll d.cat ys d.cat.rsDependency.rows ∧
      Runs (ys.forM (validatePartitioned E)) d ⟨⟩ (withDependencies d t) := by
  induction ys generalizing d with
  | nil => exact ⟨d.cat.rsDependency, rfl, runs_forM_nil.2 rfl⟩
  | cons y ys ih =>
    obtain ⟨hy, hys⟩ := List.forall_mem_cons.1 hfits
    obtain ⟨t, hrows, hrun⟩ := hy.runs
    obtain ⟨t', hrows', hruns⟩ := ih (d := withDependencies d t) fun z hz =>
      partitionedFits_withDependencies (hys z hz)
    refine ⟨t', ?_, runs_forM_cons.2 ⟨_, hrun, hruns⟩⟩
    rw [hrows']
    change syncedAll d.cat ys t.rows = _
    rw [hrows]
    rfl

end Pass

/-! ### The start -/

/-- What the passes of a start come to: all that is available is there as the catalog describes it, and
a partitioned table depends on its partitions and on no other relation. -/
structure Checked (E : StartEngine P) (d : Db P) : Prop where
  physical : ∀ r ∈ activeRelations physicalKinds d.cat, Fits E d r
  partitioned : ∀ q ∈ activeRelations [.partitioned] d.cat, PartitionedFits E d q
  dependency : d.cat.rsDependency.rows =
    d.cat.rsDependency.rows.filter (ownedByNone (activeRelations [.partitioned] d.cat)) ++
      partitionDependencies d.cat (activeRelations [.partitioned] d.cat)

/-- **What holds after a start.** -/
structure Started (E : StartEngine P) (d : Db P) : Prop extends Checked E d where
  version : HasUsableVersion d.cat
  checksum : ChecksumStored d.cat
  journal : pendingJournal d.cat = []
  sound : Sound d.cat

section Start

variable {d d' : Db P} {u : PUnit}

/-- The database with another checksum stored. -/
def withChecksum (d : Db P) (x : String) : Db P := { d with cat := setCatalogChecksum x d.cat }

section WithChecksum

variable {x : String} {oid : ℤ} {schema relname : String}

lemma columnsFit_withChecksum {cols : List DuckdbColumn} (h : ColumnsFit d.cat oid cols) :
    ColumnsFit (withChecksum d x).cat oid cols :=
  ⟨h.nonempty, h.typed, h.each.imp fun _ _ hk => ⟨hk.known, hk.name, hk.duckdbType⟩⟩

lemma tableFits_withChecksum (h : TableFits E d oid schema relname) :
    TableFits E (withChecksum d x) oid schema relname :=
  ⟨h.present, columnsFit_withChecksum h.columns⟩

lemma viewFits_withChecksum (h : ViewFits E d oid schema relname) :
    ViewFits E (withChecksum d x) oid schema relname :=
  ⟨h.present, columnsFit_withChecksum h.columns⟩

lemma fits_withChecksum {r : PhysicalRelation} (h : Fits E d r) : Fits E (withChecksum d x) r := by
  unfold Fits at h ⊢
  rcases hkind : r.relkind with _ | _ | _ | _
  · simp only [hkind] at h ⊢
    exact tableFits_withChecksum h
  · exact trivial
  · simp only [hkind] at h ⊢
    exact viewFits_withChecksum h
  · simp only [hkind] at h ⊢
    exact ⟨h.physical, h.settled⟩

lemma Checked.withChecksum (h : Checked E d) (x : String) : Checked E (withChecksum d x) where
  physical r hr := fits_withChecksum (h.physical r hr)
  partitioned q hq :=
    have hfit := h.partitioned q hq
    ⟨fun y hy => ⟨(hfit.children y hy).1, tableFits_withChecksum (hfit.children y hy).2⟩,
      hfit.generated, viewFits_withChecksum hfit.view⟩
  dependency := h.dependency

end WithChecksum

/-- **The passes of a start.** -/
lemma checked_of_runs (hE : Faithful E) (hc : Orderly d.cat)
    (h : Runs (validatePhysicalRelations E >>= fun _ => validatePartitionedRelations E) d u d') :
    Follows E (entrypoints (activeRelations [.partitioned] d.cat)) d d' ∧ Checked E d' := by
  obtain ⟨_, d₁, hphysical, hpartitioned⟩ := runs_bind.1 h
  unfold validatePhysicalRelations at hphysical
  unfold validatePartitionedRelations at hpartitioned
  rw [runs_get_bind] at hphysical hpartitioned
  obtain ⟨⟨hc₁, hfollows⟩, hfits⟩ := runs_forM_settles
    (I := fun s => Orderly s.cat ∧ Follows E [] d s)
    (Q := fun r s => r ∈ activeRelations physicalKinds s.cat → Fits E s r)
    (fun r _ s t hs hrun => by
      have hstep : Follows E [] s t := (within_validatePhysicalRelation r).of_runs hrun
      exact ⟨⟨hs.1.of_eases hstep.cat, hs.2.trans hstep⟩,
        fits_of_validatePhysicalRelation hs.1.typed hrun⟩)
    (fun r _ y _ s t _ hQ hrun hr => by
      have hstep : Follows E [] s t := (within_validatePhysicalRelation y).of_runs hrun
      exact (hQ (hstep.cat.mem_activeRelations hr)).of_follows hstep List.not_mem_nil hr)
    ⟨hc, Follows.refl [] d⟩ hphysical
  obtain ⟨ys, hpass⟩ := pass_of_runs hE hc₁ (activeRelations_sorted _ _) (fun _ hx => hx) hpartitioned
  have hys := hpass.eq
  subst hys
  refine ⟨(hfollows.mono (List.nil_subset _)).trans (hpass.follows.mono fun name hname => ?_),
    fun r hr => ?_, fun q hq => (hpass.available q hq).2, ?_⟩
  · obtain ⟨x, hx, rfl⟩ := List.mem_map.1 hname
    exact List.mem_map.2 ⟨x, hfollows.cat.mem_activeRelations hx, rfl⟩
  · have hr₁ := hpass.follows.cat.mem_activeRelations hr
    refine (hfits r (hfollows.cat.mem_activeRelations hr₁) hr₁).of_follows hpass.follows ?_ hr
    -- no entry point has the name of another relation
    intro hname
    obtain ⟨x, hx, hfolded⟩ := List.mem_map.1 hname
    have hkind : x.relkind ≠ r.relkind := by
      have hx := List.mem_singleton.1 (mem_activeRelations.1 hx).1
      have hr := (mem_activeRelations.1 hr).1
      intro heq
      rw [← heq, hx] at hr
      exact absurd hr (by decide)
    exact hc₁.folded_ne hx hr₁ (oid_ne_of_kind hx hr₁ hkind) hfolded
  · have hrows := hpass.dependency
    have hsorted := activeRelations_sorted [.partitioned] d'.cat
    rw [hrows, ← syncedAll_eq hsorted, syncedAll_syncedAll hsorted]

/-- **A start from what a start has left** does nothing. -/
lemma Checked.runs (h : Checked E d) :
    Runs (validatePhysicalRelations E >>= fun _ => validatePartitionedRelations E) d ⟨⟩ d := by
  have hphysical : Runs (validatePhysicalRelations E) d ⟨⟩ d :=
    runs_get_bind.2 (runs_forM_self fun r hr => (h.physical r hr).runs (mem_activeRelations.1 hr).1)
  obtain ⟨t, hrows, hrun⟩ := runs_validatePartitioned_again h.partitioned
  have ht : t = d.cat.rsDependency := by
    refine Table.ext (hrows.trans ?_)
    rw [syncedAll_eq (activeRelations_sorted _ _)]
    exact h.dependency.symm
  subst ht
  exact runs_bind.2 ⟨⟨⟩, d, hphysical, runs_get_bind.2 hrun⟩

lemma runs_validateStored : Runs (validateStored E) d u d' ↔
    HasUsableVersion d.cat ∧ Sound (settleJournal d.cat) ∧ ChecksumStored (settleJournal d.cat) ∧
      ∃ d₂, Runs (validatePhysicalRelations E >>= fun _ => validatePartitionedRelations E)
          ⟨settleJournal d.cat, d.phys⟩ ⟨⟩ d₂ ∧
        d' = withChecksum d₂ (calculateCatalogChecksum d₂.cat) := by
  unfold validateStored
  constructor
  · intro h
    obtain ⟨_, ⟨c, p⟩, hcatalog, hpasses⟩ := runs_bind.1 h
    obtain ⟨hchecks, hphys⟩ := Db.runs_onCatalog.1 hcatalog
    obtain ⟨hversion, hsettled, hsound, hsum⟩ := runs_validateCatalog.1 hchecks
    obtain ⟨_, d₁, hphysical, hrest⟩ := runs_bind.1 hpasses
    obtain ⟨_, d₂, hpartitioned, hrefresh⟩ := runs_bind.1 hrest
    obtain ⟨hcat, hphys₂⟩ := Db.runs_onCatalog.1 hrefresh
    dsimp only at hsettled hphys
    subst hsettled hphys
    refine ⟨hversion, hsound, hsum, d₂, runs_bind.2 ⟨_, d₁, hphysical, hpartitioned⟩, ?_⟩
    rcases d' with ⟨c', p'⟩
    dsimp only at hcat hphys₂
    rw [runs_refreshCatalogChecksum.1 hcat, hphys₂]
    rfl
  · rintro ⟨hversion, hsound, hsum, d₂, hpasses, rfl⟩
    obtain ⟨_, d₁, hphysical, hpartitioned⟩ := runs_bind.1 hpasses
    refine runs_bind.2 ⟨⟨⟩, ⟨settleJournal d.cat, d.phys⟩, Db.runs_onCatalog.2
      ⟨runs_validateCatalog.2 ⟨hversion, rfl, hsound, hsum⟩, rfl⟩, ?_⟩
    refine runs_bind.2 ⟨⟨⟩, d₁, hphysical, runs_bind.2 ⟨⟨⟩, d₂, hpartitioned, ?_⟩⟩
    exact Db.runs_onCatalog.2 ⟨runs_refreshCatalogChecksum.2 rfl, rfl⟩

variable {adminPasswordHash adminMysqlAuthString : String} {stored : Option Catalog} {p : P}

/-- The catalog that a start begins with. -/
def startCatalog (adminPasswordHash adminMysqlAuthString : String) (stored : Option Catalog) :
    Catalog :=
  stored.getD (insertBootstrapRows adminPasswordHash adminMysqlAuthString)

lemma validateAfterStart_eq_ok :
    validateAfterStart E adminPasswordHash adminMysqlAuthString stored p = .ok d ↔
      (stored = none → E.userTables p = 0) ∧
        Runs (validateStored E)
          ⟨startCatalog adminPasswordHash adminMysqlAuthString stored, p⟩ ⟨⟩ d := by
  unfold validateAfterStart startCatalog
  rcases stored with _ | c
  · by_cases huser : E.userTables p = 0
    · simp only [huser, ne_eq, not_true_eq_false, if_false, Option.getD_none, implies_true, true_and]
      exact settled_exec_eq_ok
    · simp only [huser, ne_eq, not_false_eq_true, if_true, forall_const, false_and, iff_false]
      intro h
      cases h
  · simp only [Option.getD_some, reduceCtorEq, false_imp_iff, true_and]
    exact settled_exec_eq_ok

/-- What a catalog has from the statements that wrote it, and a start does not check. -/
def WellWritten (stored : Option Catalog) : Prop :=
  ∀ c ∈ stored, SchemasApart c ∧ PartitionsAreTables c

lemma startCatalog_wellWritten (adminPasswordHash adminMysqlAuthString : String)
    (h : WellWritten stored) :
    SchemasApart (startCatalog adminPasswordHash adminMysqlAuthString stored) ∧
      PartitionsAreTables (startCatalog adminPasswordHash adminMysqlAuthString stored) := by
  rcases stored with _ | c
  · refine ⟨?_, fun p hp => (List.not_mem_nil hp).elim⟩
    have hnames : (bootstrapSchemas.map fun n => lowerString n.nspname).Nodup := by decide
    exact fun n hn m hm hname => List.inj_on_of_nodup_map hnames hn hm hname
  · exact h c rfl

/-- **What a start does.** -/
lemma start_spec (hE : Faithful E) (hstored : WellWritten stored)
    (h : validateAfterStart E adminPasswordHash adminMysqlAuthString stored p = .ok d) :
    let c := startCatalog adminPasswordHash adminMysqlAuthString stored
    HasUsableVersion c ∧ Sound (settleJournal c) ∧ ∃ d₂, Checked E d₂ ∧
      Follows E (entrypoints (activeRelations [.partitioned] c)) ⟨settleJournal c, p⟩ d₂ ∧
      d = withChecksum d₂ (calculateCatalogChecksum d₂.cat) := by
  obtain ⟨-, hrun⟩ := validateAfterStart_eq_ok.1 h
  obtain ⟨hversion, hsound, -, d₂, hpasses, rfl⟩ := runs_validateStored.1 hrun
  obtain ⟨hschemas, htables⟩ :=
    startCatalog_wellWritten adminPasswordHash adminMysqlAuthString hstored
  have hsame := sameObjects_settleJournal
    (startCatalog adminPasswordHash adminMysqlAuthString stored)
  obtain ⟨hfollows, hchecked⟩ := checked_of_runs hE ⟨hsound.typed, hsound.namesApart,
    hsame.schemasApart hschemas, hsame.partitionsAreTables htables⟩ hpasses
  refine ⟨hversion, hsound, d₂, hchecked, ?_, rfl⟩
  have hactive : activeRelations [.partitioned]
      (settleJournal (startCatalog adminPasswordHash adminMysqlAuthString stored)) =
        activeRelations [.partitioned]
          (startCatalog adminPasswordHash adminMysqlAuthString stored) := by
    rw [hsame]
    rfl
  rw [← hactive]
  exact hfollows

lemma Eases.hasUsableVersion {c c' : Catalog} (h : Eases c c') (hc : HasUsableVersion c) :
    HasUsableVersion c' := by
  have hsame : c'.rsCatalogVersion = c.rsCatalogVersion := congrArg (·.1) h.readOnly
  obtain ⟨v, hfind, hv⟩ := hc
  exact ⟨v, by rw [hsame]; exact hfind, hv⟩

lemma Eases.pendingJournal_eq {c c' : Catalog} (h : Eases c c') :
    pendingJournal c' = pendingJournal c := by
  have hsame : c'.rsCatalogJournal = c.rsCatalogJournal := congrArg (·.2.1) h.readOnly
  unfold pendingJournal
  rw [hsame]

/-- A database that is settled is started again without a change. -/
lemma Started.again (h : Started E d) :
    validateAfterStart E adminPasswordHash adminMysqlAuthString (some d.cat) d.phys = .ok d := by
  have hsettled : settleJournal d.cat = d.cat := settleJournal_of_no_pending h.journal
  have hstart : (⟨settleJournal d.cat, d.phys⟩ : Db P) = d := by rw [hsettled]
  have hsum : d = withChecksum d (calculateCatalogChecksum d.cat) := by
    unfold withChecksum
    rw [h.checksum.refresh_eq]
  have hrun : Runs (validateStored E) d ⟨⟩ d := by
    refine runs_validateStored.2 ⟨h.version, ?_, ?_, d, ?_, hsum⟩
    · rw [hsettled]
      exact h.sound
    · rw [hsettled]
      exact h.checksum
    · rw [hstart]
      exact h.toChecked.runs
  exact validateAfterStart_eq_ok.2 ⟨fun hnone => absurd hnone (Option.some_ne_none _), hrun⟩

/-! ### A start of a small database -/

section Sample

/-- Rows for a partitioned table and its partition, whose view has been lost. -/
def lostViewRelation (oid : ℤ) (relname : String) (relnamespace : ℤ) (relkind : RelKind) :
    RelationRow :=
  ⟨oid, relname, relnamespace, 0, adminUserId, relkind, "p", 1, 0, false, false, "", "", .active, ""⟩

def lostViewColumn (relOid : ℤ) : ColumnRow :=
  ⟨relOid, "at", typeTimestamp, 1, 0, false, false, false, "", "", ""⟩

def lostViewRows : Catalog :=
  { bootstrapRows "" "" with
    rsRelation := ⟨[lostViewRelation 20000 "events" mainNs .partitioned,
      lostViewRelation 20001 "events__p0" rsduckInternalNs .table], by decide⟩
    rsColumn := ⟨[lostViewColumn 20000, lostViewColumn 20001], by decide⟩
    rsRelationExt := ⟨[⟨20000, .ordinary, "", .user, "at", "TIMESTAMP", none, 0, "", ""⟩],
      List.pairwise_singleton _ _⟩
    rsPartition := ⟨[⟨20000, 20001, "2024", .year, none, none, false, .active, 0, none, none, "", ""⟩],
      List.pairwise_singleton _ _⟩ }

/-- The statement makes a view of the name. -/
def makesView (schema relname sql : String) : Bool :=
  (viewSql schema relname "").toList.isPrefixOf sql.toList

/-- A database that records the statements it executes. -/
def recordingEngine : StartEngine (List String) where
  tables _ schema relname := if (schema, relname) = ("rsduck_internal", "events__p0") then 1 else 0
  views executed schema relname := (executed.filter (makesView schema relname)).length
  columns _ _ _ := [⟨"at", "TIMESTAMP", true, none, 0⟩]
  indexes _ _ _ := 0
  loadedVssVersion _ := .ok ""
  userTables _ := 0
  execute sql executed := .ok (sql :: executed)

/-- A quoted name ends where its quote is not doubled. -/
lemma quoted_inj {xs ys s t : List Char} {c : Char} (hc : c ≠ '"')
    (h : (xs.flatMap fun c => if c = '"' then ['"', '"'] else [c]) ++ '"' :: c :: s =
      (ys.flatMap fun c => if c = '"' then ['"', '"'] else [c]) ++ '"' :: c :: t) :
    xs = ys ∧ s = t := by
  induction xs generalizing ys with
  | nil =>
    rcases ys with _ | ⟨y, ys⟩
    · simpa using h
    · by_cases hy : y = '"'
      · simp [hy, hc] at h
      · simp [hy, Ne.symm hy] at h
  | cons x xs ih =>
    rcases ys with _ | ⟨y, ys⟩
    · by_cases hx : x = '"'
      · simp [hx, Ne.symm hc] at h
      · simp [hx] at h
    · by_cases hx : x = '"' <;> by_cases hy : y = '"'
      · simp only [List.flatMap_cons, hx, hy, if_true, List.cons_append, List.nil_append,
          List.cons.injEq, true_and] at h
        obtain ⟨hxs, hst⟩ := ih h
        exact ⟨by rw [hx, hy, hxs], hst⟩
      · simp [hx, hy, Ne.symm hy] at h
      · simp [hx, hy] at h
      · simp only [List.flatMap_cons, hx, hy, if_false, List.cons_append, List.nil_append,
          List.cons.injEq] at h
        obtain ⟨hxs, hst⟩ := ih h.2
        exact ⟨by rw [h.1, hxs], hst⟩

/-- A statement makes the view of one name only. -/
lemma makesView_viewSql {schema relname schema' relname' query : String}
    (h : makesView schema' relname' (viewSql schema relname query) = true) :
    schema' = schema ∧ relname' = relname := by
  obtain ⟨rest, hrest⟩ := List.isPrefixOf_iff_prefix.1 h
  unfold viewSql quoteQualified quoteIdent at hrest
  simp only [String.toList_append, String.toList_ofList, List.append_assoc] at hrest
  have hnames := List.append_cancel_left (List.append_cancel_left hrest)
  obtain ⟨hschema, hrelname⟩ := quoted_inj (c := '.') (by decide) hnames
  have hrel := (List.append_right_inj ['"']).1 hrelname
  obtain ⟨hname, -⟩ := quoted_inj (c := ' ') (by decide) hrel
  exact ⟨String.toList_injective hschema, String.toList_injective hname⟩

lemma faithful_recordingEngine : Faithful recordingEngine := by
  intro schema relname query executed executed' h
  obtain rfl : viewSql schema relname query :: executed = executed' := Except.ok.inj h
  have hviews : ∀ schema' relname', folded schema' relname' ∉ [folded schema relname] →
      recordingEngine.views (viewSql schema relname query :: executed) schema' relname' =
        recordingEngine.views executed schema' relname' := by
    intro schema' relname' hother
    have hneg : ¬ makesView schema' relname' (viewSql schema relname query) = true := fun hmakes => by
      obtain ⟨rfl, rfl⟩ := makesView_viewSql hmakes
      exact hother (List.mem_singleton.2 rfl)
    have hrest : (viewSql schema relname query :: executed).filter (makesView schema' relname') =
        executed.filter (makesView schema' relname') := List.filter_cons_of_neg hneg
    unfold recordingEngine
    dsimp only
    rw [hrest]
  exact ⟨rfl, rfl, rfl, hviews, fun _ _ _ => rfl⟩

/-- A table whose view has been lost, in a catalog with its checksum. -/
def lostView : Catalog := setCatalogChecksum (calculateCatalogChecksum lostViewRows) lostViewRows

lemma lostView_wellWritten : WellWritten (some lostView) := by
  intro c hc
  obtain rfl := Option.mem_some_iff.1 hc
  refine ⟨?_, ?_⟩
  · have hnames : (bootstrapSchemas.map fun n => lowerString n.nspname).Nodup := by decide
    exact fun n hn m hm hname => List.inj_on_of_nodup_map hnames hn hm hname
  · have htables : ∀ p ∈ lostViewRows.rsPartition.rows, ∀ r ∈ lostViewRows.rsRelation.rows,
        r.oid = p.childRelid → r.relkind = .table := by decide
    exact htables

/-- The database has what the catalog needs for a start. -/
def StartsUp (c : Catalog) : Prop :=
  (exec (validatePhysicalRelations recordingEngine >>= fun _ =>
    validatePartitionedRelations recordingEngine) ⟨settleJournal c, []⟩).1.isOk = true

lemma exists_start {c : Catalog} (hversion : HasUsableVersion c) (hsound : Sound c)
    (hchecksum : ChecksumStored (settleJournal c)) (hok : StartsUp c) :
    ∃ d, validateAfterStart recordingEngine "" "" (some c) [] = .ok d := by
  unfold StartsUp at hok
  rcases hexec : exec (validatePhysicalRelations recordingEngine >>= fun _ =>
      validatePartitionedRelations recordingEngine) ⟨settleJournal c, []⟩ with ⟨_ | ⟨⟩, d⟩
  · rw [hexec] at hok
    cases hok
  · exact ⟨_, validateAfterStart_eq_ok.2 ⟨fun _ => rfl, runs_validateStored.2
      ⟨hversion, hsound.of_sameObjects (sameObjects_settleJournal c), hchecksum, d, hexec, rfl⟩⟩⟩

lemma usable_lostViewRows : HasUsableVersion lostViewRows :=
  ⟨⟨1, catalogVersion, snapshotFormatVersion, 0, "", "ready"⟩, rfl, rfl, rfl, rfl⟩

lemma sound_lostViewRows : Sound lostViewRows := sound_iff.1 (by decide)

/-- The view is made anew. -/
lemma exists_start_lostView :
    ∃ d, validateAfterStart recordingEngine "" "" (some lostView) [] = .ok d := by
  have hsettled : settleJournal lostView = lostView := settleJournal_of_no_pending rfl
  refine exists_start (usable_lostViewRows.setCatalogChecksum _)
    (sound_lostViewRows.of_sameObjects (sameObjects_setCatalogChecksum _ _)) ?_ ?_
  · rw [hsettled]
    exact checksumStored_refreshed usable_lostViewRows
  · unfold StartsUp
    decide +kernel

end Sample

/-- **A start leaves a database that is settled**: what the catalog says to be available is there as
it is described, and to start again changes nothing. -/
theorem validateAfterStart_settles (hE : Faithful E) (hstored : WellWritten stored)
    (h : validateAfterStart E adminPasswordHash adminMysqlAuthString stored p = .ok d) :
    Started E d ∧ ∀ hash auth, validateAfterStart E hash auth (some d.cat) d.phys = .ok d := by
  obtain ⟨hversion, hsound, d₂, hchecked, hfollows, rfl⟩ := start_spec hE hstored h
  have hversion₂ : HasUsableVersion d₂.cat := hfollows.cat.hasUsableVersion hversion.settleJournal
  have hpending : pendingJournal d₂.cat = [] :=
    hfollows.cat.pendingJournal_eq.trans (pendingJournal_settleJournal _)
  have hend := hchecked.withChecksum (calculateCatalogChecksum d₂.cat)
  have hstarted : Started E (withChecksum d₂ (calculateCatalogChecksum d₂.cat)) :=
    ⟨hend, hversion₂.setCatalogChecksum _, checksumStored_refreshed hversion₂, hpending,
      (hsound.of_eases hfollows.cat).of_sameObjects (sameObjects_setCatalogChecksum _ _)⟩
  exact ⟨hstarted, fun _ _ => hstarted.again⟩

theorem validateAfterStart_settles_lostView :
    ∃ d, Started recordingEngine d ∧
      ∀ hash auth, validateAfterStart recordingEngine hash auth (some d.cat) d.phys = .ok d := by
  obtain ⟨d, hd⟩ := exists_start_lostView
  exact ⟨d, validateAfterStart_settles faithful_recordingEngine lostView_wellWritten hd⟩

/-- **A start only takes away**: nothing becomes available, no row of a relation, a user or a right is
lost, and in DuckDB only views over partitions are made. -/
theorem validateAfterStart_takes (hE : Faithful E) {c : Catalog} (hc : WellWritten (some c))
    (h : validateAfterStart E adminPasswordHash adminMysqlAuthString (some c) p = .ok d) :
    ∃ c', Eases (settleJournal c) c' ∧ d.cat = setCatalogChecksum (calculateCatalogChecksum c') c' ∧
      Beside E (entrypoints (activeRelations [.partitioned] c)) p d.phys := by
  obtain ⟨-, -, d₂, -, hfollows, rfl⟩ := start_spec hE hc h
  exact ⟨d₂.cat, hfollows.cat, rfl, hfollows.phys⟩

theorem validateAfterStart_takes_lostView :
    ∃ d : Db (List String), ∃ c', Eases (settleJournal lostView) c' ∧
      d.cat = setCatalogChecksum (calculateCatalogChecksum c') c' ∧
      Beside recordingEngine (entrypoints (activeRelations [.partitioned] lostView)) [] d.phys := by
  obtain ⟨d, hd⟩ := exists_start_lostView
  exact ⟨d, validateAfterStart_takes faithful_recordingEngine lostView_wellWritten hd⟩

lemma exec_queryRow_none {ρ : Type} [Keyed ρ] {T : Slot ρ} {context : String} {q : ρ → Bool}
    {c : Catalog} (h : (T.table c).find q = none) :
    exec (queryRow T context q) c = (.error (context ++ noRows), c) := by
  unfold queryRow
  rw [exec_bind, exec_get]
  dsimp only
  rw [h]
  rfl

lemma exec_onCatalog {P : Type} {m : Eff Catalog PUnit} {c : Catalog} {p : P} :
    exec (Db.onCatalog m) ⟨c, p⟩ = Prod.map id (fun c => ({ cat := c, phys := p } : Db P)) (exec m c) :=
  rfl

/-- While a mutation is open, a start goes the same way with any checksum. -/
lemma agree_validateCatalog {c : Catalog} (hpending : pendingJournal c ≠ []) (x : String) :
    Agree (exec validateCatalog c) (exec validateCatalog (setCatalogChecksum x c)) := by
  have hsettle : ∀ c, exec validateCatalogJournalState c = (.ok ⟨⟩, settleJournal c) := fun c =>
    runs_validateCatalogJournalState.2 rfl
  have hfind := find_setCatalogChecksum x c
  unfold validateCatalog
  rcases hversion : c.rsCatalogVersion.find (·.id == 1) with _ | v
  · rw [hversion] at hfind
    refine agree_bind (Or.inr ⟨"read catalog version failed: " ++ noRows, ?_, ?_⟩)
    · rw [exec_queryRow_none hversion]
    · rw [exec_queryRow_none hfind]
  · rw [hversion, Option.map_some] at hfind
    have hquery : ∀ {c : Catalog} {v : VersionRow}, c.rsCatalogVersion.find (·.id == 1) = some v →
        Runs (queryRow Slot.version "read catalog version failed: " (·.id == 1)) c v c :=
      fun hfound => runs_queryRow.2 ⟨hfound, rfl⟩
    rw [exec_bind_of_runs (hquery hversion), exec_bind_of_runs (hquery hfind)]
    refine agree_ensure_bind (agree_ensure_bind (agree_ensure_bind (agree_bind (Or.inl ?_))))
    rw [hsettle, hsettle, settleJournal_setCatalogChecksum hpending]

/-- **The stored checksum is compared if and only if no mutation is open.** -/
theorem validateAfterStart_checksum (E : StartEngine P) (hash auth : String) (c : Catalog) (p : P) :
    (pendingJournal c ≠ [] → ∀ x, validateAfterStart E hash auth (some (setCatalogChecksum x c)) p =
      validateAfterStart E hash auth (some c) p) ∧
    (pendingJournal c = [] → ∀ d, validateAfterStart E hash auth (some c) p = .ok d →
      ChecksumStored c) := by
  constructor
  · intro hpending x
    have hrun : Agree (exec (validateStored E) ⟨c, p⟩)
        (exec (validateStored E) ⟨setCatalogChecksum x c, p⟩) := by
      refine agree_bind ?_
      rw [exec_onCatalog, exec_onCatalog]
      rcases agree_validateCatalog hpending x with heq | ⟨e, he, he'⟩
      · rw [heq]
        exact Or.inl rfl
      · exact Or.inr ⟨e, he, he'⟩
    unfold validateAfterStart
    exact hrun.settled_eq
  · intro hnone d h
    obtain ⟨-, hrun⟩ := validateAfterStart_eq_ok.1 h
    obtain ⟨-, -, hsum, -⟩ := runs_validateStored.1 hrun
    have hsettled : settleJournal c = c := settleJournal_of_no_pending hnone
    change ChecksumStored (settleJournal c) at hsum
    rw [hsettled] at hsum
    exact hsum

/-- The service ended in the middle of a mutation. -/
def openMutation : Catalog :=
  { lostViewRows with
    rsCatalogJournal := ⟨[⟨1, 1, "CREATE TABLE", 20000, "", .pending, ""⟩],
      List.pairwise_singleton _ _⟩ }

lemma exists_start_openMutation :
    ∃ d, validateAfterStart recordingEngine "" "" (some openMutation) [] = .ok d := by
  have hversion : HasUsableVersion openMutation := usable_lostViewRows
  refine exists_start hversion (sound_iff.1 (by decide)) ?_ ?_
  · have hpending : ¬ (pendingJournal openMutation).isEmpty = true := by decide
    unfold settleJournal
    rw [if_neg hpending]
    exact checksumStored_refreshed hversion
  · unfold StartsUp
    decide +kernel

/-- After that the service starts, whatever checksum is stored. -/
theorem validateAfterStart_checksum_openMutation : pendingJournal openMutation ≠ [] ∧
    ∀ x, ∃ d, validateAfterStart recordingEngine "" "" (some (setCatalogChecksum x openMutation)) [] =
      .ok d := by
  have hpending : pendingJournal openMutation ≠ [] := by decide
  obtain ⟨d, hd⟩ := exists_start_openMutation
  exact ⟨hpending, fun x =>
    ⟨d, ((validateAfterStart_checksum recordingEngine "" "" openMutation []).1 hpending x).trans hd⟩⟩

end Start

end Rsduck.Catalog.Recovery
