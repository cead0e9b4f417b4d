import Rsduck.Catalog.RecoveryPhysical

/-!
The pass over the partitioned tables.

A turn of it concerns one table: what it marks is the table and those of its partitions that do not
fit. Afterwards a table that is available has all its partitions, the view over them is the one that
the catalog asks for, and its dependencies are its partitions.
-/

namespace Rsduck.Catalog.Recovery

open Lib Lib.Eff Lib.Text ColumnTypes

variable {P : Type} {E : StartEngine P}

/-! ### The statement of a view -/

section Text

/-- A list of texts ends as its last one. -/
lemma exists_intercalate (sep : String) (xs : List String) (hne : xs ≠ []) :
    ∃ w, sep.intercalate xs = w ++ xs.getLast hne := by
  induction xs with
  | nil => exact absurd rfl hne
  | cons x xs ih =>
    rcases xs with _ | ⟨y, ys⟩
    · exact ⟨"", by rw [String.intercalate_singleton, List.getLast_singleton, String.empty_append]⟩
    · obtain ⟨w, hw⟩ := ih (List.cons_ne_nil y ys)
      refine ⟨x ++ sep ++ w, ?_⟩
      rw [String.intercalate_cons_cons, hw, List.getLast_cons (List.cons_ne_nil y ys)]
      simp only [String.append_assoc]

lemma trimString_of_ends {w t : String} {c d : Char} (hhead : w.toList.head? = some c)
    (hlast : t.toList.getLast? = some d) (hc : isWhitespace c = false) (hd : isWhitespace d = false) :
    trimString (w ++ t) = w ++ t := by
  unfold trimString
  rw [trim_of_ends, String.ofList_toList]
  · intro e he
    rw [String.toList_append, List.head?_append, hhead, Option.some_or] at he
    cases he
    exact hc
  · intro e he
    rw [String.toList_append, List.getLast?_append, hlast, Option.some_or] at he
    cases he
    exact hd

/-- The text of an entry point has no white space at its ends. -/
lemma trimString_entrypoint (c : Catalog) (parentOid : ℤ) (schema table : String)
    (partitions : List ActivePartitionChild) :
    trimString (partitionEntrypointSqlFromCatalog c parentOid schema table partitions) =
      partitionEntrypointSqlFromCatalog c parentOid schema table partitions := by
  have hquoted : ∀ s : String, (quoteIdent s).toList.getLast? = some '"' := fun s => by
    unfold quoteIdent
    rw [String.toList_append, List.getLast?_append]
    rfl
  unfold partitionEntrypointSqlFromCatalog
  split_ifs with h
  · obtain ⟨w, hw⟩ := exists_intercalate " UNION ALL " ((partitions.map fun p =>
      (p.schema, p.relname)).map fun p => "SELECT * FROM " ++ quoteQualified p.1 p.2) (by
        rcases partitions with _ | ⟨p, ps⟩
        · cases h
        · exact List.cons_ne_nil _ _)
    obtain ⟨p, -, hp⟩ := List.mem_map.1 (List.getLast_mem (l := (partitions.map fun p =>
      (p.schema, p.relname)).map fun p => "SELECT * FROM " ++ quoteQualified p.1 p.2) (by
        rcases partitions with _ | ⟨p, ps⟩
        · cases h
        · exact List.cons_ne_nil _ _))
    unfold partitionEntrypointSql viewSql
    rw [hw, ← hp]
    unfold quoteQualified
    simp only [String.append_assoc]
    refine trimString_of_ends (c := 'C') (d := '"') rfl ?_ rfl rfl
    simp only [String.toList_append, List.getLast?_append, hquoted, Option.some_or]
  · unfold viewSql
    simp only [String.append_assoc]
    refine trimString_of_ends (c := 'C') (d := 'E') rfl ?_ rfl rfl
    simp only [String.toList_append, List.getLast?_append]
    rfl

end Text

/-! ### Catalogs that the checks have passed -/

/-- No two schemas have names that DuckDB takes for one. -/
def SchemasApart (c : Catalog) : Prop :=
  ∀ n ∈ c.rsSchema.rows, ∀ m ∈ c.rsSchema.rows, lowerString n.nspname = lowerString m.nspname → n = m

/-- A partition is kept in a table. -/
def PartitionsAreTables (c : Catalog) : Prop :=
  ∀ p ∈ c.rsPartition.rows, ∀ r ∈ c.rsRelation.rows, r.oid = p.childRelid → r.relkind = .table

/-- Two active relations of a schema have names that differ by more than case, as SQL has it. -/
def NamesApart (c : Catalog) : Prop :=
  ∀ r ∈ c.rsRelation.rows, ∀ s ∈ c.rsRelation.rows, r.status = .active → s.status = .active →
    r.relnamespace = s.relnamespace → sqlLower r.relname = sqlLower s.relname → r = s

structure Orderly (c : Catalog) : Prop where
  typed : Typed c
  namesApart : NamesApart c
  schemasApart : SchemasApart c
  partitionsAreTables : PartitionsAreTables c

section Orderly

variable {c c' : Catalog}

lemma exists_of_prefix {α : Type} {q : α → Bool} {xs ys : List α} (hle : xs <+: ys)
    (h : xs.any q = true) : ys.any q = true := by
  obtain ⟨rest, rfl⟩ := hle
  rw [List.any_append, h, Bool.true_or]

lemma Orderly.of_eases (hc : Orderly c) (h : Eases c c') : Orderly c' where
  typed a ha := by
    rw [h.column] at ha
    exact exists_of_prefix h.type (hc.typed a ha)
  namesApart r hr s hs hactive hactive' hspace hname :=
    hc.namesApart r (h.mem_of_active hr hactive) s (h.mem_of_active hs hactive') hactive hactive' hspace
      hname
  schemasApart n hn m hm hname := by
    rw [h.schema] at hn hm
    exact hc.schemasApart n hn m hm hname
  partitionsAreTables p hp r hr hchild := by
    obtain ⟨p₀, hp₀, hpe⟩ := h.partition.mem hp
    obtain ⟨r₀, hr₀, hre⟩ := h.relation.mem hr
    have hparent : p₀.childRelid = p.childRelid := by
      obtain rfl | ⟨m, rfl⟩ := hpe <;> rfl
    have hsame := hre.same
    rw [hsame.relkind]
    exact hc.partitionsAreTables p₀ hp₀ r₀ hr₀ (by rw [← hsame.oid, hchild, hparent])

/-- Active relations of different oids have names that DuckDB tells apart. -/
lemma Orderly.folded_ne (hc : Orderly c) {kinds kinds' : List RelKind} {x y : PhysicalRelation}
    (hx : x ∈ activeRelations kinds c) (hy : y ∈ activeRelations kinds' c) (hne : x.oid ≠ y.oid) :
    folded x.schema x.relname ≠ folded y.schema y.relname := by
  obtain ⟨-, r, n, hr⟩ := mem_activeRelations.1 hx
  obtain ⟨-, s, m, hs⟩ := mem_activeRelations.1 hy
  intro hfolded
  obtain ⟨hschema, hname⟩ := Prod.mk.inj hfolded
  rw [hr.eq, hs.eq] at hschema hname hne
  have hn := hc.schemasApart n hr.schema m hs.schema hschema
  have hspace : r.relnamespace = s.relnamespace := by rw [← hr.relnamespace, ← hs.relnamespace, hn]
  have hrow := hc.namesApart r hr.row s hs.row hr.active hs.active hspace (sqlLower_congr hname)
  exact hne (congrArg RelationRow.oid hrow)

/-- The columns of a catalog without gaps are read in the same way later. -/
lemma Typed.catalogColumns_eq (htyped : Typed c) (h : Eases c c') (relOid : ℤ) :
    catalogColumns c' relOid = catalogColumns c relOid := by
  change (attributes c' relOid).filterMap (catalogColumn c') =
    (attributes c relOid).filterMap (catalogColumn c)
  rw [attributes_of_eases h]
  refine List.filterMap_congr fun a ha => ?_
  obtain ⟨k, hk, -⟩ := catalogColumn_of_typed htyped (mem_of_mem_attributes ha)
  rw [hk, catalogColumn_of_eases h hk]

lemma entrypointSql_eq (htyped : Typed c) (h : Eases c c') (oid : ℤ) (schema table : String)
    (partitions : List ActivePartitionChild) :
    partitionEntrypointSqlFromCatalog c' oid schema table partitions =
      partitionEntrypointSqlFromCatalog c oid schema table partitions := by
  unfold partitionEntrypointSqlFromCatalog
  rw [htyped.catalogColumns_eq h]

end Orderly

/-! ### The partitions of a table, one after the other -/

/-- A turn that ends with a partition that does not fit. -/
structure ChildFailed (E : StartEngine P) (parentOid : ℤ) (x : ActivePartitionChild) (d d' : Db P) :
    Prop where
  follows : Follows E [] d d'
  dependency : d'.cat.rsDependency = d.cat.rsDependency
  relationExt : d'.cat.rsRelationExt = d.cat.rsRelationExt
  relation : ∀ r ∈ d.cat.rsRelation.rows,
    r.oid ≠ x.childOid ∨ TableFits E d x.childOid x.schema x.relname → r ∈ d'.cat.rsRelation.rows
  partition : ∀ parent ≠ parentOid, d'.cat.rsPartition.select (·.parentRelid == parent) =
    d.cat.rsPartition.select (·.parentRelid == parent)

section Children

variable {d d' : Db P} {parentOid : ℤ} {x : ActivePartitionChild}

/-- A mark leaves the rows that it is not about. -/
lemma mem_of_update {ρ : Type} {xs : List ρ} {p : ρ → Bool} {g : ρ → ρ} {r : ρ} (hr : r ∈ xs)
    (hp : p r = false) : r ∈ xs.map fun y => if p y then g y else y := by
  refine List.mem_map.2 ⟨r, hr, ?_⟩
  rw [hp]
  rfl

lemma select_markPartition {c : Catalog} {parent childOid : ℤ} {t : Table PartitionRow}
    {f : PartitionRow → PartitionRow} (hf : Table.KeepsKey f) (hparent : parent ≠ parentOid)
    (hkey : ∀ p, (f p).parentRelid = p.parentRelid)
    (ht : t = c.rsPartition.update (fun p => p.parentRelid == parentOid && p.childRelid == childOid) f
      hf) :
    t.select (·.parentRelid == parent) = c.rsPartition.select (·.parentRelid == parent) := by
  rw [ht, Table.select_update _ _ _ _ fun r => by rw [hkey]]
  refine (List.map_congr_left fun p hp => ?_).trans (List.map_id _)
  have hself : p.parentRelid = parent := beq_iff_eq.1 (List.mem_filter.1 hp).2
  rw [hself, beq_false_of_ne hparent, Bool.false_and]
  rfl

/-- The outcome for one partition: it fits and nothing is done, or it is marked. -/
lemma exec_validatePartitionChild (parentOid : ℤ) (htyped : Typed d.cat) (x : ActivePartitionChild) :
    Runs (validatePartitionChild E parentOid x) d ⟨⟩ d ∧ x.childStatus = .active ∧
        TableFits E d x.childOid x.schema x.relname ∨
      ∃ e d', exec (validatePartitionChild E parentOid x) d = (.error e, d') ∧
        ChildFailed E parentOid x d d' := by
  unfold validatePartitionChild
  dsimp only
  split_ifs with hstatus
  · refine Or.inr ⟨_, _, rfl, ?_⟩
    exact {
      follows := (within_onCatalog (eases_markPartition _ _ _) : Within (Follows E []) _ d)
      dependency := rfl
      relationExt := rfl
      relation := fun r hr _ => hr
      partition := fun parent hne => select_markPartition
        (f := fun p => { p with status := .failed, errorMessage := _ }) (fun _ _ => rfl) hne
        (fun _ => rfl) rfl }
  · have hinert : Within Inert (validateTablePhysical E x.childOid x.schema x.relname) d :=
      inert_validateTablePhysical
    rcases hcheck : exec (validateTablePhysical E x.childOid x.schema x.relname) d with ⟨reason | ⟨⟩, d₁⟩
    · -- the partition and its relation are marked
      unfold Within at hinert
      rw [hcheck] at hinert
      have hunfit : ¬ TableFits E d x.childOid x.schema x.relname := fun hfit => by
        have hrun : exec _ d = _ := hfit.runs
        rw [hcheck] at hrun
        cases hrun
      have hfollows : Follows E [] d₁ { d₁ with cat := (exec (do
          markRelationUnavailable x.childOid reason
          markPartitionFailed parentOid x.childOid reason) d₁.cat).2 } :=
        ⟨within_bind (eases_markRelation _ _) fun _ _ _ => eases_markPartition _ _ _,
          Beside.refl _ _⟩
      refine Or.inr ⟨"active partition child unavailable: " ++ (x.schema ++ "." ++ x.relname) ++ ": " ++
        reason, { d₁ with cat := (exec (do
          markRelationUnavailable x.childOid reason
          markPartitionFailed parentOid x.childOid reason) d₁.cat).2 }, ?_, ?_⟩
      · rw [exec_bind, exec_attempt, hcheck]
        rfl
      · have honly := hinert.cat.only
        refine ⟨hinert.follows.trans hfollows, ?_, ?_, ?_, ?_⟩
        · change d₁.cat.rsDependency = _
          rw [honly]
        · change d₁.cat.rsRelationExt = _
          rw [honly]
        · intro r hr hother
          have hmem : r ∈ d₁.cat.rsRelation.rows := by
            rw [honly]
            exact hr
          exact mem_of_update hmem (beq_false_of_ne (hother.resolve_right hunfit))
        · intro parent hne
          have hsame : d₁.cat.rsPartition = d.cat.rsPartition := by rw [honly]
          rw [← hsame]
          exact select_markPartition (f := fun p => { p with status := .failed, errorMessage := reason })
            (fun _ _ => rfl) hne (fun _ => rfl) rfl
    · obtain ⟨rfl, hfit⟩ := runs_validateTablePhysical htyped hcheck
      refine Or.inl ⟨?_, by simpa using hstatus, hfit⟩
      unfold Runs
      rw [exec_bind, exec_attempt, hcheck]
      rfl

/-- **The outcome for all partitions**: they fit and nothing is done, or one is marked. -/
lemma exec_validatePartitionChildren (parentOid : ℤ) (htyped : Typed d.cat) (xs : List ActivePartitionChild) :
    Runs (xs.forM (validatePartitionChild E parentOid)) d ⟨⟩ d ∧
        (∀ x ∈ xs, x.childStatus = .active ∧ TableFits E d x.childOid x.schema x.relname) ∨
      ∃ e d', exec (xs.forM (validatePartitionChild E parentOid)) d = (.error e, d') ∧
        ∃ x ∈ xs, ChildFailed E parentOid x d d' := by
  induction xs with
  | nil => exact Or.inl ⟨runs_forM_nil.2 rfl, by simp⟩
  | cons x xs ih =>
    rcases exec_validatePartitionChild parentOid htyped x with
      ⟨hrun, hfits⟩ | ⟨e, d', hexec, hfailed⟩
    · rcases ih with ⟨hruns, hall⟩ | ⟨e, d', hexec, y, hy, hfailed⟩
      · exact Or.inl ⟨runs_forM_cons.2 ⟨d, hrun, hruns⟩, List.forall_mem_cons.2 ⟨hfits, hall⟩⟩
      · refine Or.inr ⟨e, d', ?_, y, List.mem_cons_of_mem x hy, hfailed⟩
        change exec (validatePartitionChild E parentOid x >>= fun _ =>
          xs.forM (validatePartitionChild E parentOid)) d = _
        rw [exec_bind_of_runs hrun, hexec]
    · refine Or.inr ⟨e, d', ?_, x, List.mem_cons_self, hfailed⟩
      change exec (validatePartitionChild E parentOid x >>= fun _ =>
        xs.forM (validatePartitionChild E parentOid)) d = _
      rw [exec_bind, hexec]

end Children

/-! ### The view of a table -/

/-- What is done for a table whose partitions fit. -/
structure Building (E : StartEngine P) (q : PhysicalRelation) (d d' : Db P) : Prop where
  follows : Follows E [folded q.schema q.relname] d d'
  relation : d'.cat.rsRelation = d.cat.rsRelation
  partition : d'.cat.rsPartition = d.cat.rsPartition
  dependency : d'.cat.rsDependency = d.cat.rsDependency
  relationExt : ∀ relid ≠ q.oid,
    d'.cat.rsRelationExt.find (·.relid == relid) = d.cat.rsRelationExt.find (·.relid == relid)

instance (q : PhysicalRelation) : Frame (Building E q) where
  refl d := ⟨Follows.refl _ d, rfl, rfl, rfl, fun _ _ => rfl⟩
  trans h h' := ⟨h.follows.trans h'.follows, h'.relation.trans h.relation,
    h'.partition.trans h.partition, h'.dependency.trans h.dependency,
    fun relid hne => (h'.relationExt relid hne).trans (h.relationExt relid hne)⟩

section Building

variable {d d' : Db P} {q : PhysicalRelation} {u : PUnit}

lemma Inert.building (h : Inert d d') : Building E q d d' where
  follows := h.follows
  relation := by rw [h.cat.only]
  partition := by rw [h.cat.only]
  dependency := by rw [h.cat.only]
  relationExt _ _ := by rw [h.cat.only]

/-- An update of one entry leaves what is found of another. -/
lemma find_ext_update {t : Table RelationExtRow} {f : RelationExtRow → RelationExtRow}
    (hf : Table.KeepsKey f) {oid relid : ℤ} (hkey : ∀ e, (f e).relid = e.relid) (hne : relid ≠ oid) :
    (t.update (·.relid == oid) f hf).find (·.relid == relid) = t.find (·.relid == relid) := by
  rw [Table.find_update _ _ _ _ fun e => by rw [hkey]]
  rcases hfind : t.find (·.relid == relid) with _ | e
  · rw [hfind]
    rfl
  · have hid := List.find?_some hfind
    rw [hfind, Option.map_some, beq_iff_eq.1 hid, beq_false_of_ne hne]
    rfl

/-- The statement of an entry point makes the view of its table. -/
lemma exists_viewSql (c : Catalog) (oid : ℤ) (schema table : String)
    (partitions : List ActivePartitionChild) :
    ∃ query, partitionEntrypointSqlFromCatalog c oid schema table partitions =
      viewSql schema table query := by
  unfold partitionEntrypointSqlFromCatalog partitionEntrypointSql
  split_ifs <;> exact ⟨_, rfl⟩

variable (hE : Faithful E) {sql : String} (hsql : ∃ query, sql = viewSql q.schema q.relname query)
include hE hsql

lemma within_rebuild : Within (Building E q) (rebuildPartitionEntrypoint E q.oid sql) d := by
  obtain ⟨query, rfl⟩ := hsql
  unfold rebuildPartitionEntrypoint onPhysical
  refine within_bind (within_bind within_get fun d₁ d₂ hget => ?_) fun _ d₁ _ => ?_
  · obtain ⟨rfl, rfl⟩ := runs_get.1 hget
    refine within_bind (within_mapError _ (within_fromExcept _)) fun p d₃ hrun => ?_
    rw [runs_mapError] at hrun
    obtain ⟨hexecute, rfl⟩ := runs_fromExcept.1 hrun
    exact ⟨⟨Eases.refl _, hE _ _ _ _ _ hexecute⟩, rfl, rfl, rfl, fun _ _ => rfl⟩
  · refine ⟨⟨{ Eases.refl d₁.cat with relationExt := revised_update ExtEased.refl fun e => ⟨_, rfl⟩ },
      Beside.refl _ _⟩, rfl, rfl, rfl, fun relid hne => ?_⟩
    refine find_ext_update ?_ (fun _ => rfl) hne
    exact fun _ _ => rfl

lemma within_validateEntrypoint : Within (Building E q) (validateEntrypoint E q sql) d := by
  have hquery : ∀ d₁ : Db P, Within (Building E q) (Db.onCatalog (queryRow Slot.relationExt
      "read partition entrypoint SQL failed: " (·.relid == q.oid))) d₁ := fun d₁ => by
    refine within_of_exec ?_
    change ({ d₁ with cat := (exec (queryRow _ _ _) d₁.cat).2 } : Db P) = d₁
    have hsame : Within Eq (queryRow Slot.relationExt "read partition entrypoint SQL failed: "
        (·.relid == q.oid)) d₁.cat := by
      have : Frame (Eq (α := Catalog)) := ⟨fun _ => rfl, Eq.trans⟩
      exact within_queryRow _ _
    rw [← show d₁.cat = _ from hsame]
  unfold validateEntrypoint
  refine within_bind (hquery d) fun ext d₁ _ => ?_
  split_ifs
  · exact within_rebuild hE hsql
  · refine within_bind (within_attempt ?_) fun outcome d₂ _ => ?_
    · exact inert_validateViewPhysical.building
    · rcases outcome with e | ⟨⟩
      · exact within_rebuild hE hsql
      · exact within_pure _

end Building

section Entrypoint

variable {d d' : Db P} {q : PhysicalRelation} {u : PUnit} {sql : String}

/-- What is recorded for the view, after the statement. -/
def Generated (q : PhysicalRelation) (sql : String) (d : Db P) : Prop :=
  ∃ e, d.cat.rsRelationExt.find (·.relid == q.oid) = some e ∧ trimString e.generatedSql = sql

lemma generated_of_rebuild (htrim : trimString sql = sql) {e : RelationExtRow}
    (hfind : d.cat.rsRelationExt.find (·.relid == q.oid) = some e)
    (h : Runs (rebuildPartitionEntrypoint E q.oid sql) d u d') : Generated q sql d' := by
  unfold rebuildPartitionEntrypoint onPhysical at h
  obtain ⟨_, d₁, hphysical, hupdate⟩ := runs_bind.1 h
  simp only [runs_bind, runs_get, runs_mapError, runs_fromExcept, runs_set] at hphysical
  obtain ⟨d₂, d₃, ⟨hd₂, hd₃⟩, p, d₄, ⟨-, hd₄⟩, hd₁⟩ := hphysical
  obtain ⟨hcat, -⟩ := Db.runs_onCatalog.1 hupdate
  have hsame : d₁.cat = d.cat := by rw [hd₁, hd₂]
  refine ⟨{ e with generatedSql := sql }, ?_, htrim⟩
  have hfound := Table.find_update (ρ := RelationExtRow) (·.relid == q.oid) (·.relid == q.oid)
    (fun e => { e with generatedSql := sql }) (fun _ _ => rfl) (fun _ => rfl) d.cat.rsRelationExt
  rw [hfind] at hfound
  have hid := List.find?_some hfind
  rw [Option.map_some, if_pos hid] at hfound
  rw [runs_updateRows.1 hcat, hsame]
  exact hfound

lemma runs_validateEntrypoint (htrim : trimString sql = sql)
    (h : Runs (validateEntrypoint E q sql) d u d') : Generated q sql d' := by
  unfold validateEntrypoint at h
  obtain ⟨e, d₁, hquery, hrest⟩ := runs_bind.1 h
  obtain ⟨hcat, hphys⟩ := Db.runs_onCatalog.1 hquery
  obtain ⟨hfind, hsame⟩ := runs_queryRow.1 hcat
  split_ifs at hrest with hother
  · refine generated_of_rebuild (e := e) htrim ?_ hrest
    rw [hsame]
    exact hfind
  · obtain ⟨outcome, d₂, hattempt, hlast⟩ := runs_bind.1 hrest
    have hinert : Inert d₁ d₂ := (within_attempt inert_validateViewPhysical).of_runs hattempt
    have hfind₂ : d₂.cat.rsRelationExt.find (·.relid == q.oid) = some e := by
      rw [hinert.cat.only]
      change d₁.cat.rsRelationExt.find _ = _
      rw [hsame]
      exact hfind
    rcases outcome with reason | ⟨⟩
    · exact generated_of_rebuild htrim hfind₂ hlast
    · obtain ⟨-, rfl⟩ := runs_pure.1 hlast
      exact ⟨e, hfind₂, not_not.1 hother⟩

end Entrypoint

/-! ### The dependencies of a table -/

section Sync

variable {c : Catalog} {parentOid : ℤ} {xs : List ActivePartitionChild}

/-- What the dependencies of a table on relations are replaced with. -/
def syncedRows (parentOid : ℤ) (xs : List ActivePartitionChild) (rows : List DependencyRow) :
    List DependencyRow :=
  rows.filter (fun r => !isRelationDependency parentOid r) ++ xs.map (partitionDependency parentOid)

lemma childOids_nodup (c : Catalog) (parentOid : ℤ) :
    ((activePartitionChildren c parentOid).map (·.childOid)).Nodup := by
  have hsub : ∀ ps : List PartitionRow,
      ((ps.filterMap (activePartitionChild c)).map (·.childOid)).Sublist (ps.map (·.childRelid)) := by
    intro ps
    induction ps with
    | nil => exact List.Sublist.slnil
    | cons p ps ih =>
      rcases hp : activePartitionChild c p with _ | x
      · rw [List.filterMap_cons_none hp]
        exact ih.cons _
      · rw [List.filterMap_cons_some hp, List.map_cons, List.map_cons]
        obtain ⟨r, n, -, -, rfl⟩ := activePartitionChild_eq_some.1 hp
        exact ih.cons_cons _
  refine (hsub _).nodup ?_
  rw [((List.mergeSort_perm _ partitionBefore).map _).nodup_iff]
  unfold Table.select
  rw [List.Nodup, List.pairwise_map]
  refine (c.rsPartition.keyed.filter _).imp_of_mem ?_
  intro p q hp hq hclash hchild
  have hpp : p.parentRelid = parentOid := by
    have := (List.mem_filter.1 hp).2
    exact beq_iff_eq.1 (Bool.and_eq_true_iff.1 this).1
  have hqq : q.parentRelid = parentOid := by
    have := (List.mem_filter.1 hq).2
    exact beq_iff_eq.1 (Bool.and_eq_true_iff.1 this).1
  have htrue : Keyed.clash p q = true :=
    Bool.or_eq_true_iff.2 (Or.inl (decide_eq_true (Prod.ext (hpp.trans hqq.symm) hchild)))
  rw [htrue] at hclash
  cases hclash

lemma key_of_clash {r s : DependencyRow} (h : Keyed.clash r s = true) :
    r.classid = s.classid ∧ r.objid = s.objid ∧ r.objsubid = s.objsubid ∧
      r.refclassid = s.refclassid ∧ r.refobjid = s.refobjid ∧ r.refobjsubid = s.refobjsubid := by
  have hkey := of_decide_eq_true h
  simpa only [Prod.mk.injEq] using hkey

lemma exec_insertDependencies (parentOid : ℤ) (hnodup : (xs.map (·.childOid)).Nodup)
    (hfree : ∀ r ∈ c.rsDependency.rows, ∀ x ∈ xs,
      Keyed.clash r (partitionDependency parentOid x) = false) :
    ∃ t, t.rows = c.rsDependency.rows ++ xs.map (partitionDependency parentOid) ∧
      Runs (xs.forM fun p => insertRow Slot.dependency "write partition dependency failed: "
        (partitionDependency parentOid p)) c ⟨⟩ { c with rsDependency := t } := by
  induction xs generalizing c with
  | nil => exact ⟨c.rsDependency, by simp, runs_forM_nil.2 rfl⟩
  | cons x xs ih =>
    obtain ⟨hx, hrest⟩ := List.nodup_cons.1 hnodup
    obtain ⟨t, ht⟩ : ∃ t, c.rsDependency.insert (partitionDependency parentOid x) = some t :=
      ⟨_, dif_pos fun r hr => hfree r hr x List.mem_cons_self⟩
    have hrows := (Table.insert_eq_some.1 ht).2
    obtain ⟨t', hrows', hruns⟩ := ih (c := { c with rsDependency := t }) hrest fun r hr y hy => by
      rcases (Table.mem_insert ht).1 hr with hr | rfl
      · exact hfree r hr y (List.mem_cons_of_mem x hy)
      · refine Bool.eq_false_iff.2 fun hclash => hx (List.mem_map.2 ⟨y, hy, ?_⟩)
        exact (key_of_clash hclash).2.2.2.2.1.symm
    refine ⟨t', ?_, runs_forM_cons.2 ⟨_, runs_insertRow.2 ⟨t, ht, rfl⟩, hruns⟩⟩
    rw [hrows', hrows, List.map_cons, List.append_assoc, List.singleton_append]

/-- **Bringing the dependencies up to date always succeeds.** -/
lemma runs_syncPartitionDependencies (c : Catalog) (parentOid : ℤ) (hnodup : (xs.map (·.childOid)).Nodup) :
    ∃ t, t.rows = syncedRows parentOid xs c.rsDependency.rows ∧
      Runs (syncPartitionDependencies parentOid xs) c ⟨⟩ { c with rsDependency := t } := by
  obtain ⟨t, hrows, hruns⟩ := exec_insertDependencies
    (c := { c with rsDependency := c.rsDependency.delete (isRelationDependency parentOid) }) parentOid hnodup
    fun r hr x _ => by
      obtain ⟨-, hother⟩ := Table.mem_delete.1 hr
      refine Bool.eq_false_iff.2 fun hclash => ?_
      obtain ⟨hclass, hobj, -, hrefclass, -⟩ := key_of_clash hclash
      unfold isRelationDependency at hother
      rw [hclass, hobj, hrefclass] at hother
      simp [partitionDependency] at hother
  refine ⟨t, hrows, ?_⟩
  unfold syncPartitionDependencies
  exact runs_bind.2 ⟨⟨⟩, _, runs_deleteRows.2 rfl, hruns⟩

end Sync

/-! ### A turn of the pass -/

/-- The catalog and DuckDB agree on a partitioned table. -/
structure PartitionedFits (E : StartEngine P) (d : Db P) (q : PhysicalRelation) : Prop where
  children : ∀ x ∈ activePartitionChildren d.cat q.oid,
    x.childStatus = .active ∧ TableFits E d x.childOid x.schema x.relname
  generated : Generated q (partitionEntrypointSqlFromCatalog d.cat q.oid q.schema q.relname
    (activePartitionChildren d.cat q.oid)) d
  view : ViewFits E d q.oid q.schema q.relname

/-- The dependencies, set to some rows. -/
def withDependencies (d : Db P) (t : Table DependencyRow) : Db P :=
  { d with cat := { d.cat with rsDependency := t } }

section Turn

variable {d d' : Db P} {q : PhysicalRelation} {u : PUnit}

lemma childrenOf_congr {c c' : Catalog} (hrelation : c'.rsRelation = c.rsRelation)
    (hschema : c'.rsSchema = c.rsSchema) (hpartition : c'.rsPartition = c.rsPartition) (oid : ℤ) :
    activePartitionChildren c' oid = activePartitionChildren c oid := by
  unfold activePartitionChildren activePartitionChild
  rw [hrelation, hschema, hpartition]

/-- A partition of an active table, which is a table of another name. -/
lemma Orderly.child {c : Catalog} (hc : Orderly c) {x : ActivePartitionChild} {oid : ℤ}
    (hx : x ∈ activePartitionChildren c oid) (hactive : x.childStatus = .active) :
    ⟨x.childOid, x.schema, x.relname, .table⟩ ∈ activeRelations [.table] c := by
  obtain ⟨p, r, n, h⟩ := mem_activePartitionChildren.1 hx
  have hkind := hc.partitionsAreTables p h.partition r h.row h.child
  rw [h.eq] at hactive ⊢
  refine mem_activeRelations.2 ⟨List.mem_singleton.2 rfl, r, n, h.row, hactive, h.schema,
    h.relnamespace, ?_⟩
  rw [h.child, hkind]

lemma oid_ne_of_kind {c : Catalog} {kinds kinds' : List RelKind} {x y : PhysicalRelation}
    (hx : x ∈ activeRelations kinds c) (hy : y ∈ activeRelations kinds' c)
    (hkind : x.relkind ≠ y.relkind) : x.oid ≠ y.oid := by
  obtain ⟨-, r, n, hr⟩ := mem_activeRelations.1 hx
  obtain ⟨-, s, m, hs⟩ := mem_activeRelations.1 hy
  intro hoid
  rw [hr.eq, hs.eq] at hoid hkind
  exact hkind (congrArg RelationRow.relkind (eq_of_oid hr.row hs.row hoid))

section WithDependencies

variable {t : Table DependencyRow} {oid : ℤ} {schema relname : String}

lemma columnsFit_withDependencies {cols : List DuckdbColumn} (h : ColumnsFit d.cat oid cols) :
    ColumnsFit (withDependencies d t).cat oid cols :=
  ⟨h.nonempty, h.typed, h.each.imp fun _ _ hk => ⟨hk.known, hk.name, hk.duckdbType⟩⟩

lemma tableFits_withDependencies (h : TableFits E d oid schema relname) :
    TableFits E (withDependencies d t) oid schema relname :=
  ⟨h.present, columnsFit_withDependencies h.columns⟩

lemma viewFits_withDependencies (h : ViewFits E d oid schema relname) :
    ViewFits E (withDependencies d t) oid schema relname :=
  ⟨h.present, columnsFit_withDependencies h.columns⟩

lemma exists_oid {c : Catalog} {r : RelationRow} (hr : r ∈ c.rsRelation.rows) (hoid : r.oid = oid) :
    c.rsRelation.exists? (·.oid == oid) = true :=
  List.any_eq_true.2 ⟨r, hr, beq_iff_eq.2 hoid⟩

/-- The dependencies that a table gets are between relations of the catalog. -/
lemma follows_withDependencies {touched : List (String × String)} {c : Catalog}
    (hrelation : d.cat.rsRelation = c.rsRelation) (hq : q ∈ activeRelations [.partitioned] c)
    (hrows : t.rows = syncedRows q.oid (activePartitionChildren c q.oid) d.cat.rsDependency.rows) :
    Follows E touched d (withDependencies d t) where
  phys := Beside.refl touched d.phys
  cat := {
    Eases.refl d.cat with
    dependency := fun r hr => by
      change r ∈ t.rows at hr
      rw [hrows, syncedRows, List.mem_append] at hr
      rcases hr with hr | hr
      · exact Or.inl (List.mem_of_mem_filter hr)
      · obtain ⟨x, hx, rfl⟩ := List.mem_map.1 hr
        obtain ⟨-, row, n, hrow⟩ := mem_activeRelations.1 hq
        obtain ⟨p, child, m, hchild⟩ := mem_activePartitionChildren.1 hx
        refine Or.inr ⟨rfl, rfl, ?_, ?_⟩
        · rw [hrelation]
          exact exists_oid hrow.row (by rw [hrow.eq]; rfl)
        · rw [hrelation]
          exact exists_oid hchild.row (by rw [hchild.child, hchild.eq]; rfl) }

end WithDependencies

/-- **The outcome for a partitioned table**: something does not fit, or all of it does afterwards and
its dependencies are its partitions. -/
lemma exec_validatePartitionedRelation (hE : Faithful E) (hc : Orderly d.cat)
    (hq : q ∈ activeRelations [.partitioned] d.cat) :
    (∃ e d', exec (validatePartitionedRelation E q) d = (.error e, d') ∧
        ((∃ x ∈ activePartitionChildren d.cat q.oid, ChildFailed E q.oid x d d') ∨
          Building E q d d')) ∨
      ∃ d₁ t, Building E q d d₁ ∧
        t.rows = syncedRows q.oid (activePartitionChildren d.cat q.oid) d.cat.rsDependency.rows ∧
        Runs (validatePartitionedRelation E q) d ⟨⟩ (withDependencies d₁ t) ∧
        PartitionedFits E (withDependencies d₁ t) q := by
  have hquery := exists_viewSql d.cat q.oid q.schema q.relname (activePartitionChildren d.cat q.oid)
  have htrim := trimString_entrypoint d.cat q.oid q.schema q.relname
    (activePartitionChildren d.cat q.oid)
  rcases exec_validatePartitionChildren (E := E) q.oid hc.typed
    (activePartitionChildren d.cat q.oid) with ⟨hchildren, hfits⟩ | ⟨e, d', hexec, x, hx, hfailed⟩
  · -- the partitions fit; what is left is the view, and then the dependencies
    generalize hsql : partitionEntrypointSqlFromCatalog d.cat q.oid q.schema q.relname
      (activePartitionChildren d.cat q.oid) = sql at hquery htrim
    have hentry : Within (Building E q) (validateEntrypoint E q sql) d :=
      within_validateEntrypoint hE hquery
    have hopen : exec (validatePartitionedRelation E q) d = exec (validateEntrypoint E q sql >>= fun _ =>
        validateViewPhysical E q.oid q.schema q.relname >>= fun _ =>
          Db.onCatalog (syncPartitionDependencies q.oid (activePartitionChildren d.cat q.oid))) d := by
      unfold validatePartitionedRelation
      rw [exec_bind_of_runs (runs_get.2 ⟨rfl, rfl⟩), exec_bind_of_runs hchildren,
        exec_bind_of_runs (runs_get.2 ⟨rfl, rfl⟩), hsql]
    rcases hexec : exec (validateEntrypoint E q sql) d with ⟨e | ⟨⟩, d₁⟩
    · refine Or.inl ⟨e, d₁, ?_, Or.inr ?_⟩
      · rw [hopen, exec_bind, hexec]
      · unfold Within at hentry
        rw [hexec] at hentry
        exact hentry
    · have hbuild : Building E q d d₁ := hentry.of_runs hexec
      have hview : Within (Building E q) (validateViewPhysical E q.oid q.schema q.relname) d₁ :=
        inert_validateViewPhysical.building
      rcases hexec₂ : exec (validateViewPhysical E q.oid q.schema q.relname) d₁ with ⟨e | ⟨⟩, d₂⟩
      · refine Or.inl ⟨e, d₂, ?_, Or.inr ?_⟩
        · rw [hopen, exec_bind, hexec]
          dsimp only
          rw [exec_bind, hexec₂]
        · unfold Within at hview
          rw [hexec₂] at hview
          exact Frame.trans hbuild hview
      · have htyped := (hc.of_eases hbuild.follows.cat).typed
        obtain ⟨rfl, hviewFits⟩ := runs_validateViewPhysical htyped hexec₂
        obtain ⟨t, hrows, hsync⟩ := runs_syncPartitionDependencies d₂.cat q.oid
          (childOids_nodup d.cat q.oid)
        refine Or.inr ⟨d₂, t, hbuild, by rw [hrows, hbuild.dependency], ?_, ?_⟩
        · unfold Runs
          rw [hopen, exec_bind_of_runs hexec, exec_bind_of_runs hexec₂]
          exact Db.runs_onCatalog.2 ⟨hsync, rfl⟩
        · have hsame : activePartitionChildren (withDependencies d₂ t).cat q.oid =
              activePartitionChildren d.cat q.oid :=
            childrenOf_congr hbuild.relation hbuild.follows.cat.schema hbuild.partition q.oid
          refine ⟨fun x hx => ?_, ?_, viewFits_withDependencies hviewFits⟩
          · rw [hsame] at hx
            obtain ⟨hactive, hfit⟩ := hfits x hx
            have hchild := hc.child hx hactive
            have hkind : RelKind.table ≠ q.relkind := by
              rw [List.mem_singleton.1 (mem_activeRelations.1 hq).1]
              decide
            have hne := hc.folded_ne hchild hq (oid_ne_of_kind hchild hq hkind)
            refine ⟨hactive, tableFits_withDependencies (hfit.of_follows hbuild.follows ?_)⟩
            rw [List.mem_singleton]
            exact hne
          · rw [hsame]
            have heases : Eases d.cat (withDependencies d₂ t).cat :=
              hbuild.follows.cat.trans
                (follows_withDependencies hbuild.relation hq (by rw [hrows]) : Follows E [] _ _).cat
            have hgenerated : Generated q sql d₂ := runs_validateEntrypoint htrim hexec
            rw [entrypointSql_eq hc.typed heases, hsql]
            exact hgenerated
  · refine Or.inl ⟨e, d', ?_, Or.inl ⟨x, hx, hfailed⟩⟩
    unfold validatePartitionedRelation
    rw [exec_bind_of_runs (runs_get.2 ⟨rfl, rfl⟩), exec_bind, hexec]

/-- What a turn leaves of everything else, and what it comes to for its own table. -/
structure Turn (E : StartEngine P) (q : PhysicalRelation) (d d' : Db P) : Prop where
  follows : Follows E [folded q.schema q.relname] d d'
  tables : ∀ x ∈ activeRelations [.table] d.cat, TableFits E d x.oid x.schema x.relname →
    x ∈ activeRelations [.table] d'.cat
  others : ∀ x ∈ activeRelations [.partitioned] d.cat, x.oid ≠ q.oid →
    x ∈ activeRelations [.partitioned] d'.cat
  partition : ∀ parent ≠ q.oid, d'.cat.rsPartition.select (·.parentRelid == parent) =
    d.cat.rsPartition.select (·.parentRelid == parent)
  relationExt : ∀ relid ≠ q.oid,
    d'.cat.rsRelationExt.find (·.relid == relid) = d.cat.rsRelationExt.find (·.relid == relid)
  outcome : q ∉ activeRelations [.partitioned] d'.cat ∧
        d'.cat.rsDependency = d.cat.rsDependency ∨
      q ∈ activeRelations [.partitioned] d'.cat ∧ PartitionedFits E d' q ∧
        d'.cat.rsDependency.rows = syncedRows q.oid (activePartitionChildren d'.cat q.oid)
          d.cat.rsDependency.rows

/-- A relation whose row is kept is still available. -/
lemma mem_activeRelations_of_row {c c' : Catalog} {kinds : List RelKind} {x : PhysicalRelation}
    {r : RelationRow} {n : SchemaRow} (hx : x ∈ activeRelations kinds c) (hr : IsActive c r n x)
    (hrow : r ∈ c'.rsRelation.rows) (hschema : c'.rsSchema = c.rsSchema) :
    x ∈ activeRelations kinds c' := by
  refine mem_activeRelations.2 ⟨(mem_activeRelations.1 hx).1, r, n, hrow, hr.active, ?_,
    hr.relnamespace, hr.eq⟩
  rw [hschema]
  exact hr.schema

/-- **A turn ends with its table marked** where something has failed. -/
lemma turn_of_marked {d₁ : Db P} {reason : String}
    (hq : q ∈ activeRelations [.partitioned] d.cat)
    (hfollows : Follows E [folded q.schema q.relname] d d₁)
    (htables : ∀ x ∈ activeRelations [.table] d.cat, TableFits E d x.oid x.schema x.relname →
      ∀ r n, IsActive d.cat r n x → r ∈ d₁.cat.rsRelation.rows)
    (hothers : ∀ x ∈ activeRelations [.partitioned] d.cat, ∀ r n, IsActive d.cat r n x →
      r ∈ d₁.cat.rsRelation.rows)
    (hpartition : ∀ parent ≠ q.oid, d₁.cat.rsPartition.select (·.parentRelid == parent) =
      d.cat.rsPartition.select (·.parentRelid == parent))
    (hrelationExt : ∀ relid ≠ q.oid,
      d₁.cat.rsRelationExt.find (·.relid == relid) = d.cat.rsRelationExt.find (·.relid == relid))
    (hdependency : d₁.cat.rsDependency = d.cat.rsDependency)
    (h : Runs (Db.onCatalog (markRelationUnavailable q.oid reason)) d₁ u d') : Turn E q d d' := by
  obtain ⟨hcat, hphys⟩ := Db.runs_onCatalog.1 h
  have hset := runs_updateRows.1 hcat
  have hmark : Follows E [folded q.schema q.relname] d₁ d' :=
    (within_onCatalog (eases_markRelation _ _) : Within (Follows E _) _ d₁).of_runs h
  have hall := hfollows.trans hmark
  have hkeep : ∀ r ∈ d₁.cat.rsRelation.rows, r.oid ≠ q.oid → r ∈ d'.cat.rsRelation.rows :=
    fun r hr hne => by
      rw [hset]
      exact mem_of_update (p := (·.oid == q.oid)) hr (beq_false_of_ne hne)
  refine ⟨hall, fun x hx hfit => ?_, fun x hx hne => ?_, fun parent hne => ?_, fun relid hne => ?_,
    Or.inl ⟨fun hmem => ?_, ?_⟩⟩
  · obtain ⟨hkind, r, n, hr⟩ := mem_activeRelations.1 hx
    refine mem_activeRelations_of_row hx hr (hkeep r (htables x hx hfit r n hr) ?_) hall.cat.schema
    have hne := oid_ne_of_kind hx hq (by
      rw [List.mem_singleton.1 hkind, List.mem_singleton.1 (mem_activeRelations.1 hq).1]
      decide)
    rw [hr.eq] at hne
    exact hne
  · obtain ⟨-, r, n, hr⟩ := mem_activeRelations.1 hx
    rw [hr.eq] at hne
    exact mem_activeRelations_of_row hx hr (hkeep r (hothers x hx r n hr) hne) hall.cat.schema
  · rw [← hpartition parent hne, hset]
    rfl
  · rw [← hrelationExt relid hne, hset]
    rfl
  · obtain ⟨-, r, n, hr⟩ := mem_activeRelations.1 hmem
    exact not_active_of_marked hcat hr.row (by rw [hr.eq]) hr.active
  · rw [← hdependency, hset]
    rfl

/-- **A turn of the pass.** -/
lemma turn_of_runs (hE : Faithful E) (hc : Orderly d.cat)
    (hq : q ∈ activeRelations [.partitioned] d.cat) (h : Runs (validatePartitioned E q) d u d') :
    Turn E q d d' := by
  unfold validatePartitioned at h
  obtain ⟨outcome, d₁, hattempt, hrest⟩ := runs_bind.1 h
  unfold Runs at hattempt
  rw [exec_attempt] at hattempt
  rcases exec_validatePartitionedRelation hE hc hq with
    ⟨e, d₂, hexec, ⟨x, hx, hfailed⟩ | hbuild⟩ | ⟨d₂, t, hbuild, hrows, hruns, hfits⟩
  · rw [hexec] at hattempt
    cases hattempt
    obtain ⟨p, child, m, hchild⟩ := mem_activePartitionChildren.1 hx
    refine turn_of_marked hq ⟨hfailed.follows.cat, ?_⟩ (fun y hy hfit r n hr => ?_)
      (fun y hy r n hr => ?_) hfailed.partition (fun _ _ => by rw [hfailed.relationExt])
      hfailed.dependency hrest
    · have hphys := hfailed.follows.phys
      exact ⟨hphys.tables, hphys.indexes, hphys.loadedVssVersion,
        fun s n _ => hphys.views s n (List.not_mem_nil), fun s n _ => hphys.columns s n (List.not_mem_nil)⟩
    · refine hfailed.relation r hr.row ?_
      by_cases hoid : r.oid = x.childOid
      · right
        have hsame : r = child := eq_of_oid hr.row hchild.row (by rw [hoid, hchild.child, hchild.eq])
        subst hsame
        have hspace : n = m := Table.eq_of_clash hr.schema hchild.schema
          (clash_schema (hr.relnamespace.trans hchild.relnamespace.symm))
        subst hspace
        rw [hr.eq] at hfit
        rw [hchild.eq, ← hchild.child]
        exact hfit
      · exact Or.inl hoid
    · refine hfailed.relation r hr.row (Or.inl fun hoid => ?_)
      have hkind := hc.partitionsAreTables p hchild.partition r hr.row (by rw [hoid, hchild.eq])
      have hpart := List.mem_singleton.1 (mem_activeRelations.1 hy).1
      rw [hr.eq] at hpart
      change r.relkind = _ at hpart
      rw [hkind] at hpart
      cases hpart
  · rw [hexec] at hattempt
    cases hattempt
    refine turn_of_marked hq hbuild.follows (fun y hy hfit r n hr => ?_) (fun y hy r n hr => ?_)
      (fun _ _ => by rw [hbuild.partition]) hbuild.relationExt hbuild.dependency hrest
    · rw [hbuild.relation]
      exact hr.row
    · rw [hbuild.relation]
      exact hr.row
  · rw [show exec (validatePartitionedRelation E q) d = _ from hruns] at hattempt
    cases hattempt
    obtain ⟨-, rfl⟩ := runs_pure.1 hrest
    have hrow : ∀ {kinds : List RelKind} {x : PhysicalRelation}, x ∈ activeRelations kinds d.cat →
        x ∈ activeRelations kinds (withDependencies d₂ t).cat := fun {kinds x} hx => by
      obtain ⟨-, r, n, hr⟩ := mem_activeRelations.1 hx
      refine mem_activeRelations_of_row hx hr ?_ hbuild.follows.cat.schema
      change r ∈ d₂.cat.rsRelation.rows
      rw [hbuild.relation]
      exact hr.row
    have hsame : activePartitionChildren (withDependencies d₂ t).cat q.oid =
        activePartitionChildren d.cat q.oid :=
      childrenOf_congr hbuild.relation hbuild.follows.cat.schema hbuild.partition q.oid
    refine ⟨hbuild.follows.trans (follows_withDependencies hbuild.relation hq
      (by rw [hrows, hbuild.dependency])), fun x hx _ => hrow hx, fun x hx _ => hrow hx, fun parent _ => ?_,
      hbuild.relationExt, Or.inr ⟨hrow hq, hfits, ?_⟩⟩
    · change d₂.cat.rsPartition.select _ = _
      rw [hbuild.partition]
    · rw [hsame]
      exact hrows

/-- A turn leaves the partitions of another table that fits. -/
lemma Turn.children_eq (ht : Turn E q d d') (hc : Orderly d.cat) {r : PhysicalRelation}
    (hne : r.oid ≠ q.oid) (hfit : PartitionedFits E d r) :
    activePartitionChildren d'.cat r.oid = activePartitionChildren d.cat r.oid := by
  have hselect : d'.cat.rsPartition.select (fun p => p.parentRelid == r.oid && p.status == .active) =
      d.cat.rsPartition.select fun p => p.parentRelid == r.oid && p.status == .active := by
    have h := congrArg (List.filter fun p => p.status == .active) (ht.partition r.oid hne)
    unfold Table.select at h ⊢
    rw [List.filter_filter, List.filter_filter] at h
    simpa only [Bool.and_comm] using h
  unfold activePartitionChildren
  rw [hselect]
  refine List.filterMap_congr fun p hp => ?_
  rw [List.mem_mergeSort] at hp
  have hpart := List.mem_filter.1 hp
  obtain ⟨hparent, hactive⟩ := Bool.and_eq_true_iff.1 hpart.2
  rcases hchild : activePartitionChild d.cat p with _ | x
  · -- a partition that has no relation, or one without a schema, keeps none
    rw [Option.eq_none_iff_forall_ne_some] at hchild ⊢
    intro x hx
    obtain ⟨s, n, ⟨hs, hoid⟩, ⟨hn, hspace⟩, -⟩ := activePartitionChild_eq_some.1 hx
    obtain ⟨s₀, hs₀, heased⟩ := ht.follows.cat.relation.mem hs
    rw [ht.follows.cat.schema] at hn
    refine hchild _ (activePartitionChild_eq_some.2 ⟨s₀, n, ⟨hs₀, heased.same.oid.symm.trans hoid⟩,
      ⟨hn, hspace.trans heased.same.relnamespace⟩, rfl⟩)
  · have hx : x ∈ activePartitionChildren d.cat r.oid :=
      List.mem_filterMap.2 ⟨p, by rw [List.mem_mergeSort]; exact hp, hchild⟩
    obtain ⟨hstatus, hfits⟩ := hfit.children x hx
    have hrow := ht.tables _ (hc.child hx hstatus) hfits
    obtain ⟨-, s, n, hs⟩ := mem_activeRelations.1 hrow
    obtain ⟨s₀, n₀, ⟨hs₀, hoid₀⟩, ⟨hn₀, hspace₀⟩, hx₀⟩ := activePartitionChild_eq_some.1 hchild
    have hsame : s = s₀ := by
      refine eq_of_oid (ht.follows.cat.mem_of_active hs.row hs.active) hs₀ ?_
      have hid := congrArg PhysicalRelation.oid hs.eq
      rw [hx₀] at hid
      exact hid.symm.trans hoid₀.symm
    subst hsame
    refine activePartitionChild_eq_some.2 ⟨s, n₀, ⟨hs.row, hoid₀⟩, ⟨?_, hspace₀⟩, hx₀⟩
    rw [ht.follows.cat.schema]
    exact hn₀

/-- **What fits fits through the turns of other tables.** -/
lemma Turn.fits (ht : Turn E q d d') (hc : Orderly d.cat)
    (hq : q ∈ activeRelations [.partitioned] d.cat) {r : PhysicalRelation}
    (hr : r ∈ activeRelations [.partitioned] d.cat) (hne : r.oid ≠ q.oid)
    (hfit : PartitionedFits E d r) : PartitionedFits E d' r := by
  have hsame := ht.children_eq hc hne hfit
  have hname := hc.folded_ne hr hq hne
  refine ⟨fun x hx => ?_, ?_, hfit.view.of_follows ht.follows ?_⟩
  · rw [hsame] at hx
    obtain ⟨hactive, hfits⟩ := hfit.children x hx
    have hchild := hc.child hx hactive
    have hkind : RelKind.table ≠ q.relkind := by
      rw [List.mem_singleton.1 (mem_activeRelations.1 hq).1]
      decide
    refine ⟨hactive, hfits.of_follows ht.follows ?_⟩
    rw [List.mem_singleton]
    exact hc.folded_ne hchild hq (oid_ne_of_kind hchild hq hkind)
  · rw [hsame, entrypointSql_eq hc.typed ht.follows.cat]
    obtain ⟨e, hfind, htrim⟩ := hfit.generated
    exact ⟨e, (ht.relationExt r.oid hne).trans hfind, htrim⟩
  · rw [List.mem_singleton]
    exact hname

/-- A table that fits only has its dependencies written again. -/
lemma PartitionedFits.runs (hfit : PartitionedFits E d q) :
    ∃ t, t.rows = syncedRows q.oid (activePartitionChildren d.cat q.oid) d.cat.rsDependency.rows ∧
      Runs (validatePartitioned E q) d ⟨⟩ (withDependencies d t) := by
  obtain ⟨t, hrows, hsync⟩ := runs_syncPartitionDependencies d.cat q.oid
    (childOids_nodup d.cat q.oid)
  refine ⟨t, hrows, ?_⟩
  have hchildren : Runs ((activePartitionChildren d.cat q.oid).forM (validatePartitionChild E q.oid))
      d ⟨⟩ d := by
    refine runs_forM_self fun x hx => ?_
    obtain ⟨hactive, hfits⟩ := hfit.children x hx
    unfold validatePartitionChild
    dsimp only
    rw [if_neg (not_not.2 hactive)]
    refine runs_bind.2 ⟨.ok ⟨⟩, d, ?_, runs_pure.2 ⟨rfl, rfl⟩⟩
    unfold Runs
    rw [exec_attempt, show exec _ d = _ from hfits.runs]
  have hview := hfit.view.runs
  obtain ⟨e, hfind, htrim⟩ := hfit.generated
  have hentry : Runs (validateEntrypoint E q (partitionEntrypointSqlFromCatalog d.cat q.oid q.schema
      q.relname (activePartitionChildren d.cat q.oid))) d ⟨⟩ d := by
    unfold validateEntrypoint
    refine runs_bind.2 ⟨e, d, Db.runs_onCatalog.2 ⟨runs_queryRow.2 ⟨hfind, rfl⟩, rfl⟩, ?_⟩
    rw [if_neg (not_not.2 htrim)]
    refine runs_bind.2 ⟨.ok ⟨⟩, d, ?_, runs_pure.2 ⟨rfl, rfl⟩⟩
    unfold Runs
    rw [exec_attempt, show exec _ d = _ from hview]
  have hrun : Runs (validatePartitionedRelation E q) d ⟨⟩ (withDependencies d t) := by
    unfold validatePartitionedRelation Runs
    rw [exec_bind_of_runs (runs_get.2 ⟨rfl, rfl⟩), exec_bind_of_runs hchildren,
      exec_bind_of_runs (runs_get.2 ⟨rfl, rfl⟩), exec_bind_of_runs hentry, exec_bind_of_runs hview]
    exact Db.runs_onCatalog.2 ⟨hsync, rfl⟩
  unfold validatePartitioned
  refine runs_bind.2 ⟨.ok ⟨⟩, withDependencies d t, ?_, runs_pure.2 ⟨rfl, rfl⟩⟩
  unfold Runs
  rw [exec_attempt, show exec _ d = _ from hrun]

end Turn

end Rsduck.Catalog.Recovery
