import Mathlib.Data.String.Basic
import Rsduck.Catalog.Partition.StatsRuns
import Rsduck.Lib.Bins

/-!
What a partitioned table holds: rows under the values of its partitions. A partition that is active
shows its rows, one that is out of use keeps them aside, and of one that has expired only its row
in the catalog is left. The view of the table shows what the active partitions show.
-/

namespace Rsduck.Catalog.Partition

open Lib Lib.Eff Lib.Calendar Lib.Text

variable {T D B : Type}

/-- The rows in the tables of an engine. -/
structure StoredRows (E : PartitionEngine T D B) where
  rows : T → Multiset B
  created : ∀ R t, E.createTable R = .ok t → rows t = 0
  inserted : ∀ t new t', E.insertRows t new = .ok t' → rows t' = rows t + (new : List B)

section Definitions

variable {E : PartitionEngine T D B} (K : StoredRows E)

def tableRows (n : List Char) (s : Partitions T D) : Multiset B :=
  (Partitions.findTable n s).elim 0 K.rows

/-- What a row of `rs_partition` stands for. -/
def PartitionEntry.bin (s : Partitions T D) (e : PartitionEntry D) : Bin B :=
  match e.child with
  | none => .gone
  | some c =>
    if e.status = .active then .shown (tableRows K c.relname s) else .aside (tableRows K c.relname s)

def binAt (parent : ℤ) (value : List Char) (s : Partitions T D) : Option (Bin B) :=
  (Partitions.entry parent value s).map (PartitionEntry.bin K s)

/-- What a partitioned table holds. -/
def contents (R : PartitionedRelation) (s : Partitions T D) : Bins String B :=
  fun value => binAt K R.oid value.toList s

/-- The tables that the view of a partitioned table is made over. -/
def viewTables (R : PartitionedRelation) (s : Partitions T D) : List (List Char) :=
  (s.entrypoints.find? fun x => x.1 == R.oid).elim [] (·.2)

/-- The rows that the view of a partitioned table shows. -/
def viewRows (R : PartitionedRelation) (s : Partitions T D) : Multiset B :=
  ((viewTables R s).map fun n => tableRows K n s).sum

/-- The rows of an insert, each with the value of its partition. -/
def routed (unit : PartitionUnit) (rows : List (DateTime × B)) : List (String × B) :=
  rows.map fun row => (String.ofList (partitionValueForDatetime row.1 unit), row.2)

/-- As many of the newest partitions as are kept; none expires where no number is given. -/
noncomputable def retained (R : PartitionedRelation) (b : Bins String B) : Bins String B :=
  if R.retentionCount ≤ 0 then b else b.retain R.retentionCount.toNat

/-- What a statement that succeeds does to what its table holds. -/
noncomputable def PartitionOp.effect (R : PartitionedRelation) (op : PartitionOp B)
    (b : Bins String B) : Bins String B :=
  match op with
  | .insert rows => retained R (b.put (routed R.partitionUnit rows))
  | .maintain => retained R b
  | .markUnavailable value => b.setAside (String.ofList value)
  | .repair value => b.restore (String.ofList value)
  | .createIndex _ => b
  | .drop => Bins.empty

end Definitions

/-! ### What is beside a relation -/

section Beside

variable {E : PartitionEngine T D B} {R : PartitionedRelation}

/-- The rows and the views of the other relations. -/
def besides (oid : ℤ) (s : Partitions T D) :
    List (PartitionEntry D) × List (ℤ × List (List Char)) :=
  (s.entries.filter fun e => e.parentRelid != oid, s.entrypoints.filter fun x => x.1 != oid)

variable {oid : ℤ}

lemma keeps_modify_of {δ : Type} {view : Partitions T D → δ} {f : Partitions T D → Partitions T D}
    (h : ∀ s, view (f s) = view s) : Keeps (Same view) (modify f) := by
  intro s u t hrun
  rw [runs_modify.1 hrun]
  exact h s

lemma keeps_asks {γ δ : Type} {view : Partitions T D → δ} (g : Partitions T D → γ) :
    Keeps (Same view) (asks g) := by
  intro s a t hrun
  obtain ⟨u, s₁, hget, hpure⟩ := runs_bind.1 hrun
  rw [(runs_pure.1 hpure).2, (runs_get.1 hget).2]
  rfl

lemma besides_updateEntry (value : List Char) {f : PartitionEntry D → PartitionEntry D}
    (hf : ∀ e, (f e).parentRelid = e.parentRelid) (s : Partitions T D) :
    besides oid (Partitions.updateEntry oid value f s) = besides oid s := by
  unfold besides Partitions.updateEntry
  refine Prod.ext (filter_map_of (fun e => ?_) fun e he => ?_) rfl
  · split_ifs
    · rw [hf]
    · rfl
  · have hne : (e.parentRelid == oid) = false := by simpa using he
    rw [hne, Bool.false_and]
    rfl

lemma besides_createTable (n : List Char) (content : T) :
    Keeps (Same (besides oid)) (createTable n content : Eff (Partitions T D) PUnit) :=
  keeps_bind (keeps_asks _) fun _ => keeps_bind (keeps_ensure _ _) fun _ =>
    keeps_modify_of fun _ => rfl

lemma besides_dropTable (n : List Char) :
    Keeps (Same (besides oid)) (dropTable n : Eff (Partitions T D) PUnit) :=
  keeps_bind (keeps_asks _) fun _ => keeps_bind (keeps_ensure _ _) fun _ =>
    keeps_modify_of fun _ => rfl

lemma besides_tableContent (n : List Char) :
    Keeps (Same (besides oid)) (tableContent n : Eff (Partitions T D) T) := by
  refine keeps_bind (keeps_asks _) fun found => ?_
  rcases found with _ | content
  · exact keeps_throw _
  · exact keeps_pure _

lemma besides_createIndex (n table : List Char) (spec : PartitionIndexSpec) :
    Keeps (Same (besides oid)) (createIndex E n table spec) :=
  keeps_bind (besides_tableContent _) fun _ => keeps_bind (keeps_asks _) fun _ =>
    keeps_bind (keeps_ensure _ _) fun _ => keeps_bind (keeps_fromExcept _) fun _ =>
      keeps_modify_of fun _ => rfl

lemma besides_insertInto (n : List Char) (rows : List B) :
    Keeps (Same (besides oid)) (insertInto E n rows) :=
  keeps_bind (besides_tableContent _) fun _ => keeps_bind (keeps_fromExcept _) fun _ =>
    keeps_modify_of fun _ => rfl

lemma besides_allocateOid :
    Keeps (Same (besides oid)) (allocateOid : Eff (Partitions T D) ℤ) :=
  keeps_bind (keeps_asks _) fun _ => keeps_bind (keeps_modify_of fun _ => rfl) fun _ => keeps_pure _

lemma besides_createPartitionIndex (spec : PartitionIndexSpec) (child : List Char) :
    Keeps (Same (besides oid)) (createPartitionIndex E spec child) :=
  keeps_bind (keeps_asks _) fun _ => keeps_ite (keeps_pure _)
    (keeps_mapError (besides_createIndex _ _ _))

lemma besides_createPartitionIndexes (parent : ℤ) (child : List Char) :
    Keeps (Same (besides oid)) (createPartitionIndexes E parent child) :=
  keeps_bind (keeps_asks _) fun _ => keeps_forM fun spec _ => besides_createPartitionIndex spec child

lemma besides_createRangePartition (value : List Char) :
    Keeps (Same (besides R.oid)) (createRangePartition E R value) := by
  refine keeps_bind (keeps_fromExcept _) fun _ => keeps_bind (keeps_asks _) fun _ =>
    keeps_bind (keeps_ensure _ _) fun _ => keeps_bind besides_allocateOid fun childOid =>
      keeps_bind besides_allocateOid fun _ => keeps_bind (keeps_fromExcept _) fun content =>
        keeps_bind (keeps_mapError (besides_createTable _ _)) fun _ => keeps_bind ?_ fun _ =>
          keeps_bind (besides_createPartitionIndexes _ _) fun _ => keeps_pure _
  refine keeps_modify_of fun s => Prod.ext ?_ rfl
  have hlast : ∀ e : PartitionEntry D, e.parentRelid = R.oid →
      (s.entries ++ [e]).filter (fun e => e.parentRelid != R.oid) =
        s.entries.filter fun e => e.parentRelid != R.oid := by
    intro e he
    simp [he]
  exact hlast _ rfl

lemma besides_ensureActivePartition (value : List Char) :
    Keeps (Same (besides R.oid)) (ensureActivePartition E R value) := by
  refine keeps_bind (keeps_asks _) fun found => ?_
  rcases found with _ | e
  · exact besides_createRangePartition value
  · rcases hstatus : e.status <;> rcases hchild : e.child with _ | child <;>
      simp only [hstatus, hchild]
    all_goals first
      | exact keeps_throw _
      | exact keeps_pure _

lemma besides_refreshPartitionEntrypoint :
    Keeps (Same (besides R.oid)) (refreshPartitionEntrypoint E R) := by
  refine keeps_bind (keeps_asks _) fun children => keeps_bind ?_ fun contents =>
    keeps_bind (keeps_fromExcept _) fun _ => keeps_modify_of fun s => Prod.ext rfl ?_
  · induction children with
    | nil => exact keeps_pure _
    | cons c children ih =>
      rw [List.mapM_cons]
      exact keeps_bind (besides_tableContent _) fun _ => keeps_bind ih fun _ => keeps_pure _
  · simp [besides]

lemma besides_expireOldPartitions :
    Keeps (Same (besides R.oid)) (expireOldPartitions R : Eff (Partitions T D) PUnit) := by
  refine keeps_ite (keeps_pure _) (keeps_bind (keeps_asks _) fun _ => keeps_forM fun x _ => ?_)
  exact keeps_bind (keeps_modify_of (besides_updateEntry _ fun _ => rfl)) fun _ =>
    keeps_bind (keeps_mapError (besides_dropTable _)) fun _ =>
      keeps_modify_of (besides_updateEntry _ fun _ => rfl)

lemma besides_insertPartitionGroup (group : PartitionInsertGroup B) :
    Keeps (Same (besides R.oid)) (insertPartitionGroup E R group) :=
  keeps_bind (besides_ensureActivePartition _) fun _ =>
    keeps_bind (keeps_mapError (besides_insertInto _ _)) fun _ =>
      keeps_modify_of (besides_updateEntry _ fun _ => rfl)

lemma besides_validateTablePhysical (child : ChildRelation D) :
    Keeps (Same (besides oid)) (validateTablePhysical E child) := by
  refine keeps_bind (keeps_asks _) fun found => ?_
  rcases found with _ | table
  · exact keeps_throw _
  · exact keeps_fromExcept _

lemma besides_recreatePartition (value : List Char) :
    Keeps (Same (besides R.oid)) (recreatePartition E R value) :=
  keeps_bind besides_allocateOid fun _ => keeps_bind (keeps_fromExcept _) fun _ =>
    keeps_bind (keeps_mapError (besides_createTable _ _)) fun _ =>
      keeps_bind (keeps_modify_of (besides_updateEntry _ fun _ => rfl)) fun _ =>
        keeps_bind (keeps_fromExcept _) fun _ => besides_createPartitionIndexes _ _

lemma besides_repairEntry (value : List Char) (e : PartitionEntry D) :
    Keeps (Same (besides R.oid)) (repairEntry E R value e) := by
  have hrepair : Keeps (Same (besides R.oid)) (repairNonActivePartition E R value e) := by
    have hvalid : Keeps (Same (besides R.oid)) (validatePartition E R value e.child) := by
      rcases e.child with _ | child
      · exact keeps_throw _
      · exact besides_validateTablePhysical child
    exact keeps_bind (keeps_asks _) fun there => keeps_ite
      (keeps_bind hvalid fun _ => keeps_modify_of (besides_updateEntry _ fun _ => rfl))
      (keeps_bind (besides_recreatePartition value) fun _ =>
        keeps_modify_of (besides_updateEntry _ fun _ => rfl))
  unfold repairEntry
  split
  · exact besides_validateTablePhysical _
  · exact keeps_pure _
  · exact hrepair

/-- **A statement leaves the other relations alone**, their rows in the catalog and their views. -/
lemma besides_performPartitionOp (op : PartitionOp B) :
    Keeps (Same (besides R.oid)) (performPartitionOp E R op) := by
  cases op with
  | insert rows =>
    exact keeps_bind (keeps_forM fun g _ => besides_insertPartitionGroup g) fun _ =>
      keeps_bind besides_expireOldPartitions fun _ => besides_refreshPartitionEntrypoint
  | maintain =>
    exact keeps_bind besides_expireOldPartitions fun _ => besides_refreshPartitionEntrypoint
  | markUnavailable value =>
    refine keeps_bind (keeps_asks _) fun found => ?_
    rcases found.bind (·.child) with _ | c
    · exact keeps_throw _
    · exact keeps_bind (keeps_modify_of (besides_updateEntry _ fun _ => rfl)) fun _ =>
        besides_refreshPartitionEntrypoint
  | repair value =>
    refine keeps_bind (keeps_asks _) fun found => ?_
    rcases found with _ | e
    · exact keeps_throw _
    · exact keeps_bind (besides_repairEntry _ _) fun _ => besides_refreshPartitionEntrypoint
  | createIndex spec =>
    exact keeps_bind (keeps_asks _) fun _ =>
      keeps_bind (keeps_forM fun c _ => besides_createPartitionIndex _ _) fun _ =>
        keeps_modify_of fun _ => rfl
  | drop =>
    refine keeps_bind (keeps_asks _) fun _ =>
      keeps_bind (keeps_modify_of fun s => Prod.ext rfl ?_) fun _ =>
        keeps_bind (keeps_forM fun c _ => keeps_mapError (besides_dropTable _)) fun _ =>
          keeps_modify_of fun s => Prod.ext ?_ rfl
    · simp [besides]
    · simp [besides]

end Beside

end Rsduck.Catalog.Partition
