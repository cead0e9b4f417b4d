import Rsduck.Db.Outbox
import Rsduck.Db.VectorScope
import Rsduck.Lib.Attempt

/-!
A batch of vectors, as a whole.

The keys of a batch are distinct, so what an item leaves of its key is what the batch leaves of
it. A batch either fails and changes nothing, or does what each of its items asks for and
nothing else; sent once more, it finds everything done.
-/

namespace Rsduck.Db

open Lib Lib.Eff Catalog

/-! ### Rows of a key -/

/-- The rows of a key. -/
def rowsAt (key : VectorKey) (rs : List VectorRow) : List VectorRow :=
  rs.filter (·.key == some key)

/-- The rows that have none of these keys. -/
def rowsBeside (keys : List VectorKey) (rs : List VectorRow) : List VectorRow :=
  rs.filter fun r => decide (r.key ∉ keys.map some)

/-- No key is there twice: `UNIQUE(tenant_id, agent_id, memory_id)`, which says nothing of keys
with a NULL. -/
def KeysOnce (rs : List VectorRow) : Prop := (rs.filterMap VectorRow.key).Nodup

section Rows

variable {rs rs' : List VectorRow} {key key' : VectorKey} {keys keys' : List VectorKey}

lemma mem_rowsAt {r : VectorRow} : r ∈ rowsAt key rs ↔ r ∈ rs ∧ r.key = some key := by
  simp [rowsAt]

lemma head?_rowsAt : (rowsAt key rs).head? = rs.find? (·.key == some key) :=
  List.head?_filter

lemma keysOnce_iff : KeysOnce rs ↔ ∀ key, (rowsAt key rs).length ≤ 1 := by
  unfold KeysOnce
  rw [List.nodup_iff_count_le_one]
  refine forall_congr' fun key => ?_
  rw [List.count_filterMap, List.countP_eq_length_filter]
  rfl

/-- With distinct keys, a lookup tells all the rows of the key. -/
lemma KeysOnce.rowsAt_eq (h : KeysOnce rs) :
    rowsAt key rs = (rs.find? (·.key == some key)).toList := by
  have hlength := keysOnce_iff.1 h key
  rw [← head?_rowsAt]
  rcases hrows : rowsAt key rs with _ | ⟨r, _ | ⟨t, ts⟩⟩
  · rfl
  · rfl
  · simp [hrows] at hlength

/-- Rows that agree beside some keys agree at every other key. -/
lemma rowsAt_of_beside (h : rowsBeside keys rs' = rowsBeside keys rs) (hkey : key ∉ keys) :
    rowsAt key rs' = rowsAt key rs := by
  have hsub : ∀ ts : List VectorRow, rowsAt key (rowsBeside keys ts) = rowsAt key ts := by
    intro ts
    unfold rowsAt rowsBeside
    rw [List.filter_filter]
    refine List.filter_congr fun r _ => ?_
    by_cases hr : r.key = some key
    · simp [hr, hkey]
    · simp [hr]
  rw [← hsub rs', h, hsub rs]

lemma rowsBeside_of_subset (h : rowsBeside keys rs' = rowsBeside keys rs) (hsub : keys ⊆ keys') :
    rowsBeside keys' rs' = rowsBeside keys' rs := by
  have hmono : ∀ ts : List VectorRow,
      rowsBeside keys' (rowsBeside keys ts) = rowsBeside keys' ts := by
    intro ts
    unfold rowsBeside
    rw [List.filter_filter]
    refine List.filter_congr fun r _ => ?_
    by_cases hr : r.key ∈ keys'.map some
    · simp only [hr, not_true, decide_false, Bool.false_and]
    · have hr' : r.key ∉ keys.map some := fun hk => hr (List.map_subset some hsub hk)
      simp only [hr, hr', not_false_iff, decide_true, Bool.and_self]
  rw [← hmono rs', h, hmono rs]

lemma rowsAt_replaceKey_self {new : List VectorRow} (hnew : ∀ r ∈ new, r.key = some key) :
    rowsAt key (replaceKey rs key new) = new := by
  rw [rowsAt, filter_replaceKey_self]
  exact List.filter_eq_self.2 fun r hr => by simp [hnew r hr]

lemma rowsBeside_replaceKey {new : List VectorRow} (hnew : ∀ r ∈ new, r.key = some key) :
    rowsBeside [key] (replaceKey rs key new) = rowsBeside [key] rs := by
  have hnil : rowsBeside [key] new = [] :=
    List.filter_eq_nil_iff.2 fun r hr => by simp [hnew r hr]
  unfold rowsBeside replaceKey at *
  rw [List.filter_append, hnil, List.append_nil, List.filter_filter]
  refine List.filter_congr fun r _ => ?_
  by_cases hr : r.key = some key
  · simp [hr]
  · simp [hr]

lemma replaceKey_of_none {new : List VectorRow} (h : rs.find? (·.key == some key) = none) :
    replaceKey rs key new = rs ++ new := by
  have hall : ∀ r ∈ rs, (r.key != some key) = true := fun r hr => by
    simpa using List.find?_eq_none.1 h r hr
  rw [replaceKey, List.filter_eq_self.2 hall]

lemma KeysOnce.of_step (h : KeysOnce rs) (hbeside : rowsBeside [key] rs' = rowsBeside [key] rs)
    (hkey : (rowsAt key rs').length ≤ 1) : KeysOnce rs' := by
  refine keysOnce_iff.2 fun key' => ?_
  by_cases hk : key' = key
  · rw [hk]
    exact hkey
  · rw [rowsAt_of_beside hbeside (by simpa using hk)]
    exact keysOnce_iff.1 h key'

end Rows

/-! ### One item -/

section Items

variable {P : Type} {V : VectorEngine P} {index : VectorIndexStatus} {d d' : Db P}

/-- What an upsert leaves of its key: the row that was there, if it had the item's version and
hash already; else the item, above all versions that were there, with the vector that the engine
reads in its text. -/
inductive Upserted (V : VectorEngine P) (index : VectorIndexStatus) (item : VectorUpsertItem)
    (before after : List VectorRow) : Prop
  | held (r : VectorRow) (was : before = [r]) (stays : after = [r])
    (version : r.sourceVersion = some item.sourceVersion)
    (hash : r.contentHash = some item.contentHash)
  | stored (es : List F32)
    (cast : (vectorText index item.embedding).bind V.castFloatArray = .ok es)
    (exact : CastExact V index item.embedding → item.embedding.Forall₂ SameNumber es)
    (stays : after = [item.row es])
    (newer : ∀ r ∈ before, ∃ v, r.sourceVersion = some v ∧ v < item.sourceVersion)

/-- What a deletion leaves of its key: nothing, and no version above its own was there. -/
structure Deleted (item : VectorDeleteItem) (before after : List VectorRow) : Prop where
  absent : after = []
  newest : ∀ r ∈ before, ∃ v, r.sourceVersion = some v ∧ v ≤ item.sourceVersion

/-- What an item of a batch may do: it keeps the catalog, the rows of other keys and their keys
distinct. -/
structure ItemStep (V : VectorEngine P) (index : VectorIndexStatus) (key : VectorKey)
    (Q : List VectorRow → List VectorRow → Prop) (d d' : Db P) : Prop where
  cat : d'.cat = d.cat
  beside : rowsBeside [key] (rowsOf V index d') = rowsBeside [key] (rowsOf V index d)
  once : KeysOnce (rowsOf V index d')
  done : Q (rowsAt key (rowsOf V index d)) (rowsAt key (rowsOf V index d'))

lemma sameNumbers_of_cast {item : VectorUpsertItem} {es : List F32}
    (hcast : (vectorText index item.embedding).bind V.castFloatArray = .ok es)
    (h : CastExact V index item.embedding) : item.embedding.Forall₂ SameNumber es := by
  rcases htext : vectorText index item.embedding with e | text
  · simp [htext, Except.bind] at hcast
  · obtain ⟨es', hes', hsame⟩ := h text htext
    obtain rfl : es' = es := by simpa [htext, Except.bind, hes'] using hcast
    exact hsame

lemma insertedRows_eq_ok {keys : List (List VectorColumn)} {rs ts : List VectorRow}
    {item : VectorUpsertItem} (h : insertedRows V index keys rs item = .ok ts) :
    ∃ es, (vectorText index item.embedding).bind V.castFloatArray = .ok es ∧
      ts = rs ++ [item.row es] := by
  unfold insertedRows at h
  rcases htext : vectorText index item.embedding with e | text
  · simp [htext] at h
  rcases hcast : V.castFloatArray text with e | es
  · simp [htext, hcast] at h
  rcases hbroken : brokenKey keys rs (item.row es) with _ | columns
  · exact ⟨es, hcast, by simpa [htext, hcast, hbroken, eq_comm] using h⟩
  · simp [htext, hcast, hbroken] at h

lemma rows_of_insertVectorRow {item : VectorUpsertItem} {u : Unit}
    (h : Runs (insertVectorRow V index item) d u d') :
    ∃ es, (vectorText index item.embedding).bind V.castFloatArray = .ok es ∧ d'.cat = d.cat ∧
      rowsOf V index d' = rowsOf V index d ++ [item.row es] := by
  rw [Runs, exec_insertVectorRow] at h
  rcases hrs : insertedRows V index (V.uniqueKeys d.phys index.schema index.table) (rowsOf V index d)
    item with e | rs
  · rw [hrs] at h
    cases h
  · rw [hrs] at h
    obtain rfl := (Prod.mk.inj h).2
    obtain ⟨es, hcast, rfl⟩ := insertedRows_eq_ok hrs
    exact ⟨es, hcast, rfl, rowsOf_withRows V index _ _⟩

lemma rows_of_deleteVectorRow {key : VectorKey} {u : Unit}
    (h : Runs (deleteVectorRow V index key) d u d') :
    d'.cat = d.cat ∧ rowsOf V index d' = replaceKey (rowsOf V index d) key [] := by
  have hdeleted := runs_deleteVectorRow V index d key
  rw [Runs] at h hdeleted
  obtain rfl := (Prod.mk.inj (h.symm.trans hdeleted)).2
  exact ⟨rfl, by rw [rowsOf_withRows, replaceKey, List.append_nil]⟩

/-- The rows of the key make way for at most one. -/
lemma itemStep_of_replace {Q : List VectorRow → List VectorRow → Prop} {key : VectorKey}
    (new : List VectorRow) (honce : KeysOnce (rowsOf V index d)) (hcat : d'.cat = d.cat)
    (hrows : rowsOf V index d' = replaceKey (rowsOf V index d) key new)
    (hnew : ∀ r ∈ new, r.key = some key) (hlength : new.length ≤ 1)
    (hdone : Q (rowsAt key (rowsOf V index d)) new) : ItemStep V index key Q d d' := by
  have hbeside : rowsBeside [key] (rowsOf V index d') = rowsBeside [key] (rowsOf V index d) := by
    rw [hrows, rowsBeside_replaceKey hnew]
  have hkey : rowsAt key (rowsOf V index d') = new := by rw [hrows, rowsAt_replaceKey_self hnew]
  exact ⟨hcat, hbeside, honce.of_step hbeside (hkey ▸ hlength), hkey.symm ▸ hdone⟩

/-- An upsert that succeeds. -/
lemma upsertVector_step {item : VectorUpsertItem} {b : Bool} (honce : KeysOnce (rowsOf V index d))
    (h : Runs (upsertVector V index item) d b d') :
    ItemStep V index item.key (Upserted V index item) d d' := by
  rcases ho : (rowsOf V index d).find? (·.key == some item.key) with _ | r
  · have hfree : rowsAt item.key (rowsOf V index d) = [] := by rw [honce.rowsAt_eq, ho]; rfl
    unfold upsertVector at h
    rw [Runs, exec_bind_of_runs (runs_existingVectorVersion_none ho)] at h
    obtain ⟨u, t, hinsert, hpure⟩ := runs_bind.1 h
    obtain ⟨-, rfl⟩ := runs_pure.1 hpure
    obtain ⟨es, hcast, hcat, hrows⟩ := rows_of_insertVectorRow hinsert
    exact itemStep_of_replace [item.row es] honce hcat (hrows.trans (replaceKey_of_none ho).symm) (by simp)
      (by simp) (.stored es hcast (sameNumbers_of_cast hcast) rfl (by simp [hfree]))
  have hheld : rowsAt item.key (rowsOf V index d) = [r] := by rw [honce.rowsAt_eq, ho]; rfl
  rcases hv : r.version with e | ⟨version, hash⟩
  · rw [Runs, upsertVector, exec_bind, exec_existingVectorVersion_error ho hv] at h
    cases h
  obtain ⟨hversion, hhash⟩ := version_eq_ok.1 hv
  unfold upsertVector at h
  rw [Runs, exec_bind_of_runs (runs_existingVectorVersion ho hv)] at h
  rcases lt_trichotomy item.sourceVersion version with hlt | heq | hgt
  · simp [hlt] at h
  · by_cases hh : hash = item.contentHash
    · simp only [heq, lt_irrefl, if_false, if_true, hh, ne_eq, not_true, exec_pure] at h
      obtain rfl := (Prod.mk.inj h).2
      exact ⟨rfl, rfl, honce, .held r hheld hheld (by rw [hversion, heq]) (by rw [hhash, hh])⟩
    · simp [heq, hh] at h
  · simp only [hgt.not_gt, hgt.ne, if_false] at h
    obtain ⟨u, t, hdelete, hrest⟩ := runs_bind.1 h
    obtain ⟨u', t', hinsert, hpure⟩ := runs_bind.1 hrest
    obtain ⟨-, rfl⟩ := runs_pure.1 hpure
    obtain ⟨hcat, hrows⟩ := rows_of_deleteVectorRow hdelete
    obtain ⟨es, hcast, hcat', hrows'⟩ := rows_of_insertVectorRow hinsert
    refine itemStep_of_replace [item.row es] honce (hcat'.trans hcat) ?_ (by simp)
      (by simp) (.stored es hcast (sameNumbers_of_cast hcast) rfl ?_)
    · rw [hrows', hrows, replaceKey, replaceKey, List.append_nil]
    · rw [hheld]
      intro x hx
      rw [List.mem_singleton.1 hx]
      exact ⟨version, hversion, hgt⟩

/-- A deletion that succeeds. -/
lemma deleteVector_step {item : VectorDeleteItem} {b : Bool} (honce : KeysOnce (rowsOf V index d))
    (h : Runs (deleteVector V index item) d b d') :
    ItemStep V index item.key (Deleted item) d d' := by
  rcases ho : (rowsOf V index d).find? (·.key == some item.key) with _ | r
  · have hfree : rowsAt item.key (rowsOf V index d) = [] := by rw [honce.rowsAt_eq, ho]; rfl
    unfold deleteVector at h
    rw [Runs, exec_bind_of_runs (runs_existingVectorVersion_none ho)] at h
    obtain rfl := (Prod.mk.inj h).2
    exact ⟨rfl, rfl, honce, hfree, by simp [hfree]⟩
  have hheld : rowsAt item.key (rowsOf V index d) = [r] := by rw [honce.rowsAt_eq, ho]; rfl
  rcases hv : r.version with e | ⟨version, hash⟩
  · rw [Runs, deleteVector, exec_bind, exec_existingVectorVersion_error ho hv] at h
    cases h
  obtain ⟨hversion, -⟩ := version_eq_ok.1 hv
  unfold deleteVector at h
  rw [Runs, exec_bind_of_runs (runs_existingVectorVersion ho hv)] at h
  by_cases hlt : item.sourceVersion < version
  · simp [hlt] at h
  · simp only [hlt, if_false] at h
    obtain ⟨u, t, hdelete, hpure⟩ := runs_bind.1 h
    obtain ⟨-, rfl⟩ := runs_pure.1 hpure
    obtain ⟨hcat, hrows⟩ := rows_of_deleteVectorRow hdelete
    refine itemStep_of_replace [] honce hcat hrows (by simp) (by simp) ⟨rfl, ?_⟩
    rw [hheld]
    intro x hx
    rw [List.mem_singleton.1 hx]
    exact ⟨version, hversion, not_lt.1 hlt⟩

end Items

/-! ### All items -/

section Loop

variable {P ι : Type} {V : VectorEngine P} {index : VectorIndexStatus}
  {item : ι → Eff (Db P) Bool} {key : ι → VectorKey}
  {Q : ι → List VectorRow → List VectorRow → Prop} {items : List ι} {d d' : Db P}
  {counts counts' : ℕ × ℕ}

/-- What the items of a batch do. -/
structure ItemsDone (V : VectorEngine P) (index : VectorIndexStatus) (key : ι → VectorKey)
    (Q : ι → List VectorRow → List VectorRow → Prop) (items : List ι) (d d' : Db P) : Prop where
  cat : d'.cat = d.cat
  beside : rowsBeside (items.map key) (rowsOf V index d') =
    rowsBeside (items.map key) (rowsOf V index d)
  once : KeysOnce (rowsOf V index d')
  done : ∀ i ∈ items, Q i (rowsAt (key i) (rowsOf V index d)) (rowsAt (key i) (rowsOf V index d'))

/-- With distinct keys no item touches what another one left. -/
lemma ItemsDone.cons {i : ι} {t : Db P} (hi : key i ∉ items.map key)
    (h : ItemStep V index (key i) (Q i) d t) (hrest : ItemsDone V index key Q items t d') :
    ItemsDone V index key Q (i :: items) d d' := by
  refine ⟨hrest.cat.trans h.cat, ?_, hrest.once, fun j hj => ?_⟩
  · exact (rowsBeside_of_subset hrest.beside (by simp)).trans
      (rowsBeside_of_subset h.beside (by simp))
  · rcases List.mem_cons.1 hj with rfl | hj
    · rw [rowsAt_of_beside hrest.beside hi]
      exact h.done
    · have hne : key j ≠ key i := fun heq => hi (heq ▸ List.mem_map_of_mem hj)
      rw [← rowsAt_of_beside h.beside (by simpa using hne)]
      exact hrest.done j hj

lemma sum_countItem (counts : ℕ × ℕ) (b : Bool) :
    (countItem counts b).1 + (countItem counts b).2 = counts.1 + counts.2 + 1 := by
  unfold countItem
  split_ifs <;> simp only <;> omega

lemma itemsDone_of_runs
    (hstep : ∀ i ∈ items, ∀ d b d', KeysOnce (rowsOf V index d) → Runs (item i) d b d' →
      ItemStep V index (key i) (Q i) d d')
    (hkeys : (items.map key).Nodup) (honce : KeysOnce (rowsOf V index d))
    (h : Runs (items.foldlM (fun counts i => do return countItem counts (← item i)) counts) d counts'
      d') :
    ItemsDone V index key Q items d d' ∧
      counts'.1 + counts'.2 = counts.1 + counts.2 + items.length := by
  induction items generalizing counts d with
  | nil =>
    obtain ⟨rfl, rfl⟩ := runs_pure.1 h
    exact ⟨⟨rfl, rfl, honce, by simp⟩, rfl⟩
  | cons i items ih =>
    rw [List.foldlM_cons] at h
    obtain ⟨counts₁, t, hone, hrest⟩ := runs_bind.1 h
    obtain ⟨b, t', hitem, hpure⟩ := runs_bind.1 hone
    obtain ⟨rfl, rfl⟩ := runs_pure.1 hpure
    obtain ⟨hi, hkeys⟩ := List.nodup_cons.1 hkeys
    have hone := hstep i (by simp) d b t honce hitem
    obtain ⟨hdone, hcounts⟩ := ih (fun j hj => hstep j (by simp [hj])) hkeys hone.once hrest
    rw [sum_countItem] at hcounts
    exact ⟨ItemsDone.cons hi hone hdone, by rw [hcounts, List.length_cons]; omega⟩

/-- Items that find themselves done change nothing. -/
lemma runs_items_idle (counts : ℕ × ℕ) (hidle : ∀ i ∈ items, Runs (item i) d false d) :
    Runs (items.foldlM (fun counts i => do return countItem counts (← item i)) counts) d
      (counts.1, counts.2 + items.length) d := by
  induction items generalizing counts with
  | nil => exact runs_pure.2 ⟨rfl, rfl⟩
  | cons i items ih =>
    rw [List.foldlM_cons]
    have hone : Runs (do return countItem counts (← item i)) d (counts.1, counts.2 + 1) d :=
      runs_bind.2 ⟨false, d, hidle i (by simp), runs_pure.2 ⟨rfl, rfl⟩⟩
    have hrest := ih (counts.1, counts.2 + 1) fun j hj => hidle j (by simp [hj])
    rw [List.length_cons, Nat.add_comm items.length 1, ← Nat.add_assoc]
    exact runs_bind.2 ⟨_, d, hone, hrest⟩

/-- The items in their transaction. -/
lemma runs_runVectorTransaction (V : VectorEngine P) (index : VectorIndexStatus)
    {s s' : Session (Db P)} {result : VectorMutationResult} :
    Runs (runVectorTransaction V index item items) s result s' ↔
      s.saved = none ∧ ∃ counts t,
        Runs (items.foldlM (fun counts i => do return countItem counts (← item i)) (0, 0)) s.now
          counts t ∧
        result = ⟨index.vectorSpace, counts.1, counts.2, embedded (rowsOf V index t)⟩ ∧
        s' = ⟨{ t with cat := recounted index.indexOid (embedded (rowsOf V index t)) t.cat }, none⟩ ∧
        V.refuse s'.now = none := by
  have hcount := runs_updateVectorCount V index
  unfold runVectorTransaction
  rw [Session.runs_transact]
  refine and_congr_right fun _ => ?_
  constructor
  · rintro ⟨hidle, hrun, hcommit⟩
    obtain ⟨counts, t, hloop, hrest⟩ := runs_bind.1 hrun
    obtain ⟨n, u, hupdate, hpure⟩ := runs_bind.1 hrest
    obtain ⟨hresult, hu⟩ := runs_pure.1 hpure
    have hsame := hupdate.symm.trans (hcount t)
    obtain rfl := Except.ok.inj (Prod.mk.inj hsame).1
    obtain rfl := (Prod.mk.inj hsame).2
    refine ⟨counts, t, hloop, hresult, ?_, hcommit⟩
    obtain ⟨now, saved⟩ := s'
    simp only at hu hidle
    rw [hu, hidle]
  · rintro ⟨counts, t, hloop, hresult, rfl, hcommit⟩
    exact ⟨rfl, runs_bind.2 ⟨counts, t, hloop, runs_bind.2 ⟨_, _, hcount t,
      runs_pure.2 ⟨hresult, rfl⟩⟩⟩, hcommit⟩

end Loop

/-! ### The checks -/

/-- A check that goes over the items with the keys of those before, and lets no key come again. -/
lemma nodup_of_check {ι : Type} {key : ι → VectorKey}
    {check : List VectorKey → List ι → Except String Unit}
    (hcons : ∀ keys i items, check keys (i :: items) = .ok () →
      key i ∉ keys ∧ check (key i :: keys) items = .ok ())
    {keys : List VectorKey} {items : List ι} (h : check keys items = .ok ()) :
    (items.map key).Nodup ∧ ∀ i ∈ items, key i ∉ keys := by
  induction items generalizing keys with
  | nil => simp
  | cons i items ih =>
    obtain ⟨hi, hrest⟩ := hcons keys i items h
    obtain ⟨hnodup, hfresh⟩ := ih hrest
    simp only [List.mem_cons, not_or] at hfresh
    refine ⟨List.nodup_cons.2 ⟨?_, hnodup⟩, List.forall_mem_cons.2 ⟨hi, fun j hj => (hfresh j hj).2⟩⟩
    intro hin
    obtain ⟨j, hj, hjk⟩ := List.mem_map.1 hin
    exact (hfresh j hj).1 hjk

lemma nodup_of_validateUpsertRequest {request : VectorUpsertRequest} {index : VectorIndexStatus}
    (h : validateUpsertRequest request index = .ok ()) :
    (request.items.map (·.key)).Nodup := by
  obtain ⟨⟨⟩, -, hitems⟩ := Attempt.bind_eq_ok.1 h
  refine (nodup_of_check (fun keys item items h => ?_) hitems).1
  unfold validateUpsertItems at h
  split_ifs at h with hmem
  obtain ⟨⟨⟩, -, hrest⟩ := Attempt.bind_eq_ok.1 h
  exact ⟨hmem, hrest⟩

lemma nodup_of_validateDeleteRequest {request : VectorDeleteRequest}
    (h : validateDeleteRequest request = .ok ()) : (request.items.map (·.key)).Nodup := by
  obtain ⟨⟨⟩, -, hitems⟩ := Attempt.bind_eq_ok.1 h
  refine (nodup_of_check (fun keys item items h => ?_) hitems).1
  unfold validateDeleteItems at h
  split_ifs at h with hmem
  exact ⟨hmem, h⟩

/-! ### The batch -/

section Submission

variable {P ι : Type} {V : VectorEngine P} {vectorSpace : String}
  {check : VectorIndexStatus → Except String Unit}
  {item : VectorIndexStatus → ι → Eff (Db P) Bool} {key : ι → VectorKey} {items : List ι}
  {Q : VectorIndexStatus → ι → List VectorRow → List VectorRow → Prop}

/-- What the checks and the items of the two kinds of batches have in common. -/
structure BatchLaws (V : VectorEngine P) (check : VectorIndexStatus → Except String Unit)
    (item : VectorIndexStatus → ι → Eff (Db P) Bool) (key : ι → VectorKey) (items : List ι)
    (Q : VectorIndexStatus → ι → List VectorRow → List VectorRow → Prop) : Prop where
  nodup : ∀ index, check index = .ok () → (items.map key).Nodup
  checkCounted : ∀ (index : VectorIndexStatus) n, check { index with vectorCount := n } = check index
  itemCounted : ∀ (index : VectorIndexStatus) n, item { index with vectorCount := n } = item index
  step : ∀ index, ∀ i ∈ items, ∀ d b d', KeysOnce (rowsOf V index d) →
    Runs (item index i) d b d' → ItemStep V index (key i) (Q index i) d d'
  idle : ∀ index, ∀ i ∈ items, ∀ before d, Q index i before (rowsAt (key i) (rowsOf V index d)) →
    Runs (item index i) d false d
  newer : ∀ index i before after, Q index i before after → ∀ r ∈ before, ∀ r' ∈ after,
    ∃ v v', r.sourceVersion = some v ∧ r'.sourceVersion = some v' ∧ v ≤ v'

/-- What a batch that succeeds has done, and that it finds it done when it is sent again. -/
structure Applied (V : VectorEngine P) (submit : Eff (Session (Db P)) VectorMutationResult)
    (vectorSpace : String) (keys : List VectorKey) (index : VectorIndexStatus)
    (Leaves : List VectorRow → List VectorRow → Prop) (s s' : Session (Db P))
    (result : VectorMutationResult) : Prop where
  size : result.applied + result.idempotent = keys.length
  leaves : Leaves (rowsOf V index s.now) (rowsOf V index s'.now)
  others : rowsBeside keys (rowsOf V index s'.now) = rowsBeside keys (rowsOf V index s.now)
  once : KeysOnce (rowsOf V index s'.now)
  monotone : ∀ r ∈ rowsOf V index s.now, ∀ r' ∈ rowsOf V index s'.now, r.key ≠ none →
    r'.key = r.key → ∀ v v', r.sourceVersion = some v → r'.sourceVersion = some v' → v ≤ v'
  counted : result.vectorCount = embedded (rowsOf V index s'.now) ∧
    foundIndex s'.now.cat vectorSpace =
      .ok { index with vectorCount := embedded (rowsOf V index s'.now) }
  again : (∀ d, V.refuse d = none) → ∃ result' s'', exec submit s' = (.ok result', s'') ∧
    result'.applied = 0 ∧ result'.idempotent = keys.length ∧ s''.now.phys = s'.now.phys

lemma exec_runBatch_of_active (V : VectorEngine P)
    (item : VectorIndexStatus → ι → Eff (Db P) Bool) (items : List ι)
    {index : VectorIndexStatus} {s : Session (Db P)}
    (hfound : foundIndex s.now.cat vectorSpace = .ok index) (hactive : index.buildStatus = .active)
    (hcheck : check index = .ok ()) :
    exec (runBatch V vectorSpace check item items) s =
      exec (runVectorTransaction V index (item index) items) s := by
  rw [exec_runBatch_of_found hfound, hcheck]
  simp only [ensure, hactive, beq_self_eq_true, if_true, exec_bind, exec_pure, exec_fromExcept]

/-- A batch fails and changes nothing, or its transaction succeeds. -/
lemma runBatch_cases (V : VectorEngine P) (vectorSpace : String)
    (check : VectorIndexStatus → Except String Unit)
    (item : VectorIndexStatus → ι → Eff (Db P) Bool) (items : List ι) (s : Session (Db P)) :
    (∃ e, exec (runBatch V vectorSpace check item items) s = (.error e, s)) ∨
      ∃ index result s', foundIndex s.now.cat vectorSpace = .ok index ∧
        index.buildStatus = .active ∧ check index = .ok () ∧
        Runs (runVectorTransaction V index (item index) items) s result s' ∧
        exec (runBatch V vectorSpace check item items) s = (.ok result, s') := by
  rcases hfound : foundIndex s.now.cat vectorSpace with e | index
  · refine Or.inl ⟨e, ?_⟩
    unfold runBatch
    rw [exec_bind, exec_lookup, hfound]
  by_cases hactive : index.buildStatus = .active
  · rcases hcheck : check index with e | ⟨⟩
    · refine Or.inl ⟨e, ?_⟩
      rw [exec_runBatch_of_found hfound]
      simp [ensure, exec_bind, hactive, hcheck]
    · rw [exec_runBatch_of_active V item items hfound hactive hcheck]
      rcases Session.exec_transact (vectorTransactions V) _ s with ⟨e, h⟩ | ⟨a, t, -, -, h⟩
      · exact Or.inl ⟨e, h⟩
      · exact Or.inr ⟨index, a, _, rfl, hactive, hcheck, h, h⟩
  · refine Or.inl ⟨indexStatusError index, ?_⟩
    rw [exec_runBatch_of_found hfound]
    simp [ensure, hactive]

lemma foundIndex_recounted {c : Catalog} {index : VectorIndexStatus} (n : ℤ)
    (h : foundIndex c vectorSpace = .ok index) :
    foundIndex (recounted index.indexOid n c) vectorSpace =
      .ok { index with vectorCount := n } := by
  unfold foundIndex at h ⊢
  rcases hrun : exec (vectorIndexStatus vectorSpace) c with ⟨r, c'⟩
  rw [hrun] at h
  simp only at h
  subst h
  obtain ⟨hne, hhead, -⟩ := runs_vectorIndexStatus.1 hrun
  have hcounted : Runs (vectorIndexStatus vectorSpace) (recounted index.indexOid n c)
      (index.counted index.indexOid n) (recounted index.indexOid n c) := by
    refine runs_vectorIndexStatus.2 ⟨hne, ?_, rfl⟩
    rw [vectorIndexRows_recounted, List.head?_map, hhead]
    rfl
  rw [hcounted]
  simp [VectorIndexStatus.counted]

/-- No version of a key decreases: a key of the batch has a newer version or the same, any other
key its old row. -/
lemma version_le_of_done (L : BatchLaws V check item key items Q) {index : VectorIndexStatus}
    {d d' : Db P} (honce : KeysOnce (rowsOf V index d))
    (hdone : ItemsDone V index key (Q index) items d d') {r r' : VectorRow}
    (hr : r ∈ rowsOf V index d) (hr' : r' ∈ rowsOf V index d') (hkey : r.key ≠ none)
    (hsame : r'.key = r.key) {v v' : ℤ} (hv : r.sourceVersion = some v)
    (hv' : r'.sourceVersion = some v') : v ≤ v' := by
  obtain ⟨k, hk⟩ := Option.ne_none_iff_exists'.1 hkey
  have hat : r ∈ rowsAt k (rowsOf V index d) := mem_rowsAt.2 ⟨hr, hk⟩
  have hat' : r' ∈ rowsAt k (rowsOf V index d') := mem_rowsAt.2 ⟨hr', hsame.trans hk⟩
  by_cases hin : k ∈ items.map key
  · obtain ⟨i, hi, rfl⟩ := List.mem_map.1 hin
    obtain ⟨w, w', hw, hw', hle⟩ := L.newer index i _ _ (hdone.done i hi) r hat r' hat'
    rw [hv] at hw
    rw [hv'] at hw'
    cases hw
    cases hw'
    exact hle
  · rw [rowsAt_of_beside hdone.beside hin] at hat'
    rw [honce.rowsAt_eq, Option.mem_toList] at hat hat'
    obtain rfl := Option.mem_unique hat hat'
    rw [hv] at hv'
    cases hv'
    exact le_refl v

/-- The batch sent again finds every item done. -/
lemma exec_runBatch_again (L : BatchLaws V check item key items Q) {index : VectorIndexStatus}
    {before : List VectorRow} {s : Session (Db P)} {n : ℤ} (hidle : s.saved = none)
    (hfound : foundIndex s.now.cat vectorSpace = .ok { index with vectorCount := n })
    (hactive : index.buildStatus = .active) (hcheck : check index = .ok ())
    (hdone : ∀ i ∈ items, Q index i (rowsAt (key i) before) (rowsAt (key i) (rowsOf V index s.now)))
    (hcommits : ∀ d, V.refuse d = none) :
    ∃ result s', exec (runBatch V vectorSpace check item items) s = (.ok result, s') ∧
      result.applied = 0 ∧ result.idempotent = items.length ∧ s'.now.phys = s.now.phys := by
  have hloop := runs_items_idle (0, 0) fun i hi => L.idle index i hi _ _ (hdone i hi)
  have hrun := (runs_runVectorTransaction V { index with vectorCount := n }).2
    ⟨hidle, _, _, hloop, rfl, rfl, hcommits _⟩
  have hbatch := exec_runBatch_of_active V item items hfound hactive
    ((L.checkCounted index n).trans hcheck)
  rw [L.itemCounted] at hbatch
  exact ⟨_, _, hbatch.trans hrun, rfl, Nat.zero_add _, rfl⟩

/-- A batch whose transaction succeeds has done what its items ask for. -/
lemma applied_of_runs (L : BatchLaws V check item key items Q) {index : VectorIndexStatus}
    {s s' : Session (Db P)} {result : VectorMutationResult}
    (hfound : foundIndex s.now.cat vectorSpace = .ok index) (hactive : index.buildStatus = .active)
    (hcheck : check index = .ok ()) (honce : KeysOnce (rowsOf V index s.now))
    (hrun : Runs (runVectorTransaction V index (item index) items) s result s') :
    Applied V (runBatch V vectorSpace check item items) vectorSpace (items.map key) index
      (fun rs rs' => ∀ i ∈ items, Q index i (rowsAt (key i) rs) (rowsAt (key i) rs')) s s'
      result := by
  obtain ⟨-, counts, t, hloop, rfl, rfl, -⟩ := (runs_runVectorTransaction V index).1 hrun
  obtain ⟨hdone, hcounts⟩ := itemsDone_of_runs (L.step index) (L.nodup index hcheck) honce hloop
  have hcounted : foundIndex (recounted index.indexOid (embedded (rowsOf V index t)) t.cat)
      vectorSpace = .ok { index with vectorCount := embedded (rowsOf V index t) } :=
    foundIndex_recounted _ (by rw [hdone.cat]; exact hfound)
  refine ⟨?_, hdone.done, hdone.beside, hdone.once, ?_, ⟨rfl, hcounted⟩, fun hcommits => ?_⟩
  · rw [List.length_map]
    simpa using hcounts
  · intro r hr r' hr' hkey hsame v v' hv hv'
    exact version_le_of_done L honce hdone hr hr' hkey hsame hv hv'
  · rw [List.length_map]
    exact exec_runBatch_again L rfl hcounted hactive hcheck hdone.done hcommits

end Submission

/-! ### The two kinds of batches -/

section Kinds

variable {P : Type} {V : VectorEngine P} {index : VectorIndexStatus} {d : Db P}

lemma find?_of_rowsAt {key : VectorKey} {rs ts : List VectorRow} (h : rowsAt key rs = ts) :
    rs.find? (·.key == some key) = ts.head? := by
  rw [← head?_rowsAt, h]

lemma runs_upsertVector_held {item : VectorUpsertItem} {r : VectorRow}
    (hrow : rowsAt item.key (rowsOf V index d) = [r])
    (hversion : r.version = .ok (item.sourceVersion, item.contentHash)) :
    Runs (upsertVector V index item) d false d := by
  unfold upsertVector
  rw [Runs, exec_bind_of_runs (runs_existingVectorVersion (find?_of_rowsAt hrow) hversion)]
  simp

lemma runs_deleteVector_absent {item : VectorDeleteItem}
    (hrow : rowsAt item.key (rowsOf V index d) = []) :
    Runs (deleteVector V index item) d false d := by
  unfold deleteVector
  rw [Runs, exec_bind_of_runs (runs_existingVectorVersion_none (find?_of_rowsAt hrow))]
  rfl

lemma upsert_laws (V : VectorEngine P) (request : VectorUpsertRequest) :
    BatchLaws V (validateUpsertRequest request) (upsertVector V) VectorUpsertItem.key request.items
      (Upserted V) where
  nodup _ h := nodup_of_validateUpsertRequest h
  checkCounted index n := by
    unfold validateUpsertRequest
    rw [validateUpsertItems_counted]
  itemCounted _ _ := rfl
  step _ _ _ _ _ _ honce h := upsertVector_step honce h
  idle _ item _ _ _ h := by
    rcases h with ⟨r, -, hrow, hversion, hhash⟩ | ⟨es, -, -, hrow, -⟩
    · exact runs_upsertVector_held hrow (version_eq_ok.2 ⟨hversion, hhash⟩)
    · exact runs_upsertVector_held hrow rfl
  newer _ item _ _ h r hr r' hr' := by
    rcases h with ⟨x, rfl, rfl, hversion, -⟩ | ⟨es, -, -, rfl, hnewer⟩
    · obtain rfl := List.mem_singleton.1 hr
      obtain rfl := List.mem_singleton.1 hr'
      exact ⟨_, _, hversion, hversion, le_refl _⟩
    · obtain rfl := List.mem_singleton.1 hr'
      obtain ⟨v, hv, hlt⟩ := hnewer r hr
      exact ⟨v, _, hv, rfl, hlt.le⟩

lemma delete_laws (V : VectorEngine P) (request : VectorDeleteRequest) :
    BatchLaws V (fun _ => validateDeleteRequest request) (deleteVector V) VectorDeleteItem.key
      request.items (fun _ => Deleted) where
  nodup _ h := nodup_of_validateDeleteRequest h
  checkCounted _ _ := rfl
  itemCounted _ _ := rfl
  step _ _ _ _ _ _ honce h := deleteVector_step honce h
  idle _ _ _ _ _ h := runs_deleteVector_absent h.absent
  newer _ _ _ _ h r hr r' hr' := by
    rw [h.absent] at hr'
    cases hr'

end Kinds

/-! ### Batches as they are sent -/

inductive VectorBatch
  | upsert (request : VectorUpsertRequest)
  | delete (request : VectorDeleteRequest)

namespace VectorBatch

variable {P : Type}

def vectorSpace : VectorBatch → String
  | .upsert request => request.vectorSpace
  | .delete request => request.vectorSpace

def keys : VectorBatch → List VectorKey
  | .upsert request => request.items.map VectorUpsertItem.key
  | .delete request => request.items.map VectorDeleteItem.key

def submit (V : VectorEngine P) : VectorBatch → Eff (Session (Db P)) VectorMutationResult
  | .upsert request => upsertVectorsBlocking V request
  | .delete request => deleteVectorsBlocking V request

/-- What the batch leaves at the keys of its items. -/
def Leaves (V : VectorEngine P) (index : VectorIndexStatus) (rs rs' : List VectorRow) :
    VectorBatch → Prop
  | .upsert request => ∀ item ∈ request.items,
      Upserted V index item (rowsAt item.key rs) (rowsAt item.key rs')
  | .delete request => ∀ item ∈ request.items,
      Deleted item (rowsAt item.key rs) (rowsAt item.key rs')

end VectorBatch

section Submit

variable {P : Type}

/-- **A batch is atomic, idempotent and monotone**: it fails and changes nothing, or it does what
its items ask for, and sent again it finds this done. -/
theorem submit_applied (V : VectorEngine P) (batch : VectorBatch) {s : Session (Db P)}
    (hunique : ∀ index, foundIndex s.now.cat batch.vectorSpace = .ok index →
      KeysOnce (rowsOf V index s.now)) :
    (∃ e, exec (batch.submit V) s = (.error e, s)) ∨
      ∃ index result s', exec (batch.submit V) s = (.ok result, s') ∧
        foundIndex s.now.cat batch.vectorSpace = .ok index ∧
        Applied V (batch.submit V) batch.vectorSpace batch.keys index
          (fun rs rs' => batch.Leaves V index rs rs') s s' result := by
  rcases batch with request | request
  · rcases runBatch_cases V request.vectorSpace (validateUpsertRequest request) (upsertVector V)
      request.items s with h | ⟨index, result, s', hfound, hactive, hcheck, hrun, h⟩
    · exact Or.inl h
    · exact Or.inr ⟨index, result, s', h, hfound,
        applied_of_runs (upsert_laws V request) hfound hactive hcheck (hunique index hfound) hrun⟩
  · rcases runBatch_cases V request.vectorSpace (fun _ => validateDeleteRequest request)
      (deleteVector V) request.items s with h | ⟨index, result, s', hfound, hactive, hcheck, hrun, h⟩
    · exact Or.inl h
    · exact Or.inr ⟨index, result, s', h, hfound,
        applied_of_runs (delete_laws V request) hfound hactive hcheck (hunique index hfound) hrun⟩

end Submit

/-! ### A vector that is there with its version -/

/-- The rows of three memories, of which one is not embedded, and a row that has no memory. -/
def heldRows : List VectorRow :=
  [upsertV7.row [0x3f800000#32],
    ⟨some 1, some 1, some 4, some 3, some "h3", none⟩,
    ⟨some 1, some 2, some 5, some 9, some "h9", some [some 0x3f800000#32]⟩,
    ⟨some 1, some 1, none, none, none, none⟩]

lemma keysOnce_heldRows : KeysOnce heldRows := by
  unfold KeysOnce
  decide

def heldSession : Session (Db (List VectorRow)) := ⟨⟨memoryCatalog, heldRows⟩, none⟩

/-- One item is there already, one is newer than its row, one has a new key. -/
def threeItems : VectorBatch :=
  .upsert ⟨"memory", [upsertV7, ⟨1, 1, 4, 8, "h8", [0x3f800000#32]⟩,
    ⟨1, 1, 6, 0, "h0", [0x3f800000#32]⟩]⟩

theorem submit_applied_threeItems : ∃ index result s',
    exec (threeItems.submit oneTable) heldSession = (.ok result, s') ∧
      foundIndex heldSession.now.cat threeItems.vectorSpace = .ok index ∧
      Applied oneTable (threeItems.submit oneTable) threeItems.vectorSpace threeItems.keys index
        (fun rs rs' => threeItems.Leaves oneTable index rs rs') heldSession s' result := by
  have hok : (exec (threeItems.submit oneTable) heldSession).1.isOk = true := by decide
  rcases submit_applied oneTable threeItems (s := heldSession)
    (fun _ _ => keysOnce_heldRows) with ⟨e, he⟩ | h
  · rw [he] at hok
    cases hok
  · exact h

/-- The version and hash that are there, with another vector. -/
def otherVectorV7 : VectorUpsertItem := { upsertV7 with embedding := [0x40000000#32] }

/-- Such an upsert is answered as done, and its vector is neither there nor stored. -/
theorem submit_otherVectorV7 : ∃ result s',
    exec ((VectorBatch.upsert ⟨"memory", [otherVectorV7]⟩).submit oneTable) heldSession =
        (.ok result, s') ∧ KeysOnce (rowsOf oneTable memoryIndex heldSession.now) ∧
      ∀ r ∈ rowsOf oneTable memoryIndex heldSession.now ++ rowsOf oneTable memoryIndex s'.now,
        r.key = some otherVectorV7.key →
          r.embedding ≠ some (otherVectorV7.embedding.map some) := by
  have hrow : rowsAt otherVectorV7.key (rowsOf oneTable memoryIndex heldSession.now) =
      [upsertV7.row [0x3f800000#32]] := by decide
  have hidle : ∀ i ∈ [otherVectorV7], Runs (upsertVector oneTable memoryIndex i) heldSession.now
      false heldSession.now := by
    intro i hi
    obtain rfl := List.mem_singleton.1 hi
    exact runs_upsertVector_held hrow rfl
  have hrun := (runs_runVectorTransaction oneTable memoryIndex).2
    ⟨rfl, _, _, runs_items_idle (0, 0) hidle, rfl, rfl, rfl⟩
  have hfound : foundIndex heldSession.now.cat "memory" = .ok memoryIndex := by decide
  have hcheck : validateUpsertRequest ⟨"memory", [otherVectorV7]⟩ memoryIndex = .ok () := rfl
  have hbatch := exec_runBatch_of_active oneTable (upsertVector oneTable) [otherVectorV7] hfound rfl
    hcheck
  refine ⟨_, _, hbatch.trans hrun, keysOnce_heldRows, ?_⟩
  change ∀ r ∈ heldRows ++ heldRows, _
  decide

end Rsduck.Db
