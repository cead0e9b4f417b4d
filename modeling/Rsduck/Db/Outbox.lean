import Mathlib.Data.Int.Order.Basic
import Rsduck.Db.VectorTable
import Rsduck.Lib.Register

/-!
Delivering outbox events to the vector table.

An event is a batch of one item; whatever the service answers, the consumer goes on. For each
key the table behaves as a register that keeps the version of what it holds and forgets the
version of what it deleted.
-/

namespace Rsduck.Db

open Lib Lib.Eff Catalog Rsduck.Db

inductive VectorEvent
  | upsert (item : VectorUpsertItem)
  | delete (item : VectorDeleteItem)
  deriving DecidableEq

namespace VectorEvent

def key : VectorEvent → VectorKey
  | .upsert item => item.key
  | .delete item => item.key

def version : VectorEvent → ℤ
  | .upsert item => item.sourceVersion
  | .delete item => item.sourceVersion

/-- The service finds nothing wrong with the event's request. -/
def Valid (vectorSpace : String) (index : VectorIndexStatus) : VectorEvent → Prop
  | .upsert item => validateUpsertRequest ⟨vectorSpace, [item]⟩ index = .ok ()
  | .delete item => validateDeleteRequest ⟨vectorSpace, [item]⟩ = .ok ()

end VectorEvent

/-- The two numbers are equal; a zero has two signs. -/
def SameNumber (a b : F32) : Prop := a = b ∨ f32.isZero a = true ∧ f32.isZero b = true

/-- Casting the text of the vector gives back its numbers. -/
def CastExact {P : Type} (V : VectorEngine P) (index : VectorIndexStatus) (embedding : List F32) :
    Prop :=
  ∀ text, vectorText index embedding = .ok text →
    ∃ es, V.castFloatArray text = .ok es ∧ embedding.Forall₂ SameNumber es

section Delivery

variable {P : Type} (V : VectorEngine P) (vectorSpace : String)

/-- The consumer sends one event and does not look at an error. -/
def deliver (s : Session (Db P)) : VectorEvent → Session (Db P)
  | .upsert item => (exec (upsertVectorsBlocking V ⟨vectorSpace, [item]⟩) s).2
  | .delete item => (exec (deleteVectorsBlocking V ⟨vectorSpace, [item]⟩) s).2

def deliverAll (s : Session (Db P)) (events : List VectorEvent) : Session (Db P) :=
  events.foldl (deliver V vectorSpace) s

/-- The stored state of a key. -/
def storedRows (index : VectorIndexStatus) (s : Session (Db P)) (key : VectorKey) :
    List VectorRow :=
  (rowsOf V index s.now).filter (·.key == some key)

/-- The connection is outside a transaction and the vector space has this active index. -/
structure Ready (index : VectorIndexStatus) (s : Session (Db P)) : Prop where
  idle : s.saved = none
  named : (Text.trimString vectorSpace != "") = true
  found : ∃ n, (vectorIndexRows s.now.cat (Text.trimString vectorSpace)).head? =
    some { index with vectorCount := n }
  active : index.buildStatus = .active
  sized : 0 < index.dimension

/-- What the cast makes of an item's vector. -/
def storedEmbedding (index : VectorIndexStatus) (item : VectorUpsertItem) : List F32 :=
  ((vectorText index item.embedding).bind V.castFloatArray).toOption.getD []

variable {V vectorSpace} {index : VectorIndexStatus}

/-! ### One item -/

lemma validateUpsertItem_ok {item : VectorUpsertItem} (h : validateUpsertItem index item = .ok ()) :
    item.embedding.length = index.dimension ∧
      item.embedding.find? (fun value => !f32.isFinite value) = none := by
  unfold validateUpsertItem at h
  rcases hf : item.embedding.find? fun value => !f32.isFinite value with _ | value
  · split_ifs at h with h1 h2 h3
    all_goals exact ⟨by simpa using h3, rfl⟩
  · simp only [hf] at h
    split_ifs at h

lemma validateUpsertItem_of_valid {item : VectorUpsertItem}
    (h : (VectorEvent.upsert item).Valid vectorSpace index) :
    validateUpsertItem index item = .ok () := by
  change validateUpsertRequest ⟨vectorSpace, [item]⟩ index = .ok () at h
  simp only [validateUpsertRequest, validateUpsertItems, List.not_mem_nil, if_false] at h
  rcases hb : validateBatch vectorSpace [item].length with e | ⟨⟩
  · rw [hb] at h
    cases h
  · rcases hi : validateUpsertItem index item with e | ⟨⟩
    · rw [hb, hi] at h
      cases h
    · rfl

/-- The vector of a valid item is stored as the numbers the item has. -/
lemma storedEmbedding_spec {item : VectorUpsertItem} (hV : CastExact V index item.embedding)
    (hdim : 0 < index.dimension) (h : (VectorEvent.upsert item).Valid vectorSpace index) :
    (vectorText index item.embedding).bind V.castFloatArray = .ok (storedEmbedding V index item) ∧
      item.embedding.Forall₂ SameNumber (storedEmbedding V index item) := by
  obtain ⟨hlen, hfin⟩ := validateUpsertItem_ok (validateUpsertItem_of_valid h)
  have hne : item.embedding ≠ [] := by
    intro h0
    rw [h0] at hlen
    simp at hlen
    omega
  obtain ⟨text, ht⟩ : ∃ text, vectorText index item.embedding = .ok text := by
    simp [vectorText, sqlParamLiteral, hne, hfin, bind, Except.bind, pure, Except.pure]
  obtain ⟨es, hes, hsame⟩ := hV text ht
  have hst : storedEmbedding V index item = es := by
    simp [storedEmbedding, ht, hes, Except.bind, Except.toOption]
  rw [hst, ht]
  exact ⟨hes, hsame⟩

/-! ### One event -/

/-- The rows of the key make way for `new`. -/
def replaceKey (rs : List VectorRow) (key : VectorKey) (new : List VectorRow) : List VectorRow :=
  rs.filter (fun r => r.key != some key) ++ new

/-- The rows of the table after an upsert. -/
def upsertedRows (V : VectorEngine P) (index : VectorIndexStatus) (rs : List VectorRow)
    (item : VectorUpsertItem) : List VectorRow :=
  match rs.find? (·.key == some item.key) with
  | none => rs ++ [item.row (storedEmbedding V index item)]
  | some r => match r.version with
    | .error _ => rs
    | .ok (version, _) =>
      if version < item.sourceVersion then
        replaceKey rs item.key [item.row (storedEmbedding V index item)]
      else rs

/-- The rows of the table after a deletion. -/
def deletedRows (rs : List VectorRow) (item : VectorDeleteItem) : List VectorRow :=
  match rs.find? (·.key == some item.key) with
  | none => rs
  | some r => match r.version with
    | .error _ => rs
    | .ok (version, _) =>
      if item.sourceVersion < version then rs else replaceKey rs item.key []

/-- The outcome of one item: an error over unchanged rows, or a run that leaves the catalog
alone and the table with the given rows. -/
def Leaves (V : VectorEngine P) (index : VectorIndexStatus) (m : Eff (Db P) Bool) (d : Db P)
    (rs : List VectorRow) : Prop :=
  (∃ e d', exec m d = (.error e, d') ∧ rowsOf V index d = rs) ∨
    ∃ b d', Runs m d b d' ∧ d'.cat = d.cat ∧ rowsOf V index d' = rs

lemma upsertedRows_of_none {rs : List VectorRow} {item : VectorUpsertItem}
    (h : rs.find? (·.key == some item.key) = none) :
    upsertedRows V index rs item = rs ++ [item.row (storedEmbedding V index item)] := by
  simp only [upsertedRows, h]

lemma upsertedRows_of_unreadable {rs : List VectorRow} {item : VectorUpsertItem} {r : VectorRow}
    {e : String} (h : rs.find? (·.key == some item.key) = some r) (hv : r.version = .error e) :
    upsertedRows V index rs item = rs := by
  simp only [upsertedRows, h, hv]

lemma upsertedRows_of_some {rs : List VectorRow} {item : VectorUpsertItem} {r : VectorRow}
    {v : ℤ × String} (h : rs.find? (·.key == some item.key) = some r) (hv : r.version = .ok v) :
    upsertedRows V index rs item =
      if v.1 < item.sourceVersion then
        replaceKey rs item.key [item.row (storedEmbedding V index item)]
      else rs := by
  simp only [upsertedRows, h, hv]

lemma deletedRows_of_none {rs : List VectorRow} {item : VectorDeleteItem}
    (h : rs.find? (·.key == some item.key) = none) : deletedRows rs item = rs := by
  simp only [deletedRows, h]

lemma deletedRows_of_unreadable {rs : List VectorRow} {item : VectorDeleteItem} {r : VectorRow}
    {e : String} (h : rs.find? (·.key == some item.key) = some r) (hv : r.version = .error e) :
    deletedRows rs item = rs := by
  simp only [deletedRows, h, hv]

lemma deletedRows_of_some {rs : List VectorRow} {item : VectorDeleteItem} {r : VectorRow}
    {v : ℤ × String} (h : rs.find? (·.key == some item.key) = some r) (hv : r.version = .ok v) :
    deletedRows rs item =
      if item.sourceVersion < v.1 then rs else replaceKey rs item.key [] := by
  simp only [deletedRows, h, hv]

/-- A stored row that cannot be read ends the batch. -/
lemma exec_existingVectorVersion_error {d : Db P} {key : VectorKey} {r : VectorRow} {e : String}
    (h : (rowsOf V index d).find? (·.key == some key) = some r) (hv : r.version = .error e) :
    exec (existingVectorVersion V index key) d = (.error e, d) := by
  rw [exec_existingVectorVersion, h]
  simp only [hv, Except.map]

lemma upsertVector_leaves {item : VectorUpsertItem} (hkeys : KeyedBy V index keyColumns)
    (h : (vectorText index item.embedding).bind V.castFloatArray =
      .ok (storedEmbedding V index item)) (d : Db P) :
    Leaves V index (upsertVector V index item) d
      (upsertedRows V index (rowsOf V index d) item) := by
  rcases ho : (rowsOf V index d).find? (·.key == some item.key) with _ | r
  · rw [upsertedRows_of_none ho]
    refine Or.inr ⟨true, _, runs_bind.2 ⟨_, d, runs_existingVectorVersion_none ho, ?_⟩,
      cat_withRows _ _ _ _, rowsOf_withRows _ _ _ _⟩
    have hfree : ∀ r ∈ rowsOf V index d, r.key ≠ some item.key := fun r hr => by
      simpa using List.find?_eq_none.1 ho r hr
    exact runs_bind.2 ⟨(), _, runs_insertVectorRow hkeys h hfree, runs_pure.2 ⟨rfl, rfl⟩⟩
  rcases hv : r.version with e | ⟨version, hash⟩
  · refine Or.inl ⟨e, d, ?_, (upsertedRows_of_unreadable ho hv).symm⟩
    rw [upsertVector, exec_bind, exec_existingVectorVersion_error ho hv]
  · rw [upsertedRows_of_some ho hv]
    have hrun := runs_existingVectorVersion ho hv
    rcases lt_trichotomy item.sourceVersion version with hlt | heq | hgt
    · -- stale: refused
      refine Or.inl ⟨staleSourceVersion item.memoryId version item.sourceVersion, d,
        (exec_bind_of_runs hrun).trans ?_, ?_⟩
      · simp [hlt]
      · simp [hlt.not_gt]
    · by_cases hh : hash = item.contentHash
      · refine Or.inr ⟨false, d, (exec_bind_of_runs hrun).trans ?_, rfl, by simp [heq]⟩
        simp [heq, hh]
      · refine Or.inl ⟨"SOURCE_VERSION_CONFLICT: memory_id=" ++ toString item.memoryId ++
          " has different content_hash for version " ++ toString item.sourceVersion, d,
          (exec_bind_of_runs hrun).trans ?_, by simp [heq]⟩
        simp [heq, hh]
    · have hdelete := runs_deleteVectorRow V index d item.key
      have hfree : ∀ r ∈ rowsOf V index (withRows V index d
          ((rowsOf V index d).filter fun r => r.key != some item.key)), r.key ≠ some item.key := by
        simp
      have hinsert := runs_insertVectorRow hkeys h hfree
      rw [rowsOf_withRows] at hinsert
      refine Or.inr ⟨true, withRows V index (withRows V index d
          ((rowsOf V index d).filter fun r => r.key != some item.key)) (replaceKey (rowsOf V index d)
            item.key [item.row (storedEmbedding V index item)]),
        (exec_bind_of_runs hrun).trans ?_, rfl, ?_⟩
      · simp only [hgt.not_gt, hgt.ne, if_false]
        exact runs_bind.2 ⟨(), _, hdelete, runs_bind.2 ⟨(), _, hinsert, runs_pure.2 ⟨rfl, rfl⟩⟩⟩
      · rw [rowsOf_withRows, if_pos hgt]

lemma deleteVector_leaves (V : VectorEngine P) (index : VectorIndexStatus) (item : VectorDeleteItem)
    (d : Db P) :
    Leaves V index (deleteVector V index item) d (deletedRows (rowsOf V index d) item) := by
  rcases ho : (rowsOf V index d).find? (·.key == some item.key) with _ | r
  · rw [deletedRows_of_none ho]
    exact Or.inr ⟨false, d, runs_bind.2 ⟨_, d, runs_existingVectorVersion_none ho,
      runs_pure.2 ⟨rfl, rfl⟩⟩, rfl, rfl⟩
  rcases hv : r.version with e | ⟨version, hash⟩
  · refine Or.inl ⟨e, d, ?_, (deletedRows_of_unreadable ho hv).symm⟩
    rw [deleteVector, exec_bind, exec_existingVectorVersion_error ho hv]
  · rw [deletedRows_of_some ho hv]
    have hrun := runs_existingVectorVersion ho hv
    by_cases hlt : item.sourceVersion < version
    · refine Or.inl ⟨staleSourceVersion item.memoryId version item.sourceVersion, d,
        (exec_bind_of_runs hrun).trans ?_, ?_⟩
      · simp [hlt]
      · simp [hlt]
    · have hdelete := runs_deleteVectorRow V index d item.key
      refine Or.inr ⟨true, withRows V index d
          ((rowsOf V index d).filter fun r => r.key != some item.key),
        (exec_bind_of_runs hrun).trans ?_, rfl, (rowsOf_withRows V index _ _).trans ?_⟩
      · simp only [hlt, if_false]
        exact runs_bind.2 ⟨(), _, hdelete, runs_pure.2 ⟨rfl, rfl⟩⟩
      · simp [hlt, replaceKey]

/-! ### One transaction -/

lemma vectorIndexRows_recounted (c : Catalog) (indexOid n : ℤ) :
    vectorIndexRows (recounted indexOid n c) vectorSpace =
      (vectorIndexRows c vectorSpace).map (.counted indexOid n) :=
  vectorIndexRows_setVectorCount c vectorSpace indexOid n

/-- A transaction of one item leaves the table as the item does. -/
lemma runVectorTransaction_leaves {ι : Type} {item : ι → Eff (Db P) Bool} {i : ι}
    (index : VectorIndexStatus) {s : Session (Db P)} {rs : List VectorRow} (hidle : s.saved = none)
    (hrefuse : ∀ d, V.refuse d = none) (h : Leaves V index (item i) s.now rs) :
    ∃ s', (exec (runVectorTransaction V index item [i]) s).2 = s' ∧ s'.saved = none ∧
      rowsOf V index s'.now = rs ∧
      (s'.now.cat = s.now.cat ∨ ∃ n, s'.now.cat = recounted index.indexOid n s.now.cat) := by
  refine ⟨_, rfl, ?_⟩
  rcases h with ⟨e, d', he, hrs⟩ | ⟨b, d', hb, hcat, hrs⟩
  · have herr : (exec (runVectorTransaction V index item [i]) s).2 = s := by
      refine Session.exec_transact_error (e := e) (t := d') ?_
      simp only [List.foldlM_cons, List.foldlM_nil, exec_bind, he]
    rw [herr]
    exact ⟨hidle, hrs, Or.inl rfl⟩
  · have hn := runs_updateVectorCount V index d'
    set n := embedded (rowsOf V index d')
    have hrun : exec (runVectorTransaction V index item [i]) s =
        (.ok { vectorSpace := index.vectorSpace, applied := (countItem (0, 0) b).1
               idempotent := (countItem (0, 0) b).2, vectorCount := n },
          { s with now := { d' with cat := recounted index.indexOid n d'.cat } }) := by
      refine Session.exec_transact_ok hidle ?_ (hrefuse _)
      refine runs_bind.2 ⟨countItem (0, 0) b, d', ?_, runs_bind.2 ⟨n, _, hn, runs_pure.2 ⟨rfl, rfl⟩⟩⟩
      rw [List.foldlM_cons]
      exact runs_bind.2 ⟨countItem (0, 0) b, d', runs_bind.2 ⟨b, d', hb, runs_pure.2 ⟨rfl, rfl⟩⟩,
        runs_pure.2 ⟨rfl, rfl⟩⟩
    rw [hrun]
    exact ⟨hidle, hrs, Or.inr ⟨n, by rw [hcat]⟩⟩

lemma Ready.of_now {s s' : Session (Db P)} (h : Ready vectorSpace index s) (hidle : s'.saved = none)
    (hcat : s'.now.cat = s.now.cat ∨ ∃ n, s'.now.cat = recounted index.indexOid n s.now.cat) :
    Ready vectorSpace index s' := by
  refine ⟨hidle, h.named, ?_, h.active, h.sized⟩
  rcases hcat with hcat | ⟨n, hcat⟩
  · rw [hcat]
    exact h.found
  · obtain ⟨m, hm⟩ := h.found
    rw [hcat, vectorIndexRows_recounted, List.head?_map, hm]
    exact ⟨n, by simp [VectorIndexStatus.counted]⟩

/-- The engine casts the vectors of these events exactly and refuses no commit, and no unique
constraint of the table refuses a new key. -/
structure Reliable (V : VectorEngine P) (index : VectorIndexStatus) (events : List VectorEvent) :
    Prop where
  casts : ∀ item, .upsert item ∈ events → CastExact V index item.embedding
  commits : ∀ d, V.refuse d = none
  keyed : KeyedBy V index keyColumns

lemma Reliable.mono {events events' : List VectorEvent} (h : Reliable V index events)
    (hsub : ∀ e ∈ events', e ∈ events) : Reliable V index events' :=
  ⟨fun item hi => h.casts item (hsub _ hi), h.commits, h.keyed⟩

/-- The rows of the table after an event. -/
def VectorEvent.apply (V : VectorEngine P) (index : VectorIndexStatus) (rs : List VectorRow) :
    VectorEvent → List VectorRow
  | .upsert item => upsertedRows V index rs item
  | .delete item => deletedRows rs item

/-- **One delivery**: the table changes as the event says and the next one can follow. -/
lemma deliver_spec {event : VectorEvent} (hV : Reliable V index [event]) {s : Session (Db P)}
    (hs : Ready vectorSpace index s) (hvalid : event.Valid vectorSpace index) :
    Ready vectorSpace index (deliver V vectorSpace s event) ∧
      rowsOf V index (deliver V vectorSpace s event).now =
        event.apply V index (rowsOf V index s.now) := by
  obtain ⟨n, hn⟩ := hs.found
  have hstatus : Runs (Session.statement (onCatalog (vectorIndexStatus vectorSpace))) s
      { index with vectorCount := n } s :=
    Session.exec_statement_ok (runs_onCatalog.2 ⟨runs_vectorIndexStatus.2 ⟨hs.named, hn, rfl⟩, rfl⟩)
  have hactive : Runs (ensure ((({ index with vectorCount := n } : VectorIndexStatus).buildStatus ==
      .active)) (indexStatusError { index with vectorCount := n })) s () s :=
    runs_ensure.2 ⟨by simp [hs.active], rfl⟩
  rcases event with item | item
  · have hitem := storedEmbedding_spec (hV.casts item (by simp)) hs.sized hvalid
    obtain ⟨s', he, hidle, hrows, hcat⟩ := runVectorTransaction_leaves
      { index with vectorCount := n } hs.idle hV.commits (i := item) (upsertVector_leaves hV.keyed hitem.1 s.now)
    have hrequest : validateUpsertRequest ⟨vectorSpace, [item]⟩ { index with vectorCount := n } =
        .ok () := hvalid
    have hs' : deliver V vectorSpace s (.upsert item) = s' := by
      refine (congrArg Prod.snd ?_).trans he
      exact (exec_bind_of_runs hstatus).trans ((exec_bind_of_runs hactive).trans
        (exec_bind_of_runs (runs_fromExcept.2 ⟨hrequest, rfl⟩)))
    rw [hs']
    exact ⟨hs.of_now hidle hcat, hrows⟩
  · obtain ⟨s', he, hidle, hrows, hcat⟩ := runVectorTransaction_leaves
      { index with vectorCount := n } hs.idle hV.commits (i := item) (deleteVector_leaves V index item s.now)
    have hs' : deliver V vectorSpace s (.delete item) = s' := by
      refine (congrArg Prod.snd ?_).trans he
      exact (exec_bind_of_runs hstatus).trans ((exec_bind_of_runs hactive).trans
        (exec_bind_of_runs (runs_fromExcept.2 ⟨hvalid, rfl⟩)))
    rw [hs']
    exact ⟨hs.of_now hidle hcat, hrows⟩

/-! ### The register of a key -/

/-- An event as a delivery to the register of its key. -/
def VectorEvent.delivery (V : VectorEngine P) (index : VectorIndexStatus) :
    VectorEvent → Register.Delivery ℤ VectorRow
  | .upsert item => .put item.sourceVersion (item.row (storedEmbedding V index item))
  | .delete item => .erase item.sourceVersion

/-- The rows of a key are what its register holds, and the service can read their version. -/
def Holds (key : VectorKey) (rs : List VectorRow) (held : Option (ℤ × VectorRow)) : Prop :=
  rs.filter (·.key == some key) = held.toList.map Prod.snd ∧
    ∀ w r, held = some (w, r) → ∃ hash, r.version = .ok (w, hash)

lemma filter_replaceKey_self (rs : List VectorRow) (key : VectorKey) (new : List VectorRow) :
    (replaceKey rs key new).filter (·.key == some key) = new.filter (·.key == some key) := by
  simp [replaceKey, List.filter_append, List.filter_filter]

lemma filter_replaceKey_of_ne (rs : List VectorRow) {key key' : VectorKey} (h : key' ≠ key)
    {new : List VectorRow} (hnew : ∀ r ∈ new, r.key = some key') :
    (replaceKey rs key' new).filter (·.key == some key) = rs.filter (·.key == some key) := by
  have hnil : new.filter (·.key == some key) = [] :=
    List.filter_eq_nil_iff.2 fun r hr => by simp [hnew r hr, h]
  rw [replaceKey, List.filter_append, hnil, List.append_nil, List.filter_filter]
  refine List.filter_congr fun r _ => ?_
  by_cases hr : r.key = some key
  · simp [hr, h.symm]
  · simp [hr]

/-- The row a lookup finds is the one the register holds. -/
lemma Holds.find? {key : VectorKey} {rs : List VectorRow} {held : Option (ℤ × VectorRow)}
    (h : Holds key rs held) : rs.find? (·.key == some key) = held.map Prod.snd := by
  rw [← List.head?_filter, h.1]
  cases held <;> rfl

lemma Holds.put {key : VectorKey} {rs : List VectorRow} {r : VectorRow} {w : ℤ}
    {hash : String} (hrows : rs.filter (·.key == some key) = [r]) (hw : r.version = .ok (w, hash)) :
    Holds key rs (some (w, r)) :=
  ⟨hrows, by rintro w' r' h; cases h; exact ⟨hash, hw⟩⟩

/-- The register of the event's key takes the delivery. -/
lemma Holds.apply {key : VectorKey} {rs : List VectorRow} {held : Option (ℤ × VectorRow)}
    (h : Holds key rs held) {event : VectorEvent} (hk : event.key = key) :
    Holds key (event.apply V index rs) (Register.deliver held (event.delivery V index)) := by
  subst hk
  rcases event with item | item
  · have hrow : (item.row (storedEmbedding V index item)).key = some item.key := rfl
    have hversion : (item.row (storedEmbedding V index item)).version =
        .ok (item.sourceVersion, item.contentHash) := rfl
    rcases held with _ | ⟨w, r⟩
    · have h : Holds item.key rs none := h
      refine Holds.put ?_ hversion
      change (upsertedRows V index rs item).filter (·.key == some item.key) = _
      rw [upsertedRows_of_none h.find?, List.filter_append, h.1]
      simp [hrow]
    · obtain ⟨hash, hw⟩ := h.2 w r rfl
      simp only [VectorEvent.apply, VectorEvent.delivery, Register.deliver,
        upsertedRows_of_some h.find? hw]
      split_ifs
      · refine Holds.put ?_ hversion
        change (replaceKey rs item.key _).filter (·.key == some item.key) = _
        rw [filter_replaceKey_self]
        simp [hrow]
      · exact h
  · rcases held with _ | ⟨w, r⟩
    · rw [VectorEvent.apply, deletedRows_of_none h.find?]
      exact h
    · obtain ⟨hash, hw⟩ := h.2 w r rfl
      simp only [VectorEvent.apply, VectorEvent.delivery, Register.deliver,
        deletedRows_of_some h.find? hw]
      split_ifs
      · exact h
      · refine ⟨?_, by simp⟩
        change (replaceKey rs item.key []).filter (·.key == some item.key) = _
        rw [filter_replaceKey_self]
        rfl

/-- Other registers stay as they are. -/
lemma Holds.apply_of_ne {key : VectorKey} {rs : List VectorRow} {held : Option (ℤ × VectorRow)}
    (h : Holds key rs held) {event : VectorEvent} (hk : event.key ≠ key) :
    Holds key (event.apply V index rs) held := by
  refine ⟨Eq.trans ?_ h.1, h.2⟩
  rcases event with item | item
  · have hk' : item.key ≠ key := hk
    have hrow : (item.row (storedEmbedding V index item)).key = some item.key := rfl
    rcases ho : rs.find? (·.key == some item.key) with _ | r
    · rw [VectorEvent.apply, upsertedRows_of_none ho, List.filter_append]
      simp [hrow, hk']
    rcases hv : r.version with e | v
    · rw [VectorEvent.apply, upsertedRows_of_unreadable ho hv]
    · rw [VectorEvent.apply, upsertedRows_of_some ho hv]
      split_ifs
      · exact filter_replaceKey_of_ne rs hk' (by simp [hrow])
      · rfl
  · rcases ho : rs.find? (·.key == some item.key) with _ | r
    · rw [VectorEvent.apply, deletedRows_of_none ho]
    rcases hv : r.version with e | v
    · rw [VectorEvent.apply, deletedRows_of_unreadable ho hv]
    · rw [VectorEvent.apply, deletedRows_of_some ho hv]
      split_ifs
      · rfl
      · exact filter_replaceKey_of_ne rs hk (by simp)

/-- The deliveries to the register of a key. -/
def deliveriesOf (V : VectorEngine P) (index : VectorIndexStatus) (key : VectorKey)
    (events : List VectorEvent) : List (Register.Delivery ℤ VectorRow) :=
  (events.filter (·.key == key)).map (·.delivery V index)

/-- **All deliveries**: the register of a key takes the events of that key, in their order. -/
lemma deliverAll_spec (key : VectorKey) {events : List VectorEvent}
    (hV : Reliable V index events) (hvalid : ∀ e ∈ events, e.Valid vectorSpace index)
    {s : Session (Db P)} (hs : Ready vectorSpace index s) (held : Option (ℤ × VectorRow))
    (h : Holds key (rowsOf V index s.now) held) :
    Holds key (rowsOf V index (deliverAll V vectorSpace s events).now)
      (Register.run held (deliveriesOf V index key events)) := by
  induction events generalizing s held with
  | nil => exact h
  | cons e events ih =>
    obtain ⟨hs', hrows⟩ := deliver_spec (hV.mono (by simp)) hs (hvalid e (by simp))
    have ih := ih (hV.mono fun f hf => by simp [hf]) (fun f hf => hvalid f (by simp [hf])) hs'
    by_cases hk : e.key = key
    · have hcons : deliveriesOf V index key (e :: events) =
          e.delivery V index :: deliveriesOf V index key events := by
        simp [deliveriesOf, hk]
      rw [hcons, Register.run_cons]
      exact ih _ (by rw [hrows]; exact h.apply hk)
    · have hcons : deliveriesOf V index key (e :: events) = deliveriesOf V index key events := by
        simp [deliveriesOf, hk]
      rw [hcons]
      exact ih _ (by rw [hrows]; exact h.apply_of_ne hk)

/-! ### Convergence -/

/-- The stored state of the event's key is what the event alone says. -/
def Settled (V : VectorEngine P) (index : VectorIndexStatus) (s : Session (Db P)) :
    VectorEvent → Prop
  | .upsert item =>
    ∃ r es, storedRows V index s item.key = [r] ∧ r.sourceVersion = some item.sourceVersion ∧
      r.contentHash = some item.contentHash ∧ r.embedding = some (es.map some) ∧
      item.embedding.Forall₂ SameNumber es
  | .delete item => storedRows V index s item.key = []

lemma deliveriesOf_append (key : VectorKey) (a b : List VectorEvent) :
    deliveriesOf V index key (a ++ b) = deliveriesOf V index key a ++ deliveriesOf V index key b := by
  simp [deliveriesOf]

lemma deliveriesOf_cons {key : VectorKey} {e : VectorEvent} (hk : e.key = key)
    (b : List VectorEvent) :
    deliveriesOf V index key (e :: b) = e.delivery V index :: deliveriesOf V index key b := by
  simp [deliveriesOf, hk]

lemma version_delivery (V : VectorEngine P) (index : VectorIndexStatus) (e : VectorEvent) : (e.delivery V index).version = e.version := by
  cases e <;> rfl

lemma mem_deliveriesOf {key : VectorKey} {events : List VectorEvent}
    {d : Register.Delivery ℤ VectorRow} :
    d ∈ deliveriesOf V index key events ↔
      ∃ e ∈ events, e.key = key ∧ e.delivery V index = d := by
  simp [deliveriesOf, and_assoc]

/-- A delivery among those of a key is an event of that key among the events. -/
lemma deliveriesOf_eq_append_cons {key : VectorKey} {events : List VectorEvent}
    {a b : List (Register.Delivery ℤ VectorRow)} {d : Register.Delivery ℤ VectorRow}
    (h : deliveriesOf V index key events = a ++ d :: b) :
    ∃ a' e b', events = a' ++ e :: b' ∧ e.key = key ∧ e.delivery V index = d ∧
      deliveriesOf V index key b' = b := by
  obtain ⟨l₁, l₂, hl, -, hl₂⟩ := List.map_eq_append_iff.1 h
  obtain ⟨e, l₃, rfl, he, hb⟩ := List.map_eq_cons_iff.1 hl₂
  obtain ⟨a', b'', rfl, -, hb''⟩ := List.filter_eq_append_iff.1 hl
  obtain ⟨a'', b', rfl, -, hk, hb'⟩ := List.filter_eq_cons_iff.1 hb''
  exact ⟨a' ++ a'', e, b', by simp, by simpa using hk, he, by rw [deliveriesOf, hb', hb]⟩

/-- The register of a key ends empty iff each upsert of the key meets a later deletion of a
higher version. -/
lemma run_deliveriesOf_eq_none_iff (V : VectorEngine P) (index : VectorIndexStatus) {key : VectorKey} {events : List VectorEvent}
    (hdistinct : ∀ e ∈ events, ∀ f ∈ events, e.key = key → f.key = key → e.version = f.version →
      e = f) :
    Register.run none (deliveriesOf V index key events) = none ↔
      ∀ a item b, events = a ++ .upsert item :: b → item.key = key →
        ∃ d, .delete d ∈ b ∧ d.key = key ∧ item.sourceVersion < d.sourceVersion := by
  rw [Register.run_eq_none_iff]
  · constructor
    · rintro h a item b rfl hk
      have hsplit : deliveriesOf V index key (a ++ .upsert item :: b) =
          deliveriesOf V index key a ++
            .put item.sourceVersion (item.row (storedEmbedding V index item)) ::
              deliveriesOf V index key b := by
        rw [deliveriesOf_append, deliveriesOf_cons (e := .upsert item) hk]
        rfl
      obtain ⟨u, hu, hlt⟩ := h _ _ _ _ hsplit
      obtain ⟨e, he, hek, hed⟩ := mem_deliveriesOf.1 hu
      rcases e with _ | d
      · cases hed
      · cases hed
        exact ⟨d, he, hek, hlt⟩
    · intro h a v x b hsplit
      obtain ⟨a', e, b', rfl, hk, he, rfl⟩ := deliveriesOf_eq_append_cons hsplit
      rcases e with item | d
      · cases he
        obtain ⟨d, hd, hdk, hlt⟩ := h a' item b' rfl hk
        exact ⟨d.sourceVersion, mem_deliveriesOf.2 ⟨_, hd, hdk, rfl⟩, hlt⟩
      · cases he
  · -- an upsert and a deletion of one version would be one event
    intro v x hput herase
    obtain ⟨e, he, hek, hed⟩ := mem_deliveriesOf.1 hput
    obtain ⟨f, hf, hfk, hfd⟩ := mem_deliveriesOf.1 herase
    have hev : e.version = v := by rw [← version_delivery V index, hed]; rfl
    have hfv : f.version = v := by rw [← version_delivery V index, hfd]; rfl
    obtain rfl := hdistinct e he f hf hek hfk (hev.trans hfv.symm)
    rw [hed] at hfd
    cases hfd

/-- **Convergence of the outbox**: whatever the order and the repetitions, the stored state of a
key ends as its highest event says, if that is an upsert. If it is a deletion, exactly when each
delivery of an upsert of the key comes before a delivery of a deletion of a higher version. -/
theorem deliverAll_settled_iff {s : Session (Db P)} {events : List VectorEvent} {top : VectorEvent}
    (hs : Ready vectorSpace index s) (hV : Reliable V index events)
    (hvalid : ∀ e ∈ events, e.Valid vectorSpace index)
    (hnew : storedRows V index s top.key = [])
    (hdistinct : ∀ e ∈ events, ∀ f ∈ events, e.key = top.key → f.key = top.key →
      e.version = f.version → e = f)
    (htop : top ∈ events) (hmax : ∀ e ∈ events, e.key = top.key → e.version ≤ top.version) :
    Settled V index (deliverAll V vectorSpace s events) top ↔
      (∃ item, top = .upsert item) ∨
        ∀ a item b, events = a ++ .upsert item :: b → item.key = top.key →
          ∃ d, .delete d ∈ b ∧ d.key = top.key ∧ item.sourceVersion < d.sourceVersion := by
  have hrun := deliverAll_spec top.key hV hvalid hs none ⟨hnew, by simp⟩
  rcases top with item | item
  · refine iff_of_true ?_ (Or.inl ⟨item, rfl⟩)
    have hput : Register.run none (deliveriesOf V index item.key events) =
        some (item.sourceVersion, item.row (storedEmbedding V index item)) := by
      refine Register.run_eq_put (mem_deliveriesOf.2 ⟨_, htop, rfl, rfl⟩) ?_ ?_
      · intro d hd
        obtain ⟨e, he, hek, rfl⟩ := mem_deliveriesOf.1 hd
        rw [version_delivery]
        exact hmax e he hek
      · intro d hd hv
        obtain ⟨e, he, hek, rfl⟩ := mem_deliveriesOf.1 hd
        rw [version_delivery] at hv
        rw [hdistinct e he _ htop hek rfl hv]
        rfl
    have hrows := hrun.1
    rw [show (VectorEvent.upsert item).key = item.key from rfl, hput] at hrows
    exact ⟨_, _, hrows, rfl, rfl, rfl,
      (storedEmbedding_spec (hV.casts item htop) hs.sized (hvalid _ htop)).2⟩
  · have hno : ¬ ∃ item', VectorEvent.delete item = .upsert item' := by simp
    rw [or_iff_right hno, ← run_deliveriesOf_eq_none_iff V index hdistinct]
    change List.filter _ _ = [] ↔ _
    rw [show (VectorEvent.delete item).key = item.key from rfl] at hrun ⊢
    rw [hrun.1]
    rcases Register.run none (deliveriesOf V index item.key events) with _ | _ <;> simp

end Delivery

/-! ### A late upsert -/

/-- One table; the cast knows the text of one vector. -/
def oneTable : VectorEngine (List VectorRow) where
  rows p _ _ _ := p
  put _ _ _ _ rs := rs
  rows_put _ _ _ _ _ := rfl
  uniqueKeys _ _ _ := [keyColumns]
  uniqueKeys_put _ _ _ _ _ := rfl
  duplicateKey _ _ := "Constraint Error: Duplicate key"
  castFloatArray text :=
    if text = "[1]::FLOAT[]::FLOAT[1]".toList then .ok [0x3f800000#32] else .error "Conversion Error"
  refuse _ := none

/-- The vector space `memory` over the table `main.memories`. -/
def memoryIndex : VectorIndexStatus where
  indexOid := 12
  vectorSpace := "memory"
  schema := "main"
  table := "memories"
  column := "embedding"
  indexName := "memories_idx"
  embeddingModel := "m"
  modelVersion := "1"
  dimension := 1
  metric := .l2sq
  m := 16
  m0 := 32
  efConstruction := 128
  defaultEfSearch := 64
  definitionVersion := 1
  generation := 1
  extensionVersion := ""
  buildStatus := .active
  vectorCount := 0
  errorMessage := ""

def memoryCatalog : Catalog where
  rsSchema := ⟨[{ oid := 1, nspname := "main", nspowner := 0, nspacl := "" }], by decide⟩
  rsRelation := ⟨[
    { oid := 11, relname := "memories", relnamespace := 1, reltype := 0, relowner := 0
      relkind := .table, relpersistence := "p", relnatts := 1, reltuples := 0, relhasindex := true
      relispartition := false, relpartbound := "", reloptions := "", status := .active
      errorMessage := "" },
    { oid := 12, relname := "memories_idx", relnamespace := 1, reltype := 0, relowner := 0
      relkind := .index, relpersistence := "p", relnatts := 0, reltuples := 0, relhasindex := false
      relispartition := false, relpartbound := "", reloptions := "", status := .active
      errorMessage := "" }], by decide⟩
  rsColumn := ⟨[{ attrelid := 11, attname := "embedding", atttypid := 0, attnum := 1
                  atttypmod := -1, attnotnull := false, atthasdef := false, attisdropped := false
                  attidentity := "", attgenerated := "", attoptions := "" }], by decide⟩
  rsIndex := ⟨[{ indexrelid := 12, indrelid := 11, indnatts := 1, indnkeyatts := 1
                 indisunique := false, indisprimary := false, indisvalid := true, indkey := "1"
                 indexprs := "", indpred := "" }], by decide⟩
  rsVectorIndex := ⟨[{ indexrelid := 12, vectorSpace := "memory", embeddingModel := "m"
                       modelVersion := "1", dimension := 1, metric := .l2sq, m := 16, m0 := 32
                       efConstruction := 128, defaultEfSearch := 64, definitionVersion := 1
                       generation := 1, extensionVersion := "", buildStatus := .active
                       vectorCount := 0, errorMessage := "" }], by decide⟩

def memorySession : Session (Db (List VectorRow)) := ⟨⟨memoryCatalog, []⟩, none⟩

def upsertV7 : VectorUpsertItem := ⟨1, 1, 5, 7, "h7", [0x3f800000#32]⟩

def deleteV8 : VectorDeleteItem := ⟨1, 1, 5, 8⟩

lemma ready_memorySession : Ready "memory" memoryIndex memorySession :=
  ⟨rfl, by decide, ⟨0, by decide⟩, rfl, by decide⟩

lemma valid_upsertV7 : (VectorEvent.upsert upsertV7).Valid "memory" memoryIndex := rfl

lemma valid_deleteV8 : (VectorEvent.delete deleteV8).Valid "memory" memoryIndex := rfl

lemma vectorText_upsertV7 :
    vectorText memoryIndex upsertV7.embedding = .ok "[1]::FLOAT[]::FLOAT[1]".toList := by
  have h : sqlParamLiteral (.floatArray upsertV7.embedding) = .ok "[1]::FLOAT[]".toList := by decide
  rw [vectorText, h]
  rfl

lemma castExact_upsertV7 : CastExact oneTable memoryIndex upsertV7.embedding := by
  intro text h
  rw [vectorText_upsertV7] at h
  cases h
  exact ⟨_, rfl, List.Forall₂.cons (Or.inl rfl) List.Forall₂.nil⟩

lemma reliable_oneTable (events : List VectorEvent)
    (h : ∀ e ∈ events, e = .upsert upsertV7 ∨ e = .delete deleteV8) :
    Reliable oneTable memoryIndex events where
  casts item hi := by
    rcases h _ hi with h | h
    · cases h
      exact castExact_upsertV7
    · cases h
  commits _ := rfl
  keyed _ key hkey := by
    rw [List.mem_singleton.1 hkey]
    exact List.Subset.refl _

/-- The deletion of version 8 is undone by a late delivery of version 7; in the other order it
is not. -/
theorem deliverAll_late_upsert :
    storedRows oneTable memoryIndex
        (deliverAll oneTable "memory" memorySession [.delete deleteV8, .upsert upsertV7])
        deleteV8.key = [upsertV7.row [0x3f800000#32]] ∧
      storedRows oneTable memoryIndex
        (deliverAll oneTable "memory" memorySession [.upsert upsertV7, .delete deleteV8])
        deleteV8.key = [] := by
  have hvalid : ∀ events : List VectorEvent,
      (∀ e ∈ events, e = .upsert upsertV7 ∨ e = .delete deleteV8) →
        ∀ e ∈ events, e.Valid "memory" memoryIndex := by
    intro events h e he
    rcases h e he with rfl | rfl
    · exact valid_upsertV7
    · exact valid_deleteV8
  have hholds := fun events h => (deliverAll_spec deleteV8.key (reliable_oneTable events h)
    (hvalid events h) ready_memorySession none ⟨rfl, by simp⟩).1
  have hrow : (VectorEvent.upsert upsertV7).delivery oneTable memoryIndex =
      .put 7 (upsertV7.row [0x3f800000#32]) := by
    rw [VectorEvent.delivery, storedEmbedding, vectorText_upsertV7]
    rfl
  have hdelete : (VectorEvent.delete deleteV8).delivery oneTable memoryIndex = .erase 8 := rfl
  have hkeys : (VectorEvent.upsert upsertV7).key = deleteV8.key ∧
      (VectorEvent.delete deleteV8).key = deleteV8.key := ⟨rfl, rfl⟩
  constructor
  · refine (hholds [.delete deleteV8, .upsert upsertV7] (by simp)).trans ?_
    rw [deliveriesOf_cons hkeys.2, deliveriesOf_cons hkeys.1, hrow, hdelete]
    rfl
  · refine (hholds [.upsert upsertV7, .delete deleteV8] (by simp)).trans ?_
    rw [deliveriesOf_cons hkeys.1, deliveriesOf_cons hkeys.2, hrow, hdelete]
    rfl

theorem deliverAll_settled_iff_in_order :
    Settled oneTable memoryIndex
        (deliverAll oneTable "memory" memorySession [.upsert upsertV7, .delete deleteV8])
        (.delete deleteV8) ↔
      (∃ item, VectorEvent.delete deleteV8 = .upsert item) ∨
        ∀ a item b, [.upsert upsertV7, .delete deleteV8] = a ++ VectorEvent.upsert item :: b →
          item.key = deleteV8.key →
          ∃ d, .delete d ∈ b ∧ d.key = deleteV8.key ∧ item.sourceVersion < d.sourceVersion :=
  deliverAll_settled_iff ready_memorySession (reliable_oneTable _ (by simp))
    (by simp [valid_upsertV7, valid_deleteV8]) rfl (by decide) (by decide) (by decide)

end Rsduck.Db
