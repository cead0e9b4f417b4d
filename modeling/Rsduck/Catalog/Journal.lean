import Rsduck.Catalog.Statement
import Rsduck.Lib.Session

/-!
OID allocation, the journal and the transaction around a catalog mutation.
-/

namespace Rsduck.Catalog

open Lib Lib.Eff

def allocateOid : Eff Catalog ℤ := do
  let row ← queryRow Slot.oidAlloc "read next oid failed: " (·.id == 1)
  updateRows Slot.oidAlloc (·.id == 1) (fun a => { a with nextOid := a.nextOid + 1 }) fun _ _ => rfl
  return row.nextOid

def catalogEpoch : Eff Catalog ℤ := do
  return (← queryRow Slot.version "read catalog epoch failed: " (·.id == 1)).catalogEpoch

def insertJournal (mutationType : String) (targetOid : ℤ) (request : String) :
    Eff Catalog ℤ := do
  let journalId ← allocateOid
  let nextEpoch := (← catalogEpoch) + 1
  insertRow Slot.journal "write catalog journal failed: "
    { journalId, catalogEpoch := nextEpoch, mutationType, targetOid, requestJson := request,
      status := .pending, errorMessage := "" }
  return journalId

def finishJournal (journalId : ℤ) : Eff Catalog PUnit := do
  let _ ← queryRow Slot.journal "read catalog journal audit fields failed: "
    (·.journalId == journalId)
  updateRows Slot.journal (·.journalId == journalId) (fun r => { r with status := .applied })
    fun _ _ => rfl
  updateRows Slot.version (·.id == 1) (fun v => { v with catalogEpoch := v.catalogEpoch + 1 })
    fun _ _ => rfl
  refreshCatalogChecksum

/-! ### What the journal's statements do -/

def nextOid (c : Catalog) : Option ℤ := (c.rsOidAlloc.find (·.id == 1)).map (·.nextOid)

/-- The catalog after an allocation. -/
def bumpOid (c : Catalog) : Catalog :=
  { c with
    rsOidAlloc := c.rsOidAlloc.update (·.id == 1) (fun a => { a with nextOid := a.nextOid + 1 })
      fun _ _ => rfl }

/-- The catalog after a journal row was finished. -/
def closeJournal (journalId : ℤ) (c : Catalog) : Catalog :=
  let closed : Catalog :=
    { c with
      rsCatalogJournal := c.rsCatalogJournal.update (·.journalId == journalId)
        (fun r => { r with status := .applied }) fun _ _ => rfl
      rsCatalogVersion := c.rsCatalogVersion.update (·.id == 1)
        (fun v => { v with catalogEpoch := v.catalogEpoch + 1 }) fun _ _ => rfl }
  setCatalogChecksum (calculateCatalogChecksum closed) closed

lemma nextOid_bumpOid (c : Catalog) : nextOid (bumpOid c) = (nextOid c).map (· + 1) := by
  have h := Table.find_update (·.id == 1) (·.id == 1)
    (fun a : OidAllocRow => { a with nextOid := a.nextOid + 1 }) (fun _ _ => rfl) (fun _ => rfl)
    c.rsOidAlloc
  have hnext : nextOid (bumpOid c) = _ := congrArg (Option.map fun a : OidAllocRow => a.nextOid) h
  rw [hnext, nextOid]
  rcases hfind : c.rsOidAlloc.find (·.id == 1) with _ | a
  · rw [hfind]
    rfl
  · have hid := List.find?_some hfind
    rw [hfind, Option.map_some, Option.map_some, if_pos hid]
    rfl

lemma runs_allocateOid {c c' : Catalog} {oid : ℤ} :
    Runs allocateOid c oid c' ↔ nextOid c = some oid ∧ c' = bumpOid c := by
  unfold allocateOid nextOid
  constructor
  · intro h
    obtain ⟨a, c₁, hread, h₁⟩ := runs_bind.1 h
    obtain ⟨hfind, hc₁⟩ := runs_queryRow.1 hread
    obtain ⟨_, c₂, hwrite, h₂⟩ := runs_bind.1 h₁
    have hc₂ := runs_updateRows.1 hwrite
    obtain ⟨rfl, rfl⟩ := runs_pure.1 h₂
    subst hc₂ hc₁
    exact ⟨Option.map_eq_some_iff.2 ⟨a, hfind, rfl⟩, rfl⟩
  · rintro ⟨hnext, rfl⟩
    obtain ⟨a, hfind, rfl⟩ := Option.map_eq_some_iff.1 hnext
    refine runs_bind.2 ⟨a, c, runs_queryRow.2 ⟨hfind, rfl⟩, ?_⟩
    exact runs_bind.2 ⟨⟨⟩, _, runs_updateRows.2 rfl, runs_pure.2 ⟨rfl, rfl⟩⟩

lemma runs_catalogEpoch {c c' : Catalog} {epoch : ℤ} :
    Runs catalogEpoch c epoch c' ↔
      ∃ v, c.rsCatalogVersion.find (·.id == 1) = some v ∧ epoch = v.catalogEpoch ∧ c' = c := by
  unfold catalogEpoch
  simp only [runs_bind, runs_queryRow, runs_pure]
  constructor
  · rintro ⟨v, _, ⟨hfind, rfl⟩, rfl, rfl⟩
    exact ⟨v, hfind, rfl, rfl⟩
  · rintro ⟨v, hfind, rfl, rfl⟩
    exact ⟨v, _, ⟨hfind, rfl⟩, rfl, rfl⟩

lemma runs_insertJournal {mutationType request : String} {targetOid journalId : ℤ}
    {c c' : Catalog} :
    Runs (insertJournal mutationType targetOid request) c journalId c' ↔
      nextOid c = some journalId ∧ ∃ v journal,
        c.rsCatalogVersion.find (·.id == 1) = some v ∧
        c.rsCatalogJournal.insert
          { journalId, catalogEpoch := v.catalogEpoch + 1, mutationType, targetOid
            requestJson := request, status := .pending, errorMessage := "" } = some journal ∧
        c' = { bumpOid c with rsCatalogJournal := journal } := by
  unfold insertJournal
  simp only [runs_bind, runs_allocateOid, runs_catalogEpoch, runs_insertRow, runs_pure]
  constructor
  · rintro ⟨oid, _, ⟨hnext, rfl⟩, epoch, _, ⟨v, hv, rfl, rfl⟩, _, _, ⟨t, ht, rfl⟩, rfl, rfl⟩
    exact ⟨hnext, v, t, hv, ht, rfl⟩
  · rintro ⟨hnext, v, t, hv, ht, rfl⟩
    exact ⟨journalId, _, ⟨hnext, rfl⟩, _, _, ⟨v, hv, rfl, rfl⟩, ⟨⟩, _, ⟨t, ht, rfl⟩, rfl, rfl⟩

lemma runs_finishJournal {journalId : ℤ} {c c' : Catalog} {u : PUnit} :
    Runs (finishJournal journalId) c u c' ↔
      (∃ r ∈ c.rsCatalogJournal.rows, r.journalId = journalId) ∧ c' = closeJournal journalId c := by
  unfold finishJournal
  constructor
  · intro h
    obtain ⟨r, c₁, hread, h₁⟩ := runs_bind.1 h
    obtain ⟨hfind, hc₁⟩ := runs_queryRow.1 hread
    obtain ⟨_, c₂, hjournal, h₂⟩ := runs_bind.1 h₁
    have hc₂ := runs_updateRows.1 hjournal
    obtain ⟨_, c₃, hversion, h₃⟩ := runs_bind.1 h₂
    have hc₃ := runs_updateRows.1 hversion
    obtain rfl := runs_refreshCatalogChecksum.1 h₃
    subst hc₃ hc₂ hc₁
    have hid := List.find?_some hfind
    exact ⟨⟨r, List.mem_of_find?_eq_some hfind, beq_iff_eq.1 hid⟩, rfl⟩
  · rintro ⟨⟨r, hr, hid⟩, rfl⟩
    rcases hfind : c.rsCatalogJournal.find (·.journalId == journalId) with _ | r'
    · exact absurd (beq_iff_eq.2 hid) (List.find?_eq_none.1 hfind r hr)
    · refine runs_bind.2 ⟨r', c, runs_queryRow.2 ⟨hfind, rfl⟩, ?_⟩
      refine runs_bind.2 ⟨⟨⟩, _, runs_updateRows.2 rfl, ?_⟩
      exact runs_bind.2 ⟨⟨⟩, _, runs_updateRows.2 rfl, runs_refreshCatalogChecksum.2 rfl⟩

/-- A relation that does not see what the journal writes. -/
class SeesNoJournal (R : Catalog → Catalog → Prop) : Prop extends Frame R where
  oidAlloc : ∀ t c, R c (Slot.oidAlloc.put t c)
  journal : ∀ t c, R c (Slot.journal.put t c)
  version : ∀ t c, R c (Slot.version.put t c)

section SeesNoJournal

variable {R : Catalog → Catalog → Prop} [SeesNoJournal R]

lemma keeps_refreshCatalogChecksum : Keeps R refreshCatalogChecksum := by
  intro c _ c' h
  obtain rfl := runs_refreshCatalogChecksum.1 h
  exact SeesNoJournal.version _ c

lemma keeps_allocateOid : Keeps R allocateOid :=
  keeps_bind (keeps_queryRow _ _) fun _ =>
    keeps_bind (keeps_updateRows SeesNoJournal.oidAlloc _ _ _) fun _ => keeps_pure _

lemma keeps_insertJournal (mutationType : String) (targetOid : ℤ) (request : String) :
    Keeps R (insertJournal mutationType targetOid request) :=
  keeps_bind keeps_allocateOid fun _ =>
    keeps_bind (keeps_bind (keeps_queryRow _ _) fun _ => keeps_pure _) fun _ =>
      keeps_bind (keeps_insertRow SeesNoJournal.journal _ _) fun _ => keeps_pure _

lemma keeps_finishJournal (journalId : ℤ) : Keeps R (finishJournal journalId) :=
  keeps_bind (keeps_queryRow _ _) fun _ =>
    keeps_bind (keeps_updateRows SeesNoJournal.journal _ _ _) fun _ =>
      keeps_bind (keeps_updateRows SeesNoJournal.version _ _ _) fun _ =>
        keeps_refreshCatalogChecksum

end SeesNoJournal

end Rsduck.Catalog

namespace Rsduck

open Lib Lib.Eff

/-- The database behind a connection: the catalog tables and everything else in it. -/
structure Db (P : Type) where
  cat : Catalog
  phys : P

namespace Db

variable {P α : Type}

/-- A computation on the catalog tables, as part of one on the database. -/
def onCatalog (m : Eff Catalog α) : Eff (Db P) α := fun d =>
  match exec m d.cat with
  | (r, c) => (r, { d with cat := c })

@[simp] lemma runs_onCatalog {m : Eff Catalog α} {d d' : Db P} {a : α} :
    Runs (onCatalog m) d a d' ↔ Runs m d.cat a d'.cat ∧ d'.phys = d.phys := by
  unfold Runs
  change (match exec m d.cat with | (r, c) => (r, ({ d with cat := c } : Db P))) = _ ↔ _
  rcases exec m d.cat with ⟨r, c⟩
  obtain ⟨cat', phys'⟩ := d'
  simp only [Prod.mk.injEq, mk.injEq]
  constructor
  · rintro ⟨rfl, rfl, rfl⟩
    exact ⟨⟨rfl, rfl⟩, rfl⟩
  · rintro ⟨⟨rfl, rfl⟩, rfl⟩
    exact ⟨rfl, rfl, rfl⟩

end Db

end Rsduck
