import Mathlib.Data.Int.Notation
import Mathlib.Data.List.Pairwise
import Mathlib.Tactic.Common

/-!
Tables: rows in insertion order, no two of which clash on a key.

The key constraint is carried by the table, so an insertion that would break it has no
result and a lookup by a key has at most one answer.
-/

namespace Rsduck.Lib

/-- When two rows may not stand in one table: they share a primary or a unique key. -/
class Keyed (ρ : Type) where
  clash : ρ → ρ → Bool
  symm : ∀ a b, clash a b = clash b a

structure Table (ρ : Type) [Keyed ρ] where
  rows : List ρ
  keyed : rows.Pairwise fun a b => Keyed.clash a b = false

/-- Rows with one primary key. -/
abbrev Keyed.of {ρ κ : Type} [DecidableEq κ] (key : ρ → κ) : Keyed ρ where
  clash a b := key a == key b
  symm _ _ := BEq.comm

/-- Rows with a primary key and a unique key beside it. -/
abbrev Keyed.of₂ {ρ κ κ' : Type} [DecidableEq κ] [DecidableEq κ'] (key : ρ → κ) (uniq : ρ → κ') :
    Keyed ρ where
  clash a b := key a == key b || uniq a == uniq b
  symm a b := by rw [BEq.comm (a := key a), BEq.comm (a := uniq a)]

namespace Table

variable {ρ : Type} [Keyed ρ]

/-- The update leaves every key of a row alone. -/
def KeepsKey (f : ρ → ρ) : Prop := ∀ a b, Keyed.clash (f a) b = Keyed.clash a b

lemma KeepsKey.right {f : ρ → ρ} (h : KeepsKey f) (a b : ρ) :
    Keyed.clash a (f b) = Keyed.clash a b := by
  rw [Keyed.symm, h, Keyed.symm]

def empty : Table ρ := ⟨[], List.Pairwise.nil⟩

/-- `INSERT`: refused when a row with one of its keys is there. -/
def insert (r : ρ) (t : Table ρ) : Option (Table ρ) :=
  if h : ∀ x ∈ t.rows, Keyed.clash x r = false then
    some ⟨t.rows ++ [r], List.pairwise_append.2 ⟨t.keyed, by simp, by simpa using h⟩⟩
  else none

/-- `DELETE … WHERE p`. -/
def delete (p : ρ → Bool) (t : Table ρ) : Table ρ :=
  ⟨t.rows.filter fun r => !p r, t.keyed.filter _⟩

/-- `UPDATE … SET f WHERE p`, for an `f` that sets no key column. -/
def update (p : ρ → Bool) (f : ρ → ρ) (hf : KeepsKey f) (t : Table ρ) : Table ρ :=
  ⟨t.rows.map fun r => if p r then f r else r, by
    refine List.pairwise_map.2 (t.keyed.imp fun {a b} h => ?_)
    by_cases ha : p a <;> by_cases hb : p b <;> simp [ha, hb, hf a, hf.right, h]⟩

/-- A table with one row. -/
def single (r : ρ) : Table ρ := ⟨[r], List.pairwise_singleton _ _⟩

/-- The rows a `SELECT … WHERE p` reads. -/
def select (p : ρ → Bool) (t : Table ρ) : List ρ := t.rows.filter p

/-- The row of a `SELECT … WHERE p` that can have only one. -/
def find (p : ρ → Bool) (t : Table ρ) : Option ρ := t.rows.find? p

def exists? (p : ρ → Bool) (t : Table ρ) : Bool := t.rows.any p

@[ext] lemma ext {t u : Table ρ} (h : t.rows = u.rows) : t = u := by
  cases t
  cases u
  cases h
  rfl

@[simp] lemma rows_empty : (empty : Table ρ).rows = [] := rfl

lemma insert_eq_some {r : ρ} {t u : Table ρ} :
    t.insert r = some u ↔ (∀ x ∈ t.rows, Keyed.clash x r = false) ∧ u.rows = t.rows ++ [r] := by
  unfold insert
  split_ifs with h
  · constructor
    · rintro h'
      cases h'
      exact ⟨h, rfl⟩
    · rintro ⟨-, h'⟩
      exact congrArg some (ext h'.symm)
  · simp [h]

lemma mem_insert {t u : Table ρ} {r x : ρ} (h : t.insert r = some u) :
    x ∈ u.rows ↔ x ∈ t.rows ∨ x = r := by
  rw [(insert_eq_some.1 h).2, List.mem_append, List.mem_singleton]

/-- A table without rows takes any. -/
lemma exists_insert {t : Table ρ} (h : t.rows = []) (r : ρ) : ∃ u, t.insert r = some u :=
  ⟨_, dif_pos fun x hx => by simp [h] at hx⟩

@[simp] lemma rows_delete (p : ρ → Bool) (t : Table ρ) :
    (t.delete p).rows = t.rows.filter fun r => !p r := rfl

@[simp] lemma rows_update (p : ρ → Bool) (f : ρ → ρ) (hf : KeepsKey f) (t : Table ρ) :
    (t.update p f hf).rows = t.rows.map fun r => if p r then f r else r := rfl

/-- An update that does not touch what a query selects by maps its answer. -/
lemma select_update (p q : ρ → Bool) (f : ρ → ρ) (hf : KeepsKey f) (hq : ∀ r, q (f r) = q r)
    (t : Table ρ) :
    (t.update p f hf).select q = (t.select q).map fun r => if p r then f r else r := by
  rw [select, select, rows_update, List.filter_map]
  congr 1
  refine List.filter_congr fun r _ => ?_
  by_cases h : p r <;> simp [h, hq]

lemma find_update (p q : ρ → Bool) (f : ρ → ρ) (hf : KeepsKey f) (hq : ∀ r, q (f r) = q r)
    (t : Table ρ) :
    (t.update p f hf).find q = (t.find q).map fun r => if p r then f r else r := by
  rw [find, find, rows_update, List.find?_map]
  congr 2
  funext r
  by_cases h : p r <;> simp [h, hq]

/-- Updates that do not see each other may change places. -/
lemma update_comm (p q : ρ → Bool) (f g : ρ → ρ) (hf : KeepsKey f) (hg : KeepsKey g)
    (hp : ∀ r, p (g r) = p r) (hq : ∀ r, q (f r) = q r) (hfg : ∀ r, f (g r) = g (f r))
    (t : Table ρ) : (t.update p f hf).update q g hg = (t.update q g hg).update p f hf := by
  apply ext
  simp only [rows_update, List.map_map]
  refine List.map_congr_left fun r _ => ?_
  rw [Function.comp_apply, Function.comp_apply]
  by_cases h : p r = true <;> by_cases h' : q r = true <;> simp [h, h', hp, hq, hfg]

/-- An update of all rows hides what an earlier one set. -/
lemma update_hidden (p : ρ → Bool) (f g : ρ → ρ) (hf : KeepsKey f) (hg : KeepsKey g)
    (hfg : ∀ r, g (f r) = g r) (t : Table ρ) :
    (t.update p f hf).update (fun _ => true) g hg = t.update (fun _ => true) g hg := by
  apply ext
  simp only [rows_update, List.map_map]
  refine List.map_congr_left fun r _ => ?_
  rw [Function.comp_apply]
  by_cases h : p r = true <;> simp [h, hfg]

/-- Two updates of the same rows, told apart by nothing that is left after a third. -/
lemma update_hides (p : ρ → Bool) (f f' g : ρ → ρ) (hf : KeepsKey f) (hf' : KeepsKey f')
    (hg : KeepsKey g) (h : ∀ r, g (f r) = g (f' r)) (t : Table ρ) :
    (t.update p f hf).update (fun _ => true) g hg =
      (t.update p f' hf').update (fun _ => true) g hg := by
  apply ext
  simp only [rows_update, List.map_map]
  refine List.map_congr_left fun r _ => ?_
  rw [Function.comp_apply, Function.comp_apply]
  by_cases hr : p r = true <;> simp [hr, h]

/-- An insertion, then an update of all rows. -/
lemma insert_update (f : ρ → ρ) (hf : KeepsKey f) (t : Table ρ) (r : ρ) :
    (t.insert r).map (update (fun _ => true) f hf) =
      (t.update (fun _ => true) f hf).insert (f r) := by
  have hclash : (∀ x ∈ (t.update (fun _ => true) f hf).rows, Keyed.clash x (f r) = false) ↔
      ∀ x ∈ t.rows, Keyed.clash x r = false := by
    simp [rows_update, hf _ _, hf.right]
  by_cases h : ∀ x ∈ t.rows, Keyed.clash x r = false
  · obtain ⟨u, hu⟩ : ∃ u, t.insert r = some u := ⟨_, dif_pos h⟩
    rw [hu, Option.map_some, eq_comm, insert_eq_some]
    refine ⟨hclash.2 h, ?_⟩
    rw [rows_update, (insert_eq_some.1 hu).2]
    simp
  · rw [insert, dif_neg h, insert, dif_neg (mt hclash.1 h)]
    rfl

/-- Of two updates of the same rows, when the second leaves nothing of the first, only the
second is left. -/
lemma update_update (p : ρ → Bool) (f g : ρ → ρ) (hf : KeepsKey f) (hg : KeepsKey g)
    (hp : ∀ r, p (f r) = p r) (hfg : ∀ r, g (f r) = g r) (t : Table ρ) :
    (t.update p f hf).update p g hg = t.update p g hg := by
  apply ext
  rw [rows_update, rows_update, rows_update, List.map_map]
  refine List.map_congr_left fun r _ => ?_
  rw [Function.comp_apply]
  by_cases h : p r = true
  · rw [if_pos h, hp, if_pos h, if_pos h, hfg]
  · rw [if_neg h, if_neg h]

lemma mem_delete {p : ρ → Bool} {t : Table ρ} {r : ρ} :
    r ∈ (t.delete p).rows ↔ r ∈ t.rows ∧ p r = false := by
  simp

/-- The only element with a property is the first one with it. -/
lemma find?_eq_some_of_unique {α : Type} {p : α → Bool} {xs : List α} {a : α} (ha : a ∈ xs)
    (hp : p a = true) (huniq : ∀ b ∈ xs, p b = true → b = a) : xs.find? p = some a := by
  rcases h : xs.find? p with _ | b
  · exact absurd hp (List.find?_eq_none.1 h a ha)
  · rw [huniq b (List.mem_of_find?_eq_some h) (List.find?_some h)]

/-- Two rows of a table that clash are one row. -/
lemma eq_of_clash {t : Table ρ} {a b : ρ} (ha : a ∈ t.rows) (hb : b ∈ t.rows)
    (h : Keyed.clash a b = true) : a = b := by
  have : Std.Symm fun a b : ρ => Keyed.clash a b = false := ⟨fun x y hxy => by
    rw [Keyed.symm]; exact hxy⟩
  by_contra hne
  simp [t.keyed.forall ha hb hne] at h

end Table

end Rsduck.Lib
