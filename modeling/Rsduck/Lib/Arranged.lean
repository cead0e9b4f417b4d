import Mathlib.Order.Lattice
import Mathlib.Data.List.Sort
import Mathlib.Data.Prod.Lex
import Mathlib.Order.WithBot

/-!
A list in the order of a key, and its first elements.
-/

namespace Rsduck.Lib

/-- A value to sort by, after all others when there is none. -/
def nullsLast {α : Type} : Option α → WithTop α
  | none => ⊤
  | some a => a

lemma nullsLast_injective {α : Type} : Function.Injective (nullsLast (α := α)) := by
  intro x y h
  rcases x with _ | a <;> rcases y with _ | b
  · rfl
  · cases h
  · cases h
  · exact congrArg some (WithTop.coe_inj.1 h)

variable {α : Type} {rs xs ys : List α} {n : ℕ} {x : α}

/-- Lists with the same keys are the same where the key tells their elements apart. -/
lemma eq_of_map_key_eq {κ : Type} {key : α → κ} (h : xs.map key = ys.map key)
    (hkey : ∀ x ∈ xs, ∀ y ∈ ys, key x = key y → x = y) : xs = ys := by
  induction xs generalizing ys with
  | nil => simpa using h.symm
  | cons x xs ih =>
    rcases ys with _ | ⟨y, ys⟩
    · cases h
    · simp only [List.map_cons, List.cons.injEq] at h
      have hhead : x = y := hkey x (by simp) y (by simp) h.1
      have htail : xs = ys := ih h.2 fun a ha b hb =>
        hkey a (List.mem_cons_of_mem x ha) b (List.mem_cons_of_mem y hb)
      rw [hhead, htail]

variable {κ : Type} [LinearOrder κ] {key : α → κ}

/-- These are the elements in the order of the key, those of one key in any order. -/
structure Arranges (key : α → κ) (rs xs : List α) : Prop where
  perm : xs.Perm rs
  sorted : xs.Pairwise fun x y => key x ≤ key y

lemma arranges_mergeSort (key : α → κ) (rs : List α) :
    Arranges key rs (rs.mergeSort fun x y => decide (key x ≤ key y)) := by
  let le (x y : α) : Bool := decide (key x ≤ key y)
  have htrans (x y z : α) (hxy : le x y = true) (hyz : le y z = true) : le x z = true :=
    decide_eq_true ((of_decide_eq_true hxy).trans (of_decide_eq_true hyz))
  have htotal (x y : α) : (le x y || le y x) = true := by
    rcases le_total (key x) (key y) with h | h <;> simp [le, h]
  exact ⟨List.mergeSort_perm rs le,
    (List.pairwise_mergeSort htrans htotal rs).imp of_decide_eq_true⟩

/-- Two arrangements have the same keys. -/
lemma Arranges.map_key_eq (hx : Arranges key rs xs) (hy : Arranges key rs ys) :
    xs.map key = ys.map key := by
  have hperm : (xs.map key).Perm (ys.map key) := (hx.perm.trans hy.perm.symm).map key
  have hsorted : (xs.map key).Pairwise (· ≤ ·) := List.pairwise_map.2 hx.sorted
  have hsorted' : (ys.map key).Pairwise (· ≤ ·) := List.pairwise_map.2 hy.sorted
  exact hperm.eq_of_pairwise (fun a b _ _ => le_antisymm) hsorted hsorted'

/-- One of the first `n` has fewer than `n` before it. -/
lemma Arranges.countP_lt (h : Arranges key rs xs) (hx : x ∈ xs.take n) :
    rs.countP (fun y => decide (key y < key x)) < n := by
  obtain ⟨s, t, hst⟩ := List.append_of_mem hx
  have hxs : xs = s ++ x :: (t ++ xs.drop n) := by
    rw [← List.cons_append, ← List.append_assoc, ← hst, List.take_append_drop]
  have hlength : s.length < n := by
    have htake := congrArg List.length hst
    simp only [List.length_take, List.length_append, List.length_cons] at htake
    omega
  have hsorted := h.sorted
  rw [hxs, List.pairwise_append, List.pairwise_cons] at hsorted
  have hafter : (x :: (t ++ xs.drop n)).countP (fun y => decide (key y < key x)) = 0 := by
    refine List.countP_eq_zero.2 fun y hy hlt => ?_
    have hlt : key y < key x := by simpa using hlt
    rcases List.mem_cons.1 hy with rfl | hy
    · exact lt_irrefl _ hlt
    · exact absurd (hsorted.2.1.1 y hy) (not_le.2 hlt)
  rw [← h.perm.countP_eq, hxs, List.countP_append, hafter]
  exact lt_of_le_of_lt List.countP_le_length hlength

/-- One that is not among the first `n` has them all before it. -/
lemma Arranges.le_countP (h : Arranges key rs xs) (hx : x ∈ rs) {p : α → Bool}
    (hfirst : ∀ y ∈ xs.take n, key y ≤ key x → p y = true) (hnot : x ∉ xs.take n) :
    n ≤ rs.countP p := by
  have hdrop : x ∈ xs.drop n := by
    have hmem := h.perm.mem_iff.2 hx
    rw [← List.take_append_drop n xs, List.mem_append] at hmem
    exact hmem.resolve_left hnot
  have hsorted := h.sorted
  rw [← List.take_append_drop n xs, List.pairwise_append] at hsorted
  have hall : (xs.take n).countP p = n := by
    rw [List.countP_eq_length.2 fun y hy => hfirst y hy (hsorted.2.2 y hy x hdrop)]
    refine List.length_take_of_le ?_
    have hpos := List.length_pos_of_mem hdrop
    rw [List.length_drop] at hpos
    omega
  have hsub := (List.take_sublist n xs).countP_le (p := p)
  rw [← h.perm.countP_eq]
  exact hall.symm.trans_le hsub

end Rsduck.Lib
