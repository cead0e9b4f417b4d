import Mathlib.Data.List.Range
import Mathlib.Tactic.Common

/-!
A list read in windows of one size.
-/

namespace Rsduck.Lib

variable {α : Type}

/-- At most `n` entries, from the position `offset` on. -/
def window (offset n : ℕ) (xs : List α) : List α := (xs.drop offset).take n

/-- **A partition**: the first windows, one after another, are the first entries. -/
theorem flatMap_window (n : ℕ) (xs : List α) (count : ℕ) :
    (List.range count).flatMap (fun page => window (page * n) n xs) = xs.take (count * n) := by
  induction count with
  | zero => simp
  | succ count ih =>
    rw [List.range_succ, List.flatMap_append, ih, List.flatMap_singleton, window, Nat.succ_mul,
      List.take_add]

end Rsduck.Lib
