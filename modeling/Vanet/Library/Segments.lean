/-
**Cutting a list at positions.**

A list with positions that do not decrease falls into the segments between neighbouring positions.

* `flatten_segments`: the segments together are the list from the first position to the last.
* `sum_segments`: the lengths of consecutive segments add up to the distance of their ends.
-/

import Mathlib.Algebra.Ring.Nat
import Mathlib.Data.List.Intervals
import Mathlib.Order.Monotone.Basic

namespace Vanet.Library

variable {α : Type} (list : List α) {first mid last : ℕ}

theorem length_extract (within : last ≤ list.length) : (list.extract first last).length = last - first := by
  rw [List.extract_eq_take_drop, List.length_take, List.length_drop]
  omega

theorem extract_append (left : first ≤ mid) (right : mid ≤ last) :
    list.extract first mid ++ list.extract mid last = list.extract first last := by
  simp only [List.extract_eq_take_drop]
  have split : last - first = (mid - first) + (last - mid) := by omega
  rw [split, List.take_add, List.drop_drop, Nat.add_sub_cancel' left]

theorem drop_extract (first last count : ℕ) :
    (list.extract first last).drop count = list.extract (first + count) last := by
  simp only [List.extract_eq_take_drop]
  rw [List.drop_take, List.drop_drop, Nat.sub_sub]

/-- The start of a segment is the segment that ends at a limit. -/
theorem take_extract (first last count limit : ℕ) (rest : count = limit - first) :
    (list.extract first last).take count = list.extract (min first limit) (min last limit) := by
  simp only [List.extract_eq_take_drop]
  rw [List.take_take]
  rcases le_total first limit with inside | beyond
  · rw [min_eq_left inside]
    congr 1
    omega
  · rw [show min count (last - first) = 0 by omega, show min last limit - min first limit = 0 by omega,
      List.take_zero, List.take_zero]

variable {bounds : ℕ → ℕ}

/-- **The segments together.** -/
theorem flatten_segments (ordered : Monotone bounds) (count : ℕ) :
    ((List.range count).map fun i => list.extract (bounds i) (bounds (i + 1))).flatten =
      list.extract (bounds 0) (bounds count) := by
  induction count with
  | zero => simp
  | succ count ih =>
    rw [List.range_succ, List.map_append, List.flatten_append, ih, List.map_singleton,
      List.flatten_singleton]
    exact extract_append list (ordered count.zero_le) (ordered count.le_succ)

/-- **The length of consecutive segments.** -/
theorem sum_segments (ordered : Monotone bounds) (first last : ℕ) :
    ((List.Ico first last).map fun i => bounds (i + 1) - bounds i).sum = bounds last - bounds first := by
  rcases le_total last first with none | some
  · rw [List.Ico.eq_nil_of_le none, Nat.sub_eq_zero_of_le (ordered none)]
    rfl
  induction last, some using Nat.le_induction with
  | base => simp
  | succ last some ih =>
    have before := ordered some
    have after : bounds last ≤ bounds (last + 1) := ordered last.le_succ
    rw [List.Ico.succ_top some, List.map_append, List.sum_append, ih, List.map_singleton,
      List.sum_singleton]
    omega

end Vanet.Library
