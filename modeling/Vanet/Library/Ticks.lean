/-
**The ticks of a clock.**

The first so many multiples of a period after a start.

* `mem_ticks_iff`: which time points are ticks.
* `isChain_ticks`: one tick comes a period after the other.
-/

import Mathlib.Algebra.Order.Ring.Int
import Mathlib.Data.List.Chain
import Mathlib.Data.List.Induction

namespace Vanet.Library

variable {start period tick : ℤ} {count : ℕ}

def ticks (start period : ℤ) (count : ℕ) : List ℤ :=
  (List.range count).map fun n : ℕ => start + period * n

theorem ticks_succ (start period : ℤ) (count : ℕ) :
    ticks start period (count + 1) = ticks start period count ++ [start + period * count] := by
  unfold ticks
  rw [List.range_succ, List.map_append]
  rfl

/-- **One tick after the other.** -/
theorem isChain_ticks (start period : ℤ) (count : ℕ) :
    (ticks start period count).IsChain fun earlier later => later = earlier + period := by
  unfold ticks
  refine List.isChain_iff_getElem.mpr fun i _ => ?_
  rw [List.getElem_map, List.getElem_map, List.getElem_range, List.getElem_range, Nat.cast_succ, mul_add,
    mul_one, add_assoc]

/-- The ticks are on the grid, from the first one on. -/
theorem mem_ticks_iff (positive : 0 < period) :
    tick ∈ ticks start period count ↔
      period ∣ tick - start ∧ start ≤ tick ∧ tick < start + period * count := by
  unfold ticks
  constructor
  · intro member
    obtain ⟨n, small, rfl⟩ := List.mem_map.mp member
    have later : period * n < period * count :=
      mul_lt_mul_of_pos_left (Int.ofNat_lt.mpr (List.mem_range.mp small)) positive
    have nonneg : 0 ≤ period * n := mul_nonneg positive.le (Int.natCast_nonneg n)
    rw [add_sub_cancel_left]
    exact ⟨dvd_mul_right period n, by omega, by omega⟩
  · rintro ⟨⟨n, multiple⟩, after, before⟩
    have nonneg : 0 ≤ n := nonneg_of_mul_nonneg_right (by omega : 0 ≤ period * n) positive
    lift n to ℕ using nonneg
    have small : (n : ℤ) < count := lt_of_mul_lt_mul_left (by omega : period * n < period * count) positive.le
    refine List.mem_map.mpr ⟨n, List.mem_range.mpr (Int.ofNat_lt.mp small), ?_⟩
    omega

end Vanet.Library
