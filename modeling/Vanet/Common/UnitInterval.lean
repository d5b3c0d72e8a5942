/-
**Numbers within the unit interval.**

`UnitInterval` limits every number to the interval from 0 to 1. The numbers are exact here where the
source has floating point numbers. Comparisons are those of the values; the tolerant `operator==` of the
source is not used by them.
-/

import Mathlib.Algebra.Order.Field.Rat
import Mathlib.Algebra.Order.Group.MinMax
import Mathlib.Order.BoundedOrder.Basic
import Mathlib.Tactic.Linarith

namespace Vanet.Common

/-- **A number within the unit interval.** -/
@[ext] structure UnitInterval where
  value : ℚ
  nonneg : 0 ≤ value
  le_one : value ≤ 1
  deriving DecidableEq

namespace UnitInterval

theorem value_injective : Function.Injective UnitInterval.value :=
  fun _ _ same => UnitInterval.ext same

instance linearOrder : LinearOrder UnitInterval := .lift' UnitInterval.value value_injective

theorem le_iff {lhs rhs : UnitInterval} : lhs ≤ rhs ↔ lhs.value ≤ rhs.value := Iff.rfl

theorem lt_iff {lhs rhs : UnitInterval} : lhs < rhs ↔ lhs.value < rhs.value := by
  rw [← not_le, le_iff, not_le]

/-- `clamp`, on values. -/
def clampValue (v : ℚ) : ℚ := if v > 1 then 1 else if v < 0 then 0 else v

theorem clampValue_eq (v : ℚ) : clampValue v = min (max v 0) 1 := by
  unfold clampValue
  by_cases above : v > 1
  · rw [if_pos above, max_eq_left (by linarith), min_eq_right above.le]
  · by_cases below : v < 0
    · rw [if_neg above, if_pos below, max_eq_right below.le, min_eq_left zero_le_one]
    · rw [if_neg above, if_neg below, max_eq_left (not_lt.mp below), min_eq_left (not_lt.mp above)]

/-- A number within the interval stays. -/
theorem clampValue_of_mem {v : ℚ} (nonneg : 0 ≤ v) (le_one : v ≤ 1) : clampValue v = v := by
  unfold clampValue
  rw [if_neg (not_lt.mpr le_one), if_neg (not_lt.mpr nonneg)]

/-- `UnitInterval(double)`. -/
def ofValue (v : ℚ) : UnitInterval where
  value := clampValue v
  nonneg := by
    rw [clampValue_eq]
    exact le_min (le_max_right _ _) zero_le_one
  le_one := by
    rw [clampValue_eq]
    exact min_le_right _ _

instance zero : Zero UnitInterval := ⟨0, le_refl 0, zero_le_one⟩

instance orderBot : OrderBot UnitInterval where
  bot := 0
  bot_le interval := interval.nonneg

/-- `operator+` of two intervals. -/
instance add : Add UnitInterval := ⟨fun lhs rhs => ofValue (lhs.value + rhs.value)⟩

/-- `operator-` of two intervals. -/
instance sub : Sub UnitInterval := ⟨fun lhs rhs => ofValue (lhs.value - rhs.value)⟩

/-- `operator*` of two intervals, which needs no limit. -/
instance mul : Mul UnitInterval := ⟨fun lhs rhs =>
  ⟨lhs.value * rhs.value, mul_nonneg lhs.nonneg rhs.nonneg,
    mul_le_one₀ lhs.le_one rhs.nonneg rhs.le_one⟩⟩

/-- `operator+` with a number. -/
def addValue (lhs : UnitInterval) (rhs : ℚ) : UnitInterval := ofValue (lhs.value + rhs)

/-- `operator*` with a number. -/
def scale (lhs : ℚ) (rhs : UnitInterval) : UnitInterval := ofValue (lhs * rhs.value)

def complement (interval : UnitInterval) : UnitInterval where
  value := 1 - interval.value
  nonneg := sub_nonneg.mpr interval.le_one
  le_one := sub_le_self 1 interval.nonneg

/-- `mean` of two intervals. -/
def mean (lhs rhs : UnitInterval) : UnitInterval := ofValue (1 / 2 * (lhs.value + rhs.value))

/-- `mean` of a range. -/
def meanOf (range : List UnitInterval) : UnitInterval :=
  let accu := (range.map value).sum
  ofValue (if range.length > 1 then accu / range.length else accu)

@[simp] theorem value_ofValue (v : ℚ) : (ofValue v).value = clampValue v := rfl

@[simp] theorem value_zero : (0 : UnitInterval).value = 0 := rfl

@[simp] theorem value_mul (lhs rhs : UnitInterval) : (lhs * rhs).value = lhs.value * rhs.value := rfl

@[simp] theorem value_complement (interval : UnitInterval) :
    interval.complement.value = 1 - interval.value :=
  rfl

@[simp] theorem value_addValue (lhs : UnitInterval) (rhs : ℚ) :
    (lhs.addValue rhs).value = clampValue (lhs.value + rhs) :=
  rfl

theorem value_max (lhs rhs : UnitInterval) : (max lhs rhs).value = max lhs.value rhs.value :=
  (show Monotone UnitInterval.value from fun _ _ => id).map_max

theorem value_min (lhs rhs : UnitInterval) : (min lhs rhs).value = min lhs.value rhs.value :=
  (show Monotone UnitInterval.value from fun _ _ => id).map_min

/-- **Limiting brings numbers no further apart.** -/
theorem abs_limit_sub_le (lower upper v w : ℚ) :
    |min (max v lower) upper - min (max w lower) upper| ≤ |v - w| := by
  calc |min (max v lower) upper - min (max w lower) upper|
      ≤ max |max v lower - max w lower| |upper - upper| := abs_min_sub_min_le_max _ _ _ _
    _ = |max v lower - max w lower| := by rw [sub_self, abs_zero, max_eq_left (abs_nonneg _)]
    _ ≤ |v - w| := abs_max_sub_max_le_abs _ _ _

theorem abs_clampValue_sub_le (v w : ℚ) : |clampValue v - clampValue w| ≤ |v - w| := by
  rw [clampValue_eq, clampValue_eq]
  exact abs_limit_sub_le 0 1 v w

end UnitInterval

end Vanet.Common

namespace Vanet.Dcc

/-- `ChannelLoad`. -/
abbrev ChannelLoad := Common.UnitInterval

end Vanet.Dcc
