/-
**Rounding to the nearest integer, half away from zero, and toward zero.**

* `abs_sub_lround_le`: the nearest integer is at most one half away.
* `abs_sub_towardZero_lt`: the integer part is less than one away.
* `abs_sub_le_one_iff`: a word that an integer part is stored in is near the value exactly when it
  did not wrap around.
-/

import Mathlib.Algebra.Order.Floor.Ring
import Mathlib.Tactic.Linarith
import Mathlib.Tactic.NormNum

namespace Vanet.Library

variable {α : Type} [Field α] [LinearOrder α] [FloorRing α]

/-- The nearest integer; what lies in the middle is rounded away from zero. -/
def lround (value : α) : ℤ :=
  if 0 ≤ value then ⌊value + 1 / 2⌋ else -⌊-value + 1 / 2⌋

/-- The integer part of a value. -/
def towardZero (value : α) : ℤ := if 0 ≤ value then ⌊value⌋ else -⌊-value⌋

theorem towardZero_of_nonneg {value : α} (nonneg : 0 ≤ value) : towardZero value = ⌊value⌋ :=
  if_pos nonneg

theorem towardZero_of_neg {value : α} (negative : value < 0) : towardZero value = -⌊-value⌋ :=
  if_neg (not_le.mpr negative)

variable [IsStrictOrderedRing α]

section Nearest

variable {value : α} (nonneg : 0 ≤ value)

include nonneg

theorem le_lround_iff (n : ℤ) : n ≤ lround value ↔ (n : α) - 1 / 2 ≤ value := by
  unfold lround
  rw [if_pos nonneg, Int.le_floor, sub_le_iff_le_add]

theorem lround_lt_iff (n : ℤ) : lround value < n ↔ value < (n : α) - 1 / 2 := by
  rw [← not_le, le_lround_iff nonneg, not_le]

/-- **At most one half is rounded off.** -/
theorem abs_sub_lround_le : |value - (lround value : α)| ≤ 1 / 2 := by
  have below := (le_lround_iff nonneg (lround value)).mp le_rfl
  have above := (lround_lt_iff nonneg (lround value + 1)).mp (Int.lt_succ _)
  push_cast at above
  apply abs_le.mpr
  constructor <;> linarith

end Nearest

/-- Less than one is cut off. -/
theorem abs_sub_towardZero_lt (value : α) : |value - (towardZero value : α)| < 1 := by
  by_cases nonneg : 0 ≤ value
  · rw [towardZero_of_nonneg nonneg]
    have below := Int.floor_le value
    have above := Int.lt_floor_add_one value
    apply abs_lt.mpr
    constructor <;> linarith
  · rw [towardZero_of_neg (not_le.mp nonneg)]
    have below := Int.floor_le (-value)
    have above := Int.lt_floor_add_one (-value)
    push_cast
    apply abs_lt.mpr
    constructor <;> linarith

/-- What is cut off to less than a positive integer. -/
theorem towardZero_lt_iff (value : α) {n : ℤ} (positive : 0 < n) :
    towardZero value < n ↔ value < (n : α) := by
  by_cases nonneg : 0 ≤ value
  · rw [towardZero_of_nonneg nonneg, Int.floor_lt]
  · rw [towardZero_of_neg (not_le.mp nonneg)]
    have bound : (0 : α) < (n : α) := by exact_mod_cast positive
    have flipped : 0 ≤ ⌊-value⌋ := Int.floor_nonneg.mpr (by linarith)
    exact iff_of_true (by omega) (by linarith)

/-- What is cut off to at least an integer that is not positive. -/
theorem le_towardZero_iff (value : α) {n : ℤ} (nonpositive : n ≤ 0) :
    n ≤ towardZero value ↔ (n : α) - 1 < value := by
  have bound : (n : α) ≤ 0 := by exact_mod_cast nonpositive
  by_cases nonneg : 0 ≤ value
  · rw [towardZero_of_nonneg nonneg]
    have floored : 0 ≤ ⌊value⌋ := Int.floor_nonneg.mpr nonneg
    exact iff_of_true (by omega) (by linarith)
  · rw [towardZero_of_neg (not_le.mp nonneg), le_neg, ← Int.lt_add_one_iff, Int.floor_lt]
    push_cast
    constructor <;> intro <;> linarith

/-- **A word that holds an integer part up to a modulus** differs by at most one from the value
exactly when it is the integer part. -/
theorem abs_sub_le_one_iff {value : α} {word modulus : ℤ} (room : 2 ≤ modulus)
    (wrapped : modulus ∣ word - towardZero value) :
    |value - (word : α)| ≤ 1 ↔ word = towardZero value := by
  have cut := abs_lt.mp (abs_sub_towardZero_lt value)
  constructor
  · intro near
    have near := abs_le.mp near
    have upper : (word : α) < (towardZero value : α) + 2 := by linarith [near.1, cut.2]
    have lower : (towardZero value : α) < (word : α) + 2 := by linarith [near.2, cut.1]
    have upper : word < towardZero value + 2 := by exact_mod_cast upper
    have lower : towardZero value < word + 2 := by exact_mod_cast lower
    have zero : word - towardZero value = 0 := by
      apply Int.eq_zero_of_abs_lt_dvd wrapped
      apply abs_lt.mpr
      constructor <;> omega
    omega
  · intro same
    rw [same]
    exact le_of_lt (abs_sub_towardZero_lt value)

end Vanet.Library
