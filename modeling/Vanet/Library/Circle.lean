/-
**Angles on a circle.**

Numbers of an ordered field are read as angles on a circle of circumference `period`. The reduced angle
lies in `[0, period)`, the circular distance is that to the nearest representative.

* `circularDistance_le_iff`: the distance is within a bound if that of some representative is.
* `circularDistance_reduce`, `reduce_sub_reduce`, `circularDistance_neg`: the distance does not
  depend on the representative, on the origin or on the orientation.
-/

import Mathlib.Algebra.Order.Round
import Mathlib.Tactic.FieldSimp
import Mathlib.Tactic.Linarith
import Mathlib.Tactic.Ring

namespace Vanet.Library

variable {α : Type} [Field α] [LinearOrder α] [IsStrictOrderedRing α] [FloorRing α]
variable {period : α}

/-- The angle in `[0, period)`. -/
def reduce (period angle : α) : α := angle - ⌊angle / period⌋ * period

/-- The distance to the nearest representative of the other angle. -/
def circularDistance (period angle other : α) : α :=
  |angle - other - round ((angle - other) / period) * period|

/-- **Some representative is as near as that.** -/
theorem circularDistance_le_iff (positive : 0 < period) {angle other bound : α} :
    circularDistance period angle other ≤ bound ↔
      ∃ turns : ℤ, |angle - other - turns * period| ≤ bound := by
  constructor
  · intro near
    exact ⟨_, near⟩
  · rintro ⟨turns, near⟩
    have scaled : ∀ n : ℤ, |angle - other - n * period| =
        |(angle - other) / period - n| * period := by
      intro n
      rw [← abs_of_pos positive, ← abs_mul, abs_of_pos positive, sub_mul,
        div_mul_cancel₀ _ (ne_of_gt positive)]
    have nearest := round_le ((angle - other) / period) turns
    calc circularDistance period angle other
        = |(angle - other) / period - round ((angle - other) / period)| * period := scaled _
      _ ≤ |(angle - other) / period - turns| * period :=
          mul_le_mul_of_nonneg_right nearest (le_of_lt positive)
      _ = |angle - other - turns * period| := (scaled turns).symm
      _ ≤ bound := near

/-- Two angles that are as near to each other as two others. -/
theorem circularDistance_congr (positive : 0 < period) {angle other angle' other' : α}
    (same : ∃ turns : ℤ, angle' - other' = angle - other + turns * period) :
    circularDistance period angle' other' = circularDistance period angle other := by
  obtain ⟨turns, difference⟩ := same
  refine eq_of_forall_ge_iff fun bound => ?_
  rw [circularDistance_le_iff positive, circularDistance_le_iff positive, difference]
  constructor
  · rintro ⟨n, near⟩
    refine ⟨n - turns, ?_⟩
    rw [Int.cast_sub, sub_mul]
    rwa [show angle - other - (n * period - turns * period) =
      angle - other + turns * period - n * period by ring]
  · rintro ⟨n, near⟩
    refine ⟨n + turns, ?_⟩
    rw [Int.cast_add, add_mul]
    rwa [show angle - other + turns * period - (n * period + turns * period) =
      angle - other - n * period by ring]

/-- **The representative does not matter.** -/
theorem circularDistance_reduce (positive : 0 < period) (angle other : α) :
    circularDistance period (reduce period angle) other = circularDistance period angle other :=
  circularDistance_congr positive ⟨-⌊angle / period⌋, by
    unfold reduce
    push_cast
    ring⟩

/-- **The origin does not matter.** -/
theorem reduce_sub_reduce (positive : 0 < period) (angle other shift : α) (target : α) :
    circularDistance period (reduce period (angle + shift) - reduce period (other + shift)) target =
      circularDistance period (angle - other) target :=
  circularDistance_congr positive
    ⟨⌊(other + shift) / period⌋ - ⌊(angle + shift) / period⌋, by
      unfold reduce
      push_cast
      ring⟩

/-- **The orientation does not matter.** -/
theorem circularDistance_neg (positive : 0 < period) (angle other : α) :
    circularDistance period (-angle) (-other) = circularDistance period angle other := by
  refine eq_of_forall_ge_iff fun bound => ?_
  rw [circularDistance_le_iff positive, circularDistance_le_iff positive]
  constructor
  · rintro ⟨n, near⟩
    refine ⟨-n, ?_⟩
    rw [← abs_neg]
    rwa [show -(angle - other - ((-n : ℤ) : α) * period) = -angle - -other - n * period by
      push_cast; ring]
  · rintro ⟨n, near⟩
    refine ⟨-n, ?_⟩
    rw [← abs_neg]
    rwa [show -(-angle - -other - ((-n : ℤ) : α) * period) = angle - other - n * period by
      push_cast; ring]

end Vanet.Library
