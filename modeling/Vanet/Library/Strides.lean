/-
**Covering lengths by strides.**

A list of lengths is covered one after the other, each by strides of at least a given size. What a stride has
too much at the end of a length is lost.

* `strides_lt`: a stride within a length leaves fewer.
* `stridesLeft_lt_onward`, `stridesLeft_lt_next`: so does every stride on the lengths.
-/

import Mathlib.Algebra.Order.Floor.Semifield

namespace Vanet.Library

variable {K : Type} [Field K] [LinearOrder K] [IsStrictOrderedRing K] [FloorSemiring K]

/-- **The strides of a given size that cover a length**. At least one is taken. -/
def strides (least length : K) : ℕ := max 1 ⌈length / least⌉₊

/-- The strides that are left on the lengths, when a part of the first one is covered. -/
def stridesLeft (least : K) : List K → K → ℕ
  | [], _ => 0
  | length :: rest, covered => strides least (length - covered) + (rest.map (strides least)).sum

variable {least stride covered length : K} {rest : List K}

omit [IsStrictOrderedRing K] in
theorem strides_pos : 0 < strides least length := le_max_left 1 _

/-- **A stride within a length** leaves fewer. -/
theorem strides_lt (positive : 0 < least) (enough : least ≤ stride) (within : stride < length) :
    strides least (length - stride) < strides least length := by
  have more : 0 < (length - stride) / least := div_pos (sub_pos.mpr within) positive
  have some_left : 1 ≤ ⌈(length - stride) / least⌉₊ := Nat.ceil_pos.mpr more
  have one_less : (length - stride) / least + 1 ≤ length / least := by
    rw [div_add_one positive.ne']
    exact div_le_div_of_nonneg_right (by linarith) positive.le
  unfold strides
  calc max 1 ⌈(length - stride) / least⌉₊ = ⌈(length - stride) / least⌉₊ := max_eq_right some_left
    _ < ⌈(length - stride) / least⌉₊ + 1 := Nat.lt_succ_self _
    _ = ⌈(length - stride) / least + 1⌉₊ := (Nat.ceil_add_one more.le).symm
    _ ≤ ⌈length / least⌉₊ := Nat.ceil_mono one_less
    _ ≤ max 1 ⌈length / least⌉₊ := le_max_right _ _

/-- A stride that does not reach the end of the first length. -/
theorem stridesLeft_lt_onward (positive : 0 < least) (enough : least ≤ stride)
    (within : covered + stride < length) :
    stridesLeft least (length :: rest) (covered + stride) < stridesLeft least (length :: rest) covered := by
  rw [stridesLeft, stridesLeft, ← sub_sub]
  exact Nat.add_lt_add_right (strides_lt positive enough (by linarith)) _

omit [IsStrictOrderedRing K] in
/-- A stride that reaches the end of the first length. -/
theorem stridesLeft_lt_next : stridesLeft least rest 0 < stridesLeft least (length :: rest) covered := by
  have same : stridesLeft least rest 0 = (rest.map (strides least)).sum := by
    cases rest with
    | nil => rfl
    | cons next rest =>
      rw [stridesLeft, sub_zero, List.map_cons, List.sum_cons]
  rw [same, stridesLeft]
  exact Nat.lt_add_of_pos_left strides_pos

end Vanet.Library
