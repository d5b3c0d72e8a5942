/-
**Checked arithmetic of signed 64-bit numbers.**

A computation has its exact result, or none if that does not fit. Divisions are exact, and there is none by
zero; a cast cuts the fraction off.

* `isSome_checked_bind`, `isSome_checkedDiv_bind`: a sequence of computations is as good as each of them.
* `cast_div_between_iff`, `cast_div_fits_iff`: a quotient that fits after the cast, without the quotient.
-/

import Mathlib.Data.Rat.Floor
import Vanet.Library.Rounding

namespace Vanet.Library

/-- **The number is a signed 64-bit number.** -/
def Fits (value : ℤ) : Prop := -2 ^ 63 ≤ value ∧ value < 2 ^ 63

instance fitsDecidable (value : ℤ) : Decidable (Fits value) := inferInstanceAs (Decidable (_ ∧ _))

/-- The result of a computation, unless it overflows. -/
def checked (value : ℤ) : Option ℤ := if Fits value then some value else none

/-- A quotient, unless it is one by zero. -/
def checkedDiv (dividend divisor : ℚ) : Option ℚ := if divisor = 0 then none else some (dividend / divisor)

/-- The cast of a number with a fraction. -/
def checkedCast (value : ℚ) : Option ℤ := checked (towardZero value)

section Bind

variable {β : Type} {value : ℤ} {dividend divisor : ℚ}

theorem checked_of_fits (fits : Fits value) : checked value = some value := if_pos fits

theorem checked_eq_some {result : ℤ} : checked value = some result ↔ Fits value ∧ value = result := by
  unfold checked
  by_cases fits : Fits value <;> simp [fits]

theorem isSome_checked_bind (next : ℤ → Option β) :
    ((checked value).bind next).isSome ↔ Fits value ∧ (next value).isSome := by
  unfold checked
  by_cases fits : Fits value <;> simp [fits]

theorem isSome_checkedDiv_bind (next : ℚ → Option β) :
    ((checkedDiv dividend divisor).bind next).isSome ↔
      divisor ≠ 0 ∧ (next (dividend / divisor)).isSome := by
  unfold checkedDiv
  by_cases zero : divisor = 0 <;> simp [zero]

end Bind

/-! ### Quotients -/

/-- **A quotient is between two numbers after the cast**, one to each side of zero. -/
theorem cast_div_between_iff {dividend divisor : ℚ} (positive : 0 < divisor) {low high : ℤ} (below : low ≤ 0)
    (above : 0 < high) :
    low ≤ towardZero (dividend / divisor) ∧ towardZero (dividend / divisor) < high ↔
      (low - 1) * divisor < dividend ∧ dividend < high * divisor := by
  rw [le_towardZero_iff _ below, ← lt_div_iff₀ positive, towardZero_lt_iff _ above, div_lt_iff₀ positive]

/-- **A quotient fits after the cast** if and only if the dividend is small next to the divisor. There is
none such next to zero. -/
theorem cast_div_fits_iff {dividend divisor : ℚ} (nonneg : 0 ≤ divisor) :
    divisor ≠ 0 ∧ Fits (towardZero (dividend / divisor)) ↔
      -(2 ^ 63 + 1) * divisor < dividend ∧ dividend < 2 ^ 63 * divisor := by
  rcases nonneg.eq_or_lt with rfl | positive
  · rw [mul_zero, mul_zero]
    exact iff_of_false (fun fits => fits.1 rfl) fun small => lt_asymm small.1 small.2
  · rw [and_iff_right positive.ne', Fits, cast_div_between_iff positive (by norm_num) (by norm_num)]
    norm_num

end Vanet.Library
