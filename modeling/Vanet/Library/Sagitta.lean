/-
**The height of an arc over its chord.**

A curve that turns by an angle over a chord of some length leaves the chord by at most its sagitta. The
angle has a sign, and so has the sagitta.

* `radius_sub_eq_sagitta`: the radius less the distance of the chord from the centre.
* `sagitta_le_of_small`: an angle of less than one degree over a short chord hardly leaves it.
-/

import Mathlib.Analysis.Real.Pi.Bounds
import Mathlib.Analysis.SpecialFunctions.Trigonometric.Bounds

namespace Vanet.Library

open Real

/-- **The sagitta** of a chord and a turning angle. -/
noncomputable def sagitta (chord angle : ℝ) : ℝ := 0.5 * chord * tan (0.25 * angle)

variable {chord angle : ℝ}

theorem sagitta_eq : sagitta chord angle = chord / 2 * tan (angle / 4) := by
  have half : (0.5 : ℝ) * chord = chord / 2 := by ring
  have quarter : (0.25 : ℝ) * angle = angle / 4 := by ring
  rw [sagitta, half, quarter]

/-- **The radius less the distance of the chord** from the centre of the arc. -/
theorem radius_sub_eq_sagitta (chord : ℝ) (turns : angle ≠ 0) (small : |angle| < 2 * π) :
    chord / (2.0 * sin (angle * 0.5)) - chord / (2.0 * sin (angle * 0.5)) * cos (0.5 * angle) =
      sagitta chord angle := by
  obtain ⟨below, above⟩ := abs_lt.mp small
  have half : angle * 0.5 = 2 * (angle / 4) := by ring
  have half' : 0.5 * angle = 2 * (angle / 4) := by ring
  have two : (2.0 : ℝ) = 2 := by norm_num
  have cosine : 0 < cos (angle / 4) := cos_pos_of_mem_Ioo ⟨by linarith, by linarith⟩
  have sine : sin (angle / 4) ≠ 0 := by
    rcases lt_or_gt_of_ne turns with left | right
    · exact (sin_neg_of_neg_of_neg_pi_lt (by linarith) (by linarith)).ne
    · exact (sin_pos_of_pos_of_lt_pi (by linarith) (by linarith)).ne'
  rw [sagitta_eq, half, half', two, sin_two_mul, cos_two_mul, tan_eq_sin_div_cos]
  have square : sin (angle / 4) ^ 2 = 1 - cos (angle / 4) ^ 2 := by
    rw [← sin_sq_add_cos_sq (angle / 4)]
    ring
  field_simp
  rw [square]
  ring

theorem sagitta_nonpos (chord_nonneg : 0 ≤ chord) (left : angle ≤ 0) (small : -(2 * π) < angle) :
    sagitta chord angle ≤ 0 := by
  have mirrored : 0 ≤ tan (-(angle / 4)) :=
    tan_nonneg_of_nonneg_of_le_pi_div_two (by linarith) (by linarith)
  rw [tan_neg] at mirrored
  rw [sagitta_eq]
  exact mul_nonpos_of_nonneg_of_nonpos (by positivity) (by linarith)

theorem sagitta_mono {other : ℝ} (chord_nonneg : 0 ≤ chord) (lower : -(2 * π) < angle) (le : angle ≤ other)
    (upper : other < 2 * π) : sagitta chord angle ≤ sagitta chord other := by
  rw [sagitta_eq, sagitta_eq]
  refine mul_le_mul_of_nonneg_left ?_ (by positivity)
  exact strictMonoOn_tan.monotoneOn ⟨by linarith, by linarith⟩ ⟨by linarith, by linarith⟩ (by linarith)

/-- **A small angle** over a chord of at most 22.5 m. -/
theorem sagitta_le_of_small (chord_nonneg : 0 ≤ chord) (short : chord ≤ 22.5) (right : 0 ≤ angle)
    (small : angle < π / 180) : sagitta chord angle ≤ 1 / 10 := by
  have quarter : angle / 4 ≤ 5 / 1000 := by
    have bound := pi_lt_d2
    linarith
  have nonneg : 0 ≤ angle / 4 := by linarith
  have sine : sin (angle / 4) ≤ angle / 4 := sin_le nonneg
  have cosine : 9 / 10 ≤ cos (angle / 4) := by
    have below := one_sub_sq_div_two_le_cos (x := angle / 4)
    nlinarith
  have tangent : tan (angle / 4) ≤ 6 / 1000 := by
    rw [tan_eq_sin_div_cos, div_le_iff₀ (by linarith)]
    linarith
  rw [sagitta_eq]
  calc
    chord / 2 * tan (angle / 4) ≤ chord / 2 * (6 / 1000) := mul_le_mul_of_nonneg_left tangent (by linarith)
    _ ≤ 1 / 10 := by linarith

end Vanet.Library
