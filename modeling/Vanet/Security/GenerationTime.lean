/-
**The window of the generation time.**

`check_generation_time` compares unsigned numbers of 64 bits. The upper end of the window never wraps
around, the lower one does as long as the clock has not run for the length of the past: then it is near
2^64 and no generation time is accepted (`generation_time_iff`).
-/

import Vanet.Security.Soundness

namespace Vanet.Security

open Vanet.Library

variable {message : SecuredMessage} {now : ℕ} {generationTime : Time64}

/-- **The window**, in integers of microseconds. -/
def InWindow (message : SecuredMessage) (now : ℕ) (generationTime : Time64) : Prop :=
  (now : ℤ) - (if isCa message then seconds 2 else minutes 10 : ℕ) ≤ generationTime.toNat ∧
    (generationTime.toNat : ℤ) ≤ now + milliseconds 40

/-- The past is longer than the future. -/
theorem generationTimePast_le (message : SecuredMessage) :
    generationTimeFuture < generationTimePast message ∧ generationTimePast message < 2 ^ 62 := by
  unfold generationTimePast
  split_ifs
  · decide
  · decide

/-- **The comparisons of the code**: the lower end is taken modulo 2^64. -/
theorem checkGenerationTime_iff (present : message.generationTime = some generationTime)
    (clock : now < 2 ^ 63) :
    checkGenerationTime message now = true ↔
      ((now : ℤ) - generationTimePast message) % 2 ^ 64 ≤ generationTime.toNat ∧
        (generationTime.toNat : ℤ) ≤ now + generationTimeFuture := by
  have lower := convertTime64_toNat (now - generationTimePast message)
  have upper : ((convertTime64 (now + generationTimeFuture)).toNat : ℤ) = now + generationTimeFuture := by
    rw [convertTime64_toNat]
    refine Int.emod_eq_of_lt (by omega) ?_
    have window : generationTimeFuture = 40000 := rfl
    omega
  unfold checkGenerationTime
  rw [present]
  simp only
  constructor
  · intro checked
    split_ifs at checked with late early
    have notLate := UInt64.le_iff_toNat_le.mp (UInt64.not_lt.mp late)
    have notEarly := UInt64.le_iff_toNat_le.mp (UInt64.not_lt.mp early)
    omega
  · rintro ⟨above, below⟩
    rw [if_neg, if_neg]
    · refine UInt64.not_lt.mpr (UInt64.le_iff_toNat_le.mpr ?_)
      omega
    · refine UInt64.not_lt.mpr (UInt64.le_iff_toNat_le.mpr ?_)
      omega

/-- **When the check is that of the window.** A generation time is accepted exactly if it lies in the
window, if and only if the clock has run for the length of the past or the generation time lies beyond
the window's upper end. `now` is a signed number of 64 bits. -/
theorem generation_time_iff (present : message.generationTime = some generationTime)
    (clock : now < 2 ^ 63) :
    (checkGenerationTime message now = true ↔ InWindow message now generationTime) ↔
      (if isCa message then seconds 2 else minutes 10) ≤ now ∨
        now + milliseconds 40 < generationTime.toNat := by
  obtain ⟨longer, short⟩ := generationTimePast_le message
  rw [checkGenerationTime_iff present clock]
  show (_ ↔ (now : ℤ) - generationTimePast message ≤ generationTime.toNat ∧
    (generationTime.toNat : ℤ) ≤ now + generationTimeFuture) ↔
      generationTimePast message ≤ now ∨ now + generationTimeFuture < generationTime.toNat
  by_cases running : generationTimePast message ≤ now
  · have exact : ((now : ℤ) - generationTimePast message) % 2 ^ 64 =
        now - generationTimePast message :=
      Int.emod_eq_of_lt (by omega) (by omega)
    rw [exact]
    exact ⟨fun _ => .inl running, fun _ => Iff.rfl⟩
  · have wrapped : ((now : ℤ) - generationTimePast message) % 2 ^ 64 =
        now - generationTimePast message + 2 ^ 64 := by
      rw [← Int.add_emod_right]
      exact Int.emod_eq_of_lt (by omega) (by omega)
    rw [wrapped]
    omega

/-- A CAM of one second after the epoch. -/
def epochCam : SecuredMessage where
  headerFields := [.generationTime 1000000, .itsAid ⟨36⟩]
  payload := ⟨1, []⟩
  trailerFields := []

/-- An hour later it is too old. -/
theorem generation_time_iff_hour : checkGenerationTime epochCam 3600000000 = false := by
  have window := (@generation_time_iff epochCam 3600000000 1000000 rfl (by decide)).mpr
    (.inl (by decide))
  by_contra accepted
  exact absurd (window.mp (Bool.not_eq_false _ ▸ accepted)).1 (by decide)

/-- At the time it was generated it is rejected. -/
theorem epochCam_rejected :
    ¬ ∀ (message : SecuredMessage) (now : ℕ) (generationTime : Time64),
      message.generationTime = some generationTime → now < 2 ^ 63 →
        (checkGenerationTime message now = true ↔ InWindow message now generationTime) := by
  intro claimed
  have rejected : checkGenerationTime epochCam 1000000 = false := by decide +kernel
  have accepted := (claimed epochCam 1000000 1000000 rfl (by decide)).mpr (by
    constructor
    · decide
    · decide)
  exact Bool.false_ne_true (rejected.symm.trans accepted)

end Vanet.Security
