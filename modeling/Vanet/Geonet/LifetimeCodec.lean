/-
**The codec of lifetimes.**

`encode` rounds to the nearest multiple of the base that it selects. It changes to a coarser base at 3.15,
63 and 630 seconds, the largest durations of the finer ones: 63 multiples of 50 ms become 3 s, and so the
order of durations on both sides of a threshold is not kept.

The durations are rational numbers of seconds here, and the quotient that is rounded is exact where the code
divides doubles; `encode_eq` and `decode_eq` say that the codec of `Lifetime` is the same one at whole
microseconds.
-/

import Mathlib.Data.Rat.Floor
import Vanet.Geonet.Headers
import Vanet.Library.Rounding

namespace Vanet.Geonet

open Vanet.Library (le_lround_iff lround_lt_iff abs_sub_lround_le)

namespace Lifetime

/-! ### Durations in seconds -/

/-- The duration of one multiplier. -/
def Base.seconds : Base → ℚ
  | fiftyMilliseconds => 1 / 20
  | oneSecond => 1
  | tenSeconds => 10
  | hundredSeconds => 100

/-- The base that `encode` selects. -/
def Base.select (seconds : ℚ) : Base :=
  if seconds ≥ 630 then hundredSeconds
  else if seconds ≥ 63 then tenSeconds
  else if seconds ≥ 63 / 20 then oneSecond
  else fiftyMilliseconds

/-- The multiplier, before it is put into six bits. -/
def roundedMultiplier (seconds : ℚ) : ℤ := Vanet.Library.lround (seconds / (Base.select seconds).seconds)

/-- `encode`. -/
def encodeSeconds (seconds : ℚ) : Lifetime := set (Base.select seconds) (roundedMultiplier seconds)

/-- `decode`. -/
def decodeSeconds (lifetime : Lifetime) : ℚ := lifetime.multiplier * lifetime.base.seconds

/-- What becomes of a duration that is encoded. -/
def transmitted (seconds : ℚ) : ℚ := (encodeSeconds seconds).decodeSeconds

theorem Base.seconds_pos (base : Base) : 0 < base.seconds := by cases base <;> norm_num [Base.seconds]

theorem Base.unit_eq (base : Base) : (base.unit : ℚ) = base.seconds * 1000000 := by
  cases base <;> norm_num [Base.unit, Base.seconds]

theorem decode_eq (lifetime : Lifetime) : (lifetime.decode : ℚ) = lifetime.decodeSeconds * 1000000 := by
  unfold decode decodeSeconds
  push_cast
  rw [Base.unit_eq, mul_assoc]

/-- Microseconds are compared with the same thresholds. -/
theorem Base.choose_eq (duration : ℤ) : Base.choose duration = Base.select (duration / 1000000) := by
  have threshold (n : ℤ) (limit : ℚ) (same : (n : ℚ) = limit * 1000000) :
      duration ≥ n ↔ (duration : ℚ) / 1000000 ≥ limit := by
    rw [ge_iff_le, ge_iff_le, le_div_iff₀ (by norm_num), ← same, Int.cast_le]
  unfold Base.choose Base.select
  simp only [threshold 630000000 630 (by norm_num), threshold 63000000 63 (by norm_num),
    threshold 3150000 (63 / 20) (by norm_num)]

/-- So are quotients rounded. -/
theorem lround_eq (dividend divisor : ℤ) (positive : 0 < divisor) :
    lround dividend divisor = Vanet.Library.lround ((dividend : ℚ) / divisor) := by
  have divides : (0 : ℚ) < divisor := by exact_mod_cast positive
  have halves (n : ℤ) : ⌊(n : ℚ) / divisor + 1 / 2⌋ = (2 * n + divisor) / (2 * divisor) := by
    obtain ⟨natural, rfl⟩ := Int.eq_ofNat_of_zero_le positive.le
    have quotient : (n : ℚ) / (natural : ℤ) + 1 / 2 =
        ((2 * n + natural : ℤ) : ℚ) / ((2 * natural : ℕ) : ℚ) := by
      push_cast at divides ⊢
      field_simp
    rw [quotient, Rat.floor_intCast_div_natCast]
    rfl
  have sign : 0 ≤ dividend ↔ 0 ≤ (dividend : ℚ) / divisor := by
    rw [le_div_iff₀ divides, zero_mul, Int.cast_nonneg_iff]
  have negated := halves (-dividend)
  push_cast at negated
  unfold lround Vanet.Library.lround
  rw [← neg_div, halves dividend, negated]
  exact if_congr sign rfl rfl

/-- **The codec at whole microseconds.** -/
theorem encode_eq (duration : ℤ) : encode duration = encodeSeconds (duration / 1000000) := by
  unfold encode encodeSeconds roundedMultiplier
  dsimp only
  rw [Base.choose_eq, lround_eq _ _ (Base.unit_pos _), Base.unit_eq]
  congr 2
  field_simp

/-! ### Rounding -/

section Rounding

variable {seconds : ℚ} (nonneg : 0 ≤ seconds)

include nonneg

theorem quotient_nonneg : 0 ≤ seconds / (Base.select seconds).seconds :=
  div_nonneg nonneg (Base.seconds_pos _).le

theorem le_roundedMultiplier (n : ℤ) :
    n ≤ roundedMultiplier seconds ↔ ((n : ℚ) - 1 / 2) * (Base.select seconds).seconds ≤ seconds := by
  unfold roundedMultiplier
  rw [le_lround_iff (quotient_nonneg nonneg), le_div_iff₀ (Base.seconds_pos _)]

/-- **The multiplier never overflows.** -/
theorem roundedMultiplier_fits (bounded : seconds ≤ 6300) :
    0 ≤ roundedMultiplier seconds ∧ roundedMultiplier seconds < 64 := by
  refine ⟨?_, ?_⟩
  · rw [le_roundedMultiplier nonneg]
    have unit := Base.seconds_pos (Base.select seconds)
    push_cast
    nlinarith
  · rw [← not_le, le_roundedMultiplier nonneg, not_le]
    unfold Base.select
    split_ifs <;> norm_num [Base.seconds] <;> linarith

theorem transmitted_eq (bounded : seconds ≤ 6300) :
    transmitted seconds = roundedMultiplier seconds * (Base.select seconds).seconds := by
  obtain ⟨low, high⟩ := roundedMultiplier_fits nonneg bounded
  have decoded := congrArg (Int.cast (R := ℚ)) (@decode_set (Base.select seconds) _ low high)
  rw [decode_eq, Int.cast_mul, Base.unit_eq, ← mul_assoc] at decoded
  exact mul_right_cancel₀ (by norm_num) decoded

/-- **A duration is moved by at most half of the unit** that is selected for it. -/
theorem abs_sub_transmitted_le (bounded : seconds ≤ 6300) :
    |seconds - transmitted seconds| ≤ (Base.select seconds).seconds / 2 := by
  have unit := Base.seconds_pos (Base.select seconds)
  have near := abs_sub_lround_le (quotient_nonneg nonneg)
  have scaled : seconds - transmitted seconds =
      (seconds / (Base.select seconds).seconds - roundedMultiplier seconds) *
        (Base.select seconds).seconds := by
    rw [transmitted_eq nonneg bounded, sub_mul, div_mul_cancel₀ _ unit.ne']
  rw [scaled, abs_mul, abs_of_pos unit]
  calc _ ≤ 1 / 2 * (Base.select seconds).seconds := mul_le_mul_of_nonneg_right near unit.le
    _ = (Base.select seconds).seconds / 2 := one_div_mul_eq_div _ _

theorem le_transmitted_iff (bounded : seconds ≤ 6300) (n : ℤ) :
    n * (Base.select seconds).seconds ≤ transmitted seconds ↔
      ((n : ℚ) - 1 / 2) * (Base.select seconds).seconds ≤ seconds := by
  rw [transmitted_eq nonneg bounded, mul_le_mul_iff_left₀ (Base.seconds_pos _), Int.cast_le,
    le_roundedMultiplier nonneg]

theorem transmitted_le_iff (bounded : seconds ≤ 6300) (n : ℤ) :
    transmitted seconds ≤ n * (Base.select seconds).seconds ↔
      seconds < ((n : ℚ) + 1 / 2) * (Base.select seconds).seconds := by
  have next := le_roundedMultiplier nonneg (n + 1)
  push_cast at next
  rw [transmitted_eq nonneg bounded, mul_le_mul_iff_left₀ (Base.seconds_pos _), Int.cast_le,
    ← Int.lt_add_one_iff, ← not_le, next, not_le, show (n : ℚ) + 1 - 1 / 2 = n + 1 / 2 by ring]

end Rounding

/-! ### Order -/

/-- **Two durations on both sides of a threshold**, of which the shorter one is rounded up, and the longer
one is rounded down below that. -/
def Crosses (shorter longer : ℚ) : Prop :=
  (121 / 40 ≤ shorter ∧ shorter < 63 / 20 ∧ 63 / 20 ≤ longer ∧ longer < 7 / 2) ∨
    (121 / 2 ≤ shorter ∧ shorter < 63 ∧ 63 ≤ longer ∧ longer < 65) ∨
    (605 ≤ shorter ∧ shorter < 630 ∧ 630 ≤ longer ∧ longer < 650)

/-- Between which thresholds a duration lies. -/
theorem select_cases (seconds : ℚ) :
    (Base.select seconds = .fiftyMilliseconds ∧ seconds < 63 / 20) ∨
      (Base.select seconds = .oneSecond ∧ 63 / 20 ≤ seconds ∧ seconds < 63) ∨
      (Base.select seconds = .tenSeconds ∧ 63 ≤ seconds ∧ seconds < 630) ∨
      (Base.select seconds = .hundredSeconds ∧ 630 ≤ seconds) := by
  unfold Base.select
  by_cases hundred : seconds ≥ 630
  · exact .inr (.inr (.inr ⟨if_pos hundred, hundred⟩))
  by_cases ten : seconds ≥ 63
  · refine .inr (.inr (.inl ⟨?_, ten, not_le.mp hundred⟩))
    rw [if_neg hundred, if_pos ten]
  by_cases one : seconds ≥ 63 / 20
  · refine .inr (.inl ⟨?_, one, not_le.mp ten⟩)
    rw [if_neg hundred, if_neg ten, if_pos one]
  · refine .inl ⟨?_, not_le.mp one⟩
    rw [if_neg hundred, if_neg ten, if_neg one]

section Order

variable {shorter longer : ℚ} (nonneg : 0 ≤ shorter) (ordered : shorter ≤ longer)
  (bounded : longer ≤ 6300)

include nonneg ordered bounded

/-- Multiples that keep two durations apart in their order, ... -/
theorem transmitted_le_of (n m : ℤ)
    (apart : n * (Base.select shorter).seconds ≤ m * (Base.select longer).seconds)
    (above : shorter < ((n : ℚ) + 1 / 2) * (Base.select shorter).seconds)
    (below : ((m : ℚ) - 1 / 2) * (Base.select longer).seconds ≤ longer) :
    transmitted shorter ≤ transmitted longer :=
  calc transmitted shorter
    _ ≤ n * (Base.select shorter).seconds :=
      (transmitted_le_iff nonneg (ordered.trans bounded) n).mpr above
    _ ≤ m * (Base.select longer).seconds := apart
    _ ≤ transmitted longer := (le_transmitted_iff (nonneg.trans ordered) bounded m).mpr below

/-- ... and against it. -/
theorem transmitted_lt_of (n m : ℤ)
    (apart : m * (Base.select longer).seconds < n * (Base.select shorter).seconds)
    (above : longer < ((m : ℚ) + 1 / 2) * (Base.select longer).seconds)
    (below : ((n : ℚ) - 1 / 2) * (Base.select shorter).seconds ≤ shorter) :
    transmitted longer < transmitted shorter :=
  calc transmitted longer
    _ ≤ m * (Base.select longer).seconds :=
      (transmitted_le_iff (nonneg.trans ordered) bounded m).mpr above
    _ < n * (Base.select shorter).seconds := apart
    _ ≤ transmitted shorter := (le_transmitted_iff nonneg (ordered.trans bounded) n).mpr below

/-- Durations of one base keep their order. -/
theorem transmitted_le_of_select (same : Base.select shorter = Base.select longer) :
    transmitted shorter ≤ transmitted longer := by
  have unit := Base.seconds_pos (Base.select longer)
  rw [transmitted_eq nonneg (ordered.trans bounded), transmitted_eq (nonneg.trans ordered) bounded,
    same, mul_le_mul_iff_left₀ unit, Int.cast_le, le_roundedMultiplier (nonneg.trans ordered)]
  have reached := (le_roundedMultiplier nonneg _).mp le_rfl
  rw [same] at reached
  exact reached.trans ordered

/-- **Durations of two bases**: up to 60 multiples of the finer one, and from `k + 1` multiples of the
coarser one on, the order is kept. In between, 61 to 63 multiples are more than `k` of the coarser base. -/
theorem transmitted_across (k : ℤ)
    (level : 60 * (Base.select shorter).seconds = k * (Base.select longer).seconds)
    (coarser : 63 * (Base.select shorter).seconds ≤ (k + 1) * (Base.select longer).seconds)
    (before : shorter < 63 * (Base.select shorter).seconds)
    (behind : ((k : ℚ) - 1 / 2) * (Base.select longer).seconds ≤ longer) :
    transmitted shorter ≤ transmitted longer ↔
      ¬ (121 / 2 * (Base.select shorter).seconds ≤ shorter ∧
        longer < ((k : ℚ) + 1 / 2) * (Base.select longer).seconds) := by
  have unit := Base.seconds_pos (Base.select shorter)
  constructor
  · rintro kept ⟨raised, lowered⟩
    refine not_lt.mpr kept (transmitted_lt_of nonneg ordered bounded 61 k ?_ lowered ?_)
    · rw [← level]
      push_cast
      linarith
    · push_cast
      linarith
  · intro apart
    by_cases raised : 121 / 2 * (Base.select shorter).seconds ≤ shorter
    · have far := not_lt.mp fun lowered => apart ⟨raised, lowered⟩
      refine transmitted_le_of nonneg ordered bounded 63 (k + 1) ?_ ?_ ?_
      · push_cast
        exact coarser
      · push_cast
        linarith
      · push_cast
        linarith
    · refine transmitted_le_of nonneg ordered bounded 60 k ?_ ?_ behind
      · push_cast
        exact level.le
      · push_cast
        linarith [not_le.mp raised]

/-- **The order of two durations is kept** unless they cross a threshold. -/
theorem transmitted_le_iff_not_crosses :
    transmitted shorter ≤ transmitted longer ↔ ¬ Crosses shorter longer := by
  have alike := transmitted_le_of_select nonneg ordered bounded
  have across := transmitted_across nonneg ordered bounded
  have apart := transmitted_le_of nonneg ordered bounded
  unfold Crosses
  rcases select_cases shorter with
    ⟨finer, high⟩ | ⟨finer, low, high⟩ | ⟨finer, low, high⟩ | ⟨finer, low⟩
  all_goals
    rcases select_cases longer with
      ⟨coarser, high'⟩ | ⟨coarser, low', high'⟩ | ⟨coarser, low', high'⟩ | ⟨coarser, low'⟩
  all_goals
    rw [finer, coarser] at alike across apart
    simp only [Base.seconds] at across apart
    -- a longer duration has no finer base
    try exact absurd ordered (by linarith)
    try exact iff_of_true (alike rfl) (by grind)
  · rw [across 3 (by norm_num) (by norm_num) (by linarith) (by push_cast; linarith)]
    grind
  · have kept := apart 63 6 (by norm_num) (by push_cast; linarith) (by push_cast; linarith)
    exact iff_of_true kept (by grind)
  · have kept := apart 63 6 (by norm_num) (by push_cast; linarith) (by push_cast; linarith)
    exact iff_of_true kept (by grind)
  · rw [across 6 (by norm_num) (by norm_num) (by linarith) (by push_cast; linarith)]
    grind
  · have kept := apart 63 6 (by norm_num) (by push_cast; linarith) (by push_cast; linarith)
    exact iff_of_true kept (by grind)
  · rw [across 6 (by norm_num) (by norm_num) (by linarith) (by push_cast; linarith)]
    grind

end Order

/-! ### Lifetimes that are encoded again -/

/-- The largest multiplier of a base that is not the coarsest one. -/
def Saturated (lifetime : Lifetime) : Prop :=
  lifetime.multiplier = 63 ∧ lifetime.base ≠ .hundredSeconds

instance decidableSaturated (lifetime : Lifetime) : Decidable lifetime.Saturated :=
  inferInstanceAs (Decidable (_ ∧ _))

/-- **Encoding what has been decoded** keeps the duration unless the multiplier is saturated. -/
theorem transmitted_decodeSeconds (lifetime : Lifetime) :
    transmitted lifetime.decodeSeconds = lifetime.decodeSeconds ↔ ¬ lifetime.Saturated := by
  have every : ∀ n : Fin 256, (encode (decode ⟨UInt8.ofNat n⟩)).decode = decode ⟨UInt8.ofNat n⟩ ↔
      ¬ Saturated ⟨UInt8.ofNat n⟩ := by decide +kernel
  have whole : (encode lifetime.decode).decode = lifetime.decode ↔ ¬ lifetime.Saturated := by
    simpa using every ⟨lifetime.raw.toNat, lifetime.raw.toNat_lt⟩
  have same : ((encode lifetime.decode).decode : ℚ) = lifetime.decode ↔
      transmitted lifetime.decodeSeconds = lifetime.decodeSeconds := by
    rw [decode_eq, encode_eq, decode_eq, mul_div_cancel_right₀ _ (by norm_num)]
    exact mul_left_inj' (by norm_num)
  rw [← same, Int.cast_inj, whole]

/-- **What is expected of the codec** of durations up to 6300 seconds. -/
def CodecExpected : Prop :=
  (∀ seconds, 0 ≤ seconds → seconds ≤ 6300 →
    (0 ≤ roundedMultiplier seconds ∧ roundedMultiplier seconds < 64) ∧
      |seconds - transmitted seconds| ≤ (Base.select seconds).seconds / 2) ∧
  (∀ shorter longer, 0 ≤ shorter → shorter ≤ longer → longer ≤ 6300 →
    transmitted shorter ≤ transmitted longer) ∧
  ∀ lifetime : Lifetime, transmitted lifetime.decodeSeconds = lifetime.decodeSeconds

/-- **When the codec of lifetimes is right**, for all durations up to 6300 seconds. The multiplier never
overflows, and a duration is moved by at most half of its unit. The order of two durations is kept exactly
if they do not cross a threshold, and a lifetime is encoded again to the same duration exactly if it is
not saturated. -/
theorem lifetime_codec_iff (lifetime : Lifetime) {shorter longer : ℚ} (nonneg : 0 ≤ shorter)
    (ordered : shorter ≤ longer) (bounded : longer ≤ 6300) :
    ((0 ≤ roundedMultiplier shorter ∧ roundedMultiplier shorter < 64) ∧
      |shorter - transmitted shorter| ≤ (Base.select shorter).seconds / 2) ∧
    (transmitted shorter ≤ transmitted longer ↔ ¬ Crosses shorter longer) ∧
    (transmitted lifetime.decodeSeconds = lifetime.decodeSeconds ↔ ¬ lifetime.Saturated) := by
  have small : shorter ≤ 6300 := ordered.trans bounded
  refine ⟨⟨roundedMultiplier_fits nonneg small, abs_sub_transmitted_le nonneg small⟩, ?_, ?_⟩
  · exact transmitted_le_iff_not_crosses nonneg ordered bounded
  · exact transmitted_decodeSeconds lifetime

/-- 3.1 and 3.6 seconds keep their order, although there is a threshold between them. -/
theorem lifetime_codec_between : transmitted (31 / 10) ≤ transmitted (18 / 5) := by
  obtain ⟨_, ordered, _⟩ := lifetime_codec_iff ⟨0⟩ (by norm_num : (0 : ℚ) ≤ 31 / 10)
    (by norm_num : (31 / 10 : ℚ) ≤ 18 / 5) (by norm_num)
  refine ordered.mpr ?_
  unfold Crosses
  norm_num

/-- **Ten more milliseconds shorten a lifetime**: 3.14 seconds become 3.15, and 3.15 seconds become 3. -/
theorem longer_lifetime_shortened : ¬ CodecExpected := by
  intro expected
  have kept := expected.2.1 (157 / 50) (63 / 20) (by norm_num) (by norm_num) (by norm_num)
  rw [transmitted_le_iff_not_crosses (by norm_num) (by norm_num) (by norm_num)] at kept
  refine kept (.inl ?_)
  norm_num

end Lifetime

end Vanet.Geonet
