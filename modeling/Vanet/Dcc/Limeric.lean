/-
**`Limeric`, the adaptive control.**

A calculation moves the duty cycle by an offset that depends on the channel load alone, after it has been
multiplied with `1 - alpha`. Two instances that see the same measurements have the same channel load, so
each calculation brings their duty cycles closer; the limits of the duty cycle bring nothing further apart.

* `Twins`: two instances that differ in their duty cycles only, and how far these are apart.
* `limeric_fair`: the difference of the duty cycles, at each calculation and in a whole run, and the limits.
-/

import Vanet.Common.UnitInterval
import Vanet.Library.CircularBuffer
import Mathlib.Algebra.Order.Ring.Abs

namespace Vanet.Dcc

open Vanet.Common Vanet.Library

namespace Limeric

/-- `Limeric::Parameters`. The interval is in microseconds. -/
structure Parameters where
  alpha : UnitInterval := .ofValue (16 / 1000)
  beta : UnitInterval := .ofValue (12 / 10000)
  /-- upper bound of the permitted duty cycle -/
  deltaMax : UnitInterval := .ofValue (3 / 100)
  /-- lower bound of the permitted duty cycle -/
  deltaMin : UnitInterval := .ofValue (6 / 10000)
  gPlusMax : ℚ := 5 / 10000
  gMinusMax : ℚ := -25 / 100000
  cbrTarget : ChannelLoad := .ofValue (68 / 100)
  cbrInterval : ℤ := 100000

structure DualAlphaParameters where
  alternateAlpha : UnitInterval := .ofValue (1 / 10)
  threshold : UnitInterval := .ofValue (1 / 100000)

end Limeric

open Limeric

/-- **An instance**, with the time point of the calculation that is scheduled. -/
structure Limeric where
  params : Parameters
  dualAlpha : Option DualAlphaParameters
  /-- moving average of the channel load -/
  channelLoad : ChannelLoad
  dutyCycle : UnitInterval
  cbr : CircularBuffer ChannelLoad
  scheduled : ℤ

namespace Limeric

/-- `schedule`: the next time point that is a multiple of twice the interval. -/
def schedule (params : Parameters) (now : ℤ) : ℤ :=
  let schedulingInterval := 2 * params.cbrInterval
  let tp := now + schedulingInterval
  let schedulingBias := tp.tmod schedulingInterval
  if schedulingBias > params.cbrInterval then tp + (schedulingInterval - schedulingBias)
  else if schedulingBias > 0 then tp - schedulingBias
  else tp

def create (params : Parameters) (now : ℤ) : Limeric :=
  ⟨params, none, 0, .mean params.deltaMax params.deltaMin, .empty 2, schedule params now⟩

def averageCbr (limeric : Limeric) : ChannelLoad :=
  if limeric.cbr.full then
    .scale (1 / 2) (.meanOf limeric.cbr.items) + .scale (1 / 2) limeric.channelLoad
  else limeric.channelLoad

def updateCbr (limeric : Limeric) (cbr : ChannelLoad) : Limeric :=
  let pushed := limeric.cbr.push cbr
  { limeric with
    cbr := pushed
    channelLoad := if limeric.cbr.full then limeric.channelLoad else .meanOf pushed.items }

/-- `delta_offset` of `calculate_duty_cycle`. -/
def deltaOffset (params : Parameters) (channelLoad : ChannelLoad) : ℚ :=
  let cbrDelta := params.cbrTarget.value - channelLoad.value
  if cbrDelta > 0 then min (params.beta.value * cbrDelta) params.gPlusMax
  else max (params.beta.value * cbrDelta) params.gMinusMax

/-- The duty cycle with an offset, within its limits. -/
def adapt (params : Parameters) (alpha dutyCycle : UnitInterval) (deltaOffset : ℚ) : UnitInterval :=
  min (max ((alpha.complement * dutyCycle).addValue deltaOffset) params.deltaMin) params.deltaMax

def calculateDutyCycle (limeric : Limeric) : UnitInterval :=
  let deltaOffset := deltaOffset limeric.params limeric.channelLoad
  let delta := adapt limeric.params limeric.params.alpha limeric.dutyCycle deltaOffset
  match limeric.dualAlpha with
  | none => delta
  | some dualAlpha =>
    if limeric.dutyCycle - delta > dualAlpha.threshold then
      adapt limeric.params dualAlpha.alternateAlpha limeric.dutyCycle deltaOffset
    else delta

/-- `calculate`, at a time of the runtime. Who is told about the change is left out. -/
def calculate (limeric : Limeric) (now : ℤ) : Limeric :=
  let averaged := { limeric with channelLoad := limeric.averageCbr }
  { averaged with dutyCycle := averaged.calculateDutyCycle, scheduled := schedule limeric.params now }

def configureDualAlpha (limeric : Limeric) (params : Option DualAlphaParameters) : Limeric :=
  { limeric with dualAlpha := params }

/-- What an instance is told. -/
inductive Event
  | updateCbr (cbr : ChannelLoad)
  | calculate (now : ℤ)

def step (limeric : Limeric) : Event → Limeric
  | .updateCbr cbr => limeric.updateCbr cbr
  | .calculate now => limeric.calculate now

def run (limeric : Limeric) (events : List Event) : Limeric := events.foldl step limeric

theorem run_concat (limeric : Limeric) (events : List Event) (event : Event) :
    limeric.run (events ++ [event]) = (limeric.run events).step event := by
  unfold run
  rw [List.foldl_append]
  rfl

/-! ### The limits -/

/-- **The duty cycle is within its limits.** -/
def Permitted (limeric : Limeric) : Prop :=
  limeric.params.deltaMin ≤ limeric.dutyCycle ∧ limeric.dutyCycle ≤ limeric.params.deltaMax

theorem params_step (limeric : Limeric) (event : Event) : (limeric.step event).params = limeric.params := by
  cases event <;> rfl

theorem params_run (limeric : Limeric) (events : List Event) :
    (limeric.run events).params = limeric.params := by
  induction events using List.reverseRecOn with
  | nil => rfl
  | append_singleton earlier event ih => rw [run_concat, params_step, ih]

/-- A result of `adapt` is within the limits. -/
theorem adapt_within {params : Parameters} (ordered : params.deltaMin ≤ params.deltaMax)
    (alpha dutyCycle : UnitInterval) (deltaOffset : ℚ) :
    params.deltaMin ≤ adapt params alpha dutyCycle deltaOffset ∧
      adapt params alpha dutyCycle deltaOffset ≤ params.deltaMax :=
  ⟨le_min (le_max_right _ _) ordered, min_le_right _ _⟩

theorem permitted_calculate (limeric : Limeric) (now : ℤ)
    (ordered : limeric.params.deltaMin ≤ limeric.params.deltaMax) : (limeric.calculate now).Permitted := by
  unfold Permitted calculate calculateDutyCycle
  dsimp only
  cases limeric.dualAlpha with
  | none => exact adapt_within ordered _ _ _
  | some dualAlpha =>
    dsimp only
    split_ifs <;> exact adapt_within ordered _ _ _

theorem Permitted.step {limeric : Limeric} (permitted : limeric.Permitted) (event : Event) :
    (limeric.step event).Permitted := by
  cases event with
  | updateCbr cbr => exact permitted
  | calculate now => exact permitted_calculate limeric now (permitted.1.trans permitted.2)

/-- **A duty cycle within its limits stays there.** -/
theorem Permitted.run {limeric : Limeric} (permitted : limeric.Permitted) (events : List Event) :
    (limeric.run events).Permitted := by
  induction events using List.reverseRecOn with
  | nil => exact permitted
  | append_singleton earlier event ih =>
    rw [run_concat]
    exact ih.step event

/-- The number of calculations. -/
def calculations (events : List Event) : ℕ :=
  events.countP fun event => event matches .calculate _

theorem permitted_of_calculations {limeric : Limeric}
    (ordered : limeric.params.deltaMin ≤ limeric.params.deltaMax) {events : List Event}
    (calculated : 0 < calculations events) : (limeric.run events).Permitted := by
  induction events using List.reverseRecOn with
  | nil => exact absurd calculated (lt_irrefl 0)
  | append_singleton earlier event ih =>
    rw [run_concat]
    cases event with
    | updateCbr cbr => exact (ih (by simpa [calculations] using calculated)).step _
    | calculate now => exact permitted_calculate _ now (by rw [params_run]; exact ordered)

/-- **The duty cycle that an instance starts with** is within the limits. -/
theorem permitted_create (params : Parameters) (now : ℤ) (ordered : params.deltaMin ≤ params.deltaMax) :
    (create params now).Permitted := by
  have bounds : params.deltaMin.value ≤ params.deltaMax.value := ordered
  have nonneg := params.deltaMin.nonneg
  have le_one := params.deltaMax.le_one
  have middle : (create params now).dutyCycle.value =
      1 / 2 * (params.deltaMax.value + params.deltaMin.value) :=
    UnitInterval.clampValue_of_mem (by linarith) (by linarith)
  constructor <;> rw [UnitInterval.le_iff, middle] <;> dsimp only [create] <;> linarith

/-! ### Two instances -/

/-- How far the duty cycles of two instances are apart. -/
def distance (lhs rhs : Limeric) : ℚ := |lhs.dutyCycle.value - rhs.dutyCycle.value|

/-- **Two instances that differ in their duty cycles only.** Neither has a second alpha. -/
structure Twins (lhs rhs : Limeric) : Prop where
  same : rhs = { lhs with dutyCycle := rhs.dutyCycle }
  single : lhs.dualAlpha = none

/-- The same offset: the duty cycles are by `alpha` closer. -/
theorem abs_adapt_sub_le (params : Parameters) (alpha lhs rhs : UnitInterval) (deltaOffset : ℚ) :
    |(adapt params alpha lhs deltaOffset).value - (adapt params alpha rhs deltaOffset).value| ≤
      (1 - alpha.value) * |lhs.value - rhs.value| := by
  unfold adapt
  rw [UnitInterval.value_min, UnitInterval.value_min, UnitInterval.value_max, UnitInterval.value_max]
  calc |_|
      ≤ |((alpha.complement * lhs).addValue deltaOffset).value -
          ((alpha.complement * rhs).addValue deltaOffset).value| := UnitInterval.abs_limit_sub_le _ _ _ _
    _ ≤ |((1 - alpha.value) * lhs.value + deltaOffset) - ((1 - alpha.value) * rhs.value + deltaOffset)| :=
        UnitInterval.abs_clampValue_sub_le _ _
    _ = |(1 - alpha.value) * (lhs.value - rhs.value)| := by
        rw [add_sub_add_right_eq_sub, mul_sub]
    _ = (1 - alpha.value) * |lhs.value - rhs.value| := by
        rw [abs_mul, abs_of_nonneg (sub_nonneg.mpr alpha.le_one)]

/-- **A measurement** leaves the duty cycles where they are. -/
theorem Twins.updateCbr {lhs rhs : Limeric} (twins : Twins lhs rhs) (cbr : ChannelLoad) :
    Twins (lhs.updateCbr cbr) (rhs.updateCbr cbr) ∧
      distance (lhs.updateCbr cbr) (rhs.updateCbr cbr) = distance lhs rhs := by
  refine ⟨⟨?_, twins.single⟩, rfl⟩
  rw [twins.same]
  rfl

/-- **A calculation** brings the duty cycles closer. -/
theorem Twins.calculate {lhs rhs : Limeric} (twins : Twins lhs rhs) (now : ℤ) :
    Twins (lhs.calculate now) (rhs.calculate now) ∧
      distance (lhs.calculate now) (rhs.calculate now) ≤
        (1 - lhs.params.alpha.value) * distance lhs rhs := by
  obtain ⟨same, single⟩ := twins
  refine ⟨⟨?_, single⟩, ?_⟩
  · rw [same]
    rfl
  · have duty : ∀ dutyCycle, (Limeric.calculate { lhs with dutyCycle := dutyCycle } now).dutyCycle =
        adapt lhs.params lhs.params.alpha dutyCycle (deltaOffset lhs.params lhs.averageCbr) := by
      intro dutyCycle
      unfold Limeric.calculate calculateDutyCycle
      dsimp only
      rw [single]
      rfl
    unfold distance
    rw [show lhs.calculate now = Limeric.calculate { lhs with dutyCycle := lhs.dutyCycle } now from rfl, same,
      duty, duty]
    exact abs_adapt_sub_le _ _ _ _ _

/-- **Instances with the same measurements** stay twins, by a power closer. -/
theorem Twins.run {lhs rhs : Limeric} (twins : Twins lhs rhs) (events : List Event) :
    Twins (lhs.run events) (rhs.run events) ∧
      distance (lhs.run events) (rhs.run events) ≤
        (1 - lhs.params.alpha.value) ^ calculations events * distance lhs rhs := by
  induction events using List.reverseRecOn with
  | nil => exact ⟨twins, by simp [calculations, Limeric.run]⟩
  | append_singleton earlier event ih =>
    obtain ⟨before, near⟩ := ih
    rw [run_concat, run_concat]
    cases event with
    | updateCbr cbr =>
      obtain ⟨after, still⟩ := before.updateCbr cbr
      refine ⟨after, ?_⟩
      show distance (Limeric.updateCbr _ cbr) (Limeric.updateCbr _ cbr) ≤ _
      rw [still]
      simpa [calculations] using near
    | calculate now =>
      obtain ⟨after, closer⟩ := before.calculate now
      refine ⟨after, closer.trans ?_⟩
      have factor : 0 ≤ 1 - lhs.params.alpha.value := sub_nonneg.mpr lhs.params.alpha.le_one
      have count : calculations (earlier ++ [.calculate now]) = calculations earlier + 1 := by
        simp [calculations]
      rw [params_run, count, pow_succ', mul_assoc]
      exact mul_le_mul_of_nonneg_left near factor

/-- **Fairness** of two instances in a run. -/
structure Fair (lhs rhs : Limeric) (events : List Event) : Prop where
  /-- each calculation brings them closer -/
  contracts : ∀ earlier now, earlier ++ [.calculate now] <+: events →
    distance (lhs.run (earlier ++ [.calculate now])) (rhs.run (earlier ++ [.calculate now])) ≤
      (1 - lhs.params.alpha.value) * distance (lhs.run earlier) (rhs.run earlier)
  converges : distance (lhs.run events) (rhs.run events) ≤
    (1 - lhs.params.alpha.value) ^ calculations events * distance lhs rhs
  stays : ∀ limeric ∈ [lhs, rhs], limeric.Permitted → (limeric.run events).Permitted
  limited : ∀ limeric ∈ [lhs, rhs], limeric.params.deltaMin ≤ limeric.params.deltaMax →
    0 < calculations events → (limeric.run events).Permitted

/-- **LIMERIC fairness**, from any two duty cycles. -/
theorem limeric_fair (lhs : Limeric) (single : lhs.dualAlpha = none) (dutyCycle : UnitInterval)
    (events : List Event) : Fair lhs { lhs with dutyCycle := dutyCycle } events where
  contracts := by
    intro earlier now _
    have twins : Twins lhs { lhs with dutyCycle := dutyCycle } := ⟨rfl, single⟩
    have closer := ((twins.run earlier).1.calculate now).2
    rw [params_run] at closer
    rw [run_concat, run_concat]
    exact closer
  converges := (Twins.run ⟨rfl, single⟩ events).2
  stays := fun _ _ permitted => permitted.run events
  limited := fun _ _ ordered calculated => permitted_of_calculations ordered calculated

/-- Two periods with two measurements each, below and above the target. -/
def measured : List Event :=
  [.updateCbr (.ofValue (1 / 2)), .updateCbr (.ofValue (4 / 5)), .calculate 200000,
    .updateCbr (.ofValue (3 / 10)), .updateCbr (.ofValue (9 / 10)), .calculate 400000]

/-- An instance with the default parameters and one that starts with a lower duty cycle. As long as no limit
is met, they come closer by exactly `alpha` each time. -/
theorem limeric_fair_measured :
    Fair (create {} 0) { create {} 0 with dutyCycle := .ofValue (1 / 100) } measured ∧
      ((create {} 0).run measured).channelLoad.value = 5 / 8 ∧
      distance ((create {} 0).run measured)
          (run { create {} 0 with dutyCycle := .ofValue (1 / 100) } measured) =
        (1 - 16 / 1000) ^ 2 * (53 / 10000) :=
  ⟨limeric_fair (create {} 0) rfl (.ofValue (1 / 100)) measured, by decide +kernel, by decide +kernel⟩

end Limeric

end Vanet.Dcc
