/-
**`LimericBudget`, the gate of LIMERIC.**

Durations and time points are signed 64-bit numbers of microseconds, and a computation that overflows or
divides by zero ends the run. Numbers are exact where the source has floating point numbers.

* `isSome_step_iff`: when the computations of a call succeed, in terms of its arguments and the state.
* `isSome_create_iff`, `safe_update_idle`: before the first transmission, an update overflows once the
  interval has passed since the epoch of the clock.
* `gate_arithmetic_iff`: no computation of a run fails if and only if all its calls are safe. The interval
  and the delay are within their limits in either case.
-/

import Mathlib.Data.List.Induction
import Vanet.Common.UnitInterval
import Vanet.Library.Checked

namespace Vanet.Dcc

open Vanet.Common Vanet.Library

structure LimericBudget where
  interval : ℤ
  txStart : ℤ
  txOn : ℤ

namespace LimericBudget

def minInterval : ℤ := 25000
def maxInterval : ℤ := 1000000

def clampInterval (interval : ℤ) : ℤ := min (max interval minInterval) maxInterval

/-- When the gate opens. -/
def gate (budget : LimericBudget) : ℤ := budget.txStart + budget.interval

/-- `delay`, or a computation that fails. -/
def delay (budget : LimericBudget) (now : ℤ) : Option ℤ :=
  (checked budget.gate).bind fun gate =>
    if now ≥ gate then some 0 else checked (gate - now)

/-- `notify`. -/
def notify (budget : LimericBudget) (now txOn : ℤ) (dutyCycle : UnitInterval) : Option LimericBudget :=
  (checkedDiv txOn dutyCycle.value).bind fun quotient =>
  (checkedCast quotient).bind fun interval =>
    some { budget with txStart := now, txOn := txOn, interval := clampInterval interval }

/-- `update`. -/
def update (budget : LimericBudget) (now : ℤ) (dutyCycle : UnitInterval) : Option LimericBudget :=
  (checked budget.gate).bind fun gate =>
  (checked (gate - now)).bind fun delay =>
    if dutyCycle.value > 0 then
      (checkedDiv budget.txOn dutyCycle.value).bind fun quotient =>
        if delay > 0 then
          -- equation B.2 if the gate is closed at the moment
          (checkedDiv delay budget.interval).bind fun fraction =>
          (checkedCast (quotient * fraction)).bind fun interval =>
          (checked (interval + now)).bind fun opens =>
          (checked (opens - budget.txStart)).bind fun interval =>
            some { budget with interval := clampInterval interval }
        else
          -- equation B.1 otherwise
          (checkedCast quotient).bind fun interval =>
            some { budget with interval := clampInterval interval }
    else some { budget with interval := maxInterval }

/-- The members before the constructor updates: `time_point::min()`, and no transmission. -/
def initial : LimericBudget := ⟨minInterval, -2 ^ 63, 0⟩

/-- The constructor. -/
def create (now : ℤ) (dutyCycle : UnitInterval) : Option LimericBudget := initial.update now dutyCycle

/-! ### Runs -/

/-- The calls, with the duty cycle that the permit reports to them. -/
inductive Call
  | delay
  | notify (txOn : Int64) (dutyCycle : UnitInterval)
  | update (dutyCycle : UnitInterval)

def step (budget : LimericBudget) (now : ℤ) : Call → Option LimericBudget
  | .delay => (budget.delay now).bind fun _ => some budget
  | .notify txOn dutyCycle => budget.notify now txOn.toInt dutyCycle
  | .update dutyCycle => budget.update now dutyCycle

/-- The budget after calls at these times of the clock, or a computation that has failed. -/
def run (start : Int64) (dutyCycle : UnitInterval) (calls : List (Int64 × Call)) : Option LimericBudget :=
  (create start.toInt dutyCycle).bind fun budget =>
    calls.foldlM (fun budget timed => budget.step timed.1.toInt timed.2) budget

theorem run_concat (start : Int64) (dutyCycle : UnitInterval) (calls : List (Int64 × Call))
    (timed : Int64 × Call) :
    run start dutyCycle (calls ++ [timed]) =
      (run start dutyCycle calls).bind fun budget => budget.step timed.1.toInt timed.2 := by
  unfold run
  cases create start.toInt dutyCycle with
  | none => rfl
  | some budget => simp [List.foldlM_append]

/-- **The clock does not go back.** -/
def Monotone (start : Int64) (calls : List (Int64 × Call)) : Prop :=
  (start.toInt :: calls.map fun timed => timed.1.toInt).Pairwise (· ≤ ·)

/-! ### The limits of the interval -/

/-- **What holds of a budget at a time of the clock.** -/
structure Regular (budget : LimericBudget) (now : ℤ) : Prop where
  least : minInterval ≤ budget.interval
  greatest : budget.interval ≤ maxInterval
  lowest : -2 ^ 63 ≤ budget.txStart
  started : budget.txStart ≤ now

theorem clampInterval_within (interval : ℤ) :
    minInterval ≤ clampInterval interval ∧ clampInterval interval ≤ maxInterval :=
  ⟨le_min (le_max_right _ _) (by decide), min_le_right _ _⟩

theorem Regular.mono {budget : LimericBudget} {now later : ℤ} (regular : Regular budget now)
    (le : now ≤ later) : Regular budget later :=
  { regular with started := regular.started.trans le }

theorem Regular.withInterval {budget : LimericBudget} {now interval : ℤ} (regular : Regular budget now) :
    Regular { budget with interval := clampInterval interval } now :=
  { regular with
    least := (clampInterval_within interval).1
    greatest := (clampInterval_within interval).2 }

theorem regular_initial (now : Int64) : Regular initial now.toInt :=
  ⟨by decide, by decide, le_refl (-2 ^ 63 : ℤ), now.le_toInt⟩

/-- An update changes the interval only. -/
theorem Regular.update {budget after : LimericBudget} {now : ℤ} {dutyCycle : UnitInterval}
    (regular : Regular budget now) (updated : budget.update now dutyCycle = some after) :
    Regular after now := by
  unfold LimericBudget.update at updated
  simp only [Option.bind_eq_some_iff] at updated
  obtain ⟨gate, _, delay, _, updated⟩ := updated
  by_cases permitted : dutyCycle.value > 0
  · rw [if_pos permitted] at updated
    obtain ⟨quotient, _, updated⟩ := Option.bind_eq_some_iff.mp updated
    by_cases closed : delay > 0
    · simp only [if_pos closed, Option.bind_eq_some_iff] at updated
      obtain ⟨_, _, _, _, _, _, interval, _, same⟩ := updated
      cases same
      exact regular.withInterval
    · rw [if_neg closed] at updated
      obtain ⟨interval, _, same⟩ := Option.bind_eq_some_iff.mp updated
      cases same
      exact regular.withInterval
  · rw [if_neg permitted] at updated
    cases updated
    exact @Regular.withInterval _ _ maxInterval regular

theorem Regular.step {budget after : LimericBudget} {now : Int64} {call : Call}
    (regular : Regular budget now.toInt) (stepped : budget.step now.toInt call = some after) :
    Regular after now.toInt := by
  cases call with
  | delay =>
    obtain ⟨_, _, same⟩ := Option.bind_eq_some_iff.mp stepped
    cases same
    exact regular
  | notify txOn dutyCycle =>
    unfold LimericBudget.step notify at stepped
    simp only [Option.bind_eq_some_iff] at stepped
    obtain ⟨_, _, interval, _, same⟩ := stepped
    cases same
    exact ⟨(clampInterval_within interval).1, (clampInterval_within interval).2, now.le_toInt, le_rfl⟩
  | update dutyCycle => exact regular.update stepped

/-- **The interval is within its limits** in every run whose clock does not go back. -/
theorem regular_run {start : Int64} {dutyCycle : UnitInterval} (calls : List (Int64 × Call)) :
    Monotone start calls → ∀ budget ∈ run start dutyCycle calls,
      ∀ now, start.toInt ≤ now → (∀ timed ∈ calls, timed.1.toInt ≤ now) → Regular budget now := by
  induction calls using List.reverseRecOn with
  | nil =>
    intro _ budget done now begun _
    have created : create start.toInt dutyCycle = some budget := by simpa [run] using done
    exact ((regular_initial start).update created).mono begun
  | append_singleton earlier last ih =>
    intro monotone budget done now _ all
    unfold Monotone at monotone
    rw [List.map_append, ← List.cons_append, List.pairwise_append] at monotone
    obtain ⟨before, _, passed⟩ := monotone
    rw [run_concat] at done
    obtain ⟨previous, ran, stepped⟩ := Option.bind_eq_some_iff.mp done
    have regular : Regular previous last.1.toInt := by
      refine ih before previous ran _ ?_ fun timed member => ?_
      · exact passed _ List.mem_cons_self _ (List.mem_singleton_self _)
      · exact passed _ (List.mem_cons_of_mem _ (List.mem_map_of_mem member)) _ (List.mem_singleton_self _)
    exact (regular.step stepped).mono (all last (List.mem_append_right _ (List.mem_singleton_self _)))

/-- **A delay** is neither negative nor longer than the longest interval. -/
theorem Regular.delay {budget : LimericBudget} {now delay : ℤ} (regular : Regular budget now)
    (delayed : budget.delay now = some delay) : 0 ≤ delay ∧ delay ≤ maxInterval := by
  obtain ⟨gate, opens, delayed⟩ := Option.bind_eq_some_iff.mp delayed
  obtain ⟨_, rfl⟩ := checked_eq_some.mp opens
  by_cases opened : now ≥ budget.gate
  · rw [if_pos opened] at delayed
    cases delayed
    exact ⟨le_rfl, by decide⟩
  · rw [if_neg opened] at delayed
    obtain ⟨_, rfl⟩ := checked_eq_some.mp delayed
    have bounded := regular.greatest
    have started := regular.started
    unfold gate at opened ⊢
    omega

/-! ### Safe calls -/

/-- **A transmission fits**: its duration is small next to the duty cycle, which is not zero then. -/
def Fitting (txOn : ℤ) (dutyCycle : UnitInterval) : Prop :=
  -(2 ^ 63 + 1) * dutyCycle.value < txOn ∧ txOn < 2 ^ 63 * dutyCycle.value

/-- **A transmission fits while the gate is closed**: its duration, for the time that the gate stays closed,
is small next to the duty cycle's share of the interval. How small depends on the clock. -/
def FittingClosed (budget : LimericBudget) (now : ℤ) (dutyCycle : UnitInterval) : Prop :=
  ((-2 ^ 63 - min 0 now : ℤ) - 1) * (dutyCycle.value * budget.interval) <
      budget.txOn * (budget.gate - now : ℤ) ∧
    (budget.txOn * (budget.gate - now : ℤ) : ℚ) <
      (2 ^ 63 - max now (now - budget.txStart) : ℤ) * (dutyCycle.value * budget.interval)

/-- **The calls that are safe.** The gate opens before the end of the clock, an update comes before the
other end, and transmissions fit. -/
def Safe (budget : LimericBudget) (now : ℤ) : Call → Prop
  | .delay => budget.gate < 2 ^ 63
  | .notify txOn dutyCycle => Fitting txOn.toInt dutyCycle
  | .update dutyCycle =>
    budget.gate < 2 ^ 63 ∧ now ≤ budget.gate + 2 ^ 63 ∧
      (0 < dutyCycle.value →
        if now < budget.gate then budget.FittingClosed now dutyCycle else Fitting budget.txOn dutyCycle)

instance decidableFitting (txOn : ℤ) (dutyCycle : UnitInterval) : Decidable (Fitting txOn dutyCycle) :=
  inferInstanceAs (Decidable (_ ∧ _))

instance decidableFittingClosed (budget : LimericBudget) (now : ℤ) (dutyCycle : UnitInterval) :
    Decidable (budget.FittingClosed now dutyCycle) :=
  inferInstanceAs (Decidable (_ ∧ _))

instance decidableSafe (budget : LimericBudget) (now : ℤ) : ∀ call, Decidable (budget.Safe now call)
  | .delay => Int.decLt _ _
  | .notify _ _ => decidableFitting _ _
  | .update _ => inferInstanceAs (Decidable (_ ∧ _ ∧ (_ → ite _ _ _)))

/-- The cast of a transmission's share. -/
theorem fitting_iff {txOn : ℤ} {dutyCycle : UnitInterval} :
    Fitting txOn dutyCycle ↔ dutyCycle.value ≠ 0 ∧ Fits (towardZero (txOn / dutyCycle.value)) :=
  (cast_div_fits_iff dutyCycle.nonneg).symm

/-- The interval of equation B.2 while the gate is closed, and the sums with it. -/
theorem fittingClosed_iff {budget : LimericBudget} {now : ℤ} {dutyCycle : UnitInterval} {remaining : ℤ}
    (regular : Regular budget now) (opens : budget.gate < 2 ^ 63) (closed : now < budget.gate)
    (positive : 0 < dutyCycle.value) (share : towardZero ((budget.txOn : ℚ) / dutyCycle.value *
      ((budget.gate - now : ℤ) / (budget.interval : ℚ))) = remaining) :
    budget.FittingClosed now dutyCycle ↔
      Fits remaining ∧ Fits (remaining + now) ∧ Fits (remaining + now - budget.txStart) := by
  have least : 25000 ≤ budget.interval := regular.least
  have greatest : budget.interval ≤ 1000000 := regular.greatest
  have lowest := regular.lowest
  have started := regular.started
  have divisor : 0 < dutyCycle.value * (budget.interval : ℚ) :=
    mul_pos positive (by exact_mod_cast (by omega : 0 < budget.interval))
  rw [div_mul_div_comm] at share
  unfold FittingClosed
  rw [← cast_div_between_iff divisor (by omega) (by unfold gate at opens closed; omega), share]
  unfold Fits gate at *
  omega

section Step

variable {budget : LimericBudget} {now : ℤ} (regular : Regular budget now)

include regular

theorem gate_fits_iff : Fits budget.gate ↔ budget.gate < 2 ^ 63 := by
  have lowest := regular.lowest
  have least : 25000 ≤ budget.interval := regular.least
  unfold Fits gate
  omega

theorem isSome_delay_iff : (budget.delay now).isSome ↔ budget.gate < 2 ^ 63 := by
  unfold delay
  rw [isSome_checked_bind, gate_fits_iff regular]
  refine and_iff_left ?_
  by_cases opened : now ≥ budget.gate
  · rw [if_pos opened]
    rfl
  · have least : budget.interval ≤ 1000000 := regular.greatest
    have started := regular.started
    have fits : Fits (budget.gate - now) := by
      unfold Fits gate at *
      omega
    rw [if_neg opened, checked_of_fits fits]
    rfl

theorem isSome_update_iff {dutyCycle : UnitInterval} :
    (budget.update now dutyCycle).isSome ↔ budget.Safe now (.update dutyCycle) := by
  have least : 25000 ≤ budget.interval := regular.least
  have greatest : budget.interval ≤ 1000000 := regular.greatest
  have started := regular.started
  have remains : Fits (budget.gate - now) ↔ now ≤ budget.gate + 2 ^ 63 := by
    unfold Fits gate
    omega
  unfold update Safe
  rw [isSome_checked_bind, isSome_checked_bind, gate_fits_iff regular, remains]
  refine and_congr_right fun opens => and_congr_right fun _ => ?_
  by_cases permitted : 0 < dutyCycle.value
  · rw [if_pos permitted, isSome_checkedDiv_bind, forall_prop_of_true permitted]
    by_cases closed : now < budget.gate
    · have positive : budget.gate - now > 0 := sub_pos.mpr closed
      have divisor : (budget.interval : ℚ) ≠ 0 := by
        exact_mod_cast (by omega : budget.interval ≠ 0)
      rw [if_pos positive, if_pos closed, and_iff_right permitted.ne', isSome_checkedDiv_bind,
        and_iff_right divisor]
      unfold checkedCast
      rw [isSome_checked_bind, isSome_checked_bind, isSome_checked_bind,
        fittingClosed_iff regular opens closed permitted rfl]
      exact and_congr_right fun _ => and_congr_right fun _ => and_iff_left rfl
    · have reached : ¬ budget.gate - now > 0 := fun positive => closed (sub_pos.mp positive)
      rw [if_neg reached, if_neg closed, fitting_iff]
      unfold checkedCast
      rw [isSome_checked_bind]
      exact and_congr_right fun _ => and_iff_left rfl
  · rw [if_neg permitted]
    exact iff_of_true rfl fun positive => absurd positive permitted

/-- **The computations of a call** succeed if and only if it is safe. -/
theorem isSome_step_iff (call : Call) :
    (budget.step now call).isSome ↔ budget.Safe now call := by
  cases call with
  | delay =>
    refine Iff.trans ?_ (isSome_delay_iff regular)
    unfold step
    cases budget.delay now <;> rfl
  | notify txOn dutyCycle =>
    unfold step notify checkedCast
    rw [isSome_checkedDiv_bind, isSome_checked_bind, ← and_assoc, ← fitting_iff]
    exact and_iff_left rfl
  | update dutyCycle => exact isSome_update_iff regular

end Step

/-- **Before the first transmission** an update is safe until the interval has passed since the epoch. -/
theorem safe_update_idle {budget : LimericBudget} (now : Int64) (dutyCycle : UnitInterval)
    (regular : Regular budget now.toInt) (idle : budget.txStart = -2 ^ 63) (silent : budget.txOn = 0) :
    budget.Safe now.toInt (.update dutyCycle) ↔ now.toInt ≤ budget.interval := by
  have least : 25000 ≤ budget.interval := regular.least
  have greatest : budget.interval ≤ 1000000 := regular.greatest
  have lower := now.le_toInt
  unfold Safe
  dsimp only
  constructor
  · rintro ⟨_, early, _⟩
    unfold gate at early
    omega
  · intro early
    have opens : budget.gate < 2 ^ 63 := by
      unfold gate
      omega
    refine ⟨opens, by unfold gate; omega, fun positive => ?_⟩
    by_cases closed : now.toInt < budget.gate
    · rw [if_pos closed,
        @fittingClosed_iff _ _ _ 0 regular opens closed positive (by simp [silent, towardZero])]
      unfold Fits gate at *
      omega
    · rw [if_neg closed, silent]
      unfold Fitting
      constructor <;> push_cast <;> linarith

/-- **The constructor** fails from 25 ms after the epoch on. -/
theorem isSome_create_iff (now : Int64) (dutyCycle : UnitInterval) :
    (create now.toInt dutyCycle).isSome ↔ now.toInt ≤ minInterval :=
  (isSome_update_iff (regular_initial now)).trans
    (safe_update_idle now dutyCycle (regular_initial now) rfl rfl)

/-! ### Sound runs -/

/-- **What a run should be**: no computation fails, and interval and delay are within their limits. -/
structure Sound (start : Int64) (dutyCycle : UnitInterval) (calls : List (Int64 × Call)) : Prop where
  computes : (run start dutyCycle calls).isSome
  interval : ∀ done, done <+: calls → ∀ budget ∈ run start dutyCycle done,
    minInterval ≤ budget.interval ∧ budget.interval ≤ maxInterval
  delay : ∀ done now, done ++ [(now, .delay)] <+: calls → ∀ budget ∈ run start dutyCycle done,
    ∀ delay ∈ budget.delay now.toInt, 0 ≤ delay ∧ delay ≤ maxInterval

/-- **All calls of a run are safe**, the constructor's update included. -/
def SafeRun (start : Int64) (dutyCycle : UnitInterval) (calls : List (Int64 × Call)) : Prop :=
  start.toInt ≤ minInterval ∧ ∀ done timed, done ++ [timed] <+: calls →
    ∀ budget ∈ run start dutyCycle done, budget.Safe timed.1.toInt timed.2

/-- A run with one more call. -/
theorem safeRun_concat {start : Int64} {dutyCycle : UnitInterval} {calls : List (Int64 × Call)}
    {timed : Int64 × Call} :
    SafeRun start dutyCycle (calls ++ [timed]) ↔ SafeRun start dutyCycle calls ∧
      ∀ budget ∈ run start dutyCycle calls, budget.Safe timed.1.toInt timed.2 := by
  constructor
  · rintro ⟨early, safe⟩
    exact ⟨⟨early, fun done call front => safe done call (front.trans (List.prefix_append _ _))⟩,
      safe calls timed (List.prefix_refl _)⟩
  · rintro ⟨⟨early, safe⟩, last⟩
    refine ⟨early, fun done call front => ?_⟩
    rcases List.prefix_concat_iff.mp front with whole | front
    · obtain ⟨rfl, final⟩ := List.append_inj' whole rfl
      cases List.singleton_inj.mp final
      exact last
    · exact safe done call front

/-- The clock of a part of the run. -/
theorem Monotone.before {start : Int64} {calls done : List (Int64 × Call)} {timed : Int64 × Call}
    (monotone : Monotone start calls) (front : done ++ [timed] <+: calls) :
    Monotone start done ∧ start.toInt ≤ timed.1.toInt ∧ ∀ call ∈ done, call.1.toInt ≤ timed.1.toInt := by
  obtain ⟨rest, rfl⟩ := front
  unfold Monotone at monotone
  rw [List.map_append, List.map_append, ← List.cons_append, ← List.cons_append] at monotone
  obtain ⟨before, _, passed⟩ := List.pairwise_append.mp (List.pairwise_append.mp monotone).1
  refine ⟨before, passed _ List.mem_cons_self _ (List.mem_singleton_self _), fun call member => ?_⟩
  exact passed _ (List.mem_cons_of_mem _ (List.mem_map_of_mem member)) _ (List.mem_singleton_self _)

/-- The budget that a call of the run comes to. -/
theorem regular_before {start : Int64} {dutyCycle : UnitInterval} {calls done : List (Int64 × Call)}
    {timed : Int64 × Call} (monotone : Monotone start calls) (front : done ++ [timed] <+: calls) :
    ∀ budget ∈ run start dutyCycle done, Regular budget timed.1.toInt := by
  obtain ⟨before, begun, passed⟩ := monotone.before front
  exact fun budget ran => regular_run done before budget ran _ begun passed

/-- **No computation of a run fails** if and only if all its calls are safe. -/
theorem isSome_run_iff {start : Int64} {dutyCycle : UnitInterval} (calls : List (Int64 × Call)) :
    Monotone start calls → ((run start dutyCycle calls).isSome ↔ SafeRun start dutyCycle calls) := by
  induction calls using List.reverseRecOn with
  | nil =>
    intro _
    have created : run start dutyCycle [] = create start.toInt dutyCycle := by simp [run]
    rw [created, isSome_create_iff]
    exact ⟨fun early => ⟨early, by simp⟩, And.left⟩
  | append_singleton earlier last ih =>
    intro monotone
    have regular : ∀ budget ∈ run start dutyCycle earlier, Regular budget last.1.toInt :=
      regular_before monotone (List.prefix_refl _)
    have before := ih (monotone.before (List.prefix_refl _)).1
    rw [run_concat, safeRun_concat, ← before]
    cases ran : run start dutyCycle earlier with
    | none => exact iff_of_false (by simp) (by simp)
    | some budget =>
      have last_safe := isSome_step_iff (regular budget ran) last.2
      simpa using last_safe

/-- A transmission of 2 ms with a gate of 100 ms, an update while the gate is closed and one after it has
opened, and one for a duty cycle of zero. -/
def shortCalls : List (Int64 × Call) :=
  [(0, .notify 2000 (.ofValue (1 / 50))), (10000, .update (.ofValue (1 / 25))), (20000, .delay),
    (200000, .update (.ofValue (1 / 50))), (250000, .update 0), (260000, .delay)]

end LimericBudget

end Vanet.Dcc
