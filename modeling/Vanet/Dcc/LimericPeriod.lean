/-
**When LIMERIC calculates.**

Each calculation schedules the next one at a multiple of twice the interval, the one that is nearest to two
intervals from now. A calculation at a multiple schedules the next multiple.

* `schedule_cases`, `scheduleChecked_eq`: the rounding, and that 64 bits are enough for it.
* `Started.grid`: whatever happens to an instance, it is scheduled on the grid.
* `instants_onTime`, `mem_instants_iff`: the calculations of an instance that is triggered on time.
* `exists_punctual`: there are such runs up to any time.
* `limeric_aligned`: the grid, the distance of the next calculation, and that instances calculate together.
-/

import Vanet.Dcc.Limeric
import Vanet.Library.Checked
import Vanet.Library.Ticks

namespace Vanet.Dcc

open Vanet.Common Vanet.Library

namespace Limeric

/-! ### The next calculation -/

section Schedule

variable {params : Parameters} {now : ℤ}

/-- **Two intervals from now are rounded** to the nearest multiple, down if there are two. -/
theorem schedule_cases (nonneg : 0 ≤ now) (positive : 0 < params.cbrInterval) :
    ∃ multiple bias, now + 2 * params.cbrInterval = 2 * params.cbrInterval * multiple + bias ∧
      0 ≤ bias ∧ bias < 2 * params.cbrInterval ∧
      schedule params now = 2 * params.cbrInterval *
        if bias > params.cbrInterval then multiple + 1 else multiple := by
  have period : 0 < 2 * params.cbrInterval := by omega
  have split := Int.mul_ediv_add_emod (now + 2 * params.cbrInterval) (2 * params.cbrInterval)
  have least := Int.emod_nonneg (now + 2 * params.cbrInterval) period.ne'
  refine ⟨_, _, split.symm, least, Int.emod_lt_of_pos _ period, ?_⟩
  unfold schedule
  dsimp only
  rw [Int.tmod_eq_emod_of_nonneg (by omega)]
  split_ifs with up down
  · rw [mul_add, mul_one]
    omega
  · omega
  · omega

theorem dvd_schedule (nonneg : 0 ≤ now) (positive : 0 < params.cbrInterval) :
    2 * params.cbrInterval ∣ schedule params now := by
  obtain ⟨multiple, bias, _, _, _, scheduled⟩ := schedule_cases nonneg positive
  rw [scheduled]
  exact dvd_mul_right _ _

/-- **The next calculation** is at least one interval away, and less than three. -/
theorem schedule_within (nonneg : 0 ≤ now) (positive : 0 < params.cbrInterval) :
    now + params.cbrInterval ≤ schedule params now ∧ schedule params now < now + 3 * params.cbrInterval := by
  obtain ⟨multiple, bias, split, least, most, scheduled⟩ := schedule_cases nonneg positive
  rw [scheduled]
  split_ifs with up
  · rw [mul_add, mul_one]
    constructor <;> omega
  · constructor <;> omega

/-- **At a multiple**, the next one is scheduled. -/
theorem schedule_of_dvd (positive : 0 < params.cbrInterval) (grid : 2 * params.cbrInterval ∣ now) :
    schedule params now = now + 2 * params.cbrInterval := by
  have unbiased : (now + 2 * params.cbrInterval).tmod (2 * params.cbrInterval) = 0 :=
    Int.tmod_eq_zero_of_dvd ((dvd_add_self_right).mpr grid)
  unfold schedule
  dsimp only
  rw [unbiased, if_neg positive.le.not_gt, if_neg (lt_irrefl 0)]

/-- `schedule` with time points and durations of 64 bits, or a computation that overflows. -/
def scheduleChecked (params : Parameters) (now : ℤ) : Option ℤ :=
  (checked (2 * params.cbrInterval)).bind fun schedulingInterval =>
  (checked (now + schedulingInterval)).bind fun tp =>
    let schedulingBias := tp.tmod schedulingInterval
    if schedulingBias > params.cbrInterval then
      (checked (schedulingInterval - schedulingBias)).bind fun rest => checked (tp + rest)
    else if schedulingBias > 0 then checked (tp - schedulingBias)
    else some tp

/-- **No computation overflows** up to three intervals before the end of the clock. -/
theorem scheduleChecked_eq (nonneg : 0 ≤ now) (positive : 0 < params.cbrInterval)
    (room : now + 3 * params.cbrInterval ≤ 2 ^ 63) :
    scheduleChecked params now = some (schedule params now) := by
  have period : 0 < 2 * params.cbrInterval := by omega
  have least := Int.emod_nonneg (now + 2 * params.cbrInterval) period.ne'
  have most := Int.emod_lt_of_pos (now + 2 * params.cbrInterval) period
  have fits : ∀ value, 0 ≤ value → value < now + 3 * params.cbrInterval → Fits value :=
    fun value lower upper => ⟨by omega, upper.trans_le room⟩
  unfold scheduleChecked schedule
  rw [checked_of_fits (fits _ (by omega) (by omega)), Option.bind_some,
    checked_of_fits (fits _ (by omega) (by omega)), Option.bind_some]
  dsimp only
  rw [Int.tmod_eq_emod_of_nonneg (by omega)]
  split_ifs with up down
  · rw [checked_of_fits (fits _ (by omega) (by omega)), Option.bind_some,
      checked_of_fits (fits _ (by omega) (by omega))]
  · rw [checked_of_fits (fits _ (by omega) (by omega))]
  · rfl

end Schedule

/-! ### Runs -/

/-- What an instance is told, or the second alpha it is given. -/
inductive Call
  | told (event : Event)
  | configureDualAlpha (params : Option DualAlphaParameters)

def receive (limeric : Limeric) : Call → Limeric
  | .told event => limeric.step event
  | .configureDualAlpha params => limeric.configureDualAlpha params

def runCalls (limeric : Limeric) (calls : List Call) : Limeric := calls.foldl receive limeric

/-- The time at which a call calculates. -/
def Call.instant : Call → Option ℤ
  | .told (.calculate now) => some now
  | _ => none

/-- The times of the calculations. -/
def instants (calls : List Call) : List ℤ := calls.filterMap Call.instant

theorem runCalls_concat (limeric : Limeric) (calls : List Call) (call : Call) :
    limeric.runCalls (calls ++ [call]) = (limeric.runCalls calls).receive call := by
  unfold runCalls
  rw [List.foldl_append]
  rfl

theorem instants_concat (calls : List Call) (call : Call) :
    instants (calls ++ [call]) = instants calls ++ call.instant.toList := by
  unfold instants
  rw [List.filterMap_append, List.filterMap_cons, List.filterMap_nil]
  cases call.instant <;> rfl

/-- **Only a calculation** schedules the next one. -/
theorem scheduled_receive (limeric : Limeric) (call : Call) :
    (limeric.receive call).params = limeric.params ∧
      (limeric.receive call).scheduled = call.instant.elim limeric.scheduled (schedule limeric.params) := by
  cases call with
  | told event => cases event <;> exact ⟨rfl, rfl⟩
  | configureDualAlpha params => exact ⟨rfl, rfl⟩

/-- **The calculations are triggered on time.** -/
def OnTime (limeric : Limeric) (calls : List Call) : Prop :=
  ∀ earlier call now, earlier ++ [call] <+: calls → call.instant = some now →
    now = (limeric.runCalls earlier).scheduled

/-- **An instance with these parameters**, started and called at any times after the epoch. -/
def Started (params : Parameters) (limeric : Limeric) : Prop :=
  ∃ start calls, 0 ≤ start ∧ (∀ now ∈ instants calls, 0 ≤ now) ∧
    limeric = (create params start).runCalls calls

section Runs

variable {params : Parameters} {limeric : Limeric} {calls : List Call} {time instant : ℤ}

theorem params_runCalls (limeric : Limeric) (calls : List Call) :
    (limeric.runCalls calls).params = limeric.params := by
  induction calls using List.reverseRecOn with
  | nil => rfl
  | append_singleton calls call ih => rw [runCalls_concat, (scheduled_receive _ call).1, ih]

/-- **An instance is scheduled on the grid**, however late it has been triggered. -/
theorem Started.grid (started : Started params limeric) (positive : 0 < params.cbrInterval) :
    limeric.params = params ∧ 2 * params.cbrInterval ∣ limeric.scheduled := by
  obtain ⟨start, calls, nonneg, times, rfl⟩ := started
  refine ⟨params_runCalls _ calls, ?_⟩
  induction calls using List.reverseRecOn with
  | nil => exact dvd_schedule nonneg positive
  | append_singleton calls call ih =>
    rw [instants_concat] at times
    obtain ⟨before, last⟩ := List.forall_mem_append.mp times
    rw [runCalls_concat, (scheduled_receive _ call).2, params_runCalls]
    cases calculates : call.instant with
    | none => exact ih before
    | some now =>
      rw [calculates] at last
      exact dvd_schedule (last now (List.mem_singleton_self now)) positive

theorem OnTime.front {call : Call} (onTime : OnTime limeric (calls ++ [call])) : OnTime limeric calls :=
  fun earlier other now front => onTime earlier other now (front.trans (List.prefix_append calls [call]))

/-- **The calculations of an instance that is triggered on time** are ticks, and so is the next one. -/
theorem instants_onTime (positive : 0 < limeric.params.cbrInterval)
    (grid : 2 * limeric.params.cbrInterval ∣ limeric.scheduled) (onTime : OnTime limeric calls) :
    ∃ count : ℕ, instants calls = ticks limeric.scheduled (2 * limeric.params.cbrInterval) count ∧
      (limeric.runCalls calls).scheduled = limeric.scheduled + 2 * limeric.params.cbrInterval * count := by
  induction calls using List.reverseRecOn with
  | nil => exact ⟨0, rfl, by rw [Nat.cast_zero, mul_zero, add_zero]; rfl⟩
  | append_singleton calls call ih =>
    obtain ⟨count, before, next⟩ := ih onTime.front
    rw [instants_concat, runCalls_concat, (scheduled_receive _ call).2, params_runCalls]
    cases calculates : call.instant with
    | none => exact ⟨count, by rw [before]; exact List.append_nil _, next⟩
    | some now =>
      have due : now = limeric.scheduled + 2 * limeric.params.cbrInterval * count :=
        (onTime calls call now List.prefix_rfl calculates).trans next
      refine ⟨count + 1, ?_, ?_⟩
      · rw [before, ticks_succ, due]
        rfl
      · show schedule limeric.params now = _
        rw [schedule_of_dvd positive (due ▸ dvd_add grid (dvd_mul_right _ _)), due, Nat.cast_succ, mul_add,
          mul_one, add_assoc]

/-- **A run up to a time** in which every calculation that is due has been triggered on time. -/
structure Punctual (limeric : Limeric) (calls : List Call) (time : ℤ) : Prop where
  onTime : OnTime limeric calls
  past : ∀ instant ∈ instants calls, instant ≤ time
  done : time < (limeric.runCalls calls).scheduled

/-- **When a punctual instance calculates**: at all multiples, from the first one on. -/
theorem mem_instants_iff (positive : 0 < limeric.params.cbrInterval)
    (grid : 2 * limeric.params.cbrInterval ∣ limeric.scheduled) (punctual : Punctual limeric calls time) :
    instant ∈ instants calls ↔
      2 * limeric.params.cbrInterval ∣ instant ∧ limeric.scheduled ≤ instant ∧ instant ≤ time := by
  obtain ⟨count, all, next⟩ := instants_onTime positive grid punctual.onTime
  have period : 0 < 2 * limeric.params.cbrInterval := by omega
  constructor
  · intro member
    have past := punctual.past instant member
    rw [all, mem_ticks_iff period] at member
    obtain ⟨multiple, after, _⟩ := member
    exact ⟨(dvd_sub_left grid).mp multiple, after, past⟩
  · rintro ⟨multiple, after, past⟩
    have done := punctual.done
    rw [next] at done
    rw [all, mem_ticks_iff period]
    exact ⟨dvd_sub multiple grid, after, past.trans_lt done⟩

theorem OnTime.concat {call : Call} (onTime : OnTime limeric calls)
    (due : ∀ now, call.instant = some now → now = (limeric.runCalls calls).scheduled) :
    OnTime limeric (calls ++ [call]) := by
  intro earlier other now front calculates
  rcases List.prefix_concat_iff.mp front with whole | inner
  · obtain ⟨rfl, one⟩ := List.append_inj' whole rfl
    cases one
    exact due now calculates
  · exact onTime earlier other now inner calculates

/-- A punctual run goes on: nothing happens, or the next calculation is due. -/
theorem Punctual.succ (positive : 0 < limeric.params.cbrInterval)
    (grid : 2 * limeric.params.cbrInterval ∣ limeric.scheduled) (punctual : Punctual limeric calls time) :
    ∃ more, Punctual limeric more (time + 1) := by
  have earlier : ∀ instant ∈ instants calls, instant ≤ time + 1 :=
    fun instant member => (punctual.past instant member).trans (Int.le_add_one le_rfl)
  by_cases waits : time + 1 < (limeric.runCalls calls).scheduled
  · exact ⟨calls, punctual.onTime, earlier, waits⟩
  · have due : time + 1 = (limeric.runCalls calls).scheduled :=
      le_antisymm (Int.add_one_le_of_lt punctual.done) (not_lt.mp waits)
    have multiple : 2 * limeric.params.cbrInterval ∣ time + 1 := by
      obtain ⟨count, _, next⟩ := instants_onTime positive grid punctual.onTime
      rw [due, next]
      exact dvd_add grid (dvd_mul_right _ _)
    refine ⟨calls ++ [.told (.calculate (time + 1))], punctual.onTime.concat ?_, ?_, ?_⟩
    · rintro now ⟨⟩
      exact due
    · rw [instants_concat]
      exact List.forall_mem_append.mpr ⟨earlier, fun instant member => (List.mem_singleton.mp member).le⟩
    · rw [runCalls_concat, (scheduled_receive _ _).2, params_runCalls]
      show time + 1 < schedule limeric.params (time + 1)
      rw [schedule_of_dvd positive multiple]
      omega

/-- **There is a punctual run up to any time.** -/
theorem exists_punctual (positive : 0 < limeric.params.cbrInterval)
    (grid : 2 * limeric.params.cbrInterval ∣ limeric.scheduled) (time : ℤ) :
    ∃ calls, Punctual limeric calls time := by
  have idle : ∀ time < limeric.scheduled, ∃ calls, Punctual limeric calls time := by
    intro time early
    refine ⟨[], ?_, List.forall_mem_nil _, early⟩
    intro earlier call now front
    cases List.append_eq_nil_iff.mp (List.prefix_nil.mp front) with
    | intro _ impossible => cases impossible
  rcases lt_or_ge time (limeric.scheduled - 1) with early | late
  · exact idle time (by omega)
  · induction time, late using Int.leInduction with
    | base => exact idle _ (by omega)
    | succ time _ ih =>
      obtain ⟨calls, punctual⟩ := ih
      exact punctual.succ positive grid

end Runs

/-! ### Instances at different times -/

/-- **The calculations of instances with these parameters** are aligned. -/
structure Aligned (params : Parameters) : Prop where
  grid : ∀ now, 0 ≤ now → 2 * params.cbrInterval ∣ schedule params now
  within : ∀ now, 0 ≤ now →
    now + params.cbrInterval ≤ schedule params now ∧ schedule params now < now + 3 * params.cbrInterval
  /-- consecutive calculations on time -/
  apart : ∀ limeric calls, Started params limeric → OnTime limeric calls →
    (instants calls).IsChain fun earlier later => later = earlier + 2 * params.cbrInterval
  /-- two instances, once both are triggered on time -/
  together : ∀ other : Parameters, other.cbrInterval = params.cbrInterval → ∀ lhs rhs calls calls' time,
    Started params lhs → Started other rhs → Punctual lhs calls time → Punctual rhs calls' time →
      ∀ instant, lhs.scheduled ≤ instant → rhs.scheduled ≤ instant →
        (instant ∈ instants calls ↔ instant ∈ instants calls')

/-- **LIMERIC period alignment.** -/
theorem limeric_aligned (params : Parameters) (positive : 0 < params.cbrInterval) : Aligned params where
  grid := fun now nonneg => dvd_schedule nonneg positive
  within := fun now nonneg => schedule_within nonneg positive
  apart := by
    intro limeric calls started onTime
    obtain ⟨rfl, grid⟩ := started.grid positive
    obtain ⟨count, all, _⟩ := instants_onTime positive grid onTime
    rw [all]
    exact isChain_ticks _ _ _
  together := by
    intro other same lhs rhs calls calls' time startedLeft startedRight left right instant fromLeft fromRight
    obtain ⟨rfl, gridLeft⟩ := startedLeft.grid positive
    obtain ⟨rfl, gridRight⟩ := startedRight.grid (same ▸ positive)
    rw [mem_instants_iff positive gridLeft left, mem_instants_iff (same ▸ positive) gridRight right, same]
    exact and_congr_right fun _ => and_congr_left fun _ => iff_of_true fromLeft fromRight

theorem limeric_aligned_default : 0 < ({} : Parameters).cbrInterval ∧ Aligned {} :=
  ⟨by decide, limeric_aligned {} (by decide)⟩

end Limeric

end Vanet.Dcc
