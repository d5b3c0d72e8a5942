/-
**The executions of a repeated request.**

An accepted request is executed again and again until its maximum is spent: an execution costs the
interval, and the time by which its callback was late. `Legal` says this of the executions of one
request, without anything else of the router. What an execution did is kept beside (`Invocation`): it is one
if the router was asked for the request again (`Executes`).

* `Legal.length_le`: the executions are at most as many as intervals fit into the maximum.
* `Legal.deadline_le`, `Legal.next_le`: none is scheduled for a time after the maximum.
* `Legal.times`, `Punctual.further_iff`: if no callback is late, the executions take place at multiples
  of the interval as it is scheduled, and their number alone decides whether there is another one.
-/

import Mathlib.Tactic.Linarith
import Vanet.Geonet.Repeater

namespace Vanet.Geonet

open Vanet.Common Vanet.Library Vanet.Security
open Vanet.Net hiding ByteBuffer

/-! ### The executions of a request -/

/-- **What the callback of a repetition did**: the environment and the router in which it was invoked, the
router that it left, and whether it ended with an exception. -/
structure Invocation where
  env : Environment
  before : Router
  after : Router
  failed : Bool

/-- **The callback asked the router for the request.** The router accepted it, and the repetition was erased;
or a step after the validation failed, and the exception of `request` went through. -/
inductive Invocation.Executes (platform : Platform) (request : DataRequestVariant)
    (payload : Option ChunkPacket) (ran : Invocation) : Prop
  | returned {requested : Router} {ref : ℕ}
      (asked : Router.request platform ran.env request payload ran.before = (.ok .accepted, requested))
      (erased : ran.after =
        { requested with repetitions := requested.repetitions.filter fun node => node.ref ≠ ref })
      (alive : ran.failed = false)
  | thrown {fault : RouterFault}
      (asked : Router.request platform ran.env request payload ran.before = (.error fault, ran.after))
      (fails : Router.Fails platform ran.env ran.before request) (failed : ran.failed = true)

/-- **An execution of a repetition**: for when it was scheduled, when it took place, and what its callback
did, unless it is one that has only been scheduled. -/
structure Execution where
  deadline : ℤ
  now : ℤ
  ran : Option Invocation

def Execution.delay (execution : Execution) : ℤ := execution.now - execution.deadline

namespace Repetition

/-- What is left after an execution with this delay. -/
def spent (repetition : Repetition) (delay : ℤ) : Repetition :=
  { repetition with maximum := repetition.maximum - repetition.interval - delay }

def remaining (repetition : Repetition) (executions : List Execution) : Repetition :=
  executions.foldl (fun rest execution => rest.spent execution.delay) repetition

/-- The time of the last execution, or of the request. -/
def lastTime (since : ℤ) (executions : List Execution) : ℤ :=
  executions.foldl (fun _ execution => execution.now) since

/-- **Legal executions** of a request at this time: each one is there because the remaining maximum has
room for the interval, is scheduled one interval after the one before, and takes place then or later. -/
def Legal : Repetition → ℤ → List Execution → Prop
  | _, _, [] => True
  | repetition, since, execution :: rest =>
    repetition.hasFurtherRepetition = true ∧
      execution.deadline = since + clockCast repetition.interval ∧
      execution.deadline ≤ execution.now ∧
      Legal (repetition.spent execution.delay) execution.now rest

section Legal

variable {repetition : Repetition} {since : ℤ} {executions : List Execution}

theorem decrementByOne_of_further (further : repetition.hasFurtherRepetition = true) :
    repetition.decrementByOne =
      { repetition with maximum := repetition.maximum - repetition.interval } := by
  obtain ⟨positive, room⟩ := hasFurtherRepetition_iff.mp further
  unfold decrementByOne
  split_ifs with more
  · rfl
  · have exact : repetition.maximum = repetition.interval := by
      by_contra apart
      exact more ⟨positive.trans_le room, positive, lt_of_le_of_ne room (Ne.symm apart)⟩
    rw [exact, sub_self]

@[simp] theorem remaining_nil : repetition.remaining [] = repetition := rfl

@[simp] theorem remaining_cons (execution : Execution) : repetition.remaining (execution :: executions) =
    (repetition.spent execution.delay).remaining executions := rfl

theorem remaining_concat (execution : Execution) : repetition.remaining (executions ++ [execution]) =
    (repetition.remaining executions).spent execution.delay := by
  unfold remaining
  rw [List.foldl_append, List.foldl_cons, List.foldl_nil]

theorem lastTime_concat (execution : Execution) :
    lastTime since (executions ++ [execution]) = execution.now := by
  unfold lastTime
  rw [List.foldl_append, List.foldl_cons, List.foldl_nil]

/-- The interval stays, and the maximum pays for every execution. -/
theorem remaining_eq : repetition.remaining executions =
    ⟨repetition.interval, repetition.maximum -
      (executions.map fun execution => repetition.interval + execution.delay).sum⟩ := by
  induction executions generalizing repetition with
  | nil => simp
  | cons execution rest ih =>
    rw [remaining_cons, ih, List.map_cons, List.sum_cons]
    unfold spent
    dsimp only
    rw [sub_sub, sub_sub, add_assoc]

theorem remaining_interval : (repetition.remaining executions).interval = repetition.interval := by
  rw [remaining_eq]

/-- **One execution more.** -/
theorem legal_concat {execution : Execution} :
    Legal repetition since (executions ++ [execution]) ↔
      Legal repetition since executions ∧
        (repetition.remaining executions).hasFurtherRepetition = true ∧
        execution.deadline = lastTime since executions + clockCast repetition.interval ∧
        execution.deadline ≤ execution.now := by
  induction executions generalizing repetition since with
  | nil => simp [Legal, lastTime]
  | cons first rest ih =>
    rw [List.cons_append]
    unfold Legal
    rw [ih, remaining_cons]
    unfold lastTime
    rw [List.foldl_cons]
    unfold spent
    simp only [and_assoc]

/-- The delays only make it worse. -/
theorem Legal.cost_le (legal : Legal repetition since executions) (nonempty : executions ≠ []) :
    executions.length * repetition.interval ≤ repetition.maximum := by
  induction executions generalizing repetition since with
  | nil => exact absurd rfl nonempty
  | cons execution rest ih =>
    obtain ⟨further, -, late, legal⟩ := legal
    obtain ⟨positive, room⟩ := hasFurtherRepetition_iff.mp further
    rw [List.length_cons]
    push_cast
    by_cases last : rest = []
    · rw [last, List.length_nil]
      push_cast
      linarith
    · have costs := ih legal last
      have delayed : (0 : ℚ) ≤ execution.delay := by
        exact_mod_cast Int.sub_nonneg_of_le late
      unfold spent at costs
      dsimp only at costs
      linarith

/-- **The number of executions.** -/
theorem Legal.length_le (legal : Legal repetition since executions) (positive : 0 < repetition.interval) :
    executions.length ≤ ⌊repetition.maximum / repetition.interval⌋₊ := by
  by_cases none : executions = []
  · rw [none]
    exact Nat.zero_le _
  · refine Nat.le_floor ?_
    rw [le_div_iff₀ positive]
    exact legal.cost_le none

/-- **No execution is scheduled for a time after the maximum.** -/
theorem Legal.deadline_le (legal : Legal repetition since executions) :
    ∀ execution ∈ executions, (execution.deadline : ℚ) ≤ since + repetition.maximum := by
  induction executions generalizing repetition since with
  | nil => exact fun _ member => absurd member List.not_mem_nil
  | cons first rest ih =>
    obtain ⟨further, due, late, legal⟩ := legal
    obtain ⟨positive, room⟩ := hasFurtherRepetition_iff.mp further
    have rounded : (clockCast repetition.interval : ℚ) ≤ repetition.interval := by
      rw [clockCast_of_nonneg positive.le]
      exact Int.floor_le _
    have time : (first.deadline : ℚ) = since + clockCast repetition.interval := by
      exact_mod_cast due
    intro execution member
    rcases List.mem_cons.mp member with rfl | later
    · linarith
    · have before := ih legal execution later
      unfold spent Execution.delay at before
      push_cast at before
      linarith

/-- ... nor is the next one. -/
theorem Legal.next_le (legal : Legal repetition since executions)
    (further : (repetition.remaining executions).hasFurtherRepetition = true) :
    ((lastTime since executions + clockCast repetition.interval : ℤ) : ℚ) ≤
      since + repetition.maximum := by
  let next : Execution := ⟨lastTime since executions + clockCast repetition.interval,
    lastTime since executions + clockCast repetition.interval, none⟩
  have extended : Legal repetition since (executions ++ [next]) :=
    legal_concat.mpr ⟨legal, further, rfl, le_refl _⟩
  exact extended.deadline_le next (List.mem_append_right _ List.mem_cons_self)

/-! ### Executions without delay -/

/-- No callback was late. -/
def Punctual (executions : List Execution) : Prop :=
  ∀ execution ∈ executions, execution.now = execution.deadline

theorem punctual_concat {execution : Execution} :
    Punctual (executions ++ [execution]) ↔
      Punctual executions ∧ execution.now = execution.deadline := by
  unfold Punctual
  simp [or_imp, forall_and]

theorem Legal.lastTime_eq (legal : Legal repetition since executions)
    (punctual : Punctual executions) :
    lastTime since executions = since + executions.length * clockCast repetition.interval := by
  induction executions using List.reverseRecOn with
  | nil => simp [lastTime]
  | append_singleton executions last ih =>
    obtain ⟨legal, -, due, -⟩ := legal_concat.mp legal
    obtain ⟨punctual, exact⟩ := punctual_concat.mp punctual
    rw [lastTime_concat, exact, due, ih legal punctual, List.length_append, List.length_singleton]
    push_cast
    ring

/-- **The times of the executions** are multiples of the interval as it is scheduled. -/
theorem Legal.times (legal : Legal repetition since executions) (punctual : Punctual executions) :
    executions.map Execution.now = (List.range executions.length).map fun k : ℕ =>
      since + (k + 1) * clockCast repetition.interval := by
  induction executions using List.reverseRecOn with
  | nil => rfl
  | append_singleton executions last ih =>
    have time := legal.lastTime_eq punctual
    rw [lastTime_concat] at time
    obtain ⟨legal, -⟩ := legal_concat.mp legal
    obtain ⟨punctual, -⟩ := punctual_concat.mp punctual
    rw [List.map_append, ih legal punctual, List.length_append, List.length_singleton,
      List.range_succ, List.map_append, List.map_singleton, List.map_singleton, time,
      List.length_append, List.length_singleton]
    push_cast
    rfl

/-- **Whether there is another execution** is decided by their number. -/
theorem Punctual.further_iff (punctual : Punctual executions) (positive : 0 < repetition.interval) :
    (repetition.remaining executions).hasFurtherRepetition = true ↔
      executions.length < ⌊repetition.maximum / repetition.interval⌋₊ := by
  have costs : (executions.map fun execution => repetition.interval + execution.delay).sum =
      executions.length * repetition.interval := by
    have each : executions.map (fun execution => repetition.interval + execution.delay) =
        executions.map fun _ => repetition.interval := by
      refine List.map_congr_left fun execution member => ?_
      unfold Execution.delay
      rw [punctual execution member, sub_self, Int.cast_zero, add_zero]
    rw [each, List.map_const', List.sum_replicate, nsmul_eq_mul]
  rw [hasFurtherRepetition_iff, remaining_eq, costs]
  dsimp only
  rw [and_iff_right positive, Nat.lt_iff_add_one_le, Nat.le_floor_iff' (Nat.succ_ne_zero _),
    le_div_iff₀ positive]
  push_cast
  rw [add_one_mul]
  exact le_sub_iff_add_le'

end Legal

end Repetition

end Vanet.Geonet
