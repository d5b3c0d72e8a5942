/-
**The clock and the runtime.**

Time points and durations are counted in microseconds, as `Clock` does. A `ManualRuntime` keeps the scheduled callbacks
in the order of their deadlines; the callbacks of equal deadlines stay in the order in which they
were scheduled. A scope identifies the callbacks of one object, and cancelling the null scope has no
effect.
-/

import Mathlib.Data.Int.Order.Basic

namespace Vanet.Common

/-- `Clock::duration::max()`. -/
def durationMax : ℤ := 9223372036854775807

structure ScheduledCallback (κ ς : Type) where
  deadline : ℤ
  callback : κ
  scope : Option ς
  deriving DecidableEq

structure ManualRuntime (κ ς : Type) where
  now : ℤ
  queue : List (ScheduledCallback κ ς)
  deriving DecidableEq

namespace ManualRuntime

variable {κ ς : Type}

/-- The position behind all callbacks that are not due later. -/
def emplace (item : ScheduledCallback κ ς) :
    List (ScheduledCallback κ ς) → List (ScheduledCallback κ ς)
  | [] => [item]
  | head :: tail =>
    if item.deadline < head.deadline then item :: head :: tail else head :: emplace item tail

def schedule (runtime : ManualRuntime κ ς) (tp : ℤ) (cb : κ) (scope : Option ς) :
    ManualRuntime κ ς :=
  { runtime with queue := emplace ⟨tp, cb, scope⟩ runtime.queue }

/-- `schedule` with a duration from now. -/
def scheduleIn (runtime : ManualRuntime κ ς) (d : ℤ) (cb : κ) (scope : Option ς) :
    ManualRuntime κ ς :=
  runtime.schedule (runtime.now + d) cb scope

def cancel [DecidableEq ς] (runtime : ManualRuntime κ ς) : Option ς → ManualRuntime κ ς
  | none => runtime
  | some scope => { runtime with queue := runtime.queue.filter fun item => item.scope ≠ some scope }

/-- One round of the loop in `trigger`: the first callback leaves the queue if it is due. -/
def popDue (runtime : ManualRuntime κ ς) : Option (ScheduledCallback κ ς × ManualRuntime κ ς) :=
  match runtime.queue with
  | [] => none
  | top :: rest =>
    if top.deadline ≤ runtime.now then some (top, { runtime with queue := rest }) else none

@[simp] theorem schedule_now (runtime : ManualRuntime κ ς) (tp : ℤ) (cb : κ)
    (scope : Option ς) : (runtime.schedule tp cb scope).now = runtime.now :=
  rfl

@[simp] theorem scheduleIn_now (runtime : ManualRuntime κ ς) (d : ℤ) (cb : κ)
    (scope : Option ς) : (runtime.scheduleIn d cb scope).now = runtime.now :=
  rfl

@[simp] theorem cancel_now [DecidableEq ς] (runtime : ManualRuntime κ ς) (scope : Option ς) :
    (runtime.cancel scope).now = runtime.now := by
  cases scope <;> rfl

theorem mem_emplace {item other : ScheduledCallback κ ς} {queue : List (ScheduledCallback κ ς)} :
    other ∈ emplace item queue ↔ other = item ∨ other ∈ queue := by
  induction queue with
  | nil => simp [emplace]
  | cons head tail ih =>
    unfold emplace
    by_cases earlier : item.deadline < head.deadline
    · rw [if_pos earlier, List.mem_cons]
    · rw [if_neg earlier, List.mem_cons, List.mem_cons, ih]
      exact or_left_comm

/-- Callbacks of a kind are not affected by one of another kind. -/
theorem filter_emplace {item : ScheduledCallback κ ς} {kind : ScheduledCallback κ ς → Bool}
    (other : kind item = false) (queue : List (ScheduledCallback κ ς)) :
    (emplace item queue).filter kind = queue.filter kind := by
  induction queue with
  | nil => exact List.filter_cons_of_neg (Bool.not_eq_true _ |>.mpr other)
  | cons head tail ih =>
    unfold emplace
    by_cases earlier : item.deadline < head.deadline
    · rw [if_pos earlier]
      exact List.filter_cons_of_neg (Bool.not_eq_true _ |>.mpr other)
    · rw [if_neg earlier, List.filter_cons, List.filter_cons, ih]

/-- ... nor by cancelling callbacks of another kind. -/
theorem filter_cancel [DecidableEq ς] {scope : ς} {kind : ScheduledCallback κ ς → Bool}
    (apart : ∀ item, kind item = true → item.scope ≠ some scope) (runtime : ManualRuntime κ ς) :
    (runtime.cancel (some scope)).queue.filter kind = runtime.queue.filter kind := by
  unfold cancel
  dsimp only
  rw [List.filter_filter]
  refine List.filter_congr fun item _ => ?_
  by_cases ours : kind item = true
  · rw [ours, decide_eq_true (apart item ours)]
    rfl
  · rw [Bool.not_eq_true _ |>.mp ours, Bool.false_and]

/-- The first callback of a kind. -/
theorem filter_emplace_self {item : ScheduledCallback κ ς} {kind : ScheduledCallback κ ς → Bool}
    (ours : kind item = true) {queue : List (ScheduledCallback κ ς)}
    (others : queue.filter kind = []) : (emplace item queue).filter kind = [item] := by
  induction queue with
  | nil => exact List.filter_cons_of_pos ours
  | cons head tail ih =>
    unfold emplace
    have another : ¬ kind head = true :=
      List.filter_eq_nil_iff.mp others head List.mem_cons_self
    rw [List.filter_cons_of_neg another] at others
    by_cases earlier : item.deadline < head.deadline
    · rw [if_pos earlier, List.filter_cons_of_pos ours, List.filter_cons_of_neg another, others]
    · rw [if_neg earlier, List.filter_cons_of_neg another, ih others]

theorem popDue_some {runtime after : ManualRuntime κ ς} {top : ScheduledCallback κ ς} :
    runtime.popDue = some (top, after) ↔
      ∃ rest, runtime.queue = top :: rest ∧ top.deadline ≤ runtime.now ∧
        after = { runtime with queue := rest } := by
  unfold popDue
  cases runtime.queue with
  | nil => simp
  | cons head tail =>
    by_cases due : head.deadline ≤ runtime.now
    · simp only [if_pos due, Option.some.injEq, Prod.mk.injEq, List.cons.injEq]
      constructor
      · rintro ⟨rfl, rfl⟩
        exact ⟨tail, ⟨rfl, rfl⟩, due, rfl⟩
      · rintro ⟨rest, ⟨rfl, rfl⟩, _, rfl⟩
        exact ⟨rfl, rfl⟩
    · simp only [if_neg due, reduceCtorEq, false_iff]
      rintro ⟨rest, same, nowDue, _⟩
      cases same
      exact due nowDue

end ManualRuntime

end Vanet.Common
