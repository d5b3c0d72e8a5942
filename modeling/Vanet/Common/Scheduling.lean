/-
**Runs of a `ManualRuntime`.**

`trigger` and `reset` invoke callbacks in a loop, and a callback may call the runtime again: it may schedule,
cancel, trigger and reset. So a run is a stack of the loops and callbacks that have not returned, and what a
callback does is left open: any call may come next while it is at the top. A callback is the number of its
`schedule` call.

* `Legal`: what a history should be, from the calls and invocations alone.
* `consistent_step`: what holds of runtime, stack and history, kept by each step. `trigger` takes a callback out
  of the queue before it invokes it; `reset` takes all of them out, where `cancel` does not find them.
* `scheduling_legal`: the history of every run is legal whose calls of `cancel` spare the callbacks that a
  `reset` has still to invoke.
-/

import Mathlib.Data.List.Nodup
import Mathlib.Data.List.Perm.Basic
import Mathlib.Order.Nat
import Vanet.Common.Runtime
import Vanet.Library.Run

namespace Vanet.Common.Scheduling

open Vanet.Library

/-! ### Histories -/

/-- What invokes callbacks. -/
inductive Loop
  | trigger
  | reset
  deriving DecidableEq

/-- **What happens in a run.** `returned` is a trigger that returns. -/
inductive Event (ς : Type)
  | scheduled (item : ScheduledCallback ℕ ς)
  | cancelled (scope : Option ς)
  | reset
  | invoked (item : ScheduledCallback ℕ ς) (loop : Loop) (now : ℤ)
  | returned (now : ℤ)
  deriving DecidableEq

/-- **The order of callbacks**: by their deadlines, those of equal deadlines as they were scheduled. -/
def Precedes {ς : Type} (item other : ScheduledCallback ℕ ς) : Prop :=
  item.deadline < other.deadline ∨ item.deadline = other.deadline ∧ item.callback < other.callback

section History

variable {ς : Type} [DecidableEq ς]

/-- **The callbacks that are scheduled** after a history, the latest event first. A reset drops them all. -/
def scheduled : List (Event ς) → List (ScheduledCallback ℕ ς)
  | [] => []
  | .scheduled item :: before => item :: scheduled before
  | .cancelled none :: before => scheduled before
  | .cancelled (some scope) :: before => (scheduled before).filter fun item => item.scope ≠ some scope
  | .reset :: _ => []
  | .invoked item _ _ :: before => (scheduled before).filter fun other => other.callback ≠ item.callback
  | .returned _ :: before => scheduled before

omit [DecidableEq ς] in
/-- **A callback may be invoked**: it has been scheduled, has not been invoked before, and its scope has not
been cancelled since. -/
structure Invocable (history : List (Event ς)) (item : ScheduledCallback ℕ ς) : Prop where
  scheduled : .scheduled item ∈ history
  once : ∀ other loop now, .invoked other loop now ∈ history → other.callback ≠ item.callback
  uncancelled : ∀ later scope before, history = later ++ .cancelled (some scope) :: before →
    .scheduled item ∈ before → item.scope ≠ some scope

/-- **What may happen** after a history. A trigger invokes the first of the callbacks that are scheduled, not
before its deadline, and returns when none is due. -/
def Event.Allowed (history : List (Event ς)) : Event ς → Prop
  | .invoked item loop now =>
    Invocable history item ∧ (loop = .trigger →
      item.deadline ≤ now ∧ ∀ other ∈ Scheduling.scheduled history, other = item ∨ Precedes item other)
  | .returned now => ∀ item ∈ Scheduling.scheduled history, now < item.deadline
  | _ => True

/-- **A legal history.** -/
def Legal : List (Event ς) → Prop
  | [] => True
  | event :: before => event.Allowed before ∧ Legal before

variable {history before later : List (Event ς)} {event : Event ς} {item : ScheduledCallback ℕ ς}

omit [DecidableEq ς] in
/-- An event that is no invocation of the callback and no cancelling of its scope. -/
theorem Invocable.cons (invocable : Invocable history item)
    (other : ∀ same loop now, event = .invoked same loop now → same.callback ≠ item.callback)
    (spared : ∀ scope, event = .cancelled (some scope) → item.scope ≠ some scope) :
    Invocable (event :: history) item where
  scheduled := List.mem_cons_of_mem _ invocable.scheduled
  once := by
    intro same loop now member
    rcases List.mem_cons.mp member with latest | earlier
    · exact other same loop now latest.symm
    · exact invocable.once same loop now earlier
  uncancelled := by
    intro later scope before split member
    rcases List.cons_eq_append_iff.mp split with ⟨_, latest⟩ | ⟨rest, _, earlier⟩
    · exact spared scope (List.cons.inj latest).1.symm
    · exact invocable.uncancelled rest scope before earlier member

/-- The part of a legal history up to an event. -/
theorem Legal.of_append : ∀ {later : List (Event ς)}, Legal (later ++ before) → Legal before
  | [], legal => legal
  | _ :: _, legal => Legal.of_append legal.2

/-- **A cancelled callback that is invoked** makes a history illegal. -/
theorem not_legal_of_cancelled {scope : ς} {loop : Loop} {now : ℤ} (scheduled : .scheduled item ∈ before)
    (own : item.scope = some scope) (invoked : .invoked item loop now ∈ later) :
    ¬ Legal (later ++ .cancelled (some scope) :: before) := by
  intro legal
  obtain ⟨after, between, rfl⟩ := List.append_of_mem invoked
  rw [List.append_assoc] at legal
  have allowed := (Legal.of_append legal).1
  exact allowed.1.uncancelled between scope before rfl scheduled own

end History

/-! ### The machine -/

/-- A loop or a callback that has not returned. A reset has the queue that it has swapped out. -/
inductive Frame (ς : Type)
  | trigger
  | reset (queue : List (ScheduledCallback ℕ ς))
  | callback
  deriving DecidableEq

/-- **The state of a run**: the runtime, what has not returned, the innermost first, and the history. -/
structure Machine (ς : Type) where
  runtime : ManualRuntime ℕ ς
  frames : List (Frame ς)
  history : List (Event ς)
  deriving DecidableEq

/-- A call, the return of a callback, or the next round of a loop. -/
inductive Call (ς : Type)
  | schedule (tp : ℤ) (scope : Option ς)
  | scheduleIn (d : ℤ) (scope : Option ς)
  | cancel (scope : Option ς)
  | trigger (tp : ℤ)
  | triggerFor (d : ℤ)
  | reset (tp : ℤ)
  | leave
  | proceed

namespace Machine

variable {ς : Type}

def now (machine : Machine ς) : ℤ := machine.runtime.now

/-- The callbacks that resets have still to invoke. -/
def taken (machine : Machine ς) : List (ScheduledCallback ℕ ς) :=
  machine.frames.flatMap fun
    | .reset queue => queue
    | _ => []

/-- How many callbacks have been scheduled. -/
def number (machine : Machine ς) : ℕ := machine.history.countP fun event => event matches .scheduled _

/-- No loop is at the top: a callback, or the program outside. -/
def inControl (machine : Machine ς) : Bool :=
  match machine.frames with
  | [] => true
  | .callback :: _ => true
  | _ => false

/-- `schedule`. -/
def schedule (machine : Machine ς) (tp : ℤ) (scope : Option ς) : Machine ς :=
  { machine with
    runtime := machine.runtime.schedule tp machine.number scope
    history := .scheduled ⟨tp, machine.number, scope⟩ :: machine.history }

/-- A round of the loop at the top. -/
def proceed (machine : Machine ς) : Option (Machine ς) :=
  match machine.frames with
  | .trigger :: outer =>
    match machine.runtime.popDue with
    | some (top, runtime) =>
      some ⟨runtime, .callback :: .trigger :: outer, .invoked top .trigger machine.now :: machine.history⟩
    | none => some { machine with frames := outer, history := .returned machine.now :: machine.history }
  | .reset (item :: rest) :: outer =>
    some { machine with
      frames := .callback :: .reset rest :: outer
      history := .invoked item .reset machine.now :: machine.history }
  | .reset [] :: outer => some { machine with frames := outer }
  | _ => none

variable [DecidableEq ς]

/-- **One step.** The clock of `trigger` does not go back, by an assertion. -/
def step (machine : Machine ς) : Call ς → Option (Machine ς)
  | .schedule tp scope => if machine.inControl then some (machine.schedule tp scope) else none
  | .scheduleIn d scope =>
    if machine.inControl then some (machine.schedule (machine.now + d) scope) else none
  | .cancel scope =>
    if machine.inControl then
      some { machine with
        runtime := machine.runtime.cancel scope
        history := .cancelled scope :: machine.history }
    else none
  | .trigger tp =>
    if machine.inControl ∧ machine.now ≤ tp then
      some { machine with
        runtime := { machine.runtime with now := tp }
        frames := .trigger :: machine.frames }
    else none
  | .triggerFor d =>
    if machine.inControl then
      some { machine with
        runtime := { machine.runtime with now := machine.now + d }
        frames := .trigger :: machine.frames }
    else none
  | .reset tp =>
    if machine.inControl then
      some ⟨⟨tp, []⟩, .reset machine.runtime.queue :: machine.frames, .reset :: machine.history⟩
    else none
  | .leave =>
    match machine.frames with
    | .callback :: outer => some { machine with frames := outer }
    | _ => none
  | .proceed => machine.proceed

/-- A runtime that has just been constructed. -/
def Initial (machine : Machine ς) : Prop :=
  machine.runtime.queue = [] ∧ machine.frames = [] ∧ machine.history = []

/-- **The condition on a step**: a scope that is cancelled is not one of a callback that a reset has still
to invoke. -/
def Spares (machine : Machine ς) : Call ς → Prop
  | .cancel (some scope) => ∀ item ∈ machine.taken, item.scope ≠ some scope
  | _ => True

instance sparesDecidable (machine : Machine ς) : ∀ call, Decidable (machine.Spares call)
  | .cancel (some scope) => inferInstanceAs (Decidable (∀ item ∈ machine.taken, item.scope ≠ some scope))
  | .cancel none | .schedule _ _ | .scheduleIn _ _ | .trigger _ | .triggerFor _ | .reset _ | .leave
  | .proceed => inferInstanceAs (Decidable True)

end Machine

/-! ### The queue -/

section Queue

variable {ς : Type} {item other : ScheduledCallback ℕ ς} {queue : List (ScheduledCallback ℕ ς)}

theorem perm_emplace (item : ScheduledCallback ℕ ς) (queue : List (ScheduledCallback ℕ ς)) :
    (ManualRuntime.emplace item queue).Perm (item :: queue) := by
  induction queue with
  | nil => exact .refl _
  | cons head tail ih =>
    unfold ManualRuntime.emplace
    by_cases earlier : item.deadline < head.deadline
    · rw [if_pos earlier]
    · rw [if_neg earlier]
      exact (ih.cons head).trans (List.Perm.swap item head tail)

/-- A callback is emplaced behind those of its deadline, which have been scheduled before. -/
theorem pairwise_emplace (sorted : queue.Pairwise Precedes)
    (latest : ∀ other ∈ queue, other.callback < item.callback) :
    (ManualRuntime.emplace item queue).Pairwise Precedes := by
  induction queue with
  | nil => exact List.pairwise_singleton _ _
  | cons head tail ih =>
    obtain ⟨first, rest⟩ := List.pairwise_cons.mp sorted
    obtain ⟨newer, others⟩ := List.forall_mem_cons.mp latest
    unfold ManualRuntime.emplace
    by_cases earlier : item.deadline < head.deadline
    · rw [if_pos earlier]
      refine List.pairwise_cons.mpr ⟨List.forall_mem_cons.mpr ⟨.inl earlier, ?_⟩, sorted⟩
      intro other member
      left
      rcases first other member with before | ⟨same, _⟩
      · exact earlier.trans before
      · exact earlier.trans_eq same
    · rw [if_neg earlier]
      refine List.pairwise_cons.mpr ⟨fun other member => ?_, ih rest others⟩
      rcases ManualRuntime.mem_emplace.mp member with rfl | inside
      · rcases (not_lt.mp earlier).lt_or_eq with before | same
        · exact .inl before
        · exact .inr ⟨same, newer⟩
      · exact first other inside

/-- When no round of `trigger` is left, no callback is due. -/
theorem not_due_of_popDue_none {runtime : ManualRuntime ℕ ς} (sorted : runtime.queue.Pairwise Precedes)
    (stops : runtime.popDue = none) : ∀ item ∈ runtime.queue, runtime.now < item.deadline := by
  unfold ManualRuntime.popDue at stops
  cases queued : runtime.queue with
  | nil => simp
  | cons top rest =>
    rw [queued] at stops sorted
    have later : runtime.now < top.deadline := by
      by_contra due
      simp [not_lt.mp due] at stops
    refine List.forall_mem_cons.mpr ⟨later, fun item member => ?_⟩
    rcases (List.pairwise_cons.mp sorted).1 item member with before | ⟨same, _⟩
    · exact later.trans before
    · exact later.trans_eq same

/-- One callback of a number is taken out of those that are scheduled. -/
theorem perm_filter_other {rest scheduled : List (ScheduledCallback ℕ ς)}
    (perm : (item :: rest).Perm scheduled) (alone : ∀ other ∈ rest, other.callback ≠ item.callback) :
    rest.Perm (scheduled.filter fun other => other.callback ≠ item.callback) := by
  have filtered := perm.filter fun other => decide (other.callback ≠ item.callback)
  rw [List.filter_cons_of_neg (by simp), List.filter_eq_self.mpr (by simpa using alone)] at filtered
  exact filtered

end Queue

/-! ### What holds of a run -/

/-- **Runtime, stack and history agree.** The queue has the callbacks that are scheduled, in their order; these
and the ones that resets have taken may be invoked. -/
structure Consistent {ς : Type} [DecidableEq ς] (machine : Machine ς) : Prop where
  queued : machine.runtime.queue.Perm (scheduled machine.history)
  sorted : machine.runtime.queue.Pairwise Precedes
  numbered : ∀ item, (.scheduled item ∈ machine.history ∨ ∃ loop now, .invoked item loop now ∈ machine.history) →
    item.callback < machine.number
  distinct : ((machine.runtime.queue ++ machine.taken).map ScheduledCallback.callback).Nodup
  invocable : ∀ item ∈ machine.runtime.queue ++ machine.taken, Invocable machine.history item
  legal : Legal machine.history

section Steps

variable {ς : Type} [DecidableEq ς] {machine after : Machine ς}

theorem Consistent.schedule (consistent : Consistent machine) (tp : ℤ) (scope : Option ς) :
    Consistent (machine.schedule tp scope) := by
  have below : ∀ item ∈ machine.runtime.queue ++ machine.taken, item.callback < machine.number :=
    fun item member => consistent.numbered item (.inl (consistent.invocable item member).scheduled)
  have number : (machine.schedule tp scope).number = machine.number + 1 := by
    simp [Machine.schedule, Machine.number]
  have perm := perm_emplace ⟨tp, machine.number, scope⟩ machine.runtime.queue
  constructor
  · exact perm.trans (consistent.queued.cons _)
  · exact pairwise_emplace consistent.sorted fun other member => below other (List.mem_append_left _ member)
  · intro item known
    rw [number]
    rcases known with scheduled | ⟨loop, now, invoked⟩
    · rcases List.mem_cons.mp scheduled with latest | earlier
      · cases latest
        exact Nat.lt_succ_self _
      · exact Nat.lt_succ_of_lt (consistent.numbered item (.inl earlier))
    · rcases List.mem_cons.mp invoked with latest | earlier
      · cases latest
      · exact Nat.lt_succ_of_lt (consistent.numbered item (.inr ⟨loop, now, earlier⟩))
  · refine ((perm.append_right machine.taken).map _).nodup_iff.mpr ?_
    refine List.nodup_cons.mpr ⟨fun again => ?_, consistent.distinct⟩
    obtain ⟨item, member, same⟩ := List.mem_map.mp again
    exact absurd same (below item member).ne
  · intro item member
    have apart : item = ⟨tp, machine.number, scope⟩ ∨ item ∈ machine.runtime.queue ++ machine.taken := by
      rcases List.mem_append.mp member with queued | taken
      · exact (ManualRuntime.mem_emplace.mp queued).imp_right (List.mem_append_left _)
      · exact .inr (List.mem_append_right _ taken)
    rcases apart with rfl | known
    · refine ⟨List.mem_cons_self, ?_, ?_⟩
      · intro other loop now invoked
        rcases List.mem_cons.mp invoked with latest | earlier
        · cases latest
        · exact (consistent.numbered other (.inr ⟨loop, now, earlier⟩)).ne
      · intro later other before split again
        rcases List.cons_eq_append_iff.mp split with ⟨_, latest⟩ | ⟨rest, _, earlier⟩
        · cases latest
        · have inside : .scheduled ⟨tp, machine.number, scope⟩ ∈ machine.history := by
            rw [earlier]
            exact List.mem_append_right _ (List.mem_cons_of_mem _ again)
          exact absurd rfl (consistent.numbered _ (.inl inside)).ne
    · exact (consistent.invocable item known).cons (by rintro _ _ _ ⟨⟩) (by rintro _ ⟨⟩)
  · exact ⟨trivial, consistent.legal⟩

/-- **What is not a `schedule` call** leaves the numbers alone. -/
theorem Consistent.keep {runtime : ManualRuntime ℕ ς} {frames : List (Frame ς)} {event : Event ς}
    (consistent : Consistent machine) (same : ∀ item, event ≠ .scheduled item)
    (known : ∀ item loop now, event = .invoked item loop now → .scheduled item ∈ machine.history)
    (queued : runtime.queue.Perm (scheduled (event :: machine.history)))
    (sublist : (runtime.queue ++ (⟨runtime, frames, event :: machine.history⟩ : Machine ς).taken).Subperm
      (machine.runtime.queue ++ machine.taken))
    (ordered : runtime.queue.Pairwise Precedes)
    (invocable : ∀ item ∈ runtime.queue ++ (⟨runtime, frames, event :: machine.history⟩ : Machine ς).taken,
      Invocable (event :: machine.history) item)
    (allowed : event.Allowed machine.history) : Consistent ⟨runtime, frames, event :: machine.history⟩ where
  queued := queued
  sorted := ordered
  numbered := by
    have number : (⟨runtime, frames, event :: machine.history⟩ : Machine ς).number = machine.number := by
      cases event with
      | scheduled item => exact absurd rfl (same item)
      | _ => rfl
    intro item member
    rw [number]
    rcases member with scheduled | ⟨loop, now, invoked⟩
    · rcases List.mem_cons.mp scheduled with latest | earlier
      · exact absurd latest.symm (same item)
      · exact consistent.numbered item (.inl earlier)
    · rcases List.mem_cons.mp invoked with latest | earlier
      · exact consistent.numbered item (.inl (known item loop now latest.symm))
      · exact consistent.numbered item (.inr ⟨loop, now, earlier⟩)
  distinct := by
    obtain ⟨part, perm, sublist⟩ := sublist
    exact (perm.map _).nodup_iff.mp (consistent.distinct.sublist (sublist.map _))
  invocable := invocable
  legal := ⟨allowed, consistent.legal⟩

/-- A machine with the same queue, the same callbacks to be invoked and the same history. -/
theorem Consistent.reframe {runtime : ManualRuntime ℕ ς} {frames : List (Frame ς)}
    (consistent : Consistent machine) (queue : runtime.queue = machine.runtime.queue)
    (taken : (⟨runtime, frames, machine.history⟩ : Machine ς).taken = machine.taken) :
    Consistent ⟨runtime, frames, machine.history⟩ := by
  obtain ⟨queued, sorted, numbered, distinct, invocable, legal⟩ := consistent
  rw [← queue, ← taken] at distinct invocable
  rw [← queue] at queued sorted
  exact ⟨queued, sorted, numbered, distinct, invocable, legal⟩

theorem Consistent.cancel (consistent : Consistent machine) (scope : Option ς)
    (spares : machine.Spares (.cancel scope)) :
    Consistent { machine with
      runtime := machine.runtime.cancel scope
      history := .cancelled scope :: machine.history } := by
  cases scope with
  | none =>
    refine consistent.keep nofun nofun consistent.queued (List.Subperm.refl _) consistent.sorted ?_ trivial
    exact fun item member => (consistent.invocable item member).cons nofun nofun
  | some scope =>
    have spared : ∀ item ∈ (machine.runtime.cancel (some scope)).queue ++ machine.taken,
        item.scope ≠ some scope := by
      intro item member
      rcases List.mem_append.mp member with queued | taken
      · exact of_decide_eq_true (List.mem_filter.mp queued).2
      · exact spares item taken
    have part : ((machine.runtime.cancel (some scope)).queue ++ machine.taken).Sublist
        (machine.runtime.queue ++ machine.taken) :=
      List.filter_sublist.append_right _
    refine consistent.keep nofun nofun (consistent.queued.filter _) part.subperm
      (consistent.sorted.filter _) ?_ trivial
    intro item member
    refine (consistent.invocable item (part.subset member)).cons nofun ?_
    rintro other ⟨⟩
    exact spared item member

/-- A reset swaps the queue out. -/
theorem Consistent.reset (consistent : Consistent machine) (tp : ℤ) :
    Consistent ⟨⟨tp, []⟩, .reset machine.runtime.queue :: machine.frames, .reset :: machine.history⟩ := by
  refine consistent.keep nofun nofun (.refl _) (List.Subperm.refl _) List.Pairwise.nil ?_ trivial
  exact fun item member => (consistent.invocable item member).cons nofun nofun

/-- **A round of `trigger`** invokes the first callback. -/
theorem Consistent.triggered (consistent : Consistent machine) {top : ScheduledCallback ℕ ς}
    {rest : List (ScheduledCallback ℕ ς)} {frames : List (Frame ς)}
    (taken : (⟨machine.runtime, frames, machine.history⟩ : Machine ς).taken = machine.taken)
    (queue : machine.runtime.queue = top :: rest) (due : top.deadline ≤ machine.now) :
    Consistent ⟨{ machine.runtime with queue := rest }, frames,
      .invoked top .trigger machine.now :: machine.history⟩ := by
  have distinct := consistent.distinct
  have queued := consistent.queued
  have sorted := consistent.sorted
  have invocable := consistent.invocable
  rw [queue] at distinct queued sorted invocable
  obtain ⟨first, ordered⟩ := List.pairwise_cons.mp sorted
  obtain ⟨alone, _⟩ := List.nodup_cons.mp distinct
  have apart : ∀ item ∈ rest ++ machine.taken, item.callback ≠ top.callback :=
    fun item member same => alone (List.mem_map.mpr ⟨item, member, same⟩)
  refine consistent.keep nofun ?_ ?_ ?_ ordered ?_ ⟨invocable top List.mem_cons_self, fun _ => ⟨due, ?_⟩⟩
  · rintro item loop now ⟨⟩
    exact (invocable top List.mem_cons_self).scheduled
  · exact perm_filter_other queued fun other member => apart other (List.mem_append_left _ member)
  · rw [queue, ← taken]
    exact (List.sublist_cons_self _ _).subperm
  · intro item member
    have member : item ∈ rest ++ machine.taken := by
      rw [← taken]
      exact member
    refine (invocable item (List.mem_cons_of_mem _ member)).cons ?_ nofun
    rintro same loop now ⟨⟩
    exact (apart item member).symm
  · intro other member
    rcases List.mem_cons.mp (queued.mem_iff.mpr member) with rfl | behind
    · exact .inl rfl
    · exact .inr (first other behind)

/-- **A trigger returns** when no callback is due. -/
theorem Consistent.returned (consistent : Consistent machine) {frames : List (Frame ς)}
    (taken : (⟨machine.runtime, frames, machine.history⟩ : Machine ς).taken = machine.taken)
    (stops : machine.runtime.popDue = none) :
    Consistent ⟨machine.runtime, frames, .returned machine.now :: machine.history⟩ := by
  refine consistent.keep nofun nofun consistent.queued ?_ consistent.sorted ?_ ?_
  · rw [← taken]
    exact List.Subperm.refl _
  · intro item member
    refine (consistent.invocable item ?_).cons nofun nofun
    rw [← taken]
    exact member
  · intro item member
    exact not_due_of_popDue_none consistent.sorted stops item (consistent.queued.mem_iff.mpr member)

/-- **A round of `reset`** invokes the first of the callbacks that it has taken. -/
theorem Consistent.taken_invoked (consistent : Consistent machine) {item : ScheduledCallback ℕ ς}
    {rest : List (ScheduledCallback ℕ ς)} {outer : List (Frame ς)}
    (frames : machine.frames = .reset (item :: rest) :: outer) :
    Consistent ⟨machine.runtime, .callback :: .reset rest :: outer,
      .invoked item .reset machine.now :: machine.history⟩ := by
  have perm : (machine.runtime.queue ++ machine.taken).Perm (item :: (machine.runtime.queue ++
      (⟨machine.runtime, .callback :: .reset rest :: outer, machine.history⟩ : Machine ς).taken)) := by
    unfold Machine.taken
    rw [frames]
    exact List.perm_middle
  have invocable := consistent.invocable
  have known := invocable item (perm.mem_iff.mpr List.mem_cons_self)
  obtain ⟨alone, _⟩ := List.nodup_cons.mp ((perm.map _).nodup_iff.mp consistent.distinct)
  have apart : ∀ other ∈ machine.runtime.queue ++
      (⟨machine.runtime, .callback :: .reset rest :: outer, machine.history⟩ : Machine ς).taken,
      other.callback ≠ item.callback :=
    fun other member same => alone (List.mem_map.mpr ⟨other, member, same⟩)
  refine consistent.keep nofun ?_ ?_ ?_ consistent.sorted ?_ ⟨known, nofun⟩
  · rintro same loop now ⟨⟩
    exact known.scheduled
  · show machine.runtime.queue.Perm ((scheduled machine.history).filter _)
    rw [List.filter_eq_self.mpr]
    · exact consistent.queued
    · intro other member
      exact decide_eq_true (apart other (List.mem_append_left _ (consistent.queued.mem_iff.mpr member)))
  · exact (List.sublist_cons_self item _).subperm.trans perm.symm.subperm
  · intro other member
    refine (invocable other (perm.mem_iff.mpr (List.mem_cons_of_mem _ member))).cons ?_ nofun
    rintro same loop now ⟨⟩
    exact (apart other member).symm

theorem Consistent.proceed (consistent : Consistent machine) (taken : machine.proceed = some after) :
    Consistent after := by
  obtain ⟨runtime, frames, history⟩ := machine
  unfold Machine.proceed at taken
  cases frames with
  | nil => cases taken
  | cons top outer =>
    cases top with
    | callback => cases taken
    | trigger =>
      dsimp only at taken
      cases popped : runtime.popDue with
      | none =>
        rw [popped] at taken
        cases taken
        exact consistent.returned rfl popped
      | some round =>
        obtain ⟨first, left⟩ := round
        rw [popped] at taken
        cases taken
        obtain ⟨rest, queue, due, rfl⟩ := ManualRuntime.popDue_some.mp popped
        exact consistent.triggered rfl queue due
    | reset queue =>
      cases queue with
      | nil =>
        cases taken
        exact consistent.reframe rfl rfl
      | cons item rest =>
        cases taken
        exact consistent.taken_invoked rfl

/-- **Every step** keeps runtime, stack and history in agreement. -/
theorem consistent_step {call : Call ς} (consistent : Consistent machine) (spares : machine.Spares call)
    (taken : machine.step call = some after) : Consistent after := by
  cases call with
  | schedule tp scope =>
    obtain ⟨_, same⟩ := Option.ite_none_right_eq_some.mp taken
    cases same
    exact consistent.schedule tp scope
  | scheduleIn d scope =>
    obtain ⟨_, same⟩ := Option.ite_none_right_eq_some.mp taken
    cases same
    exact consistent.schedule _ scope
  | cancel scope =>
    obtain ⟨_, same⟩ := Option.ite_none_right_eq_some.mp taken
    cases same
    exact consistent.cancel scope spares
  | trigger tp =>
    obtain ⟨_, same⟩ := Option.ite_none_right_eq_some.mp taken
    cases same
    exact consistent.reframe rfl rfl
  | triggerFor d =>
    obtain ⟨_, same⟩ := Option.ite_none_right_eq_some.mp taken
    cases same
    exact consistent.reframe rfl rfl
  | reset tp =>
    obtain ⟨_, same⟩ := Option.ite_none_right_eq_some.mp taken
    cases same
    exact consistent.reset tp
  | leave =>
    obtain ⟨runtime, frames, history⟩ := machine
    cases frames with
    | nil => cases taken
    | cons top outer =>
      cases top with
      | callback =>
        cases taken
        exact consistent.reframe rfl rfl
      | trigger => cases taken
      | reset queue => cases taken
  | proceed => exact consistent.proceed taken

end Steps

theorem consistent_initial {ς : Type} [DecidableEq ς] {machine : Machine ς} (initial : machine.Initial) :
    Consistent machine := by
  obtain ⟨runtime, frames, history⟩ := machine
  obtain ⟨queue, rfl, rfl⟩ := initial
  dsimp only at queue
  constructor <;> simp [queue, scheduled, Machine.taken, Legal]

/-- **Runtime scheduling**, for every order of calls from outside and from within callbacks. -/
theorem scheduling_legal {ς : Type} [DecidableEq ς] {machine : Machine ς}
    (reached : GuardedReach Machine.Initial Machine.step Machine.Spares machine) :
    Legal machine.history := by
  have consistent : Consistent machine := by
    refine GuardedReach.invariant (I := Consistent) (fun _ => consistent_initial) ?_ machine reached
    exact fun before call after _ consistent spares taken => consistent_step consistent spares taken
  exact consistent.legal

/-- What has been invoked, by which loop and when, the latest first. -/
def invocations {ς : Type} (history : List (Event ς)) : List (ℕ × Loop × ℤ) :=
  history.filterMap fun
    | .invoked item loop now => some (item.callback, loop, now)
    | _ => none

/-- A callback schedules another one and triggers; the second of the two callbacks that this invokes
cancels one that is scheduled. Then the first of two callbacks of a reset schedules and cancels one of a
scope that the second one does not have. -/
theorem scheduling_legal_nested : ∃ machine : Machine Bool,
    (machine.frames = [] ∧ machine.runtime = ⟨0, []⟩ ∧
      invocations machine.history =
        [(5, .reset, 0), (4, .reset, 0), (1, .trigger, 10), (3, .trigger, 10), (0, .trigger, 7)]) ∧
      Legal machine.history := by
  obtain ⟨machine, reached, holds⟩ := run_reach Machine.Initial Machine.step Machine.Spares
    (fun machine => machine.frames = [] ∧ machine.runtime = ⟨0, []⟩ ∧
      invocations machine.history =
        [(5, .reset, 0), (4, .reset, 0), (1, .trigger, 10), (3, .trigger, 10), (0, .trigger, 7)])
    (⟨rfl, rfl, rfl⟩ : Machine.Initial ⟨⟨0, []⟩, [], []⟩)
    [.schedule 5 (some false), .schedule 9 none, .schedule 12 (some true), .trigger 7, .proceed,
      .scheduleIn 1 none, .triggerFor 3, .proceed, .leave, .proceed, .cancel (some true), .leave, .proceed,
      .leave, .proceed, .schedule 20 (some false), .schedule 21 none, .reset 0, .proceed,
      .schedule 3 (some true), .cancel (some true), .leave, .proceed, .leave, .proceed] (by decide)
  exact ⟨machine, holds, scheduling_legal reached⟩

/-- The first callback of a reset cancels the scope of the second one, which is invoked all the same. -/
theorem not_scheduling_legal :
    ∃ machine : Machine Bool, Reachable Machine.Initial Machine.step machine ∧ ¬ Legal machine.history := by
  have reached : Reachable Machine.Initial Machine.step (⟨⟨0, []⟩, [.callback, .reset []],
      [.invoked ⟨6, 1, some true⟩ .reset 0] ++ .cancelled (some true) ::
        [.invoked ⟨5, 0, some false⟩ .reset 0, .reset, .scheduled ⟨6, 1, some true⟩,
          .scheduled ⟨5, 0, some false⟩]⟩ : Machine Bool) :=
    run_reach_from _ _ _ [.schedule 5 (some false), .schedule 6 (some true), .reset 0, .proceed,
      .cancel (some true), .leave, .proceed]
      (.start (⟨rfl, rfl, rfl⟩ : Machine.Initial ⟨⟨0, []⟩, [], []⟩)) (by decide)
  have last : Event.invoked ⟨6, 1, some true⟩ .reset 0 ∈
      ([.invoked ⟨6, 1, some true⟩ .reset 0] : List (Event Bool)) :=
    List.mem_singleton_self _
  exact ⟨_, reached, not_legal_of_cancelled (by decide) rfl last⟩

end Vanet.Common.Scheduling
