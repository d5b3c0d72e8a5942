/-
**Queued packets have a wake-up.**

A trigger is armed when the first packet is enqueued and, as long as there is another packet, at the end of
each trigger and of `reschedule`. So one is pending whenever a packet is queued, if the delays that the
control reports are finite: with an infinite one there is no next packet to arm a trigger for.

* `Finite`: states of the control, at a time, with finite delays.
* `awake_step`: every event keeps a trigger pending while a packet is queued.
* `step_leaves`: a packet leaves its queue only by being transmitted or dropped.
* `wake_up`: the invariant for all runs, and that no packet waits forever if the runtime does not delay
  triggers forever.
-/

import Vanet.Dcc.Conservation
import Vanet.Library.InfiniteRun

namespace Vanet.Dcc

open Vanet.Common Vanet.Library Vanet.Net

variable {τ : Type} {control : TransmitRateControl τ} {good : τ → ℤ → Prop}

/-- **The control is in states with finite delays**, and its operations leave it in such states. -/
structure TransmitRateControl.Finite (control : TransmitRateControl τ) (good : τ → ℤ → Prop) : Prop where
  finite : ∀ trc now tx, good trc now → (control.delay trc now tx).1 < durationMax
  asked : ∀ trc now tx, good trc now → good (control.delay trc now tx).2 now
  notified : ∀ trc now tx, good trc now → good (control.notify trc now tx) now

namespace FlowControl

/-- A packet is queued. -/
def Waiting (flow : FlowControl τ) : Prop := ∃ ac, flow.queues ac ≠ []

/-- A trigger is pending in the runtime. -/
def Armed (flow : FlowControl τ) : Prop := ∃ item ∈ flow.runtime.queue, item.callback = .trigger

/-- **The delays are finite**, and a trigger is pending while a packet is queued. -/
structure Awake (good : τ → ℤ → Prop) (flow : FlowControl τ) : Prop where
  good : good flow.trc flow.now
  armed : flow.Waiting → flow.Armed

/-- The delays stay finite when time passes or the control changes. -/
def Bounded (good : τ → ℤ → Prop) (flow : FlowControl τ) : FlowAction τ → Prop
  | .advance now => good flow.trc now
  | .control trc => good trc flow.now
  | _ => True

theorem empty_iff {flow : FlowControl τ} : flow.empty = true ↔ ¬ flow.Waiting := by
  unfold empty Waiting
  rw [List.all_eq_true, not_exists]
  constructor
  · intro all ac
    exact not_not.mpr (List.isEmpty_iff.mp (all ac (mem_accessCategories ac)))
  · intro none_waits ac _
    exact List.isEmpty_iff.mpr (not_not.mp (none_waits ac))

/-- Whoever waits, there is a packet at a front. -/
theorem Waiting.front {flow : FlowControl τ} (waiting : flow.Waiting) : ∃ front, front ∈ flow.fronts := by
  obtain ⟨ac, more⟩ := waiting
  obtain ⟨front, rest, queue⟩ := List.exists_cons_of_ne_nil more
  exact ⟨front, List.mem_filterMap.mpr ⟨ac, mem_accessCategories ac, by rw [queue]; rfl⟩⟩

/-! ### What arms a trigger -/

section Operations

variable {flow : FlowControl τ} (finite : control.Finite good)

theorem armed_scheduleTrigger (flow : FlowControl τ) (tx : Transmission) :
    (flow.scheduleTrigger control tx).Armed :=
  ⟨_, ManualRuntime.mem_emplace.mpr (.inl rfl), rfl⟩

include finite

theorem good_nextQueueFrom (queues : AccessCategory → List PendingTransmission) (now : ℤ)
    (rest : List AccessCategory) : ∀ (minDelay : ℤ) (next : Option AccessCategory) (trc : τ),
      good trc now → good (nextQueueFrom control queues now rest minDelay next trc).2 now := by
  induction rest with
  | nil => exact fun _ _ _ states => states
  | cons ac rest ih =>
    intro minDelay next trc states
    unfold nextQueueFrom
    cases queues ac with
    | nil => exact ih _ _ _ states
    | cons front behind =>
      have asked := finite.asked trc now front.transmission states
      dsimp only
      split_ifs
      · exact ih _ _ _ asked
      · exact ih _ _ _ asked

theorem good_nextTransmission (states : good flow.trc flow.now) :
    good (flow.nextTransmission control).2.trc flow.now :=
  good_nextQueueFrom finite flow.queues flow.now accessCategories durationMax none flow.trc states

/-- **A packet is found** as long as one waits. -/
theorem nextTransmission_of_waiting (states : good flow.trc flow.now) (waiting : flow.Waiting) :
    ∃ pending, (flow.nextTransmission control).1 = some pending := by
  obtain ⟨_, found⟩ := nextQueue_found control flow
  rcases found with ⟨_, infinite⟩ | ⟨ac, front, best, ahead, _⟩
  · obtain ⟨front, among⟩ := waiting.front
    exact absurd (finite.finite _ _ _ states) (not_lt.mpr (infinite front among))
  · exact ⟨front, Option.bind_eq_some_iff.mpr ⟨ac, best, ahead⟩⟩

/-- Where no packet is found, none waits. -/
theorem awake_idle (states : good flow.trc flow.now) (idle : (flow.nextTransmission control).1 = none) :
    Awake good (flow.nextTransmission control).2 := by
  refine ⟨good_nextTransmission finite states, fun waiting => ?_⟩
  obtain ⟨pending, found⟩ := nextTransmission_of_waiting finite states waiting
  rw [idle] at found
  cases found

/-- If a packet is found, a trigger is scheduled for it. -/
theorem awake_found {next : PendingTransmission → FlowControl τ} (states : good flow.trc flow.now)
    (awake : ∀ pending, Awake good (next pending)) :
    Awake good (match (flow.nextTransmission control).1 with
      | none => (flow.nextTransmission control).2
      | some pending => next pending) := by
  cases found : (flow.nextTransmission control).1 with
  | none => exact awake_idle finite states found
  | some pending => exact awake pending

theorem awake_armNext (states : good flow.trc flow.now) : Awake good (flow.armNext control) := by
  have asked := good_nextTransmission finite states
  exact awake_found finite states fun _ => ⟨finite.asked _ _ _ asked, fun _ => armed_scheduleTrigger _ _⟩

theorem awake_reschedule (states : good flow.trc flow.now) : Awake good (flow.reschedule control) := by
  have asked := good_nextTransmission finite states
  exact awake_found finite states fun _ => ⟨finite.asked _ _ _ asked, fun _ => armed_scheduleTrigger _ _⟩

theorem good_sendNext (states : good flow.trc flow.now) :
    good (flow.sendNext control).trc (flow.sendNext control).now := by
  have asked : good (flow.nextQueue control).2.trc flow.now :=
    good_nextQueueFrom finite flow.queues flow.now accessCategories durationMax none flow.trc states
  unfold sendNext dequeue
  dsimp only
  cases (flow.nextQueue control).1 with
  | none => exact asked
  | some ac =>
    dsimp only
    cases (flow.queues ac).head? with
    | none => exact asked
    | some pending => exact finite.notified _ _ _ asked

theorem good_transmitImmediately (states : good flow.trc flow.now) (tx : Transmission) :
    good (flow.transmitImmediately control tx).2.trc flow.now := by
  unfold transmitImmediately
  split_ifs
  · exact states
  · exact finite.asked _ _ _ states

/-- A packet that is enqueued has a trigger: the one that it arms, or the one of those before it. -/
theorem awake_enqueue (awake : Awake good flow) (request : DataRequest) (packet : ChunkPacket) :
    Awake good (flow.enqueue control request packet) := by
  have states := awake.good
  unfold enqueue
  dsimp only
  have room : ∀ ac, (flow.makeRoom ac packet).trc = flow.trc ∧
      (flow.makeRoom ac packet).runtime = flow.runtime := by
    intro ac
    unfold makeRoom
    split_ifs <;> exact ⟨rfl, rfl⟩
  obtain ⟨trc, runtime⟩ := room (mapProfileOntoAc request.dccProfile)
  have kept : good (flow.makeRoom (mapProfileOntoAc request.dccProfile) packet).trc
      (flow.makeRoom (mapProfileOntoAc request.dccProfile) packet).runtime.now := by
    rw [trc, runtime]
    exact states
  by_cases first : flow.empty = true
  · rw [if_pos first]
    exact ⟨finite.asked _ _ _ kept, fun _ => armed_scheduleTrigger _ _⟩
  · rw [if_neg first]
    refine ⟨kept, fun _ => ?_⟩
    have before := awake.armed (by_contra fun none_waits => first (empty_iff.mpr none_waits))
    unfold Armed at before ⊢
    rw [runtime]
    exact before

end Operations

/-- Expired packets go, the trigger stays. -/
theorem Awake.dropExpired {flow : FlowControl τ} (awake : Awake good flow) : Awake good flow.dropExpired := by
  refine ⟨awake.good, ?_⟩
  rintro ⟨ac, more⟩
  refine awake.armed ⟨ac, fun none_left => more ?_⟩
  show (flow.queues ac).filter _ = []
  rw [none_left]
  rfl

theorem awake_request {flow : FlowControl τ} (finite : control.Finite good) (awake : Awake good flow)
    (request : DataRequest) (packet : ChunkPacket) : Awake good (flow.request control request packet) := by
  unfold FlowControl.request
  set tx : Transmission := ⟨request.dccProfile, none, packet.size⟩
  have dropped := awake.dropExpired
  have states := good_transmitImmediately finite dropped.good tx
  have stocked : Stocked flow.dropExpired (flow.dropExpired.transmitImmediately control tx).2 :=
    (transmitImmediately_spec tx).1
  have runtime : (flow.dropExpired.transmitImmediately control tx).2.runtime = flow.runtime := by
    unfold transmitImmediately
    split_ifs <;> rfl
  have asked : Awake good (flow.dropExpired.transmitImmediately control tx).2 := by
    refine ⟨by rw [stocked.now]; exact states, fun waiting => ?_⟩
    have before : flow.dropExpired.Armed := dropped.armed (by unfold Waiting at *; rwa [stocked.queues] at waiting)
    unfold Armed at before ⊢
    rw [runtime]
    exact before
  dsimp only
  split_ifs
  · exact ⟨finite.notified _ _ _ asked.good, asked.armed⟩
  · exact awake_enqueue finite asked request packet

/-- **Every event** keeps a trigger pending while a packet is queued. -/
theorem awake_step {flow after : FlowControl τ} {action : FlowAction τ} (finite : control.Finite good)
    (awake : Awake good flow) (bounded : flow.Bounded good action)
    (taken : flow.step control action = some after) : Awake good after := by
  cases action with
  | request request packet =>
    cases taken
    exact awake_request finite awake request packet
  | trigger =>
    obtain ⟨⟨top, runtime⟩, popped, rfl⟩ := Option.map_eq_some_iff.mp taken
    obtain ⟨rest, _, _, rfl⟩ := ManualRuntime.popDue_some.mp popped
    exact awake_armNext finite (good_sendNext finite awake.good)
  | reschedule =>
    cases taken
    exact awake_reschedule finite awake.good
  | queueLength length =>
    cases taken
    exact ⟨awake.good, awake.armed⟩
  | advance now =>
    obtain ⟨_, moved⟩ := Option.ite_none_right_eq_some.mp taken
    cases moved
    exact ⟨bounded, awake.armed⟩
  | control trc =>
    cases taken
    exact ⟨bounded, awake.armed⟩

/-! ### How a packet leaves -/

/-- **A packet leaves its queue**: it is transmitted, or a drop is reported for its category. -/
structure Leaves (before after : FlowControl τ) (ac : AccessCategory) (pending : PendingTransmission) : Prop where
  queued : pending ∈ before.queues ac
  gone : pending ∉ after.queues ac
  reason : (∃ handover, after.sent = before.sent ++ [handover] ∧ handover.packet = pending.packet ∧
      handover.transmission = pending.transmission) ∨
    ∃ reports, after.dropped = before.dropped ++ reports ∧ ∃ report ∈ reports, report.1 = ac

section Leaving

variable {flow after : FlowControl τ} {ac : AccessCategory} {pending : PendingTransmission}

/-- What has not expired stays when expired packets go. -/
theorem mem_dropExpired : pending ∈ flow.dropExpired.queues ac ↔
    pending ∈ flow.queues ac ∧ expired flow.now pending = false := by
  show pending ∈ (flow.queues ac).filter _ ↔ _
  rw [List.mem_filter, Bool.not_eq_true']

/-- An expired packet is reported. -/
theorem dropExpired_reports (queued : pending ∈ flow.queues ac) (passed : expired flow.now pending = true) :
    ∃ reports, flow.dropExpired.dropped = flow.dropped ++ reports ∧ ∃ report ∈ reports, report.1 = ac := by
  refine ⟨_, rfl, (ac, pending.packet), List.mem_flatMap.mpr ⟨ac, mem_accessCategories ac, ?_⟩, rfl⟩
  exact List.mem_map.mpr ⟨pending, List.mem_filter.mpr ⟨queued, passed⟩, rfl⟩

/-- The reports of an operation after other ones. -/
theorem reports_trans {middle : FlowControl τ}
    (reported : ∃ reports, middle.dropped = flow.dropped ++ reports ∧ ∃ report ∈ reports, report.1 = ac)
    (more : ∃ reports, after.dropped = middle.dropped ++ reports) :
    ∃ reports, after.dropped = flow.dropped ++ reports ∧ ∃ report ∈ reports, report.1 = ac := by
  obtain ⟨reports, same, report, member, own⟩ := reported
  obtain ⟨others, further⟩ := more
  exact ⟨reports ++ others, by rw [further, same, List.append_assoc], report,
    List.mem_append_left _ member, own⟩

theorem enqueue_dropped (request : DataRequest) (packet : ChunkPacket) :
    (flow.enqueue control request packet).dropped =
      (flow.makeRoom (mapProfileOntoAc request.dccProfile) packet).dropped := by
  unfold enqueue
  dsimp only
  split_ifs <;> rfl

/-- The reports of `enqueue` come after those before. -/
theorem enqueue_reports (request : DataRequest) (packet : ChunkPacket) :
    ∃ reports, (flow.enqueue control request packet).dropped = flow.dropped ++ reports := by
  rw [enqueue_dropped]
  unfold makeRoom
  split_ifs
  · exact ⟨_, rfl⟩
  · exact ⟨[], (List.append_nil _).symm⟩

/-- **Enqueuing**: a packet that is pushed out is reported, the others stay. -/
theorem enqueue_keeps (control : TransmitRateControl τ) (request : DataRequest) (packet : ChunkPacket)
    (queued : pending ∈ flow.queues ac) :
    pending ∈ (flow.enqueue control request packet).queues ac ∨
      ∃ reports, (flow.enqueue control request packet).dropped = flow.dropped ++ reports ∧
        ∃ report ∈ reports, report.1 = ac := by
  rw [enqueue_dropped]
  set own := mapProfileOntoAc request.dccProfile with category
  have queues : (flow.enqueue control request packet).queues = Function.update
      (flow.makeRoom own packet).queues own ((flow.makeRoom own packet).queues own ++
        [⟨flow.now + request.lifetime, request, packet⟩]) := by
    unfold enqueue
    dsimp only
    split_ifs <;> rfl
  rw [queues]
  unfold makeRoom
  by_cases full : flow.queueLength > 0 ∧ (flow.queues own).length ≥ flow.queueLength
  · rw [if_pos full]
    by_cases same : ac = own
    · have surplus : (flow.queues own).length + 1 - flow.queueLength ≠ 0 := by omega
      exact .inr ⟨_, rfl, (own, packet), List.mem_replicate.mpr ⟨surplus, rfl⟩, same.symm⟩
    · left
      simp only [Function.update_of_ne same]
      exact queued
  · rw [if_neg full]
    left
    by_cases same : ac = own
    · subst same
      rw [Function.update_self]
      exact List.mem_append_left _ queued
    · rw [Function.update_of_ne same]
      exact queued

theorem request_leaves (request : DataRequest) (packet : ChunkPacket) (queued : pending ∈ flow.queues ac)
    (gone : pending ∉ (flow.request control request packet).queues ac) :
    Leaves flow (flow.request control request packet) ac pending := by
  refine ⟨queued, gone, .inr ?_⟩
  unfold FlowControl.request at gone ⊢
  set tx : Transmission := ⟨request.dccProfile, none, packet.size⟩
  have stocked : Stocked flow.dropExpired (flow.dropExpired.transmitImmediately control tx).2 :=
    (transmitImmediately_spec tx).1
  have unchanged : (flow.dropExpired.transmitImmediately control tx).2.dropped = flow.dropExpired.dropped :=
    stocked.dropped
  dsimp only at gone ⊢
  by_cases passed : expired flow.now pending = true
  · have reported := dropExpired_reports queued passed
    rw [← unchanged] at reported
    split_ifs
    · exact reports_trans reported ⟨[], (List.append_nil _).symm⟩
    · exact reports_trans reported (enqueue_reports request packet)
  · have left : pending ∈ (flow.dropExpired.transmitImmediately control tx).2.queues ac := by
      rw [stocked.queues]
      exact mem_dropExpired.mpr ⟨queued, Bool.not_eq_true _ |>.mp passed⟩
    split_ifs at gone ⊢
    · exact absurd left gone
    · rcases enqueue_keeps control request packet left with stays | ⟨reports, same, reported⟩
      · exact absurd stays gone
      · obtain ⟨expiredOnes, before⟩ : ∃ expiredOnes, flow.dropExpired.dropped = flow.dropped ++ expiredOnes :=
          ⟨_, rfl⟩
        refine ⟨expiredOnes ++ reports, ?_, ?_⟩
        · rw [same, unchanged, before, List.append_assoc]
        · obtain ⟨report, member, own⟩ := reported
          exact ⟨report, List.mem_append_right _ member, own⟩

theorem trigger_leaves (queued : pending ∈ flow.queues ac)
    (gone : pending ∉ (flow.trigger control).queues ac) : Leaves flow (flow.trigger control) ac pending := by
  refine ⟨queued, gone, ?_⟩
  unfold FlowControl.trigger at gone ⊢
  have armed : Stocked (flow.dropExpired.sendNext control) ((flow.dropExpired.sendNext control).armNext control) :=
    stocked_armNext
  rw [armed.queues] at gone
  rw [armed.sent, armed.dropped]
  by_cases passed : expired flow.now pending = true
  · refine .inr (reports_trans (dropExpired_reports queued passed) ?_)
    rcases sendNext_spec control flow.dropExpired with stocked | ⟨_, _, _, _, _, _, _, dropped, _⟩
    · exact ⟨[], by rw [stocked.dropped, List.append_nil]⟩
    · exact ⟨[], by rw [dropped, List.append_nil]⟩
  · have left : pending ∈ flow.dropExpired.queues ac :=
      mem_dropExpired.mpr ⟨queued, Bool.not_eq_true _ |>.mp passed⟩
    rcases sendNext_spec control flow.dropExpired with
      stocked | ⟨other, front, rest, trc, queue, queues, sent, _, _⟩
    · rw [stocked.queues] at gone
      exact absurd left gone
    · rw [queues] at gone
      by_cases same : ac = other
      · subst same
        rw [Function.update_self] at gone
        rw [queue] at left
        rcases List.mem_cons.mp left with rfl | behind
        · exact .inl ⟨_, sent, rfl, rfl⟩
        · exact absurd behind gone
      · rw [Function.update_of_ne same] at gone
        exact absurd left gone

/-- **A packet leaves its queue** only by being transmitted or dropped. -/
theorem step_leaves {action : FlowAction τ} (taken : flow.step control action = some after)
    (queued : pending ∈ flow.queues ac) (gone : pending ∉ after.queues ac) :
    Leaves flow after ac pending := by
  cases action with
  | request request packet =>
    cases taken
    exact request_leaves request packet queued gone
  | trigger =>
    obtain ⟨⟨top, runtime⟩, popped, rfl⟩ := Option.map_eq_some_iff.mp taken
    obtain ⟨rest, _, _, rfl⟩ := ManualRuntime.popDue_some.mp popped
    have leaves : Leaves { flow with runtime := { flow.runtime with queue := rest } } _ ac pending :=
      trigger_leaves queued gone
    exact ⟨queued, gone, leaves.reason⟩
  | reschedule =>
    cases taken
    rw [stocked_reschedule.queues] at gone
    exact absurd queued gone
  | queueLength length =>
    cases taken
    exact absurd queued gone
  | advance now =>
    obtain ⟨_, moved⟩ := Option.ite_none_right_eq_some.mp taken
    cases moved
    exact absurd queued gone
  | control trc =>
    cases taken
    exact absurd queued gone

end Leaving

/-! ### Runs -/

/-- Time does not go back. -/
theorem now_step (before : FlowControl τ) (action : FlowAction τ) (after : FlowControl τ)
    (taken : before.step control action = some after) : before.now ≤ after.now := by
  cases action with
  | request request packet =>
    cases taken
    unfold FlowControl.request
    set tx : Transmission := ⟨request.dccProfile, none, packet.size⟩
    have stocked : Stocked before.dropExpired (before.dropExpired.transmitImmediately control tx).2 :=
      (transmitImmediately_spec tx).1
    have asked : (before.dropExpired.transmitImmediately control tx).2.now = before.now := stocked.now
    dsimp only
    split_ifs
    · exact asked.ge
    · refine asked.ge.trans (le_of_eq ?_)
      unfold enqueue makeRoom
      dsimp only
      split_ifs <;> rfl
  | trigger =>
    obtain ⟨⟨top, runtime⟩, popped, rfl⟩ := Option.map_eq_some_iff.mp taken
    obtain ⟨rest, _, _, rfl⟩ := ManualRuntime.popDue_some.mp popped
    unfold FlowControl.trigger
    rw [stocked_armNext.now]
    rcases sendNext_spec control (dropExpired { before with runtime := { before.runtime with queue := rest } })
      with stocked | ⟨_, _, _, _, _, _, _, _, now⟩
    · rw [stocked.now]
      exact le_rfl
    · rw [now]
      exact le_rfl
  | reschedule =>
    cases taken
    rw [stocked_reschedule.now]
  | queueLength length =>
    cases taken
    exact le_rfl
  | advance now =>
    obtain ⟨forward, moved⟩ := Option.ite_none_right_eq_some.mp taken
    cases moved
    exact forward
  | control trc =>
    cases taken
    exact le_rfl

/-- **After a trigger** no packet is left that had expired. -/
theorem trigger_drops {flow after : FlowControl τ} {ac : AccessCategory} {pending : PendingTransmission}
    (taken : flow.step control .trigger = some after) (passed : expired flow.now pending = true) :
    pending ∉ after.queues ac := by
  obtain ⟨⟨top, runtime⟩, popped, rfl⟩ := Option.map_eq_some_iff.mp taken
  obtain ⟨rest, _, _, rfl⟩ := ManualRuntime.popDue_some.mp popped
  set popped : FlowControl τ := { flow with runtime := { flow.runtime with queue := rest } }
  have gone : ∀ other, pending ∉ popped.dropExpired.queues other := by
    intro other left
    have alive : expired flow.now pending = false := (mem_dropExpired.mp left).2
    rw [passed] at alive
    cases alive
  unfold FlowControl.trigger
  rw [stocked_armNext.queues]
  rcases sendNext_spec control popped.dropExpired with stocked | ⟨other, front, behind, _, queue, queues, _⟩
  · rw [stocked.queues]
    exact gone ac
  · rw [queues]
    by_cases same : ac = other
    · subst same
      rw [Function.update_self]
      exact fun member => gone ac (by rw [queue]; exact List.mem_cons_of_mem _ member)
    · rw [Function.update_of_ne same]
      exact gone ac

end FlowControl

/-- **A flow control that has just been constructed**, with a control whose delays are finite. -/
def FlowControl.Begins (good : τ → ℤ → Prop) (flow : FlowControl τ) : Prop :=
  flow.Initial ∧ good flow.trc flow.now

/-- **Time goes on, and a trigger that stays pending is invoked** at some time. -/
structure Fair (run : InfiniteRun (FlowControl.Begins good) (FlowControl.step control)
    (FlowControl.Bounded good)) : Prop where
  passes : ∀ time, ∃ n, time < (run.state n).now
  invoked : ∀ n, (∀ m ≥ n, (run.state m).Armed) → ∃ m ≥ n, run.action m = .trigger

/-- **A trigger is pending** while a packet is queued, in all runs. -/
theorem awake_of_reach (finite : control.Finite good) {flow : FlowControl τ}
    (reached : GuardedReach (FlowControl.Begins good) (FlowControl.step control)
      (FlowControl.Bounded good) flow) : FlowControl.Awake good flow := by
  refine GuardedReach.invariant ?_ ?_ flow reached
  · rintro first ⟨⟨_, queues, _⟩, states⟩
    exact ⟨states, fun ⟨ac, more⟩ => absurd (congrFun queues ac) more⟩
  · intro before action after _ awake bounded taken
    exact FlowControl.awake_step finite awake bounded taken

/-- **No packet waits forever**, if the runtime is fair. -/
theorem leaves_of_fair (finite : control.Finite good)
    (run : InfiniteRun (FlowControl.Begins good) (FlowControl.step control) (FlowControl.Bounded good))
    (fair : Fair run) (n : ℕ) (ac : AccessCategory) (pending : PendingTransmission)
    (queued : pending ∈ (run.state n).queues ac) :
    ∃ m ≥ n, FlowControl.Leaves (run.state m) (run.state (m + 1)) ac pending := by
  have absent : ∃ m ≥ n, pending ∉ (run.state m).queues ac := by
    by_contra stays
    have waits : ∀ m ≥ n, pending ∈ (run.state m).queues ac :=
      fun m later => by_contra fun gone => stays ⟨m, later, gone⟩
    -- from the time on at which the packet has expired, a trigger is pending all the time
    obtain ⟨past, passed⟩ := fair.passes pending.expiry
    have armed : ∀ m ≥ max n past, (run.state m).Armed := by
      intro m later
      refine (awake_of_reach finite (run.reached m)).armed ⟨ac, fun none_left => ?_⟩
      have queued := waits m (le_trans (le_max_left _ _) later)
      rw [none_left] at queued
      cases queued
    obtain ⟨m, later, triggers⟩ := fair.invoked _ armed
    have now : (run.state past).now ≤ (run.state m).now :=
      run.monotone FlowControl.now_step (le_trans (le_max_right _ _) later)
    have taken := run.steps m
    rw [triggers] at taken
    exact FlowControl.trigger_drops taken (decide_eq_true (lt_of_lt_of_le passed now))
      (waits (m + 1) (le_trans (le_trans (le_max_left _ _) later) (Nat.le_succ m)))
  obtain ⟨m, later, gone⟩ := absent
  obtain ⟨k, after, queued, gone⟩ := run.ends (P := fun flow => pending ∈ flow.queues ac) later queued gone
  exact ⟨k, after, FlowControl.step_leaves (run.steps k) queued gone⟩

/-- **Queued packets always have a wake-up.** -/
theorem wake_up (finite : control.Finite good) :
    (∀ flow, GuardedReach (FlowControl.Begins good) (FlowControl.step control)
        (FlowControl.Bounded good) flow → flow.Waiting → flow.Armed) ∧
      ∀ run : InfiniteRun (FlowControl.Begins good) (FlowControl.step control) (FlowControl.Bounded good),
        Fair run → ∀ n ac pending, pending ∈ (run.state n).queues ac →
          ∃ m ≥ n, FlowControl.Leaves (run.state m) (run.state (m + 1)) ac pending :=
  ⟨fun _ reached => (awake_of_reach finite reached).armed, leaves_of_fair finite⟩

/-- The last transmission is not in the future, and the interval is finite. -/
def StateMachineBudget.Passed (budget : StateMachineBudget) (now : ℤ) : Prop :=
  budget.transmissionInterval < durationMax ∧ ∀ lastTx ∈ budget.lastTx, lastTx ≤ now

theorem singleReactive_finite : singleReactive.Finite StateMachineBudget.Passed where
  finite budget now _ passed := by
    obtain ⟨interval, before⟩ := passed
    have positive : 0 < durationMax := by decide
    show budget.delay now < durationMax
    unfold StateMachineBudget.delay
    cases last : budget.lastTx with
    | none => exact positive
    | some lastTx =>
      have earlier := before lastTx last
      dsimp only
      split_ifs
      · exact positive
      · omega
  asked _ _ _ passed := passed
  notified budget now _ passed := ⟨passed.1, fun lastTx same => by cases same; exact le_rfl⟩

namespace TwoQueued

/-- Three packets are requested and two of them have to wait. The trigger sends the first one of them; the
second one has expired when its trigger is invoked. -/
def actions : List (FlowAction StateMachineBudget) :=
  [payloadRequest 0, payloadRequest 1, payloadRequest 2, .advance 60000, .trigger, .advance 2000000, .trigger]

/-- Afterwards time goes on. -/
def action (n : ℕ) (flow : FlowControl StateMachineBudget) : FlowAction StateMachineBudget :=
  actions.getD n (.advance (flow.now + 1))

def state : ℕ → FlowControl StateMachineBudget :=
  InfiniteRun.scripted (FlowControl.step singleReactive) action relaxed

instance (flow : FlowControl StateMachineBudget) :
    ∀ action, Decidable (flow.Bounded StateMachineBudget.Passed action)
  | .advance _ | .control _ => inferInstanceAs (Decidable (_ ∧ _))
  | .request _ _ | .trigger | .reschedule | .queueLength _ => instDecidableTrue

theorem scripted : ∀ n < 7, (state n).Bounded StateMachineBudget.Passed (action n (state n)) ∧
    ((state n).step singleReactive (action n (state n))).isSome = true := by
  decide +kernel

theorem finished : (state 7).runtime.queue = [] ∧ (state 7).trc = ⟨60000, some 60000⟩ ∧
    (state 7).now = 2000000 := by
  decide +kernel

theorem action_late (n : ℕ) (flow : FlowControl StateMachineBudget) :
    action (n + 7) flow = .advance (flow.now + 1) :=
  rfl

theorem step_late (flow : FlowControl StateMachineBudget) :
    flow.step singleReactive (.advance (flow.now + 1)) =
      some { flow with runtime := { flow.runtime with now := flow.now + 1 } } :=
  if_pos (by omega)

/-- Then nothing else changes. -/
theorem state_add (n : ℕ) :
    state (n + 7) = { state 7 with runtime := { (state 7).runtime with now := (state 7).now + n } } := by
  induction n with
  | zero => simp [FlowControl.now]
  | succ n ih =>
    have late : state (n + 7 + 1) = ((state (n + 7)).step singleReactive
        (action (n + 7) (state (n + 7)))).getD (state (n + 7)) :=
      rfl
    rw [Nat.succ_add, late, action_late, step_late, Option.getD_some, ih]
    simp [FlowControl.now, add_assoc]

theorem allowed (n : ℕ) : (state n).Bounded StateMachineBudget.Passed (action n (state n)) := by
  by_cases early : n < 7
  · exact (scripted n early).1
  · obtain ⟨more, rfl⟩ := Nat.exists_eq_add_of_le' (Nat.not_lt.mp early)
    rw [action_late, state_add]
    show StateMachineBudget.Passed (state 7).trc _
    rw [finished.2.1]
    refine ⟨by decide, fun lastTx sent => ?_⟩
    cases sent
    show (60000 : ℤ) ≤ (state 7).now + more + 1
    rw [finished.2.2]
    omega

theorem goes (n : ℕ) : ((state n).step singleReactive (action n (state n))).isSome = true := by
  by_cases early : n < 7
  · exact (scripted n early).2
  · obtain ⟨more, rfl⟩ := Nat.exists_eq_add_of_le' (Nat.not_lt.mp early)
    rw [action_late, step_late]
    rfl

def run : InfiniteRun (FlowControl.Begins StateMachineBudget.Passed) (FlowControl.step singleReactive)
    (FlowControl.Bounded StateMachineBudget.Passed) :=
  .script action relaxed ⟨relaxed_initial, by decide, fun _ sent => nomatch sent⟩ allowed goes

theorem fair : Fair run where
  passes time := by
    refine ⟨time.toNat + 7, ?_⟩
    show time < (state (time.toNat + 7)).now
    rw [state_add]
    show time < (state 7).now + time.toNat
    rw [finished.2.2]
    omega
  invoked n armed := by
    obtain ⟨item, pending, _⟩ := armed (n + 7) (Nat.le_add_right n 7)
    have gone : (run.state (n + 7)).runtime.queue = [] := by
      show (state (n + 7)).runtime.queue = []
      rw [state_add]
      exact finished.1
    rw [gone] at pending
    cases pending

end TwoQueued

/-- **Two packets wait** and both leave, one to the access layer and one because it has expired. -/
theorem wake_up_two_queued :
    (∀ n, (TwoQueued.run.state n).Waiting → (TwoQueued.run.state n).Armed) ∧
      ((TwoQueued.run.state 3).queues .be).length = 2 ∧
      (∀ pending ∈ (TwoQueued.run.state 3).queues .be,
        ∃ m ≥ 3, FlowControl.Leaves (TwoQueued.run.state m) (TwoQueued.run.state (m + 1)) .be pending) ∧
      (TwoQueued.run.state 7).sent.length = 2 ∧ (TwoQueued.run.state 7).dropped.length = 1 := by
  have wakes := wake_up singleReactive_finite
  exact ⟨fun n => wakes.1 _ (TwoQueued.run.reached n), by decide +kernel,
    wakes.2 TwoQueued.run TwoQueued.fair 3 .be, by decide +kernel, by decide +kernel⟩

end Vanet.Dcc
