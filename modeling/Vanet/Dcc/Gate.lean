/-
**The gate of the flow control.**

A request is only sent at once when its delay is zero. A trigger does not look at the delay again:
it sends the packet with the smallest delay, whatever that delay has become since the trigger was
armed. So the gate holds in every run whose triggers find a packet at the front of a queue that
need not wait (`gate_kept`), and a trigger that finds only packets that have to wait for a finite
time breaks it (`trigger_gated_iff`, `not_gate_kept`).

* `nextQueueFrom_cases`: what the loop of `next_queue` returns.
* `request_sent`, `trigger_sent`: what an operation hands over.
-/

import Vanet.Library.Run
import Vanet.Dcc.FlowControl

namespace Vanet.Dcc

open Vanet.Common Vanet.Library Vanet.Net

variable {τ : Type} {control : TransmitRateControl τ}

/-- **A handover at an instant at which its transmission need not wait.** -/
def Handover.Gated (control : TransmitRateControl τ) (handover : Handover τ) : Prop :=
  (control.delay handover.trc handover.now handover.transmission).1 = 0

namespace FlowControl

/-- The packets at the front of the queues. -/
def fronts (flow : FlowControl τ) : List PendingTransmission :=
  accessCategories.filterMap fun ac => (flow.queues ac).head?

/-- How long a packet has to wait now. -/
def wait (control : TransmitRateControl τ) (flow : FlowControl τ) (pending : PendingTransmission) : ℤ :=
  (control.delay flow.trc flow.now pending.transmission).1

/-- **When a trigger may fire**: among the packets that are left at the front of the queues when the
expired ones are dropped there is one that need not wait, or none with a finite delay. -/
def Due (control : TransmitRateControl τ) (flow : FlowControl τ) : Prop :=
  (∃ front ∈ flow.dropExpired.fronts, flow.wait control front = 0) ∨
    ∀ front ∈ flow.dropExpired.fronts, durationMax ≤ flow.wait control front

/-- The condition on a step: triggers fire when they may. -/
def Timely (control : TransmitRateControl τ) (flow : FlowControl τ) : FlowAction τ → Prop
  | .trigger => flow.Due control
  | _ => True

/-! ### The next queue -/

/-- **What the loop of `next_queue` has found** among the fronts it visits: nothing that has to wait
less than `minDelay`, or the queue of the front that has to wait least. -/
def Found (queues : AccessCategory → List PendingTransmission) (wait : PendingTransmission → ℤ)
    (minDelay : ℤ) (next : Option AccessCategory) (fronts : List PendingTransmission)
    (result : Option AccessCategory) : Prop :=
  result = next ∧ (∀ front ∈ fronts, minDelay ≤ wait front) ∨
    ∃ ac front, result = some ac ∧ (queues ac).head? = some front ∧ wait front < minDelay ∧
      front ∈ fronts ∧ ∀ other ∈ fronts, wait front ≤ wait other

section Found

variable {queues : AccessCategory → List PendingTransmission} {wait : PendingTransmission → ℤ}
  {minDelay : ℤ} {next result : Option AccessCategory} {fronts : List PendingTransmission}
  {front : PendingTransmission}

theorem Found.skip (found : Found queues wait minDelay next fronts result)
    (larger : minDelay ≤ wait front) : Found queues wait minDelay next (front :: fronts) result := by
  rcases found with ⟨kept, atLeast⟩ | ⟨ac, best, taken, ahead, less, among, least⟩
  · exact .inl ⟨kept, List.forall_mem_cons.mpr ⟨larger, atLeast⟩⟩
  · have best_le : wait best ≤ wait front := le_trans (le_of_lt less) larger
    exact .inr ⟨ac, best, taken, ahead, less, List.mem_cons_of_mem _ among,
      List.forall_mem_cons.mpr ⟨best_le, least⟩⟩

theorem Found.take {ac : AccessCategory} (ahead : (queues ac).head? = some front)
    (smaller : wait front < minDelay)
    (found : Found queues wait (wait front) (some ac) fronts result) :
    Found queues wait minDelay next (front :: fronts) result := by
  rcases found with ⟨kept, atLeast⟩ | ⟨other, best, taken, otherAhead, less, among, least⟩
  · exact .inr ⟨ac, front, kept, ahead, smaller, List.mem_cons_self,
      List.forall_mem_cons.mpr ⟨le_refl _, atLeast⟩⟩
  · exact .inr ⟨other, best, taken, otherAhead, lt_trans less smaller, List.mem_cons_of_mem _ among,
      List.forall_mem_cons.mpr ⟨le_of_lt less, least⟩⟩

end Found

theorem nextQueueFrom_found (queues : AccessCategory → List PendingTransmission) (now : ℤ)
    (trc : τ) (rest : List AccessCategory) :
    ∀ (minDelay : ℤ) (next : Option AccessCategory) (asked : τ), control.Alike now trc asked →
      control.Alike now trc (nextQueueFrom control queues now rest minDelay next asked).2 ∧
        Found queues (fun front => (control.delay trc now front.transmission).1) minDelay next
          (rest.filterMap fun ac => (queues ac).head?)
          (nextQueueFrom control queues now rest minDelay next asked).1 := by
  induction rest with
  | nil =>
    intro minDelay next asked alike
    exact ⟨alike, .inl ⟨rfl, by simp⟩⟩
  | cons ac rest ih =>
    intro minDelay next asked alike
    unfold nextQueueFrom
    rw [List.filterMap_cons]
    cases waiting : queues ac with
    | nil => exact ih minDelay next asked alike
    | cons front behind =>
      have ahead : (queues ac).head? = some front := by rw [waiting]; rfl
      have later := alike.trans (TransmitRateControl.alike_delay front.transmission)
      simp only [List.head?_cons, alike front.transmission]
      by_cases smaller : (control.delay trc now front.transmission).1 < minDelay
      · rw [if_pos smaller]
        obtain ⟨stays, found⟩ := ih _ (some ac) _ later
        exact ⟨stays, found.take ahead smaller⟩
      · rw [if_neg smaller]
        obtain ⟨stays, found⟩ := ih minDelay next _ later
        exact ⟨stays, found.skip (not_lt.mp smaller)⟩

/-- `next_queue` does not change what the control answers now, and finds the front that has to wait
least. -/
theorem nextQueue_found (control : TransmitRateControl τ) (flow : FlowControl τ) :
    control.Alike flow.now flow.trc (flow.nextQueue control).2.trc ∧
      Found flow.queues (flow.wait control) durationMax none flow.fronts (flow.nextQueue control).1 :=
  nextQueueFrom_found flow.queues flow.now flow.trc accessCategories durationMax none flow.trc .refl

/-! ### What is handed over -/

@[simp] theorem delay_sent (flow : FlowControl τ) (tx : Transmission) :
    (flow.delay control tx).2.sent = flow.sent :=
  rfl

@[simp] theorem dropExpired_sent (flow : FlowControl τ) : flow.dropExpired.sent = flow.sent := rfl

@[simp] theorem nextQueue_sent (flow : FlowControl τ) :
    (flow.nextQueue control).2.sent = flow.sent :=
  rfl

@[simp] theorem scheduleTrigger_sent (flow : FlowControl τ) (tx : Transmission) :
    (flow.scheduleTrigger control tx).sent = flow.sent :=
  rfl

@[simp] theorem makeRoom_sent (flow : FlowControl τ) (ac : AccessCategory) (packet : ChunkPacket) :
    (flow.makeRoom ac packet).sent = flow.sent := by
  unfold makeRoom
  split <;> rfl

@[simp] theorem enqueue_sent (flow : FlowControl τ) (request : DataRequest) (packet : ChunkPacket) :
    (flow.enqueue control request packet).sent = flow.sent := by
  unfold enqueue
  by_cases first : flow.empty = true <;> simp [first]

@[simp] theorem armNext_sent (flow : FlowControl τ) : (flow.armNext control).sent = flow.sent := by
  unfold armNext
  dsimp only
  cases (flow.nextTransmission control).1 <;> rfl

@[simp] theorem reschedule_sent (flow : FlowControl τ) :
    (flow.reschedule control).sent = flow.sent := by
  unfold reschedule
  dsimp only
  cases (flow.nextTransmission control).1 <;> rfl

/-- **A request hands over at most the packet it brings**, when that need not wait. -/
theorem request_sent (control : TransmitRateControl τ) (flow : FlowControl τ) (request : DataRequest)
    (packet : ChunkPacket) :
    (flow.request control request packet).sent = flow.sent ∨
      ∃ handover, (flow.request control request packet).sent = flow.sent ++ [handover] ∧
        handover.Gated control := by
  unfold FlowControl.request
  set tx : Transmission := ⟨request.dccProfile, none, packet.size⟩
  have asked : (flow.dropExpired.transmitImmediately control tx).2.sent = flow.sent ∧
      ((flow.dropExpired.transmitImmediately control tx).1 = true →
        (control.delay (flow.dropExpired.transmitImmediately control tx).2.trc
          (flow.dropExpired.transmitImmediately control tx).2.now tx).1 = 0) := by
    unfold transmitImmediately
    by_cases contended : flow.dropExpired.contention (mapProfileOntoAc tx.profile) = true
    · rw [if_pos contended]
      exact ⟨rfl, nofun⟩
    · rw [if_neg contended]
      refine ⟨rfl, fun zero => ?_⟩
      exact (control.delay_again flow.trc flow.now tx tx).trans (of_decide_eq_true zero)
  by_cases open_gate : (flow.dropExpired.transmitImmediately control tx).1 = true
  · simp only [if_pos open_gate]
    exact .inr ⟨_, congrArg (· ++ _) asked.1, asked.2 open_gate⟩
  · simp only [if_neg open_gate, enqueue_sent]
    exact .inl asked.1

/-- **A trigger hands over the packet of a front that is left when the expired ones are dropped**, the
one that has to wait least, unless none has a finite delay. -/
theorem sendNext_cases (control : TransmitRateControl τ) (flow : FlowControl τ) :
    ((flow.sendNext control).sent = flow.sent ∧
        ∀ front ∈ flow.fronts, durationMax ≤ flow.wait control front) ∨
      ∃ handover, ∃ front ∈ flow.fronts, (flow.sendNext control).sent = flow.sent ++ [handover] ∧
        (control.delay handover.trc handover.now handover.transmission).1 =
          flow.wait control front ∧
        flow.wait control front < durationMax ∧
        ∀ other ∈ flow.fronts, flow.wait control front ≤ flow.wait control other := by
  obtain ⟨alike, found⟩ := nextQueue_found control flow
  unfold sendNext dequeue
  dsimp only
  rcases found with ⟨none_found, infinite⟩ | ⟨ac, front, best, ahead, finite, among, least⟩
  · simp only [none_found]
    exact .inl ⟨rfl, infinite⟩
  · simp only [best]
    simp only [ahead]
    exact .inr ⟨_, front, among, rfl, alike front.transmission, finite, least⟩

/-- **A trigger hands over at a zero delay exactly when it may fire.** -/
theorem trigger_gated_iff (flow : FlowControl τ) :
    (∃ new, (flow.trigger control).sent = flow.sent ++ new ∧ ∀ handover ∈ new, handover.Gated control) ↔
      flow.Due control := by
  unfold trigger
  rw [armNext_sent]
  rcases sendNext_cases control flow.dropExpired with
    ⟨kept, infinite⟩ | ⟨handover, front, among, sends, waits, finite, least⟩
  · refine iff_of_true ⟨[], by rw [kept]; exact (List.append_nil _).symm, by simp⟩ (.inr infinite)
  · constructor
    · rintro ⟨new, appended, gated⟩
      have only : new = [handover] := List.append_cancel_left (appended.symm.trans sends)
      have zero := gated handover (by rw [only]; exact List.mem_singleton_self _)
      exact .inl ⟨front, among, waits.symm.trans zero⟩
    · intro due
      refine ⟨[handover], sends, fun other sent => ?_⟩
      rw [List.mem_singleton.mp sent]
      rcases due with ⟨other, otherAmong, zero⟩ | infinite
      · have le_zero : flow.dropExpired.wait control front ≤ 0 := zero ▸ least other otherAmong
        exact waits.trans (le_antisymm le_zero (control.delay_nonneg _ _ _))
      · exact absurd (infinite front among) (not_le.mpr finite)

/-- **One event** adds only packets whose delay is zero, if a trigger fires when it may. -/
theorem step_gated {flow after : FlowControl τ} {action : FlowAction τ}
    (timely : flow.Timely control action) (taken : flow.step control action = some after) :
    ∃ new, after.sent = flow.sent ++ new ∧ ∀ handover ∈ new, handover.Gated control := by
  have unchanged : ∃ new, flow.sent = flow.sent ++ new ∧ ∀ handover ∈ new, handover.Gated control :=
    ⟨[], (List.append_nil _).symm, by simp⟩
  cases action with
  | request request packet =>
    cases taken
    rcases request_sent control flow request packet with kept | ⟨handover, sends, gated⟩
    · rw [kept]
      exact unchanged
    · exact ⟨[handover], sends, by simpa using gated⟩
  | trigger =>
    obtain ⟨⟨top, runtime⟩, popped, rfl⟩ := Option.map_eq_some_iff.mp taken
    obtain ⟨rest, _, _, rfl⟩ := ManualRuntime.popDue_some.mp popped
    exact (trigger_gated_iff _).mpr timely
  | reschedule =>
    cases taken
    rw [reschedule_sent]
    exact unchanged
  | queueLength length =>
    cases taken
    exact unchanged
  | advance now =>
    obtain ⟨_, moved⟩ := Option.ite_none_right_eq_some.mp taken
    cases moved
    exact unchanged
  | control trc =>
    cases taken
    exact unchanged

end FlowControl

/-- **The gate holds in every run whose triggers fire when they may.** -/
theorem gate_kept {state : FlowControl τ}
    (reached : GuardedReach FlowControl.Initial (FlowControl.step control)
      (FlowControl.Timely control) state) :
    ∀ handover ∈ state.sent, handover.Gated control := by
  refine reached.invariant (I := fun state => ∀ handover ∈ state.sent, handover.Gated control) ?_ ?_ state
  · rintro first ⟨_, _, _, none_sent, _⟩ handover sent
    rw [none_sent] at sent
    exact absurd sent List.not_mem_nil
  · intro before action after _ kept timely taken handover sent
    obtain ⟨new, appended, gated⟩ := FlowControl.step_gated timely taken
    rw [appended] at sent
    rcases List.mem_append.mp sent with earlier | now
    · exact kept handover earlier
    · exact gated handover now

/-! ### Runs of a single reactive control -/

instance decidableGated (handover : Handover τ) : Decidable (handover.Gated control) :=
  inferInstanceAs (Decidable (_ = _))

instance decidableDue (flow : FlowControl τ) : Decidable (flow.Due control) :=
  inferInstanceAs (Decidable (_ ∨ _))

instance decidableTimely (flow : FlowControl τ) :
    ∀ action, Decidable (flow.Timely control action)
  | .trigger => decidableDue flow
  | .request _ _ | .reschedule | .queueLength _ | .advance _ | .control _ => instDecidableTrue

/-- A control in the relaxed state of the state machine, which asks for 60 ms. -/
def relaxed : FlowControl StateMachineBudget where
  runtime := ⟨0, []⟩
  trc := ⟨60000, none⟩
  queues := fun _ => []
  queueLength := 0
  sent := []
  dropped := []

theorem relaxed_initial : relaxed.Initial := ⟨rfl, rfl, rfl, rfl, rfl⟩

/-- A request of a packet without any content that lives for a second. -/
def dp2Request : FlowAction StateMachineBudget :=
  .request ⟨0x8947, ⟨[2, 0, 0, 0, 0, 1], rfl⟩, ⟨[255, 255, 255, 255, 255, 255], rfl⟩, .dp2, 1000000⟩
    .empty

theorem gate_kept_relaxed :
    ∃ state, (GuardedReach FlowControl.Initial (FlowControl.step singleReactive)
        (FlowControl.Timely singleReactive) state ∧ state.sent.length = 2) ∧
      ∀ handover ∈ state.sent, handover.Gated singleReactive := by
  obtain ⟨state, reached, two⟩ := run_reach FlowControl.Initial (FlowControl.step singleReactive)
    (FlowControl.Timely singleReactive) (fun state => state.sent.length = 2) relaxed_initial
    [dp2Request, dp2Request, .advance 60000, .trigger] (by decide)
  exact ⟨state, ⟨reached, two⟩, gate_kept reached⟩

/-- **The gate is bypassed** when the channel load rises while a trigger is armed: the state machine
becomes restrictive and asks for 460 ms, the trigger sends after 60 ms. -/
theorem not_gate_kept :
    ¬ ∀ state, Reachable FlowControl.Initial (FlowControl.step singleReactive) state →
      ∀ handover ∈ state.sent, handover.Gated singleReactive := by
  intro kept
  obtain ⟨state, reached, handover, sent, open_gate⟩ := run_reach FlowControl.Initial
    (FlowControl.step singleReactive) (fun _ _ => True)
    (fun state => ∃ handover ∈ state.sent, ¬ handover.Gated singleReactive) relaxed_initial
    [dp2Request, dp2Request, .control ⟨460000, some 0⟩, .advance 60000, .trigger] (by decide)
  exact open_gate (kept state reached handover sent)

end Vanet.Dcc
