/-
**`FlowControl`, the gatekeeper above the access layer.**

There is a queue for each access category. A packet is sent at once when no packet of its own or a
higher category waits and its delay is zero, else it is enqueued; a trigger, armed with the delay of
a packet when it was scheduled, sends the packet with the smallest delay.

`step` is one event: a request, the runtime invoking a due trigger, a `reschedule`, a change of the
queue length, time passing, or a change of the transmit rate control's state from outside (the
channel load, another user of the control). What is handed to the access interface is recorded with
the state of the control right before it is notified.
-/

import Vanet.Dcc.TransmitRateControl
import Vanet.Net.Packet

namespace Vanet.Dcc

open Vanet.Common Vanet.Library Vanet.Net

inductive AccessCategory
  | bk
  | be
  | vi
  | vo
  deriving DecidableEq

def AccessCategory.value : AccessCategory → ℕ
  | .bk => 1
  | .be => 3
  | .vi => 5
  | .vo => 7

/-- The order in which the queues are visited, the highest category first. -/
def accessCategories : List AccessCategory := [.vo, .vi, .be, .bk]

theorem mem_accessCategories (ac : AccessCategory) : ac ∈ accessCategories := by
  cases ac <;> decide

def mapProfileOntoAc : Profile → AccessCategory
  | .dp0 => .vo
  | .dp1 => .vi
  | .dp2 => .be
  | .dp3 => .bk

/-- `dcc::DataRequest`. -/
structure DataRequest where
  etherType : UInt16
  source : MacAddress
  destination : MacAddress
  dccProfile : Profile
  lifetime : ℤ
  deriving DecidableEq

/-- `access::DataRequest`. -/
structure AccessRequest where
  etherType : UInt16
  sourceAddr : MacAddress
  destinationAddr : MacAddress
  accessCategory : AccessCategory
  deriving DecidableEq

structure PendingTransmission where
  expiry : ℤ
  request : DataRequest
  packet : ChunkPacket

/-- A `PendingTransmission` is a `Transmission`. -/
def PendingTransmission.transmission (pending : PendingTransmission) : Transmission where
  profile := pending.request.dccProfile
  dataRate := some g5_6Mbps
  bodyLength := pending.packet.size

/-- **A packet handed to the access interface**, the transmission it counts as, and the instant. -/
structure Handover (τ : Type) where
  request : AccessRequest
  packet : ChunkPacket
  transmission : Transmission
  now : ℤ
  trc : τ

/-- The callback that a flow control schedules. -/
inductive Callback
  | trigger
  deriving DecidableEq

/-- The scope of its callbacks, `this`. -/
inductive Scope
  | this
  deriving DecidableEq

/-- **The state of a flow control**, of the runtime and of the transmit rate control that it uses, and
a record of what has been sent and dropped. -/
structure FlowControl (τ : Type) where
  runtime : ManualRuntime Callback Scope
  trc : τ
  queues : AccessCategory → List PendingTransmission
  queueLength : ℕ
  sent : List (Handover τ)
  dropped : List (AccessCategory × ChunkPacket)

namespace FlowControl

variable {τ : Type} (control : TransmitRateControl τ)

def now (flow : FlowControl τ) : ℤ := flow.runtime.now

/-- `m_trc.delay`. -/
def delay (flow : FlowControl τ) (tx : Transmission) : ℤ × FlowControl τ :=
  let asked := control.delay flow.trc flow.now tx
  (asked.1, { flow with trc := asked.2 })

/-- A packet whose lifetime is over. -/
def expired (now : ℤ) (pending : PendingTransmission) : Bool := pending.expiry < now

/-- `drop_expired`: the packets that are left in each queue, and a report for each dropped one. -/
def dropExpired (flow : FlowControl τ) : FlowControl τ :=
  { flow with
    queues := fun ac => (flow.queues ac).filter fun pending => !expired flow.now pending
    dropped := flow.dropped ++ accessCategories.flatMap fun ac =>
      ((flow.queues ac).filter (expired flow.now)).map fun pending => (ac, pending.packet) }

def scheduleTrigger (flow : FlowControl τ) (tx : Transmission) : FlowControl τ :=
  let asked := flow.delay control tx
  { asked.2 with runtime := flow.runtime.scheduleIn asked.1 .trigger (some .this) }

def empty (flow : FlowControl τ) : Bool := accessCategories.all fun ac => (flow.queues ac).isEmpty

/-- The packets at the front of a queue that has reached its length make room; each time the hook is
given the packet that is being enqueued. -/
def makeRoom (flow : FlowControl τ) (ac : AccessCategory) (packet : ChunkPacket) : FlowControl τ :=
  if flow.queueLength > 0 ∧ (flow.queues ac).length ≥ flow.queueLength then
    let surplus := (flow.queues ac).length + 1 - flow.queueLength
    { flow with
      queues := Function.update flow.queues ac ((flow.queues ac).drop surplus)
      dropped := flow.dropped ++ List.replicate surplus (ac, packet) }
  else flow

def enqueue (flow : FlowControl τ) (request : DataRequest) (packet : ChunkPacket) : FlowControl τ :=
  let firstPacket := flow.empty
  let ac := mapProfileOntoAc request.dccProfile
  let pending : PendingTransmission := ⟨flow.now + request.lifetime, request, packet⟩
  let flow := flow.makeRoom ac packet
  let flow := { flow with queues := Function.update flow.queues ac (flow.queues ac ++ [pending]) }
  if firstPacket then flow.scheduleTrigger control pending.transmission else flow

/-- A packet of an equal or higher category is waiting. -/
def contention (flow : FlowControl τ) (ac : AccessCategory) : Bool :=
  accessCategories.any fun other => ac.value ≤ other.value ∧ flow.queues other ≠ []

/-- `transmit_immediately`: the control is only asked when there is no contention. -/
def transmitImmediately (flow : FlowControl τ) (tx : Transmission) : Bool × FlowControl τ :=
  if flow.contention (mapProfileOntoAc tx.profile) then (false, flow)
  else
    let asked := flow.delay control tx
    (asked.1 = 0, asked.2)

/-- The loop of `next_queue`, with the smallest delay so far and the queue it belongs to. -/
def nextQueueFrom (queues : AccessCategory → List PendingTransmission) (now : ℤ) :
    List AccessCategory → ℤ → Option AccessCategory → τ → Option AccessCategory × τ
  | [], _, next, trc => (next, trc)
  | ac :: rest, minDelay, next, trc =>
    match queues ac with
    | [] => nextQueueFrom queues now rest minDelay next trc
    | front :: _ =>
      let asked := control.delay trc now front.transmission
      if asked.1 < minDelay then nextQueueFrom queues now rest asked.1 (some ac) asked.2
      else nextQueueFrom queues now rest minDelay next asked.2

def nextQueue (flow : FlowControl τ) : Option AccessCategory × FlowControl τ :=
  let found := nextQueueFrom control flow.queues flow.now accessCategories durationMax none flow.trc
  (found.1, { flow with trc := found.2 })

/-- `next_transmission`: the front of the next queue. -/
def nextTransmission (flow : FlowControl τ) : Option PendingTransmission × FlowControl τ :=
  let next := flow.nextQueue control
  (next.1.bind fun ac => (flow.queues ac).head?, next.2)

def dequeue (flow : FlowControl τ) : Option PendingTransmission × FlowControl τ :=
  let next := flow.nextQueue control
  match next.1 with
  | none => (none, next.2)
  | some ac =>
    ((flow.queues ac).head?,
      { next.2 with queues := Function.update flow.queues ac (flow.queues ac).tail })

/-- `m_trc.notify` and `transmit`. -/
def transmit (flow : FlowControl τ) (tx : Transmission) (request : DataRequest)
    (packet : ChunkPacket) : FlowControl τ :=
  let access : AccessRequest :=
    ⟨request.etherType, request.source, request.destination, mapProfileOntoAc request.dccProfile⟩
  { flow with
    trc := control.notify flow.trc flow.now tx
    sent := flow.sent ++ [⟨access, packet, tx, flow.now, flow.trc⟩] }

def request (flow : FlowControl τ) (request : DataRequest) (packet : ChunkPacket) : FlowControl τ :=
  let tx : Transmission := ⟨request.dccProfile, none, packet.size⟩
  let asked := flow.dropExpired.transmitImmediately control tx
  if asked.1 then asked.2.transmit control tx request packet
  else asked.2.enqueue control request packet

/-- The first half of `trigger`: the next packet is sent. -/
def sendNext (flow : FlowControl τ) : FlowControl τ :=
  let next := flow.dequeue control
  match next.1 with
  | none => next.2
  | some pending => next.2.transmit control pending.transmission pending.request pending.packet

/-- Its second half: the trigger for the packet after it. -/
def armNext (flow : FlowControl τ) : FlowControl τ :=
  let next := flow.nextTransmission control
  match next.1 with
  | none => next.2
  | some pending => next.2.scheduleTrigger control pending.transmission

def trigger (flow : FlowControl τ) : FlowControl τ :=
  (flow.dropExpired.sendNext control).armNext control

def reschedule (flow : FlowControl τ) : FlowControl τ :=
  let next := flow.nextTransmission control
  match next.1 with
  | none => next.2
  | some pending =>
    { next.2 with runtime := flow.runtime.cancel (some .this) }.scheduleTrigger control
      pending.transmission

end FlowControl

/-! ### Runs -/

inductive FlowAction (τ : Type)
  | request (request : DataRequest) (packet : ChunkPacket)
  | trigger
  | reschedule
  | queueLength (length : ℕ)
  | advance (now : ℤ)
  | control (trc : τ)

/-- A flow control that has just been constructed. -/
def FlowControl.Initial {τ : Type} (flow : FlowControl τ) : Prop :=
  flow.runtime.queue = [] ∧ flow.queues = (fun _ => []) ∧ flow.queueLength = 0 ∧ flow.sent = [] ∧
    flow.dropped = []

/-- **One event.** A trigger is invoked when it is due, time does not go back. -/
def FlowControl.step {τ : Type} (control : TransmitRateControl τ) (flow : FlowControl τ) :
    FlowAction τ → Option (FlowControl τ)
  | .request request packet => some (flow.request control request packet)
  | .trigger => flow.runtime.popDue.map fun popped =>
    { flow with runtime := popped.2 }.trigger control
  | .reschedule => some (flow.reschedule control)
  | .queueLength length => some { flow with queueLength := length }
  | .advance now =>
    if flow.now ≤ now then some { flow with runtime := { flow.runtime with now := now } } else none
  | .control trc => some { flow with trc := trc }

end Vanet.Dcc
