/-
**The packet buffer of contention-based forwarding.**

A list keeps the packets in the order of their insertion, a bimap keeps a timer for each of them and
points to its node in the list. The nodes of the list are numbered as they are created. The nodes of
the bimap have addresses, because `add` compares an iterator that it took before nodes were erased:
the allocator may have given such a node to a new timer. The address a new timer gets is an argument.

The timers are in the order of their expiry, the timers of equal expiry in the order of insertion.
The callback of `flush` returns, and changes neither the buffer nor its timers: the packets it is
called with are a result here. The buffer is modelled together with the runtime that it refers to.
-/

import Mathlib.Data.List.Sort
import Vanet.Common.Runtime
import Vanet.Geonet.Pdu

namespace Vanet.Geonet

open Vanet.Net Vanet.Common

/-! ### Counters -/

/-- `CbfCounter` with its three implementations. -/
inductive CbfCounter
  | immortal (counters : AList fun _ : PacketIdentifier => ℕ)
  | contending (counters : AList fun _ : PacketIdentifier => ℕ)
  | fading (counters : SoftStateMap PacketIdentifier ℕ)

namespace CbfCounter

/-- The counters that can be constructed. -/
inductive Created : CbfCounter → Prop
  | immortal : Created (immortal ∅)
  | contending : Created (contending ∅)
  | fading (lifetime : ℤ) : Created (fading (.empty lifetime))

/-- `m_counters[id]`. -/
def valueAt (counters : AList fun _ : PacketIdentifier => ℕ) (id : PacketIdentifier) : ℕ :=
  (counters.lookup id).getD 0

def add (now : ℤ) (id : PacketIdentifier) : CbfCounter → CbfCounter
  | immortal counters => immortal (counters.insert id (valueAt counters id + 1))
  | contending counters => contending (counters.insert id 1)
  | fading counters =>
    fading ((((counters.refresh (fun _ => 0) now id).2).modify id (· + 1)).dropExpired now)

def remove (id : PacketIdentifier) : CbfCounter → CbfCounter
  | immortal counters => immortal counters
  | contending counters => contending (counters.erase id)
  | fading counters => fading counters

def increment (now : ℤ) (id : PacketIdentifier) : CbfCounter → CbfCounter
  | immortal counters => immortal (counters.insert id (valueAt counters id + 1))
  | contending counters => contending (counters.insert id (valueAt counters id + 1))
  | fading counters => fading (((counters.getValue (fun _ => 0) now id).2).modify id (· + 1))

def counter (now : ℤ) (id : PacketIdentifier) : CbfCounter → ℕ
  | immortal counters => valueAt counters id
  | contending counters => valueAt counters id
  | fading counters => (counters.getValuePtr now id).getD 0

end CbfCounter

/-! ### Packets and timers -/

/-- `CbfPacket`, over the actions of pending packets. -/
structure CbfPacket (φ : Type) where
  packet : PendingPacket GeoBroadcastHeader φ
  sender : MacAddress

namespace CbfPacket

variable {φ : Type}

def identifier (cbf : CbfPacket φ) : PacketIdentifier := cbf.packet.pdu.extended.identifier

def length (cbf : CbfPacket φ) : ℕ := cbf.packet.length

def reduceLifetime (cbf : CbfPacket φ) (d : ℤ) : ℤ × CbfPacket φ :=
  let reduced := cbf.packet.reduceLifetime d
  (reduced.1, { cbf with packet := reduced.2 })

@[simp] theorem reduceLifetime_identifier (cbf : CbfPacket φ) (d : ℤ) :
    (cbf.reduceLifetime d).2.identifier = cbf.identifier := by
  show (cbf.packet.reduceLifetime d).2.pdu.extended.identifier = _
  rw [PendingPacket.reduceLifetime_extended]
  rfl

@[simp] theorem reduceLifetime_length (cbf : CbfPacket φ) (d : ℤ) :
    (cbf.reduceLifetime d).2.length = cbf.length :=
  PendingPacket.reduceLifetime_length cbf.packet d

end CbfPacket

/-- A node of the list of packets. -/
structure PacketNode (φ : Type) where
  ref : ℕ
  packet : CbfPacket φ

structure Timer where
  expiry : ℤ
  start : ℤ
  deriving DecidableEq

/-- A timer that starts now. -/
def Timer.starting (now timeout : ℤ) : Timer := ⟨now + timeout, now⟩

/-- A node of the bimap: `info` is the packet's node in the list. -/
structure TimerNode where
  node : ℕ
  timer : Timer
  id : PacketIdentifier
  info : ℕ
  deriving DecidableEq

/-- `operator<` of the timers. -/
def TimerNode.before (lhs rhs : TimerNode) : Prop := lhs.timer.expiry < rhs.timer.expiry

instance TimerNode.decidableBefore : DecidableRel TimerNode.before := fun lhs rhs =>
  inferInstanceAs (Decidable (lhs.timer.expiry < rhs.timer.expiry))

/-- **The buffer.** -/
structure CbfPacketBuffer (φ : Type) where
  packets : List (PacketNode φ)
  timers : List TimerNode
  counter : CbfCounter
  capacityBytes : ℕ
  storedBytes : ℤ
  nextRef : ℕ

namespace CbfPacketBuffer

variable {φ : Type}

def empty (counter : CbfCounter) (bytes : ℕ) : CbfPacketBuffer φ := ⟨[], [], counter, bytes, 0, 0⟩

/-- `m_timers.right.find`. -/
def findTimer (buffer : CbfPacketBuffer φ) (id : PacketIdentifier) : Option TimerNode :=
  buffer.timers.find? fun entry => entry.id = id

/-- The packet of a node of the list. -/
def deref (buffer : CbfPacketBuffer φ) (ref : ℕ) : Option (CbfPacket φ) :=
  (buffer.packets.find? fun node => node.ref = ref).map PacketNode.packet

def find (buffer : CbfPacketBuffer φ) (id : PacketIdentifier) : Option (CbfPacket φ) :=
  (buffer.findTimer id).bind fun entry => buffer.deref entry.info

/-- **The timer of `id` is found**, and the packet that it points to. -/
structure Finds (buffer : CbfPacketBuffer φ) (id : PacketIdentifier) (entry : TimerNode)
    (packet : CbfPacket φ) : Prop where
  timer : buffer.findTimer id = some entry
  packet : buffer.deref entry.info = some packet

theorem Finds.find {buffer : CbfPacketBuffer φ} {id : PacketIdentifier} {entry : TimerNode}
    {packet : CbfPacket φ} (finds : buffer.Finds id entry packet) : buffer.find id = some packet := by
  unfold CbfPacketBuffer.find
  rw [finds.timer, Option.bind_some, finds.packet]

/-- No timer is found, or one that points to no packet. -/
theorem absent_cases {buffer : CbfPacketBuffer φ} {id : PacketIdentifier} (absent : buffer.find id = none) :
    buffer.findTimer id = none ∨
      ∃ entry, buffer.findTimer id = some entry ∧ buffer.deref entry.info = none := by
  cases timer : buffer.findTimer id with
  | none => exact .inl rfl
  | some entry =>
    unfold find at absent
    rw [timer, Option.bind_some] at absent
    exact .inr ⟨entry, rfl, absent⟩

theorem find_cases (buffer : CbfPacketBuffer φ) (id : PacketIdentifier) :
    buffer.find id = none ∨ ∃ entry packet, buffer.Finds id entry packet := by
  cases packet : buffer.find id with
  | none => exact .inl rfl
  | some packet =>
    obtain ⟨entry, timer, followed⟩ := Option.bind_eq_some_iff.mp packet
    exact .inr ⟨entry, _, timer, followed⟩

/-- What `remove`, `fetch` and `flush` do alike: the packet of a timer leaves the buffer. -/
def takeOut (buffer : CbfPacketBuffer φ) (entry : TimerNode) (packet : CbfPacket φ) :
    CbfPacketBuffer φ :=
  { buffer with
    storedBytes := buffer.storedBytes - packet.length
    counter := buffer.counter.remove entry.id
    packets := buffer.packets.filter fun node => node.ref ≠ entry.info
    timers := buffer.timers.filter fun other => other.id ≠ entry.id }

/-- The packet of a node is replaced in its place. -/
def write (buffer : CbfPacketBuffer φ) (ref : ℕ) (packet : CbfPacket φ) : CbfPacketBuffer φ :=
  { buffer with
    packets := buffer.packets.map fun node => if node.ref = ref then { node with packet } else node }

/-- The loop of head drops in `add`: a packet of the buffer goes in each round. -/
def dropHeads (buffer : CbfPacketBuffer φ) : ℕ → CbfPacketBuffer φ
  | 0 => buffer
  | rounds + 1 =>
    match buffer.packets with
    | [] => buffer
    | front :: rest =>
      if buffer.storedBytes > buffer.capacityBytes then
        dropHeads
          { buffer with
            storedBytes := buffer.storedBytes - front.packet.length
            timers := buffer.timers.filter fun entry => entry.id ≠ front.packet.identifier
            counter := buffer.counter.remove front.packet.identifier
            packets := rest } rounds
      else buffer

/-- `insert` of the bimap, which fails if there is a timer for the identifier. -/
def insertTimer (timers : List TimerNode) (entry : TimerNode) : Bool × List TimerNode :=
  if timers.any fun other => other.id = entry.id then (false, timers)
  else (true, timers.orderedInsert TimerNode.before entry)

/-- `replace_data`: the timer keeps its place if it is in order there. -/
def replaceData (timers : List TimerNode) (id : PacketIdentifier) (timer : Timer) :
    List TimerNode :=
  let before := timers.takeWhile fun entry => entry.id ≠ id
  match timers.dropWhile fun entry => entry.id ≠ id with
  | [] => timers
  | found :: after =>
    let entry := { found with timer }
    if (before.getLast?.all fun last => ¬ entry.before last) ∧
        (after.head?.all fun next => ¬ next.before entry) then
      before ++ entry :: after
    else (before ++ after).orderedInsert TimerNode.before entry

/-- The buffer with the new packet's length, after the head drops. -/
def makeRoom (buffer : CbfPacketBuffer φ) (packet : CbfPacket φ) : CbfPacketBuffer φ :=
  { buffer with storedBytes := buffer.storedBytes + packet.length }.dropHeads buffer.packets.length

/-- A packet and its timer enter a buffer that has counted the packet's length. -/
def emplace (buffer : CbfPacketBuffer φ) (now : ℤ) (packet : CbfPacket φ) (timeout : ℤ)
    (node : ℕ) : CbfPacketBuffer φ :=
  let id := packet.identifier
  let entry : TimerNode := ⟨node, .starting now timeout, id, buffer.nextRef⟩
  let insertion := insertTimer buffer.timers entry
  if insertion.1 then
    { buffer with
      packets := buffer.packets ++ [⟨buffer.nextRef, packet⟩]
      timers := insertion.2
      counter := buffer.counter.add now id
      nextRef := buffer.nextRef + 1 }
  else { buffer with storedBytes := buffer.storedBytes - packet.length }

end CbfPacketBuffer

/-! ### The operations -/

/-- How a buffer appears in the runtime: the callback of `schedule_timer` and `this`. -/
structure FlushTimer (κ ς : Type) where
  callback : κ
  scope : ς

/-- **A buffer with its runtime.** -/
structure Cbf (φ κ ς : Type) where
  buffer : CbfPacketBuffer φ
  runtime : ManualRuntime κ ς

namespace Cbf

open CbfPacketBuffer

variable {φ κ ς : Type} [DecidableEq ς] (self : FlushTimer κ ς)

/-- `schedule_timer`, for the first timer. -/
def scheduleTimer (cbf : Cbf φ κ ς) : Cbf φ κ ς :=
  match cbf.buffer.timers with
  | [] => cbf
  | first :: _ =>
    { cbf with
      runtime := (cbf.runtime.cancel (some self.scope)).schedule first.timer.expiry self.callback
        (some self.scope) }

/-- A packet leaves, and `remove_timer` reschedules if its timer was the first one. -/
def drop (cbf : Cbf φ κ ς) (entry : TimerNode) (packet : CbfPacket φ) : Cbf φ κ ς :=
  let taken := { cbf with buffer := cbf.buffer.takeOut entry packet }
  if cbf.buffer.timers.head? = some entry ∧ taken.buffer.timers ≠ [] then taken.scheduleTimer self
  else taken

/-- A timer is not followed to a packet that is not there. -/
def remove (cbf : Cbf φ κ ς) (id : PacketIdentifier) : Bool × Cbf φ κ ς :=
  match cbf.buffer.findTimer id with
  | none => (false, cbf)
  | some entry =>
    match cbf.buffer.deref entry.info with
    | none => (false, cbf)
    | some packet => (true, cbf.drop self entry packet)

/-- `node` is the address of the timer's node. -/
def add (cbf : Cbf φ κ ς) (packet : CbfPacket φ) (timeout : ℤ) (node : ℕ) : Cbf φ κ ς :=
  if timeout ≤ 0 then cbf
  else
    let firstTimer := cbf.buffer.timers.head?.map TimerNode.node
    let added := { cbf with
      buffer := (cbf.buffer.makeRoom packet).emplace cbf.runtime.now packet timeout node }
    if added.buffer.timers.head?.map TimerNode.node ≠ firstTimer then added.scheduleTimer self
    else added

/-- The lifetime that remains for a buffered packet, and the buffer with it. -/
def reduceLifetime (cbf : Cbf φ κ ς) (entry : TimerNode) (packet : CbfPacket φ) :
    ℤ × CbfPacket φ × CbfPacketBuffer φ :=
  let reduced := packet.reduceLifetime (cbf.runtime.now - entry.timer.start)
  (reduced.1, reduced.2, cbf.buffer.write entry.info reduced.2)

/-- A buffered packet gets a new timer. The runtime is not told. -/
def update (cbf : Cbf φ κ ς) (id : PacketIdentifier) (timeout : ℤ) : Cbf φ κ ς :=
  match cbf.buffer.findTimer id with
  | none => cbf
  | some entry =>
    match cbf.buffer.deref entry.info with
    | none => cbf
    | some packet =>
      let reduced := cbf.reduceLifetime entry packet
      let buffer := reduced.2.2
      { cbf with
        buffer := { buffer with
          timers := replaceData buffer.timers id (.starting cbf.runtime.now timeout)
          counter := buffer.counter.increment cbf.runtime.now id } }

def fetch (cbf : Cbf φ κ ς) (id : PacketIdentifier) : Option (CbfPacket φ) × Cbf φ κ ς :=
  match cbf.buffer.findTimer id with
  | none => (none, cbf)
  | some entry =>
    match cbf.buffer.deref entry.info with
    | none => (none, cbf)
    | some packet =>
      let reduced := cbf.reduceLifetime entry packet
      (if reduced.1 > 0 then some reduced.2.1 else none,
        { cbf with buffer := reduced.2.2 }.drop self entry reduced.2.1)

def counter (cbf : Cbf φ κ ς) (id : PacketIdentifier) : ℕ :=
  cbf.buffer.counter.counter cbf.runtime.now id

/-- A round of the loop in `flush`: the packet the callback gets, if its lifetime is not over. -/
def flushOne (cbf : Cbf φ κ ς) (entry : TimerNode) :
    List (PendingPacket GeoBroadcastHeader φ) × Cbf φ κ ς :=
  match cbf.buffer.deref entry.info with
  | none => ([], cbf)
  | some packet =>
    let reduced := cbf.reduceLifetime entry packet
    (if reduced.1 > 0 then [reduced.2.1.packet] else [],
      { cbf with buffer := reduced.2.2.takeOut entry reduced.2.1 })

/-- The loop over timers that have expired. -/
def flushAll (cbf : Cbf φ κ ς) : List TimerNode → List (PendingPacket GeoBroadcastHeader φ) × Cbf φ κ ς
  | [] => ([], cbf)
  | entry :: rest =>
    let flushed := cbf.flushOne entry
    let others := flushAll flushed.2 rest
    (flushed.1 ++ others.1, others.2)

/-- `flush`: the packets that the callback gets, in this order. -/
def flush (cbf : Cbf φ κ ς) : List (PendingPacket GeoBroadcastHeader φ) × Cbf φ κ ς :=
  let expired := cbf.buffer.timers.takeWhile fun entry => entry.timer.expiry ≤ cbf.runtime.now
  let flushed := cbf.flushAll expired
  (flushed.1, flushed.2.scheduleTimer self)

/-! ### Packets that are found -/

section Found

variable {cbf : Cbf φ κ ς} {id : PacketIdentifier} {entry : TimerNode} {packet : CbfPacket φ}

theorem remove_of_none (absent : cbf.buffer.find id = none) : cbf.remove self id = (false, cbf) := by
  unfold remove
  rcases absent_cases absent with timer | ⟨entry, timer, packet⟩
  · rw [timer]
  · simp only [timer, packet]

theorem remove_of_finds (finds : cbf.buffer.Finds id entry packet) :
    cbf.remove self id = (true, cbf.drop self entry packet) := by
  unfold remove
  rw [finds.timer]
  dsimp only
  rw [finds.packet]

theorem fetch_of_none (absent : cbf.buffer.find id = none) : cbf.fetch self id = (none, cbf) := by
  unfold fetch
  rcases absent_cases absent with timer | ⟨entry, timer, packet⟩
  · rw [timer]
  · simp only [timer, packet]

/-- The buffer that `fetch` drops the packet from. -/
theorem fetch_of_finds (finds : cbf.buffer.Finds id entry packet) :
    cbf.fetch self id =
      (if (cbf.reduceLifetime entry packet).1 > 0 then some (cbf.reduceLifetime entry packet).2.1
        else none,
      { cbf with buffer := (cbf.reduceLifetime entry packet).2.2 }.drop self entry
        (cbf.reduceLifetime entry packet).2.1) := by
  unfold fetch
  rw [finds.timer]
  dsimp only
  rw [finds.packet]

omit [DecidableEq ς] in
theorem update_of_none (absent : cbf.buffer.find id = none) (timeout : ℤ) : cbf.update id timeout = cbf := by
  unfold update
  rcases absent_cases absent with timer | ⟨entry, timer, packet⟩
  · rw [timer]
  · simp only [timer, packet]

omit [DecidableEq ς] in
theorem update_of_finds (finds : cbf.buffer.Finds id entry packet) (timeout : ℤ) :
    cbf.update id timeout = { cbf with
      buffer := { (cbf.reduceLifetime entry packet).2.2 with
        timers := replaceData cbf.buffer.timers id (.starting cbf.runtime.now timeout)
        counter := cbf.buffer.counter.increment cbf.runtime.now id } } := by
  unfold update
  rw [finds.timer]
  dsimp only
  rw [finds.packet]
  rfl

end Found

/-! ### The runtime -/

/-- The callbacks of the buffer do not affect what is said of the runtime. -/
structure Spares (timer : FlushTimer κ ς) (P : ManualRuntime κ ς → Prop) : Prop where
  schedules : ∀ runtime tp, P runtime → P (runtime.schedule tp timer.callback (some timer.scope))
  cancels : ∀ runtime, P runtime → P (runtime.cancel (some timer.scope))

section Runtime

variable {self} {P : ManualRuntime κ ς → Prop} (spares : Spares self P) (cbf : Cbf φ κ ς)

include spares

theorem Spares.scheduleTimer (holds : P cbf.runtime) : P (cbf.scheduleTimer self).runtime := by
  unfold Cbf.scheduleTimer
  split
  · exact holds
  · exact spares.schedules _ _ (spares.cancels _ holds)

theorem Spares.drop (entry : TimerNode) (packet : CbfPacket φ) (holds : P cbf.runtime) :
    P (cbf.drop self entry packet).runtime := by
  unfold Cbf.drop
  dsimp only
  split_ifs
  · exact spares.scheduleTimer _ holds
  · exact holds

theorem Spares.remove (id : PacketIdentifier) (holds : P cbf.runtime) :
    P (cbf.remove self id).2.runtime := by
  unfold Cbf.remove
  split
  · exact holds
  · split
    · exact holds
    · exact spares.drop cbf _ _ holds

theorem Spares.add (packet : CbfPacket φ) (timeout : ℤ) (node : ℕ) (holds : P cbf.runtime) :
    P (cbf.add self packet timeout node).runtime := by
  unfold Cbf.add
  dsimp only
  split_ifs
  · exact holds
  · exact spares.scheduleTimer _ holds
  · exact holds

omit spares [DecidableEq ς] in
theorem update_runtime (id : PacketIdentifier) (timeout : ℤ) :
    (cbf.update id timeout).runtime = cbf.runtime := by
  unfold update
  split
  · rfl
  · split
    · rfl
    · rfl

omit spares [DecidableEq ς] in
theorem flushAll_runtime (entries : List TimerNode) : ∀ cbf : Cbf φ κ ς,
    (cbf.flushAll entries).2.runtime = cbf.runtime := by
  induction entries with
  | nil => exact fun _ => rfl
  | cons entry rest ih =>
    intro cbf
    have one : (cbf.flushOne entry).2.runtime = cbf.runtime := by
      unfold flushOne
      split
      · rfl
      · rfl
    exact (ih _).trans one

theorem Spares.flush (holds : P cbf.runtime) : P (cbf.flush self).2.runtime := by
  refine spares.scheduleTimer _ ?_
  rw [flushAll_runtime]
  exact holds

end Runtime

/-! ### The clock -/

section Clock

variable (cbf : Cbf φ κ ς)

theorem sparesNow (now : ℤ) : Spares self fun runtime => runtime.now = now where
  schedules _ _ same := same
  cancels runtime same := (runtime.cancel_now _).trans same

@[simp] theorem drop_now (entry : TimerNode) (packet : CbfPacket φ) :
    (cbf.drop self entry packet).runtime.now = cbf.runtime.now :=
  (sparesNow self _).drop cbf entry packet rfl

theorem remove_now (id : PacketIdentifier) :
    (cbf.remove self id).2.runtime.now = cbf.runtime.now :=
  (sparesNow self _).remove cbf id rfl

theorem add_now (packet : CbfPacket φ) (timeout : ℤ) (node : ℕ) :
    (cbf.add self packet timeout node).runtime.now = cbf.runtime.now :=
  (sparesNow self _).add cbf packet timeout node rfl

omit [DecidableEq ς] in
theorem update_now (id : PacketIdentifier) (timeout : ℤ) :
    (cbf.update id timeout).runtime.now = cbf.runtime.now :=
  congrArg ManualRuntime.now (update_runtime cbf id timeout)

theorem flush_now : (cbf.flush self).2.runtime.now = cbf.runtime.now :=
  (sparesNow self _).flush cbf rfl

end Clock

/-! ### Runs -/

/-- What can happen to a buffer and its runtime. Other objects schedule and cancel callbacks, too. -/
inductive Action (φ κ ς : Type)
  | add (packet : CbfPacket φ) (timeout : ℤ) (node : ℕ)
  | remove (id : PacketIdentifier)
  | update (id : PacketIdentifier) (timeout : ℤ)
  | fetch (id : PacketIdentifier)
  | flush
  | advance (d : ℤ)
  | fire
  | schedule (other : ScheduledCallback κ ς)
  | cancel (scope : Option ς)

/-- A new node is none of those in use, a callback of another object has another scope. -/
def step (cbf : Cbf φ κ ς) : Action φ κ ς → Option (Cbf φ κ ς)
  | .add packet timeout node =>
    if node ∈ (cbf.buffer.makeRoom packet).timers.map TimerNode.node then none
    else some (cbf.add self packet timeout node)
  | .remove id => some (cbf.remove self id).2
  | .update id timeout => some (cbf.update id timeout)
  | .fetch id => some (cbf.fetch self id).2
  | .flush => some (cbf.flush self).2
  | .advance d =>
    if 0 ≤ d then some { cbf with runtime := { cbf.runtime with now := cbf.runtime.now + d } }
    else none
  | .fire =>
    cbf.runtime.popDue.map fun due =>
      let fired := { cbf with runtime := due.2 }
      if due.1.scope = some self.scope then (fired.flush self).2 else fired
  | .schedule other =>
    if other.scope = some self.scope then none
    else some { cbf with runtime := cbf.runtime.schedule other.deadline other.callback other.scope }
  | .cancel scope =>
    if scope = some self.scope then none
    else some { cbf with runtime := cbf.runtime.cancel scope }

/-- **What a step makes of the buffer.** Time and the callbacks of other objects do not concern it. -/
inductive Makes (cbf : Cbf φ κ ς) : Action φ κ ς → CbfPacketBuffer φ → Prop
  | add (packet : CbfPacket φ) (timeout : ℤ) (node : ℕ)
      (unused : node ∉ (cbf.buffer.makeRoom packet).timers.map TimerNode.node) :
      Makes cbf (.add packet timeout node) (cbf.add self packet timeout node).buffer
  | remove (id : PacketIdentifier) : Makes cbf (.remove id) (cbf.remove self id).2.buffer
  | update (id : PacketIdentifier) (timeout : ℤ) : Makes cbf (.update id timeout) (cbf.update id timeout).buffer
  | fetch (id : PacketIdentifier) : Makes cbf (.fetch id) (cbf.fetch self id).2.buffer
  | flush {action : Action φ κ ς} (runtime : ManualRuntime κ ς)
      (apart : ∀ packet timeout node, action ≠ .add packet timeout node) :
      Makes cbf action (({ cbf with runtime } : Cbf φ κ ς).flush self).2.buffer
  | rests {action : Action φ κ ς} (apart : ∀ packet timeout node, action ≠ .add packet timeout node) :
      Makes cbf action cbf.buffer

variable {self} in
theorem step_makes {cbf after : Cbf φ κ ς} {action : Action φ κ ς} (taken : cbf.step self action = some after) :
    Makes self cbf action after.buffer := by
  cases action with
  | add packet timeout node =>
    obtain ⟨unused, same⟩ := Option.ite_none_left_eq_some.mp taken
    cases same
    exact .add packet timeout node unused
  | remove id =>
    cases taken
    exact .remove id
  | update id timeout =>
    cases taken
    exact .update id timeout
  | fetch id =>
    cases taken
    exact .fetch id
  | flush =>
    cases taken
    exact .flush cbf.runtime fun _ _ _ => nofun
  | advance d =>
    obtain ⟨_, same⟩ := Option.ite_none_right_eq_some.mp taken
    cases same
    exact .rests fun _ _ _ => nofun
  | fire =>
    obtain ⟨due, _, rfl⟩ := Option.map_eq_some_iff.mp taken
    dsimp only
    split_ifs
    · exact .flush due.2 fun _ _ _ => nofun
    · exact .rests fun _ _ _ => nofun
  | schedule other =>
    obtain ⟨_, same⟩ := Option.ite_none_left_eq_some.mp taken
    cases same
    exact .rests fun _ _ _ => nofun
  | cancel scope =>
    obtain ⟨_, same⟩ := Option.ite_none_left_eq_some.mp taken
    cases same
    exact .rests fun _ _ _ => nofun

/-- A buffer that has just been created. -/
def Initial (cbf : Cbf φ κ ς) : Prop :=
  ∃ counter bytes now, counter.Created ∧ cbf = ⟨.empty counter bytes, ⟨now, []⟩⟩

end Cbf

end Vanet.Geonet
