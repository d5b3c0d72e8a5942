/-
**Where a forwarded packet comes from.**

A packet that a router forwards, now or later, is a received one: `Forwards` says how the packet that
is transmitted differs from it. Whatever a router keeps for a later transmission, in the forwarding
buffers and in the contention buffer, differs from a received packet no further (`Admitted`), and
this is what the changes of `Effects` need of `A`. The lifetime is reduced in the buffers and nowhere
else, and there is no second decrement of the hop limit.
-/

import Vanet.Geonet.CbfConsistency
import Vanet.Geonet.Stages
import Vanet.Geonet.Station

namespace Vanet.Geonet

open Vanet.Common Vanet.Library Vanet.Security
open Vanet.Net hiding ByteBuffer
open Act Router

/-! ### The content of a contention buffer -/

/-- What the buffer holds has the property. -/
def CbfPacketBuffer.Holds {φ : Type} (P : CbfPacket φ → Prop) (buffer : CbfPacketBuffer φ) : Prop :=
  ∀ node ∈ buffer.packets, P node.packet

/-- A shorter lifetime does not change the property. -/
def Ages {φ : Type} (P : CbfPacket φ → Prop) : Prop := ∀ packet d, P packet → P (packet.reduceLifetime d).2

namespace CbfPacketBuffer

variable {φ : Type} {P : CbfPacket φ → Prop} {buffer : CbfPacketBuffer φ} {packet : CbfPacket φ}

theorem Holds.deref {ref : ℕ} (holds : buffer.Holds P) (found : buffer.deref ref = some packet) :
    P packet := by
  obtain ⟨node, search, rfl⟩ := Option.map_eq_some_iff.mp found
  exact holds node (List.mem_of_find?_eq_some search)

theorem Holds.takeOut (holds : buffer.Holds P) (entry : TimerNode) :
    (buffer.takeOut entry packet).Holds P :=
  fun node member => holds node (List.mem_filter.mp member).1

theorem Holds.write (holds : buffer.Holds P) (ref : ℕ) (written : P packet) :
    (buffer.write ref packet).Holds P := by
  intro node member
  obtain ⟨old, kept, rfl⟩ := List.mem_map.mp member
  split_ifs
  · exact written
  · exact holds old kept

theorem Holds.dropHeads (rounds : ℕ) : ∀ {buffer : CbfPacketBuffer φ}, buffer.Holds P →
    (buffer.dropHeads rounds).Holds P := by
  induction rounds with
  | zero => exact fun holds => holds
  | succ rounds ih =>
    intro buffer holds
    unfold CbfPacketBuffer.dropHeads
    split
    · exact holds
    · next front rest packets =>
      split_ifs
      · apply ih
        intro node member
        exact holds node (by rw [packets]; exact List.mem_cons_of_mem front member)
      · exact holds

theorem Holds.emplace (holds : buffer.Holds P) (entering : P packet) (now timeout : ℤ) (node : ℕ) :
    (buffer.emplace now packet timeout node).Holds P := by
  unfold CbfPacketBuffer.emplace
  dsimp only
  split_ifs
  · intro other member
    rcases List.mem_append.mp member with old | new
    · exact holds other old
    · rw [List.mem_singleton.mp new]
      exact entering
  · exact holds

end CbfPacketBuffer

namespace Cbf

variable {φ κ ς : Type} [DecidableEq ς] {self : FlushTimer κ ς} {P : CbfPacket φ → Prop}
  {cbf : Cbf φ κ ς} {packet : CbfPacket φ}

theorem add_holds (holds : cbf.buffer.Holds P) (entering : P packet) (timeout : ℤ) (node : ℕ) :
    (cbf.add self packet timeout node).buffer.Holds P := by
  have counted : ({ cbf.buffer with
      storedBytes := cbf.buffer.storedBytes + packet.length }).Holds P := holds
  have room : (cbf.buffer.makeRoom packet).Holds P := counted.dropHeads _
  have added := room.emplace entering cbf.runtime.now timeout node
  unfold add
  dsimp only
  split_ifs
  · exact holds
  · rw [scheduleTimer_buffer]
    exact added
  · exact added

theorem remove_holds (holds : cbf.buffer.Holds P) (id : PacketIdentifier) :
    (cbf.remove self id).2.buffer.Holds P := by
  unfold remove
  split
  · exact holds
  · split
    · exact holds
    · rw [drop_buffer]
      exact holds.takeOut _

omit [DecidableEq ς] in
theorem update_holds (ages : Ages P) (holds : cbf.buffer.Holds P) (id : PacketIdentifier)
    (timeout : ℤ) : (cbf.update id timeout).buffer.Holds P := by
  unfold update
  split
  · exact holds
  · split
    · exact holds
    · next entry _ packet found => exact holds.write _ (ages _ _ (holds.deref found))

omit [DecidableEq ς] in
theorem flushOne_holds (ages : Ages P) (holds : cbf.buffer.Holds P) (entry : TimerNode) :
    (∀ packet ∈ (cbf.flushOne entry).1, ∃ held, P held ∧ packet = held.packet) ∧
      (cbf.flushOne entry).2.buffer.Holds P := by
  unfold flushOne
  split
  · exact ⟨List.forall_mem_nil _, holds⟩
  · next packet found =>
    have aged : P (cbf.reduceLifetime entry packet).2.1 := ages _ _ (holds.deref found)
    refine ⟨?_, (holds.write _ aged).takeOut _⟩
    dsimp only
    split_ifs
    · intro flushed member
      exact ⟨_, aged, List.mem_singleton.mp member⟩
    · exact List.forall_mem_nil _

omit [DecidableEq ς] in
theorem flushAll_holds (ages : Ages P) (entries : List TimerNode) :
    ∀ {cbf : Cbf φ κ ς}, cbf.buffer.Holds P →
      (∀ packet ∈ (cbf.flushAll entries).1, ∃ held, P held ∧ packet = held.packet) ∧
        (cbf.flushAll entries).2.buffer.Holds P := by
  induction entries with
  | nil => exact fun holds => ⟨List.forall_mem_nil _, holds⟩
  | cons entry rest ih =>
    intro cbf holds
    obtain ⟨first, kept⟩ := flushOne_holds ages holds entry
    obtain ⟨others, left⟩ := ih kept
    exact ⟨List.forall_mem_append.mpr ⟨first, others⟩, left⟩

theorem flush_holds (ages : Ages P) (holds : cbf.buffer.Holds P) :
    (∀ packet ∈ (cbf.flush self).1, ∃ held, P held ∧ packet = held.packet) ∧
      (cbf.flush self).2.buffer.Holds P := by
  unfold flush
  rw [scheduleTimer_buffer]
  exact flushAll_holds ages _ holds

end Cbf

/-! ### Forwarded packets -/

/-- **A received packet and what is transmitted of it.** The payload of a secured packet is within its
secured message. -/
structure Forwards (received : GbcPdu) (packet : UpPacket) (pdu : GbcPdu) (payload : ChunkPacket) :
    Prop where
  headers : pdu = { received with
    basic := { received.basic with
      hopLimit := pdu.basic.hopLimit
      lifetime := pdu.basic.lifetime } }
  hopLimit : pdu.basic.hopLimit.toNat + 1 = received.basic.hopLimit.toNat
  remaining : 1 ≤ pdu.basic.hopLimit.toNat
  lifetime : pdu.basic.lifetime.decode ≤ received.basic.lifetime.decode
  payload : payload = if received.secured.isSome then .empty else packet.duplicate

/-- The packet has been received, and is transmitted with these headers and this payload. -/
def Derived (trace : List Event) (reception : ℕ) (pdu : GbcPdu) (payload : ChunkPacket) : Prop :=
  ∃ original packet within, .received reception original packet within ∈ trace ∧
    Forwards original packet pdu payload

/-- **What a router may keep for a later transmission.** -/
def Admitted (trace : List Event) (packet : PendingPacketGbc) : Prop :=
  ∀ reception, packet.action.transmit = .forward reception →
    Derived trace reception packet.pdu packet.payload

section Admission

variable {trace : List Event} {packet : PendingPacketGbc}

theorem Derived.append {reception : ℕ} {pdu : GbcPdu} {payload : ChunkPacket}
    (derived : Derived trace reception pdu payload) (events : List Event) :
    Derived (trace ++ events) reception pdu payload := by
  obtain ⟨original, packet, within, member, forwards⟩ := derived
  exact ⟨original, packet, within, List.mem_append_left events member, forwards⟩

theorem Admitted.append (admitted : Admitted trace packet) (events : List Event) :
    Admitted (trace ++ events) packet :=
  fun reception tagged => (admitted reception tagged).append events

/-- A packet of a secured PDU has no payload to lose. -/
theorem hereditary_admitted (trace : List Event) : Hereditary (Admitted trace) where
  withAction := by
    intro packet action admitted transmits reception tagged
    rcases transmits with same | silent
    · exact admitted reception (same.symm.trans tagged)
    · have impossible : (.noop : Transmit) = .forward reception := silent.symm.trans tagged
      cases impossible
  duplicate := by
    intro packet admitted reception tagged
    obtain ⟨original, received, within, member, forwards⟩ := admitted reception tagged
    refine ⟨original, received, within, member, forwards.headers, forwards.hopLimit,
      forwards.remaining, forwards.lifetime, ?_⟩
    have secured : packet.pdu.secured = original.secured := by rw [forwards.headers]
    have payload := forwards.payload
    show (if packet.pdu.secured.isSome then ChunkPacket.empty else packet.payload) = _
    rw [secured]
    split_ifs with carries
    · rfl
    · rw [payload, if_neg carries]

theorem Admitted.reduceLifetime (admitted : Admitted trace packet) (queuingTime : ℤ) :
    Admitted trace (packet.reduceLifetime queuingTime).2 := by
  intro reception tagged
  obtain ⟨lifetime, shorter, changed⟩ := packet.reduceLifetime_changes queuingTime
  rw [changed] at tagged ⊢
  obtain ⟨original, received, within, member, forwards⟩ := admitted reception tagged
  refine ⟨original, received, within, member, ?_, forwards.hopLimit, forwards.remaining,
    shorter.trans forwards.lifetime, forwards.payload⟩
  have headers := forwards.headers
  dsimp only [ExtendedPdu.setLifetime]
  rw [headers]

/-- The router's own packets are not forwarded. -/
theorem admitsSources_admitted (trace : List Event) : AdmitsSources (Admitted trace) := by
  intro packet ctrl own reception tagged
  rw [own] at tagged
  cases tagged

end Admission

/-! ### What a router keeps -/

/-- Properties of packets that survive forwarding and buffering. -/
structure Durable (A : PendingPacketGbc → Prop) : Prop where
  hereditary : Hereditary A
  ages : ∀ packet queuingTime, A packet → A (packet.reduceLifetime queuingTime).2

theorem durable_admitted (trace : List Event) : Durable (Admitted trace) :=
  ⟨hereditary_admitted trace, fun _ queuingTime admitted => admitted.reduceLifetime queuingTime⟩

/-- **Everything that is buffered or has been forwarded is admitted.** -/
structure Attributed (A : PendingPacketGbc → Prop) (router : Router) : Prop where
  broadcast : ∀ node ∈ router.bcForwardBuffer.nodes, AdmitsData A node.2
  unicast : ∀ node ∈ router.ucForwardBuffer.nodes, AdmitsData A node.2
  contending : router.cbfBuffer.Holds fun cbf => A cbf.packet
  sent : ∀ reception request pdu payload,
    .passedDown (.forwarder reception) request pdu payload ∈ router.trace →
      ∃ packet, A packet ∧ packet.action.transmit = .forward reception ∧
        pdu = packet.pdu.toVariant ∧ payload = packet.payload

section Attribution

variable {A B : PendingPacketGbc → Prop} {before after router : Router}

theorem AdmitsData.mono {data : BufferData} (admits : AdmitsData A data)
    (weaken : ∀ packet, A packet → B packet) : AdmitsData B data := by
  cases data with
  | shb packet => exact trivial
  | gbc packet => exact weaken packet admits

theorem Attributed.mono (attributed : Attributed A router) (weaken : ∀ packet, A packet → B packet) :
    Attributed B router where
  broadcast node member := (attributed.broadcast node member).mono weaken
  unicast node member := (attributed.unicast node member).mono weaken
  contending node member := weaken _ (attributed.contending node member)
  sent := by
    intro reception request pdu payload member
    obtain ⟨packet, admitted, rest⟩ := attributed.sent reception request pdu payload member
    exact ⟨packet, weaken packet admitted, rest⟩

/-- A packet that is not the router's own goes. -/
def Event.isForwarding : Event → Bool
  | passedDown (.forwarder _) _ _ _ => true
  | _ => false

/-- An event of another kind. -/
theorem Attributed.emit (attributed : Attributed A router) {event : Event}
    (other : event.isForwarding = false) : Attributed A (router.emit event) where
  broadcast := attributed.broadcast
  unicast := attributed.unicast
  contending := attributed.contending
  sent := by
    intro reception request pdu payload member
    rcases List.mem_append.mp member with old | new
    · exact attributed.sent reception request pdu payload old
    · rw [← List.mem_singleton.mp new] at other
      cases other

theorem Attributed.withCbf (attributed : Attributed A router)
    {cbf : Cbf GbcAction RouterCallback RouterScope}
    (holds : cbf.buffer.Holds fun cbf => A cbf.packet) : Attributed A (router.withCbf cbf) :=
  ⟨attributed.broadcast, attributed.unicast, holds, attributed.sent⟩

theorem Durable.ages_cbf (durable : Durable A) : Ages fun cbf : CbfPacket GbcAction => A cbf.packet :=
  fun cbf d admitted => durable.ages cbf.packet d admitted

/-- What enters the broadcast buffer is admitted. -/
theorem Attributed.push (attributed : Attributed A router) {data : BufferData}
    (admits : AdmitsData A data) :
    Attributed A { router with
      bcForwardBuffer := (router.bcForwardBuffer.push data router.now).2 } where
  broadcast := by
    intro node member
    rcases PacketBuffer.mem_push member with old | new
    · exact attributed.broadcast node old
    · rwa [new]
  unicast := attributed.unicast
  contending := attributed.contending
  sent := attributed.sent

/-- **An elementary change** buffers and forwards admitted packets only. -/
theorem Effect.attributed (durable : Durable A) (effect : Effect A True before after)
    (attributed : Attributed A before) : Attributed A after := by
  cases effect with
  | @sent origin request pdu payload own =>
    apply attributed.emit
    cases origin with
    | forwarder reception => cases own
    | _ => rfl
  | @forwarded packet reception request admitted tagged =>
    refine ⟨attributed.broadcast, attributed.unicast, attributed.contending, ?_⟩
    intro other request pdu payload member
    rcases List.mem_append.mp member with old | new
    · exact attributed.sent other request pdu payload old
    · cases List.mem_singleton.mp new
      exact ⟨packet, admitted, tagged, rfl, rfl⟩
  | stopped => exact attributed.emit rfl
  | buffered admitted => exact attributed.push admitted
  | bufferedShb => exact attributed.push trivial
  | contends admitted =>
    exact attributed.withCbf (Cbf.add_holds attributed.contending admitted _ _)
  | removed => exact attributed.withCbf (Cbf.remove_holds attributed.contending _)
  | updated =>
    exact attributed.withCbf (Cbf.update_holds durable.ages_cbf attributed.contending _ _)
  | scheduled same =>
    exact ⟨attributed.broadcast, attributed.unicast, attributed.contending, attributed.sent⟩
  | repeated allowed =>
    exact ⟨attributed.broadcast, attributed.unicast, attributed.contending, attributed.sent⟩

theorem Effects.attributed (durable : Durable A) (effects : Effects A True before after)
    (attributed : Attributed A before) : Attributed A after := by
  induction effects with
  | refl => exact attributed
  | tail _ effect ih => exact effect.attributed durable ih

theorem keeps_performs (durable : Durable A) {α : Type} {act : Act α} (performs : Performs A True act) :
    Action.Keeps (Attributed A) act :=
  performs.ensures fun _ _ effects => effects.attributed durable

end Attribution

/-! ### Flushing -/

section Flushing

variable {A : PendingPacketGbc → Prop} {platform : Platform} {env : Environment}

theorem Durable.admitsData (durable : Durable A) {data : BufferData} (admits : AdmitsData A data)
    (queuingTime : ℤ) : AdmitsData A (PacketData.reduceLifetime data queuingTime).2 := by
  cases data with
  | shb packet => exact trivial
  | gbc packet => exact durable.ages packet queuingTime admits

theorem Durable.flushed (durable : Durable A) {buffer : PacketBuffer BufferData}
    (admits : ∀ node ∈ buffer.nodes, AdmitsData A node.2) (now : ℤ) :
    ∀ data ∈ buffer.flushed now, AdmitsData A data := by
  intro data member
  obtain ⟨node, held, queuingTime, rfl⟩ := PacketBuffer.mem_flushed member
  exact durable.admitsData (admits node held) queuingTime

/-- The data that have been taken out of a buffer are processed. -/
theorem keeps_flushed {δ : Type} {take : Router → List δ × Router} {process : δ → Act Unit}
    {P : δ → Prop} (taken : ∀ router, Attributed A router →
      (∀ data ∈ (take router).1, P data) ∧ Attributed A (take router).2)
    (processes : ∀ data, P data → Action.Keeps (Attributed A) (process data)) :
    Action.Keeps (Attributed A) (do
      let data ← Action.update take
      processAll process data) := by
  have takes : Action.Ensures (Attributed A) (Action.update take : Act (List δ))
      (fun data router => (∀ first ∈ data, P first) ∧ Attributed A router) (Attributed A) :=
    .update taken
  refine .bind takes fun data => .given (fun _ held => held.1) fun held => ?_
  have all : Action.Keeps (Attributed A) (processAll process data) := by
    clear taken takes
    induction data with
    | nil => exact .pure fun _ attributed => attributed
    | cons first rest ih =>
      obtain ⟨head, tail⟩ := List.forall_mem_cons.mp held
      exact .bind (processes first head) fun _ => ih tail
  exact all.mono (fun _ held => held.2) fun _ _ attributed => attributed

theorem keeps_flushBroadcast (durable : Durable A) :
    Action.Keeps (Attributed A) (flushBroadcastForwardingBuffer platform env) := by
  refine keeps_flushed (P := AdmitsData A) ?_ fun data admits =>
    keeps_performs durable (performs_processData durable.hereditary admits)
  intro router attributed
  exact ⟨durable.flushed attributed.broadcast _, List.forall_mem_nil _, attributed.unicast,
    attributed.contending, attributed.sent⟩

theorem keeps_flushUnicast (durable : Durable A) :
    Action.Keeps (Attributed A) (flushUnicastForwardingBuffer platform env) := by
  refine keeps_flushed (P := AdmitsData A) ?_ fun data admits =>
    keeps_performs durable (performs_processData durable.hereditary admits)
  intro router attributed
  exact ⟨durable.flushed attributed.unicast _, attributed.broadcast, List.forall_mem_nil _,
    attributed.contending, attributed.sent⟩

theorem keeps_flushCbf (durable : Durable A) :
    Action.Keeps (Attributed A) (flushCbfBuffer platform env) := by
  refine keeps_flushed (P := A) ?_ fun packet admitted =>
    keeps_performs durable (performs_processGbc durable.hereditary admitted)
  intro router attributed
  have contending : router.cbf.buffer.Holds fun cbf => A cbf.packet := attributed.contending
  obtain ⟨flushed, left⟩ := Cbf.flush_holds durable.ages_cbf contending
  refine ⟨?_, attributed.withCbf left⟩
  intro packet member
  obtain ⟨held, admitted, rfl⟩ := flushed packet member
  exact admitted

theorem keeps_invoke (durable : Durable A) (sources : AdmitsSources A) (callback : RouterCallback)
    (deadline : ℤ) : Action.Keeps (Attributed A) (invoke platform env callback deadline) := by
  cases callback with
  | beaconTimerExpired => exact keeps_performs durable performs_onBeaconTimerExpired
  | flushCbfBuffer => exact keeps_flushCbf durable
  | triggerRepetition ref =>
    exact keeps_performs durable (performs_repeaterTrigger durable.hereditary sources ref deadline)

end Flushing

/-! ### Steps beside the buffers -/

/-- An event that a packet comes or goes with. -/
def Event.isTransfer : Event → Bool
  | passedDown _ _ _ _ => true
  | received _ _ _ _ => true
  | _ => false

/-- The buffers are left alone, and no packet comes or goes. -/
structure Aside (before after : Router) : Prop where
  broadcast : after.bcForwardBuffer = before.bcForwardBuffer
  unicast : after.ucForwardBuffer = before.ucForwardBuffer
  contending : after.cbfBuffer = before.cbfBuffer
  trace : ∃ events, after.trace = before.trace ++ events ∧ ∀ event ∈ events, event.isTransfer = false

/-- A change that leaves the trace alone, too. -/
theorem Aside.silent {before after : Router}
    (broadcast : after.bcForwardBuffer = before.bcForwardBuffer)
    (unicast : after.ucForwardBuffer = before.ucForwardBuffer)
    (contending : after.cbfBuffer = before.cbfBuffer) (trace : after.trace = before.trace) :
    Aside before after :=
  ⟨broadcast, unicast, contending, [], by rw [trace, List.append_nil], List.forall_mem_nil _⟩

instance asidePreorder : IsPreorder Router Aside where
  refl _ := .silent rfl rfl rfl rfl
  trans _ _ _ first second := by
    obtain ⟨events, extended, beside⟩ := first.trace
    obtain ⟨more, further, besideMore⟩ := second.trace
    refine ⟨second.broadcast.trans first.broadcast, second.unicast.trans first.unicast,
      second.contending.trans first.contending, events ++ more, ?_, ?_⟩
    · rw [further, extended, List.append_assoc]
    · exact List.forall_mem_append.mpr ⟨beside, besideMore⟩

section Besides

variable {platform : Platform} {env : Environment}

theorem aside_emit {event : Event} (beside : event.isTransfer = false) :
    Action.Moves Aside (Act.emit event) :=
  .update fun _ => ⟨rfl, rfl, rfl, [event], rfl, by simpa using beside⟩

theorem aside_of_learns {α : Type} {act : Act α} (learns : Action.Moves Learns act) :
    Action.Moves Aside act := by
  refine learns.mono ?_
  rintro before _ ⟨table, lpv, rfl⟩
  exact .silent rfl rfl rfl rfl

theorem aside_decidePassUp (within : Bool) (gbc : GeoBroadcastHeader) :
    Action.Moves Aside (decidePassUp platform within gbc) := by
  refine .ite (fun _ => .pure _) fun _ => .ite (fun _ => ?_) fun _ => .pure _
  exact .update fun _ => .silent rfl rfl rfl rfl

theorem aside_passUp (extended : HeaderVariant) (ind : DataIndication) (packet : UpPacket) :
    Action.Moves Aside (passUp extended ind packet) :=
  .bind (moves_read _) fun _ => .ite (fun _ => aside_emit rfl) fun _ => .pure ()

theorem aside_dropExpired : Action.Moves Aside dropExpired :=
  .update fun _ => ⟨rfl, rfl, rfl, [_], rfl, by simp [Event.isTransfer]⟩

theorem aside_destinationArea (gbc : GeoBroadcastHeader) (ht : HeaderType) :
    Action.Moves Aside (destinationArea gbc ht) := by
  unfold destinationArea
  split
  · exact .pure _
  · exact moves_throw _

end Besides

/-! ### The invariant of a router -/

/-- **Everything comes from packets with known headers.** `heard` are the basic headers of the packets
received so far; `recorded` are events that have happened. -/
structure Provenant (heard : ℕ → BasicHeader → Prop) (recorded : List Event) (router : Router) :
    Prop where
  attributed : Attributed (Admitted router.trace) router
  heard : ∀ reception pdu packet within, .received reception pdu packet within ∈ router.trace →
    heard reception pdu.basic
  recorded : ∀ event ∈ recorded, event ∈ router.trace

section Stages

variable {heard : ℕ → BasicHeader → Prop} {recorded : List Event} {before after : Router}
  {platform : Platform} {env : Environment} {reception : ℕ}

/-- What an extended trace needs, apart from what has been admitted before. -/
theorem Provenant.extend (provenant : Provenant heard recorded before) {events : List Event}
    (extended : after.trace = before.trace ++ events)
    (unheard : ∀ reception pdu packet within, .received reception pdu packet within ∉ events)
    (attributed : Attributed (Admitted before.trace) after) : Provenant heard recorded after where
  attributed := by
    rw [extended]
    exact attributed.mono fun _ admitted => admitted.append events
  heard := by
    intro reception pdu packet within member
    rw [extended] at member
    rcases List.mem_append.mp member with old | new
    · exact provenant.heard reception pdu packet within old
    · exact absurd new (unheard _ _ _ _)
  recorded := by
    intro event member
    rw [extended]
    exact List.mem_append_left events (provenant.recorded event member)

theorem Aside.provenant (aside : Aside before after) (provenant : Provenant heard recorded before) :
    Provenant heard recorded after := by
  obtain ⟨events, extended, beside⟩ := aside.trace
  refine provenant.extend extended ?_ ?_
  · intro reception pdu packet within member
    exact nomatch beside _ member
  · refine ⟨?_, ?_, ?_, ?_⟩
    · rw [aside.broadcast]
      exact provenant.attributed.broadcast
    · rw [aside.unicast]
      exact provenant.attributed.unicast
    · rw [aside.contending]
      exact provenant.attributed.contending
    · intro reception request pdu payload member
      rw [extended] at member
      rcases List.mem_append.mp member with old | new
      · exact provenant.attributed.sent reception request pdu payload old
      · exact nomatch beside _ new

theorem keeps_aside {α : Type} {act : Act α} (moves : Action.Moves Aside act) :
    Action.Keeps (Provenant heard recorded) act :=
  moves.ensures fun _ _ aside => aside.provenant

/-- **A calm action that attributes everything to received packets.** -/
theorem keeps_attributing {α : Type} {act : Act α} (calm : Calm act)
    (attributes : ∀ trace, (∀ event ∈ recorded, event ∈ trace) →
      Action.Keeps (Attributed (Admitted trace)) act) :
    Action.Keeps (Provenant heard recorded) act := by
  have all : ∀ router, Provenant heard recorded router →
      Provenant heard recorded (act router).2 := by
    intro router provenant
    obtain ⟨events, extended, sending⟩ := (calm router).trace
    have attributed := (attributes router.trace provenant.recorded).after provenant.attributed
    refine provenant.extend extended ?_ attributed
    intro reception pdu packet within member
    exact nomatch sending _ member
  intro router provenant
  have kept := all router provenant
  rcases ran : act router with ⟨fault | value, after⟩
  · rwa [ran] at kept
  · rwa [ran] at kept

theorem keeps_performing {α : Type} {act : Act α}
    (performs : ∀ trace, (∀ event ∈ recorded, event ∈ trace) → Performs (Admitted trace) True act) :
    Action.Keeps (Provenant heard recorded) act :=
  keeps_attributing (fun router => (performs (router.trace ++ recorded) (fun _ member =>
      List.mem_append_right _ member) router).quiet)
    fun trace happened => keeps_performs (durable_admitted trace) (performs trace happened)

theorem keeps_provenant_flushBroadcast : Action.Keeps (Provenant heard recorded)
    (flushBroadcastForwardingBuffer platform env) :=
  keeps_attributing calm_flushBroadcastForwardingBuffer fun trace _ =>
    keeps_flushBroadcast (durable_admitted trace)

/-- **The packet that is forwarded** differs from the received one as it may. -/
theorem admitted_forwardingDuplicate {pdu : GbcPdu} {packet : UpPacket} {ll : LinkLayer}
    {within : Bool} {trace : List Event} (hops : 1 < pdu.basic.hopLimit)
    (happened : .received reception pdu packet within ∈ trace) :
    Admitted trace (forwardingDuplicate reception pdu packet ll) := by
  intro other tagged
  cases tagged
  have large : 1 < pdu.basic.hopLimit.toNat := hops
  have decremented : (pdu.basic.hopLimit - 1).toNat = pdu.basic.hopLimit.toNat - 1 :=
    UInt8.toNat_sub_of_le _ _ (UInt8.le_iff_toNat_le.mpr large.le)
  refine ⟨pdu, packet, within, happened, rfl, ?_, ?_, le_rfl, rfl⟩
  · show (pdu.basic.hopLimit - 1).toNat + 1 = _
    omega
  · show 1 ≤ (pdu.basic.hopLimit - 1).toNat
    omega

theorem keeps_forwardUnlessStopped (pdu : GbcPdu) (packet : UpPacket) (ll : LinkLayer)
    (within : Bool) :
    Action.Keeps (Provenant heard [.received reception pdu packet within])
      (forwardUnlessStopped platform env reception pdu packet ll) := by
  refine .bind (keeps_aside (moves_read _)) fun router => ?_
  cases stops : stopReason platform router pdu ll with
  | some reason => exact keeps_aside (aside_emit rfl)
  | none =>
    have hops : 1 < pdu.basic.hopLimit := by
      unfold stopReason at stops
      dsimp only at stops
      split_ifs at stops with few
      all_goals exact UInt8.not_le.mp few
    refine keeps_performing fun trace happened => ?_
    have admitted : Admitted trace (forwardingDuplicate reception pdu packet ll) :=
      admitted_forwardingDuplicate hops (happened _ (List.mem_singleton_self _))
    exact .bind (moves_read _) fun _ => .ite (fun _ => performs_pushBroadcastGbc admitted)
      fun _ => performs_processGbc (hereditary_admitted trace) admitted

theorem keeps_processAccepted (pdu : GbcPdu) (packet : UpPacket) (ll : LinkLayer)
    (locteExists within : Bool) :
    Action.Keeps (Provenant heard [.received reception pdu packet within])
      (processAccepted platform env reception pdu packet ll locteExists) := by
  have flushes : Action.Keeps (Provenant heard [.received reception pdu packet within])
      (flushUnicastForwardingBuffer platform env) :=
    keeps_attributing calm_flushUnicastForwardingBuffer fun trace _ =>
      keeps_flushUnicast (durable_admitted trace)
  exact .bind (keeps_aside (aside_of_learns (learns_detectMultiHopDuplicateAddress _ _))) fun _ =>
    .bind (keeps_aside (aside_of_learns (learns_updateGbcSource _ _ _))) fun _ =>
      .bind flushes fun _ => keeps_forwardUnlessStopped pdu packet ll within

/-- The reception is recorded. -/
theorem ensures_provenant_received (pdu : GbcPdu) (packet : UpPacket) (within : Bool)
    (hears : heard reception pdu.basic) :
    Action.Ensures (Provenant heard []) (Act.emit (.received reception pdu packet within))
      (fun _ => Provenant heard [.received reception pdu packet within]) (Provenant heard []) := by
  refine .update fun router provenant => ?_
  refine ⟨?_, ?_, ?_⟩
  · have emitted : Attributed (Admitted router.trace)
        (router.emit (.received reception pdu packet within)) := provenant.attributed.emit rfl
    exact emitted.mono fun _ admitted => admitted.append _
  · intro other pdu packet within member
    rcases List.mem_append.mp member with old | new
    · exact provenant.heard other pdu packet within old
    · cases List.mem_singleton.mp new
      exact hears
  · intro event member
    exact List.mem_append_right _ member

theorem keeps_processExtendedGbc (pdu : GbcPdu) (packet : UpPacket) (ll : LinkLayer)
    (hears : heard reception pdu.basic) :
    Action.Keeps (Provenant heard [])
      (processExtendedGbc platform env reception pdu packet ll) := by
  refine .bind (keeps_aside (aside_destinationArea _ _)) fun area =>
    .bind (keeps_aside (moves_read _)) fun start => ?_
  dsimp only
  set within := platform.geometry.insideOrAtBorder area start.localPositionVector.position
  have forget : ∀ router, Provenant heard [.received reception pdu packet within] router →
      Provenant heard [] router :=
    fun router provenant => ⟨provenant.attributed, provenant.heard, List.forall_mem_nil _⟩
  have rest : ∀ duplicatePacket : Bool,
      Action.Keeps (Provenant heard [.received reception pdu packet within])
        (if duplicatePacket then pure false
          else do
            Act.emit (.accepted reception pdu.extended)
            processAccepted platform env reception pdu packet ll
              (start.locationTable.hasValue start.now pdu.extended.sourcePosition.gnAddr.mid)
            decidePassUp platform within pdu.extended) := by
    refine fun duplicatePacket => .ite (fun _ => .pure fun _ provenant => provenant) fun _ => ?_
    exact .bind (keeps_aside (aside_emit rfl)) fun _ =>
      .bind (keeps_processAccepted pdu packet ll _ within) fun _ =>
        keeps_aside (aside_decidePassUp _ _)
  refine .bind (ensures_provenant_received pdu packet within hears) fun _ =>
    .weaken (.ite (fun _ => ?_) fun _ => ?_) (fun _ => forget) forget
  · exact .bind (keeps_aside (aside_of_learns (learns_detectDuplicatePacket _ _))) rest
  · exact .bind (keeps_aside (.pure false)) rest

theorem keeps_visitParsed_provenant (pdu : VariantPdu) (packet : UpPacket) (ll : LinkLayer)
    (indication : DataIndication) (hears : heard reception pdu.basic) :
    Action.Keeps (Provenant heard [])
      (visitParsed platform env reception pdu packet ll indication) := by
  have visits : Action.Keeps (Provenant heard [])
      (visitExtended platform env reception pdu packet ll indication) := by
    unfold visitExtended
    cases pdu.extended with
    | shb shb =>
      exact .bind (keeps_aside (aside_of_learns (learns_processExtendedShb _ _ _)))
        fun _ => keeps_aside (.pure _)
    | geoBroadcast gbc =>
      exact .bind (keeps_aside (aside_destinationArea _ _)) fun _ =>
        .bind (keeps_processExtendedGbc _ packet ll hears) fun _ => keeps_aside (.pure _)
    | beacon beacon =>
      exact .bind (keeps_aside (aside_of_learns (learns_processExtendedBeacon _ _ _)))
        fun _ => keeps_aside (.pure _)
  exact .bind visits fun _ => .ite (fun _ => keeps_aside (aside_passUp _ _ _))
    fun _ => keeps_aside (.pure ())

theorem keeps_indicate_provenant {packet : UpPacket} {ll : LinkLayer}
    (hears : ∀ basic, packet.basicHeader = some basic → heard reception basic) :
    Action.Keeps (Provenant heard []) (indicate platform env reception packet ll) := by
  refine keeps_indicate (fun _ => keeps_aside (aside_emit rfl)) (keeps_aside aside_dropExpired)
    keeps_provenant_flushBroadcast ?_
  rintro basic parsed pdu upper indication rfl
  exact keeps_visitParsed_provenant pdu upper ll indication (hears _ parsed)

end Stages

/-! ### Runs -/

/-- The basic headers of what a station has received. -/
def Station.Heard (receptions : List UpPacket) (reception : ℕ) (basic : BasicHeader) : Prop :=
  ∃ packet, receptions[reception]? = some packet ∧ packet.basicHeader = some basic

/-- The invariant of a station. -/
def Station.Provenant (station : Station) : Prop :=
  Geonet.Provenant (Heard station.receptions) [] station.router

section Runs

variable {platform : Platform} {station after : Station}

theorem Provenant.mono {heard more : ℕ → BasicHeader → Prop} {router : Router}
    (provenant : Provenant heard [] router)
    (weaken : ∀ reception basic, heard reception basic → more reception basic) :
    Provenant more [] router :=
  ⟨provenant.attributed, fun reception pdu packet within member =>
    weaken _ _ (provenant.heard reception pdu packet within member), List.forall_mem_nil _⟩

theorem Station.Heard.append {receptions : List UpPacket} {reception : ℕ} {basic : BasicHeader}
    (heard : Heard receptions reception basic) (packet : UpPacket) :
    Heard (receptions ++ [packet]) reception basic := by
  obtain ⟨earlier, received, parsed⟩ := heard
  obtain ⟨early, _⟩ := List.getElem?_eq_some_iff.mp received
  exact ⟨earlier, by rw [List.getElem?_append_left early, received], parsed⟩

theorem provenant_initial (initial : Station.Initial platform station) : station.Provenant := by
  obtain ⟨now, firstBeacon, rfl⟩ := initial
  obtain ⟨broadcast, unicast, contending⟩ := create_buffers platform.mib now firstBeacon
  have silent := create_trace platform.mib now firstBeacon
  refine ⟨⟨?_, ?_, ?_, ?_⟩, ?_, List.forall_mem_nil _⟩
  · rw [broadcast]
    exact List.forall_mem_nil _
  · rw [unicast]
    exact List.forall_mem_nil _
  · unfold CbfPacketBuffer.Holds
    rw [contending]
    exact List.forall_mem_nil _
  · intro reception request pdu payload member
    rw [silent] at member
    cases member
  · intro reception pdu packet within member
    rw [silent] at member
    cases member

/-- A request or a callback, which does not receive anything. -/
theorem station_keeps {α : Type} {act : Act α} (keeps : ∀ heard, Action.Keeps (Provenant heard []) act)
    (provenant : station.Provenant) : (station.withRouter (act station.router).2).Provenant :=
  (keeps (Station.Heard station.receptions)).after provenant

theorem station_aside (provenant : station.Provenant) {router : Router}
    (aside : Aside station.router router) : (station.withRouter router).Provenant :=
  aside.provenant provenant

/-- What a station does keeps its invariant. -/
theorem step_provenant {input : Environment × Station.Action} (provenant : station.Provenant)
    (taken : Station.step platform station input = some after) : after.Provenant := by
  obtain ⟨env, action⟩ := input
  unfold Station.step at taken
  split_ifs at taken
  cases action with
  | indicate packet ll =>
    cases taken
    have louder := Geonet.Provenant.mono provenant
      fun reception basic heard => heard.append packet
    refine (keeps_indicate_provenant ?_).after louder
    intro basic parsed
    exact ⟨packet, List.getElem?_concat_length, parsed⟩
  | request request payload =>
    cases taken
    refine station_keeps (fun heard => keeps_performing fun trace _ => ?_) provenant
    exact performs_request (hereditary_admitted trace) (admitsSources_admitted trace) request payload
  | updatePosition fix =>
    cases taken
    exact station_aside provenant (.silent rfl rfl rfl rfl)
  | setAddress addr =>
    cases taken
    exact station_aside provenant (.silent rfl rfl rfl rfl)
  | setTransportHandler proto handled =>
    cases taken
    exact station_aside provenant (.silent rfl rfl rfl rfl)
  | advance d =>
    dsimp only at taken
    split_ifs at taken
    cases taken
    exact station_aside provenant (.silent rfl rfl rfl rfl)
  | fire =>
    obtain ⟨due, _, rfl⟩ := Option.map_eq_some_iff.mp taken
    have popped : (station.withRouter { station.router with runtime := due.2 }).Provenant :=
      station_aside provenant (.silent rfl rfl rfl rfl)
    have invokes : ∀ heard, Action.Keeps (Geonet.Provenant heard [])
        (invoke platform env due.1.callback due.1.deadline) :=
      fun heard => keeps_attributing (calm_invoke _ _) fun trace _ =>
        keeps_invoke (durable_admitted trace) (admitsSources_admitted trace) _ _
    exact (invokes _).after popped

end Runs

end Vanet.Geonet
