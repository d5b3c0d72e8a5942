/-
**What the callback of the contention buffer does.**

Whatever contends has been bound to the broadcast address (`Bound`), so the callback does not look for a
next hop again: it hands the packets that `flush` returns to the access layer, one after the other, and
touches nothing else. Advanced forwarding has transmitted some packets before they contend; these are
silent.

* `processForwarding_hands`: what becomes of one packet.
* `processAll_hands`: the events of a callback are the transmissions of its packets, in their order. An
  exception cuts them off.
* `flushCbfBuffer_hands`: the buffer is left as `flush` leaves it.
-/

import Vanet.Geonet.CbfOperations
import Vanet.Geonet.Contention
import Vanet.Geonet.Conveying

namespace Vanet.Geonet

open Vanet.Common Vanet.Library Vanet.Security
open Vanet.Net hiding ByteBuffer
open Act Router

/-! ### Packets that contend -/

/-- The packet will be broadcast as it is. -/
def CbfPacket.Bound (cbf : CbfPacket GbcAction) : Prop :=
  cbf.packet.action = .bound cbf.packet.action.transmit cBroadcastMacAddress

/-- **Every packet in the contention buffer** will be. -/
abbrev Router.Bound (router : Router) : Prop := router.cbfBuffer.Holds CbfPacket.Bound

section Bound

variable {platform : Platform} {env : Environment} {router : Router}

theorem cbfPacket_bound (packet : PendingPacketForwarding) (sender : MacAddress) :
    (cbfPacket packet sender).Bound := rfl

theorem ages_bound : Ages CbfPacket.Bound := by
  intro cbf d bound
  obtain ⟨lifetime, _, changed⟩ := cbf.packet.reduceLifetime_changes d
  show (cbf.packet.reduceLifetime d).2.action = .bound (cbf.packet.reduceLifetime d).2.action.transmit _
  rw [changed]
  exact bound

theorem Beside.bound {before after : Router} (beside : Beside before after) (bound : before.Bound) :
    after.Bound := by
  unfold Router.Bound
  rw [beside.contending]
  exact bound

theorem keepsBound_of_beside {α : Type} {act : Act α} (moves : Action.Moves Beside act) :
    Action.Keeps Router.Bound act :=
  moves.ensures fun _ _ beside bound => beside.bound bound

/-- **Forwarding binds every packet** that it puts into the buffer. -/
theorem conveys_bound : Conveys platform env Router.Bound Router.Bound fun _ => True where
  silent _ _ := trivial
  duplicate _ _ := trivial
  locates _ _ := keepsBound_of_beside (moves_destinationArea _ _)
  stops := keepsBound_of_beside (beside_emit _)
  buffers _ _ := keepsBound_of_beside (beside_pushBroadcast _)
  adds _ _ _ _ := .update fun _ bound => Cbf.add_holds bound (cbfPacket_bound _ _) _ _
  removes _ := .update fun _ bound => Cbf.remove_holds bound _
  updates _ _ := .update fun _ bound => Cbf.update_holds ages_bound bound _ _
  transmits _ _ _ := keepsBound_of_beside (beside_processForwarding _ _)

theorem Routing.bound {act : Act NextHop} (routes : Routing Router.Bound Router.Bound (fun _ => True) act)
    (bound : router.Bound) : (act router).2.Bound :=
  Action.Ensures.after (routes.weaken (fun _ _ both => both.1) fun _ bound => bound) bound

/-- A packet that is fetched was the only one to go. -/
theorem Cbf.fetch_holds {φ κ ς : Type} [DecidableEq ς] {self : FlushTimer κ ς} {P : CbfPacket φ → Prop}
    {cbf : Cbf φ κ ς} (ages : Ages P) (holds : cbf.buffer.Holds P) (id : PacketIdentifier) :
    (cbf.fetch self id).2.buffer.Holds P := by
  unfold Cbf.fetch
  split
  · exact holds
  · split
    · exact holds
    · next entry _ packet found =>
      rw [Cbf.drop_buffer]
      exact (holds.write _ (ages _ _ (holds.deref found))).takeOut _

end Bound

/-! ### Transmissions -/

/-- Whether the packet's callback has anything to transmit. -/
def Transmit.speaks : Transmit → Bool
  | .noop => false
  | _ => true

/-- **The transmission of a packet** by this router, to the broadcast address. A packet that was heard is
handed over as it is; an own one gets the router's position, and is secured. -/
def Event.Transmits (router : Router) (packet : PendingPacketGbc) (event : Event) : Prop :=
  match packet.action.transmit with
  | .forward reception => event = .passedDown (.forwarder reception)
      { destination := cBroadcastMacAddress
        source := router.localPositionVector.gnAddr.mid
        dccProfile := .dp3
        etherType := etherType
        lifetime := packet.pdu.basic.lifetime.decode } packet.pdu.toVariant packet.payload
  | .source _ => ∃ request pdu payload, event = .passedDown .gbcSource request pdu payload ∧
      pdu.extended =
        .geoBroadcast { packet.pdu.extended with sourcePosition := router.localPositionVector }
  | .noop => False

/-- The packets whose callbacks have something to transmit. -/
abbrev speaking (packets : List PendingPacketGbc) : List PendingPacketGbc :=
  packets.filter fun packet => packet.action.transmit.speaks

/-- **What the callbacks of packets do** one after the other: nothing but the events. If they return, these
are the transmissions of all packets that are not silent; if one throws an exception, those of the packets
before it. -/
structure Hands (before : Router) (packets : List PendingPacketGbc)
    (ended : Except RouterFault Unit × Router) (transmitted : List PendingPacketGbc)
    (events : List Event) : Prop where
  after : ended.2 = { before with trace := before.trace ++ events }
  order : transmitted <+: speaking packets
  each : List.Forall₂ (Event.Transmits before) transmitted events
  all : ended.1 = .ok () → transmitted = speaking packets

section Transmissions

variable {platform : Platform} {env : Environment} {router : Router} {packet : PendingPacketGbc}
  {packets : List PendingPacketGbc}

theorem Hands.silent (quiet : speaking packets = []) (result : Except RouterFault Unit) :
    Hands router packets (result, router) [] [] where
  after := by rw [List.append_nil]
  order := List.nil_prefix
  each := .nil
  all _ := quiet.symm

theorem Hands.refused (fault : RouterFault) : Hands router packets (.error fault, router) [] [] where
  after := by rw [List.append_nil]
  order := List.nil_prefix
  each := .nil
  all := nofun

theorem Hands.transmitted {event : Event} (transmits : event.Transmits router packet) :
    Hands router [packet] (.ok (), router.emit event) [packet] [event] := by
  have speaks : packet.action.transmit.speaks = true := by
    unfold Event.Transmits at transmits
    unfold Transmit.speaks
    cases action : packet.action.transmit with
    | noop =>
      rw [action] at transmits
      exact transmits.elim
    | forward reception => rfl
    | source ctrl => rfl
  have alone : speaking [packet] = [packet] := List.filter_cons_of_pos speaks
  exact ⟨rfl, alone.symm ▸ List.prefix_refl [packet], .cons transmits .nil, fun _ => alone.symm⟩

/-- `pass_down` emits the event, or throws an exception before. -/
theorem passDown_cases (origin : Origin) (request : Dcc.DataRequest) (pdu : VariantPdu)
    (payload : ChunkPacket) (router : Router) :
    passDown origin request pdu payload router =
        (.ok (), router.emit (.passedDown origin request pdu payload)) ∨
      ∃ fault, passDown origin request pdu payload router = (.error fault, router) := by
  unfold passDown
  cases pdu.secured with
  | some message =>
    dsimp only
    split_ifs
    · exact .inr ⟨_, rfl⟩
    · exact .inr ⟨_, rfl⟩
    · exact .inl rfl
  | none =>
    dsimp only
    split_ifs
    · exact .inr ⟨_, rfl⟩
    · exact .inl rfl

/-- A packet whose transmission is handed over. -/
theorem passDown_hands {origin : Origin} {request : Dcc.DataRequest} {pdu : VariantPdu}
    {payload : ChunkPacket}
    (transmits : Event.Transmits router packet (.passedDown origin request pdu payload)) :
    ∃ transmitted events, Hands router [packet] (passDown origin request pdu payload router)
      transmitted events := by
  rcases passDown_cases origin request pdu payload router with handed | ⟨fault, thrown⟩
  · rw [handed]
    exact ⟨_, _, .transmitted transmits⟩
  · rw [thrown]
    exact ⟨_, _, .refused fault⟩

/-- Securing a packet leaves its extended header as it is, or fails. -/
theorem secure_cases (itsAid : ItsAid) (pdu : GbcPdu) (payload : ChunkPacket) (router : Router) :
    (∃ secured, (secure platform env itsAid pdu payload) router = (.ok secured, router) ∧
        secured.1.extended = pdu.extended) ∨
      ∃ fault, (secure platform env itsAid pdu payload) router = (.error fault, router) := by
  unfold secure encapPacket
  by_cases security : platform.mib.itsGnSecurity = true
  · rw [if_pos security]
    cases env.securityEntity with
    | none => exact .inr ⟨_, rfl⟩
    | some entity =>
      dsimp only
      rw [read_bind]
      by_cases plain : pdu.basic.nextHeader ≠ .secured
      · rw [if_pos plain]
        exact .inr ⟨_, rfl⟩
      · rw [if_neg plain]
        exact .inl ⟨(_, _), rfl, rfl⟩
  · rw [if_neg security]
    exact .inl ⟨(pdu, payload), rfl, rfl⟩

/-- **One packet**: it is transmitted, or it is silent, or an exception is thrown. -/
theorem processForwarding_hands (packet : PendingPacketGbc) (router : Router) :
    ∃ transmitted events, Hands router [packet]
      (processForwarding platform env (packet.withAction packet.action.transmit) cBroadcastMacAddress router)
      transmitted events := by
  cases action : packet.action.transmit with
  | forward reception =>
    have ran : processForwarding platform env (packet.withAction (.forward reception))
        cBroadcastMacAddress router = passDown (.forwarder reception)
          { destination := cBroadcastMacAddress
            source := router.localPositionVector.gnAddr.mid
            dccProfile := .dp3
            etherType := etherType
            lifetime := packet.pdu.basic.lifetime.decode } packet.pdu.toVariant packet.payload router := by
      unfold processForwarding
      cases platform.mib.itsGnIfType <;> rfl
    rw [ran]
    refine passDown_hands ?_
    unfold Event.Transmits
    rw [action]
  | source ctrl =>
    let stamped : GbcPdu := { packet.pdu with
      extended := { packet.pdu.extended with sourcePosition := router.localPositionVector } }
    have ran : processForwarding platform env (packet.withAction (.source ctrl)) cBroadcastMacAddress router =
        (secure platform env ctrl.itsAid stamped packet.payload >>= fun secured => do
          executeMediaProcedures ctrl.communicationProfile
          passDownTo .gbcSource cBroadcastMacAddress secured.1.toVariant secured.2) router := rfl
    rw [ran]
    rcases secure_cases ctrl.itsAid stamped packet.payload router with
      ⟨secured, passes, same⟩ | ⟨fault, fails⟩
    · rw [Action.bind_of_ok passes]
      have sent : (executeMediaProcedures ctrl.communicationProfile >>= fun _ =>
          passDownTo .gbcSource cBroadcastMacAddress secured.1.toVariant secured.2) router =
            passDownTo .gbcSource cBroadcastMacAddress secured.1.toVariant secured.2 router := by
        cases ctrl.communicationProfile <;> rfl
      rw [sent]
      unfold passDownTo
      rw [read_bind]
      refine passDown_hands ?_
      unfold Event.Transmits
      rw [action]
      exact ⟨_, _, _, rfl, congrArg HeaderVariant.geoBroadcast same⟩
    · rw [Action.bind_of_error fails]
      exact ⟨_, _, .refused fault⟩
  | noop =>
    refine ⟨_, _, .silent ?_ _⟩
    exact List.filter_cons_of_neg (by rw [action]; decide)

/-- A packet and the ones after it, if it has been processed. -/
theorem Hands.cons {mid : Router} {ended : Except RouterFault Unit × Router}
    {first others : List PendingPacketGbc} {begun later : List Event}
    (hands : Hands router [packet] (.ok (), mid) first begun) (rest : Hands mid packets ended others later) :
    Hands router (packet :: packets) ended (first ++ others) (begun ++ later) := by
  obtain ⟨rfl, _, each, all⟩ := hands
  obtain rfl := all rfl
  have split : speaking (packet :: packets) = speaking [packet] ++ speaking packets :=
    @List.filter_append _ _ [packet] packets
  refine ⟨?_, ?_, ?_, fun ok => ?_⟩
  · rw [rest.after, List.append_assoc]
  · rw [split]
    exact (List.prefix_append_right_inj _).mpr rest.order
  · exact List.rel_append each rest.each
  · rw [split, rest.all ok]

/-- **Packets that are bound**, one after the other. -/
theorem processAll_hands (bound : ∀ packet ∈ packets,
      packet.action = .bound packet.action.transmit cBroadcastMacAddress) (router : Router) :
    ∃ transmitted events, Hands router packets (processAll (processGbc platform env) packets router)
      transmitted events := by
  induction packets generalizing router with
  | nil => exact ⟨_, _, .silent rfl _⟩
  | cons packet rest ih =>
    have same : processGbc platform env packet = processForwarding platform env
        (packet.withAction packet.action.transmit) cBroadcastMacAddress := by
      unfold processGbc
      rw [bound packet List.mem_cons_self]
      rfl
    obtain ⟨first, begun, hands⟩ := @processForwarding_hands platform env packet router
    unfold processAll
    rw [same]
    rcases ran : processForwarding platform env (packet.withAction packet.action.transmit)
      cBroadcastMacAddress router with ⟨fault | ⟨⟩, mid⟩
    · rw [Action.bind_of_error ran]
      rw [ran] at hands
      refine ⟨first, begun, hands.after, ?_, hands.each, nofun⟩
      exact hands.order.trans (List.prefix_append_right_inj [packet] |>.mpr List.nil_prefix |>.filter _)
    · rw [Action.bind_of_ok ran]
      rw [ran] at hands
      obtain ⟨others, later, following⟩ :=
        ih (fun other member => bound other (List.mem_cons_of_mem packet member)) mid
      exact ⟨_, _, hands.cons following⟩

/-- **The callback of the contention buffer.** -/
theorem flushCbfBuffer_hands (bound : router.Bound) :
    ∃ transmitted events, Hands (router.withCbf (router.cbf.flush flushTimer).2)
      (router.cbf.flush flushTimer).1 (flushCbfBuffer platform env router) transmitted events := by
  refine processAll_hands (fun packet member => ?_) _
  obtain ⟨held, aged, rfl⟩ := (Cbf.flush_holds ages_bound bound).1 packet member
  exact aged

end Transmissions

end Vanet.Geonet
