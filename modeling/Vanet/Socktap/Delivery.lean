/-
**From an application to another station's application.**

A single-hop broadcast goes down through the BTP header, the router, the pass-through in the place of a DCC
and the link layer; its frame, which may be padded on the way, goes up through the same layers of a
receiver, and its bytes reach whoever is registered for the port of the sending application.

`broadcast_delivered` puts the layers together: `requestShb_sends`, `onRead_of_long`, `indicate_shb`,
`parseBtpB_cohesive` and `dispatch_of_history`.
-/

import Vanet.Geonet.Arrival
import Vanet.Socktap.RouterContext

namespace Vanet.Socktap

open Vanet.Btp Vanet.Geonet
open Vanet.Library Vanet.Security
open Vanet.Net hiding ByteBuffer

/-! ### Down -/

/-- The packet of an application has nothing in the layers that the stack below fills. -/
def Bare (packet : ChunkPacket) : Prop :=
  ∀ layer, layer.index < OsiLayer.transport.index → packet.layer layer = []

/-- The message of an application. -/
def message (packet : ChunkPacket) : ByteBuffer :=
  (osiLayerRange .session .application).flatMap packet.layer

/-- What it is for a router. -/
def upperBytes (port : Port) (packet : ChunkPacket) : ByteBuffer :=
  (HeaderB.mk port 0).serialize ++ message packet

section Down

variable {port : Port} {packet : ChunkPacket}

theorem size_withHeader (bare : Bare packet) :
    (Application.withHeader port packet).size = (upperBytes port packet).length := by
  show (packet.layer .physical).length + ((packet.layer .link).length + ((packet.layer .network).length +
    ((HeaderB.mk port 0).serialize.length + ((packet.layer .session).length +
      ((packet.layer .presentation).length + ((packet.layer .application).length + 0)))))) =
    ((HeaderB.mk port 0).serialize ++ (packet.layer .session ++ (packet.layer .presentation ++
      (packet.layer .application ++ [])))).length
  rw [bare .physical (by decide), bare .link (by decide), bare .network (by decide)]
  simp only [List.length_append, List.length_nil, Nat.zero_add]

/-- **A frame**: the Ethernet header, the PDU, the BTP header and the message. -/
theorem request_downPacket (bare : Bare packet) (request : Dcc.AccessRequest) (pdu : VariantPdu) :
    RawSocketLink.request request
        (RouterContext.downPacket pdu (Application.withHeader port packet)) =
      EthernetHeader.createEthernetHeader
        ⟨request.destinationAddr, request.sourceAddr, request.etherType⟩ ++
          (pdu.serialize ++ upperBytes port packet) := by
  show packet.layer .physical ++ (EthernetHeader.createEthernetHeader
    ⟨request.destinationAddr, request.sourceAddr, request.etherType⟩ ++ (pdu.serialize ++
      ((HeaderB.mk port 0).serialize ++ (packet.layer .session ++ (packet.layer .presentation ++
        (packet.layer .application ++ [])))))) = _
  rw [bare .physical (by decide)]
  rfl

end Down

/-! ### Up -/

section Up

variable {link : RawSocketLink} {hdr : EthernetHeader} {bytes : ByteBuffer}

/-- **A frame that fits** is indicated, with its header and with everything behind it in the network layer. -/
theorem receive_frame (registered : link.callback = true) (ready : link.MapReady)
    (fits : (hdr.createEthernetHeader ++ bytes).length ≤ RawSocketLink.receiveBuffer) (padding : ByteBuffer)
    (now : ℤ) :
    ∃ packet shorter, link.receive (hdr.createEthernetHeader ++ bytes ++ padding) now =
        .ok [.indicate packet hdr, .receive] ∧
      packet.toPacket.layer .network = bytes ++ shorter ∧
      ∀ layer, OsiLayer.network.index < layer.index → packet.toPacket.layer layer = [] := by
  let shorter := padding.take (RawSocketLink.receiveBuffer - (hdr.createEthernetHeader ++ bytes).length)
  have whole : (hdr.createEthernetHeader ++ bytes ++ padding).take RawSocketLink.receiveBuffer =
      hdr.createEthernetHeader ++ (bytes ++ shorter) := by
    rw [List.take_append, List.take_of_length_le fits, List.append_assoc]
  have long : EthernetHeader.lengthBytes ≤ (hdr.createEthernetHeader ++ (bytes ++ shorter)).length := by
    rw [List.length_append, EthernetHeader.length_createEthernetHeader]
    exact Nat.le_add_right ..
  have handles : link.HandlesFrame (hdr.createEthernetHeader ++ (bytes ++ shorter)) now :=
    RawSocketLink.onRead_of_long long ready
  obtain ⟨indications, handled, indicates⟩ := handles
  unfold RawSocketLink.Indicates at indicates
  rw [if_pos ⟨registered, long⟩] at indicates
  obtain ⟨packet, other, rfl, splits⟩ := indicates
  have decoded := splits.decoded
  have header : (hdr.createEthernetHeader ++ (bytes ++ shorter)).take EthernetHeader.lengthBytes =
      hdr.createEthernetHeader ++ [] := by
    rw [← EthernetHeader.length_createEthernetHeader hdr, List.take_left, List.append_nil]
  rw [header, EthernetHeader.decode_createEthernetHeader] at decoded
  cases decoded
  refine ⟨packet, shorter, ?_, ?_, ?_⟩
  · unfold RawSocketLink.receive
    rw [whole]
    exact handled
  · refine splits.network.trans ?_
    rw [← EthernetHeader.length_createEthernetHeader hdr, List.drop_left]
  · intro layer above
    refine splits.others layer ?_ ?_
    · rintro rfl
      exact absurd above (by decide)
    · rintro rfl
      exact absurd above (by decide)

end Up

namespace RouterContext

variable {κ η : Type}

/-- **What lets a broadcast of a source through**: a link that hands frames on, a router with a handler
for BTP that neither ignores the source nor speaks another version of the protocol, and that does not
insist on security. -/
structure Listens (ctx : RouterContext κ η) (env : Environment) (link : RawSocketLink) (source : MacAddress)
    (version : BitVec 4) : Prop where
  registered : link.callback = true
  ready : link.MapReady
  accepts : ctx.accepts ⟨cBroadcastMacAddress, source, etherType⟩ = true
  unguarded : ctx.platform.mib.itsGnSecurity = false ∨
    ctx.platform.mib.itsGnSnDecapResultHandling = .nonStrict
  version : version.toNat = ctx.platform.mib.itsGnProtocolVersion.toNat
  handled : ctx.router.transportHandler .btpB = true
  present : ¬ Router.SecurityMissing ctx.platform env

/-- The router is that of a station, after some sound steps. -/
def Runs (ctx : RouterContext κ η) : Prop :=
  ∃ station, GuardedReach (Station.Initial ctx.platform) (Station.step ctx.platform)
    (fun _ => Station.Sound ctx.platform) station ∧ station.router = ctx.router

variable [DecidableEq η]

/-- **A single-hop broadcast goes up** to the dispatcher, once. -/
theorem indicate_single {ctx : RouterContext κ η} {env : Environment} {link : RawSocketLink}
    {source : MacAddress} {pdu : VariantPdu} {header : ShbHeader} {upper padding : ByteBuffer}
    {packet : Cohesive} (listens : ctx.Listens env link source pdu.basic.version) (runs : ctx.Runs)
    (arrives : Arrives pdu upper padding packet.toPacket) (receivable : Receivable ctx.platform pdu upper)
    (single : pdu.extended = .shb header) (btp : pdu.common.nextHeader = .btpB) (reception : ℕ) :
    (ctx.indicate env reception packet ⟨cBroadcastMacAddress, source, etherType⟩).1 =
      [ctx.dispatcher.indicate (shbIndication pdu header)
        (.cohesive (packet.toPacket.withUpper pdu.serialize upper))] := by
  obtain ⟨station, reached, same⟩ := runs
  have fit : Fit ctx.platform ctx.router := same ▸ (Station.endures reached).fit
  have handled : ctx.router.transportHandler (Router.upperProtocolOf pdu.common.nextHeader) = true := by
    rw [btp]
    exact listens.handled
  obtain ⟨after, expired, flushed, indicated, sending, trace⟩ :=
    indicate_shb arrives receivable single fit listens.present handled reception
      ⟨source, cBroadcastMacAddress⟩
  unfold indicate
  rw [if_pos listens.accepts]
  dsimp only
  rw [indicated]
  dsimp only
  rw [trace, List.drop_left, List.filterMap_append]
  have silent : (Event.expired expired :: flushed).filterMap passedUp = [] := by
    rw [List.filterMap_eq_nil_iff]
    intro event member
    rcases List.mem_cons.mp member with rfl | waiting
    · rfl
    · have sent := sending event waiting
      cases event with
      | passedUp extended indication packet => cases sent
      | _ => rfl
  rw [silent]
  rfl

end RouterContext

/-! ### From application to application -/

/-- **A broadcast that leaves at once**: it is accepted, security is off, packets may flow, and there is a
neighbour or no need for one. A frame of this size has room in the buffer of a receiver. -/
structure Broadcasts {κ η : Type} (sender : RouterContext κ η) (port : Port)
    (generic : DataRequestGeoNetParams) (packet : ChunkPacket) : Prop where
  single : generic.transportType = .shb
  bare : Bare packet
  room : EthernetHeader.lengthBytes + (BasicHeader.lengthBytes + CommonHeader.lengthBytes +
    ShbHeader.lengthBytes) + sender.platform.mib.itsGnMaxSduSize ≤ RawSocketLink.receiveBuffer
  unsecured : sender.platform.mib.itsGnSecurity = false
  flows : sender.allowPacketFlow = true
  accepted : Router.Accepts sender.platform
    (.shb (Application.initializeRequest sender.platform.mib generic))
    (some (Application.withHeader port packet))
  atOnce : ¬ Router.Waits sender.router generic.trafficClass

/-- What the application of a receiver is told. -/
def received {κ η : Type} (sender : RouterContext κ η) (port : Port) (generic : DataRequestGeoNetParams) :
    Btp.DataIndication where
  sourcePort := none
  destinationPort := port
  destinationPortInfo := some 0
  destination := none
  itsAid := none
  permissions := none
  sourcePosition := some sender.router.localPositionVector.short
  trafficClass := some generic.trafficClass
  remainingPacketLifetime :=
    some (generic.maximumLifetime.getD sender.platform.mib.itsGnDefaultPacketLifetime)

section Delivered

variable {κ η κ' η' : Type} {sender : RouterContext κ η} {env : Environment} {port : Port}
  {generic : DataRequestGeoNetParams} {packet : ChunkPacket}

/-- The PDU of a broadcast. -/
def broadcastPdu (sender : RouterContext κ η) (env : Environment) (port : Port)
    (generic : DataRequestGeoNetParams) (packet : ChunkPacket) : VariantPdu :=
  sentShb sender.platform (Application.initializeRequest sender.platform.mib generic)
    { CommonHeader.ofMib sender.platform.mib with
      nextHeader := .btpB
      trafficClass := generic.trafficClass
      maximumHopLimit := sender.platform.mib.itsGnDefaultHopLimit.toUInt8 }
    ⟨sender.router.localPositionVector, env.dccField sender.router.moment⟩
    (Application.withHeader port packet)

/-- A packet that is accepted is short enough. -/
theorem Broadcasts.short (broadcasts : Broadcasts sender port generic packet) :
    (upperBytes port packet).length ≤ sender.platform.mib.itsGnMaxSduSize := by
  have accepted := broadcasts.accepted
  unfold Router.Accepts at accepted
  dsimp only at accepted
  have payload := ((Router.combine_eq_accepted _ _).mp accepted).2
  unfold validatePayload at payload
  dsimp only at payload
  rw [size_withHeader broadcasts.bare] at payload
  by_contra long
  rw [if_pos (not_le.mp long)] at payload
  cases payload

/-- **Its frame.** -/
theorem Broadcasts.sends (broadcasts : Broadcasts sender port generic packet) (env : Environment) :
    ∃ after, Application.request sender.platform env true port generic (some packet) sender.router =
        (.ok .accepted, after) ∧
      sender.frames (after.trace.drop sender.router.trace.length) =
        [EthernetHeader.createEthernetHeader
          ⟨cBroadcastMacAddress, sender.router.localPositionVector.gnAddr.mid, etherType⟩ ++
            ((broadcastPdu sender env port generic packet).serialize ++ upperBytes port packet)] := by
  obtain ⟨after, ran, trace⟩ := @requestShb_sends sender.platform env _ _ _ _ broadcasts.accepted
    broadcasts.unsecured rfl broadcasts.atOnce
  refine ⟨after, ?_, ?_⟩
  · unfold Application.request
    dsimp only
    rw [if_pos rfl, broadcasts.single]
    exact ran
  · rw [trace, List.drop_left]
    unfold RouterContext.frames RouterContext.passThrough
    rw [List.filterMap_cons]
    dsimp only
    rw [if_pos broadcasts.flows, request_downPacket broadcasts.bare]
    rfl

/-- A receiver does not drop it. -/
theorem Broadcasts.receivable (broadcasts : Broadcasts sender port generic packet)
    {receiver : RouterContext κ' η'} {there : Environment} {link : RawSocketLink} {source : MacAddress}
    (listens : receiver.Listens there link source
      (BitVec.ofNat 4 sender.platform.mib.itsGnProtocolVersion.toNat)) :
    Receivable receiver.platform (broadcastPdu sender env port generic packet) (upperBytes port packet) where
  unguarded := listens.unguarded
  version := listens.version
  plain := by
    show (if sender.platform.mib.itsGnSecurity then NextHeaderBasic.secured else .common) = .common
    rw [broadcasts.unsecured]
    rfl
  hops := by
    show (1 : UInt8) ≤ 1
    decide
  typed := rfl
  sized := by
    show (UInt16.ofNat (Application.withHeader port packet).size).toNat = _
    have short := broadcasts.short
    have room : 54 + sender.platform.mib.itsGnMaxSduSize ≤ 2048 := broadcasts.room
    rw [size_withHeader broadcasts.bare, UInt16.toNat_ofNat_of_lt']
    show (upperBytes port packet).length < 65536
    omega

end Delivered

/-- A station without security whose only application is enabled for port 2001. -/
def freshContext : RouterContext Unit Unit where
  platform := ⟨Mib.initial, flatland⟩
  localMid := cBroadcastMacAddress
  ignoreOwnMessages := true
  ignoreRsuMessages := true
  allowPacketFlow := true
  dispatcher := registered ⟨fun _ => 2001, fun _ => none⟩ [.enable ()]
  router := (Router.create Mib.initial 0 0).setTransportHandler .btpB true

/-- A request with the defaults of the stack. -/
def plainRequest : DataRequestGeoNetParams := ⟨.shb, none, .itsG5, 36, none, none, ⟨2⟩⟩

end Vanet.Socktap
