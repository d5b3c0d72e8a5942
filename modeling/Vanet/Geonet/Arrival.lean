/-
**What arrives of a packet.**

A PDU without a secured message travels as bytes, and a link may pad them. Whatever follows the payload is
trimmed, so a receiver goes on with the headers that were sent and with the payload.

* `Arrives.indicate_eq`: an indication of what arrives is the router's housekeeping and the visit of the
  parsed PDU. Of a DCC field only its bits are left.
* `requestShb_sends`: a single-hop broadcast that is accepted and does not have to wait is handed over once.
* `indicate_shb`: a single-hop broadcast that arrives is passed up once, and with what its source had sent.
-/

import Vanet.Geonet.EnduringRuns
import Vanet.Geonet.HeaderCodec

namespace Vanet.Net

/-- The packet with these headers in its network layer and their payload above. -/
def CohesivePacket.withUpper (packet : CohesivePacket) (headers upper : ByteBuffer) : CohesivePacket where
  layer
    | .network => headers
    | .transport => upper
    | other => packet.layer other

end Vanet.Net

namespace Vanet.Geonet

open Vanet.Common Vanet.Library Vanet.Security
open Vanet.Net hiding ByteBuffer
open Act Router

/-! ### Headers -/

namespace HeaderVariant

/-- The header as it is read. -/
def readBack : HeaderVariant → HeaderVariant
  | shb header => shb header.readBack
  | other => other

/-- The type in the common header tells this kind. -/
def HasType (ht : HeaderType) : HeaderVariant → Prop
  | shb _ => ht = .tsbSingleHop
  | geoBroadcast _ => ht = .geoBroadcastCircle ∨ ht = .geoBroadcastRect ∨ ht = .geoBroadcastElip
  | beacon _ => ht = .beacon

theorem length_serialize (extended : HeaderVariant) : extended.serialize.length = extended.getLength := by
  cases extended with
  | shb header => exact header.length_serialize
  | geoBroadcast header => exact header.length_serialize
  | beacon header => exact header.sourcePosition.length_serialize

end HeaderVariant

namespace Parser

variable {parser : Parser} {rest : ByteBuffer}

/-- **A header at the front** is taken. -/
theorem parse_front {α : Type} {deserialize : Read α} {length : ℕ} {bytes : ByteBuffer} {value : α}
    (restores : Reader.Restores deserialize bytes value) (positive : 0 < length)
    (front : parser.archive.unread = bytes ++ rest) :
    ∃ after, parser.parse (counted deserialize length) = .ok (some value, after) ∧
      after.archive.unread = rest ∧ after.readBytes = parser.readBytes + length := by
  have counts : Reader.Restores (counted deserialize length) bytes (value, length) := restores.map .pure
  obtain ⟨taken, ran⟩ := counts rest parser.archive.notes
  have begins : parser.archive = ⟨bytes ++ rest, parser.archive.notes⟩ := by rw [← front]
  refine ⟨⟨⟨rest, taken⟩, parser.readBytes + length⟩, ?_, rfl, rfl⟩
  unfold Parser.parse
  rw [begins, ran]
  dsimp only
  rw [if_pos positive]

theorem parseExtended_front {ht : HeaderType} {extended : HeaderVariant} (typed : extended.HasType ht)
    (front : parser.archive.unread = extended.serialize ++ rest) :
    ∃ after, parser.parseExtended ht = .ok (some extended.readBack, after) ∧
      after.archive.unread = rest ∧ after.readBytes = parser.readBytes + extended.getLength := by
  unfold parseExtended
  cases extended with
  | shb header =>
    have single : ht = .tsbSingleHop := typed
    rw [if_pos single]
    exact parse_front (header.restores.map .pure) (by decide) front
  | geoBroadcast header =>
    have geo : ht = .geoBroadcastCircle ∨ ht = .geoBroadcastRect ∨ ht = .geoBroadcastElip := typed
    have another : ht ≠ .tsbSingleHop := by
      rintro rfl
      revert geo
      decide
    rw [if_neg another, if_pos geo]
    exact parse_front (header.restores.map .pure) (by decide) front
  | beacon header =>
    have beacon : ht = .beacon := typed
    rw [beacon, if_neg (by decide), if_neg (by decide), if_pos rfl]
    exact parse_front (header.restores.map .pure) (by decide) front

end Parser

/-! ### Packets -/

/-- **A PDU and its payload arrive** as the bytes of a network layer, with some padding behind. -/
structure Arrives (pdu : VariantPdu) (upper padding : ByteBuffer) (packet : CohesivePacket) : Prop where
  unsecured : pdu.secured = none
  network : packet.layer .network = pdu.serialize ++ (upper ++ padding)
  alone : ∀ layer, OsiLayer.network.index < layer.index → packet.layer layer = []

/-- **A PDU that a receiver does not drop.** -/
structure Receivable (platform : Platform) (pdu : VariantPdu) (upper : ByteBuffer) : Prop where
  unguarded : platform.mib.itsGnSecurity = false ∨
    platform.mib.itsGnSnDecapResultHandling = .nonStrict
  version : pdu.basic.version.toNat = platform.mib.itsGnProtocolVersion.toNat
  plain : pdu.basic.nextHeader = .common
  hops : pdu.basic.hopLimit ≤ pdu.common.maximumHopLimit
  typed : pdu.extended.HasType pdu.common.headerType
  sized : pdu.common.payload.toNat = upper.length

/-- The PDU as it is read. -/
def ExtendedPdu.readBack (pdu : VariantPdu) : VariantPdu := { pdu with extended := pdu.extended.readBack }

/-- What an indication tells before the extended header is looked at. -/
def plainIndication (pdu : VariantPdu) : DataIndication :=
  { DataIndication.empty with
    upperProtocol := upperProtocolOf pdu.common.nextHeader
    securityReport := some .unsignedMessage
    trafficClass := some pdu.common.trafficClass
    remainingPacketLifetime := some pdu.basic.lifetime
    remainingHopLimit := some pdu.basic.hopLimit }

section Arrival

variable {platform : Platform} {env : Environment} {reception : ℕ} {ll : LinkLayer} {pdu : VariantPdu}
  {upper padding : ByteBuffer} {packet : CohesivePacket}

theorem length_serialize_unsecured (unsecured : pdu.secured = none) :
    pdu.serialize.length =
      BasicHeader.lengthBytes + CommonHeader.lengthBytes + pdu.extended.getLength := by
  have basic : pdu.basic.serialize.length = BasicHeader.lengthBytes :=
    BasicHeader.codec.length_serialize pdu.basic
  have common : pdu.common.serialize.length = CommonHeader.lengthBytes := pdu.common.length_serialize
  have extended : (ExtendedHeader.variant pdu.extended).serialize.length = pdu.extended.getLength :=
    pdu.extended.length_serialize
  unfold ExtendedPdu.serialize
  rw [unsecured]
  dsimp only
  rw [List.length_append, List.length_append, basic, common, extended, Nat.add_assoc]

/-- **The padding is cut off.** -/
theorem Arrives.finish (arrives : Arrives pdu upper padding packet) (parser : Parser)
    (read : parser.readBytes = pdu.serialize.length) :
    (BasicContext.deserialize packet parser).finish upper.length =
      .ok (.cohesive (packet.withUpper pdu.serialize upper)) := by
  have enough : parser.readBytes ≤ (packet.layer .network).length := by
    rw [arrives.network, read, List.length_append]
    exact Nat.le_add_right _ _
  unfold BasicContext.finish CohesivePacket.setBoundary
  dsimp only
  rw [if_pos enough, arrives.network, read, List.take_left, List.drop_left,
    arrives.alone .transport (by decide), List.append_nil]
  dsimp only
  refine congrArg (fun layer => Except.ok (UpPacket.cohesive ⟨layer⟩)) (funext fun layer => ?_)
  cases layer with
  | physical => rfl
  | link => rfl
  | network => rfl
  | transport =>
    show (upper ++ padding).take (upper.length - 0) = upper
    rw [Nat.sub_zero, List.take_left]
  | _ =>
    show (packet.layer _).take _ = packet.layer _
    rw [arrives.alone _ (by decide), List.take_nil]

/-- **The headers of an unsecured PDU are parsed** as they were written. -/
theorem parse_unsecured {rest : ByteBuffer} (unsecured : pdu.secured = none)
    (typed : pdu.extended.HasType pdu.common.headerType)
    (network : packet.layer .network = pdu.serialize ++ rest) :
    ∃ first second third : Parser,
      BasicContext.parseBasic (.deserialize packet (.start (packet.layer .network))) =
        .ok (some pdu.basic, .deserialize packet first) ∧
      IndicationContext.parseCommon (.basic (.deserialize packet first)) =
        .ok (some pdu.common, .basic (.deserialize packet second)) ∧
      IndicationContext.parseExtended pdu.common.headerType (.basic (.deserialize packet second)) =
        .ok (some pdu.extended.readBack, .basic (.deserialize packet third)) ∧
      third.readBytes = pdu.serialize.length := by
  have front : (Parser.start (packet.layer .network)).archive.unread =
      pdu.basic.serialize ++ (pdu.common.serialize ++ (pdu.extended.serialize ++ rest)) := by
    show packet.layer .network = _
    rw [network]
    unfold ExtendedPdu.serialize
    rw [unsecured, List.append_assoc, List.append_assoc]
    rfl
  obtain ⟨first, parsedBasic, restBasic, readBasic⟩ :=
    Parser.parse_front pdu.basic.restores (by decide : 0 < BasicHeader.lengthBytes) front
  obtain ⟨second, parsedCommon, restCommon, readCommon⟩ :=
    Parser.parse_front pdu.common.restores (by decide : 0 < CommonHeader.lengthBytes) restBasic
  obtain ⟨third, parsedExtended, _, readExtended⟩ := Parser.parseExtended_front typed restCommon
  refine ⟨first, second, third, ?_, ?_, ?_, ?_⟩
  · unfold BasicContext.parseBasic Parser.parseBasic
    dsimp only
    rw [parsedBasic]
    rfl
  · unfold IndicationContext.parseCommon Parser.parseCommon
    dsimp only
    rw [parsedCommon]
    rfl
  · unfold IndicationContext.parseExtended
    dsimp only
    rw [parsedExtended]
    rfl
  · rw [readExtended, readCommon, readBasic, length_serialize_unsecured unsecured]
    exact congrArg (· + _ + _) (Nat.zero_add _)

/-- **An indication** of what arrives. -/
theorem Arrives.indicate_eq (arrives : Arrives pdu upper padding packet)
    (receivable : Receivable platform pdu upper) :
    indicate platform env reception (.cohesive packet) ll =
      (do
        dropExpired
        flushBroadcastForwardingBuffer platform env
        visitParsed platform env reception pdu.readBack (.cohesive (packet.withUpper pdu.serialize upper)) ll
          (plainIndication pdu)) := by
  obtain ⟨first, second, third, opens, follows, ends, read⟩ :=
    parse_unsecured arrives.unsecured receivable.typed arrives.network
  have finishes := arrives.finish third read
  have extended : indicateExtended platform env reception (.basic (.deserialize packet second)) pdu.basic
      pdu.common none ll (plainIndication pdu) =
        visitParsed platform env reception pdu.readBack (.cohesive (packet.withUpper pdu.serialize upper)) ll
          (plainIndication pdu) := by
    have whole : (UpPacket.cohesive (packet.withUpper pdu.serialize upper)).sizeRange .transport .application =
        upper.length := by
      show upper.length + ((packet.layer .session).length + ((packet.layer .presentation).length +
        ((packet.layer .application).length + 0))) = upper.length
      rw [arrives.alone .session (by decide), arrives.alone .presentation (by decide),
        arrives.alone .application (by decide)]
      rfl
    unfold indicateExtended
    rw [Action.lift_bind ends]
    show (Action.lift (IndicationContext.finish pdu.common.payload.toNat
      (.basic (.deserialize packet third))) >>= _) = _
    rw [receivable.sized, Action.lift_bind (show IndicationContext.finish upper.length
      (.basic (.deserialize packet third)) = _ from finishes)]
    dsimp only
    rw [if_neg (not_not.mpr whole.symm), ← arrives.unsecured]
    rfl
  unfold indicate
  rw [Action.lift_bind (rfl : BasicContext.ofPacket (.cohesive packet) = _)]
  unfold indicateBasic
  rw [Action.lift_bind opens]
  dsimp only
  rw [if_neg (not_not.mpr receivable.version), receivable.plain, if_neg (by decide), if_pos rfl,
    if_pos (receivable.unguarded.imp_left fun off => by rw [off]; rfl)]
  unfold indicateCommon
  rw [Action.lift_bind follows]
  dsimp only
  rw [if_neg (UInt8.not_lt.mpr receivable.hops)]
  rw [← extended]
  rfl

end Arrival

/-! ### Single-hop broadcasts -/

section SingleHop

variable {platform : Platform} {env : Environment}

/-- **The PDU of a single-hop broadcast**, as it is handed over. -/
def sentShb (platform : Platform) (request : DataRequest) (common : CommonHeader) (header : ShbHeader)
    (payload : ChunkPacket) : VariantPdu where
  basic := { BasicHeader.ofRequest request platform.mib with hopLimit := 1 }
  common := { common with
    headerType := .tsbSingleHop
    maximumHopLimit := 1
    payload := UInt16.ofNat payload.size }
  extended := .shb header
  secured := none

/-- The repeater adds nothing to the trace. -/
theorem repeaterAdd_trace (request : DataRequestVariant) (payload : ChunkPacket) (router : Router) :
    (repeaterAdd request payload router).2.trace = router.trace := by
  unfold repeaterAdd Act.modify Action.update
  dsimp only
  cases request.request.repetition with
  | none => rfl
  | some repetition =>
    dsimp only
    split_ifs <;> rfl

/-- The request to the access layer for a broadcast. -/
def shbRequest (router : Router) (trafficClass : TrafficClass) (lifetime : Lifetime) :
    Dcc.DataRequest where
  destination := cBroadcastMacAddress
  source := router.localPositionVector.gnAddr.mid
  dccProfile := mapTcOntoProfile trafficClass
  etherType := etherType
  lifetime := lifetime.decode

/-- A single-hop broadcast that is not secured is handed over. -/
theorem processShb_sends {packet : PendingPacketShb} (unsecured : platform.mib.itsGnSecurity = false)
    (prepared : Prepared platform packet.pdu) (router : Router) :
    ∃ after, processShb platform env packet router = (.ok (), after) ∧
      after.trace = router.trace ++ [.passedDown .shb
        (shbRequest router packet.pdu.common.trafficClass packet.pdu.basic.lifetime)
        ⟨packet.pdu.basic, packet.pdu.common,
          .shb { packet.pdu.extended with sourcePosition := router.localPositionVector }, none⟩
        packet.payload] := by
  let pdu : ShbPdu :=
    { packet.pdu with
      extended := { packet.pdu.extended with sourcePosition := router.localPositionVector } }
  let sent : Router := router.emit (.passedDown .shb
    (shbRequest router packet.pdu.common.trafficClass packet.pdu.basic.lifetime) pdu.toVariant
    packet.payload)
  have plain : pdu.toVariant.basic.nextHeader ≠ .secured := by
    rw [show pdu.toVariant.basic.nextHeader = _ from prepared.flagged, unsecured]
    decide
  have secured : secure platform env packet.action.itsAid pdu packet.payload router =
      (.ok (pdu, packet.payload), router) := by
    unfold secure
    rw [unsecured]
    rfl
  have passed : passDownTo .shb cBroadcastMacAddress pdu.toVariant packet.payload router =
      (.ok (), sent) := by
    unfold passDownTo
    rw [Act.read_bind]
    unfold passDown
    rw [show pdu.toVariant.secured = none from prepared.unsecured]
    dsimp only
    rw [if_neg plain]
    rfl
  refine ⟨sent.resetBeaconTimerIn (env.nextBeacon sent.moment), ?_, ?_⟩
  · unfold processShb
    rw [Act.read_bind]
    refine (Action.bind_of_ok secured).trans ?_
    exact (Action.bind_of_ok (executeMediaProcedures_ok _)).trans (Action.bind_of_ok passed)
  · have same : pdu.toVariant = ⟨packet.pdu.basic, packet.pdu.common,
        .shb { packet.pdu.extended with sourcePosition := router.localPositionVector }, none⟩ :=
      congrArg (ExtendedPdu.mk _ _ _) prepared.unsecured
    rw [← same]
    rfl

/-- **A single-hop broadcast that need not wait** is handed over, to everyone, with the position vector and
the DCC field of the moment. -/
theorem requestShb_sends {request : DataRequest} {payload : ChunkPacket} {common : CommonHeader}
    {router : Router} (accepted : Accepts platform (.shb request) (some payload))
    (unsecured : platform.mib.itsGnSecurity = false)
    (known : CommonHeader.ofRequest request platform.mib = some common)
    (atOnce : ¬ Waits router request.trafficClass) :
    ∃ after, requestShb platform env request (some payload) router = (.ok .accepted, after) ∧
      after.trace = router.trace ++ [.passedDown .shb
        (shbRequest router request.trafficClass request.maximumLifetime)
        (sentShb platform request common ⟨router.localPositionVector, env.dccField router.moment⟩ payload)
        payload] := by
  obtain ⟨stored, added, alike, -, -, -⟩ := repeaterAdd_ok (.shb request) payload router
  have trace : stored.trace = router.trace := by
    rw [← repeaterAdd_trace (.shb request) payload router, added]
  let pdu : ShbPdu :=
    { basic := { BasicHeader.ofRequest request platform.mib with hopLimit := 1 }
      common := { common with headerType := .tsbSingleHop, maximumHopLimit := 1 }
      extended := ⟨stored.localPositionVector, env.dccField stored.moment⟩
      secured := none }
  have created : createShbPdu platform env request stored = (.ok pdu, stored) := by
    unfold createShbPdu commonHeaderOf
    rw [known]
    rfl
  have traffic : common.trafficClass = request.trafficClass := by
    unfold CommonHeader.ofRequest at known
    obtain ⟨nextHeader, _, rfl⟩ := Option.map_eq_some_iff.mp known
    rfl
  let packet : PendingPacketShb := ⟨withPayloadSize pdu payload, payload,
    ⟨request.itsAid, request.communicationProfile⟩⟩
  obtain ⟨after, processed, sent⟩ := @processShb_sends platform env packet unsecured ⟨rfl, rfl⟩ stored
  refine ⟨after, ?_, ?_⟩
  · unfold Accepts at accepted
    unfold requestShb
    dsimp only
    rw [if_pos accepted, Action.bind_of_ok added, Action.bind_of_ok created, Act.read_bind, accepted]
    have transmits : ¬ Waits stored request.trafficClass := fun waits => atOnce ((alike.waits _).mp waits)
    unfold Waits at transmits
    rw [if_neg transmits, Action.bind_of_ok processed]
    rfl
  · have moment : stored.moment = router.moment := congrArg List.length trace
    rw [sent, trace]
    unfold shbRequest sentShb
    rw [alike.position, ← moment, ← traffic]
    rfl

/-- What an indication tells of a single-hop broadcast. -/
def shbIndication (pdu : VariantPdu) (header : ShbHeader) : DataIndication :=
  { plainIndication pdu with
    transportType := some .shb
    sourcePosition := some header.sourcePosition.short }

/-- The visit of a single-hop broadcast passes it up. -/
theorem visitParsed_shb {pdu : VariantPdu} {header : ShbHeader} (single : pdu.extended = .shb header)
    {reception : ℕ} {ll : LinkLayer} {packet : UpPacket} {indication : DataIndication} (router : Router)
    (handled : router.transportHandler indication.upperProtocol = true) :
    ∃ after, visitParsed platform env reception pdu packet ll indication router = (.ok (), after) ∧
      after.trace = router.trace ++ [.passedUp (.shb header)
        { indication with
          transportType := some .shb
          sourcePosition := some header.sourcePosition.short } packet] := by
  have learns : Learns router (processExtendedShb platform env header packet ll router).2 :=
    learns_processExtendedShb header packet ll router
  obtain ⟨table, lpv, learned⟩ := learns
  let learnt : Router := { router with locationTable := table, localPositionVector := lpv }
  let told : DataIndication := { indication with
    transportType := some .shb
    sourcePosition := some header.sourcePosition.short }
  have processed : processExtendedShb platform env header packet ll router = (.ok true, learnt) :=
    Prod.ext rfl learned
  have visited : visitExtended platform env reception pdu packet ll indication router =
      (.ok (true, told), learnt) := by
    unfold visitExtended
    rw [single]
    exact Action.bind_of_ok processed
  refine ⟨learnt.emit (.passedUp (.shb header) told packet), (Action.bind_of_ok visited).trans ?_, rfl⟩
  show passUp pdu.extended told packet learnt = _
  unfold passUp
  rw [Act.read_bind, single]
  show (if router.transportHandler indication.upperProtocol then _ else _ : Act Unit) learnt = _
  rw [handled]
  rfl

/-- **A single-hop broadcast that arrives** is passed up once, behind the expiry of location table entries
and whatever has been waiting for a neighbour. -/
theorem indicate_shb {pdu : VariantPdu} {header : ShbHeader} {upper padding : ByteBuffer}
    {packet : CohesivePacket} (arrives : Arrives pdu upper padding packet)
    (receivable : Receivable platform pdu upper) (single : pdu.extended = .shb header) {router : Router}
    (fit : Fit platform router) (present : ¬ SecurityMissing platform env)
    (handled : router.transportHandler (upperProtocolOf pdu.common.nextHeader) = true) (reception : ℕ)
    (ll : LinkLayer) :
    ∃ after expired flushed,
      indicate platform env reception (.cohesive packet) ll router = (.ok (), after) ∧
      (∀ event ∈ flushed, event.isSending = true) ∧
      after.trace = router.trace ++ (.expired expired :: flushed ++ [.passedUp (.shb header.readBack)
        (shbIndication pdu header) (.cohesive (packet.withUpper pdu.serialize upper))]) := by
  obtain ⟨macs, fresh, dropped, traced, waiting, kept⟩ : ∃ macs fresh,
      dropExpired router = (.ok (), fresh) ∧ fresh.trace = router.trace ++ [.expired macs] ∧
        Fit platform fresh ∧ fresh.transportHandler = router.transportHandler :=
    ⟨_, _, rfl, rfl, Stocked.emit (fit.learns ⟨_, router.localPositionVector, rfl⟩)
      (Event.sent_of_silent fun _ _ _ _ => Event.noConfusion), rfl⟩
  obtain ⟨_, flushed, ran, _⟩ := Succeeds.ok (succeeds_flushBroadcastForwardingBuffer present) waiting
  have quiet : Quiet fresh (flushBroadcastForwardingBuffer platform env fresh).2 :=
    calm_flushBroadcastForwardingBuffer fresh
  rw [ran] at quiet
  obtain ⟨events, sent, sending⟩ := quiet.trace
  have still : flushed.transportHandler (plainIndication pdu).upperProtocol = true := by
    rw [quiet.handler, kept]
    exact handled
  have read : pdu.readBack.extended = .shb header.readBack := congrArg HeaderVariant.readBack single
  obtain ⟨after, visited, passed⟩ := visitParsed_shb read flushed still
  refine ⟨after, macs, events, ?_, sending, ?_⟩
  · rw [arrives.indicate_eq receivable, Action.bind_of_ok dropped, Action.bind_of_ok ran]
    exact visited
  · rw [passed, sent, traced, List.append_assoc, List.append_assoc]
    rfl

end SingleHop

end Vanet.Geonet
