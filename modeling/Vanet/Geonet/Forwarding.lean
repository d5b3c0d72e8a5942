/-
**How a router transmits and forwards packets.**

`greedyForwarding`, the contention-based algorithms and their selection return a next hop, as in the
source; processing a next hop transmits its packet. A pending packet is processed by running the
action it holds.
-/

import Mathlib.Data.Rat.Floor
import Vanet.Geonet.RouterState

namespace Vanet.Geonet

open Vanet.Common Vanet.Library Vanet.Security
open Vanet.Net hiding ByteBuffer
open Act

/-- `clock_cast`, which truncates. -/
def clockCast (duration : ℚ) : ℤ := duration.num.tdiv duration.den

/-- `NextHop` in its states. -/
inductive NextHop
  | discarded
  | buffered
  | valid (packet : PendingPacketForwarding) (destination : MacAddress)

namespace Router

variable (platform : Platform) (env : Environment)

/-! ### Passing down -/

/-- `pass_down` of a request. -/
def passDown (origin : Origin) (request : Dcc.DataRequest) (pdu : VariantPdu)
    (payload : ChunkPacket) : Act Unit :=
  match pdu.secured with
  | some _ =>
    if pdu.basic.nextHeader ≠ .secured then
      throw "PDU with secured message but Secured not set in basic header"
    else if payload.sizeRange .transport .application > 0 then
      throw "PDU with secured message and illegal upper layer payload"
    else Act.emit (.passedDown origin request pdu payload)
  | none =>
    if pdu.basic.nextHeader = .secured then
      throw "PDU without secured message but Secured set in basic header"
    else Act.emit (.passedDown origin request pdu payload)

/-- `pass_down` to an address. -/
def passDownTo (origin : Origin) (addr : MacAddress) (pdu : VariantPdu) (payload : ChunkPacket) :
    Act Unit := do
  let source ← read fun router => router.localPositionVector.gnAddr.mid
  passDown origin
    { destination := addr
      source := source
      dccProfile := mapTcOntoProfile pdu.common.trafficClass
      etherType := etherType
      lifetime := pdu.basic.lifetime.decode } pdu payload

/-- Nothing is implemented for ITS-G5 yet. -/
def executeItsG5Procedures : Act Unit := pure ()

def executeMediaProcedures (comProfile : CommunicationProfile) : Act Unit :=
  match comProfile with
  | .itsG5 => executeItsG5Procedures
  | .unspecified => pure ()

/-- `encap_packet`: the upper layers of the packet move into the secured message. -/
def encapPacket {H : Type} [ExtendedHeader H] (itsAid : ItsAid) (pdu : ExtendedPdu H)
    (packet : ChunkPacket) : Act (ExtendedPdu H × ChunkPacket) := do
  let upper : OsiLayer → ByteBuffer := fun layer =>
    if layer.index < OsiLayer.transport.index then [] else packet.layer layer
  let lower : OsiLayer → ByteBuffer := fun layer =>
    if layer.index < OsiLayer.transport.index then packet.layer layer else []
  let request : EncapRequest :=
    ⟨⟨.securedPdu pdu.common (ExtendedHeader.variant pdu.extended), ⟨upper⟩⟩, itsAid⟩
  match env.securityEntity with
  | some entity =>
    let moment ← read Router.moment
    if pdu.basic.nextHeader ≠ .secured then Action.fail .assertion
    else pure ({ pdu with secured := some (entity.encapsulate moment request) }, ⟨lower⟩)
  | none => throw "security entity unavailable"

/-- Encapsulation if the router is secured. -/
def secure {H : Type} [ExtendedHeader H] (itsAid : ItsAid) (pdu : ExtendedPdu H)
    (packet : ChunkPacket) : Act (ExtendedPdu H × ChunkPacket) :=
  if platform.mib.itsGnSecurity then encapPacket env itsAid pdu packet else pure (pdu, packet)

/-- `reset_beacon_timer`. -/
def resetBeaconTimer : Act Unit :=
  modify fun router => router.resetBeaconTimerIn (env.nextBeacon router.moment)

/-- The action of a pending single-hop broadcast. -/
def processShb (packet : PendingPacketShb) : Act Unit := do
  let sourcePosition ← read localPositionVector
  let pdu := { packet.pdu with extended := { packet.pdu.extended with sourcePosition } }
  let (pdu, payload) ← secure platform env packet.action.itsAid pdu packet.payload
  executeMediaProcedures packet.action.communicationProfile
  passDownTo .shb cBroadcastMacAddress pdu.toVariant payload
  resetBeaconTimer env

/-- The action of a packet whose next hop is known. -/
def processForwarding (packet : PendingPacketForwarding) (mac : MacAddress) : Act Unit :=
  match packet.action with
  | .forward reception => do
    executeMediaProcedures platform.mib.itsGnIfType
    let source ← read fun router => router.localPositionVector.gnAddr.mid
    passDown (.forwarder reception)
      { destination := mac
        source := source
        dccProfile := .dp3
        etherType := etherType
        lifetime := packet.pdu.basic.lifetime.decode } packet.pdu.toVariant packet.payload
  | .source ctrl => do
    let sourcePosition ← read localPositionVector
    let pdu := { packet.pdu with extended := { packet.pdu.extended with sourcePosition } }
    let (pdu, payload) ← secure platform env ctrl.itsAid pdu packet.payload
    executeMediaProcedures ctrl.communicationProfile
    passDownTo .gbcSource mac pdu.toVariant payload
  | .noop => pure ()

/-- `NextHop::process`. -/
def processNextHop : NextHop → Act Unit
  | .valid packet destination => processForwarding platform env packet destination
  | _ => pure ()

/-! ### Buffers -/

def pushBroadcast (data : BufferData) : Act Unit :=
  modify fun router =>
    { router with bcForwardBuffer := (router.bcForwardBuffer.push data router.now).2 }

/-- `CbfPacket` of a packet that will be broadcast. -/
def cbfPacket (packet : PendingPacketForwarding) (sender : MacAddress) : CbfPacket GbcAction :=
  ⟨packet.withAction (.bound packet.action cBroadcastMacAddress), sender⟩

def cbfAdd (packet : PendingPacketForwarding) (sender : MacAddress) (timeout : ℤ) : Act Unit :=
  modify fun router =>
    let cbf := cbfPacket packet sender
    let node := env.allocate ((router.cbfBuffer.makeRoom cbf).timers.map TimerNode.node)
    router.withCbf (router.cbf.add flushTimer cbf timeout node)

def cbfRemove (id : PacketIdentifier) : Act Bool :=
  Action.update fun router =>
    let removed := router.cbf.remove flushTimer id
    (removed.1, router.withCbf removed.2)

def cbfUpdate (id : PacketIdentifier) (timeout : ℤ) : Act Unit :=
  modify fun router => router.withCbf (router.cbf.update id timeout)

/-! ### Forwarding algorithms -/

/-- The destination area of a GeoBroadcast packet. -/
def destinationArea (gbc : GeoBroadcastHeader) (ht : HeaderType) : Act Area :=
  match gbc.destination ht with
  | some area => pure area
  | none => throw "Invalid GBC header type"

/-- `get_position` of the location table. -/
def positionOf (mac : MacAddress) : Act (Option LongPositionVector) :=
  read fun router => router.locationTable.getPosition router.now mac

/-- The neighbour that is closest to the destination, if it is closer than the router: its address
and the smallest distance. -/
def mostForward (dest : GeodeticPosition) (own : ℚ) (neighbours : List LocationTableEntry) :
    Option MacAddress × ℚ :=
  neighbours.foldl (fun best neighbour =>
    match neighbour.positionVector with
    | some pv =>
      let dist := platform.geometry.distance dest pv.position
      if dist < best.2 then (some pv.gnAddr.mid, dist) else best
    | none => best) (none, own)

def greedyForwarding (packet : PendingPacketForwarding) : Act NextHop := do
  let router ← read id
  let dest := packet.pdu.extended.position
  let own := platform.geometry.distance dest router.localPositionVector.position
  match (mostForward platform dest own (router.locationTable.neighbours router.now)).1 with
  | some mfrAddr => pure (.valid packet mfrAddr)
  | none =>
    if packet.pdu.common.trafficClass.storeCarryForward then do
      pushBroadcast (.gbc (packet.withAction (.greedy packet.action)))
      pure .buffered
    else pure (.valid packet cBroadcastMacAddress)

/-- `timeout_cbf` of a progress. -/
def timeoutCbf (prog : ℚ) : ℤ :=
  let distMax := platform.mib.itsGnDefaultMaxCommunicationRange
  let toCbfMin := platform.mib.itsGnCbfMinTime
  let toCbfMax := platform.mib.itsGnCbfMaxTime
  if prog > distMax then toCbfMin
  else if prog > 0 then clockCast (toCbfMax + (toCbfMin - toCbfMax : ℚ) / distMax * prog)
  else toCbfMax

/-- `timeout_cbf` of a sender. -/
def timeoutCbfSender (sender : MacAddress) : Act ℤ := do
  let here ← read localPositionVector
  let pvSe ← positionOf sender
  pure <|
    match pvSe with
    | some pv =>
      if pv.positionAccuracyIndicator then
        timeoutCbf platform (platform.geometry.distance pv.position here.position)
      else platform.mib.itsGnCbfMaxTime
    | none => platform.mib.itsGnCbfMaxTime

def nonAreaContentionBasedForwarding (packet : PendingPacketForwarding)
    (sender : Option MacAddress) : Act NextHop := do
  match sender with
  | none => pure (.valid packet cBroadcastMacAddress)
  | some sender => do
    let removed ← cbfRemove packet.pdu.extended.identifier
    if removed then pure .discarded
    else do
      let destination ← destinationArea packet.pdu.extended packet.pdu.common.headerType
      let here ← read localPositionVector
      let pvSe ← positionOf sender
      match pvSe.filter LongPositionVector.positionAccuracyIndicator with
      | some pv =>
        let distSender := platform.geometry.distance destination.position pv.position
        let distLocal := platform.geometry.distance destination.position here.position
        if distSender > distLocal then do
          cbfAdd env packet sender (timeoutCbf platform (distSender - distLocal))
          pure .buffered
        else pure .discarded
      | none => do
        cbfAdd env packet sender platform.mib.itsGnCbfMaxTime
        pure .buffered

def areaContentionBasedForwarding (packet : PendingPacketForwarding) (sender : Option MacAddress) :
    Act NextHop := do
  match sender with
  | none => pure (.valid packet cBroadcastMacAddress)
  | some sender => do
    let id := packet.pdu.extended.identifier
    let removed ← cbfRemove id
    let counter ← read fun router => router.cbf.counter id
    if removed ∨ counter ≥ platform.mib.vanetzaCbfMaxCounter then pure .discarded
    else do
      let timeout ← timeoutCbfSender platform sender
      cbfAdd env packet sender timeout
      pure .buffered

/-- The positions of sender, forwarder and router are the corners of a triangle. -/
def outsideSectorialContentionArea (sender forwarder : MacAddress) : Act Bool := do
  let here ← read localPositionVector
  let positionSender ← positionOf sender
  let positionForwarder ← positionOf forwarder
  pure <|
    match positionSender, positionForwarder with
    | some s, some f =>
      let distR := platform.geometry.distance s.position here.position
      let distF := platform.geometry.distance f.position s.position
      let distMax := platform.mib.itsGnDefaultMaxCommunicationRange
      let distRf := platform.geometry.distance f.position here.position
      let angleFsr : Option ℚ :=
        if distR > 0 ∧ distF > 0 then
          platform.geometry.acos
            ((distRf * distRf - distR * distR - distF * distF) / (-2 * distR * distF))
        else some 0
      !(distR < distF ∧ distF < distMax ∧
        angleFsr.any fun angle => angle < platform.mib.itsGnBroadcastCBFDefSectorAngle)
    | _, _ => true

def areaAdvancedForwarding (packet : PendingPacketForwarding) (ll : Option LinkLayer) :
    Act NextHop := do
  match ll with
  | none => pure (.valid packet cBroadcastMacAddress)
  | some ll => do
    let id := packet.pdu.extended.identifier
    let router ← read fun router => router
    match router.cbfBuffer.find id with
    | some cbf =>
      if router.cbf.counter id ≥ platform.mib.vanetzaCbfMaxCounter then do
        let _ ← cbfRemove id
        pure .discarded
      else do
        let outside ← outsideSectorialContentionArea platform cbf.sender ll.sender
        if !outside then do
          let _ ← cbfRemove id
          pure .discarded
        else do
          let timeout ← timeoutCbfSender platform ll.sender
          cbfUpdate id timeout
          pure .buffered
    | none =>
      if ll.destination = router.localPositionVector.gnAddr.mid then do
        let nh ← greedyForwarding platform packet.duplicate
        match nh with
        | .valid _ mac =>
          -- a packet that greedy forwarding broadcasts contends without being broadcast once more
          if mac = cBroadcastMacAddress then
            cbfAdd env (packet.withAction .noop) ll.sender platform.mib.itsGnCbfMaxTime
          else cbfAdd env packet ll.sender platform.mib.itsGnCbfMaxTime
        | _ => cbfAdd env packet ll.sender platform.mib.itsGnCbfMaxTime
        pure nh
      else do
        let timeout ← timeoutCbfSender platform ll.sender
        cbfAdd env packet ll.sender timeout
        pure .buffered

def forwardingAlgorithmSelection (packet : PendingPacketForwarding) (ll : Option LinkLayer) :
    Act NextHop := do
  let destination ← destinationArea packet.pdu.extended packet.pdu.common.headerType
  let here ← read localPositionVector
  if platform.geometry.insideOrAtBorder destination here.position then
    match platform.mib.itsGnAreaForwardingAlgorithm with
    | .unspecified => pure (.valid packet cBroadcastMacAddress)
    | .simple => pure (.valid packet cBroadcastMacAddress)
    | .cbf => areaContentionBasedForwarding platform env packet (ll.map LinkLayer.sender)
    | .advanced => areaAdvancedForwarding platform env packet ll
  else do
    let pvSe ← read fun router =>
      ll.bind fun ll => router.locationTable.getPosition router.now ll.sender
    if pvSe.any fun pv =>
        pv.positionAccuracyIndicator ∧ platform.geometry.insideOrAtBorder destination pv.position then do
      Act.emit (.forwardingStopped .outsideDestinationArea)
      pure .discarded
    else
      match platform.mib.itsGnNonAreaForwardingAlgorithm with
      | .unspecified => greedyForwarding platform packet
      | .greedy => greedyForwarding platform packet
      | .cbf => nonAreaContentionBasedForwarding platform env packet (ll.map LinkLayer.sender)

/-! ### Processing pending packets -/

/-- `PendingPacket::process` of a GeoBroadcast packet. -/
def processGbc (packet : PendingPacketGbc) : Act Unit :=
  match packet.action with
  | .forwarding transmit ll => do
    let nh ← forwardingAlgorithmSelection platform env (packet.withAction transmit) ll
    processNextHop platform env nh
  | .greedy transmit => do
    let nh ← greedyForwarding platform (packet.withAction transmit)
    processNextHop platform env nh
  | .bound transmit mac => processForwarding platform env (packet.withAction transmit) mac

/-- `PendingPacketBufferData::flush`. -/
def processData : BufferData → Act Unit
  | .shb packet => processShb platform env packet
  | .gbc packet => processGbc platform env packet

/-- Process one after the other, until one fails. -/
def processAll {δ : Type} (process : δ → Act Unit) : List δ → Act Unit
  | [] => pure ()
  | data :: rest => do
    process data
    processAll process rest

/-- `flush_broadcast_forwarding_buffer`. -/
def flushBroadcastForwardingBuffer : Act Unit := do
  let data ← Action.update fun router =>
    (router.bcForwardBuffer.flushed router.now,
      { router with bcForwardBuffer := router.bcForwardBuffer.clear })
  processAll (processData platform env) data

/-- `flush_unicast_forwarding_buffer`, which flushes the packets of all sources. -/
def flushUnicastForwardingBuffer : Act Unit := do
  let data ← Action.update fun router =>
    (router.ucForwardBuffer.flushed router.now,
      { router with ucForwardBuffer := router.ucForwardBuffer.clear })
  processAll (processData platform env) data

end Router

end Vanet.Geonet
