/-
**The indication of a received packet.**

A packet goes through its basic header, its secured message if it has one, its common header and its
extended header; the GeoBroadcast operations of a receiver and forwarder come last. `reception` is
the number of the packet among those that the router has received.
-/

import Vanet.Geonet.Forwarding

namespace Vanet.Geonet

open Vanet.Common Vanet.Library Vanet.Security
open Vanet.Net hiding ByteBuffer
open Act

namespace Router

variable (platform : Platform) (env : Environment) (reception : ℕ)

/-! ### Duplicate detection -/

/-- `detect_duplicate_address`. -/
def detectDuplicateAddress (source : Address) (sender : MacAddress) : Act Unit :=
  modify fun router =>
    let addr := router.localPositionVector.gnAddr
    if platform.mib.itsGnLocalAddrConfMethod = .auto ∧ (source = addr ∨ sender = addr.mid) then
      { router with
        localPositionVector := { router.localPositionVector with
          gnAddr := { addr with mid := env.randomMac } } }
    else router

/-- `detect_duplicate_packet`: an entry without a list gets one. -/
def detectDuplicatePacket (addrSo : Address) (sn : SequenceNumber) : Act Bool :=
  Action.update fun router =>
    let found := router.locationTable.getOrCreateEntry router.now addrSo.mid
    let dpl := found.1.extensions.duplicatePacketList.getD (.empty platform.mib.itsGnDPLLength)
    let checked := dpl.check sn
    (checked.1, { router with
      locationTable := found.2.modify addrSo.mid fun entry =>
        { entry with extensions := { entry.extensions with
          duplicatePacketList := some checked.2 } } })

/-! ### Location table -/

/-- The location table is updated with a source's position vector, and its entry changes further. -/
def updateSource (lpv : LongPositionVector) (change : LocationTableEntry → LocationTableEntry) :
    Act Unit :=
  modify fun router =>
    { router with
      locationTable := (router.locationTable.update router.now lpv).modify lpv.gnAddr.mid change }

/-- `drop_expired`. -/
def dropExpired : Act Unit :=
  modify fun router =>
    let expired := (router.locationTable.map.entries.filter fun entry =>
      router.locationTable.isExpired router.now entry.2.handle).map Sigma.fst
    { router with locationTable := router.locationTable.dropExpired router.now }.emit
      (.expired expired)

/-! ### Extended headers -/

/-- `update_pdr` of the source. -/
def withPdr (now : ℤ) (packet : UpPacket) (entry : LocationTableEntry) : LocationTableEntry :=
  entry.updatePdr now (packet.sizeRange .network .application)
    platform.mib.itsGnMaxPacketDataRateEmaBeta

/-- The media-dependent extension of the source's entry. -/
def withLocTex (now : ℤ) (shb : ShbHeader) (entry : LocationTableEntry) : LocationTableEntry :=
  if platform.mib.itsGnIfType = .itsG5 then
    { entry with extensions := { entry.extensions with
      locTexG5 := some ⟨.ofTimePoint now, shb.sourcePosition.timestamp, getDccMco shb.dcc⟩ } }
  else entry

/-- `process_extended` of a single-hop broadcast. -/
def processExtendedShb (shb : ShbHeader) (packet : UpPacket) (ll : LinkLayer) : Act Bool := do
  detectDuplicateAddress platform env shb.sourcePosition.gnAddr ll.sender
  let now ← read now
  updateSource shb.sourcePosition fun entry =>
    withLocTex platform now shb ((withPdr platform now packet entry).setNeighbourFor now true
      platform.mib.vanetzaNeighbourFlagExpiry)
  pure true

/-- `process_extended` of a beacon. -/
def processExtendedBeacon (beacon : BeaconHeader) (packet : UpPacket) (ll : LinkLayer) :
    Act Bool := do
  detectDuplicateAddress platform env beacon.sourcePosition.gnAddr ll.sender
  let now ← read now
  updateSource beacon.sourcePosition fun entry =>
    (withPdr platform now packet entry).setNeighbourFor now true
      platform.mib.vanetzaNeighbourFlagExpiry
  pure false

/-- Whether the router's algorithm for a packet asks for duplicates. -/
def asksForDuplicates (within : Bool) : Bool :=
  if within then
    platform.mib.itsGnAreaForwardingAlgorithm = .unspecified ∨
      platform.mib.itsGnAreaForwardingAlgorithm = .simple
  else
    platform.mib.itsGnNonAreaForwardingAlgorithm = .unspecified ∨
      platform.mib.itsGnNonAreaForwardingAlgorithm = .greedy

/-- Whether a packet data rate is above the maximum. The rate of an entry without one is no number. -/
def exceedsPdr (pdr : Option ℚ) : Bool :=
  pdr.any fun rate : ℚ => rate > platform.mib.itsGnMaxPacketDataRate.toNat * 1000

/-- Why a packet is not forwarded. The largest rate stands for no limit. -/
def stopReason (router : Router) (pdu : GbcPdu) (ll : LinkLayer) : Option ForwardingStopReason :=
  let source := router.locationTable.getDataPtr pdu.extended.sourcePosition.gnAddr.mid
  let sender := router.locationTable.getValuePtr router.now ll.sender
  if pdu.basic.hopLimit ≤ 1 then some .hopLimit
  else if platform.mib.itsGnMaxPacketDataRate < 0xffffffff then
    if exceedsPdr platform (source.bind fun data => data.value.pdr) then some .sourcePdr
    else if exceedsPdr platform (sender.bind fun entry => entry.pdr) then some .senderPdr
    else none
  else none

/-- `create_forwarding_duplicate` of a received packet, with the hop limit decremented. -/
def forwardingDuplicate (pdu : GbcPdu) (packet : UpPacket) (ll : LinkLayer) : PendingPacketGbc where
  pdu := { pdu with basic := { pdu.basic with hopLimit := pdu.basic.hopLimit - 1 } }
  payload := if pdu.secured.isSome then .empty else packet.duplicate
  action := .forwarding (.forward reception) (some ll)

/-- Steps 9b to 14. -/
def forwardReceived (pdu : GbcPdu) (packet : UpPacket) (ll : LinkLayer) : Act Unit := do
  let fwdPacket := forwardingDuplicate reception pdu packet ll
  let neighbours ← read fun router => router.locationTable.hasNeighbours router.now
  if pdu.common.trafficClass.storeCarryForward ∧ !neighbours then pushBroadcast (.gbc fwdPacket)
  else processGbc platform env fwdPacket

def decidePassUp (withinDestination : Bool) (gbc : GeoBroadcastHeader) : Act Bool :=
  if platform.mib.vanetzaGbcMemoryCapacity = 0 then pure withinDestination
  else if withinDestination then
    Action.update fun router =>
      let remembered := router.gbcMemory.remember gbc.identifier
      (!remembered.1, { router with gbcMemory := remembered.2 })
  else pure false

/-- Step 4, which is optional. -/
def detectMultiHopDuplicateAddress (source : Address) (sender : MacAddress) : Act Unit :=
  if platform.mib.vanetzaMultiHopDuplicateAddressDetection then
    detectDuplicateAddress platform env source sender
  else pure ()

/-- Steps 5 and 6: an entry that did not exist before is no neighbour. -/
def updateGbcSource (gbc : GeoBroadcastHeader) (packet : UpPacket) (locteExists : Bool) :
    Act Unit := do
  let now ← read now
  updateSource gbc.sourcePosition fun entry =>
    if locteExists then withPdr platform now packet entry
    else (withPdr platform now packet entry).setNeighbour false

/-- Steps 9 to 14. -/
def forwardUnlessStopped (pdu : GbcPdu) (packet : UpPacket) (ll : LinkLayer) : Act Unit := do
  let router ← read fun router => router
  match stopReason platform router pdu ll with
  | some reason => Act.emit (.forwardingStopped reason)
  | none => forwardReceived platform env reception pdu packet ll

/-- The steps of `process_extended` behind the duplicate packet detection, up to the pass-up
decision. -/
def processAccepted (pdu : GbcPdu) (packet : UpPacket) (ll : LinkLayer) (locteExists : Bool) :
    Act Unit := do
  detectMultiHopDuplicateAddress platform env pdu.extended.sourcePosition.gnAddr ll.sender
  updateGbcSource platform pdu.extended packet locteExists
  flushUnicastForwardingBuffer platform env
  forwardUnlessStopped platform env reception pdu packet ll

/-- `process_extended` of a GeoBroadcast packet. -/
def processExtendedGbc (pdu : GbcPdu) (packet : UpPacket) (ll : LinkLayer) : Act Bool := do
  let gbc := pdu.extended
  let source := gbc.sourcePosition.gnAddr
  let destArea ← destinationArea gbc pdu.common.headerType
  let router ← read fun router => router
  let locteExists := router.locationTable.hasValue router.now source.mid
  let within := platform.geometry.insideOrAtBorder destArea router.localPositionVector.position
  Act.emit (.received reception pdu packet within)
  let duplicatePacket ←
    if asksForDuplicates platform within then detectDuplicatePacket platform source gbc.sequenceNumber
    else pure false
  if duplicatePacket then pure false
  else do
    Act.emit (.accepted reception gbc)
    processAccepted platform env reception pdu packet ll locteExists
    decidePassUp platform within gbc

/-! ### The stages of an indication -/

def packetDropped (reason : PacketDropReason) : Act Unit := Act.emit (.packetDropped reason)

def passUp (extended : HeaderVariant) (ind : DataIndication) (packet : UpPacket) : Act Unit := do
  let transport ← read fun router => router.transportHandler ind.upperProtocol
  if transport then Act.emit (.passedUp extended ind packet) else pure ()

/-- The `extended_header_visitor`: the pass-up decision and the service primitive. -/
def visitExtended (pdu : VariantPdu) (packet : UpPacket) (ll : LinkLayer)
    (indication : DataIndication) : Act (Bool × DataIndication) :=
  match pdu.extended with
  | .shb shb => do
    let indication := { indication with
      transportType := some .shb
      sourcePosition := some shb.sourcePosition.short }
    let passes ← processExtendedShb platform env shb packet ll
    pure (passes, indication)
  | .geoBroadcast gbc => do
    let destination ← destinationArea gbc pdu.common.headerType
    let indication := { indication with
      transportType := some .gbc
      sourcePosition := some gbc.sourcePosition.short
      destination := some destination }
    let passes ← processExtendedGbc platform env reception
      ⟨pdu.basic, pdu.common, gbc, pdu.secured⟩ packet ll
    pure (passes, indication)
  | .beacon beacon => do
    let passes ← processExtendedBeacon platform env beacon packet ll
    pure (passes, indication)

/-- A packet that has been parsed completely. -/
def visitParsed (pdu : VariantPdu) (packet : UpPacket) (ll : LinkLayer)
    (indication : DataIndication) : Act Unit := do
  let visited ← visitExtended platform env reception pdu packet ll indication
  if visited.1 then passUp pdu.extended visited.2 packet else pure ()

def indicateExtended (ctx : IndicationContext) (basic : BasicHeader) (common : CommonHeader)
    (secured : Option SecuredMessage) (ll : LinkLayer) (indication : DataIndication) : Act Unit := do
  let (extended, ctx) ← Action.lift (ctx.parseExtended common.headerType)
  let packet ← Action.lift (ctx.finish common.payload.toNat)
  match extended with
  | none => packetDropped .parseExtendedHeader
  | some extended =>
    if common.payload.toNat ≠ packet.sizeRange .transport .application then
      packetDropped .payloadSize
    else visitParsed platform env reception ⟨basic, common, extended, secured⟩ packet ll indication

/-- The upper protocol of a common header. -/
def upperProtocolOf (nextHeader : NextHeaderCommon) : UpperProtocol :=
  if nextHeader = .btpA then .btpA
  else if nextHeader = .btpB then .btpB
  else if nextHeader = .ipv6 then .ipv6
  else .unknown

def indicateCommon (ctx : IndicationContext) (basic : BasicHeader) (secured : Option SecuredMessage)
    (ll : LinkLayer) (indication : DataIndication) : Act Unit := do
  let (common, ctx) ← Action.lift ctx.parseCommon
  match common with
  | none => packetDropped .parseCommonHeader
  | some common =>
    if common.maximumHopLimit < basic.hopLimit then packetDropped .hopLimit
    else do
      let indication := { indication with
        trafficClass := some common.trafficClass
        upperProtocol := upperProtocolOf common.nextHeader }
      dropExpired
      flushBroadcastForwardingBuffer platform env
      indicateExtended platform env reception ctx basic common secured ll indication

/-- The reports of packets that are handled anyway if the result handling is not strict. -/
def DecapReport.tolerated : DecapReport → Bool
  | .falseSignature => true
  | .invalidCertificate => true
  | .revokedCertificate => true
  | .inconsistantChain => true
  | .invalidTimestamp => true
  | .invalidMobilityData => true
  | .unsignedMessage => true
  | .signerCertificateNotFound => true
  | .unsupportedSignerIdentifierType => true
  | .unencryptedMessage => true
  | _ => false

/-- The `secured_payload_visitor`. -/
def visitPlaintext (ctx : BasicContext) (basic : BasicHeader) (message : SecuredMessage)
    (plaintext : UpPacket) (ll : LinkLayer) (indication : DataIndication) : Act Unit := do
  let ctx ← Action.lift (IndicationContext.ofPlaintext ctx plaintext)
  indicateCommon platform env reception ctx basic (some message) ll indication

def indicateSecured (ctx : BasicContext) (basic : BasicHeader) (ll : LinkLayer)
    (indication : DataIndication) : Act Unit := do
  let (securedMessage, ctx) ← Action.lift (ctx.parseSecured env.limit)
  match securedMessage with
  | none => packetDropped .parseSecuredHeader
  | some message =>
    match env.securityEntity with
    | none => packetDropped .securityEntityMissing
    | some entity => do
      let confirm := entity.decapsulate message
      let indication := { indication with
        securityReport := some confirm.report
        itsAid := some confirm.itsAid
        permissions := some confirm.permissions }
      if confirm.report = .success then
        visitPlaintext platform env reception ctx basic message confirm.plaintextPayload ll indication
      else if platform.mib.itsGnSnDecapResultHandling = .nonStrict then
        if DecapReport.tolerated confirm.report then
          visitPlaintext platform env reception ctx basic message confirm.plaintextPayload ll
            indication
        else packetDropped .decapUnsuccessfulNonStrict
      else packetDropped .decapUnsuccessfulStrict

def indicateBasic (ctx : BasicContext) (ll : LinkLayer) : Act Unit := do
  let (basic, ctx) ← Action.lift ctx.parseBasic
  match basic with
  | none => packetDropped .parseBasicHeader
  | some basic =>
    if basic.version.toNat ≠ platform.mib.itsGnProtocolVersion.toNat then
      packetDropped .itsProtocolVersion
    else
      let indication := { DataIndication.empty with
        remainingPacketLifetime := some basic.lifetime
        remainingHopLimit := some basic.hopLimit }
      if basic.nextHeader = .secured then
        indicateSecured platform env reception ctx basic ll
          { indication with securityReport := some .incompatibleProtocol }
      else if basic.nextHeader = .common then
        if !platform.mib.itsGnSecurity ∨
            platform.mib.itsGnSnDecapResultHandling = .nonStrict then
          indicateCommon platform env reception (.basic ctx) basic ctx.secured ll
            { indication with securityReport := some .unsignedMessage }
        else packetDropped .decapUnsuccessfulStrict
      else pure ()

def indicate (packet : UpPacket) (ll : LinkLayer) : Act Unit := do
  let ctx ← Action.lift (BasicContext.ofPacket packet)
  indicateBasic platform env reception ctx ll

end Router

end Vanet.Geonet
