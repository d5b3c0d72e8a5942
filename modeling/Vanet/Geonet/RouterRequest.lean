/-
**What a router sends of its own**: the packets that upper layers request, their repetitions, and
beacons.
-/

import Vanet.Geonet.Forwarding

namespace Vanet.Geonet

open Vanet.Common Vanet.Library
open Vanet.Net hiding ByteBuffer
open Act

/-- `aid::GN_MGMT`. -/
def gnMgmt : ItsAid := 141

namespace Router

variable (platform : Platform) (env : Environment)

/-! ### PDUs -/

/-- The common header of a request. -/
def commonHeaderOf (request : DataRequest) : Act CommonHeader :=
  match CommonHeader.ofRequest request platform.mib with
  | some common => pure common
  | none => throw "Unhandled upper protocol"

def createShbPdu (request : DataRequest) : Act ShbPdu := do
  let common ← commonHeaderOf platform request
  let router ← read fun router => router
  pure
    { basic := { BasicHeader.ofRequest request platform.mib with hopLimit := 1 }
      common := { common with headerType := .tsbSingleHop, maximumHopLimit := 1 }
      extended := ⟨router.localPositionVector, env.dccField router.moment⟩
      secured := none }

def createBeaconPdu : Act BeaconPdu := do
  let sourcePosition ← read localPositionVector
  pure
    { basic := { BasicHeader.ofMib platform.mib with hopLimit := 1 }
      common := { CommonHeader.ofMib platform.mib with
        nextHeader := .any
        headerType := .beacon
        maximumHopLimit := 1 }
      extended := ⟨sourcePosition⟩
      secured := none }

/-- A header without any destination yet. -/
def gbcHeader (sequenceNumber : SequenceNumber) (sourcePosition : LongPositionVector) :
    GeoBroadcastHeader :=
  ⟨sequenceNumber, 0, sourcePosition, 0, 0, 0, 0, 0, 0⟩

def createGbcPdu (request : DataRequest) (destination : Area) : Act GbcPdu := do
  let common ← commonHeaderOf platform request
  let router ← read fun router => router
  modify fun router => { router with localSequenceNumber := router.localSequenceNumber + 1 }
  pure
    { basic := BasicHeader.ofRequest request platform.mib
      common := { common with headerType := gbcHeaderType destination }
      extended := (gbcHeader router.localSequenceNumber
        router.localPositionVector).setDestination destination
      secured := none }

/-- A PDU with the size of its payload. -/
def withPayloadSize {H : Type} (pdu : ExtendedPdu H) (payload : ChunkPacket) : ExtendedPdu H :=
  { pdu with common := { pdu.common with payload := UInt16.ofNat payload.size } }

/-! ### Requests -/

/-- `Repeater::add`. -/
def repeaterAdd (request : DataRequestVariant) (payload : ChunkPacket) : Act Unit :=
  modify fun router =>
    match request.request.repetition with
    | none => router
    | some repetition =>
      if repetition.hasFurtherRepetition then
        { router with
          repetitions := ⟨router.nextRepetition, request, payload⟩ :: router.repetitions
          nextRepetition := router.nextRepetition + 1
          runtime := router.runtime.schedule (router.now + clockCast repetition.interval)
            (.triggerRepetition router.nextRepetition) (some .repeater) }
      else router

def requestShb (request : DataRequest) (payload : Option ChunkPacket) : Act ResultCode := do
  let result := (validateDataRequest request platform.mib).combine
    (validatePayload payload platform.mib)
  match payload with
  | none => pure result
  | some payload =>
    if result = .accepted then do
      repeaterAdd (.shb request) payload
      let pdu ← createShbPdu platform env request
      let packet : PendingPacketShb := ⟨withPayloadSize pdu payload, payload,
        ⟨request.itsAid, request.communicationProfile⟩⟩
      let neighbours ← read fun router => router.locationTable.hasNeighbours router.now
      if request.trafficClass.storeCarryForward ∧ !neighbours then pushBroadcast (.shb packet)
      else processShb platform env packet
      pure result
    else pure result

def requestGbc (request : DataRequest) (destination : Area) (payload : Option ChunkPacket) :
    Act ResultCode := do
  let result := (validateDataRequestWithArea platform.geometry.areaSize request destination
    platform.mib).combine (validatePayload payload platform.mib)
  match payload with
  | none => pure result
  | some payload =>
    if result = .accepted then do
      repeaterAdd (.gbc request destination) payload
      let pdu ← createGbcPdu platform request destination
      let packet : PendingPacketGbc := ⟨withPayloadSize pdu payload, payload,
        .forwarding (.source ⟨request.itsAid, request.communicationProfile⟩) none⟩
      let neighbours ← read fun router => router.locationTable.hasNeighbours router.now
      if request.trafficClass.storeCarryForward ∧ !neighbours then pushBroadcast (.gbc packet)
      else processGbc platform env packet
      pure result
    else pure result

/-- `request`, over the kinds of requests. -/
def request (request : DataRequestVariant) (payload : Option ChunkPacket) : Act ResultCode :=
  match request with
  | .shb request => requestShb platform env request payload
  | .gbc request destination => requestGbc platform env request destination payload
  | .gac _ _ => pure .rejectedUnspecified
  | .guc _ _ => pure .rejectedUnspecified
  | .tsb _ => pure .rejectedUnspecified

/-! ### Callbacks -/

/-- The request of the next repetition, after a delay of its callback. -/
def nextRequest (request : DataRequest) (repetition : Repetition) (delayed : ℤ) : DataRequest :=
  let decremented := repetition.decrementByOne
  let next : DataRequest :=
    { request with repetition := some { decremented with maximum := decremented.maximum - delayed } }
  if next.hasFurtherRepetition then next else { next with repetition := none }

/-- `Repeater::trigger`. -/
def repeaterTrigger (ref : ℕ) (invocation : ℤ) : Act Unit := do
  let router ← read fun router => router
  match router.repetitions.find? fun node => node.ref = ref with
  | none => pure ()
  | some node =>
    match node.request.request.repetition with
    | none => Action.fail .assertion
    | some repetition => do
      let next := nextRequest node.request.request repetition (router.now - invocation)
      let _ ← request platform env (node.request.withRequest next) (some node.payload)
      modify fun router =>
        { router with repetitions := router.repetitions.filter fun node => node.ref ≠ ref }

def onBeaconTimerExpired : Act Unit :=
  if platform.mib.vanetzaDisableBeaconing then pure ()
  else do
    let pdu ← createBeaconPdu platform
    let nextHeader : NextHeaderBasic := if platform.mib.itsGnSecurity then .secured else .common
    let pdu := { pdu with basic := { pdu.basic with nextHeader } }
    let (pdu, payload) ← secure platform env gnMgmt pdu .empty
    executeMediaProcedures platform.mib.itsGnIfType
    passDownTo .beacon cBroadcastMacAddress pdu.toVariant payload
    resetBeaconTimer env

/-- `flush` of the CBF buffer with its callback. -/
def flushCbfBuffer : Act Unit := do
  let packets ← Action.update fun router =>
    let flushed := router.cbf.flush flushTimer
    (flushed.1, router.withCbf flushed.2)
  processAll (processGbc platform env) packets

/-- A callback of the runtime. -/
def invoke (callback : RouterCallback) (deadline : ℤ) : Act Unit :=
  match callback with
  | .beaconTimerExpired => onBeaconTimerExpired platform env
  | .flushCbfBuffer => flushCbfBuffer platform env
  | .triggerRepetition ref => repeaterTrigger platform env ref deadline

end Router

end Vanet.Geonet
