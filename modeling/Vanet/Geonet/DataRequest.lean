/-
**The management information base and the requests of the upper layers.**

Durations count microseconds, lengths are metres; both, and areas, are exact here where the source
has floating point numbers.
-/

import Mathlib.Algebra.Order.Ring.Rat
import Vanet.Geonet.Pdu

namespace Vanet.Geonet

open Vanet.Net

/-! ### The management information base -/

inductive UnicastForwarding
  | unspecified
  | greedy
  | cbf
  deriving DecidableEq

inductive BroadcastForwarding
  | unspecified
  | simple
  | cbf
  | advanced
  deriving DecidableEq

inductive AddrConfMethod
  | auto
  | managed
  | anonymous
  deriving DecidableEq

inductive InterfaceType
  | unspecified
  | itsG5
  deriving DecidableEq

abbrev CommunicationProfile := InterfaceType

inductive SecurityDecapHandling
  | strict
  | nonStrict
  deriving DecidableEq

/-- `ManagementInformationBase`, as far as the router reads it. Buffer sizes are kilobytes, data rates
kilobytes per second. -/
structure Mib where
  itsGnLocalAddrConfMethod : AddrConfMethod
  itsGnProtocolVersion : UInt32
  itsGnIsMobile : Bool
  itsGnPaiInterval : ℚ
  itsGnIfType : InterfaceType
  itsGnMaxSduSize : ℕ
  itsGnLifetimeLocTE : ℤ
  itsGnSecurity : Bool
  itsGnSnDecapResultHandling : SecurityDecapHandling
  itsGnDefaultHopLimit : UInt32
  itsGnDPLLength : ℕ
  itsGnMaxPacketLifetime : Lifetime
  itsGnDefaultPacketLifetime : Lifetime
  itsGnMaxPacketDataRate : UInt32
  itsGnMaxPacketDataRateEmaBeta : ℚ
  itsGnMaxGeoAreaSize : ℚ
  itsGnMinPacketRepetitionInterval : ℚ
  itsGnNonAreaForwardingAlgorithm : UnicastForwarding
  itsGnAreaForwardingAlgorithm : BroadcastForwarding
  itsGnCbfMinTime : ℤ
  itsGnCbfMaxTime : ℤ
  itsGnDefaultMaxCommunicationRange : ℚ
  itsGnBroadcastCBFDefSectorAngle : ℚ
  itsGnUcForwardingPacketBufferSize : ℕ
  itsGnBcForwardingPacketBufferSize : ℕ
  itsGnCbfPacketBufferSize : ℕ
  itsGnDefaultTrafficClass : TrafficClass
  vanetzaCbfMaxCounter : ℕ
  vanetzaDisableBeaconing : Bool
  vanetzaDeferInitialBeacon : Bool
  vanetzaMultiHopDuplicateAddressDetection : Bool
  vanetzaFadingCbfCounter : Bool
  vanetzaFadingCbfCounterLifetime : ℤ
  vanetzaNeighbourFlagExpiry : ℤ
  vanetzaGbcMemoryCapacity : ℕ

/-- `ManagementInformationBase()`. Angles are degrees. -/
def Mib.initial : Mib where
  itsGnLocalAddrConfMethod := .managed
  itsGnProtocolVersion := 1
  itsGnIsMobile := true
  itsGnPaiInterval := 80
  itsGnIfType := .itsG5
  itsGnMaxSduSize := 1398
  itsGnLifetimeLocTE := 20000000
  itsGnSecurity := false
  itsGnSnDecapResultHandling := .strict
  itsGnDefaultHopLimit := 10
  itsGnDPLLength := 8
  itsGnMaxPacketLifetime := .set .hundredSeconds 6
  itsGnDefaultPacketLifetime := .set .tenSeconds 6
  itsGnMaxPacketDataRate := 100
  itsGnMaxPacketDataRateEmaBeta := 9 / 10
  itsGnMaxGeoAreaSize := 10000000
  itsGnMinPacketRepetitionInterval := 100000
  itsGnNonAreaForwardingAlgorithm := .greedy
  itsGnAreaForwardingAlgorithm := .cbf
  itsGnCbfMinTime := 1000
  itsGnCbfMaxTime := 100000
  itsGnDefaultMaxCommunicationRange := 1000
  itsGnBroadcastCBFDefSectorAngle := 30
  itsGnUcForwardingPacketBufferSize := 256
  itsGnBcForwardingPacketBufferSize := 1024
  itsGnCbfPacketBufferSize := 256
  itsGnDefaultTrafficClass := ⟨0⟩
  vanetzaCbfMaxCounter := 1
  vanetzaDisableBeaconing := false
  vanetzaDeferInitialBeacon := false
  vanetzaMultiHopDuplicateAddressDetection := false
  vanetzaFadingCbfCounter := false
  vanetzaFadingCbfCounterLifetime := 400000
  vanetzaNeighbourFlagExpiry := 0
  vanetzaGbcMemoryCapacity := 0

/-! ### Requests -/

inductive UpperProtocol
  | unknown
  | btpA
  | btpB
  | ipv6
  deriving DecidableEq

abbrev ItsAid := ℕ

structure Repetition where
  interval : ℚ
  maximum : ℚ
  deriving DecidableEq

namespace Repetition

def decrementByOne (repetition : Repetition) : Repetition :=
  if repetition.maximum > 0 ∧ repetition.interval > 0 ∧
      repetition.maximum > repetition.interval then
    { repetition with maximum := repetition.maximum - repetition.interval }
  else { repetition with maximum := 0 }

def hasFurtherRepetition (repetition : Repetition) : Bool :=
  repetition.maximum > 0 ∧ repetition.interval > 0 ∧ repetition.maximum ≥ repetition.interval

end Repetition

/-- `geonet::DataRequest`. -/
structure DataRequest where
  upperProtocol : UpperProtocol
  communicationProfile : CommunicationProfile
  itsAid : ItsAid
  maximumLifetime : Lifetime
  repetition : Option Repetition
  maxHopLimit : UInt32
  trafficClass : TrafficClass
  deriving DecidableEq

/-- `has_further_repetition` of a request. -/
def DataRequest.hasFurtherRepetition (request : DataRequest) : Bool :=
  request.repetition.any Repetition.hasFurtherRepetition

/-- `DataRequestVariant`: a request with an address and one without any destination, for a single
hop or for a topologically scoped broadcast, are told apart by their alternatives. -/
inductive DataRequestVariant
  | guc (request : DataRequest) (destination : Address)
  | gbc (request : DataRequest) (destination : Area)
  | gac (request : DataRequest) (destination : Area)
  | shb (request : DataRequest)
  | tsb (request : DataRequest)
  deriving DecidableEq

/-- `access_request`, to read. -/
def DataRequestVariant.request : DataRequestVariant → DataRequest
  | guc request _ => request
  | gbc request _ => request
  | gac request _ => request
  | shb request => request
  | tsb request => request

/-- `access_request`, to write. -/
def DataRequestVariant.withRequest (request : DataRequest) : DataRequestVariant → DataRequestVariant
  | guc _ destination => guc request destination
  | gbc _ destination => gbc request destination
  | gac _ destination => gac request destination
  | shb _ => shb request
  | tsb _ => tsb request

/-! ### Confirmations -/

inductive ResultCode
  | accepted
  | rejectedMaxSduSize
  | rejectedMaxLifetime
  | rejectedMinRepetitionInterval
  | rejectedMaxGeoAreaSize
  | rejectedUnspecified
  deriving DecidableEq

/-- `operator ^=` of a confirmation: an error replaces the code. -/
def ResultCode.combine (lhs rhs : ResultCode) : ResultCode := if rhs = .accepted then lhs else rhs

def validateDataRequest (request : DataRequest) (mib : Mib) : ResultCode :=
  if mib.itsGnMaxPacketLifetime.before request.maximumLifetime then .rejectedMaxLifetime
  else if request.repetition.any fun repetition =>
      repetition.interval < mib.itsGnMinPacketRepetitionInterval then
    .rejectedMinRepetitionInterval
  else .accepted

/-- `validate_data_request` of a request with an area, over the size of areas. -/
def validateDataRequestWithArea (areaSize : Area → ℚ) (request : DataRequest) (destination : Area)
    (mib : Mib) : ResultCode :=
  if areaSize destination > mib.itsGnMaxGeoAreaSize then .rejectedMaxGeoAreaSize
  else validateDataRequest request mib

/-- `validate_payload`: there may be none. -/
def validatePayload (payload : Option ChunkPacket) (mib : Mib) : ResultCode :=
  match payload with
  | none => .rejectedUnspecified
  | some payload => if payload.size > mib.itsGnMaxSduSize then .rejectedMaxSduSize else .accepted

/-! ### Headers of own packets -/

/-- `BasicHeader(const MIB&)`. -/
def BasicHeader.ofMib (mib : Mib) : BasicHeader where
  version := BitVec.ofNat 4 mib.itsGnProtocolVersion.toNat
  nextHeader := .any
  reserved := 0
  lifetime := mib.itsGnDefaultPacketLifetime
  hopLimit := mib.itsGnDefaultHopLimit.toUInt8

/-- `BasicHeader(const DataRequest&, const MIB&)`. -/
def BasicHeader.ofRequest (request : DataRequest) (mib : Mib) : BasicHeader :=
  { BasicHeader.ofMib mib with
    nextHeader := if mib.itsGnSecurity then .secured else .common
    lifetime := request.maximumLifetime
    hopLimit := request.maxHopLimit.toUInt8 }

/-- `CommonHeader(const MIB&)`. -/
def CommonHeader.ofMib (mib : Mib) : CommonHeader where
  nextHeader := .any
  reserved1 := 0
  headerType := .any
  trafficClass := mib.itsGnDefaultTrafficClass
  flags := if mib.itsGnIsMobile then 0x80 else 0
  payload := 0
  maximumHopLimit := mib.itsGnDefaultHopLimit.toUInt8
  reserved2 := 0

/-- `CommonHeader(const DataRequest&, const MIB&)`, which throws for an upper protocol that is not
known. -/
def CommonHeader.ofRequest (request : DataRequest) (mib : Mib) : Option CommonHeader :=
  let nextHeader : Option NextHeaderCommon :=
    match request.upperProtocol with
    | .btpA => some .btpA
    | .btpB => some .btpB
    | .ipv6 => some .ipv6
    | .unknown => none
  nextHeader.map fun nextHeader =>
    { CommonHeader.ofMib mib with
      nextHeader := nextHeader
      trafficClass := request.trafficClass
      maximumHopLimit := request.maxHopLimit.toUInt8 }

end Vanet.Geonet
