/-
**The state of a router.**

The closures that the source keeps in pending packets and in the runtime are data: what they capture.
A closure that forwards a received packet also has the number of its reception, which no function
reads. What the hooks, the access layer and the transport layer see of a router is one list of events
in their order; `received`, `accepted` and `expired` are recorded there as well, for the histories
that results are about.
-/

import Vanet.Dcc.FlowControl
import Vanet.Geonet.CbfPacketBuffer
import Vanet.Geonet.Indication
import Vanet.Geonet.PacketBuffer

namespace Vanet.Geonet

open Vanet.Common Vanet.Library Vanet.Security
open Vanet.Net hiding ByteBuffer

/-! ### Closures -/

structure ControlInfo where
  itsAid : ItsAid
  communicationProfile : CommunicationProfile
  deriving DecidableEq

/-- The actions of packets whose next hop is being looked for. -/
inductive Transmit
  | forward (reception : ℕ)
  | source (ctrl : ControlInfo)
  | noop
  deriving DecidableEq

abbrev PendingPacketForwarding := PendingPacket GeoBroadcastHeader Transmit

/-- The actions of other GeoBroadcast packets: the selection of a forwarding algorithm, greedy
forwarding once more, or the transmission to a next hop. -/
inductive GbcAction
  | forwarding (transmit : Transmit) (linkLayer : Option LinkLayer)
  | greedy (transmit : Transmit)
  | bound (transmit : Transmit) (mac : MacAddress)
  deriving DecidableEq

/-- What transmits the packet in the end. -/
def GbcAction.transmit : GbcAction → Transmit
  | forwarding transmit _ => transmit
  | greedy transmit => transmit
  | bound transmit _ => transmit

abbrev PendingPacketGbc := PendingPacket GeoBroadcastHeader GbcAction

/-- The action of a single-hop broadcast captures its control information. -/
abbrev PendingPacketShb := PendingPacket ShbHeader ControlInfo

/-- `PendingPacketBufferData`. -/
inductive BufferData
  | shb (packet : PendingPacketShb)
  | gbc (packet : PendingPacketGbc)

instance bufferPacketData : PacketData BufferData where
  length
    | .shb packet => packet.length
    | .gbc packet => packet.length
  reduceLifetime
    | .shb packet, d => ((packet.reduceLifetime d).1, .shb (packet.reduceLifetime d).2)
    | .gbc packet, d => ((packet.reduceLifetime d).1, .gbc (packet.reduceLifetime d).2)

/-- The callbacks of a router and its members. -/
inductive RouterCallback
  | beaconTimerExpired
  | flushCbfBuffer
  | triggerRepetition (ref : ℕ)
  deriving DecidableEq

inductive RouterScope
  | router
  | cbfPacketBuffer
  | repeater
  deriving DecidableEq

/-- `Repeater::Repetition`, with a number for the iterator to it. -/
structure RepetitionNode where
  ref : ℕ
  request : DataRequestVariant
  payload : ChunkPacket

/-! ### Events -/

inductive PacketDropReason
  | parseBasicHeader
  | parseCommonHeader
  | parseSecuredHeader
  | parseExtendedHeader
  | itsProtocolVersion
  | decapUnsuccessfulNonStrict
  | decapUnsuccessfulStrict
  | hopLimit
  | payloadSize
  | securityEntityMissing
  deriving DecidableEq

inductive ForwardingStopReason
  | hopLimit
  | outsideDestinationArea
  | sourcePdr
  | senderPdr
  deriving DecidableEq

/-- Who hands a packet to the access layer. -/
inductive Origin
  | beacon
  | shb
  | gbcSource
  | forwarder (reception : ℕ)
  deriving DecidableEq

/-- The router is the packet's source. -/
def Origin.isSource : Origin → Bool
  | forwarder _ => false
  | _ => true

inductive Event
  | packetDropped (reason : PacketDropReason)
  | forwardingStopped (reason : ForwardingStopReason)
  /-- A packet is handed to the access layer. -/
  | passedDown (origin : Origin) (request : Dcc.DataRequest) (pdu : VariantPdu) (payload : ChunkPacket)
  /-- A packet with this extended header is handed to its transport handler. -/
  | passedUp (extended : HeaderVariant) (indication : DataIndication) (packet : UpPacket)
  /-- A GeoBroadcast packet is processed, by a router within its destination area or outside. -/
  | received (reception : ℕ) (pdu : GbcPdu) (packet : UpPacket) (within : Bool)
  /-- ... and it was no duplicate, or the router's algorithms do not ask. -/
  | accepted (reception : ℕ) (gbc : GeoBroadcastHeader)
  /-- The location table has dropped its expired entries. -/
  | expired (macs : List MacAddress)

/-! ### Surroundings -/

/-- Positions and areas as the source computes with them. `acos` is in degrees and has no value outside
its domain. -/
structure Geometry where
  insideOrAtBorder : Area → GeodeticPosition → Bool
  distance : GeodeticPosition → GeodeticPosition → ℚ
  areaSize : Area → ℚ
  acos : ℚ → Option ℚ

/-- What is the same in a whole run. -/
structure Platform where
  mib : Mib
  geometry : Geometry

/-- `SecurityEntity`. The number of events observed so far tells the encapsulations of one action
apart. -/
structure SecurityEntity where
  decapsulate : SecuredMessage → DecapConfirm
  encapsulate : ℕ → EncapRequest → SecuredMessage

/-- **What may be different in every action**: the security entity that is set, the numbers that
are drawn, the DCC field generator, the addresses of new nodes, and the memory that is available. -/
structure Environment where
  securityEntity : Option SecurityEntity
  randomMac : MacAddress
  nextBeacon : ℕ → ℤ
  dccField : ℕ → DccField
  allocate : (used : List ℕ) → { node : ℕ // node ∉ used }
  limit : ℕ

/-! ### The router -/

structure Router where
  runtime : ManualRuntime RouterCallback RouterScope
  transportHandler : UpperProtocol → Bool
  locationTable : LocationTable
  bcForwardBuffer : PacketBuffer BufferData
  ucForwardBuffer : PacketBuffer BufferData
  cbfBuffer : CbfPacketBuffer GbcAction
  localPositionVector : LongPositionVector
  localSequenceNumber : SequenceNumber
  repetitions : List RepetitionNode
  nextRepetition : ℕ
  gbcMemory : GbcMemory
  trace : List Event

abbrev Act (α : Type) := Action Router RouterFault α

def cBroadcastMacAddress : MacAddress := ⟨List.replicate 6 0xff, rfl⟩

/-- `access::ethertype::GeoNetworking`. -/
def etherType : UInt16 := 0x8947

namespace Router

def now (router : Router) : ℤ := router.runtime.now

/-- The number of events observed so far. -/
def moment (router : Router) : ℕ := router.trace.length

def emit (router : Router) (event : Event) : Router := { router with trace := router.trace ++ [event] }

/-- The CBF buffer with the runtime it refers to. -/
def cbf (router : Router) : Cbf GbcAction RouterCallback RouterScope :=
  ⟨router.cbfBuffer, router.runtime⟩

def withCbf (router : Router) (cbf : Cbf GbcAction RouterCallback RouterScope) : Router :=
  { router with cbfBuffer := cbf.buffer, runtime := cbf.runtime }

/-- How the CBF buffer appears in the runtime. -/
def flushTimer : FlushTimer RouterCallback RouterScope := ⟨.flushCbfBuffer, .cbfPacketBuffer⟩

/-- `reset_beacon_timer` with a duration. -/
def resetBeaconTimerIn (router : Router) (nextBeacon : ℤ) : Router :=
  { router with
    runtime := (router.runtime.cancel (some .router)).scheduleIn nextBeacon .beaconTimerExpired
      (some .router) }

/-- `Router(Runtime&, const MIB&)`. -/
def create (mib : Mib) (now firstBeacon : ℤ) : Router :=
  let router : Router :=
    { runtime := ⟨now, []⟩
      transportHandler := fun _ => false
      -- a lifetime of whole seconds
      locationTable := .empty (mib.itsGnLifetimeLocTE.tdiv 1000000 * 1000000)
      bcForwardBuffer := .empty (mib.itsGnBcForwardingPacketBufferSize * 1024)
      ucForwardBuffer := .empty (mib.itsGnUcForwardingPacketBufferSize * 1024)
      cbfBuffer := .empty
        (if mib.vanetzaFadingCbfCounter then .fading (.empty mib.vanetzaFadingCbfCounterLifetime)
          else .contending ∅)
        (mib.itsGnCbfPacketBufferSize * 1024)
      localPositionVector := .zero
      localSequenceNumber := 0
      repetitions := []
      nextRepetition := 0
      gbcMemory := GbcMemory.initial.setCapacity mib.vanetzaGbcMemoryCapacity
      trace := [] }
  if mib.vanetzaDisableBeaconing then router
  else if mib.vanetzaDeferInitialBeacon then router.resetBeaconTimerIn firstBeacon
  else router.resetBeaconTimerIn 0

section Created

variable (mib : Mib) (now firstBeacon : ℤ)

theorem create_trace : (create mib now firstBeacon).trace = [] := by
  unfold create
  cases mib.vanetzaDisableBeaconing <;> cases mib.vanetzaDeferInitialBeacon <;> rfl

theorem create_gbcMemory : (create mib now firstBeacon).gbcMemory =
    GbcMemory.initial.setCapacity mib.vanetzaGbcMemoryCapacity := by
  unfold create
  cases mib.vanetzaDisableBeaconing <;> cases mib.vanetzaDeferInitialBeacon <;> rfl

theorem create_locationTable : (create mib now firstBeacon).locationTable =
    .empty (mib.itsGnLifetimeLocTE.tdiv 1000000 * 1000000) := by
  unfold create
  cases mib.vanetzaDisableBeaconing <;> cases mib.vanetzaDeferInitialBeacon <;> rfl

/-- Nothing is buffered. -/
theorem create_buffers : (create mib now firstBeacon).bcForwardBuffer.nodes = [] ∧
    (create mib now firstBeacon).ucForwardBuffer.nodes = [] ∧
    (create mib now firstBeacon).cbfBuffer.packets = [] := by
  unfold create
  cases mib.vanetzaDisableBeaconing <;> cases mib.vanetzaDeferInitialBeacon <;>
    exact ⟨rfl, rfl, rfl⟩

/-- No repetition is stored. -/
theorem create_repetitions : (create mib now firstBeacon).repetitions = [] := by
  unfold create
  cases mib.vanetzaDisableBeaconing <;> cases mib.vanetzaDeferInitialBeacon <;> rfl

/-- Nothing but a beacon is scheduled. -/
theorem create_queue : ∀ item ∈ (create mib now firstBeacon).runtime.queue,
    item.callback = .beaconTimerExpired ∧ item.scope = some .router := by
  have beacons : ∀ nextBeacon, ∀ item ∈
      (((⟨now, []⟩ : ManualRuntime RouterCallback RouterScope).cancel (some .router)).scheduleIn
        nextBeacon .beaconTimerExpired (some .router)).queue,
      item.callback = .beaconTimerExpired ∧ item.scope = some .router := by
    intro nextBeacon item member
    rcases ManualRuntime.mem_emplace.mp member with rfl | impossible
    · exact ⟨rfl, rfl⟩
    · exact absurd impossible List.not_mem_nil
  unfold create
  cases mib.vanetzaDisableBeaconing with
  | true => exact fun _ impossible => absurd impossible List.not_mem_nil
  | false =>
    cases mib.vanetzaDeferInitialBeacon with
    | true => exact beacons firstBeacon
    | false => exact beacons 0

end Created

end Router

/-! ### Elementary actions -/

namespace Act

def read {α : Type} (get : Router → α) : Act α := Action.update fun router => (get router, router)

def modify (change : Router → Router) : Act Unit := Action.update fun router => ((), change router)

def emit (event : Event) : Act Unit := modify fun router => router.emit event

def throw {α : Type} (what : String) : Act α := Action.fail (.runtimeError what)

/-- A read changes nothing. -/
theorem read_bind {α β : Type} (get : Router → α) (next : α → Act β) (router : Router) :
    (read get >>= next) router = next (get router) router :=
  rfl

end Act

section Moves

variable {R : Router → Router → Prop} [IsPreorder Router R] {α : Type}

theorem moves_read (get : Router → α) : Action.Moves R (Act.read get) := fun router => refl_of R router

theorem moves_throw (what : String) : Action.Moves R (Act.throw what : Act α) := .fail _

end Moves

end Vanet.Geonet
