/-
**What a router has in stock.**

Packets wait in a router's buffers, contend, or are repeated. `Stock` is what is known of them, of the events
that the router has told of, and of its location table and its repetitions; `Stocked` says so of a router.
What is known of a packet that waits has to last while it does, and to be enough to transmit it
(`Stock.Transmits`); the PDU of a request has to come with it (`Stock.Requests`).

* `Transmits.conveys`: then no forwarding algorithm loses it.
* `Transmits.flushBroadcast`, `Transmits.flushUnicast`, `Transmits.flushCbf`: neither does a flush.
* `Requests.request`, `Requests.invoke`: nor a request, nor a callback.
-/

import Vanet.Geonet.Conveying
import Vanet.Geonet.Provenance

namespace Vanet.Geonet

open Vanet.Common Vanet.Library Vanet.Security
open Vanet.Net hiding ByteBuffer
open Act Router

/-- The type of a GeoBroadcast packet tells so. -/
theorem gbcHeaderType_typed (destination : Area) :
    gbcHeaderType destination = .geoBroadcastCircle ∨ gbcHeaderType destination = .geoBroadcastRect ∨
      gbcHeaderType destination = .geoBroadcastElip := by
  unfold gbcHeaderType
  cases destination.shape with
  | circle r => exact .inl rfl
  | rectangle a b => exact .inr (.inl rfl)
  | ellipse a b => exact .inr (.inr rfl)

/-- **What is known** of the packets that wait, with their transmissions, of the events, and of the rest of a
router that changes with them. -/
structure Stock where
  waits : VariantPdu → ChunkPacket → Transmit → Prop
  told : Event → Prop
  beside : LocationTable → List RepetitionNode → Prop

namespace Stock

/-- What is known of a GeoBroadcast packet. -/
abbrev WaitsGbc {φ : Type} (stock : Stock) (transmit : φ → Transmit)
    (packet : PendingPacket GeoBroadcastHeader φ) : Prop :=
  stock.waits packet.pdu.toVariant packet.payload (transmit packet.action)

/-- What is known of a single-hop broadcast, which is always an own one. -/
abbrev WaitsShb (stock : Stock) (packet : PendingPacketShb) : Prop :=
  stock.waits packet.pdu.toVariant packet.payload (.source packet.action)

/-- What is known of the data of a packet buffer. -/
def WaitsData (stock : Stock) : BufferData → Prop
  | .shb packet => stock.WaitsShb packet
  | .gbc packet => stock.WaitsGbc GbcAction.transmit packet

end Stock

/-- **The router keeps to it.** -/
structure Stocked (stock : Stock) (router : Router) : Prop where
  broadcast : ∀ node ∈ router.bcForwardBuffer.nodes, stock.WaitsData node.2
  unicast : ∀ node ∈ router.ucForwardBuffer.nodes, stock.WaitsData node.2
  contending : router.cbfBuffer.Holds fun cbf => stock.WaitsGbc GbcAction.transmit cbf.packet
  told : ∀ event ∈ router.trace, stock.told event
  beside : stock.beside router.locationTable router.repetitions

section Changes

variable {stock : Stock} {before after router : Router}

/-- What a router does besides. -/
theorem Stocked.aside (stocked : Stocked stock before)
    (broadcast : after.bcForwardBuffer = before.bcForwardBuffer)
    (unicast : after.ucForwardBuffer = before.ucForwardBuffer)
    (contending : after.cbfBuffer = before.cbfBuffer) (trace : after.trace = before.trace)
    (beside : stock.beside after.locationTable after.repetitions) : Stocked stock after := by
  refine ⟨?_, ?_, ?_, ?_, beside⟩
  · rw [broadcast]
    exact stocked.broadcast
  · rw [unicast]
    exact stocked.unicast
  · rw [contending]
    exact stocked.contending
  · rw [trace]
    exact stocked.told

theorem Stocked.emit (stocked : Stocked stock router) {event : Event} (told : stock.told event) :
    Stocked stock (router.emit event) where
  broadcast := stocked.broadcast
  unicast := stocked.unicast
  contending := stocked.contending
  told := List.forall_mem_append.mpr ⟨stocked.told, List.forall_mem_singleton.mpr told⟩
  beside := stocked.beside

theorem Stocked.withCbf (stocked : Stocked stock router)
    {cbf : Cbf GbcAction RouterCallback RouterScope}
    (holds : cbf.buffer.Holds fun cbf => stock.WaitsGbc GbcAction.transmit cbf.packet) :
    Stocked stock (router.withCbf cbf) :=
  ⟨stocked.broadcast, stocked.unicast, holds, stocked.told, stocked.beside⟩

theorem holding_resetBeaconTimer {env : Environment} {E : Router → Prop} :
    Holding (Stocked stock) E (resetBeaconTimer env) :=
  .update fun _ stocked => stocked.aside rfl rfl rfl rfl stocked.beside

/-- A router that has just been constructed. -/
theorem stocked_create {mib : Mib} {now firstBeacon : ℤ}
    (beside : stock.beside (Router.create mib now firstBeacon).locationTable []) :
    Stocked stock (Router.create mib now firstBeacon) := by
  obtain ⟨broadcast, unicast, contending⟩ := create_buffers mib now firstBeacon
  refine ⟨?_, ?_, ?_, ?_, ?_⟩
  · rw [broadcast]
    exact List.forall_mem_nil _
  · rw [unicast]
    exact List.forall_mem_nil _
  · unfold CbfPacketBuffer.Holds
    rw [contending]
    exact List.forall_mem_nil _
  · rw [create_trace]
    exact List.forall_mem_nil _
  · rw [create_repetitions]
    exact beside

end Changes

/-! ### Transmitting -/

/-- **What transmitting needs.** -/
structure Stock.Transmits (stock : Stock) (platform : Platform) (env : Environment) (E : Router → Prop) :
    Prop where
  ages : ∀ pdu payload transmit lifetime, stock.waits pdu payload transmit →
    stock.waits (pdu.setLifetime lifetime) payload transmit
  silent : ∀ pdu payload transmit, stock.waits pdu payload transmit → stock.waits pdu payload .noop
  duplicate : ∀ pdu payload transmit, stock.waits pdu payload transmit →
    stock.waits pdu (if pdu.secured.isSome then .empty else payload) transmit
  tells : ∀ event, (∀ origin request pdu payload, event ≠ .passedDown origin request pdu payload) →
    stock.told event
  locates : ∀ (pdu : GbcPdu) payload transmit, stock.waits pdu.toVariant payload transmit →
    Holding (Stocked stock) E (destinationArea pdu.extended pdu.common.headerType)
  forwards : ∀ packet : PendingPacketForwarding, stock.WaitsGbc id packet → ∀ mac,
    Holding (Stocked stock) E (processForwarding platform env packet mac)
  broadcasts : ∀ packet, stock.WaitsShb packet → Holding (Stocked stock) E (processShb platform env packet)

namespace Stock.Transmits

variable {stock : Stock} {platform : Platform} {env : Environment} {E : Router → Prop}
  (transmits : stock.Transmits platform env E)

section Waiting

include transmits

theorem reduceGbc {packet : PendingPacketGbc} (waits : stock.WaitsGbc GbcAction.transmit packet) (d : ℤ) :
    stock.WaitsGbc GbcAction.transmit (packet.reduceLifetime d).2 := by
  obtain ⟨lifetime, _, changed⟩ := packet.reduceLifetime_changes d
  rw [changed]
  exact transmits.ages _ _ _ lifetime waits

theorem reduceData {data : BufferData} (waits : stock.WaitsData data) (d : ℤ) :
    stock.WaitsData (PacketData.reduceLifetime data d).2 := by
  cases data with
  | gbc packet => exact transmits.reduceGbc waits d
  | shb packet =>
    obtain ⟨lifetime, _, changed⟩ := packet.reduceLifetime_changes d
    show stock.WaitsShb (packet.reduceLifetime d).2
    rw [changed]
    exact transmits.ages _ _ _ lifetime waits

theorem cbfAges : Ages fun cbf : CbfPacket GbcAction => stock.WaitsGbc GbcAction.transmit cbf.packet :=
  fun _ d waits => transmits.reduceGbc waits d

theorem flushed {buffer : PacketBuffer BufferData} (waits : ∀ node ∈ buffer.nodes, stock.WaitsData node.2)
    (now : ℤ) : ∀ data ∈ buffer.flushed now, stock.WaitsData data := by
  intro data member
  obtain ⟨node, held, d, rfl⟩ := PacketBuffer.mem_flushed member
  exact transmits.reduceData (waits node held) d

end Waiting

theorem pushBroadcast {data : BufferData} (waits : stock.WaitsData data) :
    Holding (Stocked stock) E (pushBroadcast data) := by
  refine .update fun router stocked =>
    ⟨?_, stocked.unicast, stocked.contending, stocked.told, stocked.beside⟩
  intro node member
  rcases PacketBuffer.mem_push member with old | new
  · exact stocked.broadcast node old
  · rw [new]
    exact waits

include transmits

theorem emit {event : Event}
    (silent : ∀ origin request pdu payload, event ≠ .passedDown origin request pdu payload) :
    Holding (Stocked stock) E (Act.emit event) :=
  .update fun _ stocked => stocked.emit (transmits.tells event silent)

/-- **Forwarding keeps to it.** -/
theorem conveys : Conveys platform env (Stocked stock) E (stock.WaitsGbc id) where
  silent _ waits := transmits.silent _ _ _ waits
  duplicate _ waits := transmits.duplicate _ _ _ waits
  locates _ waits := transmits.locates _ _ _ waits
  stops := transmits.emit fun _ _ _ _ => Event.noConfusion
  buffers _ waits := pushBroadcast waits
  adds _ waits _ _ := .update fun _ stocked =>
    stocked.withCbf (Cbf.add_holds stocked.contending waits _ _)
  removes _ := .update fun _ stocked => stocked.withCbf (Cbf.remove_holds stocked.contending _)
  updates _ _ := .update fun _ stocked =>
    stocked.withCbf (Cbf.update_holds transmits.cbfAges stocked.contending _ _)
  transmits packet waits mac := transmits.forwards packet waits mac

theorem processGbc {packet : PendingPacketGbc} (waits : stock.WaitsGbc GbcAction.transmit packet) :
    Holding (Stocked stock) E (processGbc platform env packet) :=
  transmits.conveys.processGbc waits

theorem processData {data : BufferData} (waits : stock.WaitsData data) :
    Holding (Stocked stock) E (processData platform env data) := by
  cases data with
  | shb packet => exact transmits.broadcasts packet waits
  | gbc packet => exact transmits.processGbc waits

/-! ### Flushing -/

theorem flushBroadcast : Holding (Stocked stock) E (flushBroadcastForwardingBuffer platform env) := by
  refine holding_flush (fun router stocked => ⟨transmits.flushed stocked.broadcast _, ?_⟩)
    fun data waits => transmits.processData waits
  exact ⟨List.forall_mem_nil _, stocked.unicast, stocked.contending, stocked.told, stocked.beside⟩

theorem flushUnicast : Holding (Stocked stock) E (flushUnicastForwardingBuffer platform env) := by
  refine holding_flush (fun router stocked => ⟨transmits.flushed stocked.unicast _, ?_⟩)
    fun data waits => transmits.processData waits
  exact ⟨stocked.broadcast, List.forall_mem_nil _, stocked.contending, stocked.told, stocked.beside⟩

theorem flushCbf : Holding (Stocked stock) E (flushCbfBuffer platform env) := by
  refine holding_flush (fun router stocked => ?_) fun packet waits => transmits.processGbc waits
  have contending : router.cbf.buffer.Holds fun cbf => stock.WaitsGbc GbcAction.transmit cbf.packet :=
    stocked.contending
  obtain ⟨flushed, left⟩ := Cbf.flush_holds transmits.cbfAges contending
  refine ⟨?_, stocked.withCbf left⟩
  intro packet member
  obtain ⟨held, waits, rfl⟩ := flushed packet member
  exact waits

/-! ### Receiving -/

section Received

variable {reception : ℕ} {α : Type}

omit transmits in
/-- **Learning** does not matter if what is known is not about the location table. -/
theorem keeps_learns (learns : ∀ table other repetitions, stock.beside table repetitions →
      stock.beside other repetitions) {act : Act α} (learning : Action.Moves Learns act) :
    Action.Keeps (Stocked stock) act := by
  refine learning.ensures fun before after learnt stocked => ?_
  obtain ⟨_, _, rfl⟩ := learnt
  exact stocked.aside rfl rfl rfl rfl (learns _ _ _ stocked.beside)

omit transmits in
/-- **Receiving keeps to it**, if what is known is enough to forward what is received. -/
theorem receives (transmits : stock.Transmits platform env (Stocked stock)) {H : VariantPdu → Prop}
    (learns : ∀ table other repetitions, stock.beside table repetitions → stock.beside other repetitions)
    (waits : ∀ (pdu : GbcPdu) packet ll, H pdu.toVariant →
      (pdu.extended.destination pdu.common.headerType).isSome = true →
        stock.WaitsGbc GbcAction.transmit (forwardingDuplicate reception pdu packet ll)) :
    Receives platform env reception (Stocked stock) H where
  tells _ silent _ := transmits.emit silent
  detectsAddress _ _ := keeps_learns learns (learns_detectDuplicateAddress _ _)
  detectsPacket _ _ := keeps_learns learns (learns_detectDuplicatePacket _ _)
  hearsGbc _ _ _ := keeps_learns learns (learns_updateGbcSource _ _ _)
  hearsShb _ _ _ _ _ _ := keeps_learns learns (learns_processExtendedShb _ _ _)
  hearsBeacon _ _ _ := keeps_learns learns (learns_processExtendedBeacon _ _ _)
  remembers _ _ stocked := stocked.aside rfl rfl rfl rfl stocked.beside
  flushes := transmits.flushUnicast
  buffers _ packet ll known directed := pushBroadcast (waits _ packet ll known directed)
  processes _ packet ll known directed := transmits.processGbc (waits _ packet ll known directed)

end Received

end Stock.Transmits

/-! ### Requests and callbacks -/

/-- **What requests need**, of which something is known, and with them their repetitions. -/
structure Stock.Requests (stock : Stock) (platform : Platform) (env : Environment) (E : Router → Prop)
    (wanted : DataRequestVariant → ChunkPacket → Prop) : Prop
    extends sends : stock.Transmits platform env E where
  repeats : ∀ router request payload ref, Stocked stock router → wanted request payload →
    request.request.repetition.isSome = true →
      stock.beside router.locationTable (⟨ref, request, payload⟩ :: router.repetitions)
  createsShb : ∀ request payload, wanted (.shb request) payload →
    Action.Ensures (Stocked stock) (createShbPdu platform env request)
      (fun pdu router => Stocked stock router ∧ stock.waits (withPayloadSize pdu payload).toVariant payload
        (.source ⟨request.itsAid, request.communicationProfile⟩)) E
  createsGbc : ∀ request destination payload, wanted (.gbc request destination) payload →
    Action.Ensures (Stocked stock) (createGbcPdu platform request destination)
      (fun pdu router => Stocked stock router ∧ stock.waits (withPayloadSize pdu payload).toVariant payload
        (.source ⟨request.itsAid, request.communicationProfile⟩)) E
  asserts : ∀ router node, Stocked stock router → node ∈ router.repetitions →
    node.request.request.repetition = none → ∀ later, Stocked stock later → E later
  again : ∀ router node repetition delayed, Stocked stock router → node ∈ router.repetitions →
    node.request.request.repetition = some repetition →
      wanted (node.request.withRequest (nextRequest node.request.request repetition delayed)) node.payload
  forgets : ∀ router ref, Stocked stock router → stock.beside router.locationTable
    (router.repetitions.filter fun node => node.ref ≠ ref)
  beacons : Holding (Stocked stock) E (onBeaconTimerExpired platform env)

namespace Stock.Requests

variable {stock : Stock} {platform : Platform} {env : Environment} {E : Router → Prop}
  {wanted : DataRequestVariant → ChunkPacket → Prop} (requests : stock.Requests platform env E wanted)

include requests

theorem repeaterAdd {request : DataRequestVariant} {payload : ChunkPacket} (asked : wanted request payload) :
    Holding (Stocked stock) E (repeaterAdd request payload) := by
  refine .update fun router stocked => ?_
  dsimp only
  cases repetition : request.request.repetition with
  | none => exact stocked
  | some repetition =>
    have added := requests.repeats router request payload router.nextRepetition stocked asked
      (by rw [repetition]; rfl)
    dsimp only
    split_ifs
    · exact stocked.aside rfl rfl rfl rfl added
    · exact stocked

theorem requestShb {request : DataRequest} {payload : Option ChunkPacket}
    (asked : ∀ given, payload = some given → wanted (.shb request) given) :
    Holding (Stocked stock) E (requestShb platform env request payload) := by
  unfold Router.requestShb
  cases payload with
  | none => exact holding_pure _
  | some payload =>
    refine .ite (fun _ => .bind (requests.repeaterAdd (asked _ rfl)) fun _ =>
      .bind_given (requests.createsShb request payload (asked _ rfl)) fun pdu waits =>
        .bind (holding_read _) fun _ => ?_) fun _ => holding_pure _
    refine .ite (fun _ => .bind (Transmits.pushBroadcast waits) fun _ => holding_pure _) fun _ => ?_
    exact .bind (requests.broadcasts _ waits) fun _ => holding_pure _

theorem requestGbc {request : DataRequest} {destination : Area} {payload : Option ChunkPacket}
    (asked : ∀ given, payload = some given → wanted (.gbc request destination) given) :
    Holding (Stocked stock) E (requestGbc platform env request destination payload) := by
  unfold Router.requestGbc
  cases payload with
  | none => exact holding_pure _
  | some payload =>
    refine .ite (fun _ => .bind (requests.repeaterAdd (asked _ rfl)) fun _ =>
      .bind_given (requests.createsGbc request destination payload (asked _ rfl)) fun pdu waits =>
        .bind (holding_read _) fun _ => ?_) fun _ => holding_pure _
    refine .ite (fun _ => .bind (Transmits.pushBroadcast waits) fun _ => holding_pure _) fun _ => ?_
    exact .bind (requests.sends.processGbc waits) fun _ => holding_pure _

/-- **A request.** -/
theorem request {request : DataRequestVariant} {payload : Option ChunkPacket}
    (asked : ∀ given, payload = some given → wanted request given) :
    Holding (Stocked stock) E (Router.request platform env request payload) := by
  cases request with
  | shb request => exact requests.requestShb asked
  | gbc request destination => exact requests.requestGbc asked
  | gac request destination => exact holding_pure _
  | guc request destination => exact holding_pure _
  | tsb request => exact holding_pure _

/-- **A repetition** is requested once more. -/
theorem repeaterTrigger (ref : ℕ) (invocation : ℤ) :
    Holding (Stocked stock) E (repeaterTrigger platform env ref invocation) := by
  refine .bind_given (I := Stocked stock) (F := Stocked stock)
    (.update fun _ stocked => ⟨stocked, stocked⟩) fun router stocked => ?_
  dsimp only
  cases found : router.repetitions.find? fun node => node.ref = ref with
  | none => exact holding_pure _
  | some node =>
    have member : node ∈ router.repetitions := List.mem_of_find?_eq_some found
    dsimp only
    cases stored : node.request.request.repetition with
    | none => exact .fail (requests.asserts router node stocked member stored)
    | some repetition =>
      have asked := requests.again router node repetition (router.now - invocation) stocked member stored
      refine .bind (requests.request fun given same => ?_) fun _ => .update fun later kept =>
        kept.aside rfl rfl rfl rfl (requests.forgets later ref kept)
      cases same
      exact asked

/-- **A callback.** -/
theorem invoke (callback : RouterCallback) (deadline : ℤ) :
    Holding (Stocked stock) E (invoke platform env callback deadline) := by
  cases callback with
  | beaconTimerExpired => exact requests.beacons
  | flushCbfBuffer => exact requests.sends.flushCbf
  | triggerRepetition ref => exact requests.repeaterTrigger ref deadline

end Stock.Requests

end Vanet.Geonet
