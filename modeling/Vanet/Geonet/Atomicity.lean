/-
**Requests that fail, and what they leave behind.**

A request that has been validated stores its repetition first and creates its PDU then; a GeoBroadcast
packet has its sequence number before it is secured. Of the later steps only these two can fail: the
upper protocol may not be known, and the security entity may be missing when a packet is to be
transmitted.

* `completes_processShb`, `completes_processGbc`: a packet of the router's own is transmitted or
  buffered, unless the security entity is missing.
* `request_untouched_iff`: a request that is rejected or fails leaves the router as it was exactly
  when it is rejected by its validation, or has nothing stored yet where it fails.
* `repeaterTrigger_throws`: a stored repetition that is not supported throws in its timer.
-/

import Vanet.Geonet.Station

namespace Vanet.Geonet

open Vanet.Common Vanet.Library
open Vanet.Net hiding ByteBuffer
open Act Action

namespace Router

variable {platform : Platform} {env : Environment} {router : Router}

/-- A read before a failure. -/
theorem aborts_read_bind {α β : Type} {get : Router → α} {next : α → Act β}
    (rest : Aborts (next (get router)) router) : Aborts (read get >>= next) router :=
  .of_ok rfl rest

/-! ### Transmitting -/

/-- `encap_packet` has to be called and throws. -/
def SecurityMissing (platform : Platform) (env : Environment) : Prop :=
  platform.mib.itsGnSecurity = true ∧ env.securityEntity = none

/-- The PDU is not secured yet, and its basic header tells whether it has to be. -/
structure Prepared {H : Type} (platform : Platform) (pdu : ExtendedPdu H) : Prop where
  unsecured : pdu.secured = none
  flagged : pdu.basic.nextHeader = if platform.mib.itsGnSecurity then .secured else .common

/-- What `pass_down` checks. -/
def Sendable (pdu : VariantPdu) (payload : ChunkPacket) : Prop :=
  match pdu.secured with
  | some _ => pdu.basic.nextHeader = .secured ∧ payload.sizeRange .transport .application = 0
  | none => pdu.basic.nextHeader ≠ .secured

theorem completes_passDown {origin : Origin} {request : Dcc.DataRequest} {pdu : VariantPdu}
    {payload : ChunkPacket} (sendable : Sendable pdu payload) :
    Completes (passDown origin request pdu payload) router := by
  unfold Sendable at sendable
  unfold passDown
  cases secured : pdu.secured with
  | some message =>
    rw [secured] at sendable
    dsimp only at sendable ⊢
    rw [if_neg (not_not.mpr sendable.1), if_neg (by omega)]
    exact .update
  | none =>
    rw [secured] at sendable
    dsimp only at sendable ⊢
    rw [if_neg sendable]
    exact .update

theorem executeMediaProcedures_ok (comProfile : CommunicationProfile) :
    executeMediaProcedures comProfile router = (.ok (), router) := by
  cases comProfile <;> rfl

section Secure

variable {H : Type} [ExtendedHeader H] {itsAid : ItsAid} {pdu : ExtendedPdu H} {packet : ChunkPacket}

theorem aborts_secure (missing : SecurityMissing platform env) :
    Aborts (secure platform env itsAid pdu packet) router := by
  unfold secure encapPacket
  rw [if_pos missing.1, missing.2]
  exact .fail _

/-- Otherwise the PDU can be passed down then, and nothing has changed. -/
theorem secure_ok (prepared : Prepared platform pdu) (present : ¬ SecurityMissing platform env) :
    ∃ pdu' payload, secure platform env itsAid pdu packet router = (.ok (pdu', payload), router) ∧
      Sendable pdu'.toVariant payload := by
  unfold secure
  by_cases security : platform.mib.itsGnSecurity = true
  · rw [if_pos security]
    have flagged : pdu.basic.nextHeader = .secured := by rw [prepared.flagged, if_pos security]
    unfold encapPacket
    cases entity : env.securityEntity with
    | none => exact absurd ⟨security, entity⟩ present
    | some entity =>
      dsimp only
      rw [Act.read_bind, if_neg (not_not.mpr flagged)]
      exact ⟨_, _, rfl, flagged, rfl⟩
  · rw [if_neg security]
    refine ⟨pdu, packet, rfl, ?_⟩
    show match pdu.secured with
      | some _ => _
      | none => pdu.basic.nextHeader ≠ .secured
    rw [prepared.unsecured, prepared.flagged, if_neg security]
    exact (by decide : NextHeaderBasic.common ≠ .secured)

end Secure

/-! ### Own packets -/

/-- A packet of the router's own at any point of time. -/
theorem Prepared.positioned {H : Type} {pdu : ExtendedPdu H} (prepared : Prepared platform pdu)
    (extended : H) : Prepared platform { pdu with extended } :=
  ⟨prepared.unsecured, prepared.flagged⟩

theorem aborts_processShb (packet : PendingPacketShb) (missing : SecurityMissing platform env) :
    Aborts (processShb platform env packet) router := by
  unfold processShb
  exact .of_ok rfl (.bind (aborts_secure missing))

theorem completes_processShb (router : Router) {packet : PendingPacketShb}
    (prepared : Prepared platform packet.pdu)
    (present : ¬ SecurityMissing platform env) :
    Completes (processShb platform env packet) router := by
  unfold processShb
  refine .of_ok rfl ?_
  obtain ⟨pdu, payload, ran, sendable⟩ := secure_ok (prepared.positioned _) present
  refine .of_ok ran ?_
  refine .of_ok (executeMediaProcedures_ok _) ?_
  exact .bind (.of_ok rfl (completes_passDown sendable)) fun _ _ => .update

/-- `greedy_forwarding` finds no neighbour that is closer to the destination than the router. -/
def NoneCloser (platform : Platform) (router : Router) (dest : GeodeticPosition) : Prop :=
  (mostForward platform dest
    (platform.geometry.distance dest router.localPositionVector.position)
    (router.locationTable.neighbours router.now)).1 = none

/-- Greedy forwarding of an own packet to the destination puts it into the buffer. -/
def BuffersGreedily (platform : Platform) (router : Router) (trafficClass : TrafficClass)
    (destination : Area) : Prop :=
  trafficClass.storeCarryForward = true ∧
    platform.geometry.insideOrAtBorder destination router.localPositionVector.position = false ∧
    platform.mib.itsGnNonAreaForwardingAlgorithm ≠ .cbf ∧
    NoneCloser platform router destination.position

theorem position_of_destination {gbc : GeoBroadcastHeader} {ht : HeaderType} {destination : Area}
    (told : gbc.destination ht = some destination) : gbc.position = destination.position := by
  unfold GeoBroadcastHeader.destination at told
  split_ifs at told <;> cases told <;> rfl

/-- Looking for a next hop buffers the packet, on the condition, and has a hop for it otherwise. -/
def HopsUnless (buffers : Prop) (packet : PendingPacketForwarding) (act : Act NextHop)
    (router : Router) : Prop :=
  ∃ hop after, act router = (.ok hop, after) ∧
    (buffers ∧ hop = .buffered ∨ ¬ buffers ∧ after = router ∧ ∃ mac, hop = .valid packet mac)

theorem HopsUnless.valid {buffers : Prop} {packet : PendingPacketForwarding} {mac : MacAddress}
    (unbuffered : ¬ buffers) : HopsUnless buffers packet (pure (.valid packet mac)) router :=
  ⟨_, _, rfl, .inr ⟨unbuffered, rfl, mac, rfl⟩⟩

theorem greedyForwarding_hops (platform : Platform) (router : Router)
    (packet : PendingPacketForwarding) :
    HopsUnless (packet.pdu.common.trafficClass.storeCarryForward = true ∧
      NoneCloser platform router packet.pdu.extended.position) packet
      (greedyForwarding platform packet) router := by
  unfold greedyForwarding NoneCloser HopsUnless
  rw [Act.read_bind]
  dsimp only [id_eq]
  cases closest : (mostForward platform packet.pdu.extended.position
    (platform.geometry.distance packet.pdu.extended.position router.localPositionVector.position)
    (router.locationTable.neighbours router.now)).1 with
  | some mac => exact HopsUnless.valid fun buffers => nomatch buffers.2
  | none =>
    dsimp only
    split_ifs with carried
    · exact ⟨_, _, rfl, .inl ⟨⟨carried, rfl⟩, rfl⟩⟩
    · exact HopsUnless.valid fun buffers => carried buffers.1

/-- **The forwarding algorithm of an own packet.** -/
theorem selection_hops (platform : Platform) (env : Environment) (router : Router)
    (packet : PendingPacketForwarding) {destination : Area}
    (told : packet.pdu.extended.destination packet.pdu.common.headerType = some destination) :
    HopsUnless (BuffersGreedily platform router packet.pdu.common.trafficClass destination) packet
      (forwardingAlgorithmSelection platform env packet none) router := by
  unfold forwardingAlgorithmSelection destinationArea HopsUnless BuffersGreedily
  rw [told]
  dsimp only
  rw [Action.bind_of_pure, Act.read_bind]
  by_cases inside : platform.geometry.insideOrAtBorder destination
      router.localPositionVector.position = true
  · rw [if_pos inside, inside]
    cases platform.mib.itsGnAreaForwardingAlgorithm <;>
      exact HopsUnless.valid fun buffers => nomatch buffers.2.1
  · rw [if_neg inside, Act.read_bind, Bool.eq_false_iff.mpr inside]
    have greedy := greedyForwarding_hops platform router packet
    rw [position_of_destination told] at greedy
    cases platform.mib.itsGnNonAreaForwardingAlgorithm with
    | cbf => exact HopsUnless.valid fun buffers => buffers.2.2.1 rfl
    | greedy => simpa [HopsUnless] using greedy
    | unspecified => simpa [HopsUnless] using greedy

/-- What a GeoBroadcast packet of the router's own is when it is processed at once. -/
structure OwnGbc (platform : Platform) (destination : Area) (packet : PendingPacketGbc)
    (ctrl : ControlInfo) : Prop where
  action : packet.action = .forwarding (.source ctrl) none
  prepared : Prepared platform packet.pdu
  told : packet.pdu.extended.destination packet.pdu.common.headerType = some destination

section OwnGbc

variable {packet : PendingPacketGbc} {destination : Area} {ctrl : ControlInfo}

theorem aborts_processGbc (env : Environment) (own : OwnGbc platform destination packet ctrl)
    (missing : SecurityMissing platform env)
    (unbuffered : ¬ BuffersGreedily platform router packet.pdu.common.trafficClass destination) :
    Aborts (processGbc platform env packet) router := by
  unfold processGbc
  rw [own.action]
  obtain ⟨hop, after, ran, ⟨buffers, -⟩ | ⟨-, rfl, mac, rfl⟩⟩ :=
    selection_hops platform env router (packet.withAction (.source ctrl)) own.told
  · exact absurd buffers unbuffered
  · exact .of_ok ran (.of_ok rfl (.bind (aborts_secure missing)))

theorem completes_processGbc (env : Environment) (own : OwnGbc platform destination packet ctrl)
    (transmittable : SecurityMissing platform env →
      BuffersGreedily platform router packet.pdu.common.trafficClass destination) :
    Completes (processGbc platform env packet) router := by
  unfold processGbc
  rw [own.action]
  obtain ⟨hop, after, ran, ⟨-, rfl⟩ | ⟨unbuffered, rfl, mac, rfl⟩⟩ :=
    selection_hops platform env router (packet.withAction (.source ctrl)) own.told
  · exact .of_ok ran .pure
  · refine .of_ok ran ?_
    obtain ⟨pdu, payload, secured, sendable⟩ :=
      secure_ok (own.prepared.positioned _) fun missing => unbuffered (transmittable missing)
    refine .of_ok rfl (.of_ok secured ?_)
    exact .of_ok (executeMediaProcedures_ok _) (.of_ok rfl (completes_passDown sendable))

end OwnGbc

/-! ### Requests -/

/-- The request passes its validation. -/
def Accepts (platform : Platform) : DataRequestVariant → Option ChunkPacket → Prop
  | .shb request, payload =>
    (validateDataRequest request platform.mib).combine (validatePayload payload platform.mib) =
      .accepted
  | .gbc request destination, payload =>
    (validateDataRequestWithArea platform.geometry.areaSize request destination platform.mib).combine
      (validatePayload payload platform.mib) = .accepted
  | _, _ => False

/-- The packet is to wait for a neighbour. -/
def Waits (router : Router) (trafficClass : TrafficClass) : Prop :=
  trafficClass.storeCarryForward = true ∧
    (!router.locationTable.hasNeighbours router.now) = true

/-- The packet of the request is not buffered. -/
def TransmitsAtOnce (platform : Platform) (router : Router) : DataRequestVariant → Prop
  | .shb request => ¬ Waits router request.trafficClass
  | .gbc request destination =>
    ¬ Waits router request.trafficClass ∧
      ¬ BuffersGreedily platform router request.trafficClass destination
  | _ => False

/-- **A step after the validation fails.** -/
def Fails (platform : Platform) (env : Environment) (router : Router) (request : DataRequestVariant) :
    Prop :=
  request.request.upperProtocol = .unknown ∨
    SecurityMissing platform env ∧ TransmitsAtOnce platform router request

/-- **Nothing has been stored** before the step that fails: no repetition, and no sequence number
taken. -/
def StoresNothing : DataRequestVariant → Prop
  | .gbc request _ => request.hasFurtherRepetition = false ∧ request.upperProtocol = .unknown
  | request => request.request.hasFurtherRepetition = false

/-- **No trace of a request**: the repeater, the sequence number, all packet buffers, what has been
passed down and the timers are as before. -/
structure Untouched (before after : Router) : Prop where
  repetitions : after.repetitions = before.repetitions
  localSequenceNumber : after.localSequenceNumber = before.localSequenceNumber
  bcForwardBuffer : after.bcForwardBuffer = before.bcForwardBuffer
  ucForwardBuffer : after.ucForwardBuffer = before.ucForwardBuffer
  cbfBuffer : after.cbfBuffer = before.cbfBuffer
  trace : after.trace = before.trace
  runtime : after.runtime = before.runtime

theorem Untouched.refl (router : Router) : Untouched router router :=
  ⟨rfl, rfl, rfl, rfl, rfl, rfl, rfl⟩

/-- The routers look the same to forwarding. -/
structure Alike (router other : Router) : Prop where
  position : other.localPositionVector = router.localPositionVector
  table : other.locationTable = router.locationTable
  now : other.now = router.now

theorem Alike.waits {other : Router} (alike : Alike router other) (trafficClass : TrafficClass) :
    Waits other trafficClass ↔ Waits router trafficClass := by
  unfold Waits
  rw [alike.table, alike.now]

theorem Alike.buffersGreedily {other : Router} (alike : Alike router other)
    (trafficClass : TrafficClass) (destination : Area) :
    BuffersGreedily platform other trafficClass destination ↔
      BuffersGreedily platform router trafficClass destination := by
  unfold BuffersGreedily NoneCloser
  rw [alike.position, alike.table, alike.now]

/-- **The repeater** stores a request that has a further repetition. -/
theorem repeaterAdd_ok (request : DataRequestVariant) (payload : ChunkPacket) (router : Router) :
    ∃ stored, repeaterAdd request payload router = (.ok (), stored) ∧ Alike router stored ∧
      stored.localSequenceNumber = router.localSequenceNumber ∧
      (request.request.hasFurtherRepetition = false → stored = router) ∧
      (request.request.hasFurtherRepetition = true →
        stored.repetitions.length = router.repetitions.length + 1) := by
  refine ⟨_, rfl, ?_⟩
  unfold DataRequest.hasFurtherRepetition
  dsimp only
  cases repetition : request.request.repetition with
  | none => exact ⟨⟨rfl, rfl, rfl⟩, rfl, fun _ => rfl, nofun⟩
  | some repetition =>
    dsimp only [Option.any_some]
    split_ifs with further
    · exact ⟨⟨rfl, rfl, rfl⟩, rfl, fun last => absurd further (by rw [last]; decide), fun _ => rfl⟩
    · exact ⟨⟨rfl, rfl, rfl⟩, rfl, fun _ => rfl, fun repeats => absurd repeats further⟩

/-- What has been stored when an accepted request goes on. -/
theorem Accepts.payload {request : DataRequestVariant} {payload : Option ChunkPacket}
    (accepted : Accepts platform request payload) : ∃ bytes, payload = some bytes := by
  cases payload with
  | some bytes => exact ⟨bytes, rfl⟩
  | none =>
    cases request
    all_goals
      unfold Accepts validatePayload ResultCode.combine at accepted
      simp at accepted

/-- A request whose repetition has been stored is not untouched any more. -/
theorem Untouched.further {stored after : Router} (untouched : Untouched router after)
    (request : DataRequestVariant) (same : after.repetitions = stored.repetitions)
    (repeats : request.request.hasFurtherRepetition = true →
      stored.repetitions.length = router.repetitions.length + 1) :
    request.request.hasFurtherRepetition = false := by
  rw [Bool.eq_false_iff]
  intro further
  have longer := repeats further
  rw [← same, untouched.repetitions] at longer
  omega

/-! ### PDUs of requests -/

theorem aborts_commonHeaderOf {request : DataRequest} (unknown : request.upperProtocol = .unknown) :
    Aborts (commonHeaderOf platform request) router := by
  unfold commonHeaderOf CommonHeader.ofRequest
  rw [unknown]
  exact .fail _

theorem commonHeaderOf_ok (platform : Platform) (router : Router) {request : DataRequest}
    (known : request.upperProtocol ≠ .unknown) :
    ∃ common : CommonHeader, commonHeaderOf platform request router = (.ok common, router) ∧
      common.trafficClass = request.trafficClass := by
  unfold commonHeaderOf CommonHeader.ofRequest
  cases upper : request.upperProtocol with
  | unknown => exact absurd upper known
  | btpA => exact ⟨_, rfl, rfl⟩
  | btpB => exact ⟨_, rfl, rfl⟩
  | ipv6 => exact ⟨_, rfl, rfl⟩

theorem createShbPdu_ok (platform : Platform) (env : Environment) (router : Router)
    {request : DataRequest} (known : request.upperProtocol ≠ .unknown) :
    ∃ pdu, createShbPdu platform env request router = (.ok pdu, router) ∧
      Prepared platform pdu := by
  obtain ⟨common, ran, -⟩ := commonHeaderOf_ok platform router known
  unfold createShbPdu
  rw [Action.bind_of_ok ran]
  exact ⟨_, rfl, rfl, rfl⟩

/-- The sequence number is taken when the PDU is created. -/
theorem createGbcPdu_ok (platform : Platform) (router : Router) {request : DataRequest}
    (known : request.upperProtocol ≠ .unknown)
    (destination : Area) :
    ∃ pdu, createGbcPdu platform request destination router =
        (.ok pdu, { router with localSequenceNumber := router.localSequenceNumber + 1 }) ∧
      Prepared platform pdu ∧ pdu.common.trafficClass = request.trafficClass ∧
      pdu.extended.destination pdu.common.headerType = some destination := by
  obtain ⟨common, ran, same⟩ := commonHeaderOf_ok platform router known
  unfold createGbcPdu
  rw [Action.bind_of_ok ran]
  exact ⟨_, rfl, ⟨rfl, rfl⟩, same, GeoBroadcastHeader.destination_setDestination _ destination⟩

/-! ### Single-hop broadcasts -/

section Shb

variable {request : DataRequest} {payload : Option ChunkPacket}

theorem requestShb_rejected (rejected : ¬ Accepts platform (.shb request) payload) :
    ∃ code, code ≠ .accepted ∧ requestShb platform env request payload router = (.ok code, router) := by
  refine ⟨_, rejected, ?_⟩
  unfold Accepts at rejected
  unfold requestShb
  cases payload with
  | none => rfl
  | some payload =>
    dsimp only
    rw [if_neg rejected]
    rfl

theorem requestShb_fails (env : Environment) (router : Router)
    (accepted : Accepts platform (.shb request) payload)
    (fails : Fails platform env router (.shb request)) :
    ∃ fault stored, requestShb platform env request payload router = (.error fault, stored) ∧
      (request.hasFurtherRepetition = false → stored = router) ∧
      (request.hasFurtherRepetition = true →
        stored.repetitions.length = router.repetitions.length + 1) := by
  obtain ⟨bytes, rfl⟩ := accepted.payload
  obtain ⟨stored, added, alike, -, last, further⟩ := repeaterAdd_ok (.shb request) bytes router
  suffices aborts : Aborts _ stored by
    obtain ⟨fault, ran⟩ := aborts
    refine ⟨fault, stored, ?_, last, further⟩
    unfold Accepts at accepted
    unfold requestShb
    dsimp only
    rw [if_pos accepted, Action.bind_of_ok added]
    exact ran
  by_cases known : request.upperProtocol = .unknown
  · exact .bind (.bind (aborts_commonHeaderOf known))
  · obtain unknown | ⟨missing, transmits⟩ := fails
    · exact absurd unknown known
    · obtain ⟨pdu, created, -⟩ := createShbPdu_ok platform env stored known
      refine .of_ok created (aborts_read_bind ?_)
      split_ifs with waits
      · exact absurd ((alike.waits _).mp waits) transmits
      · exact .bind (aborts_processShb _ missing)

/-- The packet of a request, as it is transmitted. -/
theorem ownShb_request {pdu : ShbPdu} (prepared : Prepared platform pdu) (bytes : ChunkPacket)
    (ctrl : ControlInfo) :
    Prepared platform (PendingPacket.mk (withPayloadSize pdu bytes) bytes ctrl).pdu :=
  ⟨prepared.unsecured, prepared.flagged⟩

theorem requestShb_completes (accepted : Accepts platform (.shb request) payload)
    (works : ¬ Fails platform env router (.shb request)) :
    ∃ after, requestShb platform env request payload router = (.ok .accepted, after) := by
  obtain ⟨bytes, rfl⟩ := accepted.payload
  obtain ⟨stored, added, alike, -, -, -⟩ := repeaterAdd_ok (.shb request) bytes router
  obtain ⟨known, transmittable⟩ := not_or.mp works
  obtain ⟨pdu, created, prepared⟩ := createShbPdu_ok platform env stored known
  unfold Accepts at accepted
  unfold requestShb
  dsimp only
  rw [if_pos accepted, Action.bind_of_ok added]
  dsimp only [DataRequestVariant.request] at created
  rw [Action.bind_of_ok created, Act.read_bind, accepted]
  split_ifs with waits
  · exact ⟨_, rfl⟩
  · have present : ¬ SecurityMissing platform env := fun missing =>
      transmittable ⟨missing, fun waiting => waits ((alike.waits _).mpr waiting)⟩
    obtain ⟨_, after, ran⟩ := completes_processShb stored
      (ownShb_request prepared bytes ⟨request.itsAid, request.communicationProfile⟩) present
    rw [Action.bind_of_ok ran]
    exact ⟨after, rfl⟩

end Shb

/-! ### GeoBroadcasts -/

section Gbc

variable {request : DataRequest} {destination : Area} {payload : Option ChunkPacket}

theorem requestGbc_rejected (rejected : ¬ Accepts platform (.gbc request destination) payload) :
    ∃ code, code ≠ .accepted ∧
      requestGbc platform env request destination payload router = (.ok code, router) := by
  refine ⟨_, rejected, ?_⟩
  unfold Accepts at rejected
  unfold requestGbc
  cases payload with
  | none => rfl
  | some payload =>
    dsimp only
    rw [if_neg rejected]
    rfl

/-- The packet of a request, as it is processed at once. -/
theorem ownGbc_request {pdu : GbcPdu} (prepared : Prepared platform pdu) (bytes : ChunkPacket)
    (told : pdu.extended.destination pdu.common.headerType = some destination) (ctrl : ControlInfo) :
    OwnGbc platform destination
      ⟨withPayloadSize pdu bytes, bytes, .forwarding (.source ctrl) none⟩ ctrl :=
  ⟨rfl, ⟨prepared.unsecured, prepared.flagged⟩, told⟩

theorem requestGbc_fails (env : Environment) (router : Router)
    (accepted : Accepts platform (.gbc request destination) payload)
    (fails : Fails platform env router (.gbc request destination)) :
    ∃ fault stored taken, requestGbc platform env request destination payload router =
        (.error fault, taken) ∧
      (request.hasFurtherRepetition = false → stored = router) ∧
      (request.hasFurtherRepetition = true →
        stored.repetitions.length = router.repetitions.length + 1) ∧
      taken.repetitions = stored.repetitions ∧
      (request.upperProtocol = .unknown → taken = stored) ∧
      (request.upperProtocol ≠ .unknown →
        taken.localSequenceNumber = router.localSequenceNumber + 1) := by
  obtain ⟨bytes, rfl⟩ := accepted.payload
  obtain ⟨stored, added, alike, number, last, further⟩ :=
    repeaterAdd_ok (.gbc request destination) bytes router
  unfold Accepts at accepted
  unfold requestGbc
  dsimp only
  rw [if_pos accepted, Action.bind_of_ok added]
  by_cases known : request.upperProtocol = .unknown
  · have aborts : Aborts (createGbcPdu platform request destination) stored :=
      .bind (aborts_commonHeaderOf known)
    obtain ⟨fault, ran⟩ := aborts
    exact ⟨fault, stored, stored, Action.bind_of_error ran, last, further, rfl, fun _ => rfl,
      fun unknown => absurd known unknown⟩
  · obtain unknown | ⟨missing, unwaiting, unbuffered⟩ := fails
    · exact absurd unknown known
    · obtain ⟨pdu, created, prepared, same, told⟩ :=
        createGbcPdu_ok platform stored known destination
      rw [Action.bind_of_ok created, Act.read_bind]
      split_ifs with waits
      · exact absurd ((alike.waits _).mp waits) unwaiting
      · have unbuffered : ¬ BuffersGreedily platform
            { stored with localSequenceNumber := stored.localSequenceNumber + 1 }
            pdu.common.trafficClass destination := by
          rw [same]
          exact fun buffers => unbuffered ((alike.buffersGreedily _ _).mp buffers)
        obtain ⟨fault, ran⟩ := aborts_processGbc env
          (ownGbc_request prepared bytes told ⟨request.itsAid, request.communicationProfile⟩)
          missing unbuffered
        refine ⟨fault, stored, _, Action.bind_of_error ran, last, further, rfl,
          fun unknown => absurd unknown known, fun _ => ?_⟩
        show stored.localSequenceNumber + 1 = _
        rw [number]

theorem requestGbc_completes (accepted : Accepts platform (.gbc request destination) payload)
    (works : ¬ Fails platform env router (.gbc request destination)) :
    ∃ after, requestGbc platform env request destination payload router =
      (.ok .accepted, after) := by
  obtain ⟨bytes, rfl⟩ := accepted.payload
  obtain ⟨stored, added, alike, -, -, -⟩ := repeaterAdd_ok (.gbc request destination) bytes router
  obtain ⟨known, transmittable⟩ := not_or.mp works
  obtain ⟨pdu, created, prepared, same, told⟩ :=
    createGbcPdu_ok platform stored known destination
  unfold Accepts at accepted
  unfold requestGbc
  dsimp only
  rw [if_pos accepted, Action.bind_of_ok added]
  dsimp only [DataRequestVariant.request] at created
  rw [Action.bind_of_ok created, Act.read_bind, accepted]
  split_ifs with waits
  · exact ⟨_, rfl⟩
  · have transmittable (missing : SecurityMissing platform env) : BuffersGreedily platform
        { stored with localSequenceNumber := stored.localSequenceNumber + 1 }
        pdu.common.trafficClass destination := by
      by_contra unbuffered
      refine transmittable ⟨missing, fun waiting => waits ((alike.waits _).mpr waiting), ?_⟩
      intro buffers
      rw [same] at unbuffered
      exact unbuffered ((alike.buffersGreedily _ _).mpr buffers)
    obtain ⟨_, after, ran⟩ := completes_processGbc env
      (ownGbc_request prepared bytes told ⟨request.itsAid, request.communicationProfile⟩)
      transmittable
    rw [Action.bind_of_ok ran]
    exact ⟨after, rfl⟩

end Gbc

/-! ### All requests -/

/-- What a request that is not accepted, or that completes, has to satisfy is satisfied. -/
theorem untouched_of_unfailed {outcome : Except RouterFault ResultCode × Router}
    {accepts fails storesNothing : Prop}
    (rejected : ¬ accepts → ∃ code, outcome = (.ok code, router))
    (completes : accepts → ¬ fails → ∃ after, outcome = (.ok .accepted, after))
    (unfailed : ¬ (accepts ∧ fails)) :
    (outcome.1 ≠ .ok .accepted → Untouched router outcome.2) ↔
      (accepts → fails → storesNothing) := by
  refine iff_of_true ?_ fun accepted failed => absurd ⟨accepted, failed⟩ unfailed
  intro ending
  by_cases accepted : accepts
  · obtain ⟨after, rfl⟩ := completes accepted fun failed => unfailed ⟨accepted, failed⟩
    exact absurd rfl ending
  · obtain ⟨code, rfl⟩ := rejected accepted
    exact .refl router

theorem requestShb_untouched_iff (request : DataRequest) (payload : Option ChunkPacket) :
    ((requestShb platform env request payload router).1 ≠ .ok .accepted →
        Untouched router (requestShb platform env request payload router).2) ↔
      (Accepts platform (.shb request) payload → Fails platform env router (.shb request) →
        request.hasFurtherRepetition = false) := by
  by_cases failing : Accepts platform (.shb request) payload ∧ Fails platform env router (.shb request)
  · obtain ⟨accepted, fails⟩ := failing
    obtain ⟨fault, stored, ran, last, further⟩ := requestShb_fails env router accepted fails
    rw [ran]
    constructor
    · intro untouched _ _
      exact (untouched nofun).further (.shb request) rfl further
    · intro stores _
      rw [last (stores accepted fails)]
      exact .refl router
  · refine untouched_of_unfailed (fun rejected => ?_) requestShb_completes failing
    obtain ⟨code, -, ran⟩ := requestShb_rejected rejected
    exact ⟨code, ran⟩

theorem requestGbc_untouched_iff (request : DataRequest) (destination : Area)
    (payload : Option ChunkPacket) :
    ((requestGbc platform env request destination payload router).1 ≠ .ok .accepted →
        Untouched router (requestGbc platform env request destination payload router).2) ↔
      (Accepts platform (.gbc request destination) payload →
        Fails platform env router (.gbc request destination) →
        request.hasFurtherRepetition = false ∧ request.upperProtocol = .unknown) := by
  by_cases failing : Accepts platform (.gbc request destination) payload ∧
      Fails platform env router (.gbc request destination)
  · obtain ⟨accepted, fails⟩ := failing
    obtain ⟨fault, stored, taken, ran, last, further, same, unknown, known⟩ :=
      requestGbc_fails env router accepted fails
    rw [ran]
    constructor
    · intro untouched _ _
      refine ⟨(untouched nofun).further (.gbc request destination) same further, ?_⟩
      by_contra supported
      have number := (untouched nofun).localSequenceNumber
      rw [known supported] at number
      exact absurd number (by grind)
    · intro stores _
      obtain ⟨final, unsupported⟩ := stores accepted fails
      rw [unknown unsupported, last final]
      exact .refl router
  · refine untouched_of_unfailed (fun rejected => ?_) requestGbc_completes failing
    obtain ⟨code, -, ran⟩ := requestGbc_rejected rejected
    exact ⟨code, ran⟩

/-- **A request that is rejected or fails leaves no trace** exactly when it is not accepted, or
nothing has been stored where it fails. -/
theorem request_untouched_iff (platform : Platform) (env : Environment) (router : Router)
    (variant : DataRequestVariant) (payload : Option ChunkPacket) :
    ((request platform env variant payload router).1 ≠ .ok .accepted →
        Untouched router (request platform env variant payload router).2) ↔
      (Accepts platform variant payload → Fails platform env router variant →
        StoresNothing variant) := by
  cases variant with
  | shb request => exact requestShb_untouched_iff request payload
  | gbc request destination => exact requestGbc_untouched_iff request destination payload
  | gac request destination => exact iff_of_true (fun _ => .refl router) nofun
  | guc request destination => exact iff_of_true (fun _ => .refl router) nofun
  | tsb request => exact iff_of_true (fun _ => .refl router) nofun

/-- A request for an unsupported protocol that is repeated every tenth of a second. -/
def unsupportedRequest : DataRequest :=
  ⟨.unknown, .itsG5, 36, .set .tenSeconds 1, some ⟨100000, 1000000⟩, 10, ⟨0⟩⟩

/-- **Its repetition stays in the repeater** after the request has thrown. -/
theorem unsupported_repeats : ¬ ∀ (platform : Platform) (env : Environment) (router : Router)
    (variant : DataRequestVariant) (payload : Option ChunkPacket),
    (request platform env variant payload router).1 ≠ .ok .accepted →
      Untouched router (request platform env variant payload router).2 := by
  intro always
  have untouched := always ⟨Mib.initial, flatland⟩ insecure (.create Mib.initial 0 0)
    (.shb unsupportedRequest) (some .empty) (by decide +kernel)
  have stored : (request ⟨Mib.initial, flatland⟩ insecure (.shb unsupportedRequest) (some .empty)
      (.create Mib.initial 0 0)).2.repetitions.length = 1 := by decide +kernel
  rw [untouched.repetitions] at stored
  exact absurd stored (by decide +kernel)

/-! ### Repetitions of what is not supported -/

theorem combine_eq_accepted (lhs rhs : ResultCode) :
    lhs.combine rhs = .accepted ↔ lhs = .accepted ∧ rhs = .accepted := by
  unfold ResultCode.combine
  split_ifs with accepted
  · exact (and_iff_left accepted).symm
  · exact iff_of_false accepted fun both => accepted both.2

/-- The request of the next repetition is valid as the request before. -/
theorem validateDataRequest_next {request : DataRequest} {repetition : Repetition} {mib : Mib}
    (repeats : request.repetition = some repetition) (delayed : ℤ)
    (valid : validateDataRequest request mib = .accepted) :
    validateDataRequest (nextRequest request repetition delayed) mib = .accepted := by
  have interval : repetition.decrementByOne.interval = repetition.interval := by
    unfold Repetition.decrementByOne
    split_ifs <;> rfl
  have frequent : (nextRequest request repetition delayed).repetition.any (fun repetition =>
      repetition.interval < mib.itsGnMinPacketRepetitionInterval) →
      request.repetition.any fun repetition =>
        repetition.interval < mib.itsGnMinPacketRepetitionInterval := by
    rw [repeats]
    unfold nextRequest
    dsimp only
    split_ifs with further
    · simp [interval]
    · simp
  have lifetime : (nextRequest request repetition delayed).maximumLifetime =
      request.maximumLifetime := by
    unfold nextRequest
    dsimp only
    split_ifs <;> rfl
  unfold validateDataRequest at valid ⊢
  rw [lifetime]
  split_ifs at valid with long short
  rw [if_neg long, if_neg fun again => short (frequent again)]

/-- A repetition passes the validation again. -/
theorem Accepts.next {variant : DataRequestVariant} {payload : Option ChunkPacket}
    {repetition : Repetition} (accepted : Accepts platform variant payload)
    (repeats : variant.request.repetition = some repetition) (delayed : ℤ) :
    Accepts platform (variant.withRequest (nextRequest variant.request repetition delayed))
      payload := by
  cases variant with
  | shb request =>
    obtain ⟨valid, sized⟩ := (combine_eq_accepted _ _).mp accepted
    exact (combine_eq_accepted _ _).mpr ⟨validateDataRequest_next repeats delayed valid, sized⟩
  | gbc request destination =>
    obtain ⟨valid, sized⟩ := (combine_eq_accepted _ _).mp accepted
    refine (combine_eq_accepted _ _).mpr ⟨?_, sized⟩
    unfold validateDataRequestWithArea at valid ⊢
    split_ifs at valid with large
    rw [if_neg large]
    exact validateDataRequest_next repeats delayed valid
  | gac request destination => exact accepted
  | guc request destination => exact accepted
  | tsb request => exact accepted

/-- A request for an unsupported protocol throws. -/
theorem request_unsupported (env : Environment) (router : Router) {variant : DataRequestVariant}
    {payload : Option ChunkPacket}
    (accepted : Accepts platform variant payload)
    (unsupported : variant.request.upperProtocol = .unknown) :
    ∃ fault after, request platform env variant payload router = (.error fault, after) := by
  cases variant with
  | shb request =>
    obtain ⟨fault, stored, ran, -⟩ :=
      requestShb_fails env router accepted (.inl unsupported)
    exact ⟨fault, stored, ran⟩
  | gbc request destination =>
    obtain ⟨fault, stored, taken, ran, -⟩ :=
      requestGbc_fails env router accepted (.inl unsupported)
    exact ⟨fault, taken, ran⟩
  | gac request destination => exact accepted.elim
  | guc request destination => exact accepted.elim
  | tsb request => exact accepted.elim

/-- **The timer of a repetition throws** when its protocol is not supported. -/
theorem repeaterTrigger_throws {ref : ℕ} {node : RepetitionNode} {repetition : Repetition}
    (found : router.repetitions.find? (fun node => node.ref = ref) = some node)
    (accepted : Accepts platform node.request (some node.payload))
    (unsupported : node.request.request.upperProtocol = .unknown)
    (repeats : node.request.request.repetition = some repetition) (invocation : ℤ) :
    ∃ fault after, repeaterTrigger platform env ref invocation router = (.error fault, after) := by
  have same : (node.request.withRequest (nextRequest node.request.request repetition
      (router.now - invocation))).request.upperProtocol = .unknown := by
    have kept : (nextRequest node.request.request repetition
        (router.now - invocation)).upperProtocol = node.request.request.upperProtocol := by
      unfold nextRequest
      dsimp only
      split_ifs <;> rfl
    cases variant : node.request <;> rw [variant] at kept unsupported <;> exact kept.trans unsupported
  obtain ⟨fault, after, ran⟩ :=
    request_unsupported env router (accepted.next repeats _) same
  unfold repeaterTrigger
  rw [Act.read_bind, found]
  dsimp only
  rw [repeats]
  exact ⟨fault, after, Action.bind_of_error ran⟩

end Router

end Vanet.Geonet
