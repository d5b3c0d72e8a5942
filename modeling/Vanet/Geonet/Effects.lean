/-
**What transmitting and forwarding does to a router.**

`Effect` are the elementary changes: a packet is handed to the access layer, a packet enters a
buffer, the contention buffer changes, forwarding stops, a timer is scheduled, and, where `repeats`
allows it, a repetition. A GeoBroadcast packet that is forwarded or buffered is one of the admitted
packets `A`; these are given, and forwarding them admits no others. Every function of `Forwarding`
and `RouterRequest` performs such changes only (`Performs`), so what they all leave alone is proved
once, for an effect.
-/

import Mathlib.Logic.Relation
import Vanet.Geonet.RouterRequest

namespace Vanet.Geonet

open Vanet.Common Vanet.Library Vanet.Security
open Vanet.Net hiding ByteBuffer
open Act Router

/-- The callbacks of the repeater are the same in both queues. -/
structure SameTriggers (before after : List (ScheduledCallback RouterCallback RouterScope)) : Prop where
  triggers : after.filter (fun item => item.scope = some .repeater) =
    before.filter fun item => item.scope = some .repeater
  callbacks : ∀ item ∈ after, ∀ ref, item.callback = .triggerRepetition ref → item ∈ before

section SameTriggers

variable {runtime : ManualRuntime RouterCallback RouterScope}
  {before mid after : List (ScheduledCallback RouterCallback RouterScope)}

theorem SameTriggers.refl (queue : List (ScheduledCallback RouterCallback RouterScope)) :
    SameTriggers queue queue :=
  ⟨rfl, fun _ member _ _ => member⟩

theorem SameTriggers.trans (first : SameTriggers before mid) (second : SameTriggers mid after) :
    SameTriggers before after where
  triggers := second.triggers.trans first.triggers
  callbacks := fun item member ref triggers =>
    first.callbacks item (second.callbacks item member ref triggers) ref triggers

theorem SameTriggers.schedule (tp : ℤ) {callback : RouterCallback} {scope : RouterScope}
    (another : ∀ ref, callback ≠ .triggerRepetition ref) (apart : scope ≠ .repeater) :
    SameTriggers runtime.queue (runtime.schedule tp callback (some scope)).queue where
  triggers := ManualRuntime.filter_emplace (by simp [apart]) runtime.queue
  callbacks := by
    intro item member ref triggers
    obtain rfl | old := ManualRuntime.mem_emplace.mp member
    · exact absurd triggers (another ref)
    · exact old

theorem SameTriggers.cancel {scope : RouterScope} (apart : scope ≠ .repeater) :
    SameTriggers runtime.queue (runtime.cancel (some scope)).queue where
  triggers := by
    refine ManualRuntime.filter_cancel (fun item repeats => ?_) runtime
    rw [of_decide_eq_true repeats]
    simpa using apart.symm
  callbacks := fun _ member _ _ => (List.mem_filter.mp member).1

end SameTriggers

/-- **An elementary change.** -/
inductive Effect (A : PendingPacketGbc → Prop) (repeats : Prop) (router : Router) : Router → Prop
  /-- The router sends a packet of its own. -/
  | sent {origin : Origin} {request : Dcc.DataRequest} {pdu : VariantPdu} {payload : ChunkPacket}
      (own : origin.isSource = true) :
      Effect A repeats router (router.emit (.passedDown origin request pdu payload))
  | forwarded {packet : PendingPacketGbc} {reception : ℕ} {request : Dcc.DataRequest}
      (admitted : A packet) (tagged : packet.action.transmit = .forward reception) :
      Effect A repeats router (router.emit (.passedDown (.forwarder reception) request packet.pdu.toVariant
        packet.payload))
  | stopped {reason : ForwardingStopReason} :
      Effect A repeats router (router.emit (.forwardingStopped reason))
  | buffered {packet : PendingPacketGbc} (admitted : A packet) :
      Effect A repeats router { router with
        bcForwardBuffer := (router.bcForwardBuffer.push (.gbc packet) router.now).2 }
  | bufferedShb {packet : PendingPacketShb} :
      Effect A repeats router { router with
        bcForwardBuffer := (router.bcForwardBuffer.push (.shb packet) router.now).2 }
  | contends {packet : CbfPacket GbcAction} {timeout : ℤ} {node : ℕ} (admitted : A packet.packet) :
      Effect A repeats router (router.withCbf (router.cbf.add flushTimer packet timeout node))
  | removed {id : PacketIdentifier} :
      Effect A repeats router (router.withCbf (router.cbf.remove flushTimer id).2)
  | updated {id : PacketIdentifier} {timeout : ℤ} :
      Effect A repeats router (router.withCbf (router.cbf.update id timeout))
  /-- A beacon is scheduled, or a sequence number is taken. -/
  | scheduled {queue : List (ScheduledCallback RouterCallback RouterScope)}
      {sequenceNumber : SequenceNumber} (same : SameTriggers router.runtime.queue queue) :
      Effect A repeats router { router with
        runtime := { router.runtime with queue := queue }
        localSequenceNumber := sequenceNumber }
  | repeated {queue : List (ScheduledCallback RouterCallback RouterScope)}
      {repetitions : List RepetitionNode} {nextRepetition : ℕ} (allowed : repeats) :
      Effect A repeats router { router with
        runtime := { router.runtime with queue := queue }
        repetitions := repetitions
        nextRepetition := nextRepetition }

/-- Elementary changes one after the other. -/
abbrev Effects (A : PendingPacketGbc → Prop) (repeats : Prop) : Router → Router → Prop :=
  Relation.ReflTransGen (Effect A repeats)

instance effectsPreorder (A : PendingPacketGbc → Prop) (repeats : Prop) : IsPreorder Router (Effects A repeats) where
  refl _ := Relation.ReflTransGen.refl
  trans _ _ _ := Relation.ReflTransGen.trans

/-- **The action performs elementary changes only**, however it ends. -/
abbrev Performs (A : PendingPacketGbc → Prop) (repeats : Prop) {α : Type} (act : Act α) : Prop :=
  Action.Moves (Effects A repeats) act

/-! ### Rules -/

section Rules

variable {A : PendingPacketGbc → Prop} {repeats : Prop} {α β : Type}

theorem Effect.effects {before after : Router} (effect : Effect A repeats before after) :
    Effects A repeats before after :=
  Relation.ReflTransGen.single effect

theorem performs_effect {act : Act α} (effect : ∀ router, Effect A repeats router (act router).2) :
    Performs A repeats act :=
  fun router => (effect router).effects

theorem moves_processAll {R : Router → Router → Prop} [IsPreorder Router R] {δ : Type}
    {process : δ → Act Unit} {list : List δ} (each : ∀ data ∈ list, Action.Moves R (process data)) :
    Action.Moves R (processAll process list) := by
  induction list with
  | nil => exact .pure ()
  | cons data rest ih =>
    refine .bind (each data List.mem_cons_self) fun _ => ih ?_
    intro other member
    exact each other (List.mem_cons_of_mem data member)

theorem moves_destinationArea {R : Router → Router → Prop} [IsPreorder Router R]
    (gbc : GeoBroadcastHeader) (ht : HeaderType) :
    Action.Moves R (destinationArea gbc ht) := by
  unfold destinationArea
  split
  · exact .pure _
  · exact moves_throw _

end Rules

/-! ### Own packets -/

section Own

variable {A : PendingPacketGbc → Prop} {repeats : Prop} {platform : Platform} {env : Environment}

theorem performs_passDown {origin : Origin} {request : Dcc.DataRequest} {pdu : VariantPdu}
    {payload : ChunkPacket}
    (emits : ∀ router, Effect A repeats router (router.emit (.passedDown origin request pdu payload))) :
    Performs A repeats (passDown origin request pdu payload) := by
  unfold passDown
  split
  · split_ifs
    · exact moves_throw _
    · exact moves_throw _
    · exact performs_effect emits
  · split_ifs
    · exact moves_throw _
    · exact performs_effect emits

theorem performs_passDownTo {origin : Origin} (own : origin.isSource = true)
    (addr : MacAddress) (pdu : VariantPdu) (payload : ChunkPacket) :
    Performs A repeats (passDownTo origin addr pdu payload) :=
  .bind (moves_read _) fun _ => performs_passDown fun _ => .sent own

theorem performs_executeMediaProcedures (comProfile : CommunicationProfile) :
    Performs A repeats (executeMediaProcedures comProfile) := by
  cases comProfile
  · exact .pure ()
  · exact .pure ()

theorem performs_secure {H : Type} [ExtendedHeader H] (itsAid : ItsAid) (pdu : ExtendedPdu H)
    (packet : ChunkPacket) : Performs A repeats (secure platform env itsAid pdu packet) := by
  refine .ite (fun _ => ?_) fun _ => .pure _
  unfold encapPacket
  cases env.securityEntity with
  | none => exact moves_throw _
  | some entity => exact .bind (moves_read _) fun _ => .ite (fun _ => .fail _) fun _ => .pure _

theorem performs_resetBeaconTimer : Performs A repeats (resetBeaconTimer env) := by
  refine performs_effect fun router => .scheduled ?_
  have cancels : SameTriggers router.runtime.queue (router.runtime.cancel (some .router)).queue :=
    .cancel nofun
  exact cancels.trans (SameTriggers.schedule _ nofun nofun)

theorem performs_processShb (packet : PendingPacketShb) :
    Performs A repeats (processShb platform env packet) :=
  .bind (moves_read _) fun _ => .bind (performs_secure _ _ _) fun _ =>
    .bind (performs_executeMediaProcedures _) fun _ =>
      .bind (performs_passDownTo rfl _ _ _) fun _ => performs_resetBeaconTimer

end Own

/-! ### Forwarded packets -/

/-- **Packets that forwarding may handle**: with another action of the same transmission, or without
any, and as a duplicate. -/
structure Hereditary (A : PendingPacketGbc → Prop) : Prop where
  withAction : ∀ packet action, A packet →
    action.transmit = packet.action.transmit ∨ action.transmit = .noop → A (packet.withAction action)
  duplicate : ∀ packet, A packet → A packet.duplicate

/-- The packet is admitted with every action that comes to its own. -/
def Admits (A : PendingPacketGbc → Prop) (packet : PendingPacketForwarding) : Prop :=
  ∀ action : GbcAction, action.transmit = packet.action → A (packet.withAction action)

/-- The next hop's packet is admitted. -/
def AdmitsHop (A : PendingPacketGbc → Prop) : NextHop → Prop
  | .valid packet _ => Admits A packet
  | _ => True

section Forwarded

variable {A : PendingPacketGbc → Prop} {repeats : Prop} {platform : Platform} {env : Environment}
  {packet : PendingPacketForwarding}

theorem Hereditary.admits (hereditary : Hereditary A) {packet : PendingPacketGbc} (admitted : A packet) :
    Admits A (packet.withAction packet.action.transmit) :=
  fun action same => hereditary.withAction packet action admitted (.inl same)

theorem Hereditary.admits_duplicate (hereditary : Hereditary A) (admits : Admits A packet) :
    Admits A packet.duplicate :=
  fun action same => hereditary.duplicate (packet.withAction action) (admits action same)

theorem Hereditary.admits_noop (hereditary : Hereditary A) (admits : Admits A packet) :
    Admits A (packet.withAction .noop) :=
  fun action silent => hereditary.withAction (packet.withAction (.greedy packet.action)) action
    (admits (.greedy packet.action) rfl) (.inr silent)

theorem performs_processForwarding (admits : Admits A packet) (mac : MacAddress) :
    Performs A repeats (processForwarding platform env packet mac) := by
  unfold processForwarding
  cases tag : packet.action with
  | forward reception =>
    refine .bind (performs_executeMediaProcedures _) fun _ => .bind (moves_read _) fun _ => ?_
    refine performs_passDown fun router => ?_
    exact Effect.forwarded (admits (.greedy packet.action) rfl) tag
  | source ctrl =>
    exact .bind (moves_read _) fun _ => .bind (performs_secure _ _ _) fun _ =>
      .bind (performs_executeMediaProcedures _) fun _ => performs_passDownTo rfl _ _ _
  | noop => exact .pure ()

theorem performs_processNextHop {hop : NextHop} (admits : AdmitsHop A hop) :
    Performs A repeats (processNextHop platform env hop) := by
  cases hop with
  | valid packet mac => exact performs_processForwarding admits mac
  | discarded => exact .pure ()
  | buffered => exact .pure ()

/-- The action performs changes and returns a next hop with an admitted packet. -/
def Routes (A : PendingPacketGbc → Prop) (repeats : Prop) (act : Act NextHop) : Prop :=
  Performs A repeats act ∧ ∀ router hop after, act router = (.ok hop, after) → AdmitsHop A hop

theorem Routes.pure {hop : NextHop} (admits : AdmitsHop A hop) : Routes A repeats (pure hop) := by
  refine ⟨.pure hop, ?_⟩
  intro router other after returned
  cases returned
  exact admits

theorem Routes.bind {α : Type} {act : Act α} {next : α → Act NextHop} (first : Performs A repeats act)
    (second : ∀ value, Routes A repeats (next value)) : Routes A repeats (act >>= next) := by
  refine ⟨.bind first fun value => (second value).1, ?_⟩
  intro router hop after returned
  obtain ⟨value, mid, _, rest⟩ := Action.bind_ok.mp returned
  exact (second value).2 mid hop after rest

theorem Routes.ite {condition : Prop} [Decidable condition] {act other : Act NextHop}
    (holds : condition → Routes A repeats act) (fails : ¬ condition → Routes A repeats other) :
    Routes A repeats (if condition then act else other) := by
  split_ifs with holding
  · exact holds holding
  · exact fails holding

/-- What follows may use that the next hop's packet is admitted. -/
theorem Routes.performs {α : Type} {act : Act NextHop} {next : NextHop → Act α} (routes : Routes A repeats act)
    (second : ∀ hop, AdmitsHop A hop → Performs A repeats (next hop)) : Performs A repeats (act >>= next) := by
  intro router
  have begun := routes.1 router
  rw [Action.bind_apply]
  rcases ran : act router with ⟨fault | hop, mid⟩
  · rw [ran] at begun
    exact begun
  · rw [ran] at begun
    exact begun.trans (second hop (routes.2 router hop mid ran) mid)

theorem Routes.routes {act : Act NextHop} {next : NextHop → Act NextHop} (first : Routes A repeats act)
    (second : ∀ hop, AdmitsHop A hop → Routes A repeats (next hop)) : Routes A repeats (act >>= next) := by
  refine ⟨first.performs fun hop admits => (second hop admits).1, ?_⟩
  intro router hop after returned
  obtain ⟨value, mid, ran, rest⟩ := Action.bind_ok.mp returned
  exact (second value (first.2 router value mid ran)).2 mid hop after rest

theorem performs_destinationArea (gbc : GeoBroadcastHeader) (ht : HeaderType) :
    Performs A repeats (destinationArea gbc ht) :=
  moves_destinationArea gbc ht

theorem performs_cbfAdd (admits : Admits A packet) (sender : MacAddress) (timeout : ℤ) :
    Performs A repeats (cbfAdd env packet sender timeout) :=
  performs_effect fun _ => .contends (admits (.bound packet.action cBroadcastMacAddress) rfl)

theorem performs_cbfRemove (id : PacketIdentifier) : Performs A repeats (cbfRemove id) :=
  performs_effect fun _ => .removed

theorem performs_timeoutCbfSender (sender : MacAddress) :
    Performs A repeats (timeoutCbfSender platform sender) :=
  .bind (moves_read _) fun _ => .bind (moves_read _) fun _ => .pure _

theorem performs_outsideSectorialContentionArea (sender forwarder : MacAddress) :
    Performs A repeats (outsideSectorialContentionArea platform sender forwarder) :=
  .bind (moves_read _) fun _ => .bind (moves_read _) fun _ => .bind (moves_read _) fun _ => .pure _

theorem routes_greedyForwarding (admits : Admits A packet) :
    Routes A repeats (greedyForwarding platform packet) := by
  refine .bind (moves_read _) fun router => ?_
  dsimp only
  split
  · exact .pure admits
  · refine .ite (fun _ => ?_) fun _ => .pure admits
    have pushes : Performs A repeats (pushBroadcast (.gbc (packet.withAction (.greedy packet.action)))) :=
      performs_effect fun _ => .buffered (admits (.greedy packet.action) rfl)
    exact .bind pushes fun _ => .pure trivial

theorem routes_nonAreaContentionBasedForwarding (admits : Admits A packet)
    (sender : Option MacAddress) :
    Routes A repeats (nonAreaContentionBasedForwarding platform env packet sender) := by
  cases sender with
  | none => exact .pure admits
  | some sender =>
    refine .bind (performs_cbfRemove _) fun removed => .ite (fun _ => .pure trivial) fun _ => ?_
    refine .bind (performs_destinationArea _ _) fun _ => .bind (moves_read _) fun _ =>
      .bind (moves_read _) fun _ => ?_
    split
    · exact .ite (fun _ => .bind (performs_cbfAdd admits _ _) fun _ => .pure trivial)
        fun _ => .pure trivial
    · exact .bind (performs_cbfAdd admits _ _) fun _ => .pure trivial

theorem routes_areaContentionBasedForwarding (admits : Admits A packet)
    (sender : Option MacAddress) :
    Routes A repeats (areaContentionBasedForwarding platform env packet sender) := by
  cases sender with
  | none => exact .pure admits
  | some sender =>
    refine .bind (performs_cbfRemove _) fun removed => .bind (moves_read _) fun _ =>
      .ite (fun _ => .pure trivial) fun _ => ?_
    exact .bind (performs_timeoutCbfSender _) fun _ =>
      .bind (performs_cbfAdd admits _ _) fun _ => .pure trivial

theorem routes_areaAdvancedForwarding (hereditary : Hereditary A) (admits : Admits A packet)
    (ll : Option LinkLayer) : Routes A repeats (areaAdvancedForwarding platform env packet ll) := by
  cases ll with
  | none => exact .pure admits
  | some ll =>
    refine .bind (moves_read _) fun router => ?_
    dsimp only
    split
    · refine .ite (fun _ => .bind (performs_cbfRemove _) fun _ => .pure trivial) fun _ => ?_
      refine .bind (performs_outsideSectorialContentionArea _ _) fun outside => .ite
        (fun _ => .bind (performs_cbfRemove _) fun _ => .pure trivial) fun _ => ?_
      refine .bind (performs_timeoutCbfSender _) fun _ => ?_
      have updates : ∀ timeout, Performs A repeats (cbfUpdate packet.pdu.extended.identifier timeout) :=
        fun _ => performs_effect fun _ => .updated
      exact .bind (updates _) fun _ => .pure trivial
    · refine .ite (fun _ => ?_) fun _ => ?_
      · refine (routes_greedyForwarding (hereditary.admits_duplicate admits)).routes ?_
        intro hop admitsHop
        have contends : Routes A repeats (do
            cbfAdd env packet ll.sender platform.mib.itsGnCbfMaxTime
            pure hop) :=
          .bind (performs_cbfAdd admits _ _) fun _ => .pure admitsHop
        split
        · refine .ite (fun _ => ?_) fun _ => contends
          exact .bind (performs_cbfAdd (hereditary.admits_noop admits) _ _) fun _ => .pure admitsHop
        · exact contends
      · exact .bind (performs_timeoutCbfSender _) fun _ =>
          .bind (performs_cbfAdd admits _ _) fun _ => .pure trivial

theorem routes_forwardingAlgorithmSelection (hereditary : Hereditary A) (admits : Admits A packet)
    (ll : Option LinkLayer) :
    Routes A repeats (forwardingAlgorithmSelection platform env packet ll) := by
  refine .bind (performs_destinationArea _ _) fun destination => .bind (moves_read _) fun here =>
    .ite (fun _ => ?_) fun _ => ?_
  · cases platform.mib.itsGnAreaForwardingAlgorithm with
    | unspecified => exact .pure admits
    | simple => exact .pure admits
    | cbf => exact routes_areaContentionBasedForwarding admits _
    | advanced => exact routes_areaAdvancedForwarding hereditary admits ll
  · refine .bind (moves_read _) fun pvSe => .ite (fun _ => ?_) fun _ => ?_
    · have stops : Performs A repeats (Act.emit (.forwardingStopped .outsideDestinationArea)) :=
        performs_effect fun _ => .stopped
      exact .bind stops fun _ => .pure trivial
    · cases platform.mib.itsGnNonAreaForwardingAlgorithm with
      | unspecified => exact routes_greedyForwarding admits
      | greedy => exact routes_greedyForwarding admits
      | cbf => exact routes_nonAreaContentionBasedForwarding admits _

/-- **An admitted packet that is processed** is forwarded or buffered, and nothing else happens. -/
theorem performs_processGbc (hereditary : Hereditary A) {packet : PendingPacketGbc}
    (admitted : A packet) : Performs A repeats (processGbc platform env packet) := by
  have admits := hereditary.admits admitted
  unfold processGbc
  cases action : packet.action with
  | forwarding transmit ll =>
    rw [action] at admits
    exact (routes_forwardingAlgorithmSelection hereditary admits ll).performs fun _ =>
      performs_processNextHop
  | greedy transmit =>
    rw [action] at admits
    exact (routes_greedyForwarding admits).performs fun _ => performs_processNextHop
  | bound transmit mac =>
    rw [action] at admits
    exact performs_processForwarding admits mac

/-- What a buffer holds is admitted. -/
def AdmitsData (A : PendingPacketGbc → Prop) : BufferData → Prop
  | .gbc packet => A packet
  | .shb _ => True

theorem performs_processData (hereditary : Hereditary A) {data : BufferData}
    (admitted : AdmitsData A data) : Performs A repeats (processData platform env data) := by
  cases data with
  | shb packet => exact performs_processShb packet
  | gbc packet => exact performs_processGbc hereditary admitted

theorem performs_pushBroadcastShb (packet : PendingPacketShb) :
    Performs A repeats (pushBroadcast (.shb packet)) :=
  performs_effect fun _ => .bufferedShb

theorem performs_pushBroadcastGbc {packet : PendingPacketGbc} (admitted : A packet) :
    Performs A repeats (pushBroadcast (.gbc packet)) :=
  performs_effect fun _ => .buffered admitted

end Forwarded

/-! ### Requests -/

section Requested

variable {A : PendingPacketGbc → Prop} {repeats : Prop} {platform : Platform} {env : Environment}

/-- Packets of the router itself are admitted. -/
def AdmitsSources (A : PendingPacketGbc → Prop) : Prop :=
  ∀ packet ctrl, packet.action.transmit = .source ctrl → A packet

theorem performs_commonHeaderOf (request : DataRequest) :
    Performs A repeats (commonHeaderOf platform request) := by
  unfold commonHeaderOf
  split
  · exact .pure _
  · exact moves_throw _

theorem performs_repeaterAdd (request : DataRequestVariant) (payload : ChunkPacket) :
    Performs A True (repeaterAdd request payload) := by
  intro router
  unfold repeaterAdd Act.modify Action.update
  dsimp only
  split
  · exact Relation.ReflTransGen.refl
  · split_ifs
    · exact Effect.effects (.repeated trivial)
    · exact Relation.ReflTransGen.refl

theorem performs_createGbcPdu (request : DataRequest) (destination : Area) :
    Performs A repeats (createGbcPdu platform request destination) := by
  have counts : Performs A repeats (modify fun router =>
      { router with localSequenceNumber := router.localSequenceNumber + 1 }) :=
    performs_effect fun _ => .scheduled (.refl _)
  exact .bind (performs_commonHeaderOf _) fun _ => .bind (moves_read _) fun _ =>
    .bind counts fun _ => .pure _

theorem performs_createShbPdu (request : DataRequest) :
    Performs A repeats (createShbPdu platform env request) :=
  .bind (performs_commonHeaderOf _) fun _ => .bind (moves_read _) fun _ => .pure _

variable (env) in
/-- **An accepted single-hop broadcast** is stored for its repetition, and what follows leaves the
repeater alone. -/
theorem requestShb_eq (request : DataRequest) (payload : ChunkPacket) :
    ∃ rest : Act ResultCode, (∀ repeats, Performs A repeats rest) ∧
      requestShb platform env request (some payload) =
        if (validateDataRequest request platform.mib).combine
            (validatePayload (some payload) platform.mib) = .accepted then
          repeaterAdd (.shb request) payload >>= fun _ => rest
        else pure ((validateDataRequest request platform.mib).combine
          (validatePayload (some payload) platform.mib)) := by
  unfold requestShb
  refine ⟨_, fun repeats => ?_, rfl⟩
  refine .bind (performs_createShbPdu _) fun pdu => .bind (moves_read _) fun neighbours =>
    .ite (fun _ => ?_) fun _ => ?_
  · exact .bind (performs_pushBroadcastShb _) fun _ => .pure _
  · exact .bind (performs_processShb _) fun _ => .pure _

theorem performs_requestShb (request : DataRequest) (payload : Option ChunkPacket) :
    Performs A True (requestShb platform env request payload) := by
  cases payload with
  | none => exact .pure _
  | some payload =>
    obtain ⟨rest, leaves, same⟩ := requestShb_eq (A := A) env request payload
    rw [same]
    exact .ite (fun _ => .bind (performs_repeaterAdd _ _) fun _ => leaves True) fun _ => .pure _

variable (env) in
/-- **An accepted GeoBroadcast**, likewise. -/
theorem requestGbc_eq (hereditary : Hereditary A) (sources : AdmitsSources A)
    (request : DataRequest) (destination : Area) (payload : ChunkPacket) :
    ∃ rest : Act ResultCode, (∀ repeats, Performs A repeats rest) ∧
      requestGbc platform env request destination (some payload) =
        if (validateDataRequestWithArea platform.geometry.areaSize request destination
            platform.mib).combine (validatePayload (some payload) platform.mib) = .accepted then
          repeaterAdd (.gbc request destination) payload >>= fun _ => rest
        else pure ((validateDataRequestWithArea platform.geometry.areaSize request destination
          platform.mib).combine (validatePayload (some payload) platform.mib)) := by
  unfold requestGbc
  refine ⟨_, fun repeats => ?_, rfl⟩
  refine .bind (performs_createGbcPdu _ _) fun pdu => .bind (moves_read _) fun neighbours =>
    .ite (fun _ => ?_) fun _ => ?_
  · exact .bind (performs_pushBroadcastGbc (sources _ _ rfl)) fun _ => .pure _
  · exact .bind (performs_processGbc hereditary (sources _ _ rfl)) fun _ => .pure _

theorem performs_requestGbc (hereditary : Hereditary A) (sources : AdmitsSources A)
    (request : DataRequest) (destination : Area) (payload : Option ChunkPacket) :
    Performs A True (requestGbc platform env request destination payload) := by
  cases payload with
  | none => exact .pure _
  | some payload =>
    obtain ⟨rest, leaves, same⟩ := requestGbc_eq env hereditary sources request destination payload
    rw [same]
    exact .ite (fun _ => .bind (performs_repeaterAdd _ _) fun _ => leaves True) fun _ => .pure _

theorem performs_request (hereditary : Hereditary A) (sources : AdmitsSources A)
    (request : DataRequestVariant) (payload : Option ChunkPacket) :
    Performs A True (Router.request platform env request payload) := by
  cases request with
  | shb request => exact performs_requestShb request payload
  | gbc request destination => exact performs_requestGbc hereditary sources request destination payload
  | gac request destination => exact .pure _
  | guc request destination => exact .pure _
  | tsb request => exact .pure _

theorem performs_repeaterTrigger (hereditary : Hereditary A) (sources : AdmitsSources A) (ref : ℕ)
    (invocation : ℤ) : Performs A True (repeaterTrigger platform env ref invocation) := by
  refine .bind (moves_read _) fun router => ?_
  dsimp only
  split
  · exact .pure _
  · split
    · exact .fail _
    · exact .bind (performs_request hereditary sources _ _) fun _ =>
        performs_effect fun _ => .repeated trivial

theorem performs_onBeaconTimerExpired : Performs A repeats (onBeaconTimerExpired platform env) := by
  refine .ite (fun _ => .pure _) fun _ => ?_
  have creates : Performs A repeats (createBeaconPdu platform) := .bind (moves_read _) fun _ => .pure _
  exact .bind creates fun _ => .bind (performs_secure _ _ _) fun _ =>
    .bind (performs_executeMediaProcedures _) fun _ =>
      .bind (performs_passDownTo rfl _ _ _) fun _ => performs_resetBeaconTimer

end Requested

/-! ### What is left alone -/

/-- An event of transmitting or forwarding. -/
def Event.isSending : Event → Bool
  | passedDown _ _ _ _ => true
  | forwardingStopped _ => true
  | _ => false

/-- **What no transmission changes**, and what it adds to the trace. -/
structure Quiet (before after : Router) : Prop where
  now : after.now = before.now
  handler : after.transportHandler = before.transportHandler
  table : after.locationTable = before.locationTable
  memory : after.gbcMemory = before.gbcMemory
  trace : ∃ events, after.trace = before.trace ++ events ∧ ∀ event ∈ events, event.isSending = true

/-- A change that also leaves the trace alone. -/
theorem Quiet.silent {before after : Router} (now : after.now = before.now)
    (handler : after.transportHandler = before.transportHandler)
    (table : after.locationTable = before.locationTable)
    (memory : after.gbcMemory = before.gbcMemory) (trace : after.trace = before.trace) :
    Quiet before after :=
  ⟨now, handler, table, memory, [], by rw [trace, List.append_nil], List.forall_mem_nil _⟩

theorem Quiet.refl (router : Router) : Quiet router router := .silent rfl rfl rfl rfl rfl

theorem Quiet.trans {before mid after : Router} (first : Quiet before mid) (second : Quiet mid after) :
    Quiet before after := by
  obtain ⟨events, extended, sending⟩ := first.trace
  obtain ⟨more, further, sendingMore⟩ := second.trace
  refine ⟨second.now.trans first.now, second.handler.trans first.handler,
    second.table.trans first.table,
    second.memory.trans first.memory, events ++ more, ?_, ?_⟩
  · rw [further, extended, List.append_assoc]
  · intro event member
    rcases List.mem_append.mp member with old | new
    · exact sending event old
    · exact sendingMore event new

/-- The contention buffer and the runtime's queue may change. -/
theorem quiet_withCbf {router : Router} {cbf : Cbf GbcAction RouterCallback RouterScope}
    (now : cbf.runtime.now = router.now) : Quiet router (router.withCbf cbf) :=
  .silent now rfl rfl rfl rfl

theorem quiet_emit {router : Router} {event : Event} (sending : event.isSending = true) :
    Quiet router (router.emit event) :=
  ⟨rfl, rfl, rfl, rfl, [event], rfl, fun other member => by
    rw [List.mem_singleton.mp member]
    exact sending⟩

section Frame

variable {A : PendingPacketGbc → Prop} {repeats : Prop}

theorem Effect.quiet {before after : Router} (effect : Effect A repeats before after) : Quiet before after := by
  cases effect with
  | sent own => exact quiet_emit rfl
  | forwarded admitted tagged => exact quiet_emit rfl
  | stopped => exact quiet_emit rfl
  | buffered admitted => exact .silent rfl rfl rfl rfl rfl
  | bufferedShb => exact .silent rfl rfl rfl rfl rfl
  | contends admitted => exact quiet_withCbf (Cbf.add_now _ _ _ _ _)
  | removed => exact quiet_withCbf (Cbf.remove_now _ _ _)
  | updated => exact quiet_withCbf (Cbf.update_now _ _ _)
  | scheduled same => exact .silent rfl rfl rfl rfl rfl
  | repeated allowed => exact .silent rfl rfl rfl rfl rfl

theorem Effects.quiet {before after : Router} (effects : Effects A repeats before after) :
    Quiet before after := by
  induction effects with
  | refl => exact .refl before
  | tail _ effect ih => exact ih.trans effect.quiet

end Frame

/-! ### Calm actions -/

instance quietPreorder : IsPreorder Router Quiet where
  refl := Quiet.refl
  trans _ _ _ := Quiet.trans

/-- The action transmits and forwards at most, whatever the buffers hold. -/
abbrev Calm {α : Type} (act : Act α) : Prop := Action.Moves Quiet act

section CalmActions

variable {platform : Platform} {env : Environment}

theorem calm_of_performs {A : PendingPacketGbc → Prop} {α : Type} {act : Act α}
    (performs : Performs A True act) : Calm act :=
  performs.mono fun _ _ => Effects.quiet

theorem hereditary_all : Hereditary fun _ => True :=
  ⟨fun _ _ _ _ => trivial, fun _ _ => trivial⟩

theorem calm_processData (data : BufferData) : Calm (processData platform env data) := by
  refine calm_of_performs (performs_processData hereditary_all ?_)
  cases data <;> exact trivial

theorem calm_flushBroadcastForwardingBuffer : Calm (flushBroadcastForwardingBuffer platform env) :=
  .bind (.update fun _ => .silent rfl rfl rfl rfl rfl) fun _ =>
    moves_processAll fun data _ => calm_processData data

theorem calm_flushUnicastForwardingBuffer : Calm (flushUnicastForwardingBuffer platform env) :=
  .bind (.update fun _ => .silent rfl rfl rfl rfl rfl) fun _ =>
    moves_processAll fun data _ => calm_processData data

theorem calm_flushCbfBuffer : Calm (flushCbfBuffer platform env) := by
  have flushes : Calm (Action.update fun router : Router =>
      let flushed := router.cbf.flush flushTimer
      (flushed.1, router.withCbf flushed.2)) :=
    .update fun router => quiet_withCbf (Cbf.flush_now _ _)
  refine .bind flushes fun packets => ?_
  exact moves_processAll fun packet _ => calm_of_performs (performs_processGbc hereditary_all trivial)

theorem calm_request (request : DataRequestVariant) (payload : Option ChunkPacket) :
    Calm (Router.request platform env request payload) :=
  calm_of_performs (performs_request hereditary_all (fun _ _ _ => trivial) request payload)

theorem calm_invoke (callback : RouterCallback) (deadline : ℤ) :
    Calm (invoke platform env callback deadline) := by
  cases callback with
  | beaconTimerExpired => exact calm_of_performs (performs_onBeaconTimerExpired : Performs (fun _ => True) True _)
  | flushCbfBuffer => exact calm_flushCbfBuffer
  | triggerRepetition ref =>
    exact calm_of_performs
      (performs_repeaterTrigger hereditary_all (fun _ _ _ => trivial) ref deadline)

end CalmActions

end Vanet.Geonet
