/-
**Duplicates are not forwarded.**

Where both forwarding algorithms leave duplicates to the list of the source, a GeoBroadcast packet is
accepted a second time only after its sequence number has left the list (`Detecting`). What is
forwarded and passed up is counted against what has been accepted: an accepted packet is worth one
transmission, wherever it waits (`Covered`), and one passing (`Earned`).
-/

import Vanet.Geonet.Detection
import Vanet.Geonet.PassUp
import Vanet.Geonet.Provenance
import Vanet.Library.Budget

namespace Vanet.Geonet

open Vanet.Library Vanet.Security
open Vanet.Net hiding ByteBuffer
open Act Router SoftStateMap

/-- The router's algorithms leave duplicates to the detection. -/
structure Detects (platform : Platform) : Prop where
  area : platform.mib.itsGnAreaForwardingAlgorithm = .unspecified ∨
    platform.mib.itsGnAreaForwardingAlgorithm = .simple
  nonArea : platform.mib.itsGnNonAreaForwardingAlgorithm = .unspecified ∨
    platform.mib.itsGnNonAreaForwardingAlgorithm = .greedy

theorem Detects.asks {platform : Platform} (detects : Detects platform) (within : Bool) :
    asksForDuplicates platform within = true := by
  unfold asksForDuplicates
  cases within with
  | true => exact decide_eq_true detects.area
  | false => exact decide_eq_true detects.nonArea

/-! ### The lists over a run -/

section Detection

variable {platform : Platform} {env : Environment} {reception capacity : ℕ}

theorem keeps_detecting_processExtendedGbc (detects : Detects platform)
    (limited : platform.mib.itsGnDPLLength = capacity) (pdu : GbcPdu) (packet : UpPacket)
    (ll : LinkLayer) :
    Action.Keeps (Detecting capacity) (processExtendedGbc platform env reception pdu packet ll) := by
  refine .bind (keeps_undetecting (undetecting_destinationArea _ _)) fun area =>
    .bind (keeps_undetecting (moves_read _)) fun start => ?_
  dsimp only
  rw [if_pos (detects.asks _)]
  refine .bind (keeps_undetecting (undetecting_emit fun _ => rfl)) fun _ =>
    .bind (ensures_detectDuplicatePacket limited pdu.extended) fun duplicate => ?_
  cases duplicate with
  | true => exact .pure fun router detecting => detecting
  | false =>
    have accepts : Action.Ensures (Accepting capacity pdu.extended)
        (Act.emit (.accepted reception pdu.extended)) (fun _ => Detecting capacity)
        (Detecting capacity) :=
      .update fun router accepting => accepting.accepted
    exact .bind accepts fun _ => .bind (keeps_undetecting (undetecting_processAccepted _ _ _ _)) fun _ =>
      keeps_undetecting (undetecting_decidePassUp _ _)

theorem keeps_detecting_visitParsed (detects : Detects platform)
    (limited : platform.mib.itsGnDPLLength = capacity) (pdu : VariantPdu) (packet : UpPacket)
    (ll : LinkLayer) (indication : DataIndication) :
    Action.Keeps (Detecting capacity)
      (visitParsed platform env reception pdu packet ll indication) := by
  have visits : Action.Keeps (Detecting capacity)
      (visitExtended platform env reception pdu packet ll indication) := by
    unfold visitExtended
    cases pdu.extended with
    | shb shb =>
      exact .bind (keeps_undetecting (undetecting_processExtendedShb _ _ _)) fun _ =>
        keeps_undetecting (.pure _)
    | geoBroadcast gbc =>
      exact .bind (keeps_undetecting (undetecting_destinationArea _ _)) fun _ =>
        .bind (keeps_detecting_processExtendedGbc detects limited _ packet ll) fun _ =>
          keeps_undetecting (.pure _)
    | beacon beacon =>
      exact .bind (keeps_undetecting (undetecting_processExtendedBeacon _ _ _)) fun _ =>
        keeps_undetecting (.pure _)
  exact .bind visits fun _ => .ite (fun _ => keeps_undetecting (undetecting_passUp _ _ _))
    fun _ => keeps_undetecting (.pure ())

theorem keeps_detecting_indicate (detects : Detects platform)
    (limited : platform.mib.itsGnDPLLength = capacity) (packet : UpPacket) (ll : LinkLayer) :
    Action.Keeps (Detecting capacity) (indicate platform env reception packet ll) :=
  keeps_indicate (fun _ => keeps_undetecting (undetecting_emit fun _ => rfl))
    keeps_detecting_dropExpired
    (keeps_undetecting (undetecting_of_calm calm_flushBroadcastForwardingBuffer))
    fun _ _ _ _ _ _ => keeps_detecting_visitParsed detects limited _ _ _ _

theorem detecting_create (now firstBeacon : ℤ) :
    Detecting capacity (create platform.mib now firstBeacon) := by
  have silent := create_trace platform.mib now firstBeacon
  have nothing : ∀ mac, listOf (create platform.mib now firstBeacon).locationTable mac = none := by
    intro mac
    rw [create_locationTable]
    rfl
  refine ⟨?_, ?_, ?_, ?_⟩
  · rw [create_locationTable]
    exact wellFormed_empty _
  · intro mac list held
    rw [nothing] at held
    cases held
  · intro mac
    unfold numbersOf
    rw [nothing, silent]
    rfl
  · intro mac earlier sn later split
    rw [silent] at split
    exact absurd split (by simp [historyOf])

theorem sustains_detecting (detects : Detects platform)
    (limited : platform.mib.itsGnDPLLength = capacity) :
    Station.Sustains platform (Detecting capacity) where
  indicates _ _ packet ll := keeps_detecting_indicate detects limited packet ll
  requests _ request payload := keeps_undetecting (undetecting_of_calm (calm_request request payload))
  invokes _ callback deadline :=
    keeps_undetecting (undetecting_of_calm (calm_invoke callback deadline))
  manages _ _ _ _ detecting :=
    ⟨detecting.formed, detecting.sized, detecting.numbers, detecting.fresh⟩

end Detection

/-! ### Counting -/

/-- The GeoBroadcast packet that is forwarded. -/
def Event.forwarding : Event → Option PacketIdentifier
  | passedDown (.forwarder _) _ pdu _ =>
    match pdu.extended with
    | .geoBroadcast gbc => some gbc.identifier
    | _ => none
  | _ => none

/-- The GeoBroadcast packet that is accepted. -/
def Event.acceptance : Event → Option PacketIdentifier
  | accepted _ gbc => some gbc.identifier
  | _ => none

/-- How many events of a kind are about the packet. -/
def occurrences (kind : Event → Option PacketIdentifier) (id : PacketIdentifier)
    (trace : List Event) : ℕ :=
  trace.countP fun event => kind event = some id

section Occurrences

variable {kind : Event → Option PacketIdentifier} {id : PacketIdentifier} {trace events : List Event}

theorem occurrences_append :
    occurrences kind id (trace ++ events) = occurrences kind id trace + occurrences kind id events :=
  List.countP_append

theorem occurrences_unrelated (unrelated : ∀ event ∈ events, kind event = none) :
    occurrences kind id events = 0 := by
  refine List.countP_eq_zero.mpr fun event member => ?_
  rw [unrelated event member]
  simp

theorem occurrences_singleton (event : Event) :
    occurrences kind id [event] = if kind event = some id then 1 else 0 := by
  unfold occurrences
  rw [List.countP_cons, List.countP_nil, Nat.zero_add]
  simp only [decide_eq_true_eq]

theorem occurrences_eq : occurrences kind id trace = (trace.filterMap kind).count id := by
  unfold occurrences List.count
  rw [List.countP_filterMap]
  refine List.countP_congr fun event _ => ?_
  cases kind event with
  | none => simp
  | some other => simp

end Occurrences

/-! ### Transmissions -/

/-- What is transmitted in the end is a received packet. -/
def Transmit.forwards : Transmit → Bool
  | forward _ => true
  | _ => false

/-- How often the packet is transmitted when a packet is processed. -/
def worth (id : PacketIdentifier) (pdu : GbcPdu) (transmit : Transmit) : ℕ :=
  if transmit.forwards ∧ pdu.extended.identifier = id then 1 else 0

/-- The packet waits in a buffer. -/
def BufferData.awaits (id : PacketIdentifier) : BufferData → Bool
  | gbc packet => packet.action.transmit.forwards ∧ packet.pdu.extended.identifier = id
  | shb _ => false

/-- How often the packet waits. -/
def waiting (id : PacketIdentifier) (buffer : PacketBuffer BufferData) : ℕ :=
  buffer.nodes.countP fun node => node.2.awaits id

/-- **What waits and what has been transmitted** has been accepted, with so much credit left. No packet
contends. -/
structure Covered (id : PacketIdentifier) (credit : ℕ) (router : Router) : Prop where
  idle : router.cbfBuffer.packets = []
  covered : waiting id router.bcForwardBuffer + waiting id router.ucForwardBuffer +
    occurrences Event.forwarding id router.trace + credit ≤
      occurrences Event.acceptance id router.trace

section Transmissions

variable {platform : Platform} {env : Environment} {id : PacketIdentifier} {cost credit : ℕ}
  {before after router : Router}

theorem antitone_covered : Antitone (Covered id) :=
  fun _ _ smaller _ covered =>
    ⟨covered.idle, (Nat.add_le_add_left smaller _).trans covered.covered⟩

theorem awaits_gbc (packet : PendingPacketGbc) :
    ((BufferData.gbc packet).awaits id).toNat = worth id packet.pdu packet.action.transmit := by
  unfold worth BufferData.awaits
  dsimp only
  split_ifs with waits
  · rw [decide_eq_true waits]
    rfl
  · rw [decide_eq_false waits]
    rfl

theorem worth_own {transmit : Transmit} (own : transmit.forwards = false) (pdu : GbcPdu) :
    worth id pdu transmit = 0 := by
  unfold worth
  rw [own]
  exact if_neg fun impossible => Bool.false_ne_true impossible.1

/-- A shorter lifetime makes no difference. -/
theorem awaits_reduceLifetime (data : BufferData) (queuingTime : ℤ) :
    (PacketData.reduceLifetime data queuingTime).2.awaits id = data.awaits id := by
  cases data with
  | shb packet => rfl
  | gbc packet =>
    obtain ⟨lifetime, _, changed⟩ := packet.reduceLifetime_changes queuingTime
    show (BufferData.gbc (packet.reduceLifetime queuingTime).2).awaits id = _
    rw [changed]
    rfl

variable (id) in
/-- What a push adds. -/
theorem waiting_push (buffer : PacketBuffer BufferData) (data : BufferData) (now : ℤ) :
    waiting id (buffer.push data now).2 ≤ waiting id buffer + (data.awaits id).toNat := by
  have kept : (PacketBuffer.dropHeads buffer.capacity (PacketData.length data)
      (buffer.dropExpired now).nodes (buffer.dropExpired now).stored).1.countP
        (fun node => node.2.awaits id) ≤ waiting id buffer :=
    ((PacketBuffer.dropHeads_suffix _ _).sublist.trans List.filter_sublist).countP_le
  unfold PacketBuffer.push waiting
  dsimp only
  split_ifs
  · rw [List.countP_append, List.countP_cons, List.countP_nil, Nat.zero_add]
    refine Nat.add_le_add kept ?_
    cases data.awaits id <;> exact Nat.le_refl _
  · exact kept.trans (Nat.le_add_right _ _)

variable (id) in
/-- What a flush takes out. -/
theorem waiting_flushed (buffer : PacketBuffer BufferData) (now : ℤ) :
    (buffer.flushed now).countP (BufferData.awaits id) ≤ waiting id buffer := by
  unfold PacketBuffer.flushed
  rw [List.countP_map]
  have same : (BufferData.awaits id ∘ fun node : Expiry × BufferData =>
      (PacketData.reduceLifetime node.2 (now - node.1.bufferedSince)).2) =
        fun node => node.2.awaits id :=
    funext fun node => awaits_reduceLifetime node.2 _
  rw [same]
  exact List.filter_sublist.countP_le

/-- The trace grows by events that are no transmissions, and the buffers are left alone. -/
theorem Covered.aside (covered : Covered id credit before) (aside : Aside before after) :
    Covered id credit after := by
  obtain ⟨events, extended, beside⟩ := aside.trace
  have none : occurrences Event.forwarding id events = 0 := by
    refine occurrences_unrelated fun event member => ?_
    have other := beside event member
    cases event with
    | passedDown origin request pdu payload => cases other
    | _ => rfl
  refine ⟨by rw [aside.contending]; exact covered.idle, ?_⟩
  rw [aside.broadcast, aside.unicast, extended, occurrences_append, occurrences_append, none,
    Nat.add_zero]
  exact covered.covered.trans (Nat.le_add_right _ _)

/-- **An event** costs what it transmits, and an acceptance pays. -/
theorem Covered.emit {event : Event} {rest : ℕ} (covered : Covered id credit before)
    (pays : (if event.forwarding = some id then 1 else 0) + rest ≤
      credit + if event.acceptance = some id then 1 else 0) : Covered id rest (before.emit event) := by
  refine ⟨covered.idle, ?_⟩
  have enough := covered.covered
  unfold Router.emit
  rw [occurrences_append, occurrences_append, occurrences_singleton, occurrences_singleton]
  dsimp only
  omega

theorem costs_emit {event : Event} {rest : ℕ}
    (pays : (if event.forwarding = some id then 1 else 0) + rest ≤
      cost + if event.acceptance = some id then 1 else 0) :
    Action.Costs (Covered id) cost (Act.emit event) fun _ => rest := by
  intro credit
  refine .update fun router covered => ?_
  have left : Covered id (credit + rest) (router.emit event) := covered.emit (by omega)
  exact left

/-- **An elementary change without a received packet.** -/
theorem Covered.effect (covered : Covered id credit before)
    (effect : Effect (fun _ => False) True before after) : Covered id credit after := by
  have emits : ∀ event : Event, event.forwarding = none →
      Covered id credit (before.emit event) := by
    intro event other
    refine covered.emit ?_
    rw [other, if_neg (Option.some_ne_none id).symm, Nat.zero_add]
    exact Nat.le_add_right _ _
  have empties : ∀ {cbf : Cbf GbcAction RouterCallback RouterScope},
      cbf.buffer.Holds (fun _ => False) → Covered id credit (before.withCbf cbf) :=
    fun holds => ⟨List.eq_nil_iff_forall_not_mem.mpr holds, covered.covered⟩
  have idle : before.cbf.buffer.Holds fun _ => False := List.eq_nil_iff_forall_not_mem.mp covered.idle
  cases effect with
  | @sent origin request pdu payload own =>
    apply emits
    cases origin with
    | forwarder reception => cases own
    | _ => rfl
  | forwarded admitted tagged => exact admitted.elim
  | stopped => exact emits _ rfl
  | buffered admitted => exact admitted.elim
  | @bufferedShb packet =>
    have pushed := waiting_push id before.bcForwardBuffer (.shb packet) before.now
    refine ⟨covered.idle, ?_⟩
    have enough := covered.covered
    simp only [BufferData.awaits, Bool.toNat_false] at pushed
    dsimp only
    omega
  | contends admitted => exact admitted.elim
  | removed => exact empties (Cbf.remove_holds idle _)
  | updated => exact empties (Cbf.update_holds (fun _ _ impossible => impossible) idle _ _)
  | scheduled same => exact ⟨covered.idle, covered.covered⟩
  | repeated allowed => exact ⟨covered.idle, covered.covered⟩

theorem Covered.effects (covered : Covered id credit before)
    (effects : Effects (fun _ => False) True before after) : Covered id credit after := by
  induction effects with
  | refl => exact covered
  | tail _ effect ih => exact ih.effect effect

theorem costs_aside {α : Type} {act : Act α} (moves : Action.Moves Aside act) :
    Action.Costs (Covered id) cost act fun _ => cost :=
  .of_moves antitone_covered (fun _ _ _ aside covered => covered.aside aside) moves

theorem costs_performs {α : Type} {act : Act α} (performs : Performs (fun _ => False) True act) :
    Action.Costs (Covered id) cost act fun _ => cost :=
  .of_moves antitone_covered (fun _ _ _ effects covered => covered.effects effects) performs

end Transmissions

/-! ### Forwarding -/

/-- What the packet of a next hop is worth. -/
def NextHop.worth (id : PacketIdentifier) : NextHop → ℕ
  | valid packet _ => Geonet.worth id packet.pdu packet.action
  | _ => 0

section Forwarding

variable {platform : Platform} {env : Environment} {reception : ℕ} {id : PacketIdentifier}

theorem costs_processForwarding (packet : PendingPacketForwarding) (mac : MacAddress) :
    Action.Costs (Covered id) (worth id packet.pdu packet.action)
      (processForwarding platform env packet mac) fun _ => 0 := by
  have spare : ∀ {cost : ℕ} {act : Act Unit}, Performs (fun _ => False) True act →
      Action.Costs (Covered id) cost act fun _ => 0 :=
    fun performs => (costs_performs performs).waste antitone_covered fun _ => Nat.zero_le _
  unfold processForwarding
  cases tag : packet.action with
  | forward reception =>
    have transmits : ∀ request, Action.Costs (Covered id)
        (worth id packet.pdu (.forward reception))
        (Act.emit (.passedDown (.forwarder reception) request packet.pdu.toVariant packet.payload))
        fun _ => 0 := by
      intro request
      refine costs_emit ?_
      have same : Event.forwarding (.passedDown (.forwarder reception) request packet.pdu.toVariant
          packet.payload) = some packet.pdu.extended.identifier := rfl
      have other : Event.acceptance (.passedDown (.forwarder reception) request packet.pdu.toVariant
          packet.payload) = none := rfl
      rw [same, other, if_neg (Option.some_ne_none id).symm]
      simp only [worth, Transmit.forwards, true_and, Option.some.injEq, Nat.add_zero]
      exact Nat.le_refl _
    refine .bind (costs_performs (performs_executeMediaProcedures _)) fun _ =>
      .bind (costs_aside (moves_read _)) fun source => ?_
    unfold passDown
    split
    · exact .ite (fun _ => .fail antitone_covered) fun _ => .ite (fun _ => .fail antitone_covered)
        fun _ => transmits _
    · exact .ite (fun _ => .fail antitone_covered) fun _ => transmits _
  | source ctrl =>
    exact spare (.bind (moves_read _) fun _ => .bind (performs_secure _ _ _) fun _ =>
      .bind (performs_executeMediaProcedures _) fun _ => performs_passDownTo rfl _ _ _)
  | noop => exact .pure antitone_covered (Nat.zero_le _)

theorem costs_processNextHop (hop : NextHop) :
    Action.Costs (Covered id) (hop.worth id) (processNextHop platform env hop) fun _ => 0 := by
  cases hop with
  | valid packet mac => exact costs_processForwarding packet mac
  | discarded => exact .pure antitone_covered (Nat.zero_le _)
  | buffered => exact .pure antitone_covered (Nat.zero_le _)

variable (id) in
theorem costs_pushBroadcast (data : BufferData) :
    Action.Costs (Covered id) (data.awaits id).toNat (pushBroadcast data) fun _ => 0 := by
  intro credit
  refine .update fun router covered => ⟨covered.idle, ?_⟩
  have pushed := waiting_push id router.bcForwardBuffer data router.now
  have enough := covered.covered
  dsimp only
  omega

theorem costs_greedyForwarding (packet : PendingPacketForwarding) :
    Action.Costs (Covered id) (worth id packet.pdu packet.action)
      (greedyForwarding platform packet) (NextHop.worth id) := by
  refine .bind (costs_aside (moves_read _)) fun router => ?_
  dsimp only
  split
  · exact .pure antitone_covered (Nat.le_refl _)
  · refine .ite (fun _ => ?_) fun _ => .pure antitone_covered (Nat.le_refl _)
    have pushes := costs_pushBroadcast id (.gbc (packet.withAction (.greedy packet.action)))
    rw [awaits_gbc] at pushes
    exact .bind pushes fun _ => .pure antitone_covered (Nat.le_refl _)

theorem costs_forwardingAlgorithmSelection (detects : Detects platform)
    (packet : PendingPacketForwarding) (ll : Option LinkLayer) :
    Action.Costs (Covered id) (worth id packet.pdu packet.action)
      (forwardingAlgorithmSelection platform env packet ll) (NextHop.worth id) := by
  refine .bind (costs_aside (aside_destinationArea _ _)) fun destination =>
    .bind (costs_aside (moves_read _)) fun here => .ite (fun _ => ?_) fun _ => ?_
  · rcases detects.area with unspecified | simple
    · rw [unspecified]
      exact .pure antitone_covered (Nat.le_refl _)
    · rw [simple]
      exact .pure antitone_covered (Nat.le_refl _)
  · refine .bind (costs_aside (moves_read _)) fun pvSe => .ite (fun _ => ?_) fun _ => ?_
    · exact .bind (costs_aside (aside_emit rfl)) fun _ => .pure antitone_covered (Nat.zero_le _)
    · rcases detects.nonArea with unspecified | greedy
      · rw [unspecified]
        exact costs_greedyForwarding packet
      · rw [greedy]
        exact costs_greedyForwarding packet

theorem costs_processGbc (detects : Detects platform) (packet : PendingPacketGbc) :
    Action.Costs (Covered id) (worth id packet.pdu packet.action.transmit)
      (processGbc platform env packet) fun _ => 0 := by
  unfold processGbc
  cases packet.action with
  | forwarding transmit ll =>
    exact .bind (costs_forwardingAlgorithmSelection detects (packet.withAction transmit) ll) fun _ =>
      costs_processNextHop _
  | greedy transmit =>
    exact .bind (costs_greedyForwarding (packet.withAction transmit)) fun _ => costs_processNextHop _
  | bound transmit mac => exact costs_processForwarding (packet.withAction transmit) mac

theorem costs_processData (detects : Detects platform) (data : BufferData) :
    Action.Costs (Covered id) (data.awaits id).toNat (processData platform env data) fun _ => 0 := by
  cases data with
  | shb packet => exact costs_performs (performs_processShb packet)
  | gbc packet =>
    rw [awaits_gbc]
    exact costs_processGbc detects packet

/-- What has been taken out of a buffer costs what has waited in it. -/
theorem costs_processAll (detects : Detects platform) (list : List BufferData) :
    Action.Costs (Covered id) (list.countP (BufferData.awaits id))
      (processAll (processData platform env) list) fun _ => 0 := by
  induction list with
  | nil => exact .pure antitone_covered (Nat.le_refl _)
  | cons data rest ih =>
    have split : (data :: rest).countP (BufferData.awaits id) =
        (data.awaits id).toNat + rest.countP (BufferData.awaits id) := by
      rw [List.countP_cons, Nat.add_comm]
      cases data.awaits id <;> rfl
    have first : Action.Costs (Covered id)
        ((data.awaits id).toNat + rest.countP (BufferData.awaits id)) (processData platform env data)
        fun _ => 0 + rest.countP (BufferData.awaits id) :=
      (costs_processData detects data).surplus antitone_covered _
    rw [Nat.zero_add] at first
    rw [split]
    exact .bind first fun _ => ih

theorem free_flushBroadcast (detects : Detects platform) :
    Action.Free (Covered id) (flushBroadcastForwardingBuffer platform env) := by
  refine Action.Costs.bind ?_ fun data => costs_processAll detects data
  intro credit
  refine .update fun router covered => ⟨covered.idle, ?_⟩
  have taken := waiting_flushed id router.bcForwardBuffer router.now
  have enough := covered.covered
  have empty : waiting id router.bcForwardBuffer.clear = 0 := rfl
  dsimp only
  omega

theorem free_flushUnicast (detects : Detects platform) :
    Action.Free (Covered id) (flushUnicastForwardingBuffer platform env) := by
  refine Action.Costs.bind ?_ fun data => costs_processAll detects data
  intro credit
  refine .update fun router covered => ⟨covered.idle, ?_⟩
  have taken := waiting_flushed id router.ucForwardBuffer router.now
  have enough := covered.covered
  have empty : waiting id router.ucForwardBuffer.clear = 0 := rfl
  dsimp only
  omega

end Forwarding

/-! ### The router's own packets -/

section Own

variable {platform : Platform} {env : Environment} {id : PacketIdentifier}

theorem free_requestGbc (detects : Detects platform) (request : DataRequest) (destination : Area)
    (payload : Option ChunkPacket) :
    Action.Free (Covered id) (requestGbc platform env request destination payload) := by
  have done : ∀ result : ResultCode, Action.Free (Covered id) (pure result : Act ResultCode) :=
    fun _ => .pure antitone_covered (Nat.le_refl 0)
  cases payload with
  | none => exact done _
  | some payload =>
    unfold requestGbc
    dsimp only
    generalize ResultCode.combine _ _ = result
    refine .ite (fun _ => ?_) fun _ => done _
    refine .bind (costs_performs (performs_repeaterAdd _ _)) fun _ =>
      .bind (costs_performs (performs_createGbcPdu _ _)) fun pdu =>
        .bind (costs_aside (moves_read _)) fun neighbours => ?_
    have own : ∀ packet : PendingPacketGbc, packet.action.transmit.forwards = false →
        Action.Free (Covered id) (pushBroadcast (.gbc packet)) ∧
          Action.Free (Covered id) (processGbc platform env packet) := by
      intro packet source
      have pushes := costs_pushBroadcast id (.gbc packet)
      have processes : Action.Costs (Covered id) _ (processGbc platform env packet) _ :=
        costs_processGbc detects packet
      rw [awaits_gbc, worth_own source] at pushes
      rw [worth_own source] at processes
      exact ⟨pushes, processes⟩
    refine .ite (fun _ => ?_) fun _ => ?_
    · exact .bind (own _ rfl).1 fun _ => done _
    · exact .bind (own _ rfl).2 fun _ => done _

theorem free_request (detects : Detects platform) (request : DataRequestVariant)
    (payload : Option ChunkPacket) :
    Action.Free (Covered id) (Router.request platform env request payload) := by
  cases request with
  | shb request => exact costs_performs (performs_requestShb request payload)
  | gbc request destination => exact free_requestGbc detects request destination payload
  | gac request destination => exact .pure antitone_covered (Nat.le_refl 0)
  | guc request destination => exact .pure antitone_covered (Nat.le_refl 0)
  | tsb request => exact .pure antitone_covered (Nat.le_refl 0)

theorem free_repeaterTrigger (detects : Detects platform) (ref : ℕ) (invocation : ℤ) :
    Action.Free (Covered id) (repeaterTrigger platform env ref invocation) := by
  refine .bind (costs_aside (moves_read _)) fun router => ?_
  dsimp only
  split
  · exact .pure antitone_covered (Nat.le_refl 0)
  · split
    · exact .fail antitone_covered
    · have forgets : Performs (fun _ => False) True (modify fun router => { router with
          repetitions := router.repetitions.filter fun node => node.ref ≠ ref }) :=
        performs_effect fun _ => .repeated trivial
      exact .bind (free_request detects _ _) fun _ => costs_performs forgets

/-- No packet contends, so none is flushed. -/
theorem free_flushCbf : Action.Free (Covered id) (flushCbfBuffer platform env) := by
  intro credit
  have flushes : Action.Ensures (Covered id (credit + 0))
      (Action.update fun router : Router =>
        let flushed := router.cbf.flush flushTimer
        (flushed.1, router.withCbf flushed.2) : Act (List PendingPacketGbc))
      (fun packets router => packets = [] ∧ Covered id credit router) (Covered id credit) := by
    refine .update fun router covered => ?_
    have idle : router.cbf.buffer.Holds fun _ => False :=
      List.eq_nil_iff_forall_not_mem.mp covered.idle
    obtain ⟨flushed, left⟩ := @Cbf.flush_holds _ _ _ _ flushTimer _ _
      (fun _ _ impossible => impossible) idle
    refine ⟨List.eq_nil_iff_forall_not_mem.mpr fun packet member => ?_,
      List.eq_nil_iff_forall_not_mem.mpr left, covered.covered⟩
    obtain ⟨held, impossible, _⟩ := flushed packet member
    exact impossible
  refine .bind flushes fun packets => .given (fun _ held => held.1) ?_
  rintro rfl
  exact .pure fun _ held => held.2

theorem free_invoke (detects : Detects platform) (callback : RouterCallback) (deadline : ℤ) :
    Action.Free (Covered id) (invoke platform env callback deadline) := by
  cases callback with
  | beaconTimerExpired => exact costs_performs performs_onBeaconTimerExpired
  | flushCbfBuffer => exact free_flushCbf
  | triggerRepetition ref => exact free_repeaterTrigger detects ref deadline

end Own

/-! ### Indications -/

section Indications

variable {platform : Platform} {env : Environment} {reception : ℕ} {id : PacketIdentifier}

theorem costs_forwardReceived (detects : Detects platform) (pdu : GbcPdu) (packet : UpPacket)
    (ll : LinkLayer) :
    Action.Costs (Covered id) (worth id pdu (.forward reception))
      (forwardReceived platform env reception pdu packet ll) fun _ => 0 := by
  refine .bind (costs_aside (moves_read _)) fun neighbours => .ite (fun _ => ?_) fun _ => ?_
  · have pushes := costs_pushBroadcast id
      (.gbc (forwardingDuplicate reception pdu packet ll))
    rw [awaits_gbc] at pushes
    exact pushes
  · exact costs_processGbc detects (forwardingDuplicate reception pdu packet ll)

theorem costs_processAccepted (detects : Detects platform) (pdu : GbcPdu) (packet : UpPacket)
    (ll : LinkLayer) (locteExists : Bool) :
    Action.Costs (Covered id) (worth id pdu (.forward reception))
      (processAccepted platform env reception pdu packet ll locteExists) fun _ => 0 := by
  have flushes : Action.Costs (Covered id) (0 + worth id pdu (.forward reception))
      (flushUnicastForwardingBuffer platform env) fun _ => 0 + worth id pdu (.forward reception) :=
    (free_flushUnicast detects).surplus antitone_covered _
  rw [Nat.zero_add] at flushes
  have learns : ∀ {act : Act Unit}, Action.Moves Learns act →
      Action.Costs (Covered id) (worth id pdu (.forward reception)) act
        fun _ => worth id pdu (.forward reception) :=
    fun learns => costs_aside (aside_of_learns learns)
  refine .bind (learns (learns_detectMultiHopDuplicateAddress _ _)) fun _ =>
    .bind (learns (learns_updateGbcSource _ _ _)) fun _ => .bind flushes fun _ =>
      .bind (costs_aside (moves_read _)) fun router => ?_
  split
  · exact (costs_aside (aside_emit rfl)).waste antitone_covered fun _ => Nat.zero_le _
  · exact costs_forwardReceived detects pdu packet ll

/-- **An accepted packet** is worth a transmission. -/
theorem costs_accepted (pdu : GbcPdu) :
    Action.Costs (Covered id) 0 (Act.emit (.accepted reception pdu.extended))
      fun _ => worth id pdu (.forward reception) := by
  refine costs_emit ?_
  simp only [Event.forwarding, Event.acceptance, worth, Transmit.forwards, true_and,
    Option.some.injEq, reduceCtorEq, if_false]
  exact Nat.le_refl _

theorem free_processExtendedGbc (detects : Detects platform) (pdu : GbcPdu) (packet : UpPacket)
    (ll : LinkLayer) :
    Action.Free (Covered id) (processExtendedGbc platform env reception pdu packet ll) := by
  have received : ∀ within,
      Action.Free (Covered id) (Act.emit (.received reception pdu packet within)) :=
    fun within => costs_emit (Nat.le_refl 0)
  refine .bind (costs_aside (aside_destinationArea _ _)) fun area =>
    .bind (costs_aside (moves_read _)) fun start => ?_
  dsimp only
  rw [if_pos (detects.asks _)]
  refine .bind (received _) fun _ =>
    .bind (costs_aside (aside_of_learns (learns_detectDuplicatePacket _ _))) fun duplicate =>
      .ite (fun _ => .pure antitone_covered (Nat.le_refl 0)) fun _ => ?_
  exact .bind (costs_accepted pdu) fun _ => .bind (costs_processAccepted detects _ _ _ _) fun _ =>
    costs_aside (aside_decidePassUp _ _)

theorem free_visitParsed (detects : Detects platform) (pdu : VariantPdu) (packet : UpPacket)
    (ll : LinkLayer) (indication : DataIndication) :
    Action.Free (Covered id) (visitParsed platform env reception pdu packet ll indication) := by
  have visits : Action.Free (Covered id)
      (visitExtended platform env reception pdu packet ll indication) := by
    unfold visitExtended
    cases pdu.extended with
    | shb shb =>
      exact .bind (costs_aside (aside_of_learns (learns_processExtendedShb _ _ _))) fun _ =>
        costs_aside (.pure _)
    | geoBroadcast gbc =>
      exact .bind (costs_aside (aside_destinationArea _ _)) fun _ =>
        .bind (free_processExtendedGbc detects _ packet ll) fun _ => costs_aside (.pure _)
    | beacon beacon =>
      exact .bind (costs_aside (aside_of_learns (learns_processExtendedBeacon _ _ _))) fun _ =>
        costs_aside (.pure _)
  exact .bind visits fun _ => .ite (fun _ => costs_aside (aside_passUp _ _ _))
    fun _ => costs_aside (.pure ())

/-- **No more is transmitted** than has been accepted. -/
theorem sustains_covered (detects : Detects platform) :
    Station.Sustains platform (Covered id 0) where
  indicates _ _ _ _ :=
    keeps_indicate (fun _ => (costs_aside (aside_emit rfl)).keeps 0)
      ((costs_aside aside_dropExpired).keeps 0) ((free_flushBroadcast detects).keeps 0)
      fun _ _ _ _ _ _ => (free_visitParsed detects _ _ _ _).keeps 0
  requests _ request payload := (free_request detects request payload).keeps 0
  invokes _ callback deadline := (free_invoke detects callback deadline).keeps 0
  manages _ _ _ _ covered := ⟨covered.idle, covered.covered⟩

theorem covered_create (now firstBeacon : ℤ) : Covered id 0 (create platform.mib now firstBeacon) := by
  obtain ⟨broadcast, unicast, contending⟩ := create_buffers platform.mib now firstBeacon
  refine ⟨contending, ?_⟩
  unfold waiting
  rw [broadcast, unicast, create_trace]
  exact Nat.le_refl 0

end Indications

/-! ### Passings -/

/-- **What has been passed up** has been accepted, with so much credit left. -/
def Earned (id : PacketIdentifier) (credit : ℕ) (router : Router) : Prop :=
  occurrences Event.passing id router.trace + credit ≤ occurrences Event.acceptance id router.trace

/-- Nothing is passed up. -/
def Passless (before after : Router) : Prop :=
  ∃ events, after.trace = before.trace ++ events ∧ ∀ event ∈ events, event.passing = none

instance passlessPreorder : IsPreorder Router Passless where
  refl _ := ⟨[], (List.append_nil _).symm, List.forall_mem_nil _⟩
  trans := by
    rintro _ _ _ ⟨events, extended, passes⟩ ⟨more, further, passesMore⟩
    refine ⟨events ++ more, ?_, List.forall_mem_append.mpr ⟨passes, passesMore⟩⟩
    rw [further, extended, List.append_assoc]

section Passings

variable {platform : Platform} {env : Environment} {reception cost : ℕ} {id : PacketIdentifier}

theorem antitone_earned : Antitone (Earned id) :=
  fun _ _ smaller _ earned => (Nat.add_le_add_left smaller _).trans earned

theorem costs_passless {α : Type} {act : Act α} (moves : Action.Moves Passless act) :
    Action.Costs (Earned id) cost act fun _ => cost := by
  refine .of_moves antitone_earned (fun credit before after passless earned => ?_) moves
  obtain ⟨events, extended, passes⟩ := passless
  unfold Earned
  rw [extended, occurrences_append, occurrences_append, occurrences_unrelated passes, Nat.add_zero]
  exact earned.trans (Nat.le_add_right _ _)

theorem costs_placid {α : Type} {act : Act α} (moves : Action.Moves Placid act) :
    Action.Costs (Earned id) cost act fun _ => cost :=
  costs_passless (moves.mono fun _ _ placid => placid.trace)

/-- What passing a packet up costs. -/
def price (id : PacketIdentifier) (gbc : GeoBroadcastHeader) : ℕ :=
  if gbc.identifier = id then 1 else 0

/-- An accepted packet is worth a passing, if the decision is for it. -/
theorem costs_processExtendedGbc (detects : Detects platform) (pdu : GbcPdu) (packet : UpPacket)
    (ll : LinkLayer) :
    Action.Costs (Earned id) 0 (processExtendedGbc platform env reception pdu packet ll)
      fun passes => if passes then price id pdu.extended else 0 := by
  have accepts : Action.Costs (Earned id) 0 (Act.emit (.accepted reception pdu.extended))
      fun _ => price id pdu.extended := by
    intro credit
    refine .update fun router earned => ?_
    have enough : occurrences Event.passing id router.trace + credit ≤ _ := earned
    unfold Earned Router.emit
    rw [occurrences_append, occurrences_append, occurrences_singleton, occurrences_singleton]
    simp only [Event.passing, Event.acceptance, price, Option.some.injEq, reduceCtorEq, if_false]
    omega
  have decides : ∀ within, Action.Moves Passless (decidePassUp platform within pdu.extended) :=
    fun within => .ite (fun _ => .pure _) fun _ => .ite
      (fun _ => .update fun router => refl_of Passless router) fun _ => .pure _
  refine .bind (costs_placid (placid_destinationArea _ _)) fun area =>
    .bind (costs_placid (moves_read _)) fun start => ?_
  dsimp only
  rw [if_pos (detects.asks _)]
  refine .bind (costs_placid (placid_emit rfl)) fun _ =>
    .bind (costs_placid (placid_of_learns (learns_detectDuplicatePacket _ _))) fun duplicate =>
      .ite (fun _ => .pure antitone_earned (Nat.le_refl 0)) fun _ => ?_
  refine .bind accepts fun _ => .bind (costs_placid (placid_processAccepted _ _ _ _)) fun _ => ?_
  refine (costs_passless (decides _)).waste antitone_earned fun passes => ?_
  cases passes
  · exact Nat.zero_le _
  · exact Nat.le_refl _

/-- What passing up a packet with any extended header costs. -/
def HeaderVariant.price (id : PacketIdentifier) : HeaderVariant → ℕ
  | geoBroadcast gbc => Geonet.price id gbc
  | _ => 0

theorem costs_passUp (extended : HeaderVariant) (ind : DataIndication) (packet : UpPacket) :
    Action.Costs (Earned id) (extended.price id) (passUp extended ind packet) fun _ => 0 := by
  refine .bind (costs_placid (moves_read _)) fun transport => .ite (fun _ => ?_) fun _ =>
    .pure antitone_earned (Nat.zero_le _)
  intro credit
  refine .update fun router earned => ?_
  have enough : occurrences Event.passing id router.trace + _ ≤ _ := earned
  unfold Earned Router.emit
  rw [occurrences_append, occurrences_append, occurrences_singleton, occurrences_singleton]
  cases extended with
  | geoBroadcast gbc =>
    simp only [Event.passing, Event.acceptance, HeaderVariant.price, price, Option.some.injEq,
      reduceCtorEq, if_false] at enough ⊢
    omega
  | shb shb =>
    simp only [Event.passing, Event.acceptance, reduceCtorEq, if_false]
    exact enough
  | beacon beacon =>
    simp only [Event.passing, Event.acceptance, reduceCtorEq, if_false]
    exact enough

theorem free_earned_visitParsed (detects : Detects platform) (pdu : VariantPdu) (packet : UpPacket)
    (ll : LinkLayer) (indication : DataIndication) :
    Action.Free (Earned id) (visitParsed platform env reception pdu packet ll indication) := by
  have visits : Action.Costs (Earned id) 0
      (visitExtended platform env reception pdu packet ll indication)
      fun visited => if visited.1 then pdu.extended.price id else 0 := by
    have returns : ∀ (passes : Bool) (indication : DataIndication), Action.Costs (Earned id)
        (if passes then pdu.extended.price id else 0) (pure (passes, indication) : Act _)
        fun visited => if visited.1 then pdu.extended.price id else 0 :=
      fun _ _ => .pure antitone_earned (Nat.le_refl _)
    unfold visitExtended
    cases extended : pdu.extended with
    | shb shb =>
      rw [extended] at returns
      refine .bind ((costs_placid (placid_of_learns (learns_processExtendedShb _ _ _))).waste
        antitone_earned fun passes => ?_) fun passes => returns passes _
      exact (ite_self 0).le
    | geoBroadcast gbc =>
      rw [extended] at returns
      exact .bind (costs_placid (placid_destinationArea _ _)) fun _ =>
        .bind (costs_processExtendedGbc detects _ packet ll) fun passes => returns passes _
    | beacon beacon =>
      rw [extended] at returns
      refine .bind ((costs_placid (placid_of_learns (learns_processExtendedBeacon _ _ _))).waste
        antitone_earned fun passes => ?_) fun passes => returns passes _
      exact (ite_self 0).le
  refine .bind visits fun visited => .ite (fun passes => ?_) fun _ =>
    .pure antitone_earned (Nat.zero_le _)
  rw [if_pos passes]
  exact costs_passUp _ _ _

/-- **No more is passed up** than has been accepted. -/
theorem sustains_earned (detects : Detects platform) : Station.Sustains platform (Earned id 0) where
  indicates _ _ _ _ :=
    keeps_indicate (fun _ => (costs_placid (placid_emit rfl)).keeps 0)
      ((costs_placid placid_dropExpired).keeps 0)
      ((costs_placid (placid_of_calm calm_flushBroadcastForwardingBuffer)).keeps 0)
      fun _ _ _ _ _ _ => (free_earned_visitParsed detects _ _ _ _).keeps 0
  requests _ request payload :=
    (costs_placid (placid_of_calm (calm_request request payload))).keeps 0
  invokes _ callback deadline :=
    (costs_placid (placid_of_calm (calm_invoke callback deadline))).keeps 0
  manages _ _ _ _ earned := earned

theorem earned_create (now firstBeacon : ℤ) : Earned id 0 (create platform.mib now firstBeacon) := by
  unfold Earned
  rw [create_trace]
  exact Nat.le_refl 0

end Passings

/-! ### Other stations -/

/-- The station whose entry a packet with this header is about. -/
def HeaderVariant.sourceMac : HeaderVariant → MacAddress
  | shb header => header.sourcePosition.gnAddr.mid
  | geoBroadcast header => header.sourcePosition.gnAddr.mid
  | beacon header => header.sourcePosition.gnAddr.mid

/-- The entry of a station is left alone, with its deadline. -/
def Spares (mac : MacAddress) (before after : Router) : Prop :=
  before.locationTable.WellFormed → after.locationTable.WellFormed ∧
    after.locationTable.view mac = before.locationTable.view mac

instance sparesPreorder (mac : MacAddress) : IsPreorder Router (Spares mac) where
  refl _ formed := ⟨formed, rfl⟩
  trans _ _ _ first second formed := by
    obtain ⟨formedMid, same⟩ := first formed
    obtain ⟨formedAfter, sameAfter⟩ := second formedMid
    exact ⟨formedAfter, sameAfter.trans same⟩

section Others

variable {platform : Platform} {env : Environment} {reception : ℕ} {mac : MacAddress}

theorem view_modify_other {table : LocationTable} {other : MacAddress} (formed : table.WellFormed)
    (different : other ≠ mac) (change : LocationTableEntry → LocationTableEntry) :
    (table.modify other change).WellFormed ∧ (table.modify other change).view mac = table.view mac := by
  obtain ⟨formedAfter, views⟩ := modify_spec other formed change
  refine ⟨formedAfter, ?_⟩
  rw [views, Function.update_of_ne different.symm]

theorem view_refresh_other {table : LocationTable} {other : MacAddress} (now : ℤ)
    (formed : table.WellFormed) (different : other ≠ mac) :
    (table.refresh LocationTableEntry.create now other).2.WellFormed ∧
      (table.refresh LocationTableEntry.create now other).2.view mac = table.view mac := by
  obtain ⟨formedAfter, _, _, views⟩ := refresh_spec LocationTableEntry.create now other formed
  refine ⟨formedAfter, ?_⟩
  rw [views, Function.update_of_ne different.symm]

theorem view_update_other {table : LocationTable} (now : ℤ) {lpv : LongPositionVector}
    (formed : table.WellFormed) (different : lpv.gnAddr.mid ≠ mac) :
    (LocationTable.update table now lpv).WellFormed ∧
      (LocationTable.update table now lpv).view mac = table.view mac := by
  have modified := view_modify_other formed different fun entry => (entry.updatePositionVector lpv).2
  have refreshed := view_refresh_other now formed different
  have both := view_modify_other refreshed.1 different fun entry => (entry.updatePositionVector lpv).2
  unfold LocationTable.update
  dsimp only
  split
  · split_ifs
    · have again := view_refresh_other now modified.1 different
      exact ⟨again.1, again.2.trans modified.2⟩
    · exact modified
    · exact ⟨both.1, both.2.trans refreshed.2⟩
  · exact ⟨both.1, both.2.trans refreshed.2⟩

theorem spares_of_calm {α : Type} {act : Act α} (calm : Calm act) :
    Action.Moves (Spares mac) act := by
  refine calm.mono fun before after quiet formed => ?_
  rw [quiet.table]
  exact ⟨formed, rfl⟩

theorem spares_detectDuplicateAddress (source : Address) (sender : MacAddress) :
    Action.Moves (Spares mac) (detectDuplicateAddress platform env source sender) := by
  refine .update fun router formed => ?_
  dsimp only
  split_ifs <;> exact ⟨formed, rfl⟩

theorem spares_updateSource {lpv : LongPositionVector} (different : lpv.gnAddr.mid ≠ mac)
    (change : LocationTableEntry → LocationTableEntry) :
    Action.Moves (Spares mac) (updateSource lpv change) := by
  refine .update fun router formed => ?_
  have updated := view_update_other router.now formed different
  have changed := view_modify_other updated.1 different change
  exact ⟨changed.1, changed.2.trans updated.2⟩

theorem spares_detectDuplicatePacket {source : Address} (different : source.mid ≠ mac)
    (sn : SequenceNumber) : Action.Moves (Spares mac) (detectDuplicatePacket platform source sn) := by
  refine .update fun router formed => ?_
  obtain ⟨formedAfter, _, _, views⟩ :=
    getValue_spec LocationTableEntry.create router.now source.mid formed
  have found : (router.locationTable.getOrCreateEntry router.now source.mid).2.WellFormed := formedAfter
  have same : (router.locationTable.getOrCreateEntry router.now source.mid).2.view mac =
      router.locationTable.view mac := by
    unfold LocationTable.getOrCreateEntry
    rw [views, Function.update_of_ne different.symm]
  dsimp only
  exact ⟨(view_modify_other found different _).1, (view_modify_other found different _).2.trans same⟩

theorem spares_processExtendedGbc {pdu : GbcPdu} (packet : UpPacket) (ll : LinkLayer)
    (different : pdu.extended.sourcePosition.gnAddr.mid ≠ mac) :
    Action.Moves (Spares mac) (processExtendedGbc platform env reception pdu packet ll) := by
  have emits : ∀ event, Action.Moves (Spares mac) (Act.emit event) :=
    fun _ => .update fun _ formed => ⟨formed, rfl⟩
  have forwards : ∀ locteExists, Action.Moves (Spares mac)
      (processAccepted platform env reception pdu packet ll locteExists) := by
    intro locteExists
    have detects : Action.Moves (Spares mac) (detectMultiHopDuplicateAddress platform env
        pdu.extended.sourcePosition.gnAddr ll.sender) :=
      .ite (fun _ => spares_detectDuplicateAddress _ _) fun _ => .pure ()
    have updates : Action.Moves (Spares mac)
        (updateGbcSource platform pdu.extended packet locteExists) :=
      .bind (moves_read _) fun _ => spares_updateSource different _
    refine .bind detects fun _ => .bind updates fun _ =>
      .bind (spares_of_calm calm_flushUnicastForwardingBuffer) fun _ => .bind (moves_read _) fun _ => ?_
    split
    · exact emits _
    · refine spares_of_calm (.bind (moves_read _) fun _ => .ite (fun _ => ?_) fun _ => ?_)
      · exact calm_of_performs (performs_pushBroadcastGbc (A := fun _ => True) trivial)
      · exact calm_of_performs (performs_processGbc hereditary_all trivial)
  have decides : ∀ within, Action.Moves (Spares mac) (decidePassUp platform within pdu.extended) :=
    fun within => .ite (fun _ => .pure _) fun _ =>
      .ite (fun _ => .update fun _ formed => ⟨formed, rfl⟩) fun _ => .pure _
  have finds : Action.Moves (Spares mac) (destinationArea pdu.extended pdu.common.headerType) :=
    spares_of_calm (calm_of_performs (performs_destinationArea _ _ : Performs (fun _ => True) True _))
  have rest : ∀ (within locteExists duplicate : Bool), Action.Moves (Spares mac)
      (if duplicate then pure false
        else do
          Act.emit (.accepted reception pdu.extended)
          processAccepted platform env reception pdu packet ll locteExists
          decidePassUp platform within pdu.extended) :=
    fun within locteExists duplicate => .ite (fun _ => .pure _) fun _ => .bind (emits _) fun _ =>
      .bind (forwards _) fun _ => decides _
  refine .bind finds fun area => .bind (moves_read _) fun start => ?_
  dsimp only
  refine .bind (emits _) fun _ => .ite (fun _ => ?_) fun _ => ?_
  · exact .bind (spares_detectDuplicatePacket different _) fun duplicate => rest _ _ duplicate
  · exact .bind (.pure false) fun duplicate => rest _ _ duplicate

/-- **Packets of another station** leave the entry alone. -/
theorem spares_visitParsed {pdu : VariantPdu} (packet : UpPacket) (ll : LinkLayer)
    (indication : DataIndication) (different : pdu.extended.sourceMac ≠ mac) :
    Action.Moves (Spares mac) (visitParsed platform env reception pdu packet ll indication) := by
  have passes : ∀ ind, Action.Moves (Spares mac) (passUp pdu.extended ind packet) :=
    fun ind => .bind (moves_read _) fun _ =>
      .ite (fun _ => .update fun _ formed => ⟨formed, rfl⟩) fun _ => .pure ()
  have visits : Action.Moves (Spares mac)
      (visitExtended platform env reception pdu packet ll indication) := by
    unfold visitExtended
    cases extended : pdu.extended with
    | shb shb =>
      rw [extended] at different
      exact .bind (.bind (spares_detectDuplicateAddress _ _) fun _ => .bind (moves_read _) fun _ =>
        .bind (spares_updateSource different _) fun _ => .pure _) fun _ => .pure _
    | geoBroadcast gbc =>
      rw [extended] at different
      exact .bind (spares_of_calm (calm_of_performs
        (performs_destinationArea _ _ : Performs (fun _ => True) True _))) fun _ =>
          .bind (spares_processExtendedGbc packet ll different) fun _ => .pure _
    | beacon beacon =>
      rw [extended] at different
      exact .bind (.bind (spares_detectDuplicateAddress _ _) fun _ => .bind (moves_read _) fun _ =>
        .bind (spares_updateSource different _) fun _ => .pure _) fun _ => .pure _
  exact .bind visits fun _ => .ite (fun _ => passes _) fun _ => .pure ()

end Others

/-! ### Runs -/

/-- The entry of a station is dropped. -/
def Event.drops (mac : MacAddress) : Event → Bool
  | expired macs => macs.any fun other => other = mac
  | _ => false

/-- **A packet is accepted again only after** the entry of its source has been dropped, or so many other
packets of stations that are alike have been accepted. -/
def Suppresses (capacity : ℕ) (alike : Address → Address → Prop) (trace : List Event) : Prop :=
  ∀ earlier first between second later id,
    trace = earlier ++ first :: (between ++ second :: later) → first.acceptance = some id →
      second.acceptance = some id →
        (∃ event ∈ between, event.drops id.source.mid = true) ∨
          ∃ numbers : List SequenceNumber, numbers.Nodup ∧ numbers.length = capacity ∧
            id.sequenceNumber ∉ numbers ∧ ∀ sn ∈ numbers, ∃ event ∈ between, ∃ source,
              alike source id.source ∧ event.acceptance = some ⟨source, sn⟩

section Runs

variable {trace events : List Event} {event : Event} {id : PacketIdentifier} {capacity : ℕ}

theorem detection_of_acceptance (accepted : event.acceptance = some id) :
    event.detection id.source.mid = some (some id.sequenceNumber) := by
  cases event with
  | accepted reception gbc =>
    cases accepted
    exact if_pos rfl
  | _ => cases accepted

theorem drops_of_detection {mac : MacAddress} (reset : event.detection mac = some none) :
    event.drops mac = true := by
  cases event with
  | expired macs =>
    unfold Event.detection at reset
    dsimp only at reset
    split_ifs at reset with member
    exact List.any_eq_true.mpr ⟨mac, member, decide_eq_true rfl⟩
  | accepted reception gbc =>
    unfold Event.detection at reset
    dsimp only at reset
    split_ifs at reset
    cases reset
  | _ => cases reset

theorem acceptance_of_detection {mac : MacAddress} {sn : SequenceNumber}
    (fresh : event.detection mac = some (some sn)) :
    ∃ source : Address, source.mid = mac ∧ event.acceptance = some ⟨source, sn⟩ := by
  cases event with
  | accepted reception gbc =>
    unfold Event.detection at fresh
    dsimp only at fresh
    split_ifs at fresh with same
    cases fresh
    exact ⟨gbc.sourcePosition.gnAddr, same, rfl⟩
  | expired macs =>
    unfold Event.detection at fresh
    dsimp only at fresh
    split_ifs at fresh
    cases fresh
  | _ => cases fresh

/-- Two packets with one identifier are in the history of their station. -/
theorem suppresses_of_fresh (fresh : ∀ mac, Fresh capacity (historyOf mac trace)) :
    Suppresses capacity (fun one other => one.mid = other.mid) trace := by
  intro earlier first between second later id split accepted again
  have history : historyOf id.source.mid trace =
      historyOf id.source.mid earlier ++ some id.sequenceNumber ::
        (historyOf id.source.mid between ++ some id.sequenceNumber ::
          historyOf id.source.mid later) := by
    unfold historyOf
    rw [split, List.filterMap_append, List.filterMap_cons_some (detection_of_acceptance accepted),
      List.filterMap_append, List.filterMap_cons_some (detection_of_acceptance again)]
  have fresh := fresh id.source.mid
  rw [history] at fresh
  by_cases dropped : none ∈ historyOf id.source.mid between
  · obtain ⟨event, member, reset⟩ := List.mem_filterMap.mp dropped
    exact .inl ⟨event, member, drops_of_detection reset⟩
  · obtain ⟨numbers, nodup, length, absent, since⟩ := fresh.separated dropped
    refine .inr ⟨numbers, nodup, length, absent, fun sn member => ?_⟩
    obtain ⟨event, between, came⟩ := List.mem_filterMap.mp (since sn member)
    obtain ⟨source, same, accepted⟩ := acceptance_of_detection came
    exact ⟨event, between, source, same, accepted⟩

end Runs

/-- **Duplicates are not forwarded.** A packet is accepted a second time only after its station's entry
has been dropped or the list of the station has been filled with other packets; a packet is not
transmitted or passed up more often than it has been accepted; what the list says depends on the
history of the station alone, and packets of another one leave the entry alone. -/
theorem duplicates_suppressed (platform : Platform) (detects : Detects platform) (station : Station)
    (reached : Reachable (Station.Initial platform) (Station.step platform) station) :
    Suppresses platform.mib.itsGnDPLLength (fun one other => one.mid = other.mid)
        station.router.trace ∧
      (∀ id, occurrences Event.forwarding id station.router.trace ≤
          occurrences Event.acceptance id station.router.trace ∧
        occurrences Event.passing id station.router.trace ≤
          occurrences Event.acceptance id station.router.trace) ∧
      (∀ source sn, (Router.detectDuplicatePacket platform source sn station.router).1 =
        .ok (decide (sn ∈ window platform.mib.itsGnDPLLength
          (historyOf source.mid station.router.trace)))) ∧
      ∀ env reception pdu packet ll indication mac, pdu.extended.sourceMac ≠ mac →
        (Router.visitParsed platform env reception pdu packet ll indication
            station.router).2.locationTable.view mac = station.router.locationTable.view mac := by
  have detecting : Detecting platform.mib.itsGnDPLLength station.router :=
    (sustains_detecting detects rfl).reachable detecting_create reached
  have covered : ∀ id, Covered id 0 station.router :=
    fun id => (sustains_covered detects).reachable covered_create reached
  have earned : ∀ id, Earned id 0 station.router :=
    fun id => (sustains_earned detects).reachable earned_create reached
  refine ⟨suppresses_of_fresh detecting.fresh, fun id => ⟨?_, earned id⟩, fun source sn => ?_, ?_⟩
  · have enough := (covered id).covered
    omega
  · rw [(detectDuplicatePacket_spec platform source sn detecting.formed).1, detecting.numbers]
  · intro env reception pdu packet ll indication mac different
    exact (spares_visitParsed packet ll indication different station.router detecting.formed).2

/-! ### Two addresses of one station -/

/-- A router that broadcasts whatever comes first. -/
def attentive : Platform where
  mib := { Mib.initial with
    vanetzaDisableBeaconing := true
    itsGnAreaForwardingAlgorithm := .simple }
  geometry := flatland

theorem attentive_detects : Detects attentive := ⟨.inr rfl, .inr rfl⟩

/-- An address with the MAC part of the zero address. -/
def twin : Address := { LongPositionVector.zero.gnAddr with countryCode := 1 }

/-- What a station has heard when a packet comes again behind those of its source's twin. -/
def interleaved : List (Environment × Station.Action) :=
  hears (announcement LongPositionVector.zero.gnAddr 1) ::
    ([2, 3, 4, 5, 6, 7, 8, 9].map fun sn => hears (announcement twin sn)) ++
      [hears (announcement LongPositionVector.zero.gnAddr 1)]

theorem interleaved_accepts : ∃ station : Station,
    Reachable (Station.Initial attentive) (Station.step attentive) station ∧
      station.router.trace.filterMap Event.acceptance =
        ⟨LongPositionVector.zero.gnAddr, 1⟩ ::
          ([2, 3, 4, 5, 6, 7, 8, 9].map fun sn => ⟨twin, sn⟩) ++
            [⟨LongPositionVector.zero.gnAddr, 1⟩] ∧
      station.router.trace.all fun event => !event.drops LongPositionVector.zero.gnAddr.mid :=
  run_reach (Station.Initial attentive) (Station.step attentive) (fun _ _ => True)
    (fun station => station.router.trace.filterMap Event.acceptance =
        ⟨LongPositionVector.zero.gnAddr, 1⟩ ::
          ([2, 3, 4, 5, 6, 7, 8, 9].map fun sn => ⟨twin, sn⟩) ++
            [⟨LongPositionVector.zero.gnAddr, 1⟩] ∧
      station.router.trace.all fun event => !event.drops LongPositionVector.zero.gnAddr.mid)
    ⟨0, 0, rfl⟩ interleaved (by decide +kernel)

/-- **The addresses of one station share a list.** The packets of the twin drive the packet of the zero
address out of the list, though no other packet of that address has been accepted. -/
theorem not_duplicates_suppressed : ∃ station : Station,
    Reachable (Station.Initial attentive) (Station.step attentive) station ∧
      ¬ Suppresses attentive.mib.itsGnDPLLength (fun one other => one = other)
        station.router.trace := by
  obtain ⟨station, reached, accepts, keeps⟩ := interleaved_accepts
  refine ⟨station, reached, fun suppresses => ?_⟩
  obtain ⟨earlier, first, rest, split, _, accepted, remaining⟩ :=
    List.filterMap_eq_cons_iff.mp accepts
  obtain ⟨others, last, rfl, twins, ended⟩ := List.filterMap_eq_append_iff.mp remaining
  obtain ⟨silent, second, later, rfl, nothing, again, _⟩ := List.filterMap_eq_cons_iff.mp ended
  have between : (others ++ silent).filterMap Event.acceptance =
      [2, 3, 4, 5, 6, 7, 8, 9].map fun sn => ⟨twin, sn⟩ := by
    rw [List.filterMap_append, twins, List.filterMap_eq_nil_iff.mpr nothing, List.append_nil]
  rw [← List.append_assoc] at split
  rcases suppresses earlier first (others ++ silent) second later _ split accepted again with
    ⟨event, member, dropped⟩ | ⟨numbers, _, length, _, since⟩
  · have inTrace : event ∈ station.router.trace := by
      rw [split]
      exact List.mem_append_right _ (List.mem_cons_of_mem _ (List.mem_append_left _ member))
    have kept := List.all_eq_true.mp keeps event inTrace
    rw [dropped] at kept
    cases kept
  · cases numbers with
    | nil => exact absurd length (by decide)
    | cons sn _ =>
      obtain ⟨event, member, source, rfl, came⟩ := since sn List.mem_cons_self
      have listed := List.mem_filterMap.mpr ⟨event, member, came⟩
      rw [between] at listed
      obtain ⟨number, _, same⟩ := List.mem_map.mp listed
      have address : twin = LongPositionVector.zero.gnAddr := congrArg PacketIdentifier.source same
      exact absurd address (by decide)

/-- The packet that comes again is accepted twice, and transmitted and passed up at most twice. -/
theorem duplicates_suppressed_attentive : ∃ station : Station,
    Reachable (Station.Initial attentive) (Station.step attentive) station ∧
      occurrences Event.acceptance ⟨LongPositionVector.zero.gnAddr, 1⟩ station.router.trace = 2 ∧
      occurrences Event.forwarding ⟨LongPositionVector.zero.gnAddr, 1⟩ station.router.trace ≤ 2 ∧
      Suppresses 8 (fun one other => one.mid = other.mid) station.router.trace := by
  obtain ⟨station, reached, accepts, _⟩ := interleaved_accepts
  have counted : occurrences Event.acceptance ⟨LongPositionVector.zero.gnAddr, 1⟩
      station.router.trace = 2 := by
    rw [occurrences_eq, accepts]
    decide
  obtain ⟨suppresses, counts, _⟩ := duplicates_suppressed attentive attentive_detects station reached
  refine ⟨station, reached, counted, ?_, suppresses⟩
  rw [← counted]
  exact (counts _).1

end Vanet.Geonet
