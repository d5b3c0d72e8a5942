/-
**Callbacks that do not fail.**

Callbacks transmit what is waiting: own packets and received ones that contend, wait for a neighbour or are
repeated. What the transmission would throw an exception for is excluded when a packet begins to wait
(`fitStock`), and stays excluded while it waits, whichever forwarding algorithm it goes through.

* `fit_transmits`, `fit_requests`: a router that is fit transmits and requests without an exception.
* `succeeds_invoke`: a callback of a router that is fit returns, and the router is fit again.
-/

import Vanet.Geonet.Atomicity
import Vanet.Geonet.Stocking

namespace Vanet.Geonet

open Vanet.Common Vanet.Library Vanet.Security
open Vanet.Net hiding ByteBuffer
open Act Router

/-! ### Packets that wait -/

/-- **What a transmission needs.** An own packet has not been secured yet; any other one is as `pass_down`
wants it. -/
def Transmittable (platform : Platform) (pdu : VariantPdu) (payload : ChunkPacket) : Transmit → Prop
  | .forward _ => Sendable pdu payload
  | .source _ => Prepared platform pdu
  | .noop => True

/-- A GeoBroadcast packet tells where it goes. -/
def Directed (pdu : VariantPdu) : Prop :=
  ∀ gbc, pdu.extended = .geoBroadcast gbc → (gbc.destination pdu.common.headerType).isSome = true

/-- A request that can be made again: of a kind and an upper protocol that are supported. -/
structure Repeatable (request : DataRequestVariant) : Prop where
  repeats : request.request.repetition.isSome = true
  known : request.request.upperProtocol ≠ .unknown

/-- Whatever is handed over, `pass_down` has accepted. -/
def Event.Sent (event : Event) : Prop :=
  ∀ origin request pdu payload, event = .passedDown origin request pdu payload → Sendable pdu payload

/-- What is known of a router whose callbacks do not fail. -/
def fitStock (platform : Platform) : Stock where
  waits pdu payload transmit := Directed pdu ∧ Transmittable platform pdu payload transmit
  told := Event.Sent
  beside _ repetitions := ∀ node ∈ repetitions, Repeatable node.request

/-- **A router whose callbacks do not fail.** -/
abbrev Fit (platform : Platform) (router : Router) : Prop := Stocked (fitStock platform) router

/-- The action returns from every router that is fit, and the router is fit again. -/
abbrev Succeeds (platform : Platform) {α : Type} (act : Act α) : Prop :=
  Action.Ensures (Fit platform) act (fun _ => Fit platform) fun _ => False

section Rules

variable {platform : Platform} {env : Environment} {α : Type} {router : Router}

theorem Succeeds.holding {E : Router → Prop} {act : Act α} (succeeds : Succeeds platform act) :
    Holding (Fit platform) E act :=
  succeeds.weaken (fun _ _ fit => fit) fun _ => False.elim

theorem Succeeds.ok {act : Act α} (succeeds : Succeeds platform act) (fit : Fit platform router) :
    ∃ value after, act router = (.ok value, after) ∧ Fit platform after := by
  rcases ran : act router with ⟨fault | value, after⟩
  · exact (Action.Ensures.error succeeds fit ran).elim
  · exact ⟨value, after, rfl, Action.Ensures.ok succeeds fit ran⟩

theorem Event.sent_of_silent {event : Event}
    (silent : ∀ origin request pdu payload, event ≠ .passedDown origin request pdu payload) : event.Sent :=
  fun origin request pdu payload same => absurd same (silent origin request pdu payload)

/-- A router that is fit learns of another one. -/
theorem Fit.learns {after : Router} (fit : Fit platform router) (learns : Learns router after) :
    Fit platform after := by
  obtain ⟨table, lpv, rfl⟩ := learns
  exact fit.aside rfl rfl rfl rfl fit.beside

end Rules

/-! ### Transmitting -/

section Transmitting

variable {platform : Platform} {env : Environment}

theorem succeeds_passDown {origin : Origin} {request : Dcc.DataRequest} {pdu : VariantPdu}
    {payload : ChunkPacket} (sendable : Sendable pdu payload) :
    Succeeds platform (passDown origin request pdu payload) := by
  have emits : Succeeds platform (Act.emit (.passedDown origin request pdu payload)) :=
    .update fun _ fit => fit.emit fun _ _ _ _ same => by
      cases same
      exact sendable
  unfold Sendable at sendable
  unfold passDown
  cases secured : pdu.secured with
  | some message =>
    rw [secured] at sendable
    refine .ite (fun unflagged => absurd sendable.1 unflagged) fun _ => .ite (fun more => ?_) fun _ => emits
    exact absurd sendable.2 (Nat.pos_iff_ne_zero.mp more)
  | none =>
    rw [secured] at sendable
    exact .ite (fun flagged => absurd flagged sendable) fun _ => emits

theorem succeeds_passDownTo {origin : Origin} {addr : MacAddress} {pdu : VariantPdu}
    {payload : ChunkPacket} (sendable : Sendable pdu payload) :
    Succeeds platform (passDownTo origin addr pdu payload) :=
  .bind (holding_read _) fun _ => succeeds_passDown sendable

variable (present : ¬ SecurityMissing platform env)

include present

/-- Securing a packet returns one that can be passed down. -/
theorem ensures_secure {H : Type} [ExtendedHeader H] {itsAid : ItsAid} {pdu : ExtendedPdu H}
    {packet : ChunkPacket} (prepared : Prepared platform pdu) :
    Action.Ensures (Fit platform) (secure platform env itsAid pdu packet)
      (fun secured router => Fit platform router ∧ Sendable secured.1.toVariant secured.2)
      fun _ => False := by
  intro router fit
  obtain ⟨secured, payload, ran, sendable⟩ : ∃ secured payload,
      secure platform env itsAid pdu packet router = (.ok (secured, payload), router) ∧
        Sendable secured.toVariant payload := secure_ok prepared present
  rw [ran]
  exact ⟨fit, sendable⟩

/-- An own packet is secured and passed down. -/
theorem succeeds_sending {H : Type} [ExtendedHeader H] {itsAid : ItsAid} {pdu : ExtendedPdu H}
    {packet : ChunkPacket} {comProfile : CommunicationProfile} {origin : Origin} {addr : MacAddress}
    {rest : Act Unit} (prepared : Prepared platform pdu) (continues : Succeeds platform rest) :
    Succeeds platform (do
      let (pdu, payload) ← secure platform env itsAid pdu packet
      executeMediaProcedures comProfile
      passDownTo origin addr pdu.toVariant payload
      rest) := by
  refine .bind_given (ensures_secure present prepared) fun secured sendable => ?_
  exact .bind (holding_executeMediaProcedures _) fun _ =>
    .bind (succeeds_passDownTo sendable) fun _ => continues

theorem succeeds_processShb {packet : PendingPacketShb} (prepared : Prepared platform packet.pdu) :
    Succeeds platform (processShb platform env packet) :=
  .bind (holding_read _) fun _ =>
    succeeds_sending present (prepared.positioned _) holding_resetBeaconTimer

theorem succeeds_onBeaconTimerExpired : Succeeds platform (onBeaconTimerExpired platform env) := by
  refine .ite (fun _ => holding_pure _) fun _ => ?_
  have creates : Action.Ensures (Fit platform) (createBeaconPdu platform)
      (fun pdu router => Fit platform router ∧ pdu.secured = none) fun _ => False :=
    .bind (holding_read _) fun _ => .pure fun _ fit => ⟨fit, rfl⟩
  refine .bind_given creates fun pdu unsecured => ?_
  exact succeeds_sending present ⟨unsecured, rfl⟩ holding_resetBeaconTimer

theorem succeeds_processForwarding {packet : PendingPacketForwarding}
    (transmittable : Transmittable platform packet.pdu.toVariant packet.payload packet.action)
    (mac : MacAddress) : Succeeds platform (processForwarding platform env packet mac) := by
  unfold processForwarding
  cases action : packet.action with
  | forward reception =>
    rw [action] at transmittable
    exact .bind (holding_executeMediaProcedures _) fun _ => .bind (holding_read _) fun _ =>
      succeeds_passDown transmittable
  | source ctrl =>
    rw [action] at transmittable
    have prepared : Prepared platform packet.pdu := ⟨transmittable.unsecured, transmittable.flagged⟩
    refine .bind (holding_read _) fun sourcePosition => ?_
    refine .bind_given (ensures_secure present (prepared.positioned _)) fun secured sendable => ?_
    exact .bind (holding_executeMediaProcedures _) fun _ => succeeds_passDownTo sendable
  | noop => exact holding_pure _

end Transmitting

/-! ### Waiting -/

section Waiting

variable {platform : Platform} {env : Environment}

/-- A duplicate has no payload beside a secured message. -/
theorem Router.Sendable.duplicate {pdu : VariantPdu} {payload : ChunkPacket} (sendable : Sendable pdu payload) :
    Sendable pdu (if pdu.secured.isSome then .empty else payload) := by
  unfold Sendable at *
  cases secured : pdu.secured with
  | none =>
    rw [secured] at sendable
    exact sendable
  | some message =>
    rw [secured] at sendable
    exact ⟨sendable.1, rfl⟩

theorem succeeds_destinationArea {pdu : GbcPdu} (directed : Directed pdu.toVariant) :
    Succeeds platform (destinationArea pdu.extended pdu.common.headerType) := by
  obtain ⟨area, told⟩ := Option.isSome_iff_exists.mp (directed pdu.extended rfl)
  have same : pdu.extended.destination pdu.common.headerType = some area := told
  unfold destinationArea
  rw [same]
  exact holding_pure _

/-- **A router that is fit** transmits what waits. -/
theorem fit_transmits (present : ¬ SecurityMissing platform env) (E : Router → Prop) :
    (fitStock platform).Transmits platform env E where
  ages pdu payload transmit lifetime waits := by
    refine ⟨waits.1, ?_⟩
    have transmittable := waits.2
    cases transmit with
    | forward reception => exact transmittable
    | source ctrl => exact ⟨transmittable.unsecured, transmittable.flagged⟩
    | noop => exact trivial
  silent _ _ _ waits := ⟨waits.1, trivial⟩
  duplicate pdu payload transmit waits := by
    refine ⟨waits.1, ?_⟩
    have transmittable := waits.2
    cases transmit with
    | forward reception => exact Router.Sendable.duplicate transmittable
    | source ctrl => exact transmittable
    | noop => exact trivial
  tells _ silent := Event.sent_of_silent silent
  locates _ _ _ waits := Succeeds.holding (succeeds_destinationArea waits.1)
  forwards _ waits mac := Succeeds.holding (succeeds_processForwarding present waits.2 mac)
  broadcasts packet waits := by
    have prepared : Prepared platform packet.pdu := ⟨waits.2.unsecured, waits.2.flagged⟩
    exact Succeeds.holding (succeeds_processShb present prepared)

end Waiting

/-! ### Requests and callbacks -/

section Requested

variable {platform : Platform} {env : Environment} (present : ¬ SecurityMissing platform env)

include present

/-- **... and what is requested**, of a known upper protocol. -/
theorem fit_requests : (fitStock platform).Requests platform env (fun _ => False)
    fun request _ => request.request.upperProtocol ≠ .unknown where
  sends := fit_transmits present _
  repeats _ request _ _ fit known repeats :=
    List.forall_mem_cons.mpr ⟨⟨repeats, known⟩, fit.beside⟩
  createsShb request payload known := by
    intro router fit
    have asked : request.upperProtocol ≠ .unknown := known
    obtain ⟨pdu, created, prepared⟩ := createShbPdu_ok platform env router asked
    rw [created]
    exact ⟨fit, ⟨nofun, prepared.unsecured, prepared.flagged⟩⟩
  createsGbc request destination payload known := by
    intro router fit
    have asked : request.upperProtocol ≠ .unknown := known
    obtain ⟨pdu, created, prepared, _, told⟩ := createGbcPdu_ok platform router asked destination
    rw [created]
    refine ⟨fit.aside rfl rfl rfl rfl fit.beside, ⟨?_, prepared.unsecured, prepared.flagged⟩⟩
    rintro gbc same
    cases same
    show (pdu.extended.destination pdu.common.headerType).isSome = true
    rw [told]
    rfl
  asserts router node fit member stored := by
    have repeats := (fit.beside node member).repeats
    rw [stored] at repeats
    cases repeats
  again router node repetition delayed fit member _ := by
    have known := (fit.beside node member).known
    unfold nextRequest
    dsimp only
    split_ifs
    all_goals cases request : node.request <;> rw [request] at known <;> exact known
  forgets router ref fit := fun node member => fit.beside node (List.mem_filter.mp member).1
  beacons := succeeds_onBeaconTimerExpired present

theorem succeeds_request {request : DataRequestVariant} (known : request.request.upperProtocol ≠ .unknown)
    (payload : Option ChunkPacket) : Succeeds platform (Router.request platform env request payload) :=
  (fit_requests present).request fun _ _ => known

/-- **A callback returns**, and the router is fit again. -/
theorem succeeds_invoke (callback : RouterCallback) (deadline : ℤ) :
    Succeeds platform (invoke platform env callback deadline) :=
  (fit_requests present).invoke callback deadline

/-- **A flush of the packets that wait for a neighbour returns.** -/
theorem succeeds_flushBroadcastForwardingBuffer :
    Succeeds platform (flushBroadcastForwardingBuffer platform env) :=
  (fit_transmits present _).flushBroadcast

end Requested

end Vanet.Geonet
