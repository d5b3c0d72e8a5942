/-
**Stations that do not fail.**

An exception in a callback leaves the runtime, and the station is lost.

* `keepsFit_indicate`: an indication leaves the router fit, whatever has been received, with or without an
  exception. The only condition is on the PDUs of a simulation: they must not carry a secured message
  without their basic header saying so (`Coherent`).
* `Network.no_callback_fails`: in every run with a security entity where security is on, and with requests
  of known upper protocols, no callback of any station fails.
-/

import Vanet.Geonet.Endurance
import Vanet.Geonet.Network

namespace Vanet.Geonet

open Vanet.Common Vanet.Library Vanet.Security
open Vanet.Net hiding ByteBuffer
open Act Router

/-! ### Indications -/

/-- The PDU's basic header tells of its secured message. -/
def CoherentPdu (nextHeader : NextHeaderBasic) (secured : Option SecuredMessage) : Prop :=
  nextHeader = .secured ↔ secured.isSome = true

/-- **What may be received**: any bytes, and a PDU if it has no secured message where its basic header
announces none. -/
def Coherent : UpPacket → Prop
  | .cohesive _ => True
  | .chunk packet =>
    match packet.network with
    | .pdu casted => casted.basic.nextHeader = .common → casted.secured = none
    | _ => True

section Indicated

variable {platform : Platform} {env : Environment} {reception : ℕ} {ll : LinkLayer}

/-- The action leaves the router fit, however it ends. -/
abbrev KeepsFit (platform : Platform) {α : Type} (act : Act α) : Prop := Action.Keeps (Fit platform) act

theorem keepsFit_emit {event : Event} (silent : ∀ origin request pdu payload,
    event ≠ .passedDown origin request pdu payload) : KeepsFit platform (Act.emit event) :=
  .update fun _ fit => fit.emit (Event.sent_of_silent silent)

/-- What is forwarded of a received packet. -/
theorem fit_forwardingDuplicate {pdu : GbcPdu}
    (directed : (pdu.extended.destination pdu.common.headerType).isSome = true)
    (coherent : CoherentPdu pdu.basic.nextHeader pdu.secured) (packet : UpPacket) :
    (fitStock platform).WaitsGbc GbcAction.transmit (forwardingDuplicate reception pdu packet ll) := by
  refine ⟨?_, ?_⟩
  · rintro gbc same
    cases same
    exact directed
  show Sendable pdu.toVariant (forwardingDuplicate reception pdu packet ll).payload
  unfold Sendable forwardingDuplicate
  unfold CoherentPdu at coherent
  dsimp only [ExtendedPdu.toVariant]
  cases secured : pdu.secured with
  | some message =>
    rw [secured] at coherent
    exact ⟨coherent.mpr rfl, rfl⟩
  | none =>
    rw [secured] at coherent
    intro flagged
    cases coherent.mp flagged

variable (present : ¬ SecurityMissing platform env)

include present

theorem fit_receives : Receives platform env reception (Fit platform)
    fun pdu => CoherentPdu pdu.basic.nextHeader pdu.secured :=
  (fit_transmits present _).receives (fun _ _ _ repeatable => repeatable)
    fun _ packet _ coherent directed => fit_forwardingDuplicate directed coherent packet

theorem keepsFit_indicateCommon {basic : BasicHeader} {secured : Option SecuredMessage}
    (coherent : CoherentPdu basic.nextHeader secured) (ctx : IndicationContext)
    (indication : DataIndication) :
    KeepsFit platform (indicateCommon platform env reception ctx basic secured ll indication) := by
  have drops : ∀ reason, KeepsFit platform (packetDropped reason) :=
    fun _ => keepsFit_emit fun _ _ _ _ => Event.noConfusion
  refine leads_lift (fun _ fit => fit) ?_
  rintro ⟨common, after⟩ _
  cases common with
  | none => exact drops _
  | some common =>
    refine .ite (fun _ => drops _) fun _ => ?_
    have expires : KeepsFit platform dropExpired := .update fun router fit =>
      Stocked.emit (fit.learns ⟨_, router.localPositionVector, rfl⟩)
        (Event.sent_of_silent fun _ _ _ _ => Event.noConfusion)
    refine .bind expires fun _ =>
      .bind (fit_transmits present _).flushBroadcast fun _ => ?_
    refine leads_lift (fun _ fit => fit) fun parsed _ => leads_lift (fun _ fit => fit) fun packet _ => ?_
    cases parsed.1 with
    | none => exact drops _
    | some extended =>
      exact .ite (fun _ => drops _) fun _ =>
        (fit_receives present).visitParsed (fun _ _ _ => keepsFit_emit fun _ _ _ _ => Event.noConfusion)
          ⟨basic, common, extended, secured⟩ coherent _

theorem keepsFit_indicateSecured {basic : BasicHeader} (flagged : basic.nextHeader = .secured)
    (ctx : BasicContext) (indication : DataIndication) :
    KeepsFit platform (indicateSecured platform env reception ctx basic ll indication) := by
  have drops : ∀ reason, KeepsFit platform (packetDropped reason) :=
    fun _ => keepsFit_emit fun _ _ _ _ => Event.noConfusion
  refine leads_lift (fun _ fit => fit) ?_
  rintro ⟨secured, after⟩ _
  cases secured with
  | none => exact drops _
  | some message =>
    dsimp only
    cases env.securityEntity with
    | none => exact drops _
    | some entity =>
      have visits : ∀ plaintext other, KeepsFit platform
          (visitPlaintext platform env reception after basic message plaintext ll other) :=
        fun _ _ => leads_lift (fun _ fit => fit) fun ctx _ =>
          keepsFit_indicateCommon present ⟨fun _ => rfl, fun _ => flagged⟩ ctx _
      refine .ite (fun _ => visits _ _) fun _ => .ite (fun _ => ?_) fun _ => drops _
      exact .ite (fun _ => visits _ _) fun _ => drops _

/-- **An indication** leaves the router fit, with whichever ending. -/
theorem keepsFit_indicate {packet : UpPacket} (coherent : Coherent packet) :
    KeepsFit platform (indicate platform env reception packet ll) := by
  have drops : ∀ reason, KeepsFit platform (packetDropped reason) :=
    fun _ => keepsFit_emit fun _ _ _ _ => Event.noConfusion
  refine leads_lift (fun _ fit => fit) fun ctx constructed => leads_lift (fun _ fit => fit) ?_
  rintro ⟨basic, after⟩ parsed
  cases basic with
  | none => exact drops _
  | some basic =>
    have unsecured : basic.nextHeader = .common → after.secured = none := by
      cases packet with
      | cohesive packet =>
        cases constructed
        unfold BasicContext.parseBasic at parsed
        dsimp only at parsed
        cases header : (Parser.start (packet.layer .network)).parseBasic with
        | error fault =>
          rw [header] at parsed
          cases parsed
        | ok read =>
          obtain ⟨first, rest⟩ := read
          rw [header] at parsed
          cases parsed
          exact fun _ => rfl
      | chunk packet =>
        unfold BasicContext.ofPacket at constructed
        unfold Coherent at coherent
        dsimp only at constructed coherent
        split at constructed
        · next casted network =>
          rw [network] at coherent
          cases constructed
          cases parsed
          exact coherent
        · cases constructed
    refine .ite (fun _ => drops _) fun _ => .ite (fun flagged => ?_) fun _ => ?_
    · exact keepsFit_indicateSecured present flagged after _
    · refine .ite (fun plain => .ite (fun _ => ?_) fun _ => drops _) fun _ => holding_pure _
      refine keepsFit_indicateCommon present ?_ _ _
      rw [unsecured plain, plain]
      exact ⟨fun flagged => absurd flagged (by decide), fun impossible => nomatch impossible⟩

end Indicated

/-! ### Runs -/

instance securityMissing_decidable (platform : Platform) (env : Environment) :
    Decidable (SecurityMissing platform env) :=
  inferInstanceAs (Decidable (platform.mib.itsGnSecurity = true ∧ env.securityEntity = none))

namespace Station

/-- A request of a known upper protocol, or a packet that can be received. -/
def Action.Sound : Action → Prop
  | .indicate packet _ => Coherent packet
  | .request wanted _ => wanted.request.upperProtocol ≠ .unknown
  | _ => True

instance Action.sound_decidable : (action : Action) → Decidable action.Sound
  | .indicate (.cohesive _) _ => .isTrue trivial
  | .indicate (.chunk ⟨.pdu casted, _⟩) _ =>
    inferInstanceAs (Decidable (casted.basic.nextHeader = .common → casted.secured = none))
  | .indicate (.chunk ⟨.bytes _, _⟩) _ => .isTrue trivial
  | .indicate (.chunk ⟨.securedPdu _ _, _⟩) _ => .isTrue trivial
  | .request wanted _ => inferInstanceAs (Decidable (wanted.request.upperProtocol ≠ .unknown))
  | .updatePosition _ => .isTrue trivial
  | .setAddress _ => .isTrue trivial
  | .setTransportHandler _ _ => .isTrue trivial
  | .advance _ => .isTrue trivial
  | .fire => .isTrue trivial

/-- **What a step is made with**: a security entity if security is on, too. -/
abbrev Sound (platform : Platform) (input : Environment × Action) : Prop :=
  ¬ SecurityMissing platform input.1 ∧ input.2.Sound

/-- The station has not failed, and its next callback will not fail. -/
structure Endures (platform : Platform) (station : Station) : Prop where
  fit : Fit platform station.router
  alive : station.failed = false

variable {platform : Platform}

theorem endures_initial {station : Station} (initial : Initial platform station) :
    station.Endures platform := by
  obtain ⟨now, firstBeacon, rfl⟩ := initial
  exact ⟨stocked_create (List.forall_mem_nil _), rfl⟩

/-- **A step.** -/
theorem endures_step {station after : Station} {input : Environment × Action}
    (endures : station.Endures platform) (sound : Sound platform input)
    (taken : step platform station input = some after) : after.Endures platform := by
  obtain ⟨env, action⟩ := input
  obtain ⟨present, sound⟩ := sound
  obtain ⟨fit, alive⟩ := endures
  unfold step at taken
  rw [if_neg (by rw [alive]; decide)] at taken
  cases action with
  | indicate packet ll =>
    cases taken
    exact ⟨(keepsFit_indicate present sound).after fit, rfl⟩
  | request request payload =>
    cases taken
    exact ⟨(Succeeds.holding (succeeds_request present sound payload)).after fit, alive⟩
  | updatePosition position =>
    cases taken
    exact ⟨fit.aside rfl rfl rfl rfl fit.beside, alive⟩
  | setAddress addr =>
    cases taken
    exact ⟨fit.aside rfl rfl rfl rfl fit.beside, alive⟩
  | setTransportHandler proto handled =>
    cases taken
    exact ⟨fit.aside rfl rfl rfl rfl fit.beside, alive⟩
  | advance d =>
    dsimp only at taken
    split_ifs at taken
    cases taken
    exact ⟨fit.aside rfl rfl rfl rfl fit.beside, alive⟩
  | fire =>
    obtain ⟨⟨due, runtime⟩, _, rfl⟩ := Option.map_eq_some_iff.mp taken
    have waiting : Fit platform { station.router with runtime := runtime } :=
      fit.aside rfl rfl rfl rfl fit.beside
    obtain ⟨_, after, ran, fitAfter⟩ :=
      Succeeds.ok (succeeds_invoke present due.callback due.deadline) waiting
    dsimp only
    rw [ran]
    exact ⟨fitAfter, rfl⟩

/-- **A run** of sound steps. -/
theorem endures {station : Station}
    (reached : GuardedReach (Initial platform) (step platform) (fun _ => Sound platform) station) :
    station.Endures platform :=
  GuardedReach.invariant (fun _ initial => endures_initial initial)
    (fun _ _ _ _ endures sound taken => endures_step endures sound taken) station reached

end Station

/-- **What a router hands over** can be received, whichever way it travels. -/
theorem Router.Sendable.coherent {pdu : VariantPdu} {payload : ChunkPacket} (sendable : Sendable pdu payload)
    (medium : Medium) : Coherent (medium.packet pdu payload) := by
  cases medium with
  | bytes lower => exact trivial
  | simulated =>
    intro plain
    unfold Sendable at sendable
    cases secured : pdu.secured with
    | none => rfl
    | some message =>
      rw [secured] at sendable
      exact absurd (sendable.1.symm.trans plain) (by decide)

namespace Network

variable {ι : Type} (platforms : ι → Platform)

/-- A step of a network is made with the same. What arrives from another station needs nothing. -/
def Sound (_ : Network ι) (input : Environment × Action ι) : Prop :=
  match input.2 with
  | .act station action => Station.Sound (platforms station) (input.1, action)
  | .deliver _ _ receiver _ _ => ¬ SecurityMissing (platforms receiver) input.1

instance sound_decidable (net : Network ι) : (input : Environment × Action ι) →
    Decidable (Sound platforms net input)
  | (env, .act station action) =>
    inferInstanceAs (Decidable (Station.Sound (platforms station) (env, action)))
  | (env, .deliver _ _ receiver _ _) =>
    inferInstanceAs (Decidable (¬ SecurityMissing (platforms receiver) env))

/-- **No callback ever fails.** In every run of a network whose steps are sound, no station fails; so
whatever is due, and whichever callback it is, returns, and so does a flush of the packets that wait for
a neighbour. -/
theorem no_callback_fails [DecidableEq ι] (net : Network ι)
    (reached : GuardedReach (Initial platforms) (step platforms) (Sound platforms) net)
    (station : ι) :
    (net station).failed = false ∧
      ∀ env, ¬ SecurityMissing (platforms station) env →
        (∀ callback deadline, Action.Completes (invoke (platforms station) env callback deadline)
          (net station).router) ∧
        Action.Completes (flushBroadcastForwardingBuffer (platforms station) env)
          (net station).router := by
  have endures : ∀ station, (net station).Endures (platforms station) := by
    refine GuardedReach.invariant (I := fun net => ∀ station, (net station).Endures (platforms station))
      ?_ ?_ net reached
    · exact fun first initial station => Station.endures_initial (initial station)
    · intro before input after _ endures sound taken
      have moved : ∀ station action, Station.Sound (platforms station) (input.1, action) →
          before.move platforms station (input.1, action) = some after →
            ∀ other, (after other).Endures (platforms other) := by
        intro station action sound move other
        obtain ⟨next, stepped, rfl⟩ := Option.map_eq_some_iff.mp move
        by_cases same : other = station
        · subst same
          rw [Function.update_self]
          exact Station.endures_step (endures other) sound stepped
        · rw [Function.update_of_ne same]
          exact endures other
      obtain ⟨env, action⟩ := input
      cases action with
      | act station action => exact moved station action sound taken
      | deliver sender index receiver medium ll =>
        unfold step at taken
        dsimp only at taken
        split at taken
        · next origin request pdu payload sent =>
          have handed : .passedDown origin request pdu payload ∈ (before sender).router.trace :=
            List.mem_of_getElem? sent
          have sendable : Sendable pdu payload := (endures sender).fit.told _ handed _ _ _ _ rfl
          exact moved receiver (.indicate (medium.packet pdu payload) ll)
            ⟨sound, sendable.coherent medium⟩ taken
        · cases taken
  refine ⟨(endures station).alive, fun env present => ⟨fun callback deadline => ?_, ?_⟩⟩
  · obtain ⟨_, after, ran, _⟩ :=
      Succeeds.ok (succeeds_invoke present callback deadline) (endures station).fit
    exact ⟨_, after, ran⟩
  · obtain ⟨_, after, ran, _⟩ :=
      Succeeds.ok (succeeds_flushBroadcastForwardingBuffer present) (endures station).fit
    exact ⟨_, after, ran⟩

/-- A GeoBroadcast packet that is repeated once, and heard and forwarded by the other station. -/
theorem no_callback_fails_repeating : ∃ net : Network Bool,
    GuardedReach (Initial fun _ => relay) (step fun _ => relay) (Sound fun _ => relay) net ∧
      ((net true).router.trace.any Event.isForwarding = true ∧ (net false).router.trace.length = 2) ∧
      ∀ callback deadline, Action.Completes (invoke relay insecure callback deadline)
        (net false).router := by
  obtain ⟨net, reached, happened⟩ := run_reach (Initial fun _ => relay) (step fun _ => relay)
    (Sound fun _ => relay)
    (fun net => (net true).router.trace.any Event.isForwarding = true ∧ (net false).router.trace.length = 2)
    (fun _ => ⟨0, 0, rfl⟩ : Initial _ fun _ => ⟨.create relay.mib 0 0, [], false⟩)
    [(insecure, .act false (.request
        (.gbc ⟨.btpB, .itsG5, 36, .set .tenSeconds 1, some ⟨500000, 900000⟩, 5, ⟨0⟩⟩
          ⟨.circle 100, ⟨0, 0⟩, 0⟩) (some .empty))),
      (insecure, .deliver false 0 true (.bytes fun _ => [])
        ⟨cBroadcastMacAddress, cBroadcastMacAddress⟩),
      (insecure, .act false (.advance 600000)), (insecure, .act false .fire)] (by decide +kernel)
  exact ⟨net, reached, happened,
    ((no_callback_fails (fun _ => relay) net reached false).2 insecure (by decide)).1⟩

end Network

end Vanet.Geonet
