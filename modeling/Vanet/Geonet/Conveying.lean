/-
**The rules of forwarding and of receiving.**

A GeoBroadcast packet goes through the forwarding algorithms in few ways: it is buffered, it contends, its
contention is renewed or given up, or it has a next hop and is transmitted. `Conveys` says what an
invariant of the router, with a property of the packets on their way, needs of each of them.

* `Conveys.selection`: an algorithm returns a next hop whose packet has the property again.
* `Conveys.processGbc`: processing a packet keeps the invariant, whichever algorithm it goes through.
* `Receives.visitParsed`: so does a received packet, with what its headers are known to be like.
-/

import Vanet.Geonet.Stages

namespace Vanet.Geonet

open Vanet.Common Vanet.Library
open Vanet.Net hiding ByteBuffer
open Act Router

/-- The packet of a next hop, if there is one. -/
def NextHop.Has (A : PendingPacketForwarding → Prop) : NextHop → Prop
  | .valid packet _ => A packet
  | _ => True

section Rules

variable {platform : Platform} {env : Environment} {I E : Router → Prop}
  {A : PendingPacketForwarding → Prop} {packet : PendingPacketForwarding}

/-- The action returns and keeps the invariant, or fails with the other predicate. -/
abbrev Holding (I E : Router → Prop) {α : Type} (act : Act α) : Prop :=
  Action.Ensures I act (fun _ => I) E

/-- ... and returns a next hop whose packet has the property. -/
abbrev Routing (I E : Router → Prop) (A : PendingPacketForwarding → Prop) (act : Act NextHop) : Prop :=
  Action.Ensures I act (fun hop router => I router ∧ hop.Has A) E

variable (platform env I E A) in
/-- **What conveying a packet needs.** -/
structure Conveys : Prop where
  silent : ∀ packet, A packet → A (packet.withAction .noop)
  duplicate : ∀ packet, A packet → A packet.duplicate
  locates : ∀ packet, A packet →
    Holding I E (destinationArea packet.pdu.extended packet.pdu.common.headerType)
  stops : Holding I E (Act.emit (.forwardingStopped .outsideDestinationArea))
  buffers : ∀ packet, A packet →
    Holding I E (pushBroadcast (.gbc (packet.withAction (.greedy packet.action))))
  adds : ∀ packet, A packet → ∀ sender timeout, Holding I E (cbfAdd env packet sender timeout)
  removes : ∀ id, Holding I E (cbfRemove id)
  updates : ∀ id timeout, Holding I E (cbfUpdate id timeout)
  transmits : ∀ packet, A packet → ∀ mac, Holding I E (processForwarding platform env packet mac)

theorem holding_pure {α : Type} (value : α) : Holding I E (pure value : Act α) := .pure fun _ holds => holds

theorem holding_read {α : Type} (get : Router → α) : Holding I E (read get) := .update fun _ holds => holds

theorem Routing.pure {hop : NextHop} (has : hop.Has A) : Routing I E A (pure hop) :=
  Action.Ensures.pure fun _ holds => ⟨holds, has⟩

theorem holding_executeMediaProcedures (comProfile : CommunicationProfile) :
    Holding I E (executeMediaProcedures comProfile) := by
  cases comProfile with
  | itsG5 => exact holding_pure _
  | unspecified => exact holding_pure _

theorem holding_timeoutCbfSender (sender : MacAddress) : Holding I E (timeoutCbfSender platform sender) :=
  .bind (holding_read _) fun _ => .bind (holding_read _) fun _ => holding_pure _

theorem holding_outsideSectorialContentionArea (sender forwarder : MacAddress) :
    Holding I E (outsideSectorialContentionArea platform sender forwarder) :=
  .bind (holding_read _) fun _ => .bind (holding_read _) fun _ => .bind (holding_read _) fun _ =>
    holding_pure _

/-- What is processed one after the other. -/
theorem holding_processAll {δ : Type} {process : δ → Act Unit} {list : List δ}
    (each : ∀ data ∈ list, Holding I E (process data)) : Holding I E (processAll process list) := by
  induction list with
  | nil => exact holding_pure _
  | cons data rest ih =>
    refine .bind (each data List.mem_cons_self) fun _ => ih ?_
    intro other member
    exact each other (List.mem_cons_of_mem data member)

/-- What is taken out of a buffer is processed. -/
theorem holding_flush {δ : Type} {P : δ → Prop} {take : Router → List δ × Router} {process : δ → Act Unit}
    (taken : ∀ router, I router → (∀ data ∈ (take router).1, P data) ∧ I (take router).2)
    (processes : ∀ data, P data → Holding I E (process data)) :
    Holding I E (do
      let data ← Action.update take
      processAll process data) := by
  have takes : Action.Ensures I (Action.update take : Act (List δ))
      (fun data router => I router ∧ ∀ first ∈ data, P first) E :=
    .update fun router holds => (taken router holds).symm
  refine .bind_given takes fun data held => ?_
  exact holding_processAll fun first member => processes first (held first member)

namespace Conveys

theorem processNextHop (conveys : Conveys platform env I E A) {hop : NextHop} (has : hop.Has A) :
    Holding I E (Router.processNextHop platform env hop) := by
  cases hop with
  | valid packet mac => exact conveys.transmits packet has mac
  | discarded => exact holding_pure _
  | buffered => exact holding_pure _

theorem greedy (conveys : Conveys platform env I E A) (has : A packet) :
    Routing I E A (greedyForwarding platform packet) := by
  refine .bind (holding_read _) fun router => ?_
  dsimp only
  split
  · exact Routing.pure has
  · refine .ite (fun _ => ?_) fun _ => Routing.pure has
    exact .bind (conveys.buffers packet has) fun _ => Routing.pure trivial

theorem nonAreaContention (conveys : Conveys platform env I E A) (has : A packet)
    (sender : Option MacAddress) :
    Routing I E A (nonAreaContentionBasedForwarding platform env packet sender) := by
  cases sender with
  | none => exact Routing.pure has
  | some sender =>
    refine .bind (conveys.removes _) fun removed => .ite (fun _ => Routing.pure trivial) fun _ => ?_
    refine .bind (conveys.locates packet has) fun _ => .bind (holding_read _) fun _ =>
      .bind (holding_read _) fun _ => ?_
    have waits : ∀ timeout, Routing I E A (do
        cbfAdd env packet sender timeout
        pure .buffered) :=
      fun timeout => .bind (conveys.adds packet has sender timeout) fun _ => Routing.pure trivial
    split
    · exact .ite (fun _ => waits _) fun _ => Routing.pure trivial
    · exact waits _

theorem areaContention (conveys : Conveys platform env I E A) (has : A packet)
    (sender : Option MacAddress) :
    Routing I E A (areaContentionBasedForwarding platform env packet sender) := by
  cases sender with
  | none => exact Routing.pure has
  | some sender =>
    refine .bind (conveys.removes _) fun removed => .bind (holding_read _) fun _ =>
      .ite (fun _ => Routing.pure trivial) fun _ => ?_
    exact .bind (holding_timeoutCbfSender _) fun _ =>
      .bind (conveys.adds packet has _ _) fun _ => Routing.pure trivial

theorem areaAdvanced (conveys : Conveys platform env I E A) (has : A packet) (ll : Option LinkLayer) :
    Routing I E A (areaAdvancedForwarding platform env packet ll) := by
  cases ll with
  | none => exact Routing.pure has
  | some ll =>
    have discards : ∀ id, Routing I E A (do
        let _ ← cbfRemove id
        pure .discarded) :=
      fun id => .bind (conveys.removes id) fun _ => Routing.pure trivial
    refine .bind (holding_read _) fun router => ?_
    dsimp only
    split
    · refine .ite (fun _ => discards _) fun _ => ?_
      refine .bind (holding_outsideSectorialContentionArea _ _) fun outside =>
        .ite (fun _ => discards _) fun _ => ?_
      exact .bind (holding_timeoutCbfSender _) fun _ =>
        .bind (conveys.updates _ _) fun _ => Routing.pure trivial
    · refine .ite (fun _ => ?_) fun _ => ?_
      · refine .bind_given (conveys.greedy (conveys.duplicate packet has)) fun hop hasHop => ?_
        have contends : Routing I E A (do
            cbfAdd env packet ll.sender platform.mib.itsGnCbfMaxTime
            pure hop) :=
          .bind (conveys.adds packet has _ _) fun _ => Routing.pure hasHop
        split
        · refine .ite (fun _ => ?_) fun _ => contends
          exact .bind (conveys.adds _ (conveys.silent packet has) _ _) fun _ => Routing.pure hasHop
        · exact contends
      · exact .bind (holding_timeoutCbfSender _) fun _ =>
          .bind (conveys.adds packet has _ _) fun _ => Routing.pure trivial

/-- **The algorithm that is selected.** -/
theorem selection (conveys : Conveys platform env I E A) (has : A packet) (ll : Option LinkLayer) :
    Routing I E A (forwardingAlgorithmSelection platform env packet ll) := by
  refine .bind (conveys.locates packet has) fun destination =>
    .bind (holding_read _) fun here => .ite (fun _ => ?_) fun _ => ?_
  · cases platform.mib.itsGnAreaForwardingAlgorithm with
    | unspecified => exact Routing.pure has
    | simple => exact Routing.pure has
    | cbf => exact conveys.areaContention has _
    | advanced => exact conveys.areaAdvanced has ll
  · refine .bind (holding_read _) fun pvSe => .ite (fun _ => ?_) fun _ => ?_
    · exact .bind conveys.stops fun _ => Routing.pure trivial
    · cases platform.mib.itsGnNonAreaForwardingAlgorithm with
      | unspecified => exact conveys.greedy has
      | greedy => exact conveys.greedy has
      | cbf => exact conveys.nonAreaContention has _

/-- **A packet that is processed** is transmitted, or goes on waiting. -/
theorem processGbc (conveys : Conveys platform env I E A) {packet : PendingPacketGbc}
    (has : A (packet.withAction packet.action.transmit)) :
    Holding I E (Router.processGbc platform env packet) := by
  unfold Router.processGbc
  cases action : packet.action with
  | forwarding transmit ll =>
    rw [action] at has
    exact .bind_given (conveys.selection has ll) fun hop hasHop => conveys.processNextHop hasHop
  | greedy transmit =>
    rw [action] at has
    exact .bind_given (conveys.greedy has) fun hop hasHop => conveys.processNextHop hasHop
  | bound transmit mac =>
    rw [action] at has
    exact conveys.transmits _ has mac

end Conveys

end Rules

/-! ### Receiving -/

section Received

variable {platform : Platform} {env : Environment} {reception : ℕ} {I : Router → Prop}
  {H : VariantPdu → Prop}

variable (platform env reception I H) in
/-- **What receiving a packet needs**, whose headers have a property, up to its being passed up. -/
structure Receives : Prop where
  tells : ∀ event, (∀ origin request pdu payload, event ≠ .passedDown origin request pdu payload) →
    (∀ extended indication packet, event ≠ .passedUp extended indication packet) →
      Action.Keeps I (Act.emit event)
  detectsAddress : ∀ source sender, Action.Keeps I (detectDuplicateAddress platform env source sender)
  detectsPacket : ∀ source sn, Action.Keeps I (detectDuplicatePacket platform source sn)
  hearsGbc : ∀ gbc packet known, Action.Keeps I (updateGbcSource platform gbc packet known)
  hearsShb : ∀ pdu header packet ll, H pdu → pdu.extended = .shb header →
    Action.Keeps I (processExtendedShb platform env header packet ll)
  hearsBeacon : ∀ beacon packet ll, Action.Keeps I (processExtendedBeacon platform env beacon packet ll)
  remembers : ∀ router memory, I router → I { router with gbcMemory := memory }
  flushes : Action.Keeps I (flushUnicastForwardingBuffer platform env)
  buffers : ∀ pdu packet ll, H pdu.toVariant →
    (pdu.extended.destination pdu.common.headerType).isSome = true →
      Action.Keeps I (pushBroadcast (.gbc (forwardingDuplicate reception pdu packet ll)))
  processes : ∀ pdu packet ll, H pdu.toVariant →
    (pdu.extended.destination pdu.common.headerType).isSome = true →
      Action.Keeps I (processGbc platform env (forwardingDuplicate reception pdu packet ll))

namespace Receives

theorem destinationArea (gbc : GeoBroadcastHeader) (ht : HeaderType) :
    Action.Keeps I (Router.destinationArea gbc ht) := by
  unfold Router.destinationArea
  split
  · exact holding_pure _
  · exact .fail fun _ holds => holds

variable {pdu : GbcPdu} {packet : UpPacket} {ll : LinkLayer}

theorem processAccepted (receives : Receives platform env reception I H) (headers : H pdu.toVariant)
    (directed : (pdu.extended.destination pdu.common.headerType).isSome = true) (known : Bool) :
    Action.Keeps I (Router.processAccepted platform env reception pdu packet ll known) := by
  have detects : Action.Keeps I (detectMultiHopDuplicateAddress platform env
      pdu.extended.sourcePosition.gnAddr ll.sender) :=
    .ite (fun _ => receives.detectsAddress _ _) fun _ => holding_pure _
  refine .bind detects fun _ => .bind (receives.hearsGbc _ _ _) fun _ => .bind receives.flushes fun _ =>
    .bind (holding_read _) fun router => ?_
  cases stopReason platform router pdu ll with
  | some reason => exact receives.tells _ (fun _ _ _ _ => Event.noConfusion) fun _ _ _ => Event.noConfusion
  | none =>
    exact .bind (holding_read _) fun _ => .ite (fun _ => receives.buffers _ _ _ headers directed)
      fun _ => receives.processes _ _ _ headers directed

theorem processExtendedGbc (receives : Receives platform env reception I H) (headers : H pdu.toVariant) :
    Action.Keeps I (Router.processExtendedGbc platform env reception pdu packet ll) := by
  by_cases directed : (pdu.extended.destination pdu.common.headerType).isSome = true
  · have decides : ∀ within, Action.Keeps I (decidePassUp platform within pdu.extended) := fun within =>
      .ite (fun _ => holding_pure _) fun _ => .ite
        (fun _ => .update fun router holds => receives.remembers router _ holds) fun _ => holding_pure _
    have arrives : ∀ within, Action.Keeps I (Act.emit (.received reception pdu packet within)) := fun _ =>
      receives.tells _ (fun _ _ _ _ => Event.noConfusion) fun _ _ _ => Event.noConfusion
    have accepts : Action.Keeps I (Act.emit (.accepted reception pdu.extended)) :=
      receives.tells _ (fun _ _ _ _ => Event.noConfusion) fun _ _ _ => Event.noConfusion
    have judges : ∀ known within duplicate, Action.Keeps I (if duplicate = true then pure false
        else do
          Act.emit (.accepted reception pdu.extended)
          Router.processAccepted platform env reception pdu packet ll known
          decidePassUp platform within pdu.extended) := fun known within duplicate =>
      .ite (fun _ => holding_pure _) fun _ => .bind accepts fun _ =>
        .bind (receives.processAccepted headers directed known) fun _ => decides within
    refine .bind (destinationArea _ _) fun _ => .bind (holding_read _) fun _ => .bind (arrives _) fun _ =>
      .ite (fun _ => ?_) fun _ => ?_
    · exact .bind (receives.detectsPacket _ _) fun _ => judges _ _ _
    · exact .bind (holding_pure _) fun _ => judges _ _ _
  · have fails : Action.Ensures I (Router.destinationArea pdu.extended pdu.common.headerType)
        (fun _ _ => False) I := by
      unfold Router.destinationArea
      rw [Option.not_isSome_iff_eq_none.mp directed]
      exact .fail fun _ holds => holds
    exact .bind fails fun _ _ impossible => impossible.elim

/-- **The visit of a packet's extended header.** -/
theorem visitExtended (receives : Receives platform env reception I H) (pdu : VariantPdu) (headers : H pdu)
    (indication : DataIndication) :
    Action.Keeps I (Router.visitExtended platform env reception pdu packet ll indication) := by
  unfold Router.visitExtended
  cases extended : pdu.extended with
  | shb shb => exact .bind (receives.hearsShb _ _ _ _ headers extended) fun _ => holding_pure _
  | geoBroadcast gbc =>
    have same : (⟨pdu.basic, pdu.common, gbc, pdu.secured⟩ : GbcPdu).toVariant = pdu :=
      congrArg (fun extended => ExtendedPdu.mk pdu.basic pdu.common extended pdu.secured) extended.symm
    rw [← same] at headers
    exact .bind (destinationArea _ _) fun _ =>
      .bind (receives.processExtendedGbc headers) fun _ => holding_pure _
  | beacon beacon => exact .bind (receives.hearsBeacon _ _ _) fun _ => holding_pure _

/-- **A packet that has been parsed**, and may be passed up. -/
theorem visitParsed (receives : Receives platform env reception I H)
    (passes : ∀ extended indication packet, Action.Keeps I (Act.emit (.passedUp extended indication packet)))
    (pdu : VariantPdu) (headers : H pdu) (indication : DataIndication) :
    Action.Keeps I (Router.visitParsed platform env reception pdu packet ll indication) := by
  refine .bind (receives.visitExtended pdu headers indication) fun _ =>
    .ite (fun _ => ?_) fun _ => holding_pure _
  exact .bind (holding_read _) fun _ => .ite (fun _ => passes _ _ _) fun _ => holding_pure _

end Receives

end Received

end Vanet.Geonet
