/-
**What an indication keeps.**

The stages in front of the extended header's processing do four things: they parse, which does not
touch the router, they tell the hook of a dropped packet, they drop expired location table entries,
and they flush the broadcast forwarding buffer. `leads_indicate`: where processing a parsed packet
leads from what all of these keep, an indication leads. A parsed packet has the basic header that the
received one begins with. `Allows.indicate`: a relation between routers that allows what the
processing does to location table, buffers and memory holds across an indication.
-/

import Vanet.Geonet.Effects
import Vanet.Geonet.RouterIndication

namespace Vanet.Geonet

open Vanet.Library Vanet.Security Router
open Vanet.Net hiding ByteBuffer

/-- The basic header of a packet, if it can be parsed. -/
def UpPacket.basicHeader (packet : UpPacket) : Option BasicHeader :=
  match (do
      let ctx ← BasicContext.ofPacket packet
      ctx.parseBasic : Except RouterFault (Option BasicHeader × BasicContext)) with
  | .ok (basic, _) => basic
  | .error _ => none

/-! ### Learning -/

/-- Nothing but the location table and the router's own position vector changes. -/
def Learns (before after : Router) : Prop :=
  ∃ table lpv, after = { before with locationTable := table, localPositionVector := lpv }

instance learnsPreorder : IsPreorder Router Learns where
  refl router := ⟨router.locationTable, router.localPositionVector, rfl⟩
  trans := by
    rintro before _ _ ⟨_, _, rfl⟩ ⟨table, lpv, rfl⟩
    exact ⟨table, lpv, rfl⟩

section Learning

variable {platform : Platform} {env : Environment}

theorem learns_detectDuplicateAddress (source : Address) (sender : MacAddress) :
    Action.Moves Learns (detectDuplicateAddress platform env source sender) := by
  refine .update fun router => ?_
  dsimp only
  split_ifs
  · exact ⟨_, _, rfl⟩
  · exact refl_of Learns router

theorem learns_updateSource (lpv : LongPositionVector)
    (change : LocationTableEntry → LocationTableEntry) :
    Action.Moves Learns (updateSource lpv change) :=
  .update fun _ => ⟨_, _, rfl⟩

theorem learns_detectDuplicatePacket (source : Address) (sn : SequenceNumber) :
    Action.Moves Learns (detectDuplicatePacket platform source sn) :=
  .update fun _ => ⟨_, _, rfl⟩

theorem learns_processExtendedShb (shb : ShbHeader) (packet : UpPacket) (ll : LinkLayer) :
    Action.Moves Learns (processExtendedShb platform env shb packet ll) :=
  .bind (learns_detectDuplicateAddress _ _) fun _ => .bind (moves_read _) fun _ =>
    .bind (learns_updateSource _ _) fun _ => .pure _

theorem learns_processExtendedBeacon (beacon : BeaconHeader) (packet : UpPacket) (ll : LinkLayer) :
    Action.Moves Learns (processExtendedBeacon platform env beacon packet ll) :=
  .bind (learns_detectDuplicateAddress _ _) fun _ => .bind (moves_read _) fun _ =>
    .bind (learns_updateSource _ _) fun _ => .pure _

theorem learns_detectMultiHopDuplicateAddress (source : Address) (sender : MacAddress) :
    Action.Moves Learns (detectMultiHopDuplicateAddress platform env source sender) :=
  .ite (fun _ => learns_detectDuplicateAddress _ _) fun _ => .pure ()

theorem learns_updateGbcSource (gbc : GeoBroadcastHeader) (packet : UpPacket) (locteExists : Bool) :
    Action.Moves Learns (updateGbcSource platform gbc packet locteExists) :=
  .bind (moves_read _) fun _ => learns_updateSource _ _

end Learning

/-! ### Parsing and dropping -/

section Stages

variable {platform : Platform} {env : Environment} {reception : ℕ} {P Q I : Router → Prop}
  {basic : BasicHeader} {ll : LinkLayer}

/-- What a parser returns is handled by actions that lead on. -/
theorem leads_lift {α β : Type} {outcome : Except RouterFault α} {next : α → Act β}
    (weaken : ∀ router, P router → Q router)
    (rest : ∀ value, outcome = .ok value → Action.Leads P Q (next value)) :
    Action.Leads P Q (Action.lift outcome >>= next) := by
  cases outcome with
  | ok value => exact rest value rfl
  | error fault => exact fun router holds => weaken router holds

variable (platform env reception P Q basic ll) in
/-- Processing any parsed packet with this basic header leads on. -/
def VisitsLead : Prop :=
  ∀ (pdu : VariantPdu) packet indication, pdu.basic = basic →
    Action.Leads P Q (visitParsed platform env reception pdu packet ll indication)

variable (platform env P Q) in
/-- **What the stages in front of a visit do**: dropping a packet and expired entries, and flushing,
keep the first predicate, which is stronger than the second one. -/
structure Passes : Prop where
  weaken : ∀ router, P router → Q router
  drops : ∀ reason, Action.Keeps P (packetDropped reason)
  expires : Action.Keeps P dropExpired
  flushes : Action.Keeps P (flushBroadcastForwardingBuffer platform env)

theorem Passes.dropped (passes : Passes platform env P Q) (reason : PacketDropReason) :
    Action.Leads P Q (packetDropped reason) :=
  (passes.drops reason).weaken (fun _ => passes.weaken) passes.weaken

theorem leads_indicateExtended (passes : Passes platform env P Q)
    (visits : VisitsLead platform env reception P Q basic ll) (ctx : IndicationContext)
    (common : CommonHeader) (secured : Option SecuredMessage) (indication : DataIndication) :
    Action.Leads P Q
      (indicateExtended platform env reception ctx basic common secured ll indication) := by
  refine leads_lift passes.weaken fun parsed _ => leads_lift passes.weaken fun packet _ => ?_
  cases parsed.1 with
  | none => exact passes.dropped _
  | some extended => exact .ite (fun _ => passes.dropped _) fun _ => visits _ _ _ rfl

theorem leads_indicateCommon (passes : Passes platform env P Q)
    (visits : VisitsLead platform env reception P Q basic ll) (ctx : IndicationContext)
    (secured : Option SecuredMessage) (indication : DataIndication) :
    Action.Leads P Q (indicateCommon platform env reception ctx basic secured ll indication) := by
  refine leads_lift passes.weaken ?_
  rintro ⟨common, after⟩ _
  cases common with
  | none => exact passes.dropped _
  | some common =>
    refine .ite (fun _ => passes.dropped _) fun _ => ?_
    have expires : Action.Ensures P dropExpired (fun _ => P) Q :=
      passes.expires.weaken (fun _ _ holds => holds) passes.weaken
    have flushes : Action.Ensures P (flushBroadcastForwardingBuffer platform env) (fun _ => P) Q :=
      passes.flushes.weaken (fun _ _ holds => holds) passes.weaken
    exact .bind expires fun _ => .bind flushes fun _ => leads_indicateExtended passes visits _ _ _ _

theorem leads_indicateSecured (passes : Passes platform env P Q)
    (handles : ∀ ctx secured indication,
      Action.Leads P Q (indicateCommon platform env reception ctx basic secured ll indication))
    (ctx : BasicContext) (indication : DataIndication) :
    Action.Leads P Q (indicateSecured platform env reception ctx basic ll indication) := by
  refine leads_lift passes.weaken ?_
  rintro ⟨secured, after⟩ _
  cases secured with
  | none => exact passes.dropped _
  | some message =>
    dsimp only
    cases env.securityEntity with
    | none => exact passes.dropped _
    | some entity =>
      have visits : ∀ plaintext other, Action.Leads P Q
          (visitPlaintext platform env reception after basic message plaintext ll other) :=
        fun _ _ => leads_lift passes.weaken fun _ _ => handles _ _ _
      refine .ite (fun _ => visits _ _) fun _ => .ite (fun _ => ?_) fun _ => passes.dropped _
      exact .ite (fun _ => visits _ _) fun _ => passes.dropped _

/-- **The rule of an indication.** -/
theorem leads_indicate {packet : UpPacket} (passes : Passes platform env P Q)
    (visits : ∀ basic, packet.basicHeader = some basic →
      VisitsLead platform env reception P Q basic ll) :
    Action.Leads P Q (indicate platform env reception packet ll) := by
  refine leads_lift passes.weaken fun ctx constructed => leads_lift passes.weaken ?_
  rintro ⟨basic, after⟩ parsed
  cases basic with
  | none => exact passes.dropped _
  | some basic =>
    have header : packet.basicHeader = some basic := by
      unfold UpPacket.basicHeader
      rw [constructed]
      simp only [bind, Except.bind, parsed]
    have handles : ∀ ctx secured indication,
        Action.Leads P Q (indicateCommon platform env reception ctx basic secured ll indication) :=
      leads_indicateCommon passes (visits basic header)
    refine .ite (fun _ => passes.dropped _) fun _ => .ite (fun _ => ?_) fun _ => ?_
    · exact leads_indicateSecured passes handles _ _
    · refine .ite (fun _ => .ite (fun _ => ?_) fun _ => passes.dropped _) fun _ => ?_
      · exact handles _ _ _
      · exact .pure fun router holds => passes.weaken router holds

/-- The rule for an invariant. -/
theorem keeps_indicate {packet : UpPacket} (drops : ∀ reason, Action.Keeps I (packetDropped reason))
    (expires : Action.Keeps I dropExpired)
    (flushes : Action.Keeps I (flushBroadcastForwardingBuffer platform env))
    (visits : ∀ basic, packet.basicHeader = some basic →
      VisitsLead platform env reception I I basic ll) :
    Action.Keeps I (indicate platform env reception packet ll) :=
  leads_indicate ⟨fun _ holds => holds, drops, expires, flushes⟩ visits

end Stages

/-! ### Relations -/

section Relations

variable {platform : Platform} {env : Environment} {reception : ℕ} {R : Router → Router → Prop}

variable (platform env R) in
/-- **A relation that allows what an indication does.** -/
structure Allows : Prop where
  learns : ∀ before after, Learns before after → R before after
  emits : ∀ router event, R router (router.emit event)
  remembers : ∀ router memory, R router { router with gbcMemory := memory }
  buffers : ∀ router broadcast unicast,
    R router { router with bcForwardBuffer := broadcast, ucForwardBuffer := unicast }
  processes : ∀ data, Action.Moves R (processData platform env data)

theorem Allows.moves_emit (allows : Allows platform env R) (event : Event) :
    Action.Moves R (Act.emit event) :=
  .update fun router => allows.emits router event

theorem Allows.moves_learns (allows : Allows platform env R) {α : Type} {act : Act α}
    (learns : Action.Moves Learns act) : Action.Moves R act :=
  learns.mono allows.learns

variable [IsPreorder Router R]

theorem Allows.flushesBroadcast (allows : Allows platform env R) :
    Action.Moves R (flushBroadcastForwardingBuffer platform env) :=
  .bind (.update fun router => allows.buffers router _ router.ucForwardBuffer) fun _ =>
    moves_processAll fun data _ => allows.processes data

theorem Allows.flushesUnicast (allows : Allows platform env R) :
    Action.Moves R (flushUnicastForwardingBuffer platform env) :=
  .bind (.update fun router => allows.buffers router router.bcForwardBuffer _) fun _ =>
    moves_processAll fun data _ => allows.processes data

theorem Allows.processAccepted (allows : Allows platform env R) (pdu : GbcPdu) (packet : UpPacket)
    (ll : LinkLayer) (known : Bool) :
    Action.Moves R (Router.processAccepted platform env reception pdu packet ll known) := by
  refine .bind (allows.moves_learns (learns_detectMultiHopDuplicateAddress _ _)) fun _ =>
    .bind (allows.moves_learns (learns_updateGbcSource _ _ _)) fun _ =>
      .bind allows.flushesUnicast fun _ => .bind (moves_read _) fun router => ?_
  split
  · exact allows.moves_emit _
  · refine .bind (moves_read _) fun _ => .ite (fun _ => ?_) fun _ => ?_
    · exact .update fun router => allows.buffers router _ router.ucForwardBuffer
    · exact allows.processes (.gbc _)

theorem Allows.decidePassUp (allows : Allows platform env R) (within : Bool)
    (gbc : GeoBroadcastHeader) : Action.Moves R (Router.decidePassUp platform within gbc) := by
  refine .ite (fun _ => .pure _) fun _ => .ite (fun _ => ?_) fun _ => .pure _
  exact .update fun router => allows.remembers router _

theorem Allows.processExtendedGbc (allows : Allows platform env R) (pdu : GbcPdu)
    (packet : UpPacket) (ll : LinkLayer) :
    Action.Moves R (Router.processExtendedGbc platform env reception pdu packet ll) := by
  have judges : ∀ known within duplicate, Action.Moves R (if duplicate = true then pure false
      else do
        Act.emit (.accepted reception pdu.extended)
        Router.processAccepted platform env reception pdu packet ll known
        Router.decidePassUp platform within pdu.extended) := fun _ _ _ =>
    .ite (fun _ => .pure _) fun _ => .bind (allows.moves_emit _) fun _ =>
      .bind (allows.processAccepted _ _ _ _) fun _ => allows.decidePassUp _ _
  refine .bind (moves_destinationArea _ _) fun _ => .bind (moves_read _) fun _ =>
    .bind (allows.moves_emit _) fun _ => .ite (fun _ => ?_) fun _ => ?_
  · exact .bind (allows.moves_learns (learns_detectDuplicatePacket _ _)) fun _ => judges _ _ _
  · exact .bind (.pure false) fun _ => judges _ _ _

theorem Allows.visitParsed (allows : Allows platform env R) (pdu : VariantPdu) (packet : UpPacket)
    (ll : LinkLayer) (indication : DataIndication) :
    Action.Moves R (Router.visitParsed platform env reception pdu packet ll indication) := by
  have visits : Action.Moves R
      (visitExtended platform env reception pdu packet ll indication) := by
    unfold visitExtended
    split
    · exact .bind (allows.moves_learns (learns_processExtendedShb _ _ _)) fun _ => .pure _
    · exact .bind (moves_destinationArea _ _) fun _ =>
        .bind (allows.processExtendedGbc _ _ _) fun _ => .pure _
    · exact .bind (allows.moves_learns (learns_processExtendedBeacon _ _ _)) fun _ => .pure _
  refine .bind visits fun _ => .ite (fun _ => ?_) fun _ => .pure ()
  exact .bind (moves_read _) fun _ => .ite (fun _ => allows.moves_emit _) fun _ => .pure ()

/-- **The rule for a relation.** -/
theorem Allows.indicate (allows : Allows platform env R) (packet : UpPacket) (ll : LinkLayer) :
    Action.Moves R (Router.indicate platform env reception packet ll) := by
  intro router
  have keeps : ∀ {α : Type} {act : Act α}, Action.Moves R act → Action.Keeps (R router) act :=
    fun moves => moves.ensures fun _ _ moved reached => trans_of R reached moved
  have expires : Action.Moves R dropExpired := .update fun router =>
    trans_of R (allows.learns _ _ ⟨_, _, rfl⟩) (allows.emits _ _)
  exact (keeps_indicate (fun _ => keeps (allows.moves_emit _)) (keeps expires)
    (keeps allows.flushesBroadcast) fun _ _ _ _ _ _ => keeps (allows.visitParsed _ _ _ _)).after
      (refl_of R router)

end Relations

end Vanet.Geonet
