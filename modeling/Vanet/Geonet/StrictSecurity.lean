/-
**No effect without verification.**

A router that is secured and strict does nothing with a packet whose decapsulation has not been
successful, except that it tells the hook why the packet is dropped. `Drops` is derived stage by
stage, up to the stages that only a verified packet reaches.
-/

import Vanet.Geonet.Station

namespace Vanet.Geonet

open Vanet.Library Vanet.Security Act

/-! ### The message of a packet -/

/-- The secured message behind the basic header of a packet, if it can be parsed. -/
def UpPacket.securedMessage (limit : ℕ) (packet : UpPacket) : Option SecuredMessage :=
  match (do
      let ctx ← BasicContext.ofPacket packet
      let parsed ← ctx.parseBasic
      parsed.2.parseSecured limit : Except RouterFault (Option SecuredMessage × BasicContext)) with
  | .ok (message, _) => message
  | .error _ => none

/-! ### Stages that only drop -/

/-- The action at most tells the hook that the packet is dropped, however it ends. -/
def Drops {α : Type} (act : Act α) : Prop :=
  ∀ router, ∃ reasons : List PacketDropReason, reasons.length ≤ 1 ∧
    (act router).2 = { router with trace := router.trace ++ reasons.map Event.packetDropped }

theorem drops_pure {α : Type} (value : α) : Drops (pure value : Act α) := by
  intro router
  refine ⟨[], Nat.zero_le 1, ?_⟩
  rw [List.map_nil, List.append_nil]
  rfl

theorem drops_packetDropped (reason : PacketDropReason) : Drops (Router.packetDropped reason) :=
  fun _ => ⟨[reason], le_refl 1, rfl⟩

/-- A parser does not touch the router. -/
theorem drops_lift {α β : Type} {outcome : Except RouterFault α} {next : α → Act β}
    (rest : ∀ value, outcome = .ok value → Drops (next value)) :
    Drops (Action.lift outcome >>= next) := by
  cases outcome with
  | ok value => exact rest value rfl
  | error fault =>
    intro router
    refine ⟨[], Nat.zero_le 1, ?_⟩
    rw [List.map_nil, List.append_nil]
    rfl

section Stages

variable {platform : Platform} {env : Environment} {reception : ℕ} {ll : LinkLayer}

theorem drops_indicateSecured {ctx : BasicContext} {basic : BasicHeader} {indication : DataIndication}
    (strict : platform.mib.itsGnSnDecapResultHandling = .strict)
    (unverified : ∀ entity message after, env.securityEntity = some entity →
      ctx.parseSecured env.limit = .ok (some message, after) →
        (entity.decapsulate message).report ≠ .success) :
    Drops (Router.indicateSecured platform env reception ctx basic ll indication) := by
  refine drops_lift ?_
  rintro ⟨secured, after⟩ parsed
  cases secured with
  | none => exact drops_packetDropped _
  | some message =>
    dsimp only
    cases present : env.securityEntity with
    | none => exact drops_packetDropped _
    | some entity =>
      dsimp only
      rw [if_neg (unverified entity message after present parsed), if_neg (by rw [strict]; nofun)]
      exact drops_packetDropped _

theorem drops_indicateBasic {ctx : BasicContext} (secured : platform.mib.itsGnSecurity = true)
    (strict : platform.mib.itsGnSnDecapResultHandling = .strict)
    (unverified : ∀ entity basic mid message after, env.securityEntity = some entity →
      ctx.parseBasic = .ok (basic, mid) → mid.parseSecured env.limit = .ok (some message, after) →
        (entity.decapsulate message).report ≠ .success) :
    Drops (Router.indicateBasic platform env reception ctx ll) := by
  refine drops_lift ?_
  rintro ⟨basic, mid⟩ parsed
  cases basic with
  | none => exact drops_packetDropped _
  | some basic =>
    dsimp only
    split_ifs with version securedNext commonNext handled
    · exact drops_packetDropped _
    · exact drops_indicateSecured strict fun entity message after present =>
        unverified entity _ mid message after present parsed
    · rw [secured, strict] at handled
      cases handled with
      | inl impossible => cases impossible
      | inr impossible => cases impossible
    · exact drops_packetDropped _
    · exact drops_pure ()

end Stages

/-- **No effect without verification.** If a router is secured and handles decapsulation results
strictly, then a packet that it has no entity for, that carries no secured message, or whose message
the entity does not report as a success leaves everything as it is, apart from the hook. -/
theorem indicate_unverified (platform : Platform) (env : Environment) (reception : ℕ)
    (packet : UpPacket) (ll : LinkLayer) (router : Router)
    (secured : platform.mib.itsGnSecurity = true)
    (strict : platform.mib.itsGnSnDecapResultHandling = .strict)
    (unverified : ∀ entity message, env.securityEntity = some entity →
      packet.securedMessage env.limit = some message →
        (entity.decapsulate message).report ≠ .success) :
    ∃ reasons : List PacketDropReason, reasons.length ≤ 1 ∧
      (Router.indicate platform env reception packet ll router).2 =
        { router with trace := router.trace ++ reasons.map Event.packetDropped } := by
  refine drops_lift (fun ctx constructed => ?_) router
  refine drops_indicateBasic secured strict ?_
  intro entity basic mid message after present parsedBasic parsedSecured
  refine unverified entity message present ?_
  unfold UpPacket.securedMessage
  rw [constructed]
  simp only [bind, Except.bind, parsedBasic, parsedSecured]

/-- An entity that finds every signature false. -/
def distrustful : Environment :=
  { insecure with
    securityEntity := some
      { decapsulate := fun _ => ⟨.cohesive ⟨fun _ => []⟩, .falseSignature, 0, []⟩
        encapsulate := fun _ _ => ⟨[], ⟨1, []⟩, []⟩ } }

/-- A secured packet whose signature is found false. -/
theorem indicate_unverified_falseSignature :
    ∃ reasons : List PacketDropReason, reasons.length ≤ 1 ∧
      (Router.indicate ⟨{ Mib.initial with itsGnSecurity := true }, flatland⟩ distrustful 0
        (.chunk ⟨.pdu ⟨⟨1, .secured, 0, ⟨0⟩, 1⟩, ⟨.any, 0, .beacon, ⟨0⟩, 0, 0, 1, 0⟩,
          .beacon ⟨.zero⟩, some ⟨[], ⟨1, []⟩, []⟩⟩, .empty⟩)
        ⟨cBroadcastMacAddress, cBroadcastMacAddress⟩ (.create .initial 0 0)).2 =
        { Router.create .initial 0 0 with
          trace := (Router.create .initial 0 0).trace ++ reasons.map Event.packetDropped } :=
  indicate_unverified _ _ _ _ _ _ rfl rfl fun entity _ present _ => by
    cases present
    exact fun impossible => nomatch impossible

end Vanet.Geonet
