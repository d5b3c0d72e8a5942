/-
**What a router does with its contention buffer.**

A packet reaches the buffer through the contention-based and the advanced forwarding algorithms, and
leaves it through them or through its callback. `Call` are these calls, and everything else that a router
does, which leaves the buffer and the scheduled flushes alone (`Beside`). Every action of a station is a
sequence of calls (`Calls`), so what holds in every run of calls holds of every station. A callback that
throws an exception is the last call of a station.
-/

import Vanet.Geonet.Provenance
import Vanet.Geonet.Station

namespace Vanet.Geonet

open Vanet.Common Vanet.Library Vanet.Security
open Vanet.Net hiding ByteBuffer
open Act Router

/-! ### Calls -/

/-- The flushes of the contention buffer that are scheduled. -/
def Router.flushes (router : Router) : List (ScheduledCallback RouterCallback RouterScope) :=
  router.runtime.queue.filter fun item =>
    item.callback = .flushCbfBuffer ∧ item.scope = some .cbfPacketBuffer

/-- **A call that concerns the contention buffer.** A packet without a sender or a link layer is the
router's own. `flush` is the callback of the buffer, which processes the packets that are taken out; it is
invoked by the runtime, from whose queue it has been taken. `fetch` is not called by the router. -/
inductive Call
  | area (packet : PendingPacketForwarding) (sender : Option MacAddress)
  | nonArea (packet : PendingPacketForwarding) (sender : Option MacAddress)
  | advanced (packet : PendingPacketForwarding) (ll : Option LinkLayer)
  | fetch (id : PacketIdentifier)
  | flush (queue : List (ScheduledCallback RouterCallback RouterScope))
  | others (other : Router) (elapsed : ℤ)

/-- The router when its runtime invokes a callback. -/
def Router.invoked (router : Router)
    (queue : List (ScheduledCallback RouterCallback RouterScope)) : Router :=
  { router with runtime := { router.runtime with queue := queue } }

/-- A change of anything but the contention buffer; time may pass. -/
def Router.replacedBy (router other : Router) (elapsed : ℤ) : Router :=
  { other with
    cbfBuffer := router.cbfBuffer
    runtime := ⟨router.now + elapsed, other.runtime.queue⟩ }

def Call.step (platform : Platform) (router : Router) (call : Environment × Call) : Option Router :=
  match call.2 with
  | .area packet sender =>
    some (areaContentionBasedForwarding platform call.1 packet sender router).2
  | .nonArea packet sender =>
    some (nonAreaContentionBasedForwarding platform call.1 packet sender router).2
  | .advanced packet ll => some (areaAdvancedForwarding platform call.1 packet ll router).2
  | .fetch id => some (router.withCbf (router.cbf.fetch flushTimer id).2)
  | .flush queue => some (flushCbfBuffer platform call.1 (router.invoked queue)).2
  | .others other elapsed =>
    if 0 ≤ elapsed ∧ other.flushes = router.flushes then some (router.replacedBy other elapsed)
    else none

/-- The callback throws an exception. -/
def Call.throws (platform : Platform) (router : Router) (call : Environment × Call) : Bool :=
  match call.2 with
  | .flush queue =>
    match (flushCbfBuffer platform call.1 (router.invoked queue)).1 with
    | .ok _ => false
    | .error _ => true
  | _ => false

/-- **Calls one after the other**, none of which throws an exception. -/
abbrev Calls (platform : Platform) : Router → Router → Prop :=
  Relation.ReflTransGen fun before after =>
    ∃ call, Call.throws platform before call = false ∧ Call.step platform before call = some after

instance callsPreorder (platform : Platform) : IsPreorder Router (Calls platform) where
  refl _ := Relation.ReflTransGen.refl
  trans _ _ _ := Relation.ReflTransGen.trans

/-- **The contention buffer and its flushes are left alone.** -/
structure Beside (before after : Router) : Prop where
  contending : after.cbfBuffer = before.cbfBuffer
  now : before.now ≤ after.now
  flushes : after.flushes = before.flushes

instance besidePreorder : IsPreorder Router Beside where
  refl _ := ⟨rfl, le_refl _, rfl⟩
  trans _ _ _ first second :=
    ⟨second.contending.trans first.contending, first.now.trans second.now,
      second.flushes.trans first.flushes⟩

/-- A change that does not touch the buffer nor the runtime. -/
theorem Beside.silent {before after : Router} (contending : after.cbfBuffer = before.cbfBuffer)
    (runtime : after.runtime = before.runtime) : Beside before after := by
  refine ⟨contending, ?_, ?_⟩
  · unfold Router.now
    rw [runtime]
  · unfold Router.flushes
    rw [runtime]

section Rules

variable {platform : Platform} {env : Environment} {before after : Router} {α : Type}

theorem Beside.step (beside : Beside before after) (env : Environment) :
    Call.step platform before (env, .others after (after.now - before.now)) = some after := by
  have elapsed : 0 ≤ after.now - before.now := Int.sub_nonneg_of_le beside.now
  have same : before.replacedBy after (after.now - before.now) = after := by
    unfold Router.replacedBy
    rw [← beside.contending, Int.add_comm, Int.sub_add_cancel]
    rfl
  unfold Call.step
  dsimp only
  rw [if_pos ⟨elapsed, beside.flushes⟩, same]

theorem Beside.calls (beside : Beside before after) (env : Environment) :
    Calls platform before after :=
  .single ⟨_, rfl, beside.step env⟩

theorem calls_of_beside {act : Act α} (env : Environment) (moves : Action.Moves Beside act) :
    Action.Moves (Calls platform) act :=
  fun router => (moves router).calls env

theorem beside_emit (event : Event) : Action.Moves Beside (Act.emit event) :=
  .update fun _ => .silent rfl rfl

end Rules

/-! ### What does not concern the buffer -/

section Beside

variable {platform : Platform} {env : Environment}

theorem beside_passDown (origin : Origin) (request : Dcc.DataRequest) (pdu : VariantPdu)
    (payload : ChunkPacket) : Action.Moves Beside (passDown origin request pdu payload) := by
  unfold passDown
  split
  · exact .ite (fun _ => moves_throw _) fun _ => .ite (fun _ => moves_throw _) fun _ => beside_emit _
  · exact .ite (fun _ => moves_throw _) fun _ => beside_emit _

theorem beside_passDownTo (origin : Origin) (addr : MacAddress) (pdu : VariantPdu)
    (payload : ChunkPacket) : Action.Moves Beside (passDownTo origin addr pdu payload) :=
  .bind (moves_read _) fun _ => beside_passDown _ _ _ _

theorem beside_executeMediaProcedures (comProfile : CommunicationProfile) :
    Action.Moves Beside (executeMediaProcedures comProfile) := by
  cases comProfile <;> exact .pure ()

theorem beside_secure {H : Type} [ExtendedHeader H] (itsAid : ItsAid) (pdu : ExtendedPdu H)
    (packet : ChunkPacket) : Action.Moves Beside (secure platform env itsAid pdu packet) := by
  refine .ite (fun _ => ?_) fun _ => .pure _
  unfold encapPacket
  cases env.securityEntity with
  | none => exact moves_throw _
  | some entity => exact .bind (moves_read _) fun _ => .ite (fun _ => .fail _) fun _ => .pure _

theorem beside_resetBeaconTimer : Action.Moves Beside (resetBeaconTimer env) := by
  refine .update fun router => ⟨rfl, ?_, ?_⟩
  · show router.now ≤ ((router.runtime.cancel _).scheduleIn _ _ _).now
    rw [ManualRuntime.scheduleIn_now, ManualRuntime.cancel_now]
    exact le_refl _
  · have apart : ∀ item : ScheduledCallback RouterCallback RouterScope,
        decide (item.callback = .flushCbfBuffer ∧ item.scope = some .cbfPacketBuffer) = true →
          item.scope ≠ some .router := by
      intro item ours
      rw [(of_decide_eq_true ours).2]
      decide
    exact (ManualRuntime.filter_emplace (decide_eq_false fun ours => nomatch ours.1) _).trans
      (ManualRuntime.filter_cancel apart router.runtime)

theorem beside_processShb (packet : PendingPacketShb) :
    Action.Moves Beside (processShb platform env packet) :=
  .bind (moves_read _) fun _ => .bind (beside_secure _ _ _) fun _ =>
    .bind (beside_executeMediaProcedures _) fun _ => .bind (beside_passDownTo _ _ _ _) fun _ =>
      beside_resetBeaconTimer

theorem beside_processForwarding (packet : PendingPacketForwarding) (mac : MacAddress) :
    Action.Moves Beside (processForwarding platform env packet mac) := by
  unfold processForwarding
  split
  · exact .bind (beside_executeMediaProcedures _) fun _ => .bind (moves_read _) fun _ =>
      beside_passDown _ _ _ _
  · exact .bind (moves_read _) fun _ => .bind (beside_secure _ _ _) fun _ =>
      .bind (beside_executeMediaProcedures _) fun _ => beside_passDownTo _ _ _ _
  · exact .pure ()

theorem beside_processNextHop (hop : NextHop) :
    Action.Moves Beside (processNextHop platform env hop) := by
  cases hop with
  | valid packet destination => exact beside_processForwarding packet destination
  | discarded => exact .pure ()
  | buffered => exact .pure ()

theorem beside_pushBroadcast (data : BufferData) : Action.Moves Beside (pushBroadcast data) :=
  .update fun _ => .silent rfl rfl

theorem beside_greedyForwarding (packet : PendingPacketForwarding) :
    Action.Moves Beside (greedyForwarding platform packet) := by
  refine .bind (moves_read _) fun router => ?_
  dsimp only
  split
  · exact .pure _
  · exact .ite (fun _ => .bind (beside_pushBroadcast _) fun _ => .pure _) fun _ => .pure _

theorem beside_repeaterAdd (request : DataRequestVariant) (payload : ChunkPacket) :
    Action.Moves Beside (repeaterAdd request payload) := by
  refine .update fun router => ?_
  dsimp only
  split
  · exact refl_of Beside router
  · split_ifs
    · exact ⟨rfl, le_refl _, ManualRuntime.filter_emplace (decide_eq_false fun ours => nomatch ours.1) _⟩
    · exact refl_of Beside router

theorem beside_onBeaconTimerExpired : Action.Moves Beside (onBeaconTimerExpired platform env) := by
  unfold onBeaconTimerExpired createBeaconPdu
  exact .ite (fun _ => .pure ()) fun _ => .bind (.bind (moves_read _) fun _ => .pure _) fun _ =>
    .bind (beside_secure _ _ _) fun _ => .bind (beside_executeMediaProcedures _) fun _ =>
      .bind (beside_passDownTo _ _ _ _) fun _ => beside_resetBeaconTimer

theorem beside_commonHeaderOf (request : DataRequest) :
    Action.Moves Beside (commonHeaderOf platform request) := by
  unfold commonHeaderOf
  split
  · exact .pure _
  · exact moves_throw _

theorem beside_requestShb (request : DataRequest) (payload : Option ChunkPacket) :
    Action.Moves Beside (requestShb platform env request payload) := by
  unfold requestShb createShbPdu
  dsimp only
  split
  · exact .pure _
  · refine .ite (fun _ => ?_) fun _ => .pure _
    refine .bind (beside_repeaterAdd _ _) fun _ => .bind
      (.bind (beside_commonHeaderOf _) fun _ => .bind (moves_read _) fun _ => .pure _) fun _ =>
        .bind (moves_read _) fun _ => ?_
    exact .ite (fun _ => .bind (beside_pushBroadcast _) fun _ => .pure _)
      fun _ => .bind (beside_processShb _) fun _ => .pure _

theorem beside_createGbcPdu (request : DataRequest) (destination : Area) :
    Action.Moves Beside (createGbcPdu platform request destination) := by
  have counts : Action.Moves Beside (Act.modify fun router : Router =>
      { router with localSequenceNumber := router.localSequenceNumber + 1 }) :=
    .update fun _ => .silent rfl rfl
  exact .bind (beside_commonHeaderOf _) fun _ => .bind (moves_read _) fun _ =>
    .bind counts fun _ => .pure _

end Beside

/-! ### What does -/

section Calls

variable {platform : Platform} {env : Environment}

theorem calls_step (call : Call) {α : Type} {act : Act α}
    (returns : ∀ router, Call.throws platform router (env, call) = false)
    (steps : ∀ router, Call.step platform router (env, call) = some (act router).2) :
    Action.Moves (Calls platform) act :=
  fun router => .single ⟨_, returns router, steps router⟩

theorem calls_forwardingAlgorithmSelection (packet : PendingPacketForwarding)
    (ll : Option LinkLayer) :
    Action.Moves (Calls platform) (forwardingAlgorithmSelection platform env packet ll) := by
  have beside : ∀ {α : Type} {act : Act α}, Action.Moves Beside act →
      Action.Moves (Calls platform) act := calls_of_beside env
  refine .bind (moves_destinationArea _ _) fun area => .bind (moves_read _) fun here =>
    .ite (fun _ => ?_) fun _ => .bind (moves_read _) fun position => .ite (fun _ => ?_) fun _ => ?_
  · cases platform.mib.itsGnAreaForwardingAlgorithm with
    | unspecified => exact .pure _
    | simple => exact .pure _
    | cbf => exact calls_step (.area packet (ll.map LinkLayer.sender)) (fun _ => rfl) fun _ => rfl
    | advanced => exact calls_step (.advanced packet ll) (fun _ => rfl) fun _ => rfl
  · exact .bind (beside (beside_emit _)) fun _ => .pure _
  · cases platform.mib.itsGnNonAreaForwardingAlgorithm with
    | unspecified => exact beside (beside_greedyForwarding packet)
    | greedy => exact beside (beside_greedyForwarding packet)
    | cbf => exact calls_step (.nonArea packet (ll.map LinkLayer.sender)) (fun _ => rfl) fun _ => rfl

theorem calls_processGbc (packet : PendingPacketGbc) :
    Action.Moves (Calls platform) (processGbc platform env packet) := by
  unfold processGbc
  split
  · exact .bind (calls_forwardingAlgorithmSelection _ _) fun _ =>
      calls_of_beside env (beside_processNextHop _)
  · exact calls_of_beside env (.bind (beside_greedyForwarding _) fun _ => beside_processNextHop _)
  · exact calls_of_beside env (beside_processForwarding _ _)

theorem calls_processData (data : BufferData) :
    Action.Moves (Calls platform) (processData platform env data) := by
  cases data with
  | shb packet => exact calls_of_beside env (beside_processShb packet)
  | gbc packet => exact calls_processGbc packet

theorem calls_requestGbc (request : DataRequest) (destination : Area)
    (payload : Option ChunkPacket) :
    Action.Moves (Calls platform) (requestGbc platform env request destination payload) := by
  have beside : ∀ {α : Type} {act : Act α}, Action.Moves Beside act →
      Action.Moves (Calls platform) act := calls_of_beside env
  unfold requestGbc
  dsimp only
  split
  · exact .pure _
  · refine .ite (fun _ => ?_) fun _ => .pure _
    refine .bind (beside (beside_repeaterAdd _ _)) fun _ =>
      .bind (beside (beside_createGbcPdu _ _)) fun _ => .bind (moves_read _) fun _ => ?_
    exact .ite (fun _ => .bind (beside (beside_pushBroadcast _)) fun _ => .pure _)
      fun _ => .bind (calls_processGbc _) fun _ => .pure _

theorem calls_request (request : DataRequestVariant) (payload : Option ChunkPacket) :
    Action.Moves (Calls platform) (Router.request platform env request payload) := by
  cases request with
  | shb request => exact calls_of_beside env (beside_requestShb request payload)
  | gbc request destination => exact calls_requestGbc request destination payload
  | gac request destination => exact .pure _
  | guc request destination => exact .pure _
  | tsb request => exact .pure _

theorem calls_repeaterTrigger (ref : ℕ) (invocation : ℤ) :
    Action.Moves (Calls platform) (repeaterTrigger platform env ref invocation) := by
  refine .bind (moves_read _) fun router => ?_
  dsimp only
  split
  · exact .pure ()
  · split
    · exact .fail _
    · exact .bind (calls_request _ _) fun _ =>
        calls_of_beside env (.update fun _ => .silent rfl rfl)

/-- **Calls, and a callback that throws an exception** at the end of a station that has failed. -/
def CallsUntil (platform : Platform) (before after : Router) (failed : Bool) : Prop :=
  ∃ mid, Calls platform before mid ∧
    (after = mid ∨ failed = true ∧ ∃ call, Call.step platform mid call = some after)

theorem Calls.returned {before after : Router} (calls : Calls platform before after) (failed : Bool) :
    CallsUntil platform before after failed :=
  ⟨after, calls, .inl rfl⟩

/-- The runtime invokes a callback. -/
theorem calls_invoke (router : Router) (due : ScheduledCallback RouterCallback RouterScope)
    {runtime : ManualRuntime RouterCallback RouterScope}
    (popped : router.runtime.popDue = some (due, runtime)) {failed : Bool}
    (fails : ∀ fault, (invoke platform env due.callback due.deadline
      { router with runtime := runtime }).1 = .error fault → failed = true) :
    CallsUntil platform router (invoke platform env due.callback due.deadline
      { router with runtime := runtime }).2 failed := by
  obtain ⟨rest, queued, _, rfl⟩ := ManualRuntime.popDue_some.mp popped
  have taken : due.callback ≠ .flushCbfBuffer → Calls platform router (router.invoked rest) := by
    intro other
    have same : (router.invoked rest).flushes = router.flushes := by
      unfold Router.flushes
      rw [queued, List.filter_cons_of_neg fun ours => other (of_decide_eq_true ours).1]
      rfl
    exact Beside.calls ⟨rfl, le_refl _, same⟩ env
  cases callback : due.callback with
  | flushCbfBuffer =>
    rw [callback] at fails
    cases returns : (invoke platform env .flushCbfBuffer due.deadline (router.invoked rest)).1 with
    | error fault => exact ⟨router, .refl, .inr ⟨fails fault returns, (env, .flush rest), rfl⟩⟩
    | ok _ =>
      refine Calls.returned (.single ⟨(env, .flush rest), ?_, rfl⟩) failed
      unfold Call.throws
      have returned : (flushCbfBuffer platform env (router.invoked rest)).1 = .ok () := returns
      dsimp only
      rw [returned]
  | beaconTimerExpired =>
    refine Calls.returned ((taken (by rw [callback]; exact nofun)).trans ?_) failed
    exact calls_of_beside env beside_onBeaconTimerExpired _
  | triggerRepetition ref =>
    refine Calls.returned ((taken (by rw [callback]; exact nofun)).trans ?_) failed
    exact calls_repeaterTrigger ref due.deadline _

/-! ### Indications -/

theorem allows_calls (platform : Platform) (env : Environment) :
    Allows platform env (Calls platform) where
  learns before after learns := by
    obtain ⟨_, _, rfl⟩ := learns
    exact Beside.calls (.silent rfl rfl) env
  emits _ _ := Beside.calls (.silent rfl rfl) env
  remembers _ _ := Beside.calls (.silent rfl rfl) env
  buffers _ _ _ := Beside.calls (.silent rfl rfl) env
  processes := calls_processData

end Calls

/-! ### Runs -/

/-- A router that has just been constructed. -/
def Router.Created (platform : Platform) (router : Router) : Prop :=
  ∃ now firstBeacon, router = .create platform.mib now firstBeacon

namespace Station

variable {platform : Platform} {station after : Station}

/-- **An action of a station is a sequence of calls.** -/
theorem calls_of_step {input : Environment × Action}
    (taken : Station.step platform station input = some after) :
    CallsUntil platform station.router after.router after.failed := by
  obtain ⟨env, action⟩ := input
  have besides : ∀ {other : Router}, Beside station.router other →
      Calls platform station.router other := fun beside => beside.calls env
  unfold Station.step at taken
  split_ifs at taken
  cases action with
  | indicate packet ll =>
    cases taken
    exact Calls.returned ((allows_calls platform env).indicate packet ll station.router) _
  | request request payload =>
    cases taken
    exact Calls.returned (calls_request request payload station.router) _
  | updatePosition fix =>
    cases taken
    refine Calls.returned (besides ?_) _
    exact .silent rfl rfl
  | setAddress addr =>
    cases taken
    refine Calls.returned (besides ?_) _
    exact .silent rfl rfl
  | setTransportHandler proto handled =>
    cases taken
    refine Calls.returned (besides ?_) _
    exact .silent rfl rfl
  | advance d =>
    dsimp only at taken
    split_ifs at taken with elapsed
    cases taken
    refine Calls.returned (besides ?_) _
    exact ⟨rfl, Int.le_add_of_nonneg_right elapsed, rfl⟩
  | fire =>
    obtain ⟨due, popped, rfl⟩ := Option.map_eq_some_iff.mp taken
    refine calls_invoke station.router due.1 popped fun fault thrown => ?_
    dsimp only
    rw [thrown]

/-- **A station's router** has become what it is by calls. -/
theorem calls_of_reachable (reached : Reachable (Initial platform) (Station.step platform) station) :
    ∃ first, Router.Created platform first ∧ CallsUntil platform first station.router station.failed := by
  refine GuardedReach.invariant (I := fun station : Station =>
    ∃ first, Router.Created platform first ∧
      CallsUntil platform first station.router station.failed) ?_ ?_ station reached
  · rintro _ ⟨now, firstBeacon, rfl⟩
    exact ⟨_, ⟨now, firstBeacon, rfl⟩, Calls.returned .refl _⟩
  · rintro before input after _ ⟨first, created, mid, calls, ended⟩ _ taken
    have alive : before.failed ≠ true := by
      intro failed
      unfold Station.step at taken
      rw [if_pos failed] at taken
      cases taken
    rcases ended with rfl | ⟨failed, _⟩
    · obtain ⟨last, more, ended⟩ := calls_of_step taken
      exact ⟨first, created, last, calls.trans more, ended⟩
    · exact absurd failed alive

end Station

end Vanet.Geonet
