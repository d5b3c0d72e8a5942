/-
**How a router announces itself, and its beacon timer.**

A router announces itself with beacons and with its single-hop broadcasts. Its beacon timer is the
callback that the router has scheduled in its own scope. `Tends` is what any action but the timer's own
callback does to it: the timer is left alone, or a single-hop broadcast has been handed to the access
layer and the timer is restarted. All other packets, whether they are the router's own or forwarded,
leave it alone.

* `tends_request`, `tends_indicate`, `tends_invoke`: what is requested, indicated or flushed tends the
  timer.
* `onBeaconTimerExpired_enabled`: the timer's callback hands over a beacon and restarts the timer, or it
  fails and leaves everything as it is.
-/

import Vanet.Geonet.Conveying
import Vanet.Geonet.Station

namespace Vanet.Geonet

open Vanet.Common Vanet.Library Vanet.Security
open Vanet.Net hiding ByteBuffer
open Act Router

/-! ### Announcements -/

/-- A beacon is handed to the access layer. -/
def Event.isBeacon : Event → Bool
  | passedDown .beacon _ _ _ => true
  | _ => false

/-- A beacon or a single-hop broadcast is. -/
def Event.announces : Event → Bool
  | passedDown .beacon _ _ _ => true
  | passedDown .shb _ _ _ => true
  | _ => false

/-- The callbacks in the scope of the router itself. -/
def Router.beaconTimers (router : Router) : List (ScheduledCallback RouterCallback RouterScope) :=
  router.runtime.queue.filter fun item => item.scope = some .router

/-- The beacon timer with a deadline. -/
def beaconTimer (deadline : ℤ) : ScheduledCallback RouterCallback RouterScope :=
  ⟨deadline, .beaconTimerExpired, some .router⟩

theorem beaconTimers_reset (router : Router) (nextBeacon : ℤ) :
    (router.resetBeaconTimerIn nextBeacon).beaconTimers = [beaconTimer (router.now + nextBeacon)] := by
  have cancelled : (router.runtime.cancel (some .router)).queue.filter
      (fun item => decide (item.scope = some RouterScope.router)) = [] := by
    refine List.filter_eq_nil_iff.mpr fun item member => ?_
    have apart := of_decide_eq_true (List.mem_filter.mp member).2
    exact fun ours => apart (of_decide_eq_true ours)
  have now : (router.runtime.cancel (some .router)).now = router.now := ManualRuntime.cancel_now _ _
  rw [← now]
  exact ManualRuntime.filter_emplace_self (decide_eq_true rfl) cancelled

/-! ### Tending the timer -/

section Tends

variable (env : Environment)

/-- **The beacon timer is left alone, or restarted after an announcement**, and no beacon is sent. -/
structure Tends (before after : Router) : Prop where
  now : after.now = before.now
  /-- The timer's callback is in the router's scope, or has been scheduled before. -/
  owned : ∀ item ∈ after.runtime.queue, item.callback = .beaconTimerExpired →
    item.scope = some .router ∨ item ∈ before.runtime.queue
  timers : ∃ more, after.trace = before.trace ++ more ∧ more.any Event.isBeacon = false ∧
    (more.any Event.announces = false ∧ after.beaconTimers = before.beaconTimers ∨
      more.any Event.announces = true ∧
        ∃ k, after.beaconTimers = [beaconTimer (before.now + env.nextBeacon k)])

instance tendsPreorder : IsPreorder Router (Tends env) where
  refl router := ⟨rfl, fun _ member _ => .inr member, [], (List.append_nil _).symm, rfl, .inl ⟨rfl, rfl⟩⟩
  trans := by
    intro before mid after first second
    obtain ⟨more, extended, silent, timers⟩ := first.timers
    obtain ⟨rest, further, silentRest, timersRest⟩ := second.timers
    refine ⟨second.now.trans first.now, ?_, more ++ rest, ?_, ?_, ?_⟩
    · intro item member expires
      rcases second.owned item member expires with ours | old
      · exact .inl ours
      · exact first.owned item old expires
    · rw [further, extended, List.append_assoc]
    · rw [List.any_append, silent, silentRest]
      rfl
    · rw [List.any_append]
      rcases timersRest with ⟨nothing, same⟩ | ⟨announced, k, restarted⟩
      · rw [nothing, Bool.or_false, same]
        exact timers
      · rw [announced, Bool.or_true]
        refine .inr ⟨rfl, k, ?_⟩
        rw [restarted, first.now]

variable {env} {before after : Router}

/-- Callbacks in other scopes come and go, and nothing is announced. -/
theorem Tends.silent (now : after.now = before.now)
    (owned : ∀ item ∈ after.runtime.queue, item.callback = .beaconTimerExpired →
      item.scope = some .router ∨ item ∈ before.runtime.queue)
    (timers : after.beaconTimers = before.beaconTimers) (trace : after.trace = before.trace) :
    Tends env before after :=
  ⟨now, owned, [], by rw [trace, List.append_nil], rfl, .inl ⟨rfl, timers⟩⟩

/-- A change that does not touch the runtime. -/
theorem Tends.beside (runtime : after.runtime = before.runtime) (trace : after.trace = before.trace) :
    Tends env before after := by
  refine .silent ?_ ?_ ?_ trace
  · exact congrArg ManualRuntime.now runtime
  · intro item member _
    rw [runtime] at member
    exact .inr member
  · unfold Router.beaconTimers
    rw [runtime]

/-- An event that announces nothing. -/
theorem Tends.emit {event : Event} (quiet : event.announces = false) (router : Router) :
    Tends env router (router.emit event) := by
  have silent : event.isBeacon = false := by
    revert quiet
    unfold Event.announces Event.isBeacon
    split <;> split <;> simp_all
  refine ⟨rfl, fun _ member _ => .inr member, [event], rfl, ?_, .inl ⟨?_, rfl⟩⟩
  · exact (Bool.or_false _).trans silent
  · exact (Bool.or_false _).trans quiet

theorem tends_emit {event : Event} (quiet : event.announces = false) :
    Action.Moves (Tends env) (Act.emit event) :=
  .update fun router => .emit quiet router

end Tends

/-! ### The contention buffer -/

/-- The contention buffer does not concern the beacon timer. -/
theorem sparesBeacon (router : Router) :
    Cbf.Spares flushTimer fun runtime => runtime.now = router.now ∧
      (∀ item ∈ runtime.queue, item.callback = .beaconTimerExpired → item ∈ router.runtime.queue) ∧
      runtime.queue.filter (fun item => decide (item.scope = some RouterScope.router)) =
        router.beaconTimers where
  schedules runtime tp spared := by
    obtain ⟨now, owned, timers⟩ := spared
    refine ⟨now, ?_, ?_⟩
    · intro item member expires
      rcases ManualRuntime.mem_emplace.mp member with rfl | old
      · exact nomatch expires
      · exact owned item old expires
    · exact (ManualRuntime.filter_emplace (decide_eq_false nofun) _).trans timers
  cancels runtime spared := by
    obtain ⟨now, owned, timers⟩ := spared
    refine ⟨(runtime.cancel_now _).trans now, ?_, ?_⟩
    · exact fun item member expires => owned item (List.mem_filter.mp member).1 expires
    · refine (ManualRuntime.filter_cancel (fun item ours => ?_) runtime).trans timers
      rw [of_decide_eq_true ours]
      exact nofun

section Actions

variable {platform : Platform} {env : Environment} {α : Type}

theorem tends_withCbf {router : Router} {cbf : Cbf GbcAction RouterCallback RouterScope}
    (spared : cbf.runtime.now = router.now ∧
      (∀ item ∈ cbf.runtime.queue, item.callback = .beaconTimerExpired → item ∈ router.runtime.queue) ∧
      cbf.runtime.queue.filter (fun item => decide (item.scope = some RouterScope.router)) =
        router.beaconTimers) :
    Tends env router (router.withCbf cbf) :=
  .silent spared.1 (fun item member expires => .inr (spared.2.1 item member expires)) spared.2.2 rfl

/-- Nothing has happened to the runtime yet. -/
theorem spared_self (router : Router) : router.cbf.runtime.now = router.now ∧
    (∀ item ∈ router.cbf.runtime.queue, item.callback = .beaconTimerExpired →
      item ∈ router.runtime.queue) ∧
    router.cbf.runtime.queue.filter (fun item => decide (item.scope = some RouterScope.router)) =
      router.beaconTimers :=
  ⟨rfl, fun _ member _ => member, rfl⟩

theorem tends_cbfAdd (packet : PendingPacketForwarding) (sender : MacAddress) (timeout : ℤ) :
    Action.Moves (Tends env) (cbfAdd env packet sender timeout) :=
  .update fun router => tends_withCbf ((sparesBeacon router).add _ _ _ _ (spared_self router))

theorem tends_cbfRemove (id : PacketIdentifier) : Action.Moves (Tends env) (cbfRemove id) :=
  .update fun router => tends_withCbf ((sparesBeacon router).remove _ _ (spared_self router))

theorem tends_cbfUpdate (id : PacketIdentifier) (timeout : ℤ) :
    Action.Moves (Tends env) (cbfUpdate id timeout) := by
  refine .update fun router => tends_withCbf ?_
  rw [Cbf.update_runtime]
  exact spared_self router

theorem tends_pushBroadcast (data : BufferData) : Action.Moves (Tends env) (pushBroadcast data) :=
  .update fun _ => .beside rfl rfl

/-! ### Passing down -/

/-- **A packet is handed over, or nothing happens.** -/
theorem passDownTo_cases (origin : Origin) (addr : MacAddress) (pdu : VariantPdu)
    (payload : ChunkPacket) (router : Router) :
    (∃ request, passDownTo origin addr pdu payload router =
        (.ok (), router.emit (.passedDown origin request pdu payload))) ∨
      ∃ fault, passDownTo origin addr pdu payload router = (.error fault, router) := by
  have handed : ∀ request, (passDown origin request pdu payload router =
        (.ok (), router.emit (.passedDown origin request pdu payload))) ∨
      ∃ fault, passDown origin request pdu payload router = (.error fault, router) := by
    intro request
    unfold passDown
    cases pdu.secured with
    | some message =>
      dsimp only
      split_ifs
      · exact .inr ⟨_, rfl⟩
      · exact .inr ⟨_, rfl⟩
      · exact .inl rfl
    | none =>
      dsimp only
      split_ifs
      · exact .inr ⟨_, rfl⟩
      · exact .inl rfl
  rcases handed _ with passed | failed
  · exact .inl ⟨_, passed⟩
  · exact .inr failed

theorem tends_passDown {origin : Origin} {request : Dcc.DataRequest} {pdu : VariantPdu}
    {payload : ChunkPacket}
    (quiet : (Event.passedDown origin request pdu payload).announces = false) :
    Action.Moves (Tends env) (passDown origin request pdu payload) := by
  unfold passDown
  split
  · exact .ite (fun _ => moves_throw _) fun _ => .ite (fun _ => moves_throw _) fun _ => tends_emit quiet
  · exact .ite (fun _ => moves_throw _) fun _ => tends_emit quiet

/-- Encapsulation reads the router at most. -/
theorem secure_reads {H : Type} [ExtendedHeader H] (itsAid : ItsAid) (pdu : ExtendedPdu H)
    (packet : ChunkPacket) (router : Router) :
    (secure platform env itsAid pdu packet router).2 = router := by
  unfold secure
  split_ifs
  · unfold encapPacket
    cases env.securityEntity with
    | none => rfl
    | some entity =>
      dsimp only
      rw [read_bind]
      split_ifs
      · rfl
      · rfl
  · rfl

theorem executeMediaProcedures_eq (comProfile : CommunicationProfile) :
    executeMediaProcedures comProfile = pure () := by
  cases comProfile <;> rfl

/-- A packet is encapsulated and handed over to everyone, and the beacon timer is restarted. -/
def announce (platform : Platform) (env : Environment) {H : Type} [ExtendedHeader H] (origin : Origin)
    (itsAid : ItsAid) (comProfile : CommunicationProfile) (pdu : ExtendedPdu H) (packet : ChunkPacket) :
    Act Unit := do
  let (pdu, payload) ← secure platform env itsAid pdu packet
  executeMediaProcedures comProfile
  passDownTo origin cBroadcastMacAddress pdu.toVariant payload
  resetBeaconTimer env

/-- **An announcement** is made, or everything is left as it is. -/
theorem announce_cases {H : Type} [ExtendedHeader H] (origin : Origin) (itsAid : ItsAid)
    (comProfile : CommunicationProfile) (pdu : ExtendedPdu H) (packet : ChunkPacket) (router : Router) :
    (∃ request sent payload k, announce platform env origin itsAid comProfile pdu packet router =
        (.ok (), (router.emit (.passedDown origin request sent payload)).resetBeaconTimerIn
          (env.nextBeacon k))) ∨
      ∃ fault, announce platform env origin itsAid comProfile pdu packet router = (.error fault, router) := by
  have reads : (secure platform env itsAid pdu packet router).2 = router := secure_reads _ _ _ _
  rcases ran : secure platform env itsAid pdu packet router with ⟨fault | ⟨securedPdu, payload⟩, after⟩
  · rw [ran] at reads
    obtain rfl : router = after := reads.symm
    exact .inr ⟨fault, Action.bind_of_error ran⟩
  · rw [ran] at reads
    obtain rfl : router = after := reads.symm
    have first : announce platform env origin itsAid comProfile pdu packet router = (do
        passDownTo origin cBroadcastMacAddress securedPdu.toVariant payload
        resetBeaconTimer env : Act Unit) router := by
      refine (Action.bind_of_ok ran).trans ?_
      dsimp only
      rw [executeMediaProcedures_eq]
      rfl
    rw [first]
    rcases passDownTo_cases origin cBroadcastMacAddress securedPdu.toVariant payload router with
      ⟨request, passed⟩ | ⟨fault, failed⟩
    · refine .inl ⟨request, securedPdu.toVariant, payload, Router.moment (router.emit
        (.passedDown origin request securedPdu.toVariant payload)), ?_⟩
      rw [Action.bind_of_ok passed]
      rfl
    · exact .inr ⟨fault, Action.bind_of_error failed⟩

theorem tends_secure {H : Type} [ExtendedHeader H] (itsAid : ItsAid) (pdu : ExtendedPdu H)
    (packet : ChunkPacket) : Action.Moves (Tends env) (secure platform env itsAid pdu packet) := by
  intro router
  rw [secure_reads]
  exact refl_of (Tends env) router

theorem tends_passDownTo {origin : Origin} {addr : MacAddress} {pdu : VariantPdu}
    {payload : ChunkPacket}
    (quiet : ∀ request, (Event.passedDown origin request pdu payload).announces = false) :
    Action.Moves (Tends env) (passDownTo origin addr pdu payload) :=
  .bind (moves_read _) fun _ => tends_passDown (quiet _)

theorem tends_executeMediaProcedures (comProfile : CommunicationProfile) :
    Action.Moves (Tends env) (executeMediaProcedures comProfile) := by
  rw [executeMediaProcedures_eq]
  exact .pure ()

/-! ### Processing packets -/

/-- The router when an announcement has been made. -/
theorem announced_reset (router : Router) (event : Event) (nextBeacon : ℤ) :
    ((router.emit event).resetBeaconTimerIn nextBeacon).now = router.now ∧
      (∀ item ∈ ((router.emit event).resetBeaconTimerIn nextBeacon).runtime.queue,
        item.callback = .beaconTimerExpired →
          item.scope = some .router ∨ item ∈ router.runtime.queue) ∧
      ((router.emit event).resetBeaconTimerIn nextBeacon).beaconTimers =
        [beaconTimer (router.now + nextBeacon)] := by
  refine ⟨ManualRuntime.cancel_now _ _, ?_, beaconTimers_reset (router.emit event) nextBeacon⟩
  intro item member _
  rcases ManualRuntime.mem_emplace.mp member with rfl | old
  · exact .inl rfl
  · exact .inr (List.mem_filter.mp old).1

theorem tends_announce {H : Type} [ExtendedHeader H] (itsAid : ItsAid)
    (comProfile : CommunicationProfile) (pdu : ExtendedPdu H) (packet : ChunkPacket) :
    Action.Moves (Tends env) (announce platform env .shb itsAid comProfile pdu packet) := by
  intro router
  rcases @announce_cases platform env H _ .shb itsAid comProfile pdu packet router with
    ⟨request, sent, payload, k, made⟩ | ⟨fault, failed⟩
  · obtain ⟨now, owned, timers⟩ :=
      announced_reset router (.passedDown .shb request sent payload) (env.nextBeacon k)
    rw [made]
    exact ⟨now, owned, [.passedDown .shb request sent payload], rfl, rfl, .inr ⟨rfl, k, timers⟩⟩
  · rw [failed]
    exact refl_of (Tends env) router

/-- **A single-hop broadcast** restarts the timer if it is handed over. -/
theorem tends_processShb (packet : PendingPacketShb) :
    Action.Moves (Tends env) (processShb platform env packet) :=
  .bind (moves_read _) fun _ => tends_announce _ _ _ _

theorem tends_processForwarding (packet : PendingPacketForwarding) (mac : MacAddress) :
    Action.Moves (Tends env) (processForwarding platform env packet mac) := by
  unfold processForwarding
  split
  · exact .bind (tends_executeMediaProcedures _) fun _ => .bind (moves_read _) fun _ =>
      tends_passDown rfl
  · exact .bind (moves_read _) fun _ => .bind (tends_secure _ _ _) fun _ =>
      .bind (tends_executeMediaProcedures _) fun _ => tends_passDownTo fun _ => rfl
  · exact .pure ()

theorem tends_conveys (origin : Router) :
    Conveys platform env (Tends env origin) (Tends env origin) fun _ => True where
  silent _ _ := trivial
  duplicate _ _ := trivial
  locates _ _ := (moves_destinationArea _ _).keeps origin
  stops := (tends_emit rfl).keeps origin
  buffers _ _ := (tends_pushBroadcast _).keeps origin
  adds _ _ _ _ := (tends_cbfAdd _ _ _).keeps origin
  removes _ := (tends_cbfRemove _).keeps origin
  updates _ _ := (tends_cbfUpdate _ _).keeps origin
  transmits _ _ _ := (tends_processForwarding _ _).keeps origin

/-- **A GeoBroadcast packet** leaves the timer alone. -/
theorem tends_processGbc (packet : PendingPacketGbc) :
    Action.Moves (Tends env) (processGbc platform env packet) :=
  .of_keeps fun origin => (tends_conveys origin).processGbc trivial

theorem tends_processData (data : BufferData) :
    Action.Moves (Tends env) (processData platform env data) := by
  cases data with
  | shb packet => exact tends_processShb packet
  | gbc packet => exact tends_processGbc packet

theorem tends_flushBroadcastForwardingBuffer :
    Action.Moves (Tends env) (flushBroadcastForwardingBuffer platform env) :=
  .bind (.update fun _ => .beside rfl rfl) fun _ => moves_processAll fun data _ =>
    tends_processData data

theorem tends_flushUnicastForwardingBuffer :
    Action.Moves (Tends env) (flushUnicastForwardingBuffer platform env) :=
  .bind (.update fun _ => .beside rfl rfl) fun _ => moves_processAll fun data _ =>
    tends_processData data

end Actions

/-! ### Indications -/

section Indications

variable {platform : Platform} {env : Environment} {reception : ℕ} {α : Type}

theorem tends_learns {act : Act α} (learns : Action.Moves Learns act) :
    Action.Moves (Tends env) act := by
  refine learns.mono fun before after learnt => ?_
  obtain ⟨_, _, rfl⟩ := learnt
  exact .beside rfl rfl

theorem tends_receives (origin : Router) :
    Receives platform env reception (Tends env origin) fun _ => True where
  tells event silent _ := by
    have quiet : event.announces = false := by
      cases event with
      | passedDown origin request pdu payload => exact absurd rfl (silent origin request pdu payload)
      | _ => rfl
    exact (tends_emit quiet).keeps origin
  detectsAddress _ _ := (tends_learns (learns_detectDuplicateAddress _ _)).keeps origin
  detectsPacket _ _ := (tends_learns (learns_detectDuplicatePacket _ _)).keeps origin
  hearsGbc _ _ _ := (tends_learns (learns_updateGbcSource _ _ _)).keeps origin
  hearsShb _ _ _ _ _ _ := (tends_learns (learns_processExtendedShb _ _ _)).keeps origin
  hearsBeacon _ _ _ := (tends_learns (learns_processExtendedBeacon _ _ _)).keeps origin
  remembers router memory reached := by
    have beside : Tends env router { router with gbcMemory := memory } := .beside rfl rfl
    exact trans_of (Tends env) reached beside
  flushes := tends_flushUnicastForwardingBuffer.keeps origin
  buffers _ _ _ _ _ := (tends_pushBroadcast _).keeps origin
  processes _ _ _ _ _ := (tends_processGbc _).keeps origin

/-- **An indication** tends the timer: it may flush single-hop broadcasts. -/
theorem tends_indicate (packet : UpPacket) (ll : LinkLayer) :
    Action.Moves (Tends env) (indicate platform env reception packet ll) := by
  have expires : Action.Moves (Tends env) dropExpired := by
    refine .update fun router => ?_
    have dropped : Tends env router { router with
        locationTable := router.locationTable.dropExpired router.now } := .beside rfl rfl
    exact trans_of (Tends env) dropped (.emit rfl _)
  exact .of_keeps fun origin => keeps_indicate (fun _ => (tends_emit rfl).keeps origin)
    (expires.keeps origin) (tends_flushBroadcastForwardingBuffer.keeps origin)
    fun _ _ _ _ _ _ =>
      (tends_receives origin).visitParsed (fun _ _ _ => (tends_emit rfl).keeps origin) _ trivial _

end Indications

/-! ### Requests and callbacks -/

section Requests

variable {platform : Platform} {env : Environment}

theorem tends_repeaterAdd (request : DataRequestVariant) (payload : ChunkPacket) :
    Action.Moves (Tends env) (repeaterAdd request payload) := by
  refine .update fun router => ?_
  dsimp only
  split
  · exact refl_of (Tends env) router
  · split_ifs
    · refine .silent rfl ?_ (ManualRuntime.filter_emplace (decide_eq_false nofun) _) rfl
      intro item member expires
      rcases ManualRuntime.mem_emplace.mp member with rfl | old
      · exact nomatch expires
      · exact .inr old
    · exact refl_of (Tends env) router

theorem tends_commonHeaderOf (request : DataRequest) :
    Action.Moves (Tends env) (commonHeaderOf platform request) := by
  unfold commonHeaderOf
  split
  · exact .pure _
  · exact moves_throw _

theorem tends_requestShb (request : DataRequest) (payload : Option ChunkPacket) :
    Action.Moves (Tends env) (requestShb platform env request payload) := by
  unfold requestShb createShbPdu
  dsimp only
  split
  · exact .pure _
  · refine .ite (fun _ => ?_) fun _ => .pure _
    refine .bind (tends_repeaterAdd _ _) fun _ => .bind
      (.bind (tends_commonHeaderOf _) fun _ => .bind (moves_read _) fun _ => .pure _) fun _ =>
        .bind (moves_read _) fun _ => ?_
    exact .ite (fun _ => .bind (tends_pushBroadcast _) fun _ => .pure _)
      fun _ => .bind (tends_processShb _) fun _ => .pure _

theorem tends_requestGbc (request : DataRequest) (destination : Area)
    (payload : Option ChunkPacket) :
    Action.Moves (Tends env) (requestGbc platform env request destination payload) := by
  have counts : Action.Moves (Tends env) (Act.modify fun router : Router =>
      { router with localSequenceNumber := router.localSequenceNumber + 1 }) :=
    .update fun _ => .beside rfl rfl
  unfold requestGbc createGbcPdu
  dsimp only
  split
  · exact .pure _
  · refine .ite (fun _ => ?_) fun _ => .pure _
    refine .bind (tends_repeaterAdd _ _) fun _ => .bind (.bind (tends_commonHeaderOf _) fun _ =>
      .bind (moves_read _) fun _ => .bind counts fun _ => .pure _) fun _ =>
        .bind (moves_read _) fun _ => ?_
    exact .ite (fun _ => .bind (tends_pushBroadcast _) fun _ => .pure _)
      fun _ => .bind (tends_processGbc _) fun _ => .pure _

theorem tends_request (request : DataRequestVariant) (payload : Option ChunkPacket) :
    Action.Moves (Tends env) (Router.request platform env request payload) := by
  cases request with
  | shb request => exact tends_requestShb request payload
  | gbc request destination => exact tends_requestGbc request destination payload
  | gac request destination => exact .pure _
  | guc request destination => exact .pure _
  | tsb request => exact .pure _

/-- **The callbacks of others** tend the timer. -/
theorem tends_invoke {callback : RouterCallback} (another : callback ≠ .beaconTimerExpired)
    (deadline : ℤ) : Action.Moves (Tends env) (invoke platform env callback deadline) := by
  cases callback with
  | beaconTimerExpired => exact absurd rfl another
  | flushCbfBuffer =>
    have flushes : Action.Moves (Tends env) (Action.update fun router : Router =>
        let flushed := router.cbf.flush flushTimer
        (flushed.1, router.withCbf flushed.2) : Act (List PendingPacketGbc)) :=
      .update fun router => tends_withCbf ((sparesBeacon router).flush _ (spared_self router))
    exact .bind flushes fun packets => moves_processAll fun packet _ => tends_processGbc packet
  | triggerRepetition ref =>
    refine .bind (moves_read _) fun router => ?_
    dsimp only
    split
    · exact .pure ()
    · split
      · exact .fail _
      · exact .bind (tends_request _ _) fun _ => .update fun _ => .beside rfl rfl

/-- **The timer's own callback**, unless beaconing is disabled. -/
theorem onBeaconTimerExpired_enabled (enabled : platform.mib.vanetzaDisableBeaconing = false)
    (router : Router) :
    (∃ request pdu payload k, onBeaconTimerExpired platform env router = (.ok (),
        (router.emit (.passedDown .beacon request pdu payload)).resetBeaconTimerIn
          (env.nextBeacon k))) ∨
      ∃ fault, onBeaconTimerExpired platform env router = (.error fault, router) := by
  unfold onBeaconTimerExpired
  rw [enabled, if_neg Bool.false_ne_true]
  exact announce_cases _ _ _ _ _ router

theorem onBeaconTimerExpired_disabled (disabled : platform.mib.vanetzaDisableBeaconing = true)
    (router : Router) : onBeaconTimerExpired platform env router = (.ok (), router) := by
  unfold onBeaconTimerExpired
  rw [if_pos disabled]
  rfl

end Requests

end Vanet.Geonet
