/-
**Contentions are settled once.**

A ledger has a record of every packet that was put into the contention buffer: whether a duplicate was
overheard while it contended, and its departures from the buffer, each with its cause and with what was
handed to the access layer for it.

* `Call.does`: what one call does to the packets of the buffer.
* `Accounts.step`: it keeps the accounts.
* `contention_settled`: in every run of calls, and so in every run of a station, a record has no
  departure while its packet contends and exactly one after that. A packet departs by its callback at
  its expiry or later, and never if a duplicate was overheard; the callback hands its transmission to the
  access layer.
-/

import Vanet.Geonet.ContentionCallback

namespace Vanet.Geonet

open Vanet.Common Vanet.Library Vanet.Security
open Vanet.Net hiding ByteBuffer
open Router

/-! ### The ledger -/

/-- Why a packet leaves: its callback transmits it, a duplicate removes it, it is fetched, it is
dropped at the head of a full buffer, or its lifetime is over. The callback of a packet that advanced
forwarding has transmitted before is silent, and an exception in one callback interrupts the next ones. -/
inductive Cause
  | transmitted
  | silent
  | interrupted
  | suppressed
  | fetched
  | dropped
  | outlived
  deriving DecidableEq

/-- The packet was taken out for its callback. -/
def Cause.called : Cause → Bool
  | transmitted | silent | interrupted => true
  | _ => false

/-- `expiry` is that of the timer that the packet had, and `handed` what the access layer got for it. -/
structure Departure where
  cause : Cause
  expiry : ℤ
  time : ℤ
  handed : Option Event

/-- **The record of a packet that was put into the buffer**, by its number. -/
structure Contention where
  ref : ℕ
  id : PacketIdentifier
  overheard : Bool
  departures : List Departure

/-- The timer of a packet, while it is buffered. -/
def CbfPacketBuffer.timerOf {φ : Type} (buffer : CbfPacketBuffer φ) (ref : ℕ) : Option TimerNode :=
  buffer.timers.find? fun entry => entry.info = ref

/-- The identifier of a packet that was heard and is handed to contention-based forwarding. -/
def Call.overhears : Call → Option PacketIdentifier
  | area packet (some _) => some packet.pdu.extended.identifier
  | nonArea packet (some _) => some packet.pdu.extended.identifier
  | _ => none

/-- Why a packet leaves when another one is handled, given its timer. -/
def Router.displaces (router : Router) (packet : PendingPacketForwarding) (entry : TimerNode) :
    Option Cause :=
  if entry.id = packet.pdu.extended.identifier then some .suppressed
  else if router.cbfBuffer.capacityBytes < router.cbfBuffer.storedBytes + packet.length then
    some .dropped
  else none

/-- What the access layer got for a packet: the callbacks hand over one packet after the other. -/
def Call.handed (before after : Router) (entry : TimerNode) : Call → Option Event
  | flush queue =>
    let packets := speaking ((before.invoked queue).cbf.flush flushTimer).1
    let events := after.trace.drop before.trace.length
    ((packets.zip events).find? fun sent => sent.1.pdu.extended.identifier = entry.id).map Prod.snd
  | _ => none

/-- Why a packet leaves when its timer has expired. -/
def Router.serves (router : Router) (entry : TimerNode) (handed : Option Event) : Cause :=
  match router.cbf.served entry with
  | none => .outlived
  | some packet =>
    if packet.action.transmit.speaks then
      if handed.isSome then .transmitted else .interrupted
    else .silent

/-- Why a packet leaves in a call. -/
def Call.cause (before after : Router) (entry : TimerNode) (call : Call) : Option Cause :=
  match call with
  | .area packet _ => before.displaces packet entry
  | .nonArea packet _ => before.displaces packet entry
  | .advanced packet _ => before.displaces packet entry
  | .fetch _ => some (if (before.cbf.served entry).isSome then .fetched else .outlived)
  | .flush _ => some (before.serves entry (call.handed before after entry))
  | .others _ _ => none

/-- What a call writes into a record. -/
def Contention.proceed (before after : Router) (call : Call) (record : Contention) : Contention :=
  match before.cbfBuffer.timerOf record.ref with
  | none => record
  | some entry =>
    { record with
      overheard := record.overheard || call.overhears = some record.id
      departures :=
        if (after.cbfBuffer.timerOf record.ref).isSome then record.departures
        else record.departures ++ (call.cause before after entry).toList.map fun cause =>
          ⟨cause, entry.timer.expiry, before.now, call.handed before after entry⟩ }

/-- The records of packets that have entered. -/
def entering (before after : Router) : List Contention :=
  (after.cbfBuffer.timers.filter fun entry =>
    (before.cbfBuffer.timerOf entry.info).isNone).map fun entry => ⟨entry.info, entry.id, false, []⟩

/-- **A router and its ledger.** -/
structure Observed where
  router : Router
  ledger : List Contention

def Observed.step (platform : Platform) (state : Observed) (call : Environment × Call) :
    Option Observed :=
  (Call.step platform state.router call).map fun after =>
    ⟨after, state.ledger.map (Contention.proceed state.router after call.2) ++
      entering state.router after⟩

def Observed.Initial (platform : Platform) (state : Observed) : Prop :=
  Router.Created platform state.router ∧ state.ledger = []

/-! ### Calls -/

/-- The packet of the timer is no longer in the buffer. -/
def Gone (entry : TimerNode) (after : Router) : Prop :=
  ∀ other ∈ after.cbfBuffer.timers, other.info ≠ entry.info

/-- The transmission of a packet with this identifier, by this router or as it was before. -/
def Event.Carries (id : PacketIdentifier) (event : Event) : Prop :=
  ∃ router packet, packet.pdu.extended.identifier = id ∧ event.Transmits router packet

/-- **A departure is as its cause says**: a packet is taken out for its callback when its timer has
expired, and what is transmitted has been handed over. -/
structure Departure.Tells (departure : Departure) (id : PacketIdentifier) : Prop where
  late : departure.cause.called = true → departure.expiry ≤ departure.time
  transmitted : departure.cause = .transmitted →
    ∃ event, departure.handed = some event ∧ event.Carries id

/-- **What a call does to the packets of the buffer.** -/
structure Call.Does (before after : Router) (throws : Bool) (call : Call) : Prop where
  sound : after.cbf.Sound flushTimer
  bound : after.Bound
  evolves : before.cbfBuffer.Evolves after.cbfBuffer
  suppresses : ∀ entry ∈ before.cbfBuffer.timers, call.overhears = some entry.id → Gone entry after
  departs : ∀ entry ∈ before.cbfBuffer.timers, Gone entry after → ∃ cause,
    call.cause before after entry = some cause ∧
      Departure.Tells ⟨cause, entry.timer.expiry, before.now, call.handed before after entry⟩ entry.id ∧
      (cause = .interrupted → throws = true) ∧
      (call.overhears = some entry.id → cause = .suppressed)

section Calls

variable {platform : Platform} {env : Environment} {before after : Router} {call : Call} {throws : Bool}

/-- A departure without a callback. -/
theorem Departure.Tells.uncalled {departure : Departure} (uncalled : departure.cause.called = false)
    (id : PacketIdentifier) : departure.Tells id where
  late called := absurd (uncalled.symm.trans called) Bool.false_ne_true
  transmitted transmits := by
    rw [transmits] at uncalled
    cases uncalled

/-- A call that leaves the buffer alone. -/
theorem Call.Does.unchanged (sound : after.cbf.Sound flushTimer) (bound : before.Bound)
    (same : after.cbfBuffer = before.cbfBuffer) (quiet : call.overhears = none) :
    Call.Does before after throws call := by
  have kept : after.Bound := by
    unfold Router.Bound
    rw [same]
    exact bound
  refine ⟨sound, kept, ?_, ?_, ?_⟩
  · rw [same]
    exact .sublist rfl (List.Sublist.refl _)
  · intro entry _ heard
    rw [quiet] at heard
    cases heard
  · intro entry member gone
    unfold Gone at gone
    rw [same] at gone
    exact absurd rfl (gone entry member)

/-- A call that handles a packet. -/
theorem Call.Does.handled (sound : before.cbf.Sound flushTimer) (bound : after.Bound)
    {packet : PendingPacketForwarding}
    (handling : Cbf.Handling flushTimer before.cbf packet.pdu.extended.identifier packet.length
      after.cbf)
    (causes : ∀ entry, call.cause before after entry = before.displaces packet entry)
    (heard : ∀ id, call.overhears = some id → id = packet.pdu.extended.identifier ∧
      ((before.cbf.buffer.find id).isSome = true → after.cbf = (before.cbf.remove flushTimer id).2)) :
    Call.Does before after throws call := by
  obtain ⟨next, evolves⟩ := handling.spec sound
  refine ⟨next, bound, evolves, ?_, ?_⟩
  · intro entry member overheard other present same
    obtain ⟨_, removes⟩ := heard _ overheard
    have contends := sound.consistent.find_isSome member
    obtain ⟨_, _, removed⟩ := Cbf.remove_spec sound entry.id
    have apart : other.id ≠ entry.id := removed contends other (removes contends ▸ present)
    rcases evolves.links other present with ⟨old, kept, linked⟩ | fresh
    · have infos : old.info = entry.info := (congrArg Prod.fst linked).trans same
      rw [List.inj_on_of_nodup_map sound.consistent.timer_infos kept member infos] at linked
      exact apart (congrArg Prod.snd linked).symm
    · have used : entry.info < before.cbfBuffer.nextRef := sound.consistent.timer_used member
      have fresh : before.cbfBuffer.nextRef ≤ other.info := fresh
      omega
  · intro entry member gone
    rw [causes]
    unfold Router.displaces
    rcases handling.leaves sound member gone with copy | full
    · rw [if_pos copy]
      exact ⟨_, rfl, .uncalled rfl _, nofun, fun _ => rfl⟩
    · by_cases copy : entry.id = packet.pdu.extended.identifier
      · rw [if_pos copy]
        exact ⟨_, rfl, .uncalled rfl _, nofun, fun _ => rfl⟩
      · have full : before.cbfBuffer.capacityBytes <
            before.cbfBuffer.storedBytes + packet.length := full
        rw [if_neg copy, if_pos full]
        exact ⟨_, rfl, .uncalled rfl _, nofun, fun overheard => absurd (heard _ overheard).1 copy⟩

theorem area_does (sound : before.cbf.Sound flushTimer) (bound : before.Bound)
    (packet : PendingPacketForwarding) (sender : Option MacAddress) :
    Call.Does before (areaContentionBasedForwarding platform env packet sender before).2 throws
      (.area packet sender) := by
  cases sender with
  | none => exact .unchanged sound bound rfl rfl
  | some sender =>
    refine .handled sound ((conveys_bound.areaContention trivial _).bound bound)
      (area_handling platform env before packet sender) (fun _ => rfl) ?_
    intro id heard
    cases heard
    refine ⟨rfl, fun contends => ?_⟩
    rw [area_suppresses platform env before packet sender contends]
    rfl

theorem nonArea_does (sound : before.cbf.Sound flushTimer) (bound : before.Bound)
    (packet : PendingPacketForwarding) (sender : Option MacAddress) :
    Call.Does before (nonAreaContentionBasedForwarding platform env packet sender before).2 throws
      (.nonArea packet sender) := by
  cases sender with
  | none => exact .unchanged sound bound rfl rfl
  | some sender =>
    refine .handled sound ((conveys_bound.nonAreaContention trivial _).bound bound)
      (nonArea_handling platform env before packet sender) (fun _ => rfl) ?_
    intro id heard
    cases heard
    refine ⟨rfl, fun contends => ?_⟩
    rw [nonArea_suppresses platform env before packet sender contends]
    rfl

theorem advanced_does (sound : before.cbf.Sound flushTimer) (bound : before.Bound)
    (packet : PendingPacketForwarding) (ll : Option LinkLayer) :
    Call.Does before (areaAdvancedForwarding platform env packet ll before).2 throws
      (.advanced packet ll) := by
  cases ll with
  | none => exact .unchanged sound bound rfl rfl
  | some ll =>
    exact .handled sound ((conveys_bound.areaAdvanced trivial _).bound bound)
      (advanced_handling platform env before packet ll) (fun _ => rfl) nofun

theorem fetch_does (sound : before.cbf.Sound flushTimer) (bound : before.Bound) (id : PacketIdentifier) :
    Call.Does before (before.withCbf (before.cbf.fetch flushTimer id).2) throws (.fetch id) := by
  obtain ⟨next, evolves⟩ := Cbf.fetch_spec sound id
  refine ⟨next, Cbf.fetch_holds ages_bound bound id, evolves, nofun, fun entry _ _ => ⟨_, rfl, ?_⟩⟩
  split_ifs
  · exact ⟨.uncalled rfl _, nofun, nofun⟩
  · exact ⟨.uncalled rfl _, nofun, nofun⟩

/-! ### The callback -/

/-- What the callback gets for a packet has its identifier. -/
theorem served_identifier {router : Router} {entry : TimerNode} {packet : PendingPacketGbc}
    (consistent : router.cbfBuffer.Consistent) (member : entry ∈ router.cbfBuffer.timers)
    (served : router.cbf.served entry = some packet) :
    packet.pdu.extended.identifier = entry.id := by
  obtain ⟨first, node, rest, held⟩ := consistent.held member
  obtain ⟨cbf, found, alive⟩ := Option.bind_eq_some_iff.mp served
  obtain rfl := Option.some.inj (held.deref.symm.trans found)
  dsimp only at alive
  split_ifs at alive
  cases alive
  exact (CbfPacket.reduceLifetime_identifier _ _).trans held.id

section Handed

variable {packets transmitted : List PendingPacketGbc} {ended : Except RouterFault Unit × Router}
  {events : List Event} {id : PacketIdentifier}

/-- **What is found for a packet** is its transmission. -/
theorem handed_carries (hands : Hands before packets ended transmitted events)
    {sent : PendingPacketGbc × Event}
    (found : ((speaking packets).zip events).find? (fun sent => sent.1.pdu.extended.identifier = id) =
      some sent) : sent.2.Carries id := by
  obtain ⟨rest, split⟩ := hands.order
  have zipped : (speaking packets).zip events = transmitted.zip events := by
    have zipped : (transmitted ++ rest).zip (events ++ []) = transmitted.zip events ++ rest.zip [] :=
      List.zip_append hands.each.length_eq
    rw [split, List.append_nil, List.zip_nil_right, List.append_nil] at zipped
    exact zipped
  have same := of_decide_eq_true
    (List.find?_some (p := fun sent : PendingPacketGbc × Event => sent.1.pdu.extended.identifier = id) found)
  have member := List.mem_of_find?_eq_some found
  rw [zipped] at member
  exact ⟨before, sent.1, same, (List.forall₂_iff_zip.mp hands.each).2 member⟩

/-- **Something is found for every packet** that is not silent, unless an exception is thrown. -/
theorem handed_found (hands : Hands before packets ended transmitted events) (returned : ended.1 = .ok ())
    {packet : PendingPacketGbc} (member : packet ∈ packets)
    (speaks : packet.action.transmit.speaks = true) (same : packet.pdu.extended.identifier = id) :
    (((speaking packets).zip events).find? fun sent => sent.1.pdu.extended.identifier = id).isSome = true := by
  have lengths := hands.each.length_eq
  rw [hands.all returned] at lengths
  have among : packet ∈ speaking packets := List.mem_filter.mpr ⟨member, speaks⟩
  rw [← List.map_fst_zip lengths.le] at among
  obtain ⟨sent, zipped, rfl⟩ := List.mem_map.mp among
  exact List.find?_isSome.mpr ⟨sent, zipped, decide_eq_true same⟩

end Handed

/-- **A packet whose timer has expired.** -/
theorem serves_tells {router : Router} {entry : TimerNode} {handed : Option Event}
    (late : entry.timer.expiry ≤ router.now)
    (carries : ∀ event, handed = some event → event.Carries entry.id)
    (finds : ∀ packet, router.cbf.served entry = some packet → packet.action.transmit.speaks = true →
      throws = false → handed.isSome = true) :
    Departure.Tells ⟨router.serves entry handed, entry.timer.expiry, router.now, handed⟩ entry.id ∧
      (router.serves entry handed = .interrupted → throws = true) := by
  unfold Router.serves
  cases given : router.cbf.served entry with
  | none => exact ⟨.uncalled rfl _, nofun⟩
  | some packet =>
    dsimp only
    by_cases speaks : packet.action.transmit.speaks = true
    · rw [if_pos speaks]
      cases handed with
      | some event => exact ⟨⟨fun _ => late, fun _ => ⟨event, rfl, carries event rfl⟩⟩, nofun⟩
      | none =>
        refine ⟨⟨fun _ => late, nofun⟩, fun _ => ?_⟩
        by_contra returns
        exact Bool.false_ne_true (finds packet given speaks (Bool.eq_false_iff.mpr returns))
    · rw [if_neg speaks]
      exact ⟨⟨fun _ => late, nofun⟩, nofun⟩

theorem returned_of_not_throws {queue : List (ScheduledCallback RouterCallback RouterScope)}
    (returns : Call.throws platform before (env, .flush queue) = false) :
    (flushCbfBuffer platform env (before.invoked queue)).1 = .ok () := by
  unfold Call.throws at returns
  dsimp only at returns
  split at returns
  · assumption
  · cases returns

/-- **The callback of the buffer.** -/
theorem flush_does (sound : before.cbf.Sound flushTimer) (bound : before.Bound)
    (queue : List (ScheduledCallback RouterCallback RouterScope)) :
    Call.Does before (flushCbfBuffer platform env (before.invoked queue)).2
      (Call.throws platform before (env, .flush queue)) (.flush queue) := by
  obtain ⟨next, evolves, served, remaining⟩ :=
    @Cbf.flush_spec _ _ _ _ flushTimer (before.invoked queue).cbf sound.consistent sound.ordered
  have waiting : (before.invoked queue).Bound := bound
  obtain ⟨transmitted, events, hands⟩ := @flushCbfBuffer_hands platform env _ waiting
  have told : (flushCbfBuffer platform env (before.invoked queue)).2.trace.drop before.trace.length =
      events := by
    rw [hands.after]
    exact List.drop_left
  have left : (flushCbfBuffer platform env (before.invoked queue)).2.cbf =
      ((before.invoked queue).cbf.flush flushTimer).2 := by
    rw [hands.after]
    rfl
  have buffer : (flushCbfBuffer platform env (before.invoked queue)).2.cbfBuffer =
      ((before.invoked queue).cbf.flush flushTimer).2.buffer := congrArg Cbf.buffer left
  refine ⟨left ▸ next, ?_, buffer ▸ evolves, nofun, fun entry member gone => ?_⟩
  · unfold Router.Bound
    rw [buffer]
    exact (Cbf.flush_holds ages_bound waiting).2
  have late : entry.timer.expiry ≤ before.now := by
    by_contra early
    have kept := (remaining entry).mpr ⟨member, not_le.mp early⟩
    rw [← buffer] at kept
    exact gone entry kept rfl
  have handed : (Call.flush queue).handed before
      (flushCbfBuffer platform env (before.invoked queue)).2 entry =
        (((speaking ((before.invoked queue).cbf.flush flushTimer).1).zip events).find? fun sent =>
          sent.1.pdu.extended.identifier = entry.id).map Prod.snd := by
    unfold Call.handed
    dsimp only
    rw [told]
  have carries : ∀ event, (Call.flush queue).handed before
      (flushCbfBuffer platform env (before.invoked queue)).2 entry = some event →
        event.Carries entry.id := by
    intro event found
    rw [handed] at found
    obtain ⟨sent, among, rfl⟩ := Option.map_eq_some_iff.mp found
    exact handed_carries hands among
  have finds : ∀ packet, before.cbf.served entry = some packet →
      packet.action.transmit.speaks = true → Call.throws platform before (env, .flush queue) = false →
        ((Call.flush queue).handed before
          (flushCbfBuffer platform env (before.invoked queue)).2 entry).isSome = true := by
    intro packet given speaks returns
    have expired := (Cbf.mem_takeWhile_expired before.now sound.ordered.sorted entry).mpr ⟨member, late⟩
    have flushed : packet ∈ ((before.invoked queue).cbf.flush flushTimer).1 := by
      rw [served]
      exact List.mem_filterMap.mpr ⟨entry, expired, given⟩
    rw [handed, Option.isSome_map]
    exact handed_found hands (returned_of_not_throws returns) flushed speaks
      (served_identifier sound.consistent member given)
  obtain ⟨tells, interrupts⟩ := serves_tells late carries finds
  exact ⟨_, rfl, tells, interrupts, nofun⟩

/-- Whether a flush is scheduled. -/
theorem scheduled_iff (router : Router) :
    Cbf.Scheduled flushTimer router.cbf.runtime ↔ router.flushes ≠ [] := by
  unfold Cbf.Scheduled Router.flushes
  rw [Ne, List.filter_eq_nil_iff]
  constructor
  · rintro ⟨item, queued, callback, scope⟩ none
    exact none item queued (decide_eq_true ⟨callback, scope⟩)
  · intro some
    by_contra none
    refine some fun item queued ours => none ⟨item, queued, ?_⟩
    exact of_decide_eq_true ours

theorem others_does (sound : before.cbf.Sound flushTimer) (bound : before.Bound) {other : Router}
    {elapsed : ℤ} (flushes : other.flushes = before.flushes) :
    Call.Does before (before.replacedBy other elapsed) throws (.others other elapsed) := by
  refine .unchanged ⟨sound.consistent, sound.ordered, fun held => ?_⟩ bound rfl rfl
  rw [scheduled_iff]
  have scheduled := (scheduled_iff before).mp (sound.scheduled held)
  rw [← flushes] at scheduled
  exact scheduled

/-- **Every call.** -/
theorem Call.does (sound : before.cbf.Sound flushTimer) (bound : before.Bound)
    (taken : Call.step platform before (env, call) = some after) :
    Call.Does before after (Call.throws platform before (env, call)) call := by
  cases call with
  | area packet sender =>
    cases taken
    exact area_does sound bound packet sender
  | nonArea packet sender =>
    cases taken
    exact nonArea_does sound bound packet sender
  | advanced packet ll =>
    cases taken
    exact advanced_does sound bound packet ll
  | fetch id =>
    cases taken
    exact fetch_does sound bound id
  | flush queue =>
    cases taken
    exact flush_does sound bound queue
  | others other elapsed =>
    unfold Call.step at taken
    dsimp only at taken
    split_ifs at taken with besides
    cases taken
    exact others_does sound bound besides.2

end Calls

/-! ### Accounts -/

/-- **A record agrees with the buffer.** The packet contends and nothing has happened to it, or it has
departed, once. -/
def Contention.Settled (router : Router) (record : Contention) : Prop :=
  match router.cbfBuffer.timerOf record.ref with
  | some entry => entry.id = record.id ∧ record.overheard = false ∧ record.departures = []
  | none => ∃ departure, record.departures = [departure] ∧ departure.Tells record.id ∧
      (record.overheard = true → departure.cause = .suppressed)

/-- **The ledger agrees with the buffer.** -/
structure Accounts (state : Observed) : Prop where
  sound : state.router.cbf.Sound flushTimer
  bound : state.router.Bound
  refs : (state.ledger.map Contention.ref).Nodup
  used : ∀ record ∈ state.ledger, record.ref < state.router.cbfBuffer.nextRef
  recorded : ∀ entry ∈ state.router.cbfBuffer.timers,
    ∃ record ∈ state.ledger, record.ref = entry.info
  settled : ∀ record ∈ state.ledger, record.Settled state.router

namespace CbfPacketBuffer

variable {φ : Type} {buffer : CbfPacketBuffer φ} {ref : ℕ} {entry : TimerNode}

theorem timerOf_some (found : buffer.timerOf ref = some entry) :
    entry ∈ buffer.timers ∧ entry.info = ref :=
  ⟨List.mem_of_find?_eq_some found, of_decide_eq_true
    (List.find?_some (p := fun entry : TimerNode => decide (entry.info = ref)) found)⟩

theorem timerOf_none : buffer.timerOf ref = none ↔ ∀ entry ∈ buffer.timers, entry.info ≠ ref := by
  unfold timerOf
  rw [List.find?_eq_none]
  simp only [decide_eq_true_eq]

theorem timerOf_member (consistent : buffer.Consistent) (member : entry ∈ buffer.timers) :
    buffer.timerOf entry.info = some entry := by
  cases found : buffer.timerOf entry.info with
  | none => exact absurd rfl (timerOf_none.mp found entry member)
  | some other =>
    obtain ⟨present, same⟩ := timerOf_some found
    rw [List.inj_on_of_nodup_map consistent.timer_infos present member same]

/-- A packet does not come back. -/
theorem Evolves.gone {before after : CbfPacketBuffer φ} (evolves : before.Evolves after)
    (used : ref < before.nextRef) (gone : before.timerOf ref = none) :
    after.timerOf ref = none := by
  rw [timerOf_none] at gone ⊢
  intro entry member same
  rcases evolves.links entry member with ⟨old, kept, linked⟩ | fresh
  · exact gone old kept ((congrArg Prod.fst linked).trans same)
  · omega

end CbfPacketBuffer

section Steps

variable {platform : Platform} {env : Environment} {before after : Router} {call : Call}
  {record : Contention} {throws : Bool}

open CbfPacketBuffer

/-- **A record in one call.** -/
theorem Contention.Settled.proceed (settled : record.Settled before)
    (consistent : before.cbfBuffer.Consistent) (does : Call.Does before after throws call)
    (used : record.ref < before.cbfBuffer.nextRef) :
    (record.proceed before after call).Settled after := by
  unfold Contention.Settled at settled
  unfold Contention.proceed
  cases found : before.cbfBuffer.timerOf record.ref with
  | none =>
    rw [found] at settled
    unfold Contention.Settled
    dsimp only
    rw [does.evolves.gone used found]
    exact settled
  | some entry =>
    rw [found] at settled
    obtain ⟨same, quiet, contends⟩ := settled
    obtain ⟨member, ref⟩ := timerOf_some found
    unfold Contention.Settled
    dsimp only
    cases still : after.cbfBuffer.timerOf record.ref with
    | some other =>
      obtain ⟨present, otherRef⟩ := timerOf_some still
      have infos : other.info = entry.info := otherRef.trans ref.symm
      have link : other.id = entry.id := by
        rcases does.evolves.links other present with ⟨old, kept, linked⟩ | fresh
        · have one : old.info = entry.info := (congrArg Prod.fst linked).trans infos
          rw [List.inj_on_of_nodup_map consistent.timer_infos kept member one] at linked
          exact (congrArg Prod.snd linked).symm
        · omega
      refine ⟨link.trans same, ?_, contends⟩
      rw [quiet, Bool.false_or]
      refine decide_eq_false fun overheard => ?_
      rw [← same] at overheard
      exact does.suppresses entry member overheard other present infos
    | none =>
      have gone : Gone entry after := by
        rw [← ref] at still
        exact timerOf_none.mp still
      obtain ⟨cause, caused, tells, -, heard⟩ := does.departs entry member gone
      refine ⟨⟨cause, entry.timer.expiry, before.now, call.handed before after entry⟩, ?_,
        same ▸ tells, ?_⟩
      · rw [caused, contends]
        rfl
      · intro overheard
        rw [quiet, Bool.false_or] at overheard
        rw [← same] at overheard
        exact heard (of_decide_eq_true overheard)

theorem Contention.proceed_ref : (record.proceed before after call).ref = record.ref := by
  unfold Contention.proceed
  split <;> rfl

/-- What has entered is new. -/
theorem entering_fresh (consistent : before.cbfBuffer.Consistent)
    (evolves : before.cbfBuffer.Evolves after.cbfBuffer) (member : record ∈ entering before after) :
    before.cbfBuffer.nextRef ≤ record.ref := by
  obtain ⟨entry, among, rfl⟩ := List.mem_map.mp member
  obtain ⟨present, new⟩ := List.mem_filter.mp among
  rcases evolves.links entry present with ⟨old, kept, linked⟩ | fresh
  · have infos : old.info = entry.info := congrArg Prod.fst linked
    rw [← infos, timerOf_member consistent kept] at new
    cases new
  · exact fresh

/-- **One step** keeps the accounts. -/
theorem Accounts.step {state next : Observed} (accounts : Accounts state)
    (taken : Observed.step platform state (env, call) = some next) : Accounts next := by
  obtain ⟨after, called, rfl⟩ := Option.map_eq_some_iff.mp taken
  have does := Call.does accounts.sound accounts.bound called
  have consistent := accounts.sound.consistent
  have nextConsistent : after.cbfBuffer.Consistent := does.sound.consistent
  have fresh : ∀ record ∈ entering state.router after, state.router.cbfBuffer.nextRef ≤ record.ref :=
    fun record member => entering_fresh consistent does.evolves member
  have refs : (state.ledger.map (Contention.proceed state.router after call)).map Contention.ref =
      state.ledger.map Contention.ref := by
    rw [List.map_map]
    exact List.map_congr_left fun record _ => record.proceed_ref
  refine ⟨does.sound, does.bound, ?_, ?_, ?_, ?_⟩
  · have entered : ((entering state.router after).map Contention.ref).Nodup := by
      unfold entering
      rw [List.map_map]
      exact nextConsistent.timer_infos.sublist (List.filter_sublist.map TimerNode.info)
    rw [List.map_append, refs]
    refine List.nodup_append.mpr ⟨accounts.refs, entered, ?_⟩
    intro ref old other new
    obtain ⟨record, among, rfl⟩ := List.mem_map.mp old
    obtain ⟨late, later, rfl⟩ := List.mem_map.mp new
    exact Nat.ne_of_lt (lt_of_lt_of_le (accounts.used record among) (fresh late later))
  · intro record member
    rcases List.mem_append.mp member with old | new
    · obtain ⟨earlier, among, rfl⟩ := List.mem_map.mp old
      rw [Contention.proceed_ref]
      exact lt_of_lt_of_le (accounts.used earlier among) does.evolves.next
    · obtain ⟨entry, among, rfl⟩ := List.mem_map.mp new
      exact nextConsistent.timer_used (List.mem_filter.mp among).1
  · intro entry present
    cases found : state.router.cbfBuffer.timerOf entry.info with
    | none =>
      refine ⟨⟨entry.info, entry.id, false, []⟩, List.mem_append_right _ ?_, rfl⟩
      refine List.mem_map.mpr ⟨entry, List.mem_filter.mpr ⟨present, ?_⟩, rfl⟩
      rw [found]
      rfl
    | some old =>
      obtain ⟨member, same⟩ := timerOf_some found
      obtain ⟨record, among, ref⟩ := accounts.recorded old member
      refine ⟨record.proceed state.router after call, List.mem_append_left _ ?_, ?_⟩
      · exact List.mem_map_of_mem among
      · rw [Contention.proceed_ref, ref, same]
  · intro record member
    rcases List.mem_append.mp member with old | new
    · obtain ⟨earlier, among, rfl⟩ := List.mem_map.mp old
      exact (accounts.settled earlier among).proceed consistent does (accounts.used earlier among)
    · obtain ⟨entry, among, rfl⟩ := List.mem_map.mp new
      unfold Contention.Settled
      dsimp only
      rw [timerOf_member nextConsistent (List.mem_filter.mp among).1]
      exact ⟨rfl, rfl, rfl⟩

/-- The contention buffer of a router that has just been constructed. -/
theorem create_cbfBuffer (mib : Mib) (now firstBeacon : ℤ) : ∃ counter bytes, counter.Created ∧
    (Router.create mib now firstBeacon).cbfBuffer = .empty counter bytes := by
  unfold Router.create
  refine ⟨if mib.vanetzaFadingCbfCounter then .fading (.empty mib.vanetzaFadingCbfCounterLifetime)
    else .contending ∅, mib.itsGnCbfPacketBufferSize * 1024, ?_, ?_⟩
  · split_ifs
    · exact .fading _
    · exact .contending
  · cases mib.vanetzaDisableBeaconing <;> cases mib.vanetzaDeferInitialBeacon <;> rfl

/-- Nothing contends in it. -/
theorem create_sound (mib : Mib) (now firstBeacon : ℤ) :
    (Router.create mib now firstBeacon).cbf.Sound flushTimer ∧
      (Router.create mib now firstBeacon).cbfBuffer.timers = [] := by
  obtain ⟨counter, bytes, created, same⟩ := create_cbfBuffer mib now firstBeacon
  have empty : (Router.create mib now firstBeacon).cbfBuffer.timers = [] := by
    rw [same]
    rfl
  refine ⟨⟨?_, ?_, fun held => absurd empty held⟩, empty⟩
  · show (Router.create mib now firstBeacon).cbfBuffer.Consistent
    rw [same]
    exact consistent_empty created bytes
  · show Ordered (Router.create mib now firstBeacon).cbfBuffer.timers
    rw [empty]
    exact ⟨.nil, .nil⟩

theorem create_bound (mib : Mib) (now firstBeacon : ℤ) : (Router.create mib now firstBeacon).Bound := by
  obtain ⟨-, -, contending⟩ := create_buffers mib now firstBeacon
  unfold Router.Bound CbfPacketBuffer.Holds
  rw [contending]
  exact List.forall_mem_nil _

/-- **A run** does. -/
theorem accounts_reachable {state : Observed}
    (reached : Reachable (Observed.Initial platform) (Observed.step platform) state) :
    Accounts state := by
  refine GuardedReach.invariant (I := Accounts) ?_ ?_ state reached
  · rintro ⟨_, _⟩ ⟨⟨now, firstBeacon, rfl⟩, rfl⟩
    obtain ⟨sound, empty⟩ := create_sound platform.mib now firstBeacon
    refine ⟨sound, create_bound _ _ _, .nil, nofun, fun entry member => ?_, nofun⟩
    rw [empty] at member
    cases member
  · rintro before ⟨env, call⟩ after _ accounts _ taken
    exact accounts.step taken

/-- No callback was interrupted. -/
def Uninterrupted (ledger : List Contention) : Prop :=
  ∀ record ∈ ledger, ∀ departure ∈ record.departures, departure.cause ≠ .interrupted

/-- A call that throws no exception interrupts no callback. -/
theorem Uninterrupted.step {state next : Observed} (accounts : Accounts state)
    (uninterrupted : Uninterrupted state.ledger)
    (returns : Call.throws platform state.router (env, call) = false)
    (taken : Observed.step platform state (env, call) = some next) : Uninterrupted next.ledger := by
  obtain ⟨after, called, rfl⟩ := Option.map_eq_some_iff.mp taken
  have does := Call.does accounts.sound accounts.bound called
  intro record member departure among
  rcases List.mem_append.mp member with old | new
  · obtain ⟨earlier, known, rfl⟩ := List.mem_map.mp old
    have before := uninterrupted earlier known
    unfold Contention.proceed at among
    split at among
    · exact before departure among
    · next entry found =>
      obtain ⟨present, same⟩ := timerOf_some found
      dsimp only at among
      split_ifs at among with still
      · exact before departure among
      · rcases List.mem_append.mp among with past | last
        · exact before departure past
        · have gone : Gone entry after := by
            rw [Option.not_isSome_iff_eq_none, ← same] at still
            exact timerOf_none.mp still
          obtain ⟨cause, caused, -, interrupts, -⟩ := does.departs entry present gone
          rw [caused] at last
          obtain rfl := List.mem_singleton.mp last
          exact fun interrupted => Bool.false_ne_true (returns.symm.trans (interrupts interrupted))
  · obtain ⟨entry, -, rfl⟩ := List.mem_map.mp new
    cases among

/-- What a router does is observed. -/
theorem Calls.observed {first later : Router} (created : Router.Created platform first)
    (calls : Calls platform first later) :
    ∃ ledger, Reachable (Observed.Initial platform) (Observed.step platform) ⟨later, ledger⟩ ∧
      Uninterrupted ledger := by
  induction calls with
  | refl => exact ⟨[], .start ⟨created, rfl⟩, List.forall_mem_nil _⟩
  | @tail mid later _ called ih =>
    obtain ⟨ledger, reached, uninterrupted⟩ := ih
    obtain ⟨call, returns, called⟩ := called
    have stepped : Observed.step platform ⟨mid, ledger⟩ call = some ⟨later, _⟩ :=
      Option.map_eq_some_iff.mpr ⟨later, called, rfl⟩
    exact ⟨_, reached.next trivial stepped,
      uninterrupted.step (accounts_reachable reached) returns stepped⟩

end Steps

/-! ### Every run -/

/-- **Contentions are settled once.** In every run of calls the packets in the contention buffer are
those of the records that have no departure, and every other record has one departure. A packet that
its callback transmits has waited until its timer expired, no duplicate was overheard, and its transmission
was handed to the access layer. The callback of the buffer takes out the packets whose timers have expired,
hands those over whose lifetimes are not over, and nothing else; while a packet contends, it is scheduled.
What a station does is such a run, and an exception interrupts a callback only where the station fails. -/
theorem contention_settled (platform : Platform) :
    (∀ state, Reachable (Observed.Initial platform) (Observed.step platform) state →
      (state.ledger.map Contention.ref).Nodup ∧
      (∀ entry ∈ state.router.cbfBuffer.timers, ∃ record ∈ state.ledger, record.ref = entry.info) ∧
      (∀ record ∈ state.ledger, record.Settled state.router) ∧
      (∀ env queue, let flushed := (state.router.invoked queue).cbf.flush flushTimer
        let ended := flushCbfBuffer platform env (state.router.invoked queue)
        flushed.1 = (state.router.cbfBuffer.timers.takeWhile fun entry =>
          entry.timer.expiry ≤ state.router.now).filterMap state.router.cbf.served ∧
        (∀ entry, entry ∈ ended.2.cbfBuffer.timers ↔
          entry ∈ state.router.cbfBuffer.timers ∧ state.router.now < entry.timer.expiry) ∧
        ∃ transmitted events,
          Hands ((state.router.invoked queue).withCbf flushed.2) flushed.1 ended transmitted events) ∧
      (state.router.cbfBuffer.timers ≠ [] → state.router.flushes ≠ [])) ∧
    ∀ station, Reachable (Station.Initial platform) (Station.step platform) station →
      ∃ ledger, Reachable (Observed.Initial platform) (Observed.step platform)
        ⟨station.router, ledger⟩ ∧ (station.failed = false → Uninterrupted ledger) := by
  constructor
  · intro state reached
    have accounts := accounts_reachable reached
    refine ⟨accounts.refs, accounts.recorded, accounts.settled, fun env queue => ?_, fun held => ?_⟩
    · obtain ⟨_, _, served, remaining⟩ :=
        @Cbf.flush_spec _ _ _ _ flushTimer (state.router.invoked queue).cbf
          accounts.sound.consistent accounts.sound.ordered
      have waiting : (state.router.invoked queue).Bound := accounts.bound
      obtain ⟨transmitted, events, hands⟩ := @flushCbfBuffer_hands platform env _ waiting
      refine ⟨served, fun entry => ?_, transmitted, events, hands⟩
      rw [hands.after]
      exact remaining entry
    · exact (scheduled_iff state.router).mp (accounts.sound.scheduled held)
  · intro station reached
    obtain ⟨first, created, mid, calls, ended⟩ := Station.calls_of_reachable reached
    obtain ⟨ledger, begun, uninterrupted⟩ := Calls.observed created calls
    rcases ended with rfl | ⟨failed, call, called⟩
    · exact ⟨ledger, begun, fun _ => uninterrupted⟩
    · have stepped : Observed.step platform ⟨mid, ledger⟩ call = some ⟨station.router, _⟩ :=
        Option.map_eq_some_iff.mpr ⟨station.router, called, rfl⟩
      refine ⟨_, begun.next trivial stepped, fun alive => ?_⟩
      rw [failed] at alive
      cases alive

section Overheard

/-- Two stations at one place, whose packets contend. -/
def crowded : Platform where
  mib := { Mib.initial with vanetzaDisableBeaconing := true }
  geometry := flatland

/-- A broadcast that has been received from a neighbour and lives for a second. -/
def rumour (sn : SequenceNumber) : PendingPacketForwarding where
  pdu :=
    { basic := ⟨1, .common, 0, ⟨5⟩, 1⟩
      common := ⟨.btpB, 0, .geoBroadcastCircle, ⟨0⟩, 0, 0, 10, 0⟩
      extended := ⟨sn, 0, .zero, 0, 0, 100, 0, 0, 0⟩
      secured := none }
  payload := .empty
  action := .forward 0

/-- Time passes until the broadcasts' timers expire. -/
def untilExpiry : Call :=
  .others
    { Router.create crowded.mib 0 0 with
      runtime := ⟨0, [⟨100000, .flushCbfBuffer, some .cbfPacketBuffer⟩]⟩ } 100000

/-- The first broadcast is overheard, the second one is transmitted. -/
def rumours : List (Environment × Call) :=
  [(insecure, .area (rumour 1) (some cBroadcastMacAddress)),
    (insecure, .area (rumour 2) (some cBroadcastMacAddress)),
    (insecure, .area (rumour 1) (some cBroadcastMacAddress)),
    (insecure, untilExpiry), (insecure, .flush [])]

/-- What a ledger tells of a packet: whether it was overheard, its departures with their times, and whether
anything was handed over. -/
def Contention.outline (record : Contention) : Bool × List (Cause × ℤ × Bool) :=
  (record.overheard, record.departures.map fun departure =>
    (departure.cause, departure.time, departure.handed.isSome))

theorem contention_settled_rumours : ∃ state : Observed,
    state.ledger.map Contention.outline =
      [(true, [(.suppressed, 0, false)]), (false, [(.transmitted, 100000, true)])] ∧
    ∀ record ∈ state.ledger, record.Settled state.router := by
  have created : Observed.Initial crowded ⟨.create crowded.mib 0 0, []⟩ := ⟨⟨0, 0, rfl⟩, rfl⟩
  obtain ⟨state, reached, ledger⟩ := run_reach (Observed.Initial crowded) (Observed.step crowded)
    (fun _ _ => True) (fun state => state.ledger.map Contention.outline =
      [(true, [(.suppressed, 0, false)]), (false, [(.transmitted, 100000, true)])])
    created rumours (by decide +kernel)
  exact ⟨state, ledger, ((contention_settled crowded).1 state reached).2.2.1⟩

end Overheard

end Vanet.Geonet
