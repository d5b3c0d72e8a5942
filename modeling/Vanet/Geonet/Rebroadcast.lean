/-
**How often a packet is broadcast again.**

A fading counter is raised when a packet enters the contention buffer and when its timer is renewed.
Contention-based forwarding in the area asks it before a packet enters; advanced forwarding asks it
about a packet that contends, and not before a packet enters.

* `Counted`: what raising the counter does, and what it leaves alone.
* `area_counts`, `nonArea_counts`, `advanced_counts`: what a copy of the packet does.
* `rebroadcast_bounded`: as long as copies that do not contend find the counter below the maximum, and
  are not addressed to the router, they are not broadcast again more often than the maximum allows.
* `rebroadcast_exceeds`: a copy that comes after the packet's contention is not asked for the counter.
-/

import Vanet.Geonet.CbfContents
import Vanet.Geonet.ContentionLedger
import Vanet.Geonet.SoftState

namespace Vanet.Geonet

open Vanet.Common Vanet.Library Vanet.Security
open Vanet.Net hiding ByteBuffer
open Router

/-! ### Fading counters -/

/-- The counters of packets. -/
abbrev FadingCounters := SoftStateMap PacketIdentifier ℕ

namespace FadingCounters

variable {counters after : FadingCounters} {now : ℤ} {id : PacketIdentifier}

/-- **The counter of a packet has been raised**, and no other one. -/
structure Counted (now : ℤ) (id : PacketIdentifier) (before after : FadingCounters) : Prop where
  formed : after.WellFormed
  raised : ∀ value, after.getValuePtr now id = some value →
    (before.getValuePtr now id).getD 0 < value
  others : ∀ other, other ≠ id → after.getValuePtr now other = before.getValuePtr now other

/-- The value of a counter, whether it has faded or not. -/
theorem getValuePtr_le (formed : counters.WellFormed) :
    (counters.getValuePtr now id).getD 0 ≤ ((counters.view id).map Prod.fst).getD 0 := by
  rw [SoftStateMap.getValuePtr_eq formed]
  cases counters.view id with
  | none => exact le_rfl
  | some entry =>
    obtain ⟨value, expiry⟩ := entry
    rw [SoftStateMap.alive_some]
    split_ifs
    · exact Nat.zero_le _
    · exact le_rfl

/-- A counter that is raised from what `refresh` or `get_value` makes of it. -/
theorem counted_of_view (formed : counters.WellFormed) (formedAfter : after.WellFormed)
    (entry : ℕ × ℤ) (kept : ((counters.view id).map Prod.fst).getD 0 ≤ entry.1)
    (views : ∀ other, SoftStateMap.alive now (after.view other) = SoftStateMap.alive now
      (Function.update counters.view id (some (entry.1 + 1, entry.2)) other)) :
    Counted now id counters after := by
  refine ⟨formedAfter, ?_, ?_⟩
  · intro live found
    rw [SoftStateMap.getValuePtr_eq formedAfter, views, Function.update_self,
      SoftStateMap.alive_some] at found
    have least : (counters.getValuePtr now id).getD 0 ≤ entry.1 :=
      (getValuePtr_le formed).trans kept
    split_ifs at found
    · cases found
    · obtain rfl := Option.some.inj found
      exact Nat.lt_succ_of_le least
  · intro other apart
    rw [SoftStateMap.getValuePtr_eq formedAfter, SoftStateMap.getValuePtr_eq formed, views,
      Function.update_of_ne apart]

/-- The counter of a packet that enters. -/
theorem counted_add (formed : counters.WellFormed) :
    Counted now id counters
      ((((counters.refresh (fun _ => 0) now id).2).modify id (· + 1)).dropExpired now) := by
  obtain ⟨refreshedFormed, _, _, refreshed⟩ := counters.refresh_spec (fun _ => 0) now id formed
  obtain ⟨modifiedFormed, modified⟩ := SoftStateMap.modify_spec id refreshedFormed (· + 1)
  obtain ⟨droppedFormed, _, dropped⟩ := SoftStateMap.dropExpired_spec now modifiedFormed
  have kept : ((counters.view id).map Prod.fst).getD 0 ≤
      (SoftStateMap.refreshed (fun _ => 0) now counters.lifetime (counters.view id)).1 := by
    cases counters.view id <;> exact le_rfl
  refine counted_of_view formed droppedFormed _ kept fun other => ?_
  rw [dropped, ← alive_again, modified, refreshed, Function.update_self,
    Function.update_idem]
  rfl

/-- The counter of a packet whose timer is renewed. -/
theorem counted_increment (formed : counters.WellFormed) :
    Counted now id counters
      (((counters.getValue (fun _ => 0) now id).2).modify id (· + 1)) := by
  obtain ⟨gottenFormed, _, _, gotten⟩ := counters.getValue_spec (fun _ => 0) now id formed
  obtain ⟨modifiedFormed, modified⟩ := SoftStateMap.modify_spec id gottenFormed (· + 1)
  have kept : ((counters.view id).map Prod.fst).getD 0 ≤
      (SoftStateMap.accessed (fun _ => 0) now counters.lifetime (counters.view id)).1 := by
    cases counters.view id with
    | none => exact le_rfl
    | some entry =>
      unfold SoftStateMap.accessed
      dsimp only
      split_ifs <;> exact le_rfl
  refine counted_of_view formed modifiedFormed _ kept fun other => ?_
  rw [modified, gotten, Function.update_self, Function.update_idem]
  rfl

end FadingCounters

/-! ### The buffer's operations -/

namespace Cbf

open CbfPacketBuffer FadingCounters

variable {φ κ ς : Type} [DecidableEq ς] {self : FlushTimer κ ς} {cbf : Cbf φ κ ς}
  {counters : FadingCounters} {id : PacketIdentifier}

/-- **Nothing is counted.** -/
structure Uncounted (counters : FadingCounters) (before after : Cbf φ κ ς) : Prop where
  counter : after.buffer.counter = .fading counters
  next : after.buffer.nextRef = before.buffer.nextRef

/-- Packets leave without their counters. -/
theorem dropHeads_counter (rounds : ℕ) : ∀ {buffer : CbfPacketBuffer φ},
    buffer.counter = .fading counters → (buffer.dropHeads rounds).counter = .fading counters := by
  induction rounds with
  | zero => exact fun fading => fading
  | succ rounds ih =>
    intro buffer fading
    unfold dropHeads
    cases buffer.packets with
    | nil => exact fading
    | cons front rest =>
      dsimp only
      split_ifs
      · apply ih
        dsimp only
        rw [fading]
        rfl
      · exact fading

theorem takeOut_counter {buffer : CbfPacketBuffer φ} (fading : buffer.counter = .fading counters)
    (entry : TimerNode) (packet : CbfPacket φ) :
    (buffer.takeOut entry packet).counter = .fading counters := by
  unfold takeOut
  dsimp only
  rw [fading]
  rfl

theorem remove_uncounted (fading : cbf.buffer.counter = .fading counters) (id : PacketIdentifier) :
    Uncounted counters cbf (cbf.remove self id).2 := by
  rcases cbf.buffer.find_cases id with absent | ⟨entry, packet, finds⟩
  · rw [remove_of_none self absent]
    exact ⟨fading, rfl⟩
  · rw [remove_of_finds self finds]
    refine ⟨?_, ?_⟩
    · rw [drop_buffer]
      exact takeOut_counter fading entry packet
    · rw [drop_buffer]
      rfl

theorem fetch_counter (fading : cbf.buffer.counter = .fading counters) (id : PacketIdentifier) :
    (cbf.fetch self id).2.buffer.counter = .fading counters := by
  rcases cbf.buffer.find_cases id with absent | ⟨entry, packet, finds⟩
  · rw [fetch_of_none self absent]
    exact fading
  · rw [fetch_of_finds self finds, drop_buffer]
    exact takeOut_counter fading entry packet

theorem flush_counter (fading : cbf.buffer.counter = .fading counters) :
    (cbf.flush self).2.buffer.counter = .fading counters := by
  have all : ∀ (entries : List TimerNode) (cbf : Cbf φ κ ς),
      cbf.buffer.counter = .fading counters →
        (cbf.flushAll entries).2.buffer.counter = .fading counters := by
    intro entries
    induction entries with
    | nil => exact fun _ fading => fading
    | cons entry rest ih =>
      intro cbf fading
      apply ih
      unfold flushOne
      cases cbf.buffer.deref entry.info with
      | none => exact fading
      | some packet => exact takeOut_counter fading entry packet
  unfold flush
  dsimp only
  rw [scheduleTimer_buffer]
  exact all _ cbf fading

omit [DecidableEq ς] in
/-- A packet that is not found has no timer. -/
theorem unknown_of_absent (sound : cbf.Sound self)
    (absent : (cbf.buffer.find id).isSome = false) : ∀ other ∈ cbf.buffer.timers, other.id ≠ id := by
  intro other member same
  have contends := sound.consistent.find_isSome member
  rw [same, absent] at contends
  cases contends

/-- **A packet enters.** -/
theorem add_counts (fading : cbf.buffer.counter = .fading counters) (formed : counters.WellFormed)
    {packet : CbfPacket φ} {timeout : ℤ} (late : 0 < timeout) (node : ℕ)
    (unknown : ∀ other ∈ cbf.buffer.timers, other.id ≠ packet.identifier) :
    ∃ raised, (cbf.add self packet timeout node).buffer.counter = .fading raised ∧
      Counted cbf.runtime.now packet.identifier counters raised ∧
      (cbf.add self packet timeout node).buffer.nextRef = cbf.buffer.nextRef + 1 := by
  have room : (cbf.buffer.makeRoom packet).counter = .fading counters := by
    unfold makeRoom
    exact dropHeads_counter _ fading
  have next : (cbf.buffer.makeRoom packet).nextRef = cbf.buffer.nextRef := dropHeads_nextRef _ _
  have absent : ¬ ((cbf.buffer.makeRoom packet).timers.any
      fun other => other.id = packet.identifier) = true := by
    intro known
    obtain ⟨other, member, same⟩ := List.any_eq_true.mp known
    exact unknown other ((makeRoom_timers cbf.buffer packet).subset member) (of_decide_eq_true same)
  have buffer : (cbf.add self packet timeout node).buffer =
      (cbf.buffer.makeRoom packet).emplace cbf.runtime.now packet timeout node := by
    unfold add
    rw [if_neg (not_le.mpr late)]
    dsimp only
    split_ifs
    · rw [scheduleTimer_buffer]
    · rfl
  rw [buffer]
  unfold emplace insertTimer
  dsimp only
  rw [if_neg absent]
  dsimp only
  rw [if_pos rfl]
  dsimp only
  rw [room, next]
  exact ⟨_, rfl, counted_add formed, rfl⟩

omit [DecidableEq ς] in
/-- **A packet's timer is renewed.** -/
theorem update_counts (fading : cbf.buffer.counter = .fading counters) (formed : counters.WellFormed)
    (contends : (cbf.buffer.find id).isSome = true) (timeout : ℤ) :
    ∃ raised, (cbf.update id timeout).buffer.counter = .fading raised ∧
      Counted cbf.runtime.now id counters raised ∧
      (cbf.update id timeout).buffer.nextRef = cbf.buffer.nextRef := by
  rcases cbf.buffer.find_cases id with absent | ⟨entry, packet, finds⟩
  · rw [absent] at contends
    cases contends
  · rw [update_of_finds finds]
    dsimp only
    rw [fading]
    exact ⟨_, rfl, counted_increment formed, rfl⟩

/-- **Handling a packet** does not concern the counters of others. -/
theorem Handling.counter_others {after : Cbf φ κ ς} {bytes : ℕ} (sound : cbf.Sound self)
    (fading : cbf.buffer.counter = .fading counters) (formed : counters.WellFormed)
    (handling : Handling self cbf id bytes after) :
    after.runtime.now = cbf.runtime.now ∧ ∃ raised, after.buffer.counter = .fading raised ∧
      raised.WellFormed ∧ ∀ other, other ≠ id →
        raised.getValuePtr cbf.runtime.now other = counters.getValuePtr cbf.runtime.now other := by
  have same : ∀ other : PacketIdentifier, other ≠ id →
      counters.getValuePtr cbf.runtime.now other = counters.getValuePtr cbf.runtime.now other :=
    fun _ _ => rfl
  cases handling with
  | suppressed contends =>
    exact ⟨remove_now self cbf id, counters, (remove_uncounted fading id).counter, formed, same⟩
  | renewed contends timeout =>
    obtain ⟨raised, counter, counts, _⟩ := update_counts fading formed contends timeout
    exact ⟨update_now cbf id timeout, raised, counter, counts.formed, counts.others⟩
  | entered absent packet identified long timeout node unused =>
    refine ⟨add_now self cbf packet timeout node, ?_⟩
    by_cases late : 0 < timeout
    · obtain ⟨raised, counter, counts, _⟩ := add_counts fading formed late node
        (unknown_of_absent sound (identified ▸ absent))
      exact ⟨raised, counter, counts.formed, identified ▸ counts.others⟩
    · have ignored : cbf.add self packet timeout node = cbf := if_pos (not_lt.mp late)
      rw [ignored]
      exact ⟨counters, fading, formed, same⟩
  | ignored absent => exact ⟨rfl, counters, fading, formed, same⟩

end Cbf

/-! ### Copies of a packet -/

/-- The packet is transmitted now. -/
def NextHop.transmits : NextHop → Bool
  | .valid _ _ => true
  | _ => false

def NextHop.contends : NextHop → Bool
  | .buffered => true
  | _ => false

/-- The packet that a call hands to a forwarding algorithm after it was heard. -/
def Call.copy : Call → Option PendingPacketForwarding
  | area packet (some _) => some packet
  | nonArea packet (some _) => some packet
  | advanced packet (some _) => some packet
  | _ => none

def Call.copies (id : PacketIdentifier) (call : Call) : Bool :=
  call.copy.any fun packet => packet.pdu.extended.identifier = id

/-- The next hop that the forwarding algorithm of a call finds. -/
def Call.hop (platform : Platform) (env : Environment) (router : Router) : Call → Option NextHop
  | area packet sender =>
    (areaContentionBasedForwarding platform env packet sender router).1.toOption
  | nonArea packet sender =>
    (nonAreaContentionBasedForwarding platform env packet sender router).1.toOption
  | advanced packet ll => (areaAdvancedForwarding platform env packet ll router).1.toOption
  | _ => none

/-- The fading counter of a packet, unless it has faded. -/
def Router.fading (router : Router) (id : PacketIdentifier) : Option ℕ :=
  match router.cbfBuffer.counter with
  | .fading counters => counters.getValuePtr router.now id
  | _ => none

/-- How often a call puts the packet into contention, anew or with a new timer. -/
def contentions (before after : Router) (id : PacketIdentifier) (hop : Option NextHop) : ℕ :=
  (after.cbfBuffer.nextRef - before.cbfBuffer.nextRef) +
    if (before.cbfBuffer.find id).isSome ∧ hop.any NextHop.contends then 1 else 0

/-- How often it does this, or transmits the packet directly. -/
def rebroadcasts (before after : Router) (id : PacketIdentifier) (hop : Option NextHop) : ℕ :=
  contentions before after id hop + if hop.any NextHop.transmits then 1 else 0

/-- **A router and what has become of the copies of a packet** since its counter faded last: how often
one was put into contention or transmitted. -/
structure Rebroadcasts where
  router : Router
  events : ℕ

namespace Rebroadcasts

/-- A copy of the packet is heard. -/
def heard (state : Rebroadcasts) (after : Router) (id : PacketIdentifier) (hop : Option NextHop) :
    Rebroadcasts :=
  ⟨after, (if (state.router.fading id).isSome then state.events else 0) +
    rebroadcasts state.router after id hop⟩

def step (platform : Platform) (id : PacketIdentifier) (state : Rebroadcasts)
    (call : Environment × Call) : Option Rebroadcasts :=
  (Call.step platform state.router call).map fun after =>
    if call.2.copies id then state.heard after id (call.2.hop platform call.1 state.router)
    else { state with router := after }

def Initial (platform : Platform) (state : Rebroadcasts) : Prop :=
  Router.Created platform state.router ∧ state.events = 0

/-- **When the bound is kept**: a copy that does not contend finds the counter below the maximum, and if
advanced forwarding gets it, it is not addressed to the router, to be transmitted greedily and put into
contention at once. Contention-based forwarding in the area asks for the counter itself. -/
def Checked (platform : Platform) (id : PacketIdentifier) (state : Rebroadcasts)
    (call : Environment × Call) : Prop :=
  match call.2 with
  | .nonArea packet (some _) => packet.pdu.extended.identifier = id →
    (state.router.cbfBuffer.find id).isSome = false →
      state.router.cbf.counter id < platform.mib.vanetzaCbfMaxCounter
  | .advanced packet (some ll) => packet.pdu.extended.identifier = id →
    (state.router.cbfBuffer.find id).isSome = false →
      state.router.cbf.counter id < platform.mib.vanetzaCbfMaxCounter ∧
        ll.destination ≠ state.router.localPositionVector.gnAddr.mid
  | _ => True

end Rebroadcasts

section Outcomes

open FadingCounters

variable {platform : Platform} {env : Environment} {router after : Router}
  {counters : FadingCounters} {packet : PendingPacketForwarding} {hop : Option NextHop}

/-- **What becomes of a copy**: nothing, or it is broadcast again once, and its counter, which has been
below the maximum, is raised. -/
inductive Outcome (platform : Platform) (router : Router) (counters : FadingCounters)
    (id : PacketIdentifier) (hop : Option NextHop) (after : Router) : Prop
  | silent (counter : after.cbfBuffer.counter = .fading counters) (now : after.now = router.now)
      (quiet : rebroadcasts router after id hop = 0)
  | counted {raised : FadingCounters} (counter : after.cbfBuffer.counter = .fading raised)
      (now : after.now = router.now) (counts : Counted router.now id counters raised)
      (below : router.cbf.counter id < platform.mib.vanetzaCbfMaxCounter)
      (once : rebroadcasts router after id hop = 1)

section Numbers

variable {id : PacketIdentifier}

theorem contentions_idle (next : after.cbfBuffer.nextRef = router.cbfBuffer.nextRef)
    (idle : ¬ ((router.cbfBuffer.find id).isSome ∧ hop.any NextHop.contends)) :
    contentions router after id hop = 0 := by
  unfold contentions
  rw [next, Nat.sub_self, if_neg idle]

theorem contentions_entered (next : after.cbfBuffer.nextRef = router.cbfBuffer.nextRef + 1)
    (absent : (router.cbfBuffer.find id).isSome = false) :
    contentions router after id hop = 1 := by
  unfold contentions
  rw [next, absent, if_neg fun both => Bool.false_ne_true both.1, Nat.add_sub_cancel_left]

theorem contentions_renewed (next : after.cbfBuffer.nextRef = router.cbfBuffer.nextRef)
    (contends : (router.cbfBuffer.find id).isSome = true) :
    contentions router after id (some .buffered) = 1 := by
  unfold contentions
  rw [next, Nat.sub_self, if_pos ⟨contends, rfl⟩]

/-- Without a direct transmission only the contentions count. -/
theorem rebroadcasts_quiet (quiet : hop.any NextHop.transmits = false) :
    rebroadcasts router after id hop = contentions router after id hop := by
  unfold rebroadcasts
  rw [quiet]
  rfl

end Numbers

/-- A packet is removed. -/
theorem outcome_removed (fading : router.cbfBuffer.counter = .fading counters) (id : PacketIdentifier) :
    Outcome platform router counters id (some .discarded)
      (router.withCbf (router.cbf.remove flushTimer id).2) := by
  have uncounted : Cbf.Uncounted counters router.cbf (router.cbf.remove flushTimer id).2 :=
    Cbf.remove_uncounted fading id
  have idle : contentions router (router.withCbf (router.cbf.remove flushTimer id).2) id
      (some .discarded) = 0 :=
    contentions_idle uncounted.next fun both => Bool.false_ne_true both.2
  exact .silent uncounted.counter (Cbf.remove_now flushTimer router.cbf id)
    ((rebroadcasts_quiet rfl).trans idle)

/-- A packet's timer is renewed. -/
theorem outcome_renewed (fading : router.cbfBuffer.counter = .fading counters)
    (formed : counters.WellFormed) {id : PacketIdentifier}
    (contends : (router.cbfBuffer.find id).isSome = true)
    (below : router.cbf.counter id < platform.mib.vanetzaCbfMaxCounter) (timeout : ℤ) :
    Outcome platform router counters id (some .buffered)
      (router.withCbf (router.cbf.update id timeout)) := by
  have fades : router.cbf.buffer.counter = .fading counters := fading
  obtain ⟨raised, counter, counts, next⟩ := Cbf.update_counts fades formed contends timeout
  have made : rebroadcasts router (router.withCbf (router.cbf.update id timeout)) id
      (some .buffered) = 1 :=
    (rebroadcasts_quiet rfl).trans (contentions_renewed next contends)
  exact .counted counter (Cbf.update_now router.cbf id timeout) counts below made

/-- **A packet enters**, unless its timeout is over at once. -/
theorem outcome_entered (sound : router.cbf.Sound flushTimer)
    (fading : router.cbfBuffer.counter = .fading counters) (formed : counters.WellFormed)
    {timeout : ℤ} {after : Cbf GbcAction RouterCallback RouterScope}
    (absent : (router.cbf.buffer.find packet.pdu.extended.identifier).isSome = false)
    (below : router.cbf.counter packet.pdu.extended.identifier < platform.mib.vanetzaCbfMaxCounter)
    (enters : router.Enters packet timeout after) (other : Router)
    (quiet : hop.any NextHop.transmits = false) :
    Outcome platform router counters packet.pdu.extended.identifier hop (other.withCbf after) := by
  obtain ⟨held, node, same, _, _, rfl⟩ := enters
  have now : (other.withCbf (router.cbf.add flushTimer held timeout node)).now = router.now :=
    Cbf.add_now flushTimer router.cbf held timeout node
  by_cases late : 0 < timeout
  · have fades : router.cbf.buffer.counter = .fading counters := fading
    have unknown : ∀ old ∈ router.cbf.buffer.timers, old.id ≠ held.identifier :=
      Cbf.unknown_of_absent sound (same ▸ absent)
    obtain ⟨raised, counter, counts, next⟩ := Cbf.add_counts fades formed late node unknown
    rw [same] at counts
    have entered : contentions router (other.withCbf (router.cbf.add flushTimer held timeout node))
        packet.pdu.extended.identifier hop = 1 := contentions_entered next absent
    exact .counted counter now counts below ((rebroadcasts_quiet quiet).trans entered)
  · have ignored : router.cbf.add flushTimer held timeout node = router.cbf :=
      if_pos (not_lt.mp late)
    rw [ignored]
    have idle : contentions router (other.withCbf router.cbf) packet.pdu.extended.identifier hop = 0 :=
      contentions_idle rfl fun both => Bool.false_ne_true (absent.symm.trans both.1)
    exact .silent fading rfl ((rebroadcasts_quiet quiet).trans idle)

/-- A copy is ignored. -/
theorem outcome_ignored (fading : router.cbfBuffer.counter = .fading counters)
    {id : PacketIdentifier} (absent : (router.cbfBuffer.find id).isSome = false)
    (quiet : hop.any NextHop.transmits = false) :
    Outcome platform router counters id hop router := by
  have idle : contentions router router id hop = 0 :=
    contentions_idle rfl fun both => Bool.false_ne_true (absent.symm.trans both.1)
  exact .silent fading rfl ((rebroadcasts_quiet quiet).trans idle)

/-! ### The forwarding algorithms -/

theorem area_outcome (sound : router.cbf.Sound flushTimer)
    (fading : router.cbfBuffer.counter = .fading counters) (formed : counters.WellFormed)
    (sender : MacAddress) :
    Outcome platform router counters packet.pdu.extended.identifier
      (areaContentionBasedForwarding platform env packet (some sender) router).1.toOption
      (areaContentionBasedForwarding platform env packet (some sender) router).2 := by
  cases found : (router.cbf.buffer.find packet.pdu.extended.identifier).isSome with
  | true =>
    rw [area_suppresses platform env router packet sender found]
    exact outcome_removed fading _
  | false =>
    obtain ⟨exhausted, below⟩ := area_enters platform env router packet sender found
    by_cases enough : router.cbf.counter packet.pdu.extended.identifier <
        platform.mib.vanetzaCbfMaxCounter
    · obtain ⟨timeout, after, ran, enters⟩ := below enough
      rw [ran]
      exact outcome_entered sound fading formed found enough enters router rfl
    · rw [exhausted (Nat.not_lt.mp enough)]
      exact outcome_ignored fading found rfl

theorem nonArea_outcome (sound : router.cbf.Sound flushTimer)
    (fading : router.cbfBuffer.counter = .fading counters) (formed : counters.WellFormed)
    (sender : MacAddress)
    (checked : (router.cbfBuffer.find packet.pdu.extended.identifier).isSome = false →
      router.cbf.counter packet.pdu.extended.identifier < platform.mib.vanetzaCbfMaxCounter) :
    Outcome platform router counters packet.pdu.extended.identifier
      (nonAreaContentionBasedForwarding platform env packet (some sender) router).1.toOption
      (nonAreaContentionBasedForwarding platform env packet (some sender) router).2 := by
  cases found : (router.cbf.buffer.find packet.pdu.extended.identifier).isSome with
  | true =>
    rw [nonArea_suppresses platform env router packet sender found]
    exact outcome_removed fading _
  | false =>
    rcases nonArea_enters platform env router packet sender found with
      ⟨fault, ran⟩ | ran | ⟨timeout, after, ran, enters⟩
    · rw [ran]
      exact outcome_ignored fading found rfl
    · rw [ran]
      exact outcome_ignored fading found rfl
    · rw [ran]
      exact outcome_entered sound fading formed found (checked found) enters router rfl

theorem advanced_outcome (sound : router.cbf.Sound flushTimer)
    (fading : router.cbfBuffer.counter = .fading counters) (formed : counters.WellFormed)
    (ll : LinkLayer)
    (checked : (router.cbfBuffer.find packet.pdu.extended.identifier).isSome = false →
      router.cbf.counter packet.pdu.extended.identifier < platform.mib.vanetzaCbfMaxCounter ∧
        ll.destination ≠ router.localPositionVector.gnAddr.mid) :
    Outcome platform router counters packet.pdu.extended.identifier
      (areaAdvancedForwarding platform env packet (some ll) router).1.toOption
      (areaAdvancedForwarding platform env packet (some ll) router).2 := by
  cases found : (router.cbf.buffer.find packet.pdu.extended.identifier).isSome with
  | true =>
    rcases advanced_contends platform env router packet ll found with
      ended | ⟨below, timeout, renewed⟩
    · rw [ended]
      exact outcome_removed fading _
    · rw [renewed]
      exact outcome_renewed fading formed found below timeout
  | false =>
    obtain ⟨hop, other, timeout, after, ran, enters, buffers⟩ :=
      advanced_enters platform env router packet ll found
    obtain ⟨below, elsewhere⟩ := checked found
    rw [ran]
    refine outcome_entered sound fading formed found below enters other ?_
    rw [buffers elsewhere]
    rfl

end Outcomes

/-! ### Runs -/

section Runs

open FadingCounters

variable {platform : Platform} {env : Environment} {id : PacketIdentifier} {call : Call}

/-- **What holds in every run of checked calls.** -/
structure Bounded (platform : Platform) (id : PacketIdentifier) (state : Rebroadcasts) : Prop where
  sound : state.router.cbf.Sound flushTimer
  bound : state.router.Bound
  fades : ∃ counters, state.router.cbfBuffer.counter = .fading counters ∧
    SoftStateMap.WellFormed counters
  events : state.events ≤ platform.mib.vanetzaCbfMaxCounter
  live : ∀ value, state.router.fading id = some value → state.events ≤ value

theorem fading_eq {router : Router} {counters : FadingCounters}
    (fading : router.cbfBuffer.counter = .fading counters) (id : PacketIdentifier) :
    router.fading id = counters.getValuePtr router.now id := by
  unfold Router.fading
  rw [fading]

theorem counter_eq {router : Router} {counters : FadingCounters}
    (fading : router.cbfBuffer.counter = .fading counters) (id : PacketIdentifier) :
    router.cbf.counter id = (router.fading id).getD 0 := by
  have fades : router.cbf.buffer.counter = .fading counters := fading
  unfold Cbf.counter
  rw [fades, fading_eq fading]
  rfl

/-- A copy of the packet. -/
theorem copy_outcome {state : Rebroadcasts} {after : Router} {counters : FadingCounters}
    (sound : state.router.cbf.Sound flushTimer)
    (fading : state.router.cbfBuffer.counter = .fading counters) (formed : counters.WellFormed)
    (copy : call.copies id = true) (checked : state.Checked platform id (env, call))
    (taken : Call.step platform state.router (env, call) = some after) :
    Outcome platform state.router counters id (call.hop platform env state.router) after := by
  cases call with
  | area packet sender =>
    cases sender with
    | none => cases copy
    | some sender =>
      obtain rfl := of_decide_eq_true copy
      cases taken
      exact area_outcome sound fading formed sender
  | nonArea packet sender =>
    cases sender with
    | none => cases copy
    | some sender =>
      obtain rfl := of_decide_eq_true copy
      cases taken
      exact nonArea_outcome sound fading formed sender (checked rfl)
  | advanced packet ll =>
    cases ll with
    | none => cases copy
    | some ll =>
      obtain rfl := of_decide_eq_true copy
      cases taken
      exact advanced_outcome sound fading formed ll (checked rfl)
  | fetch id => cases copy
  | flush queue => cases copy
  | others other elapsed => cases copy

/-- **The packet's counter is left alone**, or it fades. -/
structure Spared (id : PacketIdentifier) (before after : Router) : Prop where
  fades : ∃ counters, after.cbfBuffer.counter = .fading counters ∧ SoftStateMap.WellFormed counters
  live : ∀ value, after.fading id = some value → before.fading id = some value

/-- The counters stay while time passes. -/
theorem spared_of_same {before after : Router} {counters : FadingCounters}
    (fading : before.cbfBuffer.counter = .fading counters) (formed : counters.WellFormed)
    (same : after.cbfBuffer.counter = .fading counters) (later : before.now ≤ after.now) :
    Spared id before after := by
  refine ⟨⟨counters, same, formed⟩, fun value found => ?_⟩
  rw [fading_eq same, SoftStateMap.getValuePtr_eq formed] at found
  rw [fading_eq fading, SoftStateMap.getValuePtr_eq formed]
  cases shown : counters.view id with
  | none =>
    rw [shown] at found
    exact found
  | some entry =>
    obtain ⟨stored, expiry⟩ := entry
    rw [shown, SoftStateMap.alive_some] at found
    rw [SoftStateMap.alive_some]
    by_cases passed : expiry < after.now
    · rw [if_pos passed] at found
      cases found
    · rw [if_neg passed] at found
      rw [if_neg (by omega)]
      exact found

/-- Another packet is handled. -/
theorem spared_of_handling {before after : Router} {counters : FadingCounters}
    (sound : before.cbf.Sound flushTimer) (fading : before.cbfBuffer.counter = .fading counters)
    (formed : counters.WellFormed) {other : PacketIdentifier} {bytes : ℕ}
    (handling : Cbf.Handling flushTimer before.cbf other bytes after.cbf) (apart : other ≠ id) :
    Spared id before after := by
  obtain ⟨now, raised, counter, raisedFormed, others⟩ :=
    handling.counter_others sound fading formed
  have here : after.now = before.now := now
  refine ⟨⟨raised, counter, raisedFormed⟩, fun value found => ?_⟩
  rw [fading_eq counter, here] at found
  rw [fading_eq fading, ← found]
  exact (others id apart.symm).symm

/-- **Any other call.** -/
theorem spared_of_step {state : Rebroadcasts} {after : Router} {counters : FadingCounters}
    (sound : state.router.cbf.Sound flushTimer) (bound : state.router.Bound)
    (fading : state.router.cbfBuffer.counter = .fading counters) (formed : counters.WellFormed)
    (other : call.copies id = false)
    (taken : Call.step platform state.router (env, call) = some after) :
    Spared id state.router after := by
  have unchanged : Spared id state.router state.router :=
    spared_of_same fading formed fading le_rfl
  cases call with
  | area packet sender =>
    cases taken
    cases sender with
    | none => exact unchanged
    | some sender =>
      exact spared_of_handling sound fading formed
        (area_handling platform env state.router packet sender) (of_decide_eq_false other)
  | nonArea packet sender =>
    cases taken
    cases sender with
    | none => exact unchanged
    | some sender =>
      exact spared_of_handling sound fading formed
        (nonArea_handling platform env state.router packet sender) (of_decide_eq_false other)
  | advanced packet ll =>
    cases taken
    cases ll with
    | none => exact unchanged
    | some ll =>
      exact spared_of_handling sound fading formed
        (advanced_handling platform env state.router packet ll) (of_decide_eq_false other)
  | fetch id =>
    cases taken
    exact spared_of_same fading formed (Cbf.fetch_counter fading id) (Cbf.fetch_now id).ge
  | flush queue =>
    cases taken
    have fades : (state.router.invoked queue).cbf.buffer.counter = .fading counters := fading
    have waiting : (state.router.invoked queue).Bound := bound
    obtain ⟨_, _, hands⟩ := @flushCbfBuffer_hands platform env _ waiting
    dsimp only
    rw [hands.after]
    exact spared_of_same fading formed (Cbf.flush_counter fades) (Cbf.flush_now flushTimer _).ge
  | others replacement elapsed =>
    unfold Call.step at taken
    dsimp only at taken
    split_ifs at taken with besides
    cases taken
    exact spared_of_same fading formed fading (le_add_of_nonneg_right besides.1)

/-- What has been counted since the counter faded last is no more than the counter. -/
theorem Bounded.lasting_le {state : Rebroadcasts} (bounded : Bounded platform id state) :
    (if (state.router.fading id).isSome then state.events else 0) ≤
      (state.router.fading id).getD 0 := by
  cases found : state.router.fading id with
  | none => exact le_rfl
  | some value => exact bounded.live value found

/-- **One step.** -/
theorem Bounded.step {state next : Rebroadcasts} (bounded : Bounded platform id state)
    (checked : state.Checked platform id (env, call))
    (taken : state.step platform id (env, call) = some next) : Bounded platform id next := by
  obtain ⟨after, called, same⟩ := Option.map_eq_some_iff.mp taken
  obtain ⟨counters, fading, formed⟩ := bounded.fades
  have does := Call.does bounded.sound bounded.bound called
  have sound : after.cbf.Sound flushTimer := does.sound
  dsimp only at same
  cases copy : call.copies id with
  | false =>
    rw [copy, if_neg Bool.false_ne_true] at same
    obtain rfl := same
    obtain ⟨fades, live⟩ := spared_of_step bounded.sound bounded.bound fading formed copy called
    exact ⟨sound, does.bound, fades, bounded.events, fun value found => bounded.live value (live value found)⟩
  | true =>
    rw [copy, if_pos rfl] at same
    obtain rfl := same
    have outcome := copy_outcome bounded.sound fading formed copy checked called
    have lasting := bounded.lasting_le
    unfold Rebroadcasts.heard
    cases outcome with
    | silent counter now quiet =>
      rw [quiet, Nat.add_zero]
      refine ⟨sound, does.bound, ⟨counters, counter, formed⟩, ?_, fun value found => ?_⟩
      · dsimp only
        split_ifs
        · exact bounded.events
        · exact Nat.zero_le _
      · dsimp only at found ⊢
        rw [fading_eq counter, now, ← fading_eq fading] at found
        rw [found] at lasting ⊢
        exact lasting
    | counted counter now counts below once =>
      rw [once]
      refine ⟨sound, does.bound, ⟨_, counter, counts.formed⟩, ?_, fun value found => ?_⟩
      · rw [counter_eq fading] at below
        dsimp only
        omega
      · dsimp only at found ⊢
        rw [fading_eq counter, now] at found
        have raised := counts.raised value found
        rw [← fading_eq fading] at raised
        omega

/-- A router that has just been constructed. -/
theorem bounded_initial (fading : platform.mib.vanetzaFadingCbfCounter = true)
    {state : Rebroadcasts} (initial : state.Initial platform) : Bounded platform id state := by
  obtain ⟨router, events⟩ := state
  obtain ⟨⟨now, firstBeacon, rfl⟩, rfl⟩ := initial
  have counter : (Router.create platform.mib now firstBeacon).cbfBuffer.counter =
      .fading (.empty platform.mib.vanetzaFadingCbfCounterLifetime) := by
    unfold Router.create
    rw [fading]
    cases platform.mib.vanetzaDisableBeaconing <;>
      cases platform.mib.vanetzaDeferInitialBeacon <;> rfl
  exact ⟨(create_sound platform.mib now firstBeacon).1, create_bound _ _ _,
    ⟨_, counter, SoftStateMap.wellFormed_empty _⟩, Nat.zero_le _, fun value _ => Nat.zero_le value⟩

end Runs

section Exceeded

/-- Two stations at one place; advanced forwarding, and counters that fade. -/
def echoing : Platform where
  mib :=
    { Mib.initial with
      vanetzaDisableBeaconing := true
      vanetzaFadingCbfCounter := true
      itsGnAreaForwardingAlgorithm := .advanced }
  geometry := flatland

def echo : Environment × Call :=
  (insecure, .advanced (rumour 1) (some ⟨cBroadcastMacAddress, cBroadcastMacAddress⟩))

def silence : Rebroadcasts := ⟨.create echoing.mib 0 0, 0⟩

/-- A copy that is addressed to the router is transmitted and put into contention, and counted once. -/
example : (silence.step echoing (rumour 1).pdu.extended.identifier (insecure, .advanced (rumour 1)
    (some ⟨cBroadcastMacAddress, silence.router.localPositionVector.gnAddr.mid⟩))).any
      (fun state => state.events = 2 ∧
        state.router.cbf.counter (rumour 1).pdu.extended.identifier = 1) = true := by
  decide +kernel

end Exceeded

end Vanet.Geonet
