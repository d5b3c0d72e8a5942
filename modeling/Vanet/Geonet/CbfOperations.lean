/-
**The operations of a contention buffer.**

Between two operations the buffer is consistent, its timers are in order, and a flush is scheduled while
there is a timer (`Sound`). An operation keeps this, and the timers it leaves are old ones or those of
packets that have just entered (`Evolves`). A flush takes out exactly the packets whose timers have
expired (`flush_spec`).
-/

import Vanet.Geonet.Handling

namespace Vanet.Geonet

open Vanet.Common
open Vanet.Net hiding ByteBuffer

/-! ### How a buffer develops -/

namespace CbfPacketBuffer

variable {φ : Type}

/-- **How a buffer develops**: its timers are old ones, or those of packets that have just entered. -/
structure Evolves (before after : CbfPacketBuffer φ) : Prop where
  next : before.nextRef ≤ after.nextRef
  links : ∀ entry ∈ after.timers,
    (∃ old ∈ before.timers, old.link = entry.link) ∨ before.nextRef ≤ entry.info

theorem Evolves.sublist {before after : CbfPacketBuffer φ} (next : after.nextRef = before.nextRef)
    (part : after.timers.Sublist before.timers) : Evolves before after :=
  ⟨next.ge, fun entry member => .inl ⟨entry, part.subset member, rfl⟩⟩

theorem dropHeads_nextRef (rounds : ℕ) : ∀ buffer : CbfPacketBuffer φ,
    (buffer.dropHeads rounds).nextRef = buffer.nextRef := by
  induction rounds with
  | zero => exact fun _ => rfl
  | succ rounds ih =>
    intro buffer
    unfold dropHeads
    cases buffer.packets with
    | nil => rfl
    | cons front rest =>
      dsimp only
      split_ifs
      · exact ih _
      · rfl

/-- The timers of a consistent buffer have numbers of the list's nodes. -/
theorem Consistent.timer_used {buffer : CbfPacketBuffer φ} (consistent : buffer.Consistent)
    {entry : TimerNode} (member : entry ∈ buffer.timers) : entry.info < buffer.nextRef := by
  obtain ⟨first, node, rest, held⟩ := consistent.held member
  rw [← held.ref]
  apply consistent.used
  rw [held.packets]
  exact List.mem_append_right _ List.mem_cons_self

theorem Consistent.timer_infos {buffer : CbfPacketBuffer φ} (consistent : buffer.Consistent) :
    (buffer.timers.map TimerNode.info).Nodup := by
  have same := consistent.linked.map Prod.fst
  rw [List.map_map, List.map_map] at same
  exact same.nodup_iff.mpr consistent.refs

theorem Consistent.find_isSome {buffer : CbfPacketBuffer φ} (consistent : buffer.Consistent)
    {entry : TimerNode} (member : entry ∈ buffer.timers) : (buffer.find entry.id).isSome = true := by
  obtain ⟨first, node, rest, held⟩ := consistent.held member
  have found : buffer.findTimer entry.id = some entry := by
    cases timer : buffer.findTimer entry.id with
    | none => exact absurd (decide_eq_true rfl) (List.find?_eq_none.mp timer entry member)
    | some other =>
      obtain ⟨otherMember, same⟩ := findTimer_some timer
      rw [List.inj_on_of_nodup_map consistent.timer_ids otherMember member same]
  unfold CbfPacketBuffer.find
  rw [found, Option.bind_some, held.deref]
  rfl

end CbfPacketBuffer

namespace Cbf

open CbfPacketBuffer

variable {φ κ ς : Type} [DecidableEq ς] {self : FlushTimer κ ς} {cbf after : Cbf φ κ ς}
  {id : PacketIdentifier}

/-- A flush is in the queue. -/
def Scheduled (self : FlushTimer κ ς) (runtime : ManualRuntime κ ς) : Prop :=
  ∃ item ∈ runtime.queue, item.callback = self.callback ∧ item.scope = some self.scope

/-- **What holds of the buffer between two operations.** -/
structure Sound (flushed : FlushTimer κ ς) (cbf : Cbf φ κ ς) : Prop where
  consistent : cbf.buffer.Consistent
  ordered : Ordered cbf.buffer.timers
  scheduled : cbf.buffer.timers ≠ [] → Scheduled flushed cbf.runtime

theorem scheduleTimer_scheduled (some : cbf.buffer.timers ≠ []) :
    Scheduled self (cbf.scheduleTimer self).runtime := by
  unfold scheduleTimer
  cases timers : cbf.buffer.timers with
  | nil => exact absurd timers some
  | cons first rest =>
    exact ⟨⟨first.timer.expiry, self.callback, .some self.scope⟩,
      ManualRuntime.mem_emplace.mpr (.inl rfl), rfl, rfl⟩

/-! ### Removal -/

theorem drop_scheduled (scheduled : cbf.buffer.timers ≠ [] → Scheduled self cbf.runtime)
    (entry : TimerNode) (packet : CbfPacket φ) :
    (cbf.drop self entry packet).buffer.timers ≠ [] →
      Scheduled self (cbf.drop self entry packet).runtime := by
  intro remaining
  have held : cbf.buffer.timers ≠ [] := by
    intro none
    rw [drop_buffer] at remaining
    unfold takeOut at remaining
    rw [none] at remaining
    exact remaining rfl
  unfold drop
  dsimp only
  split_ifs with front
  · exact scheduleTimer_scheduled front.2
  · exact scheduled held

/-- **The packet of a timer leaves.** -/
theorem drop_spec (sound : cbf.Sound self) {entry : TimerNode} {packet : CbfPacket φ}
    (consistent : (cbf.drop self entry packet).buffer.Consistent) :
    (cbf.drop self entry packet).Sound self ∧
      cbf.buffer.Evolves (cbf.drop self entry packet).buffer ∧
      ∀ other ∈ (cbf.drop self entry packet).buffer.timers, other.id ≠ entry.id := by
  refine ⟨⟨consistent, drop_ordered sound.ordered packet,
    drop_scheduled sound.scheduled entry packet⟩, ?_, ?_⟩
  · rw [drop_buffer]
    exact .sublist rfl List.filter_sublist
  · rw [drop_buffer]
    exact fun other member => of_decide_eq_true (List.mem_filter.mp member).2

theorem remove_spec (sound : cbf.Sound self) (id : PacketIdentifier) :
    (cbf.remove self id).2.Sound self ∧ cbf.buffer.Evolves (cbf.remove self id).2.buffer ∧
      ((cbf.buffer.find id).isSome = true →
        ∀ other ∈ (cbf.remove self id).2.buffer.timers, other.id ≠ id) := by
  have consistent : (cbf.remove self id).2.buffer.Consistent := remove_consistent sound.consistent id
  rcases cbf.buffer.find_cases id with absent | ⟨entry, packet, finds⟩
  · rw [remove_of_none self absent]
    refine ⟨sound, .sublist rfl (List.Sublist.refl _), fun contends => ?_⟩
    rw [absent] at contends
    cases contends
  · obtain ⟨_, rfl⟩ := finds.member
    rw [remove_of_finds self finds] at consistent ⊢
    obtain ⟨dropped, evolves, gone⟩ := drop_spec sound consistent
    exact ⟨dropped, evolves, fun _ => gone⟩

theorem fetch_spec (sound : cbf.Sound self) (id : PacketIdentifier) :
    (cbf.fetch self id).2.Sound self ∧ cbf.buffer.Evolves (cbf.fetch self id).2.buffer := by
  have consistent : (cbf.fetch self id).2.buffer.Consistent := fetch_consistent sound.consistent id
  rcases cbf.buffer.find_cases id with absent | ⟨entry, packet, finds⟩
  · rw [fetch_of_none self absent]
    exact ⟨sound, .sublist rfl (List.Sublist.refl _)⟩
  · obtain ⟨first, node, rest, held, rfl⟩ := finds.held sound.consistent
    rw [fetch_of_finds self finds] at consistent ⊢
    set reduced : Cbf φ κ ς := { cbf with buffer := (cbf.reduceLifetime entry node.packet).2.2 }
    have written : reduced.Sound self :=
      ⟨(reduceLifetime_consistent sound.consistent held).1, sound.ordered, sound.scheduled⟩
    obtain ⟨dropped, evolves, _⟩ := drop_spec written consistent
    exact ⟨dropped, evolves.next, evolves.links⟩

/-! ### New timers -/

omit [DecidableEq ς] in
theorem update_spec (sound : cbf.Sound self) (id : PacketIdentifier) (timeout : ℤ) :
    (cbf.update id timeout).Sound self ∧ cbf.buffer.Evolves (cbf.update id timeout).buffer := by
  have consistent := update_consistent sound.consistent id timeout
  have next : (cbf.update id timeout).buffer.nextRef = cbf.buffer.nextRef := by
    unfold update
    split
    · rfl
    · split <;> rfl
  rcases update_timers sound.consistent id timeout with ⟨_, same⟩ | ⟨known, runtime, timers⟩
  · rw [same]
    exact ⟨sound, .sublist rfl (List.Sublist.refl _)⟩
  obtain ⟨entry, member, rfl⟩ := known
  obtain ⟨ahead, behind, split, _, replaced⟩ := replaceData_perm
    (.starting cbf.runtime.now timeout) sound.consistent.timer_ids member
  refine ⟨⟨consistent, ?_, fun _ => ?_⟩, next.ge, ?_⟩
  · rw [timers]
    exact sound.ordered.replaceData sound.consistent.timer_ids member _
  · rw [runtime]
    exact sound.scheduled (List.ne_nil_of_mem member)
  · intro other otherMember
    rw [timers] at otherMember
    rcases List.mem_cons.mp (replaced.subset otherMember) with rfl | old
    · exact .inl ⟨entry, member, rfl⟩
    · refine .inl ⟨other, ?_, rfl⟩
      rw [split]
      exact ((List.sublist_cons_self entry behind).append_left ahead).subset old

theorem add_spec (sound : cbf.Sound self) {packet : CbfPacket φ} (timeout : ℤ) {node : ℕ}
    (unused : node ∉ (cbf.buffer.makeRoom packet).timers.map TimerNode.node) :
    (cbf.add self packet timeout node).Sound self ∧
      cbf.buffer.Evolves (cbf.add self packet timeout node).buffer := by
  have consistent : (cbf.add self packet timeout node).buffer.Consistent :=
    add_consistent sound.consistent packet timeout node
  have ordered : Ordered (cbf.add self packet timeout node).buffer.timers :=
    add_ordered sound.ordered unused
  have part := makeRoom_timers cbf.buffer packet
  have roomNext : (cbf.buffer.makeRoom packet).nextRef = cbf.buffer.nextRef := dropHeads_nextRef _ _
  set emplaced := (cbf.buffer.makeRoom packet).emplace cbf.runtime.now packet timeout node with emplacing
  have next : cbf.buffer.nextRef ≤ emplaced.nextRef := by
    rw [emplacing, ← roomNext]
    unfold emplace
    dsimp only
    split_ifs
    · exact Nat.le_succ _
    · exact le_refl _
  have links : ∀ entry ∈ emplaced.timers,
      (∃ old ∈ cbf.buffer.timers, old.link = entry.link) ∨ cbf.buffer.nextRef ≤ entry.info := by
    intro entry member
    rcases emplace_timers (cbf.buffer.makeRoom packet) cbf.runtime.now packet timeout node with
      ⟨_, same⟩ | ⟨_, inserted⟩
    · rw [emplacing, same] at member
      exact .inl ⟨entry, part.subset member, rfl⟩
    · rw [emplacing, inserted] at member
      rcases (List.mem_orderedInsert _).mp member with rfl | old
      · exact .inr roomNext.ge
      · exact .inl ⟨entry, part.subset old, rfl⟩
  unfold add at consistent ordered ⊢
  by_cases early : timeout ≤ 0
  · rw [if_pos early]
    exact ⟨sound, .sublist rfl (List.Sublist.refl _)⟩
  rw [if_neg early] at consistent ordered ⊢
  dsimp only at consistent ordered ⊢
  split_ifs at consistent ordered ⊢ with moved
  · rw [scheduleTimer_buffer] at consistent ordered
    have scheduled : emplaced.timers ≠ [] →
        Scheduled self (({ cbf with buffer := emplaced } : Cbf φ κ ς).scheduleTimer self).runtime :=
      fun held => scheduleTimer_scheduled held
    refine ⟨⟨?_, ?_, ?_⟩, ?_⟩
    · rw [scheduleTimer_buffer]
      exact consistent
    · rw [scheduleTimer_buffer]
      exact ordered
    · rw [scheduleTimer_buffer]
      exact scheduled
    · rw [scheduleTimer_buffer]
      exact ⟨next, links⟩
  · refine ⟨⟨consistent, ordered, fun some => sound.scheduled fun none => ?_⟩, next, links⟩
    have front := not_not.mp moved
    rw [none] at front
    cases timers : emplaced.timers with
    | nil => exact some timers
    | cons first rest =>
      rw [timers] at front
      cases front

/-- **Handling a packet** keeps the buffer sound. -/
theorem Handling.spec {bytes : ℕ} (sound : cbf.Sound self)
    (handling : Handling self cbf id bytes after) :
    after.Sound self ∧ cbf.buffer.Evolves after.buffer := by
  cases handling with
  | suppressed contends =>
    obtain ⟨removed, evolves, _⟩ := remove_spec sound id
    exact ⟨removed, evolves⟩
  | renewed contends timeout => exact update_spec sound id timeout
  | entered absent packet same long timeout node unused => exact add_spec sound timeout unused
  | ignored absent => exact ⟨sound, .sublist rfl (List.Sublist.refl _)⟩

/-- No head is dropped from a buffer that does not hold too much. -/
theorem dropHeads_fits (rounds : ℕ) {buffer : CbfPacketBuffer φ}
    (fits : buffer.storedBytes ≤ buffer.capacityBytes) : buffer.dropHeads rounds = buffer := by
  cases rounds with
  | zero => rfl
  | succ rounds =>
    unfold dropHeads
    cases buffer.packets with
    | nil => rfl
    | cons front rest =>
      dsimp only
      rw [if_neg (not_lt.mpr fits)]

/-- The other packets stay when one is removed, ... -/
theorem remove_keeps {entry : TimerNode} (member : entry ∈ cbf.buffer.timers) (apart : entry.id ≠ id) :
    entry ∈ (cbf.remove self id).2.buffer.timers := by
  rcases cbf.buffer.find_cases id with absent | ⟨first, packet, finds⟩
  · rw [remove_of_none self absent]
    exact member
  · obtain ⟨_, rfl⟩ := finds.member
    rw [remove_of_finds self finds, drop_buffer]
    exact List.mem_filter.mpr ⟨member, decide_eq_true apart⟩

omit [DecidableEq ς] in
/-- ... when one gets a new timer, ... -/
theorem update_keeps (consistent : cbf.buffer.Consistent) (timeout : ℤ) {entry : TimerNode}
    (member : entry ∈ cbf.buffer.timers) (apart : entry.id ≠ id) :
    entry ∈ (cbf.update id timeout).buffer.timers := by
  rcases update_timers consistent id timeout with ⟨_, same⟩ | ⟨known, _, timers⟩
  · rw [same]
    exact member
  · obtain ⟨renewed, present, rfl⟩ := known
    obtain ⟨ahead, behind, split, _, replaced⟩ := replaceData_perm
      (.starting cbf.runtime.now timeout) consistent.timer_ids present
    rw [timers]
    apply replaced.symm.subset
    rw [split] at member
    rcases List.mem_append.mp member with early | late
    · exact List.mem_cons_of_mem _ (List.mem_append_left _ early)
    · rcases List.mem_cons.mp late with rfl | later
      · exact absurd rfl apart
      · exact List.mem_cons_of_mem _ (List.mem_append_right _ later)

/-- ... and when one enters that there is room for. -/
theorem add_keeps {packet : CbfPacket φ} (timeout : ℤ) (node : ℕ)
    (fits : cbf.buffer.storedBytes + packet.length ≤ cbf.buffer.capacityBytes) {entry : TimerNode}
    (member : entry ∈ cbf.buffer.timers) :
    entry ∈ (cbf.add self packet timeout node).buffer.timers := by
  have room : (cbf.buffer.makeRoom packet).timers = cbf.buffer.timers := by
    unfold makeRoom
    rw [dropHeads_fits _ fits]
  have emplaced : entry ∈
      ((cbf.buffer.makeRoom packet).emplace cbf.runtime.now packet timeout node).timers := by
    rcases emplace_timers (cbf.buffer.makeRoom packet) cbf.runtime.now packet timeout node with
      ⟨_, same⟩ | ⟨_, inserted⟩
    · rw [same, room]
      exact member
    · rw [inserted, room]
      exact (List.mem_orderedInsert _).mpr (.inr member)
  unfold add
  dsimp only
  split_ifs
  · exact member
  · rw [scheduleTimer_buffer]
    exact emplaced
  · exact emplaced

/-- **A packet that leaves when another one is handled** is a copy of that one, or there is no room for
both. -/
theorem Handling.leaves {bytes : ℕ} (sound : cbf.Sound self)
    (handling : Handling self cbf id bytes after) {entry : TimerNode}
    (member : entry ∈ cbf.buffer.timers)
    (gone : ∀ other ∈ after.buffer.timers, other.info ≠ entry.info) :
    entry.id = id ∨ cbf.buffer.capacityBytes < cbf.buffer.storedBytes + bytes := by
  by_contra neither
  obtain ⟨apart, fits⟩ := not_or.mp neither
  have kept : entry ∈ after.buffer.timers := by
    cases handling with
    | suppressed contends => exact remove_keeps member apart
    | renewed contends timeout => exact update_keeps sound.consistent timeout member apart
    | entered absent packet same long timeout node unused =>
      exact add_keeps timeout node (long ▸ not_lt.mp fits) member
    | ignored absent => exact member
  exact gone entry kept rfl

/-! ### Flushing -/

/-- **What the callback gets** when the timer is flushed now, if the packet's lifetime is not over. -/
def served (cbf : Cbf φ κ ς) (entry : TimerNode) : Option (PendingPacket GeoBroadcastHeader φ) :=
  (cbf.buffer.deref entry.info).bind fun packet =>
    let reduced := packet.reduceLifetime (cbf.runtime.now - entry.timer.start)
    if reduced.1 > 0 then some reduced.2.packet else none

omit [DecidableEq ς] in
/-- A packet in another node is not concerned when one is written and taken out. -/
theorem deref_takeOut (buffer : CbfPacketBuffer φ) (entry : TimerNode) (packet other : CbfPacket φ)
    {ref : ℕ} (apart : ref ≠ entry.info) :
    ((buffer.write entry.info packet).takeOut entry other).deref ref = buffer.deref ref := by
  unfold CbfPacketBuffer.deref takeOut write
  dsimp only
  rw [List.find?_filter, List.find?_map]
  have same : ((fun node : PacketNode φ => decide (node.ref ≠ entry.info) && decide (node.ref = ref)) ∘
      fun node => if node.ref = entry.info then { node with packet } else node) =
        fun node => decide (node.ref = ref) := by
    funext node
    by_cases there : node.ref = entry.info
    · have elsewhere : node.ref ≠ ref := fun equal => apart (equal.symm.trans there)
      simp [there, apart.symm]
    · simp [there]
  simp only [Bool.decide_and, decide_eq_true_eq] at same ⊢
  rw [same]
  cases found : buffer.packets.find? fun node => decide (node.ref = ref) with
  | none => rfl
  | some node =>
    have there : node.ref = ref := of_decide_eq_true
      (List.find?_some (p := fun node : PacketNode φ => decide (node.ref = ref)) found)
    rw [Option.map_some, Option.map_some, if_neg (there ▸ apart)]
    rfl

omit [DecidableEq ς] in
/-- A round of `flush`. -/
theorem flushOne_spec {entry : TimerNode} (consistent : cbf.buffer.Consistent)
    (member : entry ∈ cbf.buffer.timers) :
    (cbf.flushOne entry).1 = (cbf.served entry).toList ∧
      (∀ other : TimerNode, other.info ≠ entry.info →
        (cbf.flushOne entry).2.served other = cbf.served other) ∧
      (cbf.flushOne entry).2.buffer.nextRef = cbf.buffer.nextRef := by
  obtain ⟨first, node, rest, held⟩ := consistent.held member
  unfold flushOne served
  rw [held.deref]
  refine ⟨?_, ?_, rfl⟩
  · rw [Option.bind_some]
    unfold reduceLifetime
    dsimp only
    split_ifs <;> rfl
  · intro other apart
    dsimp only
    unfold reduceLifetime
    dsimp only
    rw [deref_takeOut _ _ _ _ apart]

omit [DecidableEq ς] in
/-- **The loop of `flush`** over some of the timers: they leave, the callback gets what they serve. -/
theorem flushAll_spec (entries : List TimerNode) : ∀ {cbf : Cbf φ κ ς},
    cbf.buffer.Consistent → (entries.map TimerNode.id).Nodup →
    (∀ entry ∈ entries, entry ∈ cbf.buffer.timers) →
    (cbf.flushAll entries).1 = entries.filterMap cbf.served ∧
      (cbf.flushAll entries).2.buffer.nextRef = cbf.buffer.nextRef ∧
      ∀ other, other ∈ (cbf.flushAll entries).2.buffer.timers ↔
        other ∈ cbf.buffer.timers ∧ ∀ entry ∈ entries, other.id ≠ entry.id := by
  induction entries with
  | nil =>
    intro cbf _ _ _
    exact ⟨rfl, rfl, fun other => ⟨fun member => ⟨member, nofun⟩, And.left⟩⟩
  | cons entry rest ih =>
    intro cbf consistent nodup members
    obtain ⟨fresh, nodup⟩ := List.nodup_cons.mp nodup
    have member := members entry List.mem_cons_self
    obtain ⟨flushed, remaining⟩ := flushOne_consistent consistent member
    obtain ⟨serves, others, next⟩ := flushOne_spec consistent member
    have still : ∀ other ∈ rest, other ∈ (cbf.flushOne entry).2.buffer.timers := by
      intro other among
      have differs : other.id ≠ entry.id := fun same => fresh (same ▸ List.mem_map_of_mem among)
      exact mem_flushOne consistent member (members other (List.mem_cons_of_mem _ among)) differs
    obtain ⟨served, nextRest, left⟩ := ih flushed nodup still
    have alike : rest.filterMap (cbf.flushOne entry).2.served = rest.filterMap cbf.served := by
      apply List.filterMap_congr
      intro other among
      have apart : other.info ≠ entry.info := fun same => fresh <| by
        have equal := List.inj_on_of_nodup_map consistent.timer_infos
          (members other (List.mem_cons_of_mem _ among)) member same
        rw [← equal]
        exact List.mem_map_of_mem among
      exact others other apart
    refine ⟨?_, nextRest.trans next, fun other => ?_⟩
    · show (cbf.flushOne entry).1 ++ ((cbf.flushOne entry).2.flushAll rest).1 = _
      rw [serves, served, alike, List.filterMap_cons]
      cases cbf.served entry <;> rfl
    · show other ∈ ((cbf.flushOne entry).2.flushAll rest).2.buffer.timers ↔ _
      rw [left, remaining, List.mem_filter, decide_eq_true_eq, List.forall_mem_cons, and_assoc]

omit [DecidableEq ς] in
theorem mem_takeWhile_expired {timers : List TimerNode} (now : ℤ)
    (sorted : timers.Pairwise fun lhs rhs => lhs.timer.expiry ≤ rhs.timer.expiry) (entry : TimerNode) :
    entry ∈ timers.takeWhile (fun entry => decide (entry.timer.expiry ≤ now)) ↔
      entry ∈ timers ∧ entry.timer.expiry ≤ now := by
  induction timers with
  | nil => simp
  | cons head rest ih =>
    obtain ⟨least, sorted⟩ := List.pairwise_cons.mp sorted
    by_cases expired : head.timer.expiry ≤ now
    · rw [List.takeWhile_cons, if_pos (decide_eq_true expired), List.mem_cons, List.mem_cons, ih sorted]
      constructor
      · rintro (rfl | ⟨member, late⟩)
        · exact ⟨.inl rfl, expired⟩
        · exact ⟨.inr member, late⟩
      · rintro ⟨rfl | member, late⟩
        · exact .inl rfl
        · exact .inr ⟨member, late⟩
    · rw [List.takeWhile_cons, if_neg fun early => expired (of_decide_eq_true early)]
      refine iff_of_false List.not_mem_nil ?_
      rintro ⟨member, late⟩
      rcases List.mem_cons.mp member with rfl | later
      · exact expired late
      · exact expired ((least entry later).trans late)

/-- **A flush takes out the packets whose timers have expired**, and the callback gets those of them
whose lifetimes are not over. -/
theorem flush_spec (consistent : cbf.buffer.Consistent) (ordered : Ordered cbf.buffer.timers) :
    (cbf.flush self).2.Sound self ∧ cbf.buffer.Evolves (cbf.flush self).2.buffer ∧
      (cbf.flush self).1 = (cbf.buffer.timers.takeWhile fun entry =>
        entry.timer.expiry ≤ cbf.runtime.now).filterMap cbf.served ∧
      ∀ other, other ∈ (cbf.flush self).2.buffer.timers ↔
        other ∈ cbf.buffer.timers ∧ cbf.runtime.now < other.timer.expiry := by
  have part : (cbf.buffer.timers.takeWhile fun entry =>
      entry.timer.expiry ≤ cbf.runtime.now).Sublist cbf.buffer.timers :=
    (List.takeWhile_prefix _).sublist
  obtain ⟨served, next, left⟩ := flushAll_spec _ consistent
    (consistent.timer_ids.sublist (part.map _)) fun entry among => part.subset among
  have remaining : ∀ other, other ∈ (cbf.flush self).2.buffer.timers ↔
      other ∈ cbf.buffer.timers ∧ cbf.runtime.now < other.timer.expiry := by
    intro other
    unfold flush
    dsimp only
    rw [scheduleTimer_buffer, left]
    refine and_congr_right fun member => ⟨fun kept => ?_, fun early entry among same => ?_⟩
    · refine lt_of_not_ge fun late => ?_
      exact kept other ((mem_takeWhile_expired _ ordered.sorted other).mpr ⟨member, late⟩) rfl
    · obtain ⟨entryMember, late⟩ := (mem_takeWhile_expired _ ordered.sorted entry).mp among
      rw [← List.inj_on_of_nodup_map consistent.timer_ids member entryMember same] at late
      exact absurd late (not_le.mpr early)
  have scheduled : (cbf.flush self).2.buffer.timers ≠ [] →
      Scheduled self (cbf.flush self).2.runtime := by
    intro held
    unfold flush at held ⊢
    dsimp only at held ⊢
    rw [scheduleTimer_buffer] at held
    exact scheduleTimer_scheduled held
  refine ⟨⟨flush_consistent consistent, (flush_ordered self cbf consistent ordered).1, scheduled⟩,
    ⟨?_, fun entry member => .inl ⟨entry, ((remaining entry).mp member).1, rfl⟩⟩, served, remaining⟩
  unfold flush
  dsimp only
  rw [scheduleTimer_buffer]
  exact next.ge

end Cbf

end Vanet.Geonet
