/-
**What becomes of a packet in a contention buffer.**

A packet that is in the buffer after an operation has just entered, has been there as it is, or has
been there and got a new timer now, with its lifetime reduced by the time of the old one (`Inherits`).
What is fetched or flushed is a packet of the buffer with its lifetime reduced likewise.

* `step_inherits`: one step, whatever the operation.
* `fetch_returns`, `flush_returns`: what leaves the buffer.
-/

import Vanet.Geonet.CbfOperations

namespace Vanet.Geonet

open Vanet.Common
open Vanet.Net hiding ByteBuffer

variable {φ κ ς : Type}

namespace CbfPacketBuffer

/-- The packet of the timer is in the buffer. -/
def Contains (buffer : CbfPacketBuffer φ) (entry : TimerNode) (packet : CbfPacket φ) : Prop :=
  entry ∈ buffer.timers ∧ ⟨entry.info, packet⟩ ∈ buffer.packets

/-- A timer and its packet at a later time: as they were, or renewed now. -/
inductive Ages (now : ℤ) : TimerNode × CbfPacket φ → TimerNode × CbfPacket φ → Prop
  | kept (entry : TimerNode) (packet : CbfPacket φ) : Ages now (entry, packet) (entry, packet)
  | renewed (entry : TimerNode) (packet : CbfPacket φ) (timeout : ℤ) :
    Ages now (entry, packet) ({ entry with timer := .starting now timeout },
      (packet.reduceLifetime (now - entry.timer.start)).2)

/-- **What the buffer holds** has just entered, or has been there. -/
def Inherits (now : ℤ) (before after : CbfPacketBuffer φ) : Prop :=
  ∀ entry packet, after.Contains entry packet → before.nextRef ≤ entry.info ∨
    ∃ old oldPacket, before.Contains old oldPacket ∧ old.info = entry.info ∧
      Ages now (old, oldPacket) (entry, packet)

/-- The one buffer is a part of the other one. -/
structure Part (after before : CbfPacketBuffer φ) : Prop where
  timers : after.timers ⊆ before.timers
  packets : after.packets ⊆ before.packets

theorem Part.refl (buffer : CbfPacketBuffer φ) : Part buffer buffer :=
  ⟨List.Subset.refl _, List.Subset.refl _⟩

theorem Part.trans {first second third : CbfPacketBuffer φ} (left : Part first second)
    (right : Part second third) : Part first third :=
  ⟨List.Subset.trans left.timers right.timers, List.Subset.trans left.packets right.packets⟩

theorem Part.inherits {before after : CbfPacketBuffer φ} (part : Part after before) (now : ℤ) :
    Inherits now before after :=
  fun entry packet holds => .inr ⟨entry, packet, ⟨part.timers holds.1, part.packets holds.2⟩, rfl,
    .kept entry packet⟩

theorem mem_of_deref {buffer : CbfPacketBuffer φ} {ref : ℕ} {packet : CbfPacket φ}
    (followed : buffer.deref ref = some packet) : ⟨ref, packet⟩ ∈ buffer.packets := by
  obtain ⟨node, found, rfl⟩ := Option.map_eq_some_iff.mp followed
  have same : node.ref = ref := of_decide_eq_true
    (List.find?_some (p := fun node : PacketNode φ => decide (node.ref = ref)) found)
  rw [← same]
  exact List.mem_of_find?_eq_some found

section Unique

variable {buffer : CbfPacketBuffer φ} {entry other : TimerNode} {packet otherPacket : CbfPacket φ}

/-- What is found is in the buffer. -/
theorem Finds.contains {id : PacketIdentifier} (finds : buffer.Finds id entry packet) :
    buffer.Contains entry packet ∧ entry.id = id :=
  ⟨⟨finds.member.1, mem_of_deref finds.packet⟩, finds.member.2⟩

/-- A number of a node belongs to one packet. -/
theorem Contains.unique (holds : buffer.Contains entry packet) (others : buffer.Contains other otherPacket)
    (consistent : buffer.Consistent) (same : other.info = entry.info) :
    other = entry ∧ otherPacket = packet := by
  refine ⟨List.inj_on_of_nodup_map consistent.timer_infos others.1 holds.1 same, ?_⟩
  have equal := List.inj_on_of_nodup_map consistent.refs others.2 holds.2 same
  exact (PacketNode.mk.inj equal).2

/-- So does an identifier. -/
theorem Contains.unique_identifier (holds : buffer.Contains entry packet)
    (others : buffer.Contains other otherPacket) (consistent : buffer.Consistent)
    (same : otherPacket.identifier = packet.identifier) : other = entry ∧ otherPacket = packet := by
  have equal := List.inj_on_of_nodup_map consistent.ids others.2 holds.2 same
  exact holds.unique others consistent (PacketNode.mk.inj equal).1

/-- **A packet that stays in the buffer.** -/
theorem Inherits.ages {after : CbfPacketBuffer φ} {now : ℤ} (inherits : Inherits now buffer after)
    (consistent : buffer.Consistent) (holds : buffer.Contains entry packet)
    (later : after.Contains other otherPacket) (same : other.info = entry.info) :
    Ages now (entry, packet) (other, otherPacket) := by
  obtain fresh | ⟨old, oldPacket, held, linked, ages⟩ := inherits other otherPacket later
  · have used := consistent.timer_used holds.1
    omega
  · obtain ⟨rfl, rfl⟩ := holds.unique held consistent (linked.trans same)
    exact ages

end Unique

/-! ### Parts of the operations -/

theorem takeOut_part (buffer : CbfPacketBuffer φ) (entry : TimerNode) (packet : CbfPacket φ) :
    Part (buffer.takeOut entry packet) buffer :=
  ⟨List.filter_subset_self _, List.filter_subset_self _⟩

/-- What has been written is taken out again. -/
theorem write_takeOut_part (buffer : CbfPacketBuffer φ) (entry : TimerNode)
    (packet : CbfPacket φ) :
    Part ((buffer.write entry.info packet).takeOut entry packet) buffer := by
  refine ⟨List.filter_subset_self _, ?_⟩
  intro node among
  obtain ⟨written, elsewhere⟩ := List.mem_filter.mp among
  obtain ⟨original, present, same⟩ := List.mem_map.mp written
  have apart : node.ref ≠ entry.info := of_decide_eq_true elsewhere
  split_ifs at same with there
  · rw [← same] at apart
    exact absurd there apart
  · rwa [← same]

theorem dropHeads_part (rounds : ℕ) : ∀ buffer : CbfPacketBuffer φ,
    Part (buffer.dropHeads rounds) buffer := by
  induction rounds with
  | zero => exact Part.refl
  | succ rounds ih =>
    intro buffer
    unfold dropHeads
    cases packets : buffer.packets with
    | nil => exact .refl buffer
    | cons front rest =>
      dsimp only
      split_ifs
      · refine (ih _).trans ⟨List.filter_subset_self _, ?_⟩
        rw [packets]
        exact List.subset_cons_self front rest
      · exact .refl buffer

theorem makeRoom_part (buffer : CbfPacketBuffer φ) (packet : CbfPacket φ) :
    Part (buffer.makeRoom packet) buffer := by
  obtain ⟨timers, packets⟩ := dropHeads_part buffer.packets.length
    { buffer with storedBytes := buffer.storedBytes + packet.length }
  exact ⟨timers, packets⟩

theorem emplace_inherits (buffer : CbfPacketBuffer φ) (now : ℤ) (packet : CbfPacket φ)
    (timeout : ℤ) (node : ℕ) : Inherits now buffer (buffer.emplace now packet timeout node) := by
  intro entry old holds
  have kept (holds : buffer.Contains entry old) : buffer.nextRef ≤ entry.info ∨
      ∃ other otherPacket, buffer.Contains other otherPacket ∧ other.info = entry.info ∧
        Ages now (other, otherPacket) (entry, old) :=
    .inr ⟨entry, old, holds, rfl, .kept entry old⟩
  unfold emplace insertTimer at holds
  dsimp only at holds
  by_cases known : (buffer.timers.any fun other => other.id = packet.identifier) = true
  · rw [if_pos known] at holds
    exact kept holds
  · rw [if_neg known] at holds
    obtain ⟨timed, listed⟩ := holds
    rcases (List.mem_orderedInsert _).mp timed with rfl | earlier
    · exact .inl le_rfl
    · rcases List.mem_append.mp listed with present | last
      · exact kept ⟨earlier, present⟩
      · have same := congrArg PacketNode.ref (List.mem_singleton.mp last)
        exact .inl (le_of_eq same.symm)

end CbfPacketBuffer

namespace Cbf

open CbfPacketBuffer

variable [DecidableEq ς] {self : FlushTimer κ ς} {cbf after : Cbf φ κ ς}

/-! ### The operations -/

theorem drop_part (entry : TimerNode) (packet : CbfPacket φ) :
    Part (cbf.drop self entry packet).buffer cbf.buffer := by
  rw [drop_buffer]
  exact takeOut_part _ _ _

theorem remove_part (id : PacketIdentifier) : Part (cbf.remove self id).2.buffer cbf.buffer := by
  rcases cbf.buffer.find_cases id with absent | ⟨entry, packet, finds⟩
  · rw [remove_of_none self absent]
    exact .refl _
  · rw [remove_of_finds self finds]
    exact drop_part entry packet

theorem fetch_part (id : PacketIdentifier) : Part (cbf.fetch self id).2.buffer cbf.buffer := by
  rcases cbf.buffer.find_cases id with absent | ⟨entry, packet, finds⟩
  · rw [fetch_of_none self absent]
    exact .refl _
  · rw [fetch_of_finds self finds, drop_buffer]
    exact write_takeOut_part _ _ _

theorem fetch_now (id : PacketIdentifier) :
    (cbf.fetch self id).2.runtime.now = cbf.runtime.now := by
  rcases cbf.buffer.find_cases id with absent | ⟨entry, packet, finds⟩
  · rw [fetch_of_none self absent]
  · rw [fetch_of_finds self finds]
    exact drop_now self _ _ _

omit [DecidableEq ς] in
theorem flushOne_part (entry : TimerNode) : Part (cbf.flushOne entry).2.buffer cbf.buffer := by
  unfold flushOne
  cases cbf.buffer.deref entry.info with
  | none => exact .refl _
  | some packet => exact write_takeOut_part _ _ _

omit [DecidableEq ς] in
theorem flushAll_part (entries : List TimerNode) : ∀ cbf : Cbf φ κ ς,
    Part (cbf.flushAll entries).2.buffer cbf.buffer := by
  induction entries with
  | nil => exact fun cbf => .refl _
  | cons entry rest ih => exact fun cbf => (ih _).trans (flushOne_part entry)

theorem flush_part : Part (cbf.flush self).2.buffer cbf.buffer := by
  unfold flush
  dsimp only
  rw [scheduleTimer_buffer]
  exact flushAll_part _ cbf

theorem add_inherits (packet : CbfPacket φ) (timeout : ℤ) (node : ℕ) :
    Inherits cbf.runtime.now cbf.buffer (cbf.add self packet timeout node).buffer := by
  have added : Inherits cbf.runtime.now cbf.buffer
      ((cbf.buffer.makeRoom packet).emplace cbf.runtime.now packet timeout node) := by
    have room := makeRoom_part cbf.buffer packet
    have next : (cbf.buffer.makeRoom packet).nextRef = cbf.buffer.nextRef := dropHeads_nextRef _ _
    intro entry old holds
    rcases emplace_inherits _ _ _ _ _ entry old holds with fresh | ⟨other, packet, held, rest⟩
    · exact .inl (next ▸ fresh)
    · exact .inr ⟨other, packet, ⟨room.timers held.1, room.packets held.2⟩, rest⟩
  unfold add
  dsimp only
  split_ifs
  · exact (Part.refl _).inherits _
  · rw [scheduleTimer_buffer]
    exact added
  · exact added

/-- The timer of a packet that enters starts now. -/
theorem add_starts {packet other : CbfPacket φ} {timeout : ℤ} {node : ℕ} {entry : TimerNode}
    (consistent : cbf.buffer.Consistent)
    (holds : (cbf.add self packet timeout node).buffer.Contains entry other)
    (fresh : cbf.buffer.nextRef ≤ entry.info) : entry.timer.start = cbf.runtime.now := by
  have absent : entry ∉ cbf.buffer.timers := fun present => by
    have used := consistent.timer_used present
    omega
  have added (timed : entry ∈
      ((cbf.buffer.makeRoom packet).emplace cbf.runtime.now packet timeout node).timers) :
      entry.timer.start = cbf.runtime.now := by
    have room := (makeRoom_timers cbf.buffer packet).subset
    rcases emplace_timers (cbf.buffer.makeRoom packet) cbf.runtime.now packet timeout node with
      ⟨_, same⟩ | ⟨_, inserted⟩
    · rw [same] at timed
      exact absurd (room timed) absent
    · rw [inserted] at timed
      rcases (List.mem_orderedInsert _).mp timed with rfl | earlier
      · rfl
      · exact absurd (room earlier) absent
  obtain ⟨timed, _⟩ := holds
  unfold add at timed
  dsimp only at timed
  split_ifs at timed
  · exact absurd timed absent
  · rw [scheduleTimer_buffer] at timed
    exact added timed
  · exact added timed

omit [DecidableEq ς] in
/-- **An update** renews the packet's timer, and its lifetime is reduced by the time of the old one. -/
theorem update_inherits (consistent : cbf.buffer.Consistent) (id : PacketIdentifier) (timeout : ℤ) :
    Inherits cbf.runtime.now cbf.buffer (cbf.update id timeout).buffer := by
  rcases cbf.buffer.find_cases id with absent | ⟨entry, packet, finds⟩
  · rw [update_of_none absent]
    exact (Part.refl _).inherits _
  obtain ⟨holds, rfl⟩ := finds.contains
  obtain ⟨ahead, behind, split, apart, replaced⟩ := replaceData_perm
    (.starting cbf.runtime.now timeout) consistent.timer_ids holds.1
  rw [update_of_finds finds]
  rintro other otherPacket ⟨timed, listed⟩
  obtain ⟨node, present, written⟩ := List.mem_map.mp listed
  rcases List.mem_cons.mp (replaced.subset timed) with rfl | old
  · refine .inr ⟨entry, packet, holds, rfl, ?_⟩
    split_ifs at written with there
    · obtain rfl := (PacketNode.mk.inj written).2
      exact .renewed entry packet timeout
    · rw [written] at there
      exact absurd rfl there
  · have earlier : other ∈ cbf.buffer.timers := by
      rw [split]
      exact ((List.sublist_cons_self entry behind).append_left ahead).subset old
    have elsewhere : other.info ≠ entry.info := fun same => by
      rw [List.inj_on_of_nodup_map consistent.timer_infos earlier holds.1 same] at old
      exact apart entry old rfl
    split_ifs at written with there
    · have same := (PacketNode.mk.inj written).1
      exact absurd (same.symm.trans there) elsewhere
    · rw [written] at present
      exact .inr ⟨other, otherPacket, ⟨earlier, present⟩, rfl, .kept _ _⟩

theorem Makes.inherits {action : Action φ κ ς} {buffer : CbfPacketBuffer φ}
    (makes : Makes self cbf action buffer) (consistent : cbf.buffer.Consistent) :
    Inherits cbf.runtime.now cbf.buffer buffer := by
  cases makes with
  | add packet timeout node => exact add_inherits packet timeout node
  | remove id => exact (remove_part id).inherits _
  | update id timeout => exact update_inherits consistent id timeout
  | fetch id => exact (fetch_part id).inherits _
  | flush runtime => exact (@flush_part _ _ _ _ self { cbf with runtime }).inherits _
  | rests => exact (Part.refl _).inherits _

/-- **One step.** -/
theorem step_inherits {action : Action φ κ ς} (consistent : cbf.buffer.Consistent)
    (taken : cbf.step self action = some after) :
    Inherits cbf.runtime.now cbf.buffer after.buffer :=
  (step_makes taken).inherits consistent

/-- Only the clock makes time pass. -/
theorem step_now_le {action : Action φ κ ς} (taken : cbf.step self action = some after) :
    cbf.runtime.now ≤ after.runtime.now := by
  cases action with
  | add packet timeout node =>
    simp only [step] at taken
    split_ifs at taken
    cases taken
    exact (add_now self cbf packet timeout node).ge
  | remove id =>
    cases taken
    exact (remove_now self cbf id).ge
  | update id timeout =>
    cases taken
    exact (update_now cbf id timeout).ge
  | fetch id =>
    cases taken
    exact (fetch_now id).ge
  | flush =>
    cases taken
    exact (flush_now self cbf).ge
  | advance d =>
    simp only [step] at taken
    split_ifs at taken with forward
    cases taken
    exact le_add_of_nonneg_right forward
  | fire =>
    obtain ⟨due, popped, rfl⟩ := Option.map_eq_some_iff.mp taken
    obtain ⟨rest, _, _, same⟩ := ManualRuntime.popDue_some.mp popped
    have now : due.2.now = cbf.runtime.now := by rw [same]
    split_ifs
    · rw [flush_now]
      exact now.ge
    · exact now.ge
  | schedule other =>
    simp only [step] at taken
    split_ifs at taken
    cases taken
    exact le_rfl
  | cancel scope =>
    simp only [step] at taken
    split_ifs at taken
    cases taken
    exact (ManualRuntime.cancel_now _ _).ge

/-! ### What leaves the buffer -/

/-- **What is fetched.** -/
theorem fetch_returns {id : PacketIdentifier} {fetched : CbfPacket φ}
    (returned : (cbf.fetch self id).1 = some fetched) :
    ∃ entry packet, cbf.buffer.Contains entry packet ∧ entry.id = id ∧
      fetched = (packet.reduceLifetime (cbf.runtime.now - entry.timer.start)).2 := by
  rcases cbf.buffer.find_cases id with absent | ⟨entry, packet, finds⟩
  · rw [fetch_of_none self absent] at returned
    cases returned
  · rw [fetch_of_finds self finds] at returned
    obtain ⟨_, same⟩ := Option.ite_none_right_eq_some.mp returned
    cases same
    obtain ⟨holds, same⟩ := finds.contains
    exact ⟨entry, packet, holds, same, rfl⟩

omit [DecidableEq ς] in
theorem flushAll_returns (entries : List TimerNode) : ∀ (cbf : Cbf φ κ ς),
    ∀ flushed ∈ (cbf.flushAll entries).1, ∃ entry ∈ entries, ∃ packet,
      ⟨entry.info, packet⟩ ∈ cbf.buffer.packets ∧
        flushed = (packet.reduceLifetime (cbf.runtime.now - entry.timer.start)).2.packet := by
  induction entries with
  | nil => exact fun cbf flushed none => absurd none List.not_mem_nil
  | cons entry rest ih =>
    intro cbf flushed among
    have now : (cbf.flushOne entry).2.runtime.now = cbf.runtime.now := by
      unfold flushOne
      split <;> rfl
    rcases List.mem_append.mp among with first | later
    · unfold flushOne at first
      cases followed : cbf.buffer.deref entry.info with
      | none =>
        rw [followed] at first
        cases first
      | some packet =>
        rw [followed] at first
        dsimp only at first
        split_ifs at first
        · cases List.mem_singleton.mp first
          exact ⟨entry, List.mem_cons_self, packet, mem_of_deref followed, rfl⟩
        · cases first
    · obtain ⟨other, member, packet, present, same⟩ := ih _ flushed later
      rw [now] at same
      exact ⟨other, List.mem_cons_of_mem _ member, packet, (flushOne_part entry).packets present, same⟩

/-- **What is flushed.** -/
theorem flush_returns {flushed : PendingPacket GeoBroadcastHeader φ}
    (returned : flushed ∈ (cbf.flush self).1) :
    ∃ entry packet, cbf.buffer.Contains entry packet ∧
      flushed = (packet.reduceLifetime (cbf.runtime.now - entry.timer.start)).2.packet := by
  obtain ⟨entry, among, packet, present, same⟩ := flushAll_returns _ cbf flushed returned
  exact ⟨entry, packet, ⟨(List.takeWhile_prefix _).subset among, present⟩, same⟩

end Cbf

end Vanet.Geonet
