/-
**The capacity of a contention buffer.**

`add` drops heads until the new packet fits, before it knows whether there is one of that identifier
already. So a duplicate may push other packets out, or the packet that it is a duplicate of; and a packet
that is longer than the whole buffer enters when all others are gone.

* `makeRoom_fits`: the head drops make room for every packet that is not too long.
* `add_long`, `add_duplicate_crowded`: what goes wrong.
* `capacity_kept_iff`: over every run.
-/

import Mathlib.Algebra.Order.BigOperators.Group.List
import Vanet.Geonet.CbfContents

namespace Vanet.Geonet

open Vanet.Common Vanet.Library
open Vanet.Net hiding ByteBuffer

variable {φ κ ς : Type}

namespace CbfPacketBuffer

variable {buffer after : CbfPacketBuffer φ} {packet : CbfPacket φ}

/-! ### Head drops -/

theorem bytes_nonneg (packets : List (PacketNode φ)) : 0 ≤ bytes packets := by
  apply List.sum_nonneg
  intro length member
  obtain ⟨node, _, rfl⟩ := List.mem_map.mp member
  exact Int.natCast_nonneg _

theorem dropHeads_capacityBytes (rounds : ℕ) : ∀ buffer : CbfPacketBuffer φ,
    (buffer.dropHeads rounds).capacityBytes = buffer.capacityBytes := by
  induction rounds with
  | zero => exact fun _ => rfl
  | succ rounds ih =>
    intro buffer
    unfold dropHeads
    cases buffer.packets with
    | nil => rfl
    | cons front rest =>
      dsimp only
      split_ifs
      · exact ih _
      · rfl

/-- The loop ends when there is room, or when there is nothing left to drop. -/
theorem dropHeads_ends (rounds : ℕ) : ∀ {buffer : CbfPacketBuffer φ}, buffer.packets.length ≤ rounds →
    (buffer.dropHeads rounds).storedBytes ≤ buffer.capacityBytes ∨
      (buffer.dropHeads rounds).packets = [] := by
  induction rounds with
  | zero =>
    intro buffer enough
    exact .inr (List.length_eq_zero_iff.mp (Nat.le_zero.mp enough))
  | succ rounds ih =>
    intro buffer enough
    unfold dropHeads
    cases packets : buffer.packets with
    | nil => exact .inr packets
    | cons front rest =>
      rw [packets, List.length_cons] at enough
      dsimp only
      split_ifs with full
      · exact ih (Nat.le_of_succ_le_succ enough)
      · exact .inl (Int.not_lt.mp full)

theorem makeRoom_capacityBytes (buffer : CbfPacketBuffer φ) (packet : CbfPacket φ) :
    (buffer.makeRoom packet).capacityBytes = buffer.capacityBytes :=
  dropHeads_capacityBytes _ _

/-- **What the new packet finds**: its length has been counted, and there is room for it or nothing is
left. -/
theorem Consistent.makeRoom_stored (consistent : buffer.Consistent) (packet : CbfPacket φ) :
    (buffer.makeRoom packet).storedBytes = bytes (buffer.makeRoom packet).packets + packet.length ∧
      ((buffer.makeRoom packet).storedBytes ≤ buffer.capacityBytes ∨
        (buffer.makeRoom packet).packets = []) := by
  have counted : (buffer.makeRoom packet).storedBytes - packet.length =
      bytes (buffer.makeRoom packet).packets := (consistent.makeRoom packet).stored
  refine ⟨by omega, ?_⟩
  let filled := { buffer with storedBytes := buffer.storedBytes + packet.length }
  have ends : (filled.dropHeads buffer.packets.length).storedBytes ≤ buffer.capacityBytes ∨
      (filled.dropHeads buffer.packets.length).packets = [] := dropHeads_ends _ le_rfl
  exact ends

/-- **There is room** for a packet that is no longer than the buffer. -/
theorem Consistent.makeRoom_fits (consistent : buffer.Consistent)
    (short : packet.length ≤ buffer.capacityBytes) :
    (buffer.makeRoom packet).storedBytes ≤ buffer.capacityBytes := by
  obtain ⟨counted, room | nothing⟩ := consistent.makeRoom_stored packet
  · exact room
  · rw [counted, nothing]
    show (0 : ℤ) + packet.length ≤ buffer.capacityBytes
    omega

/-- Nothing is left when a packet enters that is longer than the buffer. -/
theorem Consistent.makeRoom_long (consistent : buffer.Consistent)
    (long : buffer.capacityBytes < packet.length) : (buffer.makeRoom packet).packets = [] := by
  obtain ⟨counted, room | nothing⟩ := consistent.makeRoom_stored packet
  · have some := bytes_nonneg (buffer.makeRoom packet).packets
    omega
  · exact nothing

/-- An emplaced packet has been counted before. -/
theorem emplace_stored (buffer : CbfPacketBuffer φ) (now : ℤ) (packet : CbfPacket φ) (timeout : ℤ)
    (node : ℕ) :
    (buffer.emplace now packet timeout node).capacityBytes = buffer.capacityBytes ∧
      (buffer.emplace now packet timeout node).storedBytes ≤ buffer.storedBytes := by
  unfold emplace
  dsimp only
  split_ifs
  · exact ⟨rfl, le_rfl⟩
  · refine ⟨rfl, ?_⟩
    show buffer.storedBytes - packet.length ≤ buffer.storedBytes
    omega

/-- Only a packet that has just been emplaced is new in the list. -/
theorem mem_emplace {node : PacketNode φ} {now timeout : ℤ} {address : ℕ}
    (member : node ∈ (buffer.emplace now packet timeout address).packets) :
    node ∈ buffer.packets ∨ node = ⟨buffer.nextRef, packet⟩ := by
  unfold emplace at member
  dsimp only at member
  split_ifs at member
  · rcases List.mem_append.mp member with old | new
    · exact .inl old
    · exact .inr (List.mem_singleton.mp new)
  · exact .inl member

/-! ### What leaves a buffer -/

/-- **No operation but `add` stores more.** -/
structure Shrinks (before after : CbfPacketBuffer φ) : Prop where
  capacity : after.capacityBytes = before.capacityBytes
  stored : after.storedBytes ≤ before.storedBytes

theorem Shrinks.refl (buffer : CbfPacketBuffer φ) : Shrinks buffer buffer := ⟨rfl, le_rfl⟩

theorem Shrinks.trans {last : CbfPacketBuffer φ} (first : Shrinks buffer after)
    (second : Shrinks after last) : Shrinks buffer last :=
  ⟨second.capacity.trans first.capacity, second.stored.trans first.stored⟩

theorem takeOut_shrinks (buffer : CbfPacketBuffer φ) (entry : TimerNode) (packet : CbfPacket φ) :
    Shrinks buffer (buffer.takeOut entry packet) := by
  refine ⟨rfl, ?_⟩
  show buffer.storedBytes - packet.length ≤ buffer.storedBytes
  omega

theorem write_shrinks (buffer : CbfPacketBuffer φ) (ref : ℕ) (packet : CbfPacket φ) :
    Shrinks buffer (buffer.write ref packet) :=
  ⟨rfl, le_rfl⟩

end CbfPacketBuffer

namespace Cbf

open CbfPacketBuffer

section Shrinking

variable [DecidableEq ς] {self : FlushTimer κ ς} {cbf after : Cbf φ κ ς}

theorem drop_shrinks (entry : TimerNode) (packet : CbfPacket φ) :
    Shrinks cbf.buffer (cbf.drop self entry packet).buffer := by
  rw [drop_buffer]
  exact takeOut_shrinks _ _ _

theorem remove_shrinks (id : PacketIdentifier) :
    Shrinks cbf.buffer (cbf.remove self id).2.buffer := by
  rcases cbf.buffer.find_cases id with absent | ⟨entry, packet, finds⟩
  · rw [remove_of_none self absent]
    exact .refl _
  · rw [remove_of_finds self finds]
    exact drop_shrinks entry packet

theorem fetch_shrinks (id : PacketIdentifier) :
    Shrinks cbf.buffer (cbf.fetch self id).2.buffer := by
  rcases cbf.buffer.find_cases id with absent | ⟨entry, packet, finds⟩
  · rw [fetch_of_none self absent]
    exact .refl _
  · rw [fetch_of_finds self finds, drop_buffer]
    exact (write_shrinks _ _ _).trans (takeOut_shrinks _ _ _)

omit [DecidableEq ς] in
theorem update_shrinks (id : PacketIdentifier) (timeout : ℤ) :
    Shrinks cbf.buffer (cbf.update id timeout).buffer := by
  rcases cbf.buffer.find_cases id with absent | ⟨entry, packet, finds⟩
  · rw [update_of_none absent]
    exact .refl _
  · rw [update_of_finds finds]
    exact ⟨rfl, le_rfl⟩

omit [DecidableEq ς] in
theorem flushAll_shrinks (entries : List TimerNode) : ∀ cbf : Cbf φ κ ς,
    Shrinks cbf.buffer (cbf.flushAll entries).2.buffer := by
  induction entries with
  | nil => exact fun _ => .refl _
  | cons entry rest ih =>
    intro cbf
    have one : Shrinks cbf.buffer (cbf.flushOne entry).2.buffer := by
      unfold flushOne
      cases cbf.buffer.deref entry.info with
      | none => exact .refl _
      | some packet => exact (write_shrinks _ _ _).trans (takeOut_shrinks _ _ _)
    exact one.trans (ih _)

theorem flush_shrinks : Shrinks cbf.buffer (cbf.flush self).2.buffer := by
  unfold flush
  dsimp only
  rw [scheduleTimer_buffer]
  exact flushAll_shrinks _ cbf

end Shrinking

/-! ### What `add` does -/

section Adding

variable [DecidableEq ς] {self : FlushTimer κ ς} {cbf after : Cbf φ κ ς} {packet : CbfPacket φ}
  {timeout : ℤ} {node : ℕ}

/-- There is a packet of this identifier in the buffer. -/
def Buffered (cbf : Cbf φ κ ς) (id : PacketIdentifier) : Prop :=
  ∃ other ∈ cbf.buffer.packets, other.packet.identifier = id

theorem add_buffer (positive : 0 < timeout) :
    (cbf.add self packet timeout node).buffer =
      (cbf.buffer.makeRoom packet).emplace cbf.runtime.now packet timeout node := by
  unfold add
  rw [if_neg (not_le.mpr positive)]
  dsimp only
  split_ifs
  · exact scheduleTimer_buffer _
  · rfl

theorem add_capacityBytes :
    (cbf.add self packet timeout node).buffer.capacityBytes = cbf.buffer.capacityBytes := by
  by_cases early : timeout ≤ 0
  · unfold add
    rw [if_pos early]
  · rw [add_buffer (not_le.mp early), (emplace_stored _ _ _ _ _).1, makeRoom_capacityBytes]

/-- **A packet that is not too long** leaves the buffer within its capacity. -/
theorem add_short (consistent : cbf.buffer.Consistent)
    (within : cbf.buffer.storedBytes ≤ cbf.buffer.capacityBytes)
    (short : packet.length ≤ cbf.buffer.capacityBytes) :
    (cbf.add self packet timeout node).buffer.storedBytes ≤ cbf.buffer.capacityBytes := by
  by_cases early : timeout ≤ 0
  · unfold add
    rw [if_pos early]
    exact within
  · rw [add_buffer (not_le.mp early)]
    exact (emplace_stored _ _ _ _ _).2.trans (consistent.makeRoom_fits short)

/-- **A packet that is longer than the buffer** enters it all the same. -/
theorem add_long (consistent : cbf.buffer.Consistent) (positive : 0 < timeout)
    (long : cbf.buffer.capacityBytes < packet.length) :
    cbf.buffer.capacityBytes < (cbf.add self packet timeout node).buffer.storedBytes := by
  have nothing := consistent.makeRoom_long long
  have untimed : (cbf.buffer.makeRoom packet).timers = [] := by
    have linked := (consistent.makeRoom packet).linked
    dsimp only at linked
    rw [nothing, List.map_nil] at linked
    exact List.map_eq_nil_iff.mp linked.eq_nil
  have counted := (consistent.makeRoom_stored packet).1
  rw [nothing] at counted
  rw [add_buffer positive]
  unfold emplace insertTimer
  rw [untimed]
  show (cbf.buffer.capacityBytes : ℤ) < (cbf.buffer.makeRoom packet).storedBytes
  rw [counted]
  show (cbf.buffer.capacityBytes : ℤ) < 0 + packet.length
  omega

omit [DecidableEq ς] in
/-- The timer of a buffered packet is found. -/
theorem Buffered.timed (consistent : cbf.buffer.Consistent)
    (buffered : cbf.Buffered packet.identifier) :
    ∃ entry ∈ cbf.buffer.timers, entry.id = packet.identifier := by
  obtain ⟨other, member, same⟩ := buffered
  have listed := consistent.linked.symm.subset (List.mem_map_of_mem member)
  obtain ⟨entry, among, equal⟩ := List.mem_map.mp listed
  exact ⟨entry, among, (congrArg Prod.snd equal).trans same⟩

/-- **A duplicate that there would be room for** changes nothing. -/
theorem add_duplicate (consistent : cbf.buffer.Consistent)
    (buffered : cbf.Buffered packet.identifier)
    (fits : cbf.buffer.storedBytes + packet.length ≤ cbf.buffer.capacityBytes) :
    cbf.add self packet timeout node = cbf := by
  obtain ⟨entry, among, same⟩ := buffered.timed consistent
  have known : (cbf.buffer.timers.any fun other => other.id = packet.identifier) = true :=
    List.any_eq_true.mpr ⟨entry, among, decide_eq_true same⟩
  have room : cbf.buffer.makeRoom packet =
      { cbf.buffer with storedBytes := cbf.buffer.storedBytes + packet.length } := by
    unfold makeRoom
    exact dropHeads_fits _ fits
  have emplaced : (cbf.buffer.makeRoom packet).emplace cbf.runtime.now packet timeout node =
      cbf.buffer := by
    unfold emplace insertTimer
    rw [room]
    dsimp only
    rw [if_pos known, if_neg Bool.false_ne_true, Int.add_sub_cancel]
  unfold add
  dsimp only
  rw [emplaced]
  split_ifs with early moved
  · rfl
  · exact absurd rfl moved
  · rfl

/-- **A packet that there is no room for** pushes the oldest one out, even if it does not enter itself. -/
theorem add_crowded (consistent : cbf.buffer.Consistent) (positive : 0 < timeout)
    (some : cbf.buffer.packets ≠ [])
    (crowded : cbf.buffer.capacityBytes < cbf.buffer.storedBytes + packet.length) :
    (cbf.add self packet timeout node).buffer.packets ≠ cbf.buffer.packets := by
  intro same
  rw [add_buffer positive] at same
  cases packets : cbf.buffer.packets with
  | nil => exact some packets
  | cons front rest =>
    have refs := consistent.refs
    have used := consistent.used front (by rw [packets]; exact List.mem_cons_self)
    rw [packets, List.map_cons, List.nodup_cons] at refs
    have room : (cbf.buffer.makeRoom packet).packets ⊆ rest := by
      unfold makeRoom
      rw [packets, List.length_cons]
      unfold dropHeads
      dsimp only
      rw [if_pos crowded]
      exact (dropHeads_part _ _).packets
    have stays : front ∈ ((cbf.buffer.makeRoom packet).emplace cbf.runtime.now packet timeout
        node).packets := by
      rw [same, packets]
      exact List.mem_cons_self
    rcases mem_emplace stays with old | new
    · exact refs.1 (List.mem_map_of_mem (room old))
    · have next : (cbf.buffer.makeRoom packet).nextRef = cbf.buffer.nextRef := dropHeads_nextRef _ _
      rw [new] at used
      dsimp only at used
      omega

end Adding

/-! ### Every run -/

/-- A buffer of this capacity that has just been constructed. -/
def Constructed (capacity : ℕ) (cbf : Cbf φ κ ς) : Prop :=
  ∃ counter now, counter.Created ∧ cbf = ⟨.empty counter capacity, ⟨now, []⟩⟩

/-- **What is expected of an operation**: the buffer does not hold more than its capacity, and adding a
duplicate changes neither its packets nor its timers. -/
structure Proper (capacity : ℕ) (before : Cbf φ κ ς) (action : Action φ κ ς) (after : Cbf φ κ ς) :
    Prop where
  capacity : bytes after.buffer.packets ≤ capacity
  duplicate : ∀ packet timeout node, action = .add packet timeout node →
    before.Buffered packet.identifier →
      after.buffer.packets = before.buffer.packets ∧ after.buffer.timers = before.buffer.timers

/-- **No packet is added that is longer than the buffer**, and no duplicate that there is no room for. -/
def Fitting (capacity : ℕ) (cbf : Cbf φ κ ς) : Action φ κ ς → Prop
  | .add packet timeout _ =>
    timeout ≤ 0 ∨
      packet.length ≤ capacity ∧
        (cbf.Buffered packet.identifier → bytes cbf.buffer.packets + packet.length ≤ capacity)
  | _ => True

instance (capacity : ℕ) (cbf : Cbf φ κ ς) (action : Action φ κ ς) : Decidable (Fitting capacity cbf action) := by
  cases action <;> unfold Fitting <;> unfold Buffered <;> infer_instance

/-- What holds of the buffer in runs of such operations. -/
structure Bounded (capacity : ℕ) (cbf : Cbf φ κ ς) : Prop where
  consistent : cbf.buffer.Consistent
  constructed : cbf.buffer.capacityBytes = capacity
  within : cbf.buffer.storedBytes ≤ capacity

section Runs

variable [DecidableEq ς] {self : FlushTimer κ ς} {capacity : ℕ} {before after : Cbf φ κ ς}
  {action : Action φ κ ς}

omit [DecidableEq ς] in
/-- An operation that only takes packets out. -/
theorem Bounded.shrinks (bounded : before.Bounded capacity) (consistent : after.buffer.Consistent)
    (shrinks : Shrinks before.buffer after.buffer) : after.Bounded capacity :=
  ⟨consistent, shrinks.capacity.trans bounded.constructed, shrinks.stored.trans bounded.within⟩

/-- **What a packet that is added may do**: exactly the fitting ones do what is expected. -/
theorem Bounded.add {packet : CbfPacket φ} {timeout : ℤ} {node : ℕ} (bounded : before.Bounded capacity) :
    Proper capacity before (.add packet timeout node) (before.add self packet timeout node) ↔
      Fitting capacity before (.add packet timeout node) := by
  obtain ⟨consistent, rfl, within⟩ := bounded
  have consistentAfter : (before.add self packet timeout node).buffer.Consistent :=
    add_consistent consistent packet timeout node
  by_cases early : timeout ≤ 0
  · have same : before.add self packet timeout node = before := by
      unfold Cbf.add
      rw [if_pos early]
    rw [same]
    refine iff_of_true ⟨?_, fun _ _ _ _ _ => ⟨rfl, rfl⟩⟩ (.inl early)
    rw [← consistent.stored]
    exact within
  have positive : 0 < timeout := not_le.mp early
  constructor
  · intro proper
    have short : packet.length ≤ before.buffer.capacityBytes := by
      by_contra long
      have exceeded : before.buffer.capacityBytes <
          (before.add self packet timeout node).buffer.storedBytes :=
        add_long consistent positive (not_le.mp long)
      rw [consistentAfter.stored] at exceeded
      exact absurd proper.capacity (not_le.mpr exceeded)
    refine .inr ⟨short, fun buffered => ?_⟩
    by_contra crowded
    have some : before.buffer.packets ≠ [] := by
      obtain ⟨other, member, _⟩ := buffered
      exact List.ne_nil_of_mem member
    rw [← consistent.stored] at crowded
    exact add_crowded consistent positive some (not_le.mp crowded)
      (proper.duplicate packet timeout node rfl buffered).1
  · rintro (now | ⟨short, fits⟩)
    · exact absurd now early
    · refine ⟨?_, ?_⟩
      · rw [← consistentAfter.stored]
        exact add_short consistent within short
      · intro other later address same buffered
        cases same
        rw [← consistent.stored] at fits
        rw [add_duplicate consistent buffered (fits buffered)]
        exact ⟨rfl, rfl⟩

/-- Only `add` puts a packet into the buffer. -/
theorem Makes.shrinks {buffer : CbfPacketBuffer φ} (makes : Makes self before action buffer)
    (apart : ∀ packet timeout node, action ≠ .add packet timeout node) : Shrinks before.buffer buffer := by
  cases makes with
  | add packet timeout node => exact absurd rfl (apart packet timeout node)
  | remove id => exact remove_shrinks id
  | update id timeout => exact update_shrinks id timeout
  | fetch id => exact fetch_shrinks id
  | flush runtime => exact @flush_shrinks _ _ _ _ self { before with runtime }
  | rests => exact .refl _

/-- **One step** of a run. -/
theorem Bounded.step (bounded : before.Bounded capacity) (taken : before.step self action = some after) :
    (Proper capacity before action after ↔ Fitting capacity before action) ∧
      (Fitting capacity before action → after.Bounded capacity) := by
  have consistent : after.buffer.Consistent := step_consistent bounded.consistent taken
  by_cases added : ∃ packet timeout node, action = .add packet timeout node
  · obtain ⟨packet, timeout, node, rfl⟩ := added
    obtain ⟨_, same⟩ := Option.ite_none_left_eq_some.mp taken
    cases same
    have decides : Proper capacity before (.add packet timeout node)
        (before.add self packet timeout node) ↔ Fitting capacity before (.add packet timeout node) :=
      bounded.add
    refine ⟨decides, fun fitting => ⟨consistent, ?_, ?_⟩⟩
    · rw [add_capacityBytes]
      exact bounded.constructed
    · rw [consistent.stored]
      exact (decides.mpr fitting).capacity
  · have apart : ∀ packet timeout node, action ≠ .add packet timeout node :=
      fun packet timeout node same => added ⟨packet, timeout, node, same⟩
    have kept : after.Bounded capacity :=
      bounded.shrinks consistent ((step_makes taken).shrinks apart)
    have fitting : Fitting capacity before action := by
      cases action with
      | add packet timeout node => exact absurd rfl (apart packet timeout node)
      | _ => trivial
    refine ⟨iff_of_true ⟨?_, ?_⟩ fitting, fun _ => kept⟩
    · rw [← consistent.stored]
      exact kept.within
    · exact fun packet timeout node same => absurd same (apart packet timeout node)

theorem bounded_reached (self : FlushTimer κ ς) (capacity : ℕ) : ∀ cbf : Cbf φ κ ς,
    GuardedReach (Constructed capacity) (Cbf.step self) (Fitting capacity) cbf →
      cbf.Bounded capacity := by
  apply GuardedReach.invariant
  · rintro first ⟨counter, now, created, rfl⟩
    exact ⟨consistent_empty created capacity, rfl, Int.natCast_nonneg capacity⟩
  · intro before action after _ bounded fitting taken
    exact (bounded.step taken).2 fitting

/-- **When the capacity is kept.** A buffer never holds more than its capacity, and duplicates change
nothing, as long as every operation is fitting; and the first one that is not exceeds the capacity, or is
a duplicate that changes the packets. -/
theorem capacity_kept_iff (self : FlushTimer κ ς) (capacity : ℕ) :
    (∀ cbf : Cbf φ κ ς,
      GuardedReach (Constructed capacity) (Cbf.step self) (Fitting capacity) cbf →
        bytes cbf.buffer.packets ≤ capacity) ∧
      ∀ (before after : Cbf φ κ ς) (action : Action φ κ ς),
        GuardedReach (Constructed capacity) (Cbf.step self) (Fitting capacity) before →
          before.step self action = some after →
            (Proper capacity before action after ↔ Fitting capacity before action) := by
  refine ⟨fun cbf reached => ?_, fun before after action reached taken => ?_⟩
  · have bounded := bounded_reached self capacity cbf reached
    rw [← bounded.consistent.stored]
    exact bounded.within
  · exact ((bounded_reached self capacity before reached).step taken).1

end Runs

/-- The only buffer of its runtime, before anything has been added to it. -/
def vacant (capacity : ℕ) : Cbf Unit Unit Unit := ⟨.empty (.contending ∅) capacity, ⟨0, []⟩⟩

theorem vacant_constructed (capacity : ℕ) : Constructed capacity (vacant capacity) :=
  ⟨_, 0, .contending, rfl⟩

/-- Packets of 56 bytes in a buffer of 120 bytes: a duplicate of the first one while there is room, and
the third one drops the first. -/
theorem capacity_kept_drops : ∃ cbf : Cbf Unit Unit Unit,
    cbf.buffer.packets.map (·.packet.identifier) = [(emptyBroadcast 2).identifier, (emptyBroadcast 3).identifier] ∧
      bytes cbf.buffer.packets ≤ 120 := by
  obtain ⟨cbf, reached, holds⟩ := run_reach (Constructed 120) (Cbf.step lone) (Fitting 120)
    (fun cbf => cbf.buffer.packets.map (·.packet.identifier) =
      [(emptyBroadcast 2).identifier, (emptyBroadcast 3).identifier])
    (vacant_constructed 120)
    [.add (emptyBroadcast 1) 100000 0, .add (emptyBroadcast 1) 80000 1, .advance 10000,
      .add (emptyBroadcast 2) 100000 2, .update (emptyBroadcast 1).identifier 60000,
      .add (emptyBroadcast 3) 20000 3] (by decide)
  exact ⟨cbf, holds, (capacity_kept_iff lone 120).1 cbf reached⟩

/-- **A packet of 56 bytes in a buffer of 50 bytes.** -/
theorem capacity_exceeded :
    ¬ ∀ (capacity : ℕ) (before after : Cbf Unit Unit Unit) (action : Action Unit Unit Unit),
      Reachable (Constructed capacity) (Cbf.step lone) before →
        before.step lone action = some after → Proper capacity before action after := by
  intro claimed
  have proper := claimed 50 (vacant 50) _ (.add (emptyBroadcast 1) 100000 0)
    (.start (vacant_constructed 50)) rfl
  exact absurd proper.capacity (by decide)

end Cbf

end Vanet.Geonet
