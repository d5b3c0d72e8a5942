/-
**When the timers of a CBF packet buffer are served.**

`Covered` says that for each timer a flush is scheduled no later than it expires. Operations that
reschedule cover every timer, as the timers are in the order of their expiry (`Ordered`), and those
that only remove timers leave the others covered. Two operations can bring a timer to the front
without rescheduling: `update`, and `add` if the new timer got the node that the first timer had
before it was dropped. `step_covered_iff` is exact for both.
-/

import Vanet.Geonet.CbfConsistency

namespace Vanet.Geonet

open Vanet.Net Vanet.Common Vanet.Library

variable {φ κ ς : Type}

/-! ### The order of the timers -/

/-- **The timers are in the order of their expiry**, each at a node of its own. -/
structure Ordered (timers : List TimerNode) : Prop where
  sorted : timers.Pairwise fun lhs rhs => lhs.timer.expiry ≤ rhs.timer.expiry
  nodes : (timers.map TimerNode.node).Nodup

section Ordered

variable {timers : List TimerNode} {entry : TimerNode}

theorem Ordered.sublist {part : List TimerNode} (ordered : Ordered timers)
    (sub : part.Sublist timers) : Ordered part :=
  ⟨ordered.sorted.sublist sub, ordered.nodes.sublist (sub.map _)⟩

theorem sorted_orderedInsert
    (sorted : timers.Pairwise fun lhs rhs => lhs.timer.expiry ≤ rhs.timer.expiry) :
    (timers.orderedInsert TimerNode.before entry).Pairwise
      fun lhs rhs => lhs.timer.expiry ≤ rhs.timer.expiry := by
  induction timers with
  | nil => exact List.pairwise_singleton _ _
  | cons head rest ih =>
    obtain ⟨least, sorted⟩ := List.pairwise_cons.mp sorted
    rw [List.orderedInsert]
    by_cases earlier : entry.before head
    · rw [if_pos earlier]
      refine List.pairwise_cons.mpr ⟨?_, List.pairwise_cons.mpr ⟨least, sorted⟩⟩
      have le_head : entry.timer.expiry ≤ head.timer.expiry := le_of_lt earlier
      exact List.forall_mem_cons.mpr ⟨le_head, fun other among => le_head.trans (least other among)⟩
    · rw [if_neg earlier]
      refine List.pairwise_cons.mpr ⟨?_, ih sorted⟩
      intro other among
      rcases List.mem_orderedInsert _ |>.mp among with rfl | old
      · exact not_lt.mp earlier
      · exact least other old

theorem Ordered.insert (ordered : Ordered timers) (unused : entry.node ∉ timers.map TimerNode.node) :
    Ordered (timers.orderedInsert TimerNode.before entry) := by
  refine ⟨sorted_orderedInsert ordered.sorted, ?_⟩
  have nodes := (List.perm_orderedInsert TimerNode.before entry timers).map TimerNode.node
  exact nodes.nodup_iff.mpr (List.nodup_cons.mpr ⟨unused, ordered.nodes⟩)

theorem orderedInsert_front (least : ∀ other ∈ timers, entry.timer.expiry < other.timer.expiry) :
    timers.orderedInsert TimerNode.before entry = entry :: timers := by
  cases timers with
  | nil => rfl
  | cons head rest => exact if_pos (least head List.mem_cons_self)

/-- A timer that comes in at the front expires before all others. -/
theorem head_orderedInsert (ordered : Ordered timers)
    (front : (timers.orderedInsert TimerNode.before entry).head? = some entry)
    (absent : entry ∉ timers) : ∀ other ∈ timers, entry.timer.expiry < other.timer.expiry := by
  cases timers with
  | nil => exact nofun
  | cons head rest =>
    rw [List.orderedInsert] at front
    by_cases earlier : entry.before head
    · have least := (List.pairwise_cons.mp ordered.sorted).1
      exact List.forall_mem_cons.mpr ⟨earlier, fun other among =>
        lt_of_lt_of_le earlier (least other among)⟩
    · rw [if_neg earlier] at front
      cases front
      exact absurd List.mem_cons_self absent

/-- A timer that is replaced is put in order. -/
theorem Ordered.replaceData (ordered : Ordered timers) (ids : (timers.map TimerNode.id).Nodup)
    (member : entry ∈ timers) (timer : Timer) :
    Ordered (CbfPacketBuffer.replaceData timers entry.id timer) := by
  obtain ⟨before, after, split, apart, replaced⟩ := CbfPacketBuffer.replaceData_perm timer ids member
  have rest : Ordered (before ++ after) := by
    apply ordered.sublist
    rw [split]
    exact (List.Sublist.refl before).append (List.sublist_cons_self entry after)
  constructor
  · unfold CbfPacketBuffer.replaceData
    rw [split, takeWhile_split apart, dropWhile_split apart]
    dsimp only
    split_ifs with fits
    · obtain ⟨behind, ahead⟩ := fits
      have parts := List.pairwise_append.mp rest.sorted
      have above : ∀ other ∈ after, timer.expiry ≤ other.timer.expiry := by
        cases after with
        | nil => exact nofun
        | cons next later =>
          have least := (List.pairwise_cons.mp parts.2.1).1
          have le_next : timer.expiry ≤ next.timer.expiry := not_lt.mp (of_decide_eq_true ahead)
          exact List.forall_mem_cons.mpr ⟨le_next, fun other among =>
            le_next.trans (least other among)⟩
      have below : ∀ other ∈ before, other.timer.expiry ≤ timer.expiry := by
        rcases List.eq_nil_or_concat' before with rfl | ⟨start, last, rfl⟩
        · exact nofun
        · rw [List.getLast?_concat] at behind
          have last_le : last.timer.expiry ≤ timer.expiry := not_lt.mp (of_decide_eq_true behind)
          have most := (List.pairwise_append.mp parts.1).2.2
          intro other among
          rw [List.mem_append, List.mem_singleton] at among
          rcases among with early | rfl
          · exact (most other early last List.mem_cons_self).trans last_le
          · exact last_le
      refine List.pairwise_append.mpr ⟨parts.1, List.pairwise_cons.mpr ⟨above, parts.2.1⟩, ?_⟩
      intro first among other otherAmong
      rcases List.mem_cons.mp otherAmong with rfl | old
      · exact below first among
      · exact parts.2.2 first among other old
    · exact sorted_orderedInsert rest.sorted
  · have nodes := replaced.map TimerNode.node
    have old : (timers.map TimerNode.node).Perm
        ((entry :: (before ++ after)).map TimerNode.node) := by
      rw [split]
      exact List.perm_middle.map _
    exact (nodes.trans old.symm).nodup_iff.mpr ordered.nodes

end Ordered

/-! ### Scheduled flushes -/

/-- **A flush is scheduled by a time**, or due at once if that time has passed. -/
def ScheduledBy (self : FlushTimer κ ς) (runtime : ManualRuntime κ ς) (time : ℤ) : Prop :=
  ∃ item ∈ runtime.queue, item.scope = some self.scope ∧ item.callback = self.callback ∧
    item.deadline ≤ max time runtime.now

namespace Cbf

open CbfPacketBuffer

/-- A flush is scheduled by the expiry of every timer. -/
def Covered (self : FlushTimer κ ς) (cbf : Cbf φ κ ς) : Prop :=
  ∀ entry ∈ cbf.buffer.timers, ScheduledBy self cbf.runtime entry.timer.expiry

/-- **When an operation leaves no timer without a flush.** A new timer for a buffered packet must
find a flush scheduled by its expiry. So must a new packet's timer that expires before all others, if
the first timer is dropped for it and it gets that timer's node. -/
def Timely (self : FlushTimer κ ς) (cbf : Cbf φ κ ς) : Action φ κ ς → Prop
  | .update id timeout =>
    (∃ entry ∈ cbf.buffer.timers, entry.id = id) →
      ScheduledBy self cbf.runtime (cbf.runtime.now + timeout)
  | .add packet timeout node =>
    0 < timeout → (∀ other ∈ (cbf.buffer.makeRoom packet).timers, other.id ≠ packet.identifier) →
      cbf.buffer.timers.head?.map TimerNode.node = some node →
      (∀ other ∈ (cbf.buffer.makeRoom packet).timers,
        cbf.runtime.now + timeout < other.timer.expiry) →
      ScheduledBy self cbf.runtime (cbf.runtime.now + timeout)
  | _ => True

variable [DecidableEq ς] {self : FlushTimer κ ς} {cbf after : Cbf φ κ ς} {entry : TimerNode}

omit [DecidableEq ς] in
theorem scheduledBy_mono {runtime : ManualRuntime κ ς} {time later : ℤ}
    (scheduled : ScheduledBy self runtime time) (le : time ≤ later) :
    ScheduledBy self runtime later := by
  obtain ⟨item, queued, scope, callback, due⟩ := scheduled
  exact ⟨item, queued, scope, callback, due.trans (max_le_max_right _ le)⟩

/-- Rescheduling covers every timer. -/
theorem scheduleTimer_covered (ordered : Ordered cbf.buffer.timers) :
    (cbf.scheduleTimer self).Covered self := by
  intro entry member
  rw [scheduleTimer_buffer] at member
  unfold scheduleTimer
  cases timers : cbf.buffer.timers with
  | nil =>
    rw [timers] at member
    cases member
  | cons first rest =>
    rw [timers] at member ordered
    have least : first.timer.expiry ≤ entry.timer.expiry := by
      rcases List.mem_cons.mp member with rfl | later
      · exact le_rfl
      · exact (List.pairwise_cons.mp ordered.sorted).1 entry later
    refine ⟨⟨first.timer.expiry, self.callback, some self.scope⟩, ?_, rfl, rfl, ?_⟩
    · exact ManualRuntime.mem_emplace.mpr (.inl rfl)
    · exact least.trans (le_max_left _ _)

theorem drop_covered (ordered : Ordered cbf.buffer.timers) (covered : cbf.Covered self)
    (packet : CbfPacket φ) : (cbf.drop self entry packet).Covered self := by
  have part : (cbf.buffer.takeOut entry packet).timers.Sublist cbf.buffer.timers :=
    List.filter_sublist
  unfold drop
  dsimp only
  split_ifs
  · exact scheduleTimer_covered (ordered.sublist part)
  · exact fun other member => covered other (part.subset member)

theorem drop_ordered (ordered : Ordered cbf.buffer.timers) (packet : CbfPacket φ) :
    Ordered (cbf.drop self entry packet).buffer.timers := by
  rw [drop_buffer]
  exact ordered.sublist List.filter_sublist

/-! ### `add` -/

omit [DecidableEq ς] in
theorem dropHeads_timers (rounds : ℕ) : ∀ buffer : CbfPacketBuffer φ,
    (buffer.dropHeads rounds).timers.Sublist buffer.timers := by
  induction rounds with
  | zero => exact fun buffer => List.Sublist.refl _
  | succ rounds ih =>
    intro buffer
    unfold dropHeads
    cases buffer.packets with
    | nil => exact List.Sublist.refl _
    | cons front rest =>
      dsimp only
      split_ifs
      · exact (ih _).trans List.filter_sublist
      · exact List.Sublist.refl _

omit [DecidableEq ς] in
theorem makeRoom_timers (buffer : CbfPacketBuffer φ) (packet : CbfPacket φ) :
    (buffer.makeRoom packet).timers.Sublist buffer.timers :=
  dropHeads_timers _ _

/-- **What `emplace` does to the timers**: a duplicate leaves them, any other packet's timer is
inserted. -/
theorem emplace_timers (buffer : CbfPacketBuffer φ) (now : ℤ) (packet : CbfPacket φ)
    (timeout : ℤ) (node : ℕ) :
    (¬ ∀ other ∈ buffer.timers, other.id ≠ packet.identifier) ∧
        (buffer.emplace now packet timeout node).timers = buffer.timers ∨
      (∀ other ∈ buffer.timers, other.id ≠ packet.identifier) ∧
        (buffer.emplace now packet timeout node).timers =
          buffer.timers.orderedInsert TimerNode.before
            ⟨node, .starting now timeout, packet.identifier, buffer.nextRef⟩ := by
  unfold emplace insertTimer
  dsimp only
  by_cases known : (buffer.timers.any fun other => other.id = packet.identifier) = true
  · rw [if_pos known]
    refine .inl ⟨?_, rfl⟩
    obtain ⟨other, member, same⟩ := List.any_eq_true.mp known
    exact fun unknown => unknown other member (of_decide_eq_true same)
  · rw [if_neg known]
    refine .inr ⟨?_, rfl⟩
    intro other member same
    exact known (List.any_eq_true.mpr ⟨other, member, decide_eq_true same⟩)

omit [DecidableEq ς] in
/-- The timers after a packet has been added to the buffer. -/
theorem added_ordered (timeout : ℤ) (ordered : Ordered cbf.buffer.timers) {packet : CbfPacket φ}
    {node : ℕ} (unused : node ∉ (cbf.buffer.makeRoom packet).timers.map TimerNode.node) :
    Ordered ((cbf.buffer.makeRoom packet).emplace cbf.runtime.now packet timeout node).timers := by
  have room := ordered.sublist (makeRoom_timers cbf.buffer packet)
  rcases emplace_timers (cbf.buffer.makeRoom packet) cbf.runtime.now packet timeout node with
    ⟨_, same⟩ | ⟨_, inserted⟩
  · rw [same]
    exact room
  · rw [inserted]
    exact room.insert unused

/-- **`add` covers the timers exactly if it is timely.** -/
theorem add_covered_iff (ordered : Ordered cbf.buffer.timers) (covered : cbf.Covered self)
    {packet : CbfPacket φ} {timeout : ℤ} {node : ℕ}
    (unused : node ∉ (cbf.buffer.makeRoom packet).timers.map TimerNode.node) :
    (cbf.add self packet timeout node).Covered self ↔
      cbf.Timely self (.add packet timeout node) := by
  set room := cbf.buffer.makeRoom packet
  have part : room.timers.Sublist cbf.buffer.timers := makeRoom_timers cbf.buffer packet
  have addedOrdered := added_ordered timeout ordered unused
  unfold add Timely
  by_cases early : timeout ≤ 0
  · rw [if_pos early]
    exact iff_of_true covered fun late => absurd early (not_le.mpr late)
  rw [if_neg early]
  dsimp only
  rcases emplace_timers room cbf.runtime.now packet timeout node with
    ⟨known, same⟩ | ⟨unknown, inserted⟩
  · refine iff_of_true ?_ fun _ unknown => absurd unknown known
    split_ifs
    · exact scheduleTimer_covered addedOrdered
    · intro other member
      exact covered other (part.subset (same ▸ member))
  set entry : TimerNode :=
    ⟨node, .starting cbf.runtime.now timeout, packet.identifier, room.nextRef⟩
  have absent : entry ∉ room.timers := fun member => unknown entry member rfl
  rw [inserted] at addedOrdered ⊢
  have entered : entry ∈ room.timers.orderedInsert TimerNode.before entry :=
    (List.mem_orderedInsert _).mpr (.inl rfl)
  split_ifs with moved
  · refine iff_of_true (scheduleTimer_covered (inserted ▸ addedOrdered)) ?_
    intro _ _ reused least
    rw [orderedInsert_front least, reused] at moved
    exact absurd rfl moved
  constructor
  · intro after _ _ _ _
    exact after entry (inserted ▸ entered)
  · intro timely other member
    rw [inserted] at member
    rcases (List.mem_orderedInsert _).mp member with rfl | old
    · obtain ⟨front, rest, added⟩ := List.exists_cons_of_ne_nil (List.ne_nil_of_mem entered)
      rw [added] at moved
      obtain ⟨first, ahead, same⟩ := Option.map_eq_some_iff.mp (not_not.mp moved).symm
      have firstMember : first ∈ cbf.buffer.timers := List.mem_of_head? ahead
      have frontMember : front ∈ room.timers.orderedInsert TimerNode.before entry := by
        rw [added]
        exact List.mem_cons_self
      rcases (List.mem_orderedInsert _).mp frontMember with rfl | kept
      · exact timely (not_le.mp early) unknown (not_not.mp moved).symm
          (head_orderedInsert (ordered.sublist part) (by rw [added]; rfl) absent)
      · obtain rfl := List.inj_on_of_nodup_map ordered.nodes (part.subset kept) firstMember same.symm
        refine scheduledBy_mono (covered front firstMember) ?_
        rw [added] at addedOrdered entered
        rcases List.mem_cons.mp entered with rfl | later
        · exact le_rfl
        · exact (List.pairwise_cons.mp addedOrdered.sorted).1 _ later
    · exact covered other (part.subset old)

/-! ### `update` -/

omit [DecidableEq ς] in
/-- What `update` does to the timers of a consistent buffer. -/
theorem update_timers (consistent : cbf.buffer.Consistent) (id : PacketIdentifier) (timeout : ℤ) :
    (¬ ∃ entry ∈ cbf.buffer.timers, entry.id = id) ∧ cbf.update id timeout = cbf ∨
      (∃ entry ∈ cbf.buffer.timers, entry.id = id) ∧
        (cbf.update id timeout).runtime = cbf.runtime ∧
        (cbf.update id timeout).buffer.timers =
          replaceData cbf.buffer.timers id (.starting cbf.runtime.now timeout) := by
  unfold update
  cases found : cbf.buffer.findTimer id with
  | none =>
    refine .inl ⟨?_, rfl⟩
    rintro ⟨entry, member, same⟩
    exact List.find?_eq_none.mp found entry member (decide_eq_true same)
  | some entry =>
    obtain ⟨member, same⟩ := findTimer_some found
    obtain ⟨_, node, _, held⟩ := consistent.held member
    dsimp only
    rw [held.deref]
    exact .inr ⟨⟨entry, member, same⟩, rfl, rfl⟩

omit [DecidableEq ς] in
/-- **`update` covers the timers exactly if it is timely.** -/
theorem update_covered_iff (consistent : cbf.buffer.Consistent) (covered : cbf.Covered self)
    (id : PacketIdentifier) (timeout : ℤ) :
    (cbf.update id timeout).Covered self ↔ cbf.Timely self (.update id timeout) := by
  rcases update_timers consistent id timeout with ⟨unknown, same⟩ | ⟨known, runtime, timers⟩
  · rw [same]
    exact iff_of_true covered fun known => absurd known unknown
  obtain ⟨entry, member, rfl⟩ := known
  obtain ⟨before, after, split, _, replaced⟩ := replaceData_perm
    (.starting cbf.runtime.now timeout) consistent.timer_ids member
  unfold Covered Timely
  rw [runtime, timers]
  constructor
  · intro after _
    exact after _ (replaced.symm.subset List.mem_cons_self)
  · intro timely other otherMember
    rcases List.mem_cons.mp (replaced.subset otherMember) with rfl | old
    · exact timely ⟨entry, member, rfl⟩
    · apply covered other
      rw [split]
      exact (List.sublist_cons_self entry after).append_left before |>.subset old

/-! ### The other operations -/

theorem flush_ordered (self : FlushTimer κ ς) (cbf : Cbf φ κ ς)
    (consistent : cbf.buffer.Consistent) (ordered : Ordered cbf.buffer.timers) :
    Ordered (cbf.flush self).2.buffer.timers ∧ (cbf.flush self).2.Covered self := by
  have part : (cbf.buffer.timers.takeWhile fun entry =>
      entry.timer.expiry ≤ cbf.runtime.now).Sublist cbf.buffer.timers :=
    (List.takeWhile_prefix _).sublist
  have flushed := ordered.sublist (flushAll_consistent _ consistent
    (consistent.timer_ids.sublist (part.map _)) fun entry among => part.subset among).2
  unfold flush
  dsimp only
  rw [scheduleTimer_buffer]
  exact ⟨flushed, scheduleTimer_covered flushed⟩

theorem remove_covered (ordered : Ordered cbf.buffer.timers) (covered : cbf.Covered self)
    (id : PacketIdentifier) :
    Ordered (cbf.remove self id).2.buffer.timers ∧ (cbf.remove self id).2.Covered self := by
  rcases cbf.buffer.find_cases id with absent | ⟨entry, packet, finds⟩
  · rw [remove_of_none self absent]
    exact ⟨ordered, covered⟩
  · rw [remove_of_finds self finds]
    exact ⟨drop_ordered ordered packet, drop_covered ordered covered packet⟩

theorem fetch_covered (ordered : Ordered cbf.buffer.timers) (covered : cbf.Covered self)
    (id : PacketIdentifier) :
    Ordered (cbf.fetch self id).2.buffer.timers ∧ (cbf.fetch self id).2.Covered self := by
  rcases cbf.buffer.find_cases id with absent | ⟨entry, packet, finds⟩
  · rw [fetch_of_none self absent]
    exact ⟨ordered, covered⟩
  · rw [fetch_of_finds self finds]
    set reduced : Cbf φ κ ς := { cbf with buffer := (cbf.reduceLifetime entry packet).2.2 }
    have reducedOrdered : Ordered reduced.buffer.timers := ordered
    have reducedCovered : reduced.Covered self := covered
    exact ⟨drop_ordered reducedOrdered _, drop_covered reducedOrdered reducedCovered _⟩

omit [DecidableEq ς] in
/-- A runtime that still has the flushes and is no earlier covers as much. -/
theorem covered_later {runtime : ManualRuntime κ ς} (covered : cbf.Covered self)
    (later : cbf.runtime.now ≤ runtime.now)
    (kept : ∀ item ∈ cbf.runtime.queue, item.scope = some self.scope → item ∈ runtime.queue) :
    ({ cbf with runtime } : Cbf φ κ ς).Covered self := by
  intro entry member
  obtain ⟨item, queued, scope, callback, due⟩ := covered entry member
  exact ⟨item, kept item queued scope, scope, callback, due.trans (max_le_max_left _ later)⟩

theorem add_ordered (ordered : Ordered cbf.buffer.timers) {packet : CbfPacket φ} {timeout : ℤ}
    {node : ℕ} (unused : node ∉ (cbf.buffer.makeRoom packet).timers.map TimerNode.node) :
    Ordered (cbf.add self packet timeout node).buffer.timers := by
  have added := added_ordered timeout ordered unused
  unfold add
  dsimp only
  split_ifs
  · exact ordered
  · rw [scheduleTimer_buffer]
    exact added
  · exact added

/-- **The step lemma**: the timers stay in order, and a step leaves a flush scheduled for each of them
exactly if it is timely. -/
theorem step_covered_iff {action : Action φ κ ς} (consistent : cbf.buffer.Consistent)
    (ordered : Ordered cbf.buffer.timers) (covered : cbf.Covered self)
    (taken : cbf.step self action = some after) :
    Ordered after.buffer.timers ∧ (after.Covered self ↔ cbf.Timely self action) := by
  cases action with
  | add packet timeout node =>
    simp only [step] at taken
    split_ifs at taken with used
    cases taken
    exact ⟨add_ordered ordered used, add_covered_iff ordered covered used⟩
  | remove id =>
    cases taken
    have served := remove_covered ordered covered id
    exact ⟨served.1, iff_of_true served.2 trivial⟩
  | update id timeout =>
    cases taken
    refine ⟨?_, update_covered_iff consistent covered id timeout⟩
    rcases update_timers consistent id timeout with ⟨_, same⟩ | ⟨⟨entry, member, rfl⟩, _, timers⟩
    · rw [same]
      exact ordered
    · rw [timers]
      exact ordered.replaceData consistent.timer_ids member _
  | fetch id =>
    cases taken
    have served := fetch_covered ordered covered id
    exact ⟨served.1, iff_of_true served.2 trivial⟩
  | flush =>
    cases taken
    have served := flush_ordered self cbf consistent ordered
    exact ⟨served.1, iff_of_true served.2 trivial⟩
  | advance d =>
    simp only [step] at taken
    split_ifs at taken with forward
    cases taken
    have later : cbf.runtime.now ≤ cbf.runtime.now + d := Int.le_add_of_nonneg_right forward
    exact ⟨ordered, iff_of_true (covered_later covered later fun _ queued _ => queued) trivial⟩
  | fire =>
    obtain ⟨⟨due, runtime⟩, popped, rfl⟩ := Option.map_eq_some_iff.mp taken
    obtain ⟨rest, queue, _, rfl⟩ := ManualRuntime.popDue_some.mp popped
    dsimp only
    split_ifs with ours
    · have served := flush_ordered self ⟨cbf.buffer, ⟨cbf.runtime.now, rest⟩⟩ consistent ordered
      exact ⟨served.1, iff_of_true served.2 trivial⟩
    · refine ⟨ordered, iff_of_true (covered_later covered le_rfl ?_) trivial⟩
      intro item queued scope
      rw [queue] at queued
      rcases List.mem_cons.mp queued with rfl | later
      · exact absurd scope ours
      · exact later
  | schedule other =>
    simp only [step] at taken
    split_ifs at taken
    cases taken
    exact ⟨ordered, iff_of_true (covered_later covered le_rfl fun item queued _ =>
      ManualRuntime.mem_emplace.mpr (.inr queued)) trivial⟩
  | cancel scope =>
    simp only [step] at taken
    split_ifs at taken with ours
    cases taken
    refine ⟨ordered, iff_of_true (covered_later covered ?_ ?_) trivial⟩
    · exact (ManualRuntime.cancel_now _ _).ge
    · intro item queued mine
      cases scope with
      | none => exact queued
      | some scope =>
        refine List.mem_filter.mpr ⟨queued, decide_eq_true ?_⟩
        rw [mine]
        exact fun same => ours same.symm

/-! ### Every run -/

/-- **The buffer is served in time**: while it holds a packet, a flush is scheduled no later than the
earliest timer expires, or due at once. -/
def Punctual (self : FlushTimer κ ς) (cbf : Cbf φ κ ς) : Prop :=
  cbf.buffer.packets ≠ [] → ∃ first ∈ cbf.buffer.timers,
    (∀ other ∈ cbf.buffer.timers, first.timer.expiry ≤ other.timer.expiry) ∧
      ScheduledBy self cbf.runtime first.timer.expiry

omit [DecidableEq ς] in
theorem Covered.punctual (covered : cbf.Covered self) (consistent : cbf.buffer.Consistent)
    (ordered : Ordered cbf.buffer.timers) : cbf.Punctual self := by
  intro holds
  have sizes := consistent.accounted.sizes
  cases timers : cbf.buffer.timers with
  | nil =>
    rw [timers] at sizes
    exact absurd (List.length_eq_zero_iff.mp sizes.symm) holds
  | cons first rest =>
    rw [timers] at ordered
    have least := (List.pairwise_cons.mp ordered.sorted).1
    refine ⟨first, List.mem_cons_self, List.forall_mem_cons.mpr ⟨le_rfl, least⟩, ?_⟩
    exact covered first (timers ▸ List.mem_cons_self)

end Cbf

/-- **CBF timers are not late** in a run whose operations are all timely: a flush is always scheduled
by the earliest expiry, and once the runtime has served all callbacks that are due, no packet is
buffered past its timer. -/
theorem cbf_timers_punctual [DecidableEq ς] (self : FlushTimer κ ς) (cbf : Cbf φ κ ς)
    (reached : GuardedReach Cbf.Initial (Cbf.step self) (Cbf.Timely self) cbf) :
    cbf.Punctual self ∧ ((∀ item ∈ cbf.runtime.queue, cbf.runtime.now < item.deadline) →
      ∀ entry ∈ cbf.buffer.timers, cbf.runtime.now < entry.timer.expiry) := by
  have kept : ∀ state : Cbf φ κ ς,
      GuardedReach Cbf.Initial (Cbf.step self) (Cbf.Timely self) state →
        Ordered state.buffer.timers ∧ state.Covered self := by
    apply GuardedReach.invariant
    · rintro first ⟨counter, bytes, now, _, rfl⟩
      exact ⟨⟨List.Pairwise.nil, List.nodup_nil⟩, nofun⟩
    · intro before action after begun served timely taken
      have consistent := Cbf.consistent_reachable self before begun.reachable
      have step := Cbf.step_covered_iff consistent served.1 served.2 taken
      exact ⟨step.1, step.2.mpr timely⟩
  have consistent := Cbf.consistent_reachable self cbf reached.reachable
  obtain ⟨ordered, covered⟩ := kept cbf reached
  refine ⟨covered.punctual consistent ordered, ?_⟩
  intro waiting entry member
  obtain ⟨item, queued, _, _, due⟩ := covered entry member
  exact (lt_max_iff.mp ((waiting item queued).trans_le due)).resolve_right (lt_irrefl _)

instance decidableScheduledBy [DecidableEq κ] [DecidableEq ς] (self : FlushTimer κ ς)
    (runtime : ManualRuntime κ ς) (time : ℤ) : Decidable (ScheduledBy self runtime time) :=
  inferInstanceAs (Decidable (∃ item ∈ runtime.queue, _ ∧ _ ∧ _))

instance decidableTimely [DecidableEq κ] [DecidableEq ς] (self : FlushTimer κ ς) (cbf : Cbf φ κ ς) :
    ∀ action, Decidable (cbf.Timely self action)
  | .update _ _ => inferInstanceAs (Decidable (_ → _))
  | .add _ _ _ => inferInstanceAs (Decidable (_ → _ → _ → _ → _))
  | .remove _ | .fetch _ | .flush | .advance _ | .fire | .schedule _ | .cancel _ => instDecidableTrue

/-- A later timer is served when the flush for the old one has found nothing to do. -/
theorem cbf_timers_punctual_postponed :
    ∃ cbf : Cbf Unit Unit Unit,
      (GuardedReach Cbf.Initial (Cbf.step lone) (Cbf.Timely lone) cbf ∧
        cbf.buffer.timers.map (fun entry => entry.timer.expiry) = [200000] ∧
        cbf.runtime.queue.map ScheduledCallback.deadline = [200000]) ∧
      cbf.Punctual lone ∧ ((∀ item ∈ cbf.runtime.queue, cbf.runtime.now < item.deadline) →
        ∀ entry ∈ cbf.buffer.timers, cbf.runtime.now < entry.timer.expiry) := by
  obtain ⟨cbf, reached, holds⟩ := run_reach Cbf.Initial (Cbf.step lone) (Cbf.Timely lone)
    (fun cbf => cbf.buffer.timers.map (fun entry => entry.timer.expiry) = [200000] ∧
      cbf.runtime.queue.map ScheduledCallback.deadline = [200000])
    smallBuffer_initial
    [.add (emptyBroadcast 1) 100000 0, .update (emptyBroadcast 1).identifier 200000,
      .advance 100000, .fire] (by decide)
  exact ⟨cbf, ⟨reached, holds⟩, cbf_timers_punctual lone cbf reached⟩

/-- **A timer is late** when a packet that is buffered for 100 ms gets a timeout of 1 ms after 10 ms:
the flush stays scheduled for 100 ms. -/
theorem not_cbf_timers_punctual :
    ¬ ∀ cbf : Cbf Unit Unit Unit, Reachable Cbf.Initial (Cbf.step lone) cbf → cbf.Punctual lone := by
  intro punctual
  obtain ⟨cbf, reached, one, late⟩ := run_reach Cbf.Initial (Cbf.step lone) (fun _ _ => True)
    (fun cbf => cbf.buffer.packets.length = 1 ∧ ∀ entry ∈ cbf.buffer.timers,
      ∀ item ∈ cbf.runtime.queue, max entry.timer.expiry cbf.runtime.now < item.deadline)
    smallBuffer_initial
    [.add (emptyBroadcast 1) 100000 0, .advance 10000, .update (emptyBroadcast 1).identifier 1000]
    (by decide)
  have holds : cbf.buffer.packets ≠ [] := List.ne_nil_of_length_pos (by omega)
  obtain ⟨first, member, _, item, queued, _, _, due⟩ := punctual cbf reached holds
  exact absurd due (not_le.mpr (late first member item queued))

end Vanet.Geonet
