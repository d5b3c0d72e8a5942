/-
**The packets, the timers, the bytes and the counters of a CBF packet buffer agree.**

`Consistent` relates the list of packets to the other parts of the buffer; `timers` and packets are
compared by the numbers of the list's nodes and by the identifiers. A timer of a consistent buffer is
held by one packet (`Held`), and what an operation does to packets and timers is read off there. Each
operation has one lemma, and `consistent_reachable` puts them together for every run.
-/

import Vanet.Geonet.CbfPacketBuffer
import Vanet.Library.Keyed
import Vanet.Library.Run

namespace Vanet.Geonet

open Vanet.Net Vanet.Common Vanet.Library

variable {φ : Type}

/-- What a node of the list and its timer have in common. -/
def PacketNode.link (node : PacketNode φ) : ℕ × PacketIdentifier :=
  (node.ref, node.packet.identifier)

def TimerNode.link (entry : TimerNode) : ℕ × PacketIdentifier := (entry.info, entry.id)

/-- A counter for each identifier of a packet, and no other one. -/
def CbfCounter.Counts (counter : CbfCounter) (packets : List (PacketNode φ)) : Prop :=
  ∀ counters, counter = .contending counters →
    ∀ id, id ∈ counters ↔ ∃ node ∈ packets, node.packet.identifier = id

namespace CbfPacketBuffer

variable {buffer : CbfPacketBuffer φ} {packet : CbfPacket φ} {entry : TimerNode}
  {first rest : List (PacketNode φ)} {node : PacketNode φ} {id : PacketIdentifier}

/-- The bytes of all packets. -/
def bytes (packets : List (PacketNode φ)) : ℤ := (packets.map fun node => (node.packet.length : ℤ)).sum

/-- **The buffer is consistent.** -/
structure Consistent (buffer : CbfPacketBuffer φ) : Prop where
  refs : (buffer.packets.map PacketNode.ref).Nodup
  used : ∀ node ∈ buffer.packets, node.ref < buffer.nextRef
  ids : (buffer.packets.map fun node => node.packet.identifier).Nodup
  linked : (buffer.timers.map TimerNode.link).Perm (buffer.packets.map PacketNode.link)
  stored : buffer.storedBytes = bytes buffer.packets
  counted : buffer.counter.Counts buffer.packets

/-- **A packet holds a timer**: the packets are split at its node. -/
structure Held (buffer : CbfPacketBuffer φ) (entry : TimerNode) (first : List (PacketNode φ))
    (node : PacketNode φ) (rest : List (PacketNode φ)) : Prop where
  packets : buffer.packets = first ++ node :: rest
  ref : node.ref = entry.info
  id : node.packet.identifier = entry.id
  refs : ∀ other ∈ first ++ rest, other.ref ≠ node.ref
  ids : ∀ other ∈ first ++ rest, other.packet.identifier ≠ node.packet.identifier

theorem Consistent.timer_ids (consistent : buffer.Consistent) :
    (buffer.timers.map TimerNode.id).Nodup := by
  have same := consistent.linked.map Prod.snd
  rw [List.map_map, List.map_map] at same
  exact same.nodup_iff.mpr consistent.ids

theorem Consistent.held (consistent : buffer.Consistent) (member : entry ∈ buffer.timers) :
    ∃ first node rest, buffer.Held entry first node rest := by
  have linked := consistent.linked.subset (List.mem_map_of_mem member)
  obtain ⟨node, among, same⟩ := List.mem_map.mp linked
  obtain ⟨first, rest, split, refs⟩ := keyed_split consistent.refs among
  refine ⟨first, node, rest, split, congrArg Prod.fst same, congrArg Prod.snd same, refs, ?_⟩
  have ids := consistent.ids
  rw [split, List.map_append, List.map_cons, List.nodup_middle, List.nodup_cons,
    ← List.map_append] at ids
  intro other elsewhere equal
  exact ids.1 (equal ▸ List.mem_map_of_mem (f := fun node => node.packet.identifier) elsewhere)

theorem findTimer_some (found : buffer.findTimer id = some entry) :
    entry ∈ buffer.timers ∧ entry.id = id :=
  ⟨List.mem_of_find?_eq_some found,
    of_decide_eq_true (List.find?_some (p := fun entry : TimerNode => entry.id = id) found)⟩

theorem Held.deref (held : buffer.Held entry first node rest) :
    buffer.deref entry.info = some node.packet := by
  unfold CbfPacketBuffer.deref
  rw [held.packets, ← held.ref, find?_split held.refs]
  rfl

/-- A reference that is followed leads to the packet that holds the timer. -/
theorem Consistent.deref_held (consistent : buffer.Consistent) (member : entry ∈ buffer.timers)
    (followed : buffer.deref entry.info = some packet) :
    ∃ first node rest, buffer.Held entry first node rest ∧ node.packet = packet := by
  obtain ⟨first, node, rest, held⟩ := consistent.held member
  exact ⟨first, node, rest, held, Option.some.inj (held.deref.symm.trans followed)⟩

theorem Finds.member (finds : buffer.Finds id entry packet) : entry ∈ buffer.timers ∧ entry.id = id :=
  findTimer_some finds.timer

theorem Finds.held (finds : buffer.Finds id entry packet) (consistent : buffer.Consistent) :
    ∃ first node rest, buffer.Held entry first node rest ∧ node.packet = packet :=
  consistent.deref_held finds.member.1 finds.packet

/-! ### What an operation does to the packets -/

theorem bytes_split (first rest : List (PacketNode φ)) (node : PacketNode φ) :
    bytes (first ++ node :: rest) = node.packet.length + bytes (first ++ rest) := by
  unfold bytes
  rw [List.map_append, List.map_cons, List.sum_append, List.sum_cons, List.map_append,
    List.sum_append]
  omega

/-- Counting goes on when a packet leaves. -/
theorem counts_remove {counter : CbfCounter} {packets : List (PacketNode φ)}
    (counted : counter.Counts packets) (id : PacketIdentifier) :
    (counter.remove id).Counts (packets.filter fun node => node.packet.identifier ≠ id) := by
  intro counters same other
  cases counter with
  | immortal _ => cases same
  | fading _ => cases same
  | contending old =>
    obtain rfl := CbfCounter.contending.inj same
    rw [AList.mem_erase, counted old rfl other]
    simp only [List.mem_filter, decide_not, Bool.not_eq_true', decide_eq_false_iff_not]
    constructor
    · rintro ⟨other_ne, node, member, rfl⟩
      exact ⟨node, ⟨member, other_ne⟩, rfl⟩
    · rintro ⟨node, ⟨member, differs⟩, rfl⟩
      exact ⟨differs, node, member, rfl⟩

/-- What is kept of the links is the same for packets and timers. -/
theorem Consistent.linked_filter (consistent : buffer.Consistent) (id : PacketIdentifier) :
    ((buffer.timers.filter fun entry => entry.id ≠ id).map TimerNode.link).Perm
      ((buffer.packets.filter fun node => node.packet.identifier ≠ id).map PacketNode.link) := by
  have kept := consistent.linked.filter fun link => link.2 ≠ id
  rw [List.filter_map, List.filter_map] at kept
  exact kept

/-- **A packet that leaves with its timer leaves a consistent buffer.** -/
theorem Consistent.without (consistent : buffer.Consistent)
    (split : buffer.packets = first ++ node :: rest)
    (ids : ∀ other ∈ first ++ rest, other.packet.identifier ≠ node.packet.identifier) :
    Consistent { buffer with
      storedBytes := buffer.storedBytes - node.packet.length
      counter := buffer.counter.remove node.packet.identifier
      packets := first ++ rest
      timers := buffer.timers.filter fun entry => entry.id ≠ node.packet.identifier } := by
  have kept : buffer.packets.filter
      (fun other => other.packet.identifier ≠ node.packet.identifier) = first ++ rest := by
    rw [split]
    exact filter_split ids
  have part : (first ++ rest).Sublist buffer.packets := by
    rw [split]
    exact (List.Sublist.refl first).append (List.sublist_cons_self node rest)
  refine ⟨consistent.refs.sublist (part.map _), fun other among => consistent.used other (part.subset among),
    consistent.ids.sublist (part.map _), ?_, ?_, ?_⟩
  · have linked := consistent.linked_filter node.packet.identifier
    rw [kept] at linked
    exact linked
  · show buffer.storedBytes - node.packet.length = bytes (first ++ rest)
    rw [consistent.stored, split, bytes_split]
    omega
  · have counted := counts_remove consistent.counted node.packet.identifier
    rw [kept] at counted
    exact counted

theorem Consistent.takeOut (consistent : buffer.Consistent)
    (held : buffer.Held entry first node rest) : (buffer.takeOut entry node.packet).Consistent := by
  have kept : buffer.packets.filter (fun other => other.ref ≠ entry.info) = first ++ rest := by
    rw [held.packets, ← held.ref]
    exact filter_split held.refs
  unfold CbfPacketBuffer.takeOut
  rw [kept, ← held.id]
  exact consistent.without held.packets held.ids

theorem Held.write (held : buffer.Held entry first node rest)
    (same : packet.identifier = node.packet.identifier) :
    (buffer.write entry.info packet).Held entry first { node with packet } rest := by
  refine ⟨?_, held.ref, same.trans held.id, held.refs, ?_⟩
  · show buffer.packets.map _ = _
    rw [held.packets, ← held.ref]
    exact map_split held.refs fun other => { other with packet }
  · show ∀ other ∈ first ++ rest, other.packet.identifier ≠ packet.identifier
    rw [same]
    exact held.ids

/-- **A packet is replaced by one of the same identifier and length.** -/
theorem Consistent.write (consistent : buffer.Consistent)
    (held : buffer.Held entry first node rest)
    (same : packet.identifier = node.packet.identifier)
    (long : packet.length = node.packet.length) : (buffer.write entry.info packet).Consistent := by
  have links : (buffer.write entry.info packet).packets.map PacketNode.link =
      buffer.packets.map PacketNode.link := by
    rw [(held.write same).packets, held.packets]
    simp only [List.map_append, List.map_cons, PacketNode.link, same]
  have refs := congrArg (List.map Prod.fst) links
  have ids := congrArg (List.map Prod.snd) links
  simp only [List.map_map] at refs ids
  refine ⟨?_, ?_, ?_, ?_, ?_, ?_⟩
  · exact (congrArg List.Nodup refs).mpr consistent.refs
  · intro other among
    have listed : other.ref ∈ buffer.packets.map (Prod.fst ∘ PacketNode.link) :=
      refs ▸ List.mem_map_of_mem (f := Prod.fst ∘ PacketNode.link) among
    obtain ⟨before, member, equal⟩ := List.mem_map.mp listed
    exact equal ▸ consistent.used before member
  · exact (congrArg List.Nodup ids).mpr consistent.ids
  · rw [links]
    exact consistent.linked
  · show buffer.storedBytes = _
    rw [consistent.stored, (held.write same).packets, held.packets, bytes_split, bytes_split, long]
  · intro counters contending id
    rw [consistent.counted counters contending id]
    have listed : id ∈ (buffer.write entry.info packet).packets.map (Prod.snd ∘ PacketNode.link) ↔
        id ∈ buffer.packets.map (Prod.snd ∘ PacketNode.link) := by
      rw [ids]
    rw [List.mem_map, List.mem_map] at listed
    exact listed.symm

/-! ### The loop of head drops -/

theorem Consistent.dropHeads (rounds : ℕ) : ∀ {buffer : CbfPacketBuffer φ} {surplus : ℤ},
    Consistent { buffer with storedBytes := buffer.storedBytes - surplus } →
    Consistent { buffer.dropHeads rounds with
      storedBytes := (buffer.dropHeads rounds).storedBytes - surplus } := by
  induction rounds with
  | zero => exact id
  | succ rounds ih =>
    intro buffer surplus consistent
    unfold CbfPacketBuffer.dropHeads
    cases packets : buffer.packets with
    | nil => exact consistent
    | cons front behind =>
      dsimp only
      split_ifs with full
      · apply ih
        have split : buffer.packets = [] ++ front :: behind := packets
        have ids : ∀ other ∈ [] ++ behind, other.packet.identifier ≠ front.packet.identifier := by
          have distinct := consistent.ids
          rw [show ({ buffer with storedBytes := _ } : CbfPacketBuffer φ).packets = front :: behind
            from packets, List.map_cons, List.nodup_cons] at distinct
          intro other among same
          exact distinct.1 (same ▸ List.mem_map_of_mem
            (f := fun node : PacketNode φ => node.packet.identifier) among)
        have without := consistent.without split ids
        have same : buffer.storedBytes - surplus - front.packet.length =
            buffer.storedBytes - front.packet.length - surplus := by omega
        simp only [same, List.nil_append] at without
        exact without
      · exact consistent

/-- After the head drops the buffer is consistent but for the length of the new packet. -/
theorem Consistent.makeRoom (consistent : buffer.Consistent) (packet : CbfPacket φ) :
    Consistent { buffer.makeRoom packet with
      storedBytes := (buffer.makeRoom packet).storedBytes - packet.length } := by
  apply Consistent.dropHeads
  have same : buffer.storedBytes + packet.length - packet.length = buffer.storedBytes := by omega
  simp only [same]
  exact consistent

/-! ### What an operation does to the timers -/

theorem insertTimer_perm {timers after : List TimerNode}
    (inserted : insertTimer timers entry = (true, after)) : after.Perm (entry :: timers) := by
  unfold insertTimer at inserted
  split_ifs at inserted
  · cases inserted
  · cases inserted
    exact List.perm_orderedInsert _ _ _

theorem insertTimer_new {timers after : List TimerNode}
    (inserted : insertTimer timers entry = (true, after)) :
    ∀ other ∈ timers, other.id ≠ entry.id := by
  unfold insertTimer at inserted
  split_ifs at inserted with known
  · cases inserted
  intro other among same
  exact known (List.any_eq_true.mpr ⟨other, among, decide_eq_true same⟩)

/-- A timer that is replaced keeps its node, its identifier and its packet. -/
theorem replaceData_perm {timers : List TimerNode} (timer : Timer)
    (nodup : (timers.map TimerNode.id).Nodup) (member : entry ∈ timers) :
    ∃ before after, timers = before ++ entry :: after ∧
      (∀ other ∈ before ++ after, other.id ≠ entry.id) ∧
      (replaceData timers entry.id timer).Perm ({ entry with timer } :: (before ++ after)) := by
  obtain ⟨before, after, split, apart⟩ := keyed_split nodup member
  refine ⟨before, after, split, apart, ?_⟩
  unfold replaceData
  rw [split, takeWhile_split apart, dropWhile_split apart]
  dsimp only
  split_ifs
  · exact List.perm_middle
  · exact List.perm_orderedInsert _ _ _

theorem counts_add {counter : CbfCounter} {packets : List (PacketNode φ)} {now : ℤ}
    (counted : counter.Counts packets) (node : PacketNode φ) :
    (counter.add now node.packet.identifier).Counts (packets ++ [node]) := by
  intro counters same id
  cases counter with
  | immortal _ => cases same
  | fading _ => cases same
  | contending old =>
    obtain rfl := CbfCounter.contending.inj same
    rw [AList.mem_insert, counted old rfl id]
    simp only [List.mem_append, List.mem_singleton]
    constructor
    · rintro (rfl | ⟨other, member, rfl⟩)
      · exact ⟨node, .inr rfl, rfl⟩
      · exact ⟨other, .inl member, rfl⟩
    · rintro ⟨other, member | rfl, rfl⟩
      · exact .inr ⟨other, member, rfl⟩
      · exact .inl rfl

theorem counts_increment {counter : CbfCounter} {packets : List (PacketNode φ)} {now : ℤ}
    (counted : counter.Counts packets) (buffered : ∃ node ∈ packets, node.packet.identifier = id) :
    (counter.increment now id).Counts packets := by
  intro counters same other
  cases counter with
  | immortal _ => cases same
  | fading _ => cases same
  | contending old =>
    obtain rfl := CbfCounter.contending.inj same
    rw [AList.mem_insert, counted old rfl other]
    constructor
    · rintro (rfl | known)
      · exact buffered
      · exact known
    · exact Or.inr

theorem Consistent.emplace (now timeout : ℤ) (number : ℕ)
    (consistent : Consistent { buffer with storedBytes := buffer.storedBytes - packet.length }) :
    (buffer.emplace now packet timeout number).Consistent := by
  unfold CbfPacketBuffer.emplace
  dsimp only
  split_ifs with inserted
  · set entry : TimerNode := ⟨number, .starting now timeout, packet.identifier, buffer.nextRef⟩
    have insertion : insertTimer buffer.timers entry = (true, (insertTimer buffer.timers entry).2) :=
      Prod.ext inserted rfl
    have linked := ((insertTimer_perm insertion).map TimerNode.link).trans
      (consistent.linked.cons entry.link)
    have unknown : ∀ node ∈ buffer.packets, node.packet.identifier ≠ packet.identifier := by
      intro node member same
      have listed := consistent.linked.symm.subset (List.mem_map_of_mem member)
      obtain ⟨other, among, equal⟩ := List.mem_map.mp listed
      exact insertTimer_new insertion other among ((congrArg Prod.snd equal).trans same)
    refine ⟨?_, ?_, ?_, ?_, ?_, ?_⟩
    · rw [List.map_append, List.map_singleton, ← List.concat_eq_append, List.nodup_concat]
      refine ⟨?_, consistent.refs⟩
      intro listed
      obtain ⟨node, member, same⟩ := List.mem_map.mp listed
      exact Nat.lt_irrefl _ (same ▸ consistent.used node member)
    · intro node member
      rcases List.mem_append.mp member with old | new
      · exact Nat.lt_succ_of_lt (consistent.used node old)
      · rw [List.mem_singleton.mp new]
        exact Nat.lt_succ_self _
    · rw [List.map_append, List.map_singleton, ← List.concat_eq_append, List.nodup_concat]
      refine ⟨?_, consistent.ids⟩
      intro listed
      obtain ⟨node, member, same⟩ := List.mem_map.mp listed
      exact unknown node member same
    · rw [List.map_append, List.map_singleton]
      exact linked.trans (List.perm_append_singleton _ _).symm
    · show buffer.storedBytes = bytes (buffer.packets ++ [_])
      have stored : buffer.storedBytes - packet.length = bytes buffer.packets := consistent.stored
      rw [bytes_split, List.append_nil]
      show buffer.storedBytes = packet.length + bytes buffer.packets
      omega
    · exact counts_add consistent.counted ⟨buffer.nextRef, packet⟩
  · exact consistent

/-- **A buffered packet gets another timer.** -/
theorem Consistent.retimed {now : ℤ} (consistent : buffer.Consistent)
    (member : entry ∈ buffer.timers) (timer : Timer) :
    Consistent { buffer with
      timers := replaceData buffer.timers entry.id timer
      counter := buffer.counter.increment now entry.id } := by
  obtain ⟨before, after, split, _, replaced⟩ :=
    replaceData_perm timer consistent.timer_ids member
  have links := replaced.map TimerNode.link
  have old : (buffer.timers.map TimerNode.link).Perm
      ((entry :: (before ++ after)).map TimerNode.link) := by
    rw [split]
    exact List.perm_middle.map _
  obtain ⟨_, node, _, held⟩ := consistent.held member
  have buffered : ∃ node ∈ buffer.packets, node.packet.identifier = entry.id :=
    ⟨node, by rw [held.packets]; exact List.mem_append_right _ List.mem_cons_self, held.id⟩
  refine ⟨consistent.refs, consistent.used, consistent.ids, ?_, consistent.stored,
    counts_increment consistent.counted buffered⟩
  exact links.trans (old.symm.trans consistent.linked)

theorem consistent_empty {counter : CbfCounter} (created : counter.Created) (bytes : ℕ) :
    (empty counter bytes : CbfPacketBuffer φ).Consistent := by
  refine ⟨List.nodup_nil, nofun, List.nodup_nil, List.Perm.nil, rfl, ?_⟩
  intro counters contending id
  have none : counters = ∅ := by
    cases created with
    | contending => exact (CbfCounter.contending.inj contending).symm
    | immortal => cases contending
    | fading _ => cases contending
  rw [none]
  exact iff_of_false (AList.notMem_empty id) nofun

end CbfPacketBuffer

/-! ### The operations -/

namespace Cbf

open CbfPacketBuffer

variable {κ ς : Type} [DecidableEq ς] {self : FlushTimer κ ς} {cbf after : Cbf φ κ ς}
  {entry : TimerNode} {packet : CbfPacket φ}

@[simp] theorem scheduleTimer_buffer (cbf : Cbf φ κ ς) :
    (cbf.scheduleTimer self).buffer = cbf.buffer := by
  unfold scheduleTimer
  cases cbf.buffer.timers <;> rfl

@[simp] theorem drop_buffer (cbf : Cbf φ κ ς) (entry : TimerNode) (packet : CbfPacket φ) :
    (cbf.drop self entry packet).buffer = cbf.buffer.takeOut entry packet := by
  unfold drop
  dsimp only
  split_ifs
  · exact scheduleTimer_buffer _
  · rfl

omit [DecidableEq ς] in
/-- What is written back when a lifetime is reduced holds the timer as before. -/
theorem reduceLifetime_consistent {first rest : List (PacketNode φ)} {node : PacketNode φ}
    (consistent : cbf.buffer.Consistent) (held : cbf.buffer.Held entry first node rest) :
    (cbf.reduceLifetime entry node.packet).2.2.Consistent ∧
      (cbf.reduceLifetime entry node.packet).2.2.Held entry first
        { node with packet := (cbf.reduceLifetime entry node.packet).2.1 } rest :=
  ⟨consistent.write held (CbfPacket.reduceLifetime_identifier _ _)
    (CbfPacket.reduceLifetime_length _ _), held.write (CbfPacket.reduceLifetime_identifier _ _)⟩

theorem remove_consistent (consistent : cbf.buffer.Consistent) (id : PacketIdentifier) :
    (cbf.remove self id).2.buffer.Consistent := by
  rcases cbf.buffer.find_cases id with absent | ⟨entry, packet, finds⟩
  · rw [remove_of_none self absent]
    exact consistent
  · obtain ⟨_, _, _, held, rfl⟩ := finds.held consistent
    rw [remove_of_finds self finds, drop_buffer]
    exact consistent.takeOut held

theorem fetch_consistent (consistent : cbf.buffer.Consistent) (id : PacketIdentifier) :
    (cbf.fetch self id).2.buffer.Consistent := by
  rcases cbf.buffer.find_cases id with absent | ⟨entry, packet, finds⟩
  · rw [fetch_of_none self absent]
    exact consistent
  · obtain ⟨_, _, _, held, rfl⟩ := finds.held consistent
    obtain ⟨reduced, heldReduced⟩ := reduceLifetime_consistent consistent held
    have taken := reduced.takeOut heldReduced
    rw [fetch_of_finds self finds, drop_buffer]
    exact taken

omit [DecidableEq ς] in
theorem update_consistent (consistent : cbf.buffer.Consistent) (id : PacketIdentifier)
    (timeout : ℤ) : (cbf.update id timeout).buffer.Consistent := by
  rcases cbf.buffer.find_cases id with absent | ⟨entry, packet, finds⟩
  · rw [update_of_none absent]
    exact consistent
  · obtain ⟨_, _, _, held, rfl⟩ := finds.held consistent
    obtain ⟨reduced, _⟩ := reduceLifetime_consistent consistent held
    obtain ⟨member, rfl⟩ := finds.member
    rw [update_of_finds finds]
    exact reduced.retimed member _

theorem add_consistent (consistent : cbf.buffer.Consistent) (packet : CbfPacket φ) (timeout : ℤ)
    (node : ℕ) : (cbf.add self packet timeout node).buffer.Consistent := by
  unfold add
  have added := (consistent.makeRoom packet).emplace cbf.runtime.now timeout node
  dsimp only
  split_ifs
  · exact consistent
  · rw [scheduleTimer_buffer]
    exact added
  · exact added

omit [DecidableEq ς] in
theorem flushOne_consistent (consistent : cbf.buffer.Consistent) (member : entry ∈ cbf.buffer.timers) :
    (cbf.flushOne entry).2.buffer.Consistent ∧
      (cbf.flushOne entry).2.buffer.timers =
        cbf.buffer.timers.filter fun other => other.id ≠ entry.id := by
  obtain ⟨_, node, _, held⟩ := consistent.held member
  obtain ⟨reduced, heldReduced⟩ := reduceLifetime_consistent consistent held
  unfold flushOne
  rw [held.deref]
  have taken := reduced.takeOut heldReduced
  exact ⟨taken, rfl⟩

omit [DecidableEq ς] in
/-- A round of `flush` leaves the other timers in the buffer. -/
theorem mem_flushOne {other : TimerNode} (consistent : cbf.buffer.Consistent)
    (member : entry ∈ cbf.buffer.timers) (among : other ∈ cbf.buffer.timers) (differs : other.id ≠ entry.id) :
    other ∈ (cbf.flushOne entry).2.buffer.timers := by
  rw [(flushOne_consistent consistent member).2]
  exact List.mem_filter.mpr ⟨among, decide_eq_true differs⟩

omit [DecidableEq ς] in
/-- **The loop of `flush`**: the timers that are visited leave the buffer. -/
theorem flushAll_consistent (entries : List TimerNode) : ∀ {cbf : Cbf φ κ ς},
    cbf.buffer.Consistent → (entries.map TimerNode.id).Nodup →
    (∀ entry ∈ entries, entry ∈ cbf.buffer.timers) →
    (cbf.flushAll entries).2.buffer.Consistent ∧
      (cbf.flushAll entries).2.buffer.timers.Sublist cbf.buffer.timers := by
  induction entries with
  | nil =>
    intro cbf consistent _ _
    exact ⟨consistent, List.Sublist.refl _⟩
  | cons entry rest ih =>
    intro cbf consistent nodup members
    obtain ⟨fresh, nodup⟩ := List.nodup_cons.mp nodup
    obtain ⟨flushed, remaining⟩ := flushOne_consistent consistent (members entry List.mem_cons_self)
    have still : ∀ other ∈ rest, other ∈ (cbf.flushOne entry).2.buffer.timers := by
      intro other among
      have differs : other.id ≠ entry.id := fun same => fresh (same ▸ List.mem_map_of_mem among)
      exact mem_flushOne consistent (members entry List.mem_cons_self)
        (members other (List.mem_cons_of_mem _ among)) differs
    obtain ⟨done, part⟩ := ih flushed nodup still
    refine ⟨done, part.trans ?_⟩
    rw [remaining]
    exact List.filter_sublist

theorem flush_consistent (consistent : cbf.buffer.Consistent) :
    (cbf.flush self).2.buffer.Consistent := by
  have part : (cbf.buffer.timers.takeWhile fun entry =>
      entry.timer.expiry ≤ cbf.runtime.now).Sublist cbf.buffer.timers :=
    (List.takeWhile_prefix _).sublist
  unfold flush
  dsimp only
  rw [scheduleTimer_buffer]
  exact (flushAll_consistent _ consistent (consistent.timer_ids.sublist (part.map _))
    fun entry among => part.subset among).1

theorem Makes.consistent {action : Action φ κ ς} {buffer : CbfPacketBuffer φ}
    (makes : Makes self cbf action buffer) (consistent : cbf.buffer.Consistent) : buffer.Consistent := by
  cases makes with
  | add packet timeout node => exact add_consistent consistent packet timeout node
  | remove id => exact remove_consistent consistent id
  | update id timeout => exact update_consistent consistent id timeout
  | fetch id => exact fetch_consistent consistent id
  | flush runtime =>
    have fired : ({ cbf with runtime } : Cbf φ κ ς).buffer.Consistent := consistent
    exact flush_consistent fired
  | rests => exact consistent

/-- Every step keeps the buffer consistent. -/
theorem step_consistent {action : Action φ κ ς} (consistent : cbf.buffer.Consistent)
    (taken : cbf.step self action = some after) : after.buffer.Consistent :=
  (step_makes taken).consistent consistent

end Cbf

/-! ### Every run -/

/-- **Packets, timers, bytes and counters of a buffer agree**: no two packets have one identifier,
each timer points to the packet it identifies, each packet has exactly one timer, the stored bytes
are those of the packets, and contending counters are those of the packets. -/
structure CbfPacketBuffer.Accounted (buffer : CbfPacketBuffer φ) : Prop where
  distinct : (buffer.packets.map fun node => node.packet.identifier).Nodup
  points : ∀ entry ∈ buffer.timers, ∃ packet, buffer.deref entry.info = some packet ∧
    packet.identifier = entry.id
  timed : ∀ node ∈ buffer.packets, ∃ entry ∈ buffer.timers, entry.info = node.ref ∧
    ∀ other ∈ buffer.timers, other.info = node.ref → other = entry
  sizes : buffer.timers.length = buffer.packets.length
  stored : buffer.storedBytes = (buffer.packets.map fun node => (node.packet.length : ℤ)).sum
  counters : ∀ counters, buffer.counter = .contending counters →
    ∀ id, id ∈ counters ↔ ∃ node ∈ buffer.packets, node.packet.identifier = id

theorem CbfPacketBuffer.Consistent.accounted {buffer : CbfPacketBuffer φ}
    (consistent : buffer.Consistent) : buffer.Accounted where
  distinct := consistent.ids
  points := by
    intro entry member
    obtain ⟨_, node, _, held⟩ := consistent.held member
    exact ⟨node.packet, held.deref, held.id⟩
  timed := by
    intro node member
    have listed := consistent.linked.symm.subset (List.mem_map_of_mem member)
    obtain ⟨entry, among, same⟩ := List.mem_map.mp listed
    refine ⟨entry, among, congrArg Prod.fst same, ?_⟩
    intro other otherAmong points
    obtain ⟨_, otherNode, _, held⟩ := consistent.held otherAmong
    have otherMember : otherNode ∈ buffer.packets := by
      rw [held.packets]
      exact List.mem_append_right _ List.mem_cons_self
    have equal : otherNode = node :=
      List.inj_on_of_nodup_map consistent.refs otherMember member (held.ref.trans points)
    have ids : other.id = entry.id := by
      rw [← held.id, equal]
      exact (congrArg Prod.snd same).symm
    exact List.inj_on_of_nodup_map consistent.timer_ids otherAmong among ids
  sizes := by
    have long := consistent.linked.length_eq
    rw [List.length_map, List.length_map] at long
    exact long
  stored := consistent.stored
  counters := consistent.counted

section Runs

variable {κ ς : Type} [DecidableEq ς]

/-- **The buffer of every run is consistent.** -/
theorem Cbf.consistent_reachable (self : FlushTimer κ ς) :
    ∀ cbf : Cbf φ κ ς, Reachable Initial (step self) cbf → cbf.buffer.Consistent := by
  apply GuardedReach.invariant
  · rintro first ⟨counter, bytes, now, created, rfl⟩
    exact CbfPacketBuffer.consistent_empty created bytes
  · intro before action after _ consistent _ taken
    exact step_consistent consistent taken

/-- **CBF buffer consistency.** After every sequence of operations the packets, the timers, the stored
bytes and contending counters agree. -/
theorem cbf_buffer_accounted (self : FlushTimer κ ς) (cbf : Cbf φ κ ς)
    (reached : Reachable Cbf.Initial (Cbf.step self) cbf) : cbf.buffer.Accounted :=
  (Cbf.consistent_reachable self cbf reached).accounted

end Runs

/-- A packet of 56 bytes without any payload that lives for a minute. -/
def emptyBroadcast (sequenceNumber : SequenceNumber) : CbfPacket Unit where
  packet :=
    { pdu :=
        { basic := ⟨1, .common, 0, .set .oneSecond 60, 10⟩
          common := ⟨.btpB, 0, .geoBroadcastCircle, ⟨0⟩, 0, 0, 10, 0⟩
          extended := ⟨sequenceNumber, 0, .zero, 0, 0, 100, 0, 0, 0⟩
          secured := none }
      payload := .empty
      action := () }
  sender := ⟨[2, 0, 0, 0, 0, 7], rfl⟩

/-- The only object of its runtime. -/
def lone : FlushTimer Unit Unit := ⟨(), ()⟩

/-- A buffer of 100 bytes. -/
def smallBuffer : Cbf Unit Unit Unit := ⟨.empty (.contending ∅) 100, ⟨0, []⟩⟩

theorem smallBuffer_initial : Cbf.Initial smallBuffer := ⟨_, 100, 0, .contending, rfl⟩

/-- In 100 bytes the second packet pushes the first one out, the third one is added twice. -/
theorem cbf_buffer_accounted_full :
    ∃ cbf : Cbf Unit Unit Unit,
      (Reachable Cbf.Initial (Cbf.step lone) cbf ∧
        cbf.buffer.packets.length = 1 ∧ cbf.buffer.storedBytes = 56) ∧ cbf.buffer.Accounted := by
  obtain ⟨cbf, reached, holds⟩ := run_reach Cbf.Initial (Cbf.step lone)
    (fun _ _ => True)
    (fun cbf => cbf.buffer.packets.length = 1 ∧ cbf.buffer.storedBytes = 56)
    smallBuffer_initial
    [.add (emptyBroadcast 1) 100000 0, .add (emptyBroadcast 2) 100000 1,
      .update (emptyBroadcast 2).identifier 50000, .add (emptyBroadcast 3) 20000 2,
      .add (emptyBroadcast 3) 20000 3, .advance 10000] (by decide)
  exact ⟨cbf, ⟨reached, holds⟩, cbf_buffer_accounted lone cbf reached⟩

end Vanet.Geonet
