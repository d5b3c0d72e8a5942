/-
**Dead packets that leave a buffer.**

A packet is dead when it has been queued for as long as it was to live, or when the lifetime that it is
transmitted with is nothing. A forwarding buffer hands a packet out at the very moment of its expiry, both
buffers hand out packets with a remainder that is encoded as nothing, and a contention buffer may round the
lifetime up whenever it renews a timer.

* `reduced_pos_iff`: a remainder of less than 25 ms is encoded as nothing.
* `release_alive_iff`: what a forwarding buffer hands out.
* `Stays.alive`: what a contention buffer hands out. Each renewal of the timer may have added half a unit of the
  lifetime's encoding.
* `leaves_alive`: in every run of the one and of the other.

Durations are exact here, and an exact half of a unit is rounded up.
-/

import Vanet.Geonet.CbfCapacity
import Vanet.Geonet.ForwardingRuns
import Vanet.Geonet.LifetimeConsumption

namespace Vanet.Geonet

open Vanet.Common Vanet.Library
open Vanet.Net hiding ByteBuffer

/-! ### One reduction -/

namespace Lifetime

/-- **Half a unit of 50 ms** is the least remainder that is not encoded as nothing. -/
theorem decode_encode_pos_iff {lifetime : Lifetime} {duration : ℤ} (positive : 0 ≤ duration)
    (less : duration < lifetime.decode) : 0 < (encode duration).decode ↔ 25000 ≤ duration := by
  rw [decode_encode positive less]
  unfold lround
  rw [if_pos positive]
  unfold Base.choose
  split_ifs
  all_goals
    simp only [Base.unit]
    omega

/-- No lifetime but nothing is shorter than 50 ms. -/
theorem decode_pos_iff (lifetime : Lifetime) : 0 < lifetime.decode ↔ 25000 ≤ lifetime.decode := by
  unfold decode
  cases lifetime.base
  all_goals
    simp only [Base.unit]
    omega

theorem reduced_pos_iff (lifetime : Lifetime) {elapsed : ℤ} (forward : 0 ≤ elapsed) :
    0 < (lifetime.reduced elapsed).decode ↔ 25000 ≤ lifetime.decode - elapsed := by
  unfold reduced
  split_ifs with unqueued outlives
  · have none : elapsed = 0 := le_antisymm unqueued forward
    rw [none, sub_zero]
    exact lifetime.decode_pos_iff
  · have less : lifetime.decode - elapsed < lifetime.decode := by omega
    exact decode_encode_pos_iff (by omega) less
  · rw [decode_zero]
    omega

theorem reencoded_zero (lifetime : Lifetime) : lifetime.reencoded 0 = 0 :=
  if_neg fun both => absurd both.1 (lt_irrefl 0)

end Lifetime

/-! ### Forwarding buffers -/

section Forwarding

variable {δ : Type} [PacketData δ]

/-- A node of a buffer: its data came at some time and expire with their lifetime. -/
structure Dated (node : Expiry × Numbered δ) (now : ℤ) : Prop where
  expiry : node.1 = .starting node.1.bufferedSince (PacketData.reduceLifetime node.2.data 0).1
  since : node.1.bufferedSince ≤ now

theorem Dated.mono {node : Expiry × Numbered δ} {now later : ℤ} (dated : Dated node now)
    (forward : now ≤ later) : Dated node later :=
  ⟨dated.expiry, dated.since.trans forward⟩

namespace ForwardingRun

/-- **What holds of the times in a run.** -/
structure Timed (run : ForwardingRun δ) : Prop where
  held : ∀ node ∈ run.buffer.nodes, Dated node run.clock
  sweeping : ∀ sweep, run.sweep = some sweep →
    sweep.now ≤ run.clock ∧ ∀ node ∈ sweep.nodes, Dated node sweep.now
  released : ∀ release ∈ run.released, Dated release.node release.now ∧
    release.handed = (PacketData.reduceLifetime release.node.2.data
      (release.now - release.node.1.bufferedSince)).2

theorem push_timed {run : ForwardingRun δ} (timed : run.Timed) (data : δ) {now : ℤ}
    (later : run.clock ≤ now) : (run.push data now).Timed := by
  refine ⟨?_, ?_, timed.released⟩
  · intro node member
    change node ∈ (run.buffer.push ⟨run.pushes, data⟩ now).2.nodes at member
    rw [PacketBuffer.push_nodes] at member
    rcases List.mem_append.mp member with spared | new
    · have live := (PacketBuffer.dropHeads_suffix _ _).subset spared
      exact (timed.held node (List.mem_filter.mp live).1).mono later
    · split_ifs at new
      · rw [List.mem_singleton.mp new]
        exact ⟨rfl, le_rfl⟩
      · exact absurd new List.not_mem_nil
  · intro sweep underWay
    obtain ⟨before, dated⟩ := timed.sweeping sweep underWay
    exact ⟨before.trans later, dated⟩

theorem flush_timed {run : ForwardingRun δ} (timed : run.Timed) {now : ℤ} (later : run.clock ≤ now) :
    (run.flush now).Timed := by
  refine ⟨fun node member => absurd member List.not_mem_nil, ?_, timed.released⟩
  intro sweep underWay
  cases underWay
  exact ⟨le_rfl, fun node member => (timed.held node member).mono later⟩

theorem visitNext_timed {run : ForwardingRun δ} {sweep : Sweep δ} (timed : run.Timed)
    (underWay : run.sweep = some sweep) : (run.visitNext sweep).Timed := by
  obtain ⟨before, dated⟩ := timed.sweeping sweep underWay
  unfold visitNext
  cases nodes : sweep.nodes with
  | nil =>
    refine ⟨timed.held, ?_, timed.released⟩
    intro other stopped
    cases stopped
  | cons node rest =>
    rw [nodes] at dated
    have rests : ∀ other ∈ rest, Dated other sweep.now :=
      fun other member => dated other (List.mem_cons_of_mem _ member)
    dsimp only
    split_ifs
    · refine ⟨timed.held, ?_, timed.released⟩
      intro other continued
      cases continued
      exact ⟨before, rests⟩
    · refine ⟨timed.held, ?_, ?_⟩
      · intro other continued
        cases continued
        exact ⟨before, rests⟩
      · intro release member
        rcases List.mem_append.mp member with earlier | new
        · exact timed.released release earlier
        · rw [List.mem_singleton.mp new]
          exact ⟨dated node List.mem_cons_self, rfl⟩

theorem timed_reachable {capacity : ℕ} {run : ForwardingRun δ}
    (reached : Reachable (Initial capacity) step run) : run.Timed := by
  induction reached with
  | start first =>
    obtain ⟨clock, rfl⟩ := first
    refine ⟨fun _ member => absurd member List.not_mem_nil, ?_,
      fun _ member => absurd member List.not_mem_nil⟩
    intro sweep underWay
    cases underWay
  | @next before _ action _ _ taken timed =>
    cases action with
    | push data now =>
      simp only [step] at taken
      split_ifs at taken with allowed
      cases taken
      exact push_timed timed data allowed.1
    | flush now =>
      simp only [step] at taken
      split_ifs at taken with allowed
      cases taken
      exact flush_timed timed allowed.1
    | visit =>
      obtain ⟨sweep, underWay, rfl⟩ := Option.map_eq_some_iff.mp taken
      exact visitNext_timed timed underWay

end ForwardingRun

/-- The lifetime that remains until the expiry. -/
def Release.remaining (release : Release δ) : ℤ := release.node.1.expiresAt - release.now

/-- **A packet that leaves alive**: it was queued for less time than it was to live when it was pushed, and
the lifetime that it has now is not nothing. -/
def Release.Alive (release : Release BufferData) : Prop :=
  release.now - release.node.1.bufferedSince < release.node.2.data.lifetime.decode ∧
    0 < release.handed.lifetime.decode

theorem reduceLifetime_zero (data : BufferData) :
    (PacketData.reduceLifetime data 0).1 = data.lifetime.decode := by
  cases data with
  | shb packet => rfl
  | gbc packet => rfl

/-- **What a forwarding buffer hands out.** -/
theorem release_alive_iff {capacity : ℕ} {run : ForwardingRun BufferData}
    (reached : Reachable (ForwardingRun.Initial capacity) ForwardingRun.step run)
    {release : Release BufferData} (member : release ∈ run.released) :
    release.Alive ↔ 25000 ≤ release.remaining := by
  obtain ⟨dated, handed⟩ := (ForwardingRun.timed_reachable reached).released release member
  have expires : release.node.1.expiresAt =
      release.node.1.bufferedSince + release.node.2.data.lifetime.decode := by
    rw [← reduceLifetime_zero]
    exact congrArg Expiry.expiresAt dated.expiry
  have encoded := release.node.2.data.lifetime.reduced_pos_iff (sub_nonneg.mpr dated.since)
  unfold Release.Alive Release.remaining
  rw [handed, reduceLifetime_bufferData, encoded, expires]
  omega

end Forwarding

/-! ### Contention buffers -/

namespace Cbf

open CbfPacketBuffer

variable {φ κ ς : Type}

/-- A packet in a contention buffer, and since when and with which lifetime it has been there. `slack` sums up
the units in which the lifetime has been encoded when the timer was renewed. -/
structure Stay (φ : Type) where
  entry : TimerNode
  packet : CbfPacket φ
  inserted : ℤ
  original : ℤ
  slack : ℤ

/-- The lifetime that remains for the packet. -/
def Stay.remaining (stay : Stay φ) (now : ℤ) : ℤ :=
  stay.packet.lifetime.decode - (now - stay.entry.timer.start)

variable [DecidableEq ς] (self : FlushTimer κ ς)

/-- **The packets of a buffer in a run**: a packet is added, and is still there after other operations. -/
inductive Stays : Cbf φ κ ς → Stay φ → Prop
  | enters {cbf after : Cbf φ κ ς} {entry : TimerNode} {packet : CbfPacket φ} {timeout : ℤ} {node : ℕ}
      (reached : Reachable Initial (step self) cbf)
      (added : cbf.step self (.add packet timeout node) = some after)
      (holds : after.buffer.Contains entry packet) (fresh : cbf.buffer.nextRef ≤ entry.info) :
    Stays after ⟨entry, packet, cbf.runtime.now, packet.lifetime.decode, 0⟩
  | remains {cbf after : Cbf φ κ ς} {stay : Stay φ} {action : Action φ κ ς} {entry : TimerNode}
      {packet : CbfPacket φ} (stays : Stays cbf stay) (taken : cbf.step self action = some after)
      (holds : after.buffer.Contains entry packet) (same : entry.info = stay.entry.info) :
    Stays after ⟨entry, packet, stay.inserted, stay.original,
      stay.slack + stay.packet.lifetime.reencoded (entry.timer.start - stay.entry.timer.start)⟩

/-- What the timer callback or the caller of `fetch` gets. -/
def handedOut (cbf : Cbf φ κ ς) : Action φ κ ς → List (PendingPacket GeoBroadcastHeader φ)
  | .fetch id => ((cbf.fetch self id).1.map CbfPacket.packet).toList
  | .flush => (cbf.flush self).1
  | .fire =>
    match cbf.runtime.popDue with
    | none => []
    | some due =>
      if due.1.scope = some self.scope then ({ cbf with runtime := due.2 }.flush self).1 else []
  | _ => []

variable {self}

/-! ### Every packet has come somehow -/

/-- Only `add` puts a packet into the list. -/
theorem Makes.refs {cbf : Cbf φ κ ς} {action : Action φ κ ς} {buffer : CbfPacketBuffer φ}
    (makes : Makes self cbf action buffer) {node : PacketNode φ} (member : node ∈ buffer.packets) :
    (∃ old ∈ cbf.buffer.packets, old.ref = node.ref) ∨
      ∃ timeout address, action = .add node.packet timeout address := by
  have part {buffer : CbfPacketBuffer φ} (part : Part buffer cbf.buffer) (member : node ∈ buffer.packets) :
      (∃ old ∈ cbf.buffer.packets, old.ref = node.ref) ∨
        ∃ timeout address, action = .add node.packet timeout address :=
    .inl ⟨node, part.packets member, rfl⟩
  cases makes with
  | add packet timeout address =>
    by_cases early : timeout ≤ 0
    · unfold Cbf.add at member
      rw [if_pos early] at member
      exact .inl ⟨node, member, rfl⟩
    · rw [add_buffer (not_le.mp early)] at member
      rcases mem_emplace member with old | rfl
      · exact .inl ⟨node, (makeRoom_part _ _).packets old, rfl⟩
      · exact .inr ⟨timeout, address, rfl⟩
  | remove id => exact part (remove_part id) member
  | update id timeout =>
    rcases cbf.buffer.find_cases id with absent | ⟨entry, packet, finds⟩
    · rw [update_of_none absent] at member
      exact .inl ⟨node, member, rfl⟩
    · rw [update_of_finds finds] at member
      obtain ⟨old, present, written⟩ := List.mem_map.mp member
      refine .inl ⟨old, present, ?_⟩
      rw [← written]
      split_ifs <;> rfl
  | fetch id => exact part (fetch_part id) member
  | flush runtime => exact part (@flush_part _ _ _ _ self { cbf with runtime }) member
  | rests => exact part (.refl _) member

/-- What is in a buffer has just been added, or has been there. -/
theorem step_origin {cbf after : Cbf φ κ ς} {action : Action φ κ ς} {entry : TimerNode}
    {packet : CbfPacket φ} (consistent : cbf.buffer.Consistent) (taken : cbf.step self action = some after)
    (holds : after.buffer.Contains entry packet) :
    (∃ timeout address, action = .add packet timeout address ∧ cbf.buffer.nextRef ≤ entry.info) ∨
      ∃ old oldPacket, cbf.buffer.Contains old oldPacket ∧ old.info = entry.info ∧
        Ages cbf.runtime.now (old, oldPacket) (entry, packet) := by
  rcases step_inherits consistent taken entry packet holds with fresh | earlier
  · rcases (step_makes taken).refs holds.2 with ⟨old, present, same⟩ | ⟨timeout, address, added⟩
    · have used := consistent.used old present
      rw [same] at used
      exact absurd fresh (not_le.mpr used)
    · exact .inl ⟨timeout, address, added, fresh⟩
  · exact .inr earlier

/-- **Every packet of a buffer has its stay.** -/
theorem stays_of_contains {cbf : Cbf φ κ ς} (reached : Reachable Initial (step self) cbf) :
    ∀ {entry : TimerNode} {packet : CbfPacket φ}, cbf.buffer.Contains entry packet →
      ∃ stay, Stays self cbf stay ∧ stay.entry = entry ∧ stay.packet = packet := by
  induction reached with
  | start initial =>
    obtain ⟨counter, bytes, now, _, rfl⟩ := initial
    exact fun holds => absurd holds.1 List.not_mem_nil
  | next reached _ taken ih =>
    intro entry packet holds
    rcases step_origin (consistent_reachable self _ reached) taken holds with
      ⟨timeout, address, rfl, fresh⟩ | ⟨old, oldPacket, held, same, _⟩
    · exact ⟨_, .enters reached taken holds fresh, rfl, rfl⟩
    · obtain ⟨stay, stays, rfl, rfl⟩ := ih held
      exact ⟨_, .remains stays taken holds same.symm, rfl, rfl⟩

/-! ### What is handed out -/

/-- What holds of a stay. -/
structure Stay.Valid (cbf : Cbf φ κ ς) (stay : Stay φ) : Prop where
  holds : cbf.buffer.Contains stay.entry stay.packet
  started : stay.entry.timer.start ≤ cbf.runtime.now
  account : stay.packet.lifetime.Within stay.original (stay.entry.timer.start - stay.inserted) stay.slack

/-- **The account of a stay**: when a timer is renewed, the time of the old one is taken from the lifetime,
which is rounded. -/
theorem Stays.valid {cbf : Cbf φ κ ς} {stay : Stay φ} (stays : Stays self cbf stay) :
    Reachable Initial (step self) cbf ∧ stay.Valid cbf := by
  induction stays with
  | @enters cbf after entry packet timeout node reached added holds fresh =>
    have consistent := consistent_reachable self cbf reached
    have next := GuardedReach.next reached trivial added
    simp only [step] at added
    split_ifs at added
    cases added
    have starts : entry.timer.start = cbf.runtime.now := add_starts consistent holds fresh
    refine ⟨next, holds, ?_, .inr ?_⟩
    · rw [add_now]
      exact starts.le
    · dsimp only
      rw [starts]
      omega
  | @remains cbf after stay action entry packet stays taken holds same ih =>
    obtain ⟨reached, held, started, account⟩ := ih
    have consistent := consistent_reachable self cbf reached
    have next := GuardedReach.next reached trivial taken
    have later := step_now_le taken
    have ages := (step_inherits consistent taken).ages consistent held holds same
    obtain ⟨old, oldPacket, inserted, original, slack⟩ := stay
    dsimp only at started account ages ⊢
    cases ages with
    | kept =>
      refine ⟨next, holds, started.trans later, ?_⟩
      rw [sub_self, Lifetime.reencoded_zero, add_zero]
      exact account
    | renewed timeout =>
      refine ⟨next, holds, later, ?_⟩
      have settled := account.reduced (sub_nonneg.mpr started)
      have queued : old.timer.start - inserted + (cbf.runtime.now - old.timer.start) =
          cbf.runtime.now - inserted := by omega
      rw [← CbfPacket.reduceLifetime_lifetime, queued] at settled
      exact settled

/-- What is handed out is a packet of the buffer, with its lifetime reduced by the time of its timer. -/
theorem handedOut_returns {cbf : Cbf φ κ ς} {action : Action φ κ ς}
    {out : PendingPacket GeoBroadcastHeader φ} (handed : out ∈ cbf.handedOut self action) :
    ∃ entry packet, cbf.buffer.Contains entry packet ∧
      out = (packet.reduceLifetime (cbf.runtime.now - entry.timer.start)).2.packet := by
  cases action with
  | fetch id =>
    obtain ⟨fetched, returned, rfl⟩ := Option.map_eq_some_iff.mp (Option.mem_toList.mp handed)
    obtain ⟨entry, packet, holds, _, rfl⟩ := fetch_returns returned
    exact ⟨entry, packet, holds, rfl⟩
  | flush => exact flush_returns handed
  | fire =>
    unfold handedOut at handed
    cases popped : cbf.runtime.popDue with
    | none =>
      rw [popped] at handed
      exact absurd handed List.not_mem_nil
    | some due =>
      rw [popped] at handed
      dsimp only at handed
      obtain ⟨rest, _, _, same⟩ := ManualRuntime.popDue_some.mp popped
      split_ifs at handed
      · obtain ⟨entry, packet, holds, returned⟩ := flush_returns handed
        refine ⟨entry, packet, holds, ?_⟩
        rw [returned, same]
      · exact absurd handed List.not_mem_nil
  | add => exact absurd handed List.not_mem_nil
  | remove => exact absurd handed List.not_mem_nil
  | update => exact absurd handed List.not_mem_nil
  | advance => exact absurd handed List.not_mem_nil
  | schedule => exact absurd handed List.not_mem_nil
  | cancel => exact absurd handed List.not_mem_nil

/-- **A packet that leaves alive**: it was queued for less time than it was to live when it was added, and
the lifetime that it has now is not nothing. -/
def Stay.Alive (stay : Stay φ) (now : ℤ) (out : PendingPacket GeoBroadcastHeader φ) : Prop :=
  now - stay.inserted < stay.original ∧ 0 < out.lifetime.decode

/-- **What a contention buffer hands out.** -/
theorem Stays.alive {cbf : Cbf φ κ ς} {stay : Stay φ} {action : Action φ κ ς}
    {out : PendingPacket GeoBroadcastHeader φ} (stays : Stays self cbf stay)
    (handed : out ∈ cbf.handedOut self action)
    (same : out.pdu.extended.identifier = stay.packet.identifier) :
    (25000 ≤ stay.remaining cbf.runtime.now ∧ stay.slack < 2 * stay.remaining cbf.runtime.now →
      stay.Alive cbf.runtime.now out) ∧
    (stay.Alive cbf.runtime.now out → 25000 ≤ stay.remaining cbf.runtime.now) := by
  obtain ⟨reached, holds, started, account⟩ := stays.valid
  obtain ⟨entry, packet, held, rfl⟩ := handedOut_returns handed
  have equal : packet.identifier = stay.packet.identifier :=
    (CbfPacket.reduceLifetime_identifier packet _).symm.trans same
  obtain ⟨rfl, rfl⟩ := holds.unique_identifier held (consistent_reachable self cbf reached) equal
  have lifetime := stay.packet.reduceLifetime_lifetime (cbf.runtime.now - stay.entry.timer.start)
  have encoded := stay.packet.lifetime.reduced_pos_iff (sub_nonneg.mpr started)
  unfold Stay.Alive Stay.remaining
  change (_ → _ ∧ 0 < (stay.packet.reduceLifetime _).2.lifetime.decode) ∧
    (_ ∧ 0 < (stay.packet.reduceLifetime _).2.lifetime.decode → _)
  rw [lifetime, encoded]
  refine ⟨?_, fun alive => alive.2⟩
  rintro ⟨some, ahead⟩
  -- the renewals have added no more than half the slack
  have spent : stay.packet.lifetime.decode ≠ 0 := by omega
  have bound := account.resolve_left spent
  exact ⟨by omega, some⟩

end Cbf

/-! ### Every run -/

section Runs

variable {φ κ ς : Type} [DecidableEq ς] (self : FlushTimer κ ς)

/-- **No dead packet leaves a buffer.** -/
def NoDeadPacketLeaves : Prop :=
  (∀ capacity (run : ForwardingRun BufferData),
    Reachable (ForwardingRun.Initial capacity) ForwardingRun.step run →
      ∀ release ∈ run.released, release.Alive) ∧
  ∀ (cbf : Cbf φ κ ς) (action : Cbf.Action φ κ ς), ∀ out ∈ cbf.handedOut self action,
    ∀ stay, Cbf.Stays self cbf stay → out.pdu.extended.identifier = stay.packet.identifier →
      stay.Alive cbf.runtime.now out

/-- **Which packets leave a buffer alive.** In every run, a packet that a forwarding buffer hands out is
alive just if at least 25 ms remain for it. One of a contention buffer, which has its stay, is not alive if less
remain; and it is if they do and the units in which its lifetime has been encoded at the renewals of its timer
are in sum less than twice the remainder. So it is just if they do when its timer has not been renewed. -/
theorem leaves_alive :
    (∀ capacity (run : ForwardingRun BufferData),
      Reachable (ForwardingRun.Initial capacity) ForwardingRun.step run →
        ∀ release ∈ run.released, release.Alive ↔ 25000 ≤ release.remaining) ∧
    ∀ cbf : Cbf φ κ ς, Reachable Cbf.Initial (Cbf.step self) cbf →
      ∀ action, ∀ out ∈ cbf.handedOut self action,
        (∃ stay, Cbf.Stays self cbf stay ∧
          out.pdu.extended.identifier = stay.packet.identifier) ∧
        ∀ stay, Cbf.Stays self cbf stay → out.pdu.extended.identifier = stay.packet.identifier →
          (25000 ≤ stay.remaining cbf.runtime.now ∧ stay.slack < 2 * stay.remaining cbf.runtime.now →
            stay.Alive cbf.runtime.now out) ∧
          (stay.Alive cbf.runtime.now out → 25000 ≤ stay.remaining cbf.runtime.now) := by
  refine ⟨fun _ _ reached _ member => release_alive_iff reached member, ?_⟩
  intro cbf reached action out handed
  refine ⟨?_, fun stay stays same => stays.alive handed same⟩
  obtain ⟨entry, packet, holds, rfl⟩ := Cbf.handedOut_returns handed
  obtain ⟨stay, stays, _, rfl⟩ := Cbf.stays_of_contains reached holds
  exact ⟨stay, stays, CbfPacket.reduceLifetime_identifier _ _⟩

end Runs

/-- Thirty seconds after a packet has been added. -/
def halfMinuteLater : Cbf Unit Unit Unit :=
  { smallBuffer.add lone (emptyBroadcast 1) 100000000 0 with
    runtime := ⟨30000000, (smallBuffer.add lone (emptyBroadcast 1) 100000000 0).runtime.queue⟩ }

/-- Its timer is renewed, and ten seconds pass. -/
def renewedBuffer : Cbf Unit Unit Unit :=
  { halfMinuteLater.update (emptyBroadcast 1).identifier 100000000 with
    runtime := ⟨40000000, halfMinuteLater.runtime.queue⟩ }

/-- Half of its minute is left at the renewal, in units of a second. -/
def renewedStay : Cbf.Stay Unit :=
  ⟨⟨0, .starting 30000000 100000000, (emptyBroadcast 1).identifier, 0⟩,
    ((emptyBroadcast 1).reduceLifetime 30000000).2, 0, 60000000, 1000000⟩

theorem renewedStay_stays : Cbf.Stays lone renewedBuffer renewedStay := by
  have entered : Cbf.Stays lone (smallBuffer.add lone (emptyBroadcast 1) 100000000 0)
      ⟨⟨0, .starting 0 100000000, (emptyBroadcast 1).identifier, 0⟩, emptyBroadcast 1, 0, 60000000, 0⟩ :=
    .enters (.start smallBuffer_initial) rfl ⟨List.mem_singleton.mpr rfl, List.mem_singleton.mpr rfl⟩
      (Nat.zero_le _)
  have passed : (smallBuffer.add lone (emptyBroadcast 1) 100000000 0).step lone (.advance 30000000) =
      some halfMinuteLater := rfl
  have renewed : halfMinuteLater.step lone (.update (emptyBroadcast 1).identifier 100000000) =
      some (halfMinuteLater.update (emptyBroadcast 1).identifier 100000000) := rfl
  have later : (halfMinuteLater.update (emptyBroadcast 1).identifier 100000000).step lone
      (.advance 10000000) = some renewedBuffer := rfl
  have waits := entered.remains passed ⟨List.mem_singleton.mpr rfl, List.mem_singleton.mpr rfl⟩ rfl
  have waitsAgain := waits.remains renewed ⟨List.mem_singleton.mpr rfl, List.mem_singleton.mpr rfl⟩ rfl
  exact waitsAgain.remains later ⟨List.mem_singleton.mpr rfl, List.mem_singleton.mpr rfl⟩ rfl

/-- The packet is fetched twenty seconds before its end. -/
theorem leaves_alive_fetched :
    (∃ out ∈ renewedBuffer.handedOut lone (.fetch (emptyBroadcast 1).identifier),
      renewedStay.Alive renewedBuffer.runtime.now out) ∧
    ∃ run : ForwardingRun BufferData, ∃ release ∈ run.released, release.Alive := by
  have leaves := @leaves_alive Unit Unit Unit _ lone
  refine ⟨⟨_, List.mem_singleton.mpr rfl, ?_⟩, ?_⟩
  · have contention := leaves.2 renewedBuffer renewedStay_stays.valid.1 (.fetch (emptyBroadcast 1).identifier) _
      (List.mem_singleton.mpr rfl)
    exact (contention.2 renewedStay renewedStay_stays rfl).1 (by decide +kernel)
  · obtain ⟨run, reached, release, member, remains⟩ := run_reach (ForwardingRun.Initial 100)
      ForwardingRun.step (fun _ _ => True)
      (fun run : ForwardingRun BufferData => ∃ release ∈ run.released, 25000 ≤ release.remaining)
      ⟨0, rfl⟩ [.push PacketBuffer.heldBroadcast 0, .flush 1000, .visit] (by decide +kernel)
    exact ⟨run, release, member, (leaves.1 100 run reached release member).mpr remains⟩

/-- **A packet leaves at the moment of its expiry**, with a lifetime of nothing. -/
theorem dead_packet_leaves : ¬ @NoDeadPacketLeaves Unit Unit Unit _ lone := by
  intro alive
  obtain ⟨run, reached, expired⟩ := run_reach (ForwardingRun.Initial 100) ForwardingRun.step
    (fun _ _ => True)
    (fun run : ForwardingRun BufferData => ∃ release ∈ run.released,
      release.node.2.data.lifetime.decode ≤ release.now - release.node.1.bufferedSince)
    ⟨0, rfl⟩ [.push PacketBuffer.heldBroadcast 0, .flush 60000000, .visit] (by decide +kernel)
  obtain ⟨release, member, old⟩ := expired
  exact not_lt.mpr old (alive.1 100 run reached release member).1

end Vanet.Geonet
