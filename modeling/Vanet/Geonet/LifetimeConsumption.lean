/-
**Queuing consumes lifetime, up to the rounding of every encoding.**

A packet travels through packet buffers and contention buffers. While it is in one, its queuing time
grows with the clock; its lifetime is encoded anew when it leaves, or when its timer is renewed. An
encoding rounds to the nearest multiple of its unit, and nothing but the encoded lifetime is carried
on. `slack` sums up the units of these encodings.

* `Within.reduced`: what one reduction does to the account of a lifetime.
* `step_settled`: what a step does to it.
* `queuing_consumes_lifetime`: over every journey of a packet.
* `rounding_accumulates`: ten-second units that are rounded up again and again.
-/

import Vanet.Geonet.CbfContents
import Vanet.Geonet.RouterState

namespace Vanet.Geonet

open Vanet.Common Vanet.Library
open Vanet.Net hiding ByteBuffer

/-! ### One reduction -/

namespace Lifetime

/-- The lifetime after a queuing time. -/
def reduced (lifetime : Lifetime) (queuingTime : ℤ) : Lifetime :=
  if queuingTime ≤ 0 then lifetime
  else if queuingTime < lifetime.decode then encode (lifetime.decode - queuingTime)
  else zero

/-- The unit of the encoding that takes place then, if one does. -/
def reencoded (lifetime : Lifetime) (queuingTime : ℤ) : ℤ :=
  if 0 < queuingTime ∧ queuingTime < lifetime.decode then
    (Base.choose (lifetime.decode - queuingTime)).unit
  else 0

theorem reduced_le (lifetime : Lifetime) (queuingTime : ℤ) :
    (lifetime.reduced queuingTime).decode ≤ lifetime.decode := by
  unfold reduced
  split_ifs with unqueued outlives
  · exact le_rfl
  · exact decode_encode_le (by omega) (by omega)
  · exact lifetime.decode_nonneg

/-- **The account of a lifetime**: it is over, or it is the original lifetime less the queuing time,
up to half the slack. -/
def Within (original queued slack : ℤ) (lifetime : Lifetime) : Prop :=
  lifetime.decode = 0 ∨ 2 * lifetime.decode ≤ 2 * (original - queued) + slack

/-- **A reduction settles its queuing time**, for the unit of its encoding. -/
theorem Within.reduced {original queued slack queuingTime : ℤ} {lifetime : Lifetime}
    (account : Within original queued slack lifetime) (elapsed : 0 ≤ queuingTime) :
    Within original (queued + queuingTime) (slack + lifetime.reencoded queuingTime)
      (lifetime.reduced queuingTime) := by
  unfold Lifetime.reduced reencoded
  by_cases unqueued : queuingTime ≤ 0
  · have zero : queuingTime = 0 := by omega
    rw [if_pos unqueued, if_neg (by omega), zero, add_zero, add_zero]
    exact account
  · rw [if_neg unqueued]
    by_cases outlives : queuingTime < lifetime.decode
    · rw [if_pos outlives, if_pos ⟨by omega, outlives⟩]
      have shorter : lifetime.decode - queuingTime < lifetime.decode := by omega
      have rounded := two_mul_decode_encode_le (by omega) shorter
      obtain spent | bound := account
      · omega
      · exact .inr (by linarith)
    · rw [if_neg outlives]
      exact .inl decode_zero

end Lifetime

namespace PendingPacket

variable {H φ : Type}

def lifetime (packet : PendingPacket H φ) : Lifetime := packet.pdu.basic.lifetime

theorem reduceLifetime_lifetime (packet : PendingPacket H φ) (queuingTime : ℤ) :
    (packet.reduceLifetime queuingTime).2.lifetime = packet.lifetime.reduced queuingTime := by
  unfold reduceLifetime Lifetime.reduced lifetime
  dsimp only
  split_ifs <;> rfl

end PendingPacket

/-- The lifetime of buffered data. -/
def BufferData.lifetime : BufferData → Lifetime
  | .shb packet => packet.lifetime
  | .gbc packet => packet.lifetime

theorem reduceLifetime_bufferData (data : BufferData) (queuingTime : ℤ) :
    (PacketData.reduceLifetime data queuingTime).2.lifetime =
      data.lifetime.reduced queuingTime := by
  cases data with
  | shb packet => exact packet.reduceLifetime_lifetime queuingTime
  | gbc packet => exact packet.reduceLifetime_lifetime queuingTime

namespace CbfPacket

variable {φ : Type}

def lifetime (cbf : CbfPacket φ) : Lifetime := cbf.packet.lifetime

theorem reduceLifetime_lifetime (cbf : CbfPacket φ) (queuingTime : ℤ) :
    (cbf.reduceLifetime queuingTime).2.lifetime = cbf.lifetime.reduced queuingTime :=
  cbf.packet.reduceLifetime_lifetime queuingTime

end CbfPacket

/-! ### Journeys -/

variable {φ κ ς : Type}

/-- Where a packet is: with its router, in a packet buffer, or in a contention buffer. -/
inductive Place (φ κ ς : Type)
  | hand (lifetime : Lifetime)
  | waiting (buffer : PacketBuffer BufferData) (expiry : Expiry) (data : BufferData)
  | contending (cbf : Cbf φ κ ς) (entry : TimerNode) (packet : CbfPacket φ)

/-- The encoded lifetime. -/
def Place.lifetime : Place φ κ ς → Lifetime
  | hand lifetime => lifetime
  | waiting _ _ data => data.lifetime
  | contending _ _ packet => packet.lifetime

/-- **A packet on its journey**: the time, where it is, for how long it has been in buffers, and the
sum of the units that its lifetime has been encoded in on the way. -/
structure Journey (φ κ ς : Type) where
  now : ℤ
  place : Place φ κ ς
  queued : ℤ
  slack : ℤ

namespace Journey

/-- For how long the packet has been in its place without its lifetime being reduced. -/
def unsettled (journey : Journey φ κ ς) : ℤ :=
  match journey.place with
  | .hand _ => 0
  | .waiting _ expiry _ => journey.now - expiry.bufferedSince
  | .contending _ entry _ => journey.now - entry.timer.start

/-- **The remaining lifetime**, which the packet would have if it left its place now. -/
def remaining (journey : Journey φ κ ς) : ℤ := journey.place.lifetime.decode - journey.unsettled

variable [DecidableEq ς] (flushTimer : FlushTimer κ ς)

/-- **What can happen to a packet.** The buffers that it enters are any that have come about, and
any operation may be called on them while it is there. -/
inductive Step : Journey φ κ ς → Journey φ κ ς → Prop
  | rest {now queued slack : ℤ} {lifetime : Lifetime} (d : ℤ) (later : 0 ≤ d) :
    Step ⟨now, .hand lifetime, queued, slack⟩ ⟨now + d, .hand lifetime, queued, slack⟩
  | push {now queued slack : ℤ} (buffer : PacketBuffer BufferData) (data : BufferData)
      (pushed : (buffer.push data now).1 = true) :
    Step ⟨now, .hand data.lifetime, queued, slack⟩
      ⟨now, .waiting (buffer.push data now).2
        (.starting now (PacketData.reduceLifetime data 0).1) data, queued, slack⟩
  | wait {now queued slack : ℤ} {buffer : PacketBuffer BufferData} {expiry : Expiry}
      {data : BufferData} (d : ℤ) (later : 0 ≤ d) :
    Step ⟨now, .waiting buffer expiry data, queued, slack⟩
      ⟨now + d, .waiting buffer expiry data, queued + d, slack⟩
  | pushOther {now queued slack : ℤ} {buffer : PacketBuffer BufferData} {expiry : Expiry}
      {data : BufferData} (other : BufferData)
      (kept : (expiry, data) ∈ (buffer.push other now).2.nodes) :
    Step ⟨now, .waiting buffer expiry data, queued, slack⟩
      ⟨now, .waiting (buffer.push other now).2 expiry data, queued, slack⟩
  | flush {now queued slack : ℤ} {buffer : PacketBuffer BufferData} {expiry : Expiry}
      {data : BufferData} (first rest : List (Expiry × BufferData))
      (place : buffer.nodes = first ++ (expiry, data) :: rest) (flushed : BufferData)
      (processed : buffer.flushed now = ({ buffer with nodes := first }).flushed now ++
        flushed :: ({ buffer with nodes := rest }).flushed now) :
    Step ⟨now, .waiting buffer expiry data, queued, slack⟩
      ⟨now, .hand flushed.lifetime, queued,
        slack + data.lifetime.reencoded (now - expiry.bufferedSince)⟩
  | add {queued slack : ℤ} (cbf after : Cbf φ κ ς) (entry : TimerNode) (packet : CbfPacket φ)
      (timeout : ℤ) (node : ℕ) (reached : Reachable Cbf.Initial (Cbf.step flushTimer) cbf)
      (added : cbf.step flushTimer (.add packet timeout node) = some after)
      (holds : after.buffer.Contains entry packet) (fresh : cbf.buffer.nextRef ≤ entry.info) :
    Step ⟨cbf.runtime.now, .hand packet.lifetime, queued, slack⟩
      ⟨cbf.runtime.now, .contending after entry packet, queued, slack⟩
  | operate {now queued slack : ℤ} {cbf : Cbf φ κ ς} {entry : TimerNode} {packet : CbfPacket φ}
      (action : Cbf.Action φ κ ς) (after : Cbf φ κ ς) (entry' : TimerNode) (packet' : CbfPacket φ)
      (taken : cbf.step flushTimer action = some after) (same : entry'.info = entry.info)
      (holds : after.buffer.Contains entry' packet') :
    Step ⟨now, .contending cbf entry packet, queued, slack⟩
      ⟨after.runtime.now, .contending after entry' packet',
        queued + (after.runtime.now - now),
        slack + packet.lifetime.reencoded (entry'.timer.start - entry.timer.start)⟩
  | fetch {now queued slack : ℤ} {cbf : Cbf φ κ ς} {entry : TimerNode} {packet : CbfPacket φ}
      (fetched : CbfPacket φ) (returned : (cbf.fetch flushTimer entry.id).1 = some fetched) :
    Step ⟨now, .contending cbf entry packet, queued, slack⟩
      ⟨now, .hand fetched.lifetime, queued,
        slack + packet.lifetime.reencoded (now - entry.timer.start)⟩
  | serve {now queued slack : ℤ} {cbf : Cbf φ κ ς} {entry : TimerNode} {packet : CbfPacket φ}
      (served : PendingPacket GeoBroadcastHeader φ) (returned : served ∈ (cbf.flush flushTimer).1)
      (same : served.pdu.extended.identifier = packet.identifier) :
    Step ⟨now, .contending cbf entry packet, queued, slack⟩
      ⟨now, .hand served.lifetime, queued,
        slack + packet.lifetime.reencoded (now - entry.timer.start)⟩

/-! ### What a step settles -/

/-- The packet of a contention buffer is there, and the buffer has come about. -/
def InBuffer (now : ℤ) : Place φ κ ς → Prop
  | .contending cbf entry packet =>
    Reachable Cbf.Initial (Cbf.step flushTimer) cbf ∧ cbf.runtime.now = now ∧
      cbf.buffer.Contains entry packet
  | _ => True

/-- What holds of every journey. -/
structure Valid (journey : Journey φ κ ς) : Prop where
  elapsed : 0 ≤ journey.unsettled
  buffered : InBuffer flushTimer journey.now journey.place

/-- **Time is settled between two points of a journey**: the lifetime is reduced by it, once. -/
structure Settles (before after : Journey φ κ ς) (d : ℤ) : Prop where
  forward : 0 ≤ d
  lifetime : after.place.lifetime = before.place.lifetime.reduced d
  slack : after.slack = before.slack + before.place.lifetime.reencoded d
  queued : after.queued - after.unsettled = before.queued - before.unsettled + d

theorem reduced_zero (lifetime : Lifetime) : lifetime.reduced 0 = lifetime := if_pos le_rfl

theorem reencoded_zero (lifetime : Lifetime) : lifetime.reencoded 0 = 0 :=
  if_neg fun both => absurd both.1 (lt_irrefl 0)

omit [DecidableEq ς] in
/-- The lifetime stays as it is. -/
theorem Settles.none {before after : Journey φ κ ς}
    (lifetime : after.place.lifetime = before.place.lifetime) (slack : after.slack = before.slack)
    (queued : after.queued - after.unsettled = before.queued - before.unsettled) :
    Settles before after 0 := by
  refine ⟨le_rfl, ?_, ?_, ?_⟩
  · rw [reduced_zero, lifetime]
  · rw [reencoded_zero, slack, add_zero]
  · rw [queued, add_zero]

/-- What is flushed for a node of a packet buffer. -/
theorem flushed_of_nodes {buffer : PacketBuffer BufferData} {expiry : Expiry}
    {data flushed : BufferData} {first rest : List (Expiry × BufferData)} {now : ℤ}
    (place : buffer.nodes = first ++ (expiry, data) :: rest)
    (processed : buffer.flushed now = ({ buffer with nodes := first }).flushed now ++
      flushed :: ({ buffer with nodes := rest }).flushed now) :
    flushed = (PacketData.reduceLifetime data (now - expiry.bufferedSince)).2 := by
  unfold PacketBuffer.flushed at processed
  rw [place, List.filter_append, List.map_append, List.filter_cons] at processed
  have rest := List.append_cancel_left processed
  by_cases expired : expiry.isExpired now = true
  · rw [if_neg (by rw [expired]; decide)] at rest
    exact absurd (congrArg List.length rest) (by simp)
  · rw [if_pos (by rw [Bool.not_eq_true _ |>.mp expired]; decide)] at rest
    exact (List.cons.inj rest).1.symm

section Cases

variable {flushTimer : FlushTimer κ ς} {now queued slack : ℤ} {cbf : Cbf φ κ ς} {entry : TimerNode}
  {packet : CbfPacket φ}

/-- Time that is still unsettled is settled now. -/
theorem Settles.elapsed {lifetime : Lifetime} {place : Place φ κ ς}
    (valid : Valid flushTimer ⟨now, place, queued, slack⟩)
    (reduced : lifetime = place.lifetime.reduced (unsettled ⟨now, place, queued, slack⟩)) :
    Settles ⟨now, place, queued, slack⟩ ⟨now, .hand lifetime, queued,
      slack + place.lifetime.reencoded (unsettled ⟨now, place, queued, slack⟩)⟩
      (unsettled ⟨now, place, queued, slack⟩) :=
  ⟨valid.elapsed, reduced, rfl, by show queued - 0 = queued - _ + _; omega⟩

theorem fetch_settled {fetched : CbfPacket φ}
    (valid : Valid flushTimer ⟨now, .contending cbf entry packet, queued, slack⟩)
    (returned : (cbf.fetch flushTimer entry.id).1 = some fetched) :
    fetched.lifetime = packet.lifetime.reduced (now - entry.timer.start) := by
  obtain ⟨reached, rfl, holds⟩ := valid.buffered
  have consistent := Cbf.consistent_reachable flushTimer cbf reached
  obtain ⟨other, otherPacket, held, same, rfl⟩ := Cbf.fetch_returns returned
  have one : other = entry := List.inj_on_of_nodup_map consistent.timer_ids held.1 holds.1 same
  obtain ⟨_, rfl⟩ := holds.unique held consistent (congrArg TimerNode.info one)
  rw [one]
  exact otherPacket.reduceLifetime_lifetime _

theorem serve_settled {served : PendingPacket GeoBroadcastHeader φ}
    (valid : Valid flushTimer ⟨now, .contending cbf entry packet, queued, slack⟩)
    (returned : served ∈ (cbf.flush flushTimer).1)
    (same : served.pdu.extended.identifier = packet.identifier) :
    served.lifetime = packet.lifetime.reduced (now - entry.timer.start) := by
  obtain ⟨reached, rfl, holds⟩ := valid.buffered
  have consistent := Cbf.consistent_reachable flushTimer cbf reached
  obtain ⟨other, otherPacket, held, rfl⟩ := Cbf.flush_returns returned
  have equal : otherPacket.identifier = packet.identifier :=
    (CbfPacket.reduceLifetime_identifier otherPacket _).symm.trans same
  obtain ⟨rfl, rfl⟩ := holds.unique_identifier held consistent equal
  exact otherPacket.reduceLifetime_lifetime _

/-- A packet that stays in the contention buffer: time is settled when its timer is renewed. -/
theorem operate_settled {action : Cbf.Action φ κ ς} {after : Cbf φ κ ς} {entry' : TimerNode}
    {packet' : CbfPacket φ}
    (valid : Valid flushTimer ⟨now, .contending cbf entry packet, queued, slack⟩)
    (taken : cbf.step flushTimer action = some after) (same : entry'.info = entry.info)
    (holds : after.buffer.Contains entry' packet') :
    Valid flushTimer ⟨after.runtime.now, .contending after entry' packet',
        queued + (after.runtime.now - now),
        slack + packet.lifetime.reencoded (entry'.timer.start - entry.timer.start)⟩ ∧
      ∃ d, Settles ⟨now, .contending cbf entry packet, queued, slack⟩
        ⟨after.runtime.now, .contending after entry' packet',
          queued + (after.runtime.now - now),
          slack + packet.lifetime.reencoded (entry'.timer.start - entry.timer.start)⟩ d := by
  have elapsed : 0 ≤ now - entry.timer.start := valid.elapsed
  obtain ⟨reached, here, held⟩ := valid.buffered
  dsimp only at here
  have consistent := Cbf.consistent_reachable flushTimer cbf reached
  have stepped := GuardedReach.next reached trivial taken
  have later := Cbf.step_now_le taken
  have ages := (Cbf.step_inherits consistent taken).ages consistent held holds same
  cases ages with
  | kept =>
    refine ⟨⟨?_, stepped, rfl, holds⟩, 0, .none rfl ?_ ?_⟩
    · show 0 ≤ after.runtime.now - entry.timer.start
      omega
    · show slack + _ = slack
      rw [sub_self, reencoded_zero, add_zero]
    · unfold unsettled
      dsimp only
      omega
  | renewed timeout =>
    refine ⟨⟨?_, stepped, rfl, holds⟩, now - entry.timer.start, elapsed, ?_, ?_, ?_⟩
    · show 0 ≤ after.runtime.now - cbf.runtime.now
      omega
    · rw [← here]
      exact packet.reduceLifetime_lifetime _
    · rw [← here]
      rfl
    · unfold unsettled Timer.starting
      dsimp only
      omega

end Cases

/-- **One step.** -/
theorem step_settled {before after : Journey φ κ ς} (valid : Valid flushTimer before)
    (taken : Step flushTimer before after) :
    Valid flushTimer after ∧ ∃ d, Settles before after d := by
  cases taken with
  | rest d later => exact ⟨⟨le_rfl, trivial⟩, 0, .none rfl rfl rfl⟩
  | push buffer data pushed =>
    have zero := fun now : ℤ => sub_self now
    refine ⟨⟨(zero _).ge, trivial⟩, 0, .none rfl rfl ?_⟩
    exact congrArg _ (zero _)
  | wait d later =>
    have elapsed := valid.elapsed
    refine ⟨⟨?_, trivial⟩, 0, .none rfl rfl ?_⟩
    · unfold unsettled at elapsed ⊢
      dsimp only at elapsed ⊢
      omega
    · unfold unsettled
      dsimp only
      omega
  | pushOther other kept => exact ⟨⟨valid.elapsed, trivial⟩, 0, .none rfl rfl rfl⟩
  | flush first rest place flushed processed =>
    refine ⟨⟨le_rfl, trivial⟩, _, .elapsed valid ?_⟩
    rw [flushed_of_nodes place processed]
    exact reduceLifetime_bufferData _ _
  | add cbf after entry packet timeout node reached added holds fresh =>
    have consistent := Cbf.consistent_reachable flushTimer cbf reached
    have stepped := GuardedReach.next reached trivial added
    simp only [Cbf.step] at added
    split_ifs at added
    cases added
    have zero : cbf.runtime.now - entry.timer.start = 0 := by
      rw [Cbf.add_starts consistent holds fresh, sub_self]
    refine ⟨⟨zero.ge, stepped, Cbf.add_now _ _ _ _ _, holds⟩, 0, .none rfl rfl ?_⟩
    exact congrArg _ zero
  | operate action after entry' packet' taken same holds =>
    exact operate_settled valid taken same holds
  | fetch fetched returned =>
    exact ⟨⟨le_rfl, trivial⟩, _, .elapsed valid (fetch_settled valid returned)⟩
  | serve served returned same =>
    exact ⟨⟨le_rfl, trivial⟩, _, .elapsed valid (serve_settled valid returned same)⟩

/-! ### Every journey -/

/-- The beginning of a journey. -/
def starting (now : ℤ) (lifetime : Lifetime) : Journey φ κ ς := ⟨now, .hand lifetime, 0, 0⟩

/-- **The account of a journey**: what is settled has been taken from the original lifetime. -/
def Accounts (original : ℤ) (journey : Journey φ κ ς) : Prop :=
  Lifetime.Within original (journey.queued - journey.unsettled) journey.slack journey.place.lifetime

omit [DecidableEq ς] in
theorem Settles.accounts {original d : ℤ} {before after : Journey φ κ ς}
    (settles : Settles before after d) (account : before.Accounts original) :
    after.Accounts original := by
  unfold Accounts
  rw [settles.queued, settles.slack, settles.lifetime]
  exact Lifetime.Within.reduced account settles.forward

omit [DecidableEq ς] in
theorem Settles.le {d : ℤ} {before after : Journey φ κ ς} (settles : Settles before after d) :
    after.place.lifetime.decode ≤ before.place.lifetime.decode := by
  rw [settles.lifetime]
  exact Lifetime.reduced_le _ _

/-- **Journeys.** -/
theorem journey_valid {original : ℤ} {before after : Journey φ κ ς}
    (valid : Valid flushTimer before) (account : before.Accounts original)
    (reached : Relation.ReflTransGen (Step flushTimer) before after) :
    Valid flushTimer after ∧ after.Accounts original ∧
      after.place.lifetime.decode ≤ before.place.lifetime.decode := by
  induction reached with
  | refl => exact ⟨valid, account, le_rfl⟩
  | tail _ taken ih =>
    obtain ⟨valid, account, le⟩ := ih
    obtain ⟨next, d, settles⟩ := step_settled flushTimer valid taken
    exact ⟨next, settles.accounts account, settles.le.trans le⟩

/-- **Queuing consumes lifetime**: a journey never lengthens the lifetime, and what remains of it is
nothing or at most the original lifetime less the queuing time, up to half the units of all the
encodings on the way. -/
theorem queuing_consumes_lifetime {now : ℤ} {lifetime : Lifetime} {journey later : Journey φ κ ς}
    (reached : Relation.ReflTransGen (Step flushTimer) (starting now lifetime) journey)
    (further : Relation.ReflTransGen (Step flushTimer) journey later) :
    later.place.lifetime.decode ≤ journey.place.lifetime.decode ∧
      (later.remaining ≤ 0 ∨
        2 * later.remaining ≤ 2 * (lifetime.decode - later.queued) + later.slack) := by
  have begins : (starting now lifetime : Journey φ κ ς).Accounts lifetime.decode := by
    refine .inr ?_
    show 2 * lifetime.decode ≤ 2 * (lifetime.decode - (0 - 0)) + 0
    omega
  have valid : Valid flushTimer (starting now lifetime : Journey φ κ ς) := ⟨le_rfl, trivial⟩
  obtain ⟨valid, account, _⟩ := journey_valid flushTimer valid begins reached
  obtain ⟨valid, account, le⟩ := journey_valid flushTimer valid account further
  refine ⟨le, ?_⟩
  have elapsed := valid.elapsed
  unfold remaining
  obtain spent | bound := account
  · rw [spent]
    exact .inl (by omega)
  · exact .inr (by linarith)

end Journey

section Rounding

/-- A broadcast without any payload. -/
def broadcastFor (lifetime : Lifetime) : BufferData :=
  .gbc
    { pdu :=
        { basic := ⟨1, .common, 0, lifetime, 10⟩
          common := ⟨.btpB, 0, .geoBroadcastCircle, ⟨0⟩, 0, 0, 10, 0⟩
          extended := ⟨0, 0, .zero, 0, 0, 100, 0, 0, 0⟩
          secured := none }
      payload := .empty
      action := .greedy .noop }

/-- The longest lifetime of a packet by default: ten minutes. -/
def tenMinutes : Lifetime := .set .tenSeconds 60

/-- Its journey begins. -/
def departure : Journey Unit Unit Unit := .starting 0 tenMinutes

/-- Four seconds in a buffer later. -/
def fourSecondsLater : Journey Unit Unit Unit := ⟨4000000, .hand tenMinutes, 4000000, 10000000⟩

/-- The broadcast leaves the buffer with the lifetime with which it came. -/
theorem waits_once :
    Relation.ReflTransGen (Journey.Step ⟨(), ()⟩) departure fourSecondsLater := by
  have pushed : Journey.Step ⟨(), ()⟩ departure _ :=
    .push (.empty 1000) (broadcastFor tenMinutes) rfl
  have waited := (Relation.ReflTransGen.single pushed).tail (.wait 4000000 (by decide))
  have left := waited.tail (.flush [] [] rfl _ rfl)
  exact left

/-- So it does from the next buffer. -/
theorem waits_again : Relation.ReflTransGen (Journey.Step ⟨(), ()⟩) departure
    ⟨8000000, .hand tenMinutes, 8000000, 20000000⟩ := by
  have pushed := waits_once.tail (.push (.empty 1000) (broadcastFor tenMinutes) rfl)
  have waited := pushed.tail (.wait 4000000 (by decide))
  have left := waited.tail (.flush [] [] rfl _ rfl)
  exact left

/-- Half a ten-second unit makes up for the four seconds. -/
theorem queuing_consumes_ten_minutes :
    fourSecondsLater.place.lifetime.decode ≤ departure.place.lifetime.decode ∧
      (fourSecondsLater.remaining ≤ 0 ∨ 2 * fourSecondsLater.remaining ≤
        2 * (tenMinutes.decode - fourSecondsLater.queued) + fourSecondsLater.slack) :=
  Journey.queuing_consumes_lifetime ⟨(), ()⟩ .refl waits_once

/-- **The roundings accumulate**: after eight seconds, the lifetime is what it was. -/
theorem rounding_accumulates : ∃ journey : Journey Unit Unit Unit,
    Relation.ReflTransGen (Journey.Step ⟨(), ()⟩) departure journey ∧
      ¬ (journey.remaining ≤ 0 ∨
        2 * journey.remaining ≤ 2 * (departure.place.lifetime.decode - journey.queued) +
          journey.place.lifetime.base.unit) :=
  ⟨_, waits_again, by decide⟩

end Rounding

end Vanet.Geonet
