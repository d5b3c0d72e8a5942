/-
**What the forwarding algorithms do to the contention buffer.**

A packet that is handed to one of the three algorithms that use the buffer is suppressed with the copy
that contends, renews that copy's timer, enters the buffer, or is ignored (`Handling`). A copy that
contends is suppressed by contention-based forwarding, whatever else holds.
-/

import Vanet.Geonet.CbfTimers
import Vanet.Geonet.Forwarding

namespace Vanet.Geonet

open Vanet.Common Vanet.Library
open Vanet.Net hiding ByteBuffer
open Act Router

namespace Cbf

variable {φ κ ς : Type} [DecidableEq ς] (self : FlushTimer κ ς) (cbf : Cbf φ κ ς)

/-- A packet is removed if it is found. -/
theorem remove_fst (id : PacketIdentifier) :
    (cbf.remove self id).1 = (cbf.buffer.find id).isSome := by
  rcases cbf.buffer.find_cases id with absent | ⟨entry, packet, finds⟩
  · rw [remove_of_none self absent, absent]
    rfl
  · rw [remove_of_finds self finds, finds.find]
    rfl

variable {self cbf} in
theorem remove_absent {id : PacketIdentifier} (absent : (cbf.buffer.find id).isSome = false) :
    (cbf.remove self id).2 = cbf := by
  have none : cbf.buffer.find id = none := Option.isNone_iff_eq_none.mp (Option.isSome_eq_false_iff.mp absent)
  rw [remove_of_none self none]

/-- **What happens to the buffer when a packet is handled**, which has an identifier and a length. -/
inductive Handling (id : PacketIdentifier) (bytes : ℕ) : Cbf φ κ ς → Prop
  | suppressed (contends : (cbf.buffer.find id).isSome = true) :
      Handling id bytes (cbf.remove self id).2
  | renewed (contends : (cbf.buffer.find id).isSome = true) (timeout : ℤ) :
      Handling id bytes (cbf.update id timeout)
  | entered (absent : (cbf.buffer.find id).isSome = false) (packet : CbfPacket φ)
      (same : packet.identifier = id) (long : packet.length = bytes) (timeout : ℤ) (node : ℕ)
      (unused : node ∉ (cbf.buffer.makeRoom packet).timers.map TimerNode.node) :
      Handling id bytes (cbf.add self packet timeout node)
  | ignored (absent : (cbf.buffer.find id).isSome = false) : Handling id bytes cbf

end Cbf

namespace Router

variable (platform : Platform) (env : Environment) (router : Router)
  (packet : PendingPacketForwarding)

@[simp] theorem withCbf_cbf (cbf : Cbf GbcAction RouterCallback RouterScope) :
    (router.withCbf cbf).cbf = cbf :=
  rfl

@[simp] theorem withCbf_self : router.withCbf router.cbf = router := rfl

theorem cbfRemove_contends (id : PacketIdentifier)
    (contends : (router.cbf.buffer.find id).isSome = true) :
    cbfRemove id router = (.ok true, router.withCbf (router.cbf.remove flushTimer id).2) := by
  have removed := (Cbf.remove_fst flushTimer router.cbf id).trans contends
  unfold cbfRemove Action.update
  dsimp only
  rw [removed]

theorem cbfRemove_absent (id : PacketIdentifier)
    (absent : (router.cbf.buffer.find id).isSome = false) :
    cbfRemove id router = (.ok false, router) := by
  have removed := (Cbf.remove_fst flushTimer router.cbf id).trans absent
  unfold cbfRemove Action.update
  dsimp only
  rw [removed, Cbf.remove_absent absent, withCbf_self]

/-- A timeout is computed without changing the router. -/
theorem timeoutCbfSender_eq (sender : MacAddress) :
    ∃ timeout, timeoutCbfSender platform sender router = (.ok timeout, router) :=
  ⟨_, rfl⟩

theorem outsideSectorial_eq (sender forwarder : MacAddress) :
    ∃ outside, outsideSectorialContentionArea platform sender forwarder router = (.ok outside, router) :=
  ⟨_, rfl⟩

/-- **A packet enters** the buffer, in a new node. -/
def Enters (timeout : ℤ) (after : Cbf GbcAction RouterCallback RouterScope) : Prop :=
  ∃ held node, held.identifier = packet.pdu.extended.identifier ∧ held.length = packet.length ∧
    node ∉ (router.cbf.buffer.makeRoom held).timers.map TimerNode.node ∧
      after = router.cbf.add flushTimer held timeout node

theorem cbfAdd_enters (sender : MacAddress) (timeout : ℤ) :
    ∃ after, cbfAdd env packet sender timeout router = (.ok (), router.withCbf after) ∧
      router.Enters packet timeout after :=
  ⟨_, rfl, cbfPacket packet sender, _, rfl, rfl, (env.allocate _).2, rfl⟩

/-- Greedy forwarding does not concern the contention buffer. -/
theorem greedyForwarding_cbf : ∃ hop, ∃ other : Router,
    greedyForwarding platform packet router = (.ok hop, other) ∧ other.cbf = router.cbf := by
  unfold greedyForwarding
  rw [Act.read_bind]
  cases (mostForward platform packet.pdu.extended.position _ _).1 with
  | some mfrAddr => exact ⟨_, router, rfl, rfl⟩
  | none =>
    dsimp only
    split_ifs
    · exact ⟨.buffered, _, rfl, rfl⟩
    · exact ⟨_, router, rfl, rfl⟩

/-! ### Contention-based forwarding -/

/-- **A copy of a contending packet** is discarded, and so is the packet that contends. -/
theorem area_suppresses (sender : MacAddress)
    (contends : (router.cbf.buffer.find packet.pdu.extended.identifier).isSome = true) :
    areaContentionBasedForwarding platform env packet (some sender) router =
      (.ok .discarded,
        router.withCbf (router.cbf.remove flushTimer packet.pdu.extended.identifier).2) := by
  unfold areaContentionBasedForwarding
  dsimp only
  rw [Action.bind_of_ok (cbfRemove_contends router _ contends), Act.read_bind,
    if_pos (.inl rfl)]
  rfl

theorem nonArea_suppresses (sender : MacAddress)
    (contends : (router.cbf.buffer.find packet.pdu.extended.identifier).isSome = true) :
    nonAreaContentionBasedForwarding platform env packet (some sender) router =
      (.ok .discarded,
        router.withCbf (router.cbf.remove flushTimer packet.pdu.extended.identifier).2) := by
  unfold nonAreaContentionBasedForwarding
  dsimp only
  rw [Action.bind_of_ok (cbfRemove_contends router _ contends), if_pos rfl]
  rfl

/-- **A packet that does not contend** enters the buffer as long as its counter is below the maximum. -/
theorem area_enters (sender : MacAddress)
    (absent : (router.cbf.buffer.find packet.pdu.extended.identifier).isSome = false) :
    (platform.mib.vanetzaCbfMaxCounter ≤ router.cbf.counter packet.pdu.extended.identifier →
      areaContentionBasedForwarding platform env packet (some sender) router =
        (.ok .discarded, router)) ∧
    (router.cbf.counter packet.pdu.extended.identifier < platform.mib.vanetzaCbfMaxCounter →
      ∃ timeout after, areaContentionBasedForwarding platform env packet (some sender) router =
        (.ok .buffered, router.withCbf after) ∧
          router.Enters packet timeout after) := by
  unfold areaContentionBasedForwarding
  dsimp only
  rw [Action.bind_of_ok (cbfRemove_absent router _ absent), Act.read_bind]
  constructor
  · intro exhausted
    rw [if_pos (.inr exhausted)]
    rfl
  · intro below
    obtain ⟨timeout, computed⟩ := timeoutCbfSender_eq platform router sender
    obtain ⟨after, added, enters⟩ := cbfAdd_enters env router packet sender timeout
    rw [if_neg (fun either => either.elim Bool.false_ne_true (Nat.not_le.mpr below)),
      Action.bind_of_ok computed, Action.bind_of_ok added]
    exact ⟨timeout, after, rfl, enters⟩

/-- Outside the area the counter is not asked for. -/
theorem nonArea_enters (sender : MacAddress)
    (absent : (router.cbf.buffer.find packet.pdu.extended.identifier).isSome = false) :
    (∃ fault, nonAreaContentionBasedForwarding platform env packet (some sender) router =
        (.error fault, router)) ∨
      nonAreaContentionBasedForwarding platform env packet (some sender) router =
        (.ok .discarded, router) ∨
      ∃ timeout after, nonAreaContentionBasedForwarding platform env packet (some sender) router =
        (.ok .buffered, router.withCbf after) ∧ router.Enters packet timeout after := by
  unfold nonAreaContentionBasedForwarding destinationArea
  dsimp only
  have adds : ∀ timeout, ∃ after,
      (cbfAdd env packet sender timeout >>= fun _ => pure .buffered : Act NextHop) router =
        (.ok .buffered, router.withCbf after) ∧ router.Enters packet timeout after := by
    intro timeout
    obtain ⟨after, added, enters⟩ := cbfAdd_enters env router packet sender timeout
    rw [Action.bind_of_ok added]
    exact ⟨after, rfl, enters⟩
  rw [Action.bind_of_ok (cbfRemove_absent router _ absent), if_neg Bool.false_ne_true]
  cases packet.pdu.extended.destination packet.pdu.common.headerType with
  | none => exact .inl ⟨_, rfl⟩
  | some area =>
    dsimp only
    rw [Action.bind_of_pure, Act.read_bind]
    unfold positionOf
    rw [Act.read_bind]
    cases Option.filter LongPositionVector.positionAccuracyIndicator
      (router.locationTable.getPosition router.now sender) with
    | none => exact .inr (.inr ⟨_, adds _⟩)
    | some position =>
      dsimp only
      split_ifs
      · exact .inr (.inr ⟨_, adds _⟩)
      · exact .inr (.inl rfl)

/-! ### Advanced forwarding -/

/-- **A copy of a contending packet** ends the contention or renews its timer; it ends if the counter
is at its maximum. -/
theorem advanced_contends (ll : LinkLayer)
    (contends : (router.cbf.buffer.find packet.pdu.extended.identifier).isSome = true) :
    areaAdvancedForwarding platform env packet (some ll) router =
        (.ok .discarded,
          router.withCbf (router.cbf.remove flushTimer packet.pdu.extended.identifier).2) ∨
      router.cbf.counter packet.pdu.extended.identifier < platform.mib.vanetzaCbfMaxCounter ∧
      ∃ timeout, areaAdvancedForwarding platform env packet (some ll) router =
        (.ok .buffered, router.withCbf (router.cbf.update packet.pdu.extended.identifier timeout)) := by
  obtain ⟨held, found⟩ := Option.isSome_iff_exists.mp contends
  have buffered : router.cbfBuffer.find packet.pdu.extended.identifier = some held := found
  have removes := cbfRemove_contends router _ contends
  unfold areaAdvancedForwarding
  dsimp only
  rw [Act.read_bind, buffered]
  dsimp only
  split_ifs with exhausted
  · rw [Action.bind_of_ok removes]
    exact .inl rfl
  · obtain ⟨outside, sectorial⟩ := outsideSectorial_eq platform router held.sender ll.sender
    rw [Action.bind_of_ok sectorial]
    split_ifs
    · rw [Action.bind_of_ok removes]
      exact .inl rfl
    · exact .inr ⟨Nat.not_le.mp exhausted, _, rfl⟩

/-- **A packet that does not contend** enters the buffer, whatever its counter is. -/
theorem advanced_enters (ll : LinkLayer)
    (absent : (router.cbf.buffer.find packet.pdu.extended.identifier).isSome = false) :
    ∃ hop, ∃ other : Router, ∃ timeout after,
      areaAdvancedForwarding platform env packet (some ll) router = (.ok hop, other.withCbf after) ∧
      router.Enters packet timeout after ∧
      (ll.destination ≠ router.localPositionVector.gnAddr.mid → hop = .buffered) := by
  have unbuffered : router.cbfBuffer.find packet.pdu.extended.identifier = none :=
    Option.not_isSome_iff_eq_none.mp (Bool.eq_false_iff.mp absent)
  unfold areaAdvancedForwarding
  dsimp only
  rw [Act.read_bind, unbuffered]
  dsimp only
  split_ifs with addressed
  · obtain ⟨hop, other, greedy, same⟩ :=
      greedyForwarding_cbf platform router packet.duplicate
    have differs : ll.destination ≠ router.localPositionVector.gnAddr.mid → hop = .buffered :=
      fun differs => absurd addressed differs
    have adds : ∀ sent : PendingPacketForwarding,
        sent.pdu.extended.identifier = packet.pdu.extended.identifier →
        sent.length = packet.length →
        ∃ after, (cbfAdd env sent ll.sender platform.mib.itsGnCbfMaxTime >>= fun _ => pure hop) other =
            (.ok hop, other.withCbf after) ∧
          router.Enters packet platform.mib.itsGnCbfMaxTime after := by
      intro sent identified long
      obtain ⟨after, added, enters⟩ :=
        cbfAdd_enters env other sent ll.sender platform.mib.itsGnCbfMaxTime
      unfold Enters at enters ⊢
      rw [same, identified, long] at enters
      exact ⟨after, Action.bind_of_ok added, enters⟩
    rw [Action.bind_of_ok greedy]
    obtain ⟨after, ran, enters⟩ := adds packet rfl rfl
    cases hop with
    | discarded => exact ⟨_, other, _, after, ran, enters, differs⟩
    | buffered => exact ⟨_, other, _, after, ran, enters, differs⟩
    | valid sent mac =>
      dsimp only
      split_ifs
      · obtain ⟨silent, ran, enters⟩ := adds (packet.withAction .noop) rfl rfl
        exact ⟨_, other, _, silent, ran, enters, differs⟩
      · exact ⟨_, other, _, after, ran, enters, differs⟩
  · obtain ⟨timeout, computed⟩ := timeoutCbfSender_eq platform router ll.sender
    obtain ⟨after, added, enters⟩ := cbfAdd_enters env router packet ll.sender timeout
    rw [Action.bind_of_ok computed, Action.bind_of_ok added]
    exact ⟨.buffered, router, timeout, after, rfl, enters, fun _ => rfl⟩

/-! ### Handling -/

variable {router packet} in
theorem Enters.handling {timeout : ℤ} {after : Cbf GbcAction RouterCallback RouterScope}
    (absent : (router.cbf.buffer.find packet.pdu.extended.identifier).isSome = false)
    (enters : router.Enters packet timeout after) :
    Cbf.Handling flushTimer router.cbf packet.pdu.extended.identifier packet.length after := by
  obtain ⟨held, node, same, long, unused, rfl⟩ := enters
  exact .entered absent held same long timeout node unused

theorem area_handling (sender : MacAddress) :
    Cbf.Handling flushTimer router.cbf packet.pdu.extended.identifier packet.length
      (areaContentionBasedForwarding platform env packet (some sender) router).2.cbf := by
  cases found : (router.cbf.buffer.find packet.pdu.extended.identifier).isSome with
  | true =>
    rw [area_suppresses platform env router packet sender found]
    exact .suppressed found
  | false =>
    obtain ⟨exhausted, below⟩ := area_enters platform env router packet sender found
    by_cases enough : router.cbf.counter packet.pdu.extended.identifier < platform.mib.vanetzaCbfMaxCounter
    · obtain ⟨timeout, after, ran, enters⟩ := below enough
      rw [ran]
      exact enters.handling found
    · rw [exhausted (Nat.not_lt.mp enough)]
      exact .ignored found

theorem nonArea_handling (sender : MacAddress) :
    Cbf.Handling flushTimer router.cbf packet.pdu.extended.identifier packet.length
      (nonAreaContentionBasedForwarding platform env packet (some sender) router).2.cbf := by
  cases found : (router.cbf.buffer.find packet.pdu.extended.identifier).isSome with
  | true =>
    rw [nonArea_suppresses platform env router packet sender found]
    exact .suppressed found
  | false =>
    rcases nonArea_enters platform env router packet sender found with
      ⟨fault, ran⟩ | ran | ⟨timeout, after, ran, enters⟩
    · rw [ran]
      exact .ignored found
    · rw [ran]
      exact .ignored found
    · rw [ran]
      exact enters.handling found

theorem advanced_handling (ll : LinkLayer) :
    Cbf.Handling flushTimer router.cbf packet.pdu.extended.identifier packet.length
      (areaAdvancedForwarding platform env packet (some ll) router).2.cbf := by
  cases found : (router.cbf.buffer.find packet.pdu.extended.identifier).isSome with
  | true =>
    rcases advanced_contends platform env router packet ll found with
      ended | ⟨_, timeout, renewed⟩
    · rw [ended]
      exact .suppressed found
    · rw [renewed]
      exact .renewed found timeout
  | false =>
    obtain ⟨hop, other, timeout, after, ran, enters, _⟩ :=
      advanced_enters platform env router packet ll found
    rw [ran]
    exact enters.handling found

end Router

end Vanet.Geonet
