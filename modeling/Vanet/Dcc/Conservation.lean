/-
**What becomes of a requested packet.**

The requests are numbered in their order. A `Numbering` gives what a flow control has sent, reported
and queued the numbers of the requests it comes from; it accounts for the requests if each has exactly
one place. Every operation keeps this, as long as no queue overflows: the packets at the front then
make room, and the report is about the packet that is being enqueued.
-/

import Mathlib.Data.List.Perm.Basic
import Vanet.Dcc.Gate

namespace Vanet.Dcc

open Vanet.Common Vanet.Library Vanet.Net

variable {τ : Type} {control : TransmitRateControl τ}

/-- **A request** with the instant at which it was made. -/
structure Requested where
  request : DataRequest
  packet : ChunkPacket
  now : ℤ

namespace Requested

def category (requested : Requested) : AccessCategory :=
  mapProfileOntoAc requested.request.dccProfile

def expiry (requested : Requested) : ℤ := requested.now + requested.request.lifetime

/-- What waits in a queue. -/
def pending (requested : Requested) : PendingTransmission :=
  ⟨requested.expiry, requested.request, requested.packet⟩

/-- What the access interface is asked for. -/
def access (requested : Requested) : AccessRequest :=
  ⟨requested.request.etherType, requested.request.source, requested.request.destination,
    requested.category⟩

/-- **The request's own packet** is handed over, not before the request and within its lifetime. -/
structure Transmitted (requested : Requested) (handover : Handover τ) : Prop where
  packet : handover.packet = requested.packet
  request : handover.request = requested.access
  alive : handover.now ≤ requested.expiry
  after : requested.now ≤ handover.now

end Requested

/-- **A flow control with the requests it has been given.** -/
structure Served (τ : Type) where
  flow : FlowControl τ
  requests : List Requested

/-- **Where the requests are**: their numbers beside what has been sent, reported and queued. -/
structure Numbering (τ : Type) where
  sent : List (ℕ × Handover τ)
  dropped : List (ℕ × AccessCategory × ChunkPacket)
  queued : AccessCategory → List (ℕ × PendingTransmission)

/-- All numbers, as often as they occur. -/
def Numbering.numbers (numbering : Numbering τ) : List ℕ :=
  numbering.sent.map Prod.fst ++ numbering.dropped.map Prod.fst ++
    accessCategories.flatMap fun ac => (numbering.queued ac).map Prod.fst

/-- The numbers of a category in the order in which they are or will be transmitted. -/
def Numbering.order (numbering : Numbering τ) (ac : AccessCategory) : List ℕ :=
  (numbering.sent.filter fun entry => entry.2.request.accessCategory = ac).map Prod.fst ++
    (numbering.queued ac).map Prod.fst

/-- **The numbering accounts for the requests**: it is one of what there is, every request has exactly
one place, and those of one category are transmitted in their order. -/
structure Numbering.Accounts (numbering : Numbering τ) (requests : List Requested)
    (flow : FlowControl τ) : Prop where
  sent : numbering.sent.map Prod.snd = flow.sent
  dropped : numbering.dropped.map Prod.snd = flow.dropped
  queued : ∀ ac, (numbering.queued ac).map Prod.snd = flow.queues ac
  once : numbering.numbers.Perm (List.range requests.length)
  transmits : ∀ entry ∈ numbering.sent, ∃ requested, requests[entry.1]? = some requested ∧
    requested.Transmitted entry.2
  reports : ∀ entry ∈ numbering.dropped, ∃ requested, requests[entry.1]? = some requested ∧
    entry.2 = (requested.category, requested.packet)
  waits : ∀ ac, ∀ entry ∈ numbering.queued ac, ∃ requested, requests[entry.1]? = some requested ∧
    requested.category = ac ∧ entry.2 = requested.pending ∧ requested.now ≤ flow.now
  ordered : ∀ ac, (numbering.order ac).Pairwise (· < ·)

namespace Served

def Initial (served : Served τ) : Prop := served.flow.Initial ∧ served.requests = []

/-- One event of the flow control, with a record of the request. -/
def step (control : TransmitRateControl τ) (served : Served τ) (action : FlowAction τ) :
    Option (Served τ) :=
  (served.flow.step control action).map fun flow =>
    { flow := flow
      requests :=
        match action with
        | .request request packet => served.requests ++ [⟨request, packet, served.flow.now⟩]
        | _ => served.requests }

/-- **The condition on an event**: the request's queue has not reached its length when the expired
packets are gone, and a packet whose lifetime is over already is not sent at once. -/
def Orderly (control : TransmitRateControl τ) (served : Served τ) : FlowAction τ → Prop
  | .request request packet =>
    (served.flow.queueLength > 0 → (served.flow.dropExpired.queues
        (mapProfileOntoAc request.dccProfile)).length < served.flow.queueLength) ∧
      ((served.flow.dropExpired.transmitImmediately control
        ⟨request.dccProfile, none, packet.size⟩).1 = true → 0 ≤ request.lifetime)
  | _ => True

end Served

/-! ### What operations do to the queues -/

namespace FlowControl

/-- The packets that are queued, sent and reported, and the time. -/
structure Stocked (flow after : FlowControl τ) : Prop where
  queues : after.queues = flow.queues
  sent : after.sent = flow.sent
  dropped : after.dropped = flow.dropped
  now : after.now = flow.now

variable {flow after : FlowControl τ}

theorem stocked_nextTransmission : Stocked flow (flow.nextTransmission control).2 :=
  ⟨rfl, rfl, rfl, rfl⟩

theorem stocked_armNext : Stocked flow (flow.armNext control) := by
  unfold armNext
  dsimp only
  cases (flow.nextTransmission control).1 with
  | none => exact stocked_nextTransmission
  | some pending => exact ⟨rfl, rfl, rfl, rfl⟩

theorem stocked_reschedule : Stocked flow (flow.reschedule control) := by
  unfold reschedule
  dsimp only
  cases (flow.nextTransmission control).1 with
  | none => exact stocked_nextTransmission
  | some pending => exact ⟨rfl, rfl, rfl, rfl⟩

/-- A packet is only sent at once when its queue is empty. -/
theorem transmitImmediately_spec (tx : Transmission) :
    Stocked flow (flow.transmitImmediately control tx).2 ∧
      ((flow.transmitImmediately control tx).1 = true →
        flow.queues (mapProfileOntoAc tx.profile) = []) := by
  unfold transmitImmediately
  by_cases contended : flow.contention (mapProfileOntoAc tx.profile) = true
  · rw [if_pos contended]
    exact ⟨⟨rfl, rfl, rfl, rfl⟩, nofun⟩
  · rw [if_neg contended]
    refine ⟨⟨rfl, rfl, rfl, rfl⟩, fun _ => ?_⟩
    by_contra waiting
    have same : (mapProfileOntoAc tx.profile).value ≤ (mapProfileOntoAc tx.profile).value := le_refl _
    exact contended (List.any_eq_true.mpr ⟨mapProfileOntoAc tx.profile, mem_accessCategories _,
      decide_eq_true ⟨same, waiting⟩⟩)

/-- A packet enters its queue, if that has room. -/
theorem enqueue_spec (request : DataRequest) (packet : ChunkPacket)
    (room : flow.queueLength > 0 →
      (flow.queues (mapProfileOntoAc request.dccProfile)).length < flow.queueLength) :
    (flow.enqueue control request packet).queues =
        Function.update flow.queues (mapProfileOntoAc request.dccProfile)
          (flow.queues (mapProfileOntoAc request.dccProfile) ++
            [⟨flow.now + request.lifetime, request, packet⟩]) ∧
      (flow.enqueue control request packet).sent = flow.sent ∧
      (flow.enqueue control request packet).dropped = flow.dropped ∧
      (flow.enqueue control request packet).now = flow.now := by
  have roomy : flow.makeRoom (mapProfileOntoAc request.dccProfile) packet = flow := by
    unfold makeRoom
    rw [if_neg]
    rintro ⟨limited, reached⟩
    exact absurd (room limited) (not_lt.mpr reached)
  unfold enqueue
  dsimp only
  rw [roomy]
  split_ifs
  · exact ⟨rfl, rfl, rfl, rfl⟩
  · exact ⟨rfl, rfl, rfl, rfl⟩

/-- A trigger sends the packet at the front of a queue, or leaves everything as it is. -/
theorem sendNext_spec (control : TransmitRateControl τ) (flow : FlowControl τ) :
    Stocked flow (flow.sendNext control) ∨
      ∃ ac front rest trc, flow.queues ac = front :: rest ∧
        (flow.sendNext control).queues = Function.update flow.queues ac rest ∧
        (flow.sendNext control).sent = flow.sent ++
          [⟨⟨front.request.etherType, front.request.source, front.request.destination,
            mapProfileOntoAc front.request.dccProfile⟩, front.packet, front.transmission, flow.now,
            trc⟩] ∧
        (flow.sendNext control).dropped = flow.dropped ∧
        (flow.sendNext control).now = flow.now := by
  obtain ⟨_, found⟩ := nextQueue_found control flow
  unfold sendNext dequeue
  dsimp only
  rcases found with ⟨none_found, _⟩ | ⟨ac, front, best, ahead, _, _, _⟩
  · simp only [none_found]
    exact .inl ⟨rfl, rfl, rfl, rfl⟩
  · obtain ⟨rest, queue⟩ : ∃ rest, flow.queues ac = front :: rest :=
      ⟨_, (List.cons_head?_tail ahead).symm⟩
    have tail : (flow.queues ac).tail = rest := by rw [queue]; rfl
    simp only [best]
    simp only [ahead]
    refine .inr ⟨ac, front, rest, (flow.nextQueue control).2.trc, queue, ?_, rfl, rfl, rfl⟩
    exact congrArg (Function.update flow.queues ac) tail

end FlowControl

/-! ### Numbers -/

namespace Numbering

variable {numbering : Numbering τ} {requests : List Requested} {flow after : FlowControl τ}

theorem count_numbers (numbering : Numbering τ) (i : ℕ) :
    numbering.numbers.count i = (numbering.sent.map Prod.fst).count i +
      (numbering.dropped.map Prod.fst).count i +
      (accessCategories.flatMap fun ac => (numbering.queued ac).map Prod.fst).count i := by
  unfold numbers
  rw [List.count_append, List.count_append]

/-- A queue is exchanged. -/
theorem count_update (queued : AccessCategory → List (ℕ × PendingTransmission)) (ac : AccessCategory)
    (queue : List (ℕ × PendingTransmission)) (i : ℕ) :
    (accessCategories.flatMap fun other =>
        (Function.update queued ac queue other).map Prod.fst).count i +
        ((queued ac).map Prod.fst).count i =
      (accessCategories.flatMap fun other => (queued other).map Prod.fst).count i +
        (queue.map Prod.fst).count i := by
  cases ac <;> simp only [accessCategories, List.flatMap_cons, List.flatMap_nil, List.count_append,
    Function.update_self, Function.update_of_ne, ne_eq, reduceCtorEq, not_false_eq_true] <;> omega

/-- One more packet of a category has been sent. -/
theorem order_sent (sent : List (ℕ × Handover τ)) (i : ℕ) (handover : Handover τ)
    (ac : AccessCategory) :
    ((sent ++ [(i, handover)]).filter fun entry => entry.2.request.accessCategory = ac).map Prod.fst =
      (sent.filter fun entry => entry.2.request.accessCategory = ac).map Prod.fst ++
        if handover.request.accessCategory = ac then [i] else [] := by
  rw [List.filter_append, List.map_append, List.filter_cons, List.filter_nil]
  split_ifs with own other other
  · rfl
  · exact absurd (of_decide_eq_true own) other
  · exact absurd (decide_eq_true other) own
  · rfl

/-- A recorded request stays recorded. -/
theorem recorded {i : ℕ} {requested : Requested} (found : requests[i]? = some requested)
    (more : List Requested) : (requests ++ more)[i]? = some requested := by
  obtain ⟨inside, _⟩ := List.getElem?_eq_some_iff.mp found
  rw [List.getElem?_append_left inside]
  exact found

namespace Accounts

/-- Every number is one of a request. -/
theorem below (accounts : numbering.Accounts requests flow) {i : ℕ} (member : i ∈ numbering.numbers) :
    i < requests.length :=
  List.mem_range.mp (accounts.once.mem_iff.mp member)

theorem below_order (accounts : numbering.Accounts requests flow) {ac : AccessCategory} {i : ℕ}
    (member : i ∈ numbering.order ac) : i < requests.length := by
  refine accounts.below ?_
  unfold numbers
  rcases List.mem_append.mp member with among | waiting
  · obtain ⟨entry, listed, rfl⟩ := List.mem_map.mp among
    refine List.mem_append_left _ (List.mem_append_left _ ?_)
    exact List.mem_map_of_mem (List.mem_filter.mp listed).1
  · exact List.mem_append_right _ (List.mem_flatMap.mpr ⟨ac, mem_accessCategories ac, waiting⟩)

/-- What leaves the stock alone. -/
theorem stocked (accounts : numbering.Accounts requests flow)
    (stocked : FlowControl.Stocked flow after) : numbering.Accounts requests after := by
  refine ⟨accounts.sent.trans stocked.sent.symm, accounts.dropped.trans stocked.dropped.symm, ?_,
    accounts.once, accounts.transmits, accounts.reports, ?_, accounts.ordered⟩
  · rw [stocked.queues]
    exact accounts.queued
  · rw [stocked.now]
    exact accounts.waits

/-- Time passes. -/
theorem later {now : ℤ} (accounts : numbering.Accounts requests flow) (passes : flow.now ≤ now) :
    numbering.Accounts requests { flow with runtime := { flow.runtime with now := now } } := by
  refine ⟨accounts.sent, accounts.dropped, accounts.queued, accounts.once, accounts.transmits,
    accounts.reports, ?_, accounts.ordered⟩
  intro ac entry member
  obtain ⟨requested, found, category, same, before⟩ := accounts.waits ac entry member
  exact ⟨requested, found, category, same, before.trans passes⟩

/-- **Expired packets** are reported. -/
theorem dropExpired (accounts : numbering.Accounts requests flow) :
    ∃ after : Numbering τ, after.Accounts requests flow.dropExpired := by
  refine ⟨{
    sent := numbering.sent
    dropped := numbering.dropped ++ accessCategories.flatMap fun ac =>
      ((numbering.queued ac).filter fun entry => FlowControl.expired flow.now entry.2).map
        fun entry => (entry.1, ac, entry.2.packet)
    queued := fun ac =>
      (numbering.queued ac).filter fun entry => !FlowControl.expired flow.now entry.2 },
    accounts.sent, ?_, ?_, ?_, accounts.transmits, ?_, ?_, ?_⟩
  · show (numbering.dropped ++ accessCategories.flatMap _).map Prod.snd = flow.dropped ++ _
    rw [List.map_append, accounts.dropped, List.map_flatMap]
    congr 2
    funext ac
    rw [← accounts.queued, List.filter_map, List.map_map, List.map_map]
    rfl
  · intro ac
    show List.map Prod.snd (List.filter _ _) = List.filter _ _
    rw [← accounts.queued, List.filter_map]
    rfl
  · refine List.Perm.trans ?_ accounts.once
    refine List.perm_iff_count.mpr fun i => ?_
    have parts : ∀ ac, ((numbering.queued ac).map Prod.fst).count i =
        (((numbering.queued ac).filter fun entry =>
          FlowControl.expired flow.now entry.2).map Prod.fst).count i +
        (((numbering.queued ac).filter fun entry =>
          !FlowControl.expired flow.now entry.2).map Prod.fst).count i := by
      intro ac
      rw [← List.count_append, ← List.map_append]
      exact ((List.filter_append_perm _ _).map Prod.fst).symm.count_eq i
    rw [count_numbers, count_numbers, List.map_append, List.count_append, List.map_flatMap]
    simp only [accessCategories, List.flatMap_cons, List.flatMap_nil, List.append_nil,
      List.count_append, List.map_map, parts]
    have reported : ∀ ac, (((numbering.queued ac).filter fun entry =>
        FlowControl.expired flow.now entry.2).map
          (Prod.fst ∘ fun entry => (entry.1, ac, entry.2.packet))).count i =
        (((numbering.queued ac).filter fun entry =>
          FlowControl.expired flow.now entry.2).map Prod.fst).count i :=
      fun _ => rfl
    simp only [reported]
    omega
  · intro entry member
    rcases List.mem_append.mp member with before | dropped
    · exact accounts.reports entry before
    · obtain ⟨ac, _, among⟩ := List.mem_flatMap.mp dropped
      obtain ⟨waiting, listed, rfl⟩ := List.mem_map.mp among
      obtain ⟨requested, found, category, same, _⟩ :=
        accounts.waits ac waiting (List.mem_filter.mp listed).1
      refine ⟨requested, found, ?_⟩
      dsimp only
      rw [same, category]
      rfl
  · intro ac entry member
    exact accounts.waits ac entry (List.mem_filter.mp member).1
  · intro ac
    refine (accounts.ordered ac).sublist ?_
    exact List.Sublist.append_left ((List.filter_sublist).map Prod.fst) _

/-- **A packet is sent at once.** None of its category is waiting. -/
theorem sendAtOnce (accounts : numbering.Accounts requests flow) {requested : Requested}
    {handover : Handover τ} (transmitted : requested.Transmitted handover)
    (empty : flow.queues requested.category = []) (queues : after.queues = flow.queues)
    (dropped : after.dropped = flow.dropped) (sent : after.sent = flow.sent ++ [handover])
    (now : after.now = flow.now) :
    ∃ next : Numbering τ, next.Accounts (requests ++ [requested]) after := by
  refine ⟨{ numbering with sent := numbering.sent ++ [(requests.length, handover)] },
    ?_, accounts.dropped.trans dropped.symm, ?_, ?_, ?_, ?_, ?_, ?_⟩
  · rw [List.map_append, accounts.sent, sent]
    rfl
  · rw [queues]
    exact accounts.queued
  · rw [List.length_append, List.length_singleton, List.range_succ]
    refine List.Perm.trans ?_ (accounts.once.append_right _)
    refine List.perm_iff_count.mpr fun i => ?_
    rw [List.count_append, count_numbers, count_numbers]
    dsimp only
    rw [List.map_append, List.count_append]
    show _ + List.count i [requests.length] + _ + _ = _
    omega
  · intro entry member
    rcases List.mem_append.mp member with before | last
    · obtain ⟨request, found, transmits⟩ := accounts.transmits entry before
      exact ⟨request, recorded found _, transmits⟩
    · rw [List.mem_singleton.mp last]
      exact ⟨requested, List.getElem?_concat_length, transmitted⟩
  · intro entry member
    obtain ⟨request, found, reports⟩ := accounts.reports entry member
    exact ⟨request, recorded found _, reports⟩
  · intro ac entry member
    obtain ⟨request, found, waits⟩ := accounts.waits ac entry member
    rw [now]
    exact ⟨request, recorded found _, waits⟩
  · intro ac
    have ordered := accounts.ordered ac
    unfold order at ordered ⊢
    dsimp only
    rw [order_sent]
    by_cases own : handover.request.accessCategory = ac
    · have waiting : numbering.queued ac = [] := by
        have category : requested.category = ac := by
          rw [← own, transmitted.request]
          rfl
        have none_waits := accounts.queued ac
        rw [← category, empty, category] at none_waits
        exact List.map_eq_nil_iff.mp none_waits
      rw [if_pos own, waiting, List.map_nil, List.append_nil]
      rw [waiting, List.map_nil, List.append_nil] at ordered
      refine List.pairwise_append.mpr ⟨ordered, List.pairwise_singleton _ _, ?_⟩
      intro i among last only
      rw [List.mem_singleton.mp only]
      have member : i ∈ numbering.order ac := List.mem_append_left _ among
      exact accounts.below_order member
    · rw [if_neg own, List.append_nil]
      exact ordered

/-- **A packet is queued** behind those of its category. -/
theorem enqueue (accounts : numbering.Accounts requests flow) {requested : Requested}
    (recent : requested.now = flow.now)
    (queues : after.queues = Function.update flow.queues requested.category
      (flow.queues requested.category ++ [requested.pending]))
    (dropped : after.dropped = flow.dropped) (sent : after.sent = flow.sent)
    (now : after.now = flow.now) :
    ∃ next : Numbering τ, next.Accounts (requests ++ [requested]) after := by
  refine ⟨{ numbering with
    queued := Function.update numbering.queued requested.category
      (numbering.queued requested.category ++ [(requests.length, requested.pending)]) },
    accounts.sent.trans sent.symm, accounts.dropped.trans dropped.symm, ?_, ?_, ?_, ?_, ?_, ?_⟩
  · intro ac
    dsimp only
    rw [queues]
    by_cases own : ac = requested.category
    · rw [own, Function.update_self, Function.update_self, List.map_append, accounts.queued]
      rfl
    · rw [Function.update_of_ne own, Function.update_of_ne own]
      exact accounts.queued ac
  · rw [List.length_append, List.length_singleton, List.range_succ]
    refine List.Perm.trans ?_ (accounts.once.append_right _)
    refine List.perm_iff_count.mpr fun i => ?_
    have exchanged := count_update numbering.queued requested.category
      (numbering.queued requested.category ++ [(requests.length, requested.pending)]) i
    rw [List.map_append, List.count_append] at exchanged
    have added : (List.map Prod.fst [(requests.length, requested.pending)]).count i =
        [requests.length].count i := rfl
    rw [List.count_append, count_numbers, count_numbers]
    dsimp only
    omega
  · intro entry member
    obtain ⟨request, found, transmits⟩ := accounts.transmits entry member
    exact ⟨request, recorded found _, transmits⟩
  · intro entry member
    obtain ⟨request, found, reports⟩ := accounts.reports entry member
    exact ⟨request, recorded found _, reports⟩
  · intro ac entry member
    rw [now]
    have old : entry ∈ numbering.queued ac → ∃ request,
        (requests ++ [requested])[entry.1]? = some request ∧ request.category = ac ∧
          entry.2 = request.pending ∧ request.now ≤ flow.now := by
      intro before
      obtain ⟨request, found, waits⟩ := accounts.waits ac entry before
      exact ⟨request, recorded found _, waits⟩
    by_cases own : ac = requested.category
    · subst own
      dsimp only at member
      rw [Function.update_self] at member
      rcases List.mem_append.mp member with before | last
      · exact old before
      · rw [List.mem_singleton.mp last]
        exact ⟨requested, List.getElem?_concat_length, rfl, rfl, le_of_eq recent⟩
    · dsimp only at member
      rw [Function.update_of_ne own] at member
      exact old member
  · intro ac
    have ordered := accounts.ordered ac
    have behind : ∀ i ∈ numbering.order ac, i < requests.length :=
      fun i among => accounts.below_order among
    unfold order at ordered behind ⊢
    dsimp only
    by_cases own : ac = requested.category
    · subst own
      rw [Function.update_self, List.map_append, ← List.append_assoc]
      refine List.pairwise_append.mpr ⟨ordered, List.pairwise_singleton _ _, ?_⟩
      intro i among last only
      rw [List.mem_singleton.mp only]
      exact behind i among
    · rw [Function.update_of_ne own]
      exact ordered

/-- **The packet at the front of a queue is sent** within its lifetime. -/
theorem sendFront (accounts : numbering.Accounts requests flow) {ac : AccessCategory}
    {front : PendingTransmission} {rest : List PendingTransmission} {trc : τ}
    (queue : flow.queues ac = front :: rest) (alive : flow.now ≤ front.expiry)
    (queues : after.queues = Function.update flow.queues ac rest)
    (sent : after.sent = flow.sent ++
      [⟨⟨front.request.etherType, front.request.source, front.request.destination,
        mapProfileOntoAc front.request.dccProfile⟩, front.packet, front.transmission, flow.now, trc⟩])
    (dropped : after.dropped = flow.dropped) (now : after.now = flow.now) :
    ∃ next : Numbering τ, next.Accounts requests after := by
  obtain ⟨⟨i, pending⟩, behind, numbered, rfl, tail⟩ :=
    List.map_eq_cons_iff.mp ((accounts.queued ac).trans queue)
  obtain ⟨requested, found, rfl, same, recent⟩ :=
    accounts.waits ac (i, pending) (by rw [numbered]; exact List.mem_cons_self)
  dsimp only at found same sent alive
  subst same
  refine ⟨{ numbering with
    sent := numbering.sent ++ [(i, ⟨requested.access, requested.packet,
      requested.pending.transmission, flow.now, trc⟩)]
    queued := Function.update numbering.queued requested.category behind },
    ?_, accounts.dropped.trans dropped.symm, ?_, ?_, ?_, accounts.reports, ?_, ?_⟩
  · rw [List.map_append, accounts.sent, sent]
    rfl
  · intro other
    dsimp only
    rw [queues]
    by_cases own : other = requested.category
    · rw [own, Function.update_self, Function.update_self]
      exact tail
    · rw [Function.update_of_ne own, Function.update_of_ne own]
      exact accounts.queued other
  · refine List.Perm.trans ?_ accounts.once
    refine List.perm_iff_count.mpr fun j => ?_
    have exchanged := count_update numbering.queued requested.category behind j
    have first : ((numbering.queued requested.category).map Prod.fst).count j =
        (behind.map Prod.fst).count j + [i].count j := by
      rw [numbered, List.map_cons, ← List.singleton_append, List.count_append, Nat.add_comm]
    have last : (List.map Prod.fst [(i, (⟨requested.access, requested.packet,
        requested.pending.transmission, flow.now, trc⟩ : Handover τ))]).count j = [i].count j := rfl
    rw [count_numbers, count_numbers]
    dsimp only
    rw [List.map_append, List.count_append]
    omega
  · intro entry member
    rcases List.mem_append.mp member with before | last
    · exact accounts.transmits entry before
    · rw [List.mem_singleton.mp last]
      exact ⟨requested, found, rfl, rfl, alive, recent⟩
  · intro other entry member
    rw [now]
    refine accounts.waits other entry ?_
    by_cases own : other = requested.category
    · subst own
      dsimp only at member
      rw [Function.update_self] at member
      rw [numbered]
      exact List.mem_cons_of_mem _ member
    · dsimp only at member
      rwa [Function.update_of_ne own] at member
  · intro other
    have ordered := accounts.ordered other
    unfold order at ordered ⊢
    dsimp only
    rw [order_sent]
    by_cases own : other = requested.category
    · subst own
      rw [numbered, List.map_cons] at ordered
      have category : requested.access.accessCategory = requested.category := rfl
      rw [Function.update_self, if_pos category, List.append_assoc]
      exact ordered
    · have category : requested.access.accessCategory ≠ other := fun same => own same.symm
      rw [Function.update_of_ne own, if_neg category, List.append_nil]
      exact ordered

end Accounts

end Numbering

/-! ### Runs -/

namespace Served

/-- The requests are accounted for. -/
def Accounted (served : Served τ) : Prop :=
  ∃ numbering : Numbering τ, numbering.Accounts served.requests served.flow

variable {served after : Served τ}

theorem accounted_initial (initial : served.Initial) : served.Accounted := by
  obtain ⟨⟨_, queues, _, sent, dropped⟩, unused⟩ := initial
  refine ⟨⟨[], [], fun _ => []⟩, sent.symm, dropped.symm, ?_, ?_, ?_, ?_, ?_, ?_⟩
  · intro ac
    rw [queues]
    rfl
  · rw [unused]
    exact List.Perm.refl []
  · exact fun _ impossible => absurd impossible List.not_mem_nil
  · exact fun _ impossible => absurd impossible List.not_mem_nil
  · exact fun _ _ impossible => absurd impossible List.not_mem_nil
  · exact fun _ => List.Pairwise.nil

/-- **A request** is sent at once, or it enters its queue. -/
theorem accounted_request {request : DataRequest} {packet : ChunkPacket}
    (accounted : served.Accounted) (orderly : served.Orderly control (.request request packet)) :
    Accounted ⟨served.flow.request control request packet,
      served.requests ++ [⟨request, packet, served.flow.now⟩]⟩ := by
  obtain ⟨numbering, accounts⟩ := accounted
  obtain ⟨numbering, accounts⟩ := accounts.dropExpired
  obtain ⟨room, lives⟩ := orderly
  obtain ⟨stocked, alone⟩ := @FlowControl.transmitImmediately_spec _ control
    served.flow.dropExpired ⟨request.dccProfile, none, packet.size⟩
  unfold Accounted FlowControl.request
  dsimp only
  split_ifs with sends
  · have alive : served.flow.now ≤ served.flow.now + request.lifetime := by
      have positive := lives sends
      omega
    have instant : (served.flow.dropExpired.transmitImmediately control
        ⟨request.dccProfile, none, packet.size⟩).2.now = served.flow.now := stocked.now
    refine (accounts.stocked stocked).sendAtOnce
      (⟨rfl, rfl, le_of_eq_of_le instant alive, le_of_eq instant.symm⟩ :
        Requested.Transmitted ⟨request, packet, served.flow.now⟩ _) ?_ rfl rfl rfl rfl
    rw [stocked.queues]
    exact alone sends
  · obtain ⟨queues, sent, dropped, now⟩ := @FlowControl.enqueue_spec _ control
      (served.flow.dropExpired.transmitImmediately control
        ⟨request.dccProfile, none, packet.size⟩).2 request packet (by
          unfold FlowControl.transmitImmediately
          split_ifs
          · exact room
          · exact room)
    rw [stocked.now] at queues
    have recent : (Requested.mk request packet served.flow.now).now = _ := stocked.now.symm
    exact (accounts.stocked stocked).enqueue recent queues dropped sent now

/-- **A trigger** sends a packet that has not expired. -/
theorem accounted_trigger {flow : FlowControl τ} {requests : List Requested}
    (accounted : Accounted ⟨flow, requests⟩) : Accounted ⟨flow.trigger control, requests⟩ := by
  obtain ⟨numbering, accounts⟩ := accounted
  obtain ⟨numbering, accounts⟩ := accounts.dropExpired
  have sends : Accounted ⟨flow.dropExpired.sendNext control, requests⟩ := by
    rcases FlowControl.sendNext_spec control flow.dropExpired with
      stocked | ⟨ac, front, rest, trc, queue, queues, sent, dropped, now⟩
    · exact ⟨numbering, accounts.stocked stocked⟩
    · have kept : front ∈ flow.dropExpired.queues ac := by
        rw [queue]
        exact List.mem_cons_self
      have alive : flow.now ≤ front.expiry := by
        have unexpired := (List.mem_filter.mp kept).2
        unfold FlowControl.expired at unexpired
        simpa using unexpired
      exact accounts.sendFront queue alive queues sent dropped now
  obtain ⟨next, accounts⟩ := sends
  exact ⟨next, accounts.stocked FlowControl.stocked_armNext⟩

theorem accounted_step {action : FlowAction τ} (accounted : served.Accounted)
    (orderly : served.Orderly control action) (taken : served.step control action = some after) :
    after.Accounted := by
  obtain ⟨flow, moved, rfl⟩ := Option.map_eq_some_iff.mp taken
  cases action with
  | request request packet =>
    cases moved
    exact accounted_request accounted orderly
  | trigger =>
    obtain ⟨⟨top, runtime⟩, popped, rfl⟩ := Option.map_eq_some_iff.mp moved
    obtain ⟨rest, _, _, rfl⟩ := ManualRuntime.popDue_some.mp popped
    obtain ⟨numbering, accounts⟩ := accounted
    have stocked : FlowControl.Stocked served.flow
        { served.flow with runtime := { served.flow.runtime with queue := rest } } :=
      ⟨rfl, rfl, rfl, rfl⟩
    exact accounted_trigger ⟨numbering, accounts.stocked stocked⟩
  | reschedule =>
    cases moved
    obtain ⟨numbering, accounts⟩ := accounted
    exact ⟨numbering, accounts.stocked FlowControl.stocked_reschedule⟩
  | queueLength length =>
    cases moved
    obtain ⟨numbering, accounts⟩ := accounted
    exact ⟨numbering, accounts.stocked ⟨rfl, rfl, rfl, rfl⟩⟩
  | advance now =>
    obtain ⟨passes, advanced⟩ := Option.ite_none_right_eq_some.mp moved
    cases advanced
    obtain ⟨numbering, accounts⟩ := accounted
    exact ⟨numbering, accounts.later passes⟩
  | control trc =>
    cases moved
    obtain ⟨numbering, accounts⟩ := accounted
    exact ⟨numbering, accounts.stocked ⟨rfl, rfl, rfl, rfl⟩⟩

/-- **Nothing is lost and nothing duplicated** in a run in which no queue overflows: every packet is
sent, reported or queued, once, in the order of its category and within its lifetime. -/
theorem requests_accounted (control : TransmitRateControl τ) (served : Served τ)
    (reached : GuardedReach Initial (step control) (Orderly control) served) :
    ∃ numbering : Numbering τ, numbering.Accounts served.requests served.flow :=
  reached.invariant (fun _ initial => accounted_initial initial)
    (fun _ _ _ _ accounted orderly taken => accounted_step accounted orderly taken) served

end Served

instance decidableOrderly (served : Served τ) : ∀ action, Decidable (served.Orderly control action)
  | .request _ _ => inferInstanceAs (Decidable (_ ∧ _))
  | .trigger | .reschedule | .queueLength _ | .advance _ | .control _ => instDecidableTrue

/-- A flow control that has not been used yet. -/
def unused : Served StateMachineBudget := ⟨relaxed, []⟩

theorem unused_initial : unused.Initial := ⟨relaxed_initial, rfl⟩

/-- A request of a packet with this much payload, which lives for a second. -/
def payloadRequest (size : ℕ) : FlowAction StateMachineBudget :=
  .request ⟨0x8947, ⟨List.replicate 6 2, rfl⟩, ⟨List.replicate 6 3, rfl⟩, .dp2, 1000000⟩
    ⟨fun layer => if layer = .application then List.replicate size 0 else []⟩

/-- One packet is sent at once, one waits for the trigger, and one expires. -/
theorem requests_accounted_unused :
    ∃ served : Served StateMachineBudget,
      (GuardedReach Served.Initial (Served.step singleReactive) (Served.Orderly singleReactive) served ∧
        served.flow.sent.length = 2 ∧ served.flow.dropped.length = 1) ∧
      ∃ numbering : Numbering StateMachineBudget, numbering.Accounts served.requests served.flow := by
  obtain ⟨served, reached, ended⟩ := run_reach Served.Initial (Served.step singleReactive)
    (Served.Orderly singleReactive)
    (fun served => served.flow.sent.length = 2 ∧ served.flow.dropped.length = 1) unused_initial
    [payloadRequest 0, payloadRequest 1, .advance 60000, .trigger, payloadRequest 2,
      .advance 2000000, .trigger] (by decide)
  exact ⟨served, ⟨reached, ended⟩, Served.requests_accounted singleReactive served reached⟩

/-- **A packet is lost** when its queue overflows: the hook is told about the packet that takes its
place. -/
theorem not_requests_accounted :
    ¬ ∀ served : Served StateMachineBudget,
      Reachable Served.Initial (Served.step singleReactive) served →
        ∃ numbering : Numbering StateMachineBudget,
          numbering.Accounts served.requests served.flow := by
  intro accounted
  obtain ⟨served, reached, requests, sent, dropped, queues⟩ := run_reach Served.Initial
    (Served.step singleReactive) (fun _ _ => True)
    (fun served => served.requests.map (fun requested => requested.packet.size) = [0, 1, 2] ∧
      (∀ handover ∈ served.flow.sent, handover.packet.size = 0) ∧
      (∀ report ∈ served.flow.dropped, report.2.size = 2) ∧
      ∀ ac ∈ accessCategories, ∀ pending ∈ served.flow.queues ac, pending.packet.size = 2)
    unused_initial
    [.queueLength 1, payloadRequest 0, payloadRequest 1, payloadRequest 2] (by decide)
  obtain ⟨numbering, accounts⟩ := accounted served reached
  have three : served.requests.length = 3 := by
    rw [← List.length_map (fun requested : Requested => requested.packet.size), requests]
    rfl
  have placed : 1 ∈ numbering.numbers := by
    rw [accounts.once.mem_iff, three]
    decide
  -- the second packet is nowhere
  have second : ∀ requested, served.requests[1]? = some requested → requested.packet.size = 1 := by
    intro requested found
    have listed : (served.requests.map fun requested => requested.packet.size)[1]? =
        some requested.packet.size := by
      rw [List.getElem?_map, found]
      rfl
    rw [requests] at listed
    exact (Option.some.inj listed).symm
  unfold Numbering.numbers at placed
  rcases List.mem_append.mp placed with gone | waiting
  · rcases List.mem_append.mp gone with transmitted | reported
    · obtain ⟨⟨i, handover⟩, member, rfl⟩ := List.mem_map.mp transmitted
      obtain ⟨requested, found, transmits⟩ := accounts.transmits _ member
      have size := sent handover (accounts.sent ▸ List.mem_map_of_mem member)
      rw [transmits.packet, second requested found] at size
      cases size
    · obtain ⟨⟨i, report⟩, member, rfl⟩ := List.mem_map.mp reported
      obtain ⟨requested, found, reports⟩ := accounts.reports _ member
      have size := dropped report (accounts.dropped ▸ List.mem_map_of_mem member)
      rw [show report = _ from reports, second requested found] at size
      cases size
  · obtain ⟨ac, _, among⟩ := List.mem_flatMap.mp waiting
    obtain ⟨⟨i, pending⟩, member, rfl⟩ := List.mem_map.mp among
    obtain ⟨requested, found, _, same, _⟩ := accounts.waits ac _ member
    have size := queues ac (mem_accessCategories ac) pending
      (accounts.queued ac ▸ List.mem_map_of_mem member)
    rw [show pending = _ from same] at size
    have own : requested.packet.size = 2 := size
    rw [second requested found] at own
    cases own

end Vanet.Dcc
