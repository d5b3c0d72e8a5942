/-
**What a push does to a forwarding buffer.**

`push` drops the expired packets, then heads until there is room, and only then finds out whether there is
enough of it.

* `dropHeads_crowded`: every head that is dropped had to go.
* `push_fits`: the youngest of the packets that have not expired are held afterwards, and the new one.
* `push_refused`: a packet that is longer than the capacity empties the buffer.
* `refusal_harmless_iff`: when a refused push is harmless.
-/

import Mathlib.Data.List.Basic
import Vanet.Geonet.RouterState

namespace Vanet.Geonet

namespace PacketBuffer

variable {δ : Type} [PacketData δ]

/-- The packets that have not expired. -/
def live (buffer : PacketBuffer δ) (now : ℤ) : List (Expiry × δ) :=
  buffer.nodes.filter fun node => !node.1.isExpired now

/-- **The stored bytes are those of the packets**, and no more than the buffer has room for. -/
structure Accounted (buffer : PacketBuffer δ) : Prop where
  stored : buffer.stored = bytes buffer.nodes
  within : bytes buffer.nodes ≤ buffer.capacity

/-- **The states of a buffer**: it is constructed, packets are pushed, and a flush swaps them out. -/
inductive Occurs : PacketBuffer δ → Prop
  | empty (capacity : ℕ) : Occurs (empty capacity)
  | push {buffer : PacketBuffer δ} (occurs : Occurs buffer) (data : δ) (now : ℤ) :
      Occurs (buffer.push data now).2
  | clear {buffer : PacketBuffer δ} (occurs : Occurs buffer) : Occurs buffer.clear

/-! ### Bytes -/

@[simp] theorem bytes_nil : bytes ([] : List (Expiry × δ)) = 0 := rfl

@[simp] theorem bytes_append (first rest : List (Expiry × δ)) :
    bytes (first ++ rest) = bytes first + bytes rest := by
  unfold bytes
  rw [List.map_append, List.sum_append]

@[simp] theorem bytes_cons (node : Expiry × δ) (rest : List (Expiry × δ)) :
    bytes (node :: rest) = PacketData.length node.2 + bytes rest := by
  unfold bytes
  rw [List.map_cons, List.sum_cons]

/-- Every packet has expired or has not. -/
theorem bytes_filter (nodes : List (Expiry × δ)) (now : ℤ) :
    bytes nodes = bytes (nodes.filter fun node => node.1.isExpired now) +
      bytes (nodes.filter fun node => !node.1.isExpired now) := by
  induction nodes with
  | nil => rfl
  | cons node rest ih =>
    by_cases expired : node.1.isExpired now = true <;> simp [expired, ih] <;> omega

/-! ### The drops -/

/-- A packet that is dropped from the head: its node, the packets behind it, and the bytes that are needed. -/
structure Eviction (δ : Type) where
  node : Expiry × δ
  behind : List (Expiry × δ)
  needed : ℕ

/-- The packets that are dropped one after the other. -/
def evictions (needed : ℕ) (behind : List (Expiry × δ)) : List (Expiry × δ) → List (Eviction δ)
  | [] => []
  | head :: rest => ⟨head, rest ++ behind, needed⟩ :: evictions needed behind rest

omit [PacketData δ] in
theorem evictions_nodes (needed : ℕ) (behind heads : List (Expiry × δ)) :
    (evictions needed behind heads).map Eviction.node = heads := by
  induction heads with
  | nil => rfl
  | cons head rest ih => exact congrArg (head :: ·) ih

section Drops

variable {capacity needed : ℕ}

/-- **The heads that are dropped**, and when the loop ends. -/
theorem dropHeads_spec (nodes : List (Expiry × δ)) : ∀ stored : ℤ,
    ∃ heads, nodes = heads ++ (dropHeads capacity needed nodes stored).1 ∧
      (dropHeads capacity needed nodes stored).2 = stored - bytes heads ∧
      ((dropHeads capacity needed nodes stored).1 = [] ∨
        needed ≤ capacity - (dropHeads capacity needed nodes stored).2) := by
  induction nodes with
  | nil => exact fun stored => ⟨[], rfl, (Int.sub_zero stored).symm, .inl rfl⟩
  | cons head rest ih =>
    intro stored
    unfold dropHeads
    split_ifs with crowded
    · obtain ⟨heads, split, counted, ends⟩ := ih (stored - PacketData.length head.2)
      refine ⟨head :: heads, congrArg (head :: ·) split, ?_, ends⟩
      rw [counted, bytes_cons]
      push_cast
      omega
    · exact ⟨[], rfl, (Int.sub_zero stored).symm, .inr (not_lt.mp crowded)⟩

/-- **Every head that is dropped had to go**: with it and the packets behind it, there was no room. -/
theorem dropHeads_crowded (nodes : List (Expiry × δ)) : ∀ {stored : ℤ} {heads : List (Expiry × δ)},
    stored = bytes nodes → nodes = heads ++ (dropHeads capacity needed nodes stored).1 →
      ∀ eviction ∈ evictions needed (dropHeads capacity needed nodes stored).1 heads,
        capacity < bytes (eviction.node :: eviction.behind) + eviction.needed := by
  induction nodes with
  | nil =>
    intro stored heads _ split eviction member
    rw [(List.append_eq_nil_iff.mp split.symm).1] at member
    cases member
  | cons head rest ih =>
    intro stored heads counted split eviction member
    rw [bytes_cons] at counted
    unfold dropHeads at split member
    by_cases crowded : capacity - stored < needed
    · rw [if_pos crowded] at split member
      have behind : stored - PacketData.length head.2 = bytes rest := by omega
      cases heads with
      | nil => cases member
      | cons first others =>
        obtain ⟨rfl, rests⟩ := List.cons.inj split
        rcases List.mem_cons.mp member with rfl | later
        · have after : others ++ (dropHeads capacity needed rest (stored - PacketData.length head.2)).1 = rest :=
            rests.symm
          dsimp only
          rw [after, bytes_cons]
          omega
        · exact ih behind rests eviction later
    · rw [if_neg crowded] at split member
      change head :: rest = heads ++ (head :: rest) at split
      have none : heads = [] := by
        have length := congrArg List.length split
        rw [List.length_append] at length
        exact List.length_eq_zero_iff.mp (by omega)
      rw [none] at member
      cases member

end Drops

section Push

variable {buffer : PacketBuffer δ}

theorem Accounted.dropExpired (accounted : buffer.Accounted) (now : ℤ) :
    (buffer.dropExpired now).stored = bytes (buffer.live now) := by
  have both := bytes_filter buffer.nodes now
  have stored := accounted.stored
  unfold PacketBuffer.dropExpired live
  dsimp only
  omega

/-- The packets and the bytes that the head drops of a push leave. -/
def afterDrops (buffer : PacketBuffer δ) (data : δ) (now : ℤ) : List (Expiry × δ) × ℤ :=
  dropHeads buffer.capacity (PacketData.length data) (buffer.live now) (buffer.dropExpired now).stored

/-- The live packets that a push spares. -/
def spared (buffer : PacketBuffer δ) (data : δ) (now : ℤ) : List (Expiry × δ) :=
  (buffer.afterDrops data now).1

/-- The live packets that it drops for lack of space. -/
def crowdedOut (buffer : PacketBuffer δ) (data : δ) (now : ℤ) : List (Expiry × δ) :=
  (buffer.live now).take ((buffer.live now).length - (buffer.spared data now).length)

/-- The node that a push appends. -/
def newNode (data : δ) (now : ℤ) : Expiry × δ :=
  (.starting now (PacketData.reduceLifetime data 0).1, data)

theorem push_eq (data : δ) (now : ℤ) : buffer.push data now =
    if buffer.capacity - (buffer.afterDrops data now).2 ≥ PacketData.length data then
      (true, ⟨buffer.spared data now ++ [newNode data now], buffer.capacity,
        (buffer.afterDrops data now).2 + PacketData.length data⟩)
    else (false, ⟨buffer.spared data now, buffer.capacity, (buffer.afterDrops data now).2⟩) :=
  rfl

/-- What a buffer holds after a push. -/
theorem push_nodes (data : δ) (now : ℤ) : (buffer.push data now).2.nodes =
    buffer.spared data now ++ if (buffer.push data now).1 then [newNode data now] else [] := by
  rw [push_eq]
  by_cases room : buffer.capacity - (buffer.afterDrops data now).2 ≥ PacketData.length data
  · rw [if_pos room, if_pos rfl]
  · rw [if_neg room, if_neg Bool.false_ne_true, List.append_nil]

theorem live_split (data : δ) (now : ℤ) :
    buffer.live now = buffer.crowdedOut data now ++ buffer.spared data now := by
  have suffix : buffer.spared data now <:+ buffer.live now := dropHeads_suffix _ _
  have rest := List.suffix_iff_eq_drop.mp suffix
  calc
    buffer.live now = buffer.crowdedOut data now ++
        (buffer.live now).drop ((buffer.live now).length - (buffer.spared data now).length) :=
      (List.take_append_drop _ _).symm
    _ = buffer.crowdedOut data now ++ buffer.spared data now := by rw [← rest]

/-- The bytes that are left are those of the packets that are spared. -/
theorem Accounted.afterDrops (accounted : buffer.Accounted) (data : δ) (now : ℤ) :
    (buffer.afterDrops data now).2 = bytes (buffer.spared data now) ∧
      (buffer.spared data now = [] ∨
        PacketData.length data ≤ buffer.capacity - (buffer.afterDrops data now).2) := by
  obtain ⟨heads, split, counted, ends⟩ := @dropHeads_spec δ _ buffer.capacity (PacketData.length data)
    (buffer.live now) (buffer.dropExpired now).stored
  have all := congrArg bytes split
  rw [bytes_append] at all
  rw [accounted.dropExpired now] at counted ends all
  unfold spared PacketBuffer.afterDrops
  rw [accounted.dropExpired now]
  exact ⟨by omega, ends⟩

/-- **There is room after the drops just if the packet is not longer than the capacity.** -/
theorem Accounted.room_iff (accounted : buffer.Accounted) (data : δ) (now : ℤ) :
    buffer.capacity - (buffer.afterDrops data now).2 ≥ PacketData.length data ↔
      PacketData.length data ≤ buffer.capacity := by
  obtain ⟨counted, ends⟩ := accounted.afterDrops data now
  refine ⟨fun room => by omega, fun fits => ?_⟩
  rcases ends with none | room
  · rw [counted, none, bytes_nil]
    omega
  · exact room

/-- **A packet that fits is pushed**, behind the packets that are spared. -/
theorem Accounted.push_fits (accounted : buffer.Accounted) {data : δ} (now : ℤ)
    (fits : PacketData.length data ≤ buffer.capacity) : buffer.push data now =
      (true, ⟨buffer.spared data now ++ [newNode data now], buffer.capacity,
        bytes (buffer.spared data now ++ [newNode data now])⟩) := by
  rw [push_eq, if_pos ((accounted.room_iff data now).mpr fits), (accounted.afterDrops data now).1,
    bytes_append, bytes_cons, bytes_nil]
  push_cast
  rfl

/-- **A packet that does not fit empties the buffer.** -/
theorem Accounted.push_refused (accounted : buffer.Accounted) {data : δ} (now : ℤ)
    (long : buffer.capacity < PacketData.length data) :
    buffer.push data now = (false, ⟨[], buffer.capacity, 0⟩) := by
  obtain ⟨counted, ends⟩ := accounted.afterDrops data now
  have none : buffer.spared data now = [] := by
    rcases ends with none | room
    · exact none
    · omega
  rw [push_eq, if_neg ((accounted.room_iff data now).not.mpr (not_le.mpr long)), counted, none]
  rfl

/-- A push accounts for the bytes, and keeps the capacity. -/
theorem Accounted.push (accounted : buffer.Accounted) (data : δ) (now : ℤ) :
    (buffer.push data now).2.Accounted ∧ (buffer.push data now).2.capacity = buffer.capacity := by
  rcases le_or_gt (PacketData.length data) buffer.capacity with fits | long
  · have room := (accounted.room_iff data now).mpr fits
    rw [(accounted.afterDrops data now).1] at room
    rw [accounted.push_fits now fits]
    refine ⟨⟨rfl, ?_⟩, rfl⟩
    change bytes (buffer.spared data now ++ [newNode data now]) ≤ buffer.capacity
    rw [bytes_append, bytes_cons, bytes_nil]
    change _ + (PacketData.length data + 0) ≤ _
    omega
  · rw [accounted.push_refused now long]
    exact ⟨⟨rfl, Nat.zero_le _⟩, rfl⟩

/-- **What a push crowds out had to go.** -/
theorem Accounted.crowdedOut_crowded (accounted : buffer.Accounted) (data : δ) (now : ℤ) :
    ∀ eviction ∈ evictions (PacketData.length data) (buffer.spared data now) (buffer.crowdedOut data now),
      buffer.capacity < bytes (eviction.node :: eviction.behind) + eviction.needed :=
  dropHeads_crowded (buffer.live now) (accounted.dropExpired now) (live_split data now)

end Push

/-! ### Refusals -/

theorem Accounted.empty (capacity : ℕ) : (empty capacity : PacketBuffer δ).Accounted :=
  ⟨rfl, Nat.zero_le _⟩

theorem Accounted.clear (buffer : PacketBuffer δ) : buffer.clear.Accounted :=
  ⟨rfl, Nat.zero_le _⟩

theorem Occurs.accounted {buffer : PacketBuffer δ} (occurs : Occurs buffer) : buffer.Accounted := by
  induction occurs with
  | empty capacity => exact .empty capacity
  | push _ data now ih => exact (ih.push data now).1
  | clear => exact .clear _

/-- **A refused push is harmless**: what has not expired is still held, in its order and accounted for,
and a packet that can never fit evicts nothing. -/
structure RefusalHarmless (buffer : PacketBuffer δ) (data : δ) (now : ℤ) : Prop where
  refused : (buffer.push data now).1 = false →
    (buffer.push data now).2.nodes = buffer.live now ∧
      (buffer.push data now).2.stored = bytes (buffer.push data now).2.nodes
  neverFits : buffer.capacity < PacketData.length data →
    (buffer.push data now).2.nodes = buffer.live now

/-- **When a refused push is harmless.** A push is refused just if the packet is longer than the capacity,
and then the loop has dropped every head before it ends. -/
theorem refusal_harmless_iff {buffer : PacketBuffer δ} (occurs : Occurs buffer) (data : δ) (now : ℤ) :
    RefusalHarmless buffer data now ↔
      PacketData.length data ≤ buffer.capacity ∨ buffer.live now = [] := by
  have accounted := occurs.accounted
  rcases le_or_gt (PacketData.length data) buffer.capacity with fits | long
  · refine ⟨fun _ => .inl fits, fun _ => ⟨fun refused => ?_, fun long => ?_⟩⟩
    · rw [accounted.push_fits now fits] at refused
      cases refused
    · exact absurd fits (not_le.mpr long)
  · have push := accounted.push_refused now long
    refine ⟨fun harmless => .inr ?_, fun condition => ?_⟩
    · rw [← harmless.neverFits long, push]
    · have none := condition.resolve_left (not_le.mpr long)
      exact ⟨fun _ => by rw [push, none]; exact ⟨rfl, rfl⟩, fun _ => by rw [push, none]⟩

/-! ### A packet that can never fit -/

def heldBroadcast : BufferData :=
  .shb
    { pdu :=
        { basic := ⟨1, .common, 0, .set .oneSecond 60, 1⟩
          common := ⟨.btpB, 0, .tsbSingleHop, ⟨0⟩, 0, 0, 1, 0⟩
          extended := ⟨.zero, .raw 0⟩
          secured := none }
      payload := .empty
      action := ⟨36, .unspecified⟩ }

def oversizedBroadcast : BufferData :=
  .gbc
    { pdu :=
        { basic := ⟨1, .common, 0, .set .oneSecond 60, 10⟩
          common := ⟨.btpB, 0, .geoBroadcastCircle, ⟨0⟩, 0, 0, 10, 0⟩
          extended := ⟨0, 0, .zero, 0, 0, 100, 0, 0, 0⟩
          secured := none }
      payload := .empty
      action := .greedy .noop }

/-- A buffer of fifty bytes that holds one packet. -/
def occupied : PacketBuffer BufferData := ((PacketBuffer.empty 50).push heldBroadcast 0).2

theorem occupied_occurs : Occurs occupied := (Occurs.empty 50).push heldBroadcast 0

/-- A buffer of sixty bytes that holds the same packet. -/
def nearlyFull : PacketBuffer BufferData := ((PacketBuffer.empty 60).push heldBroadcast 0).2

/-- A packet that fits only once the head is dropped is no threat. -/
theorem refusal_harmless_held : (nearlyFull.push oversizedBroadcast 0).1 = true ∧
    (nearlyFull.crowdedOut oversizedBroadcast 0).length = 1 ∧
      RefusalHarmless nearlyFull oversizedBroadcast 0 :=
  ⟨by decide, by decide, (refusal_harmless_iff ((Occurs.empty 60).push heldBroadcast 0)
    oversizedBroadcast 0).mpr (.inl (by decide))⟩

/-- **The packet that is held is lost** to one that is refused. -/
theorem refused_push_evicts : ¬ ∀ buffer : PacketBuffer BufferData, Occurs buffer →
    ∀ (data : BufferData) (now : ℤ), RefusalHarmless buffer data now := by
  intro harmless
  have refusal := (harmless occupied occupied_occurs oversizedBroadcast 0).neverFits (by decide)
  have lost := congrArg List.length refusal
  have one : (occupied.live 0).length = 1 := by decide
  have none : (occupied.push oversizedBroadcast 0).2.nodes.length = 0 := by decide
  omega

end PacketBuffer

end Vanet.Geonet
