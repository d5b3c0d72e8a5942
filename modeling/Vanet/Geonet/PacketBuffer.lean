/-
**The forwarding packet buffers.**

A buffer holds data with a length and a lifetime, in the order in which they came. `flush` takes all
of them out before the first one is processed, so what is flushed may be pushed again; the data that
`flush` of the source processes are its result here.
-/

import Mathlib.Algebra.BigOperators.Group.List.Basic
import Mathlib.Algebra.Order.Ring.Int

namespace Vanet.Geonet

/-- `packet_buffer::Data`. -/
class PacketData (δ : Type) where
  length : δ → ℕ
  reduceLifetime : δ → ℤ → ℤ × δ

structure Expiry where
  bufferedSince : ℤ
  expiresAt : ℤ
  deriving DecidableEq

namespace Expiry

/-- The expiry of what is buffered now. -/
def starting (now lifetime : ℤ) : Expiry := ⟨now, now + lifetime⟩

def isExpired (expiry : Expiry) (now : ℤ) : Bool := expiry.expiresAt < now

end Expiry

/-- **The buffer**, its oldest data first. -/
structure PacketBuffer (δ : Type) where
  nodes : List (Expiry × δ)
  capacity : ℕ
  stored : ℤ

namespace PacketBuffer

variable {δ : Type} [PacketData δ]

def empty (capacity : ℕ) : PacketBuffer δ := ⟨[], capacity, 0⟩

def free (buffer : PacketBuffer δ) : ℤ := buffer.capacity - buffer.stored

/-- The bytes of some nodes. -/
def bytes (nodes : List (Expiry × δ)) : ℕ := (nodes.map fun node => PacketData.length node.2).sum

def dropExpired (buffer : PacketBuffer δ) (now : ℤ) : PacketBuffer δ :=
  { buffer with
    nodes := buffer.nodes.filter fun node => !node.1.isExpired now
    stored := buffer.stored - bytes (buffer.nodes.filter fun node => node.1.isExpired now) }

/-- `drop`: the heads go until there is room. -/
def dropHeads (capacity : ℕ) (needed : ℕ) : List (Expiry × δ) → ℤ → List (Expiry × δ) × ℤ
  | [], stored => ([], stored)
  | head :: rest, stored =>
    if capacity - stored < needed then
      dropHeads capacity needed rest (stored - PacketData.length head.2)
    else (head :: rest, stored)

/-- `push`: whether there was room for the data. -/
def push (buffer : PacketBuffer δ) (data : δ) (now : ℤ) : Bool × PacketBuffer δ :=
  let current := buffer.dropExpired now
  let kept := dropHeads current.capacity (PacketData.length data) current.nodes current.stored
  let room : PacketBuffer δ := { current with nodes := kept.1, stored := kept.2 }
  if room.free ≥ PacketData.length data then
    (true, { room with
      stored := room.stored + PacketData.length data
      nodes := room.nodes ++ [(.starting now (PacketData.reduceLifetime data 0).1, data)] })
  else (false, room)

/-- The data that are processed when the buffer is flushed. -/
def flushed (buffer : PacketBuffer δ) (now : ℤ) : List δ :=
  (buffer.nodes.filter fun node => !node.1.isExpired now).map fun node =>
    (PacketData.reduceLifetime node.2 (now - node.1.bufferedSince)).2

/-- `flush`, before the data are processed. -/
def clear (buffer : PacketBuffer δ) : PacketBuffer δ := { buffer with nodes := [], stored := 0 }

/-! ### What a buffer holds -/

section Members

variable {capacity needed : ℕ} {node : Expiry × δ} {data : δ} {now : ℤ}

theorem dropHeads_suffix (nodes : List (Expiry × δ)) : ∀ stored,
    (dropHeads capacity needed nodes stored).1 <:+ nodes := by
  induction nodes with
  | nil => exact fun _ => List.suffix_refl _
  | cons head rest ih =>
    intro stored
    unfold dropHeads
    split_ifs
    · exact (ih _).trans (List.suffix_cons head rest)
    · exact List.suffix_refl _

/-- **What is in the buffer after a push** has been in it or is the new data. -/
theorem mem_push {buffer : PacketBuffer δ} (member : node ∈ (buffer.push data now).2.nodes) :
    node ∈ buffer.nodes ∨ node.2 = data := by
  have kept : ∀ node ∈ (dropHeads buffer.capacity (PacketData.length data)
      (buffer.dropExpired now).nodes (buffer.dropExpired now).stored).1, node ∈ buffer.nodes :=
    fun node member => (List.mem_filter.mp ((dropHeads_suffix _ _).subset member)).1
  unfold push at member
  dsimp only at member
  split_ifs at member
  · rcases List.mem_append.mp member with old | new
    · exact .inl (kept node old)
    · exact .inr (by rw [List.mem_singleton.mp new])
  · exact .inl (kept node member)

/-- What is flushed has been in the buffer, with a longer lifetime. -/
theorem mem_flushed {buffer : PacketBuffer δ} (member : data ∈ buffer.flushed now) :
    ∃ node ∈ buffer.nodes, ∃ queuingTime, data = (PacketData.reduceLifetime node.2 queuingTime).2 := by
  obtain ⟨node, kept, rfl⟩ := List.mem_map.mp member
  exact ⟨node, (List.mem_filter.mp kept).1, _, rfl⟩

end Members

end PacketBuffer

end Vanet.Geonet
