/-
**Least recently used lists.**

The list has the most recently used item at its front; what is beyond the capacity has been evicted. It
is the front part of the list of all items by their last use (`touch_prefix`, `resize_prefix`).
-/

import Mathlib.Data.List.Nodup
import Mathlib.Order.Lattice

namespace Vanet.Library

variable {α : Type} [DecidableEq α]

/-- **A list of at most `capacity` items**, the most recently used one first. -/
structure Lru (α : Type) where
  capacity : ℕ
  items : List α
  deriving DecidableEq

/-- All items by their last use, after one more of them has been used. -/
def moveToFront (seen : List α) (item : α) : List α := item :: seen.erase item

/-- All items that have been used, the most recently used one first. -/
def byRecency (uses : List α) : List α := uses.foldl moveToFront []

theorem byRecency_concat (uses : List α) (item : α) :
    byRecency (uses ++ [item]) = moveToFront (byRecency uses) item :=
  List.foldl_concat _ _ _ _

namespace Lru

/-- An item is used. -/
def touch (lru : Lru α) (item : α) : Lru α :=
  { lru with items := (moveToFront lru.items item).take lru.capacity }

/-- A place for one more item: the least recently used item of a full list goes. -/
def makeRoom (lru : Lru α) : Lru α := { lru with items := lru.items.take (lru.capacity - 1) }

/-- The capacity changes, and the least recently used items go. -/
def resize (lru : Lru α) (capacity : ℕ) : Lru α := ⟨capacity, lru.items.take capacity⟩

/-- No item is listed twice, and there are not too many of them. -/
structure WellFormed (lru : Lru α) : Prop where
  distinct : lru.items.Nodup
  bounded : lru.items.length ≤ lru.capacity

variable {lru : Lru α} {item : α}

theorem WellFormed.touch (formed : lru.WellFormed) (item : α) : (lru.touch item).WellFormed where
  distinct := by
    have front : (moveToFront lru.items item).Nodup := by
      refine List.nodup_cons.mpr ⟨?_, formed.distinct.erase item⟩
      exact fun again => (formed.distinct.mem_erase_iff.mp again).1 rfl
    exact front.sublist (List.take_sublist _ _)
  bounded := by
    show ((moveToFront lru.items item).take lru.capacity).length ≤ lru.capacity
    rw [List.length_take]
    exact min_le_left _ _

omit [DecidableEq α] in
theorem WellFormed.resize (formed : lru.WellFormed) (capacity : ℕ) :
    (lru.resize capacity).WellFormed where
  distinct := formed.distinct.sublist (List.take_sublist _ _)
  bounded := by
    show (lru.items.take capacity).length ≤ capacity
    rw [List.length_take]
    exact min_le_left _ _

omit [DecidableEq α] in
theorem WellFormed.makeRoom (formed : lru.WellFormed) : lru.makeRoom.WellFormed where
  distinct := formed.distinct.sublist (List.take_sublist _ _)
  bounded := (List.length_take_le' _ _).trans formed.bounded

/-- A known item moves to the front, and nothing is evicted. -/
theorem touch_of_mem (formed : lru.WellFormed) (known : item ∈ lru.items) :
    (lru.touch item).items = item :: lru.items.erase item := by
  refine List.take_of_length_le ?_
  have shorter := List.length_erase_of_mem known
  have some := List.length_pos_of_mem known
  have bounded := formed.bounded
  show (item :: lru.items.erase item).length ≤ lru.capacity
  rw [List.length_cons]
  omega

/-- A new item evicts the last one of a full list. -/
theorem touch_of_not_mem (positive : 0 < lru.capacity) (unknown : item ∉ lru.items) :
    (lru.touch item).items = item :: lru.items.take (lru.capacity - 1) := by
  obtain ⟨less, capacity⟩ := Nat.exists_eq_succ_of_ne_zero positive.ne'
  show (item :: lru.items.erase item).take lru.capacity = _
  rw [List.erase_of_not_mem unknown, capacity, List.take_succ_cons]
  rfl

/-! ### Recency -/

/-- The list stays a front part of all items when one is used, ... -/
theorem touch_prefix {seen : List α} (front : lru.items <+: seen) (item : α) :
    (lru.touch item).items <+: moveToFront seen item := by
  obtain ⟨rest, rfl⟩ := front
  refine (List.take_prefix _ _).trans ?_
  by_cases known : item ∈ lru.items
  · refine ⟨rest, ?_⟩
    unfold moveToFront
    rw [List.erase_append_left _ known, List.cons_append]
  · refine ⟨rest.erase item, ?_⟩
    unfold moveToFront
    rw [List.erase_append_right _ known, List.erase_of_not_mem known, List.cons_append]

omit [DecidableEq α] in
/-- ... and when the capacity changes. -/
theorem resize_prefix {seen : List α} (front : lru.items <+: seen) (capacity : ℕ) :
    (lru.resize capacity).items <+: seen :=
  (List.take_prefix _ _).trans front

end Lru

end Vanet.Library
