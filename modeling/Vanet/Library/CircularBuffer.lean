/-
**A circular buffer.**

It holds at most `capacity` items. Pushing to a full buffer drops the oldest item; a buffer without
any capacity stays empty.
-/

import Mathlib.Data.List.Induction

namespace Vanet.Library

variable {α : Type}

/-- **A circular buffer**, its oldest item first. -/
structure CircularBuffer (α : Type) where
  capacity : ℕ
  items : List α
  bounded : items.length ≤ capacity

namespace CircularBuffer

instance decidableEq [DecidableEq α] : DecidableEq (CircularBuffer α) := fun buffer other =>
  decidable_of_iff (buffer.capacity = other.capacity ∧ buffer.items = other.items) <| by
    obtain ⟨_, _, _⟩ := buffer
    obtain ⟨_, _, _⟩ := other
    simp

def empty (capacity : ℕ) : CircularBuffer α := ⟨capacity, [], Nat.zero_le capacity⟩

def full (buffer : CircularBuffer α) : Bool := buffer.items.length = buffer.capacity

theorem length_push_le (capacity : ℕ) (items : List α) (item : α) :
    ((items ++ [item]).drop (items.length + 1 - capacity)).length ≤ capacity := by
  rw [List.length_drop, List.length_append, List.length_singleton]
  omega

/-- The last `capacity` items stay. -/
def push (buffer : CircularBuffer α) (item : α) : CircularBuffer α :=
  { buffer with
    items := (buffer.items ++ [item]).drop (buffer.items.length + 1 - buffer.capacity)
    bounded := length_push_le buffer.capacity buffer.items item }

theorem length_pushFront_le (capacity : ℕ) (items : List α) (item : α) :
    ((item :: items).take capacity).length ≤ capacity := by
  rw [List.length_take]
  exact Nat.min_le_left _ _

/-- The new item is at the front, and the item at the back goes if there are too many. -/
def pushFront (buffer : CircularBuffer α) (item : α) : CircularBuffer α :=
  { buffer with
    items := (item :: buffer.items).take buffer.capacity
    bounded := length_pushFront_le buffer.capacity buffer.items item }

/-- **After pushes to the front of an empty buffer** it has the last ones, the latest first. -/
theorem items_foldl_pushFront (capacity : ℕ) (pushed : List α) :
    (pushed.foldl pushFront (empty capacity)).capacity = capacity ∧
      (pushed.foldl pushFront (empty capacity)).items = pushed.reverse.take capacity := by
  induction pushed using List.reverseRecOn with
  | nil => exact ⟨rfl, List.take_nil.symm⟩
  | append_singleton earlier last ih =>
    obtain ⟨same, items⟩ := ih
    rw [List.foldl_append, List.foldl_cons, List.foldl_nil]
    refine ⟨same, ?_⟩
    show (last :: (earlier.foldl pushFront (empty capacity)).items).take
      (earlier.foldl pushFront (empty capacity)).capacity = _
    rw [same, items, List.reverse_append, List.reverse_singleton, List.singleton_append]
    cases capacity with
    | zero => rfl
    | succ n =>
      rw [List.take_succ_cons, List.take_succ_cons, List.take_take, Nat.min_eq_left (Nat.le_succ n)]

def clear (buffer : CircularBuffer α) : CircularBuffer α := empty buffer.capacity

theorem length_resize_le (buffer : CircularBuffer α) (size : ℕ) (item : α) :
    (buffer.items ++ List.replicate (size - buffer.items.length) item).length ≤
      max buffer.capacity size := by
  have bounded := buffer.bounded
  rw [List.length_append, List.length_replicate]
  omega

/-- `resize`: the last items are removed, or copies of one item are appended. The capacity grows if it
has to, it never shrinks. -/
def resize (buffer : CircularBuffer α) (size : ℕ) (item : α) : CircularBuffer α :=
  if buffer.items.length < size then
    { capacity := max buffer.capacity size
      items := buffer.items ++ List.replicate (size - buffer.items.length) item
      bounded := length_resize_le buffer size item }
  else
    { buffer with
      items := buffer.items.take size
      bounded := Nat.le_trans (List.length_take_le' _ _) buffer.bounded }

end CircularBuffer

end Vanet.Library
