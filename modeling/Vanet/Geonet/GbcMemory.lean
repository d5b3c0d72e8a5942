/-
**The memory of passed up packets is a least recently used list.**

`remember` erases at the front of a sequence and appends to its end, so the sequence is the reference list
backwards. Both are run with the same operations.
-/

import Mathlib.Data.List.Induction
import Vanet.Geonet.PacketLists
import Vanet.Library.Lru

namespace Vanet.Geonet

open Vanet.Library

namespace GbcMemory

def size (memory : GbcMemory) : ℕ := memory.identifiers.length

/-- A call of a modifying operation. -/
inductive Operation
  | remember (id : PacketIdentifier)
  | capacity (num : ℕ)

def apply (memory : GbcMemory) : Operation → GbcMemory
  | .remember id => (memory.remember id).2
  | .capacity num => memory.setCapacity num

/-- The memory after some operations. -/
def run (operations : List Operation) : GbcMemory := operations.foldl apply initial

/-! ### The reference -/

/-- A capacity of zero counts as one. -/
def applyReference (lru : Lru PacketIdentifier) : Operation → Lru PacketIdentifier
  | .remember id => lru.touch id
  | .capacity num => lru.resize (max num 1)

/-- **The reference list** after the operations. -/
def reference (operations : List Operation) : Lru PacketIdentifier :=
  operations.foldl applyReference ⟨1, []⟩

/-- The identifier that an operation remembers. -/
def Operation.identifier : Operation → Option PacketIdentifier
  | .remember id => some id
  | .capacity _ => none

/-- All identifiers in the order of the calls of `remember`. -/
def remembered (operations : List Operation) : List PacketIdentifier :=
  operations.filterMap Operation.identifier

/-- **The memory is the reference list backwards.** -/
structure Mirrors (memory : GbcMemory) (lru : Lru PacketIdentifier) : Prop where
  formed : lru.WellFormed
  positive : 0 < lru.capacity
  capacity : memory.capacity = lru.capacity
  backwards : memory.identifiers = lru.items.reverse

section Steps

variable {memory : GbcMemory} {lru : Lru PacketIdentifier} {id : PacketIdentifier}

theorem Mirrors.mem_iff (mirrors : Mirrors memory lru) : id ∈ memory.identifiers ↔ id ∈ lru.items := by
  rw [mirrors.backwards, List.mem_reverse]

/-- The identifier that has been found moves to the other end. -/
theorem Mirrors.remember_known (mirrors : Mirrors memory lru) (known : id ∈ lru.items) :
    Mirrors (memory.remember id).2 (lru.touch id) := by
  refine ⟨mirrors.formed.touch id, mirrors.positive, ?_, ?_⟩
  · unfold remember
    rw [if_pos (mirrors.mem_iff.mpr known)]
    exact mirrors.capacity
  · have nodup := mirrors.formed.distinct
    have erased : lru.items.reverse.erase id = (lru.items.erase id).reverse := by
      rw [nodup.erase_eq_filter, (List.nodup_reverse.mpr nodup).erase_eq_filter, List.filter_reverse]
    unfold remember
    rw [if_pos (mirrors.mem_iff.mpr known), Lru.touch_of_mem mirrors.formed known,
      List.reverse_cons, ← erased, ← mirrors.backwards]

/-- A new identifier takes the place of the oldest one if there is no other. -/
theorem Mirrors.remember_new (mirrors : Mirrors memory lru) (unknown : id ∉ lru.items) :
    Mirrors (memory.remember id).2 (lru.touch id) := by
  have absent : id ∉ memory.identifiers := fun member => unknown (mirrors.mem_iff.mp member)
  refine ⟨mirrors.formed.touch id, mirrors.positive, ?_, ?_⟩
  · unfold remember
    rw [if_neg absent]
    exact mirrors.capacity
  · have bounded := mirrors.formed.bounded
    have positive := mirrors.positive
    have kept : lru.items.take (lru.items.length - (lru.items.length + 1 - lru.capacity)) =
        lru.items.take (lru.capacity - 1) := by
      by_cases full : lru.items.length = lru.capacity
      · congr 1
        omega
      · rw [List.take_of_length_le (by omega), List.take_of_length_le (by omega)]
    unfold remember
    rw [if_neg absent, Lru.touch_of_not_mem positive unknown, List.reverse_cons]
    dsimp only
    rw [mirrors.backwards, mirrors.capacity, List.length_reverse, List.drop_reverse, kept]

theorem Mirrors.remember (mirrors : Mirrors memory lru) (id : PacketIdentifier) :
    Mirrors (memory.remember id).2 (lru.touch id) := by
  by_cases known : id ∈ lru.items
  · exact mirrors.remember_known known
  · exact mirrors.remember_new known

theorem Mirrors.setCapacity (mirrors : Mirrors memory lru) (num : ℕ) :
    Mirrors (memory.setCapacity num) (lru.resize (max num 1)) := by
  have least : (if num < 1 then 1 else num) = max num 1 := by
    split_ifs <;> omega
  refine ⟨mirrors.formed.resize _, ?_, least, ?_⟩
  · exact lt_of_lt_of_le Nat.one_pos (le_max_right num 1)
  · unfold GbcMemory.setCapacity Lru.resize
    dsimp only
    rw [least, mirrors.backwards, List.length_reverse, List.drop_reverse]
    congr 1
    by_cases excess : max num 1 ≤ lru.items.length
    · rw [Nat.sub_sub_self excess]
    · rw [List.take_of_length_le (by omega), List.take_of_length_le (by omega)]

/-- **One operation.** -/
theorem Mirrors.apply (mirrors : Mirrors memory lru) (operation : Operation) :
    Mirrors (memory.apply operation) (applyReference lru operation) := by
  cases operation with
  | remember id => exact mirrors.remember id
  | capacity num => exact mirrors.setCapacity num

end Steps

/-! ### Every run -/

theorem mirrors_run (operations : List Operation) : Mirrors (run operations) (reference operations) := by
  induction operations using List.reverseRecOn with
  | nil => exact ⟨⟨List.nodup_nil, Nat.zero_le 1⟩, Nat.one_pos, rfl, rfl⟩
  | append_singleton operations last ih =>
    unfold run reference
    rw [List.foldl_concat, List.foldl_concat]
    exact ih.apply last

/-- The reference list is the front part of what has been remembered, by recency. -/
theorem reference_prefix (operations : List Operation) :
    (reference operations).items <+: byRecency (remembered operations) := by
  induction operations using List.reverseRecOn with
  | nil => exact List.prefix_rfl
  | append_singleton operations last ih =>
    have front : reference (operations ++ [last]) = applyReference (reference operations) last :=
      List.foldl_concat _ _ _ _
    have uses : remembered (operations ++ [last]) =
        remembered operations ++ [last].filterMap Operation.identifier := List.filterMap_append
    rw [front, uses]
    cases last with
    | remember id =>
      show _ <+: byRecency (remembered operations ++ [id])
      rw [byRecency_concat]
      exact Lru.touch_prefix ih id
    | capacity num =>
      show _ <+: byRecency (remembered operations ++ [])
      rw [List.append_nil]
      exact Lru.resize_prefix ih _

/-- **What the memory answers**, as a least recently used list would. -/
structure Implements (memory : GbcMemory) (lru : Lru PacketIdentifier) (uses : List PacketIdentifier) :
    Prop where
  remember : ∀ id, (memory.remember id).1 = true ↔ id ∈ lru.items
  knows : ∀ id, memory.knows id = true ↔ id ∈ lru.items
  size : memory.size = lru.items.length
  bounded : memory.size ≤ lru.capacity
  distinct : lru.items.Nodup
  recent : lru.items <+: byRecency uses

/-- **GBC memory is an LRU set**, after every sequence of operations. -/
theorem gbc_memory_lru (operations : List Operation) :
    Implements (run operations) (reference operations) (remembered operations) := by
  have mirrors := mirrors_run operations
  have size : (run operations).size = (reference operations).items.length := by
    unfold GbcMemory.size
    rw [mirrors.backwards, List.length_reverse]
  refine ⟨fun id => ?_, fun id => ?_, size, size.trans_le mirrors.formed.bounded,
    mirrors.formed.distinct, reference_prefix operations⟩
  · rw [← mirrors.mem_iff]
    unfold GbcMemory.remember
    by_cases known : id ∈ (run operations).identifiers
    · rw [if_pos known]
      exact iff_of_true rfl known
    · rw [if_neg known]
      exact iff_of_false Bool.false_ne_true known
  · rw [← mirrors.mem_iff]
    exact decide_eq_true_iff

end GbcMemory

end Vanet.Geonet
