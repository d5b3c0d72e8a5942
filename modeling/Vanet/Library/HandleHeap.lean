/-
**A heap whose items are reached through handles.**

`push` answers a handle that no other item has. Writing to an item through its handle (`write`) may
break the order of the heap; `update` restores it for that item. An item of the smallest rank is at
the top. Which one it is among several, and how the others are arranged, is not specified.

* `HeapContract`: what is documented of the operations of such a heap, whatever its representation. Its users
  rely on nothing else.
* `HandleHeap`: one in which the nodes are a list in the order of their ranks.
* `HandleHeap.contract`: it meets the contract.
-/

import Mathlib.Data.List.Sort
import Mathlib.Data.Int.Order.Basic

namespace Vanet.Library

variable {α : Type}

structure HeapNode (α : Type) where
  handle : ℕ
  item : α
  deriving DecidableEq

/-- **The contract of a heap with handles.** `Holds` is a node being in a heap, `Valid` a heap whose handles
denote one node each, and `Ordered` one that is in order. -/
structure HeapContract {H : Type} (rank : α → ℤ) (Valid Ordered : H → Prop) (Holds : H → HeapNode α → Prop)
    (size : H → ℕ) (empty : H) (get : H → ℕ → Option α) (push : H → α → ℕ × H) (write : H → ℕ → α → H)
    (update : H → ℕ → H) (top : H → Option α) (pop : H → H) : Prop where
  valid_empty : Valid empty
  ordered_empty : Ordered empty
  holds_empty (node : HeapNode α) : ¬ Holds empty node
  get_iff {heap : H} {handle : ℕ} {item : α} : Valid heap →
    (get heap handle = some item ↔ Holds heap ⟨handle, item⟩)
  valid_push {heap : H} {item : α} : Valid heap → Valid (push heap item).2
  ordered_push {heap : H} {item : α} : Ordered heap → Ordered (push heap item).2
  holds_push {heap : H} {item : α} {node : HeapNode α} :
    Holds (push heap item).2 node ↔ node = ⟨(push heap item).1, item⟩ ∨ Holds heap node
  /-- an item is overwritten in its place -/
  valid_write {heap : H} {handle : ℕ} {item : α} : Valid heap → Valid (write heap handle item)
  holds_write {heap : H} {handle : ℕ} {item : α} {node : HeapNode α} :
    Holds (write heap handle item) node ↔ (Holds heap node ∧ node.handle ≠ handle) ∨
      (node = ⟨handle, item⟩ ∧ ∃ old, Holds heap old ∧ old.handle = handle)
  /-- an update moves a node, and restores the order after a write -/
  valid_update {heap : H} {handle : ℕ} : Valid heap → Valid (update heap handle)
  holds_update {heap : H} {handle : ℕ} {node : HeapNode α} : Valid heap →
    (Holds (update heap handle) node ↔ Holds heap node)
  ordered_rewrite {heap : H} {handle : ℕ} {item : α} : Ordered heap →
    Ordered (update (write heap handle item) handle)
  /-- a node at the top, if there is one, has the smallest rank, and it is the one that is popped -/
  top_none {heap : H} {node : HeapNode α} : top heap = none → ¬ Holds heap node
  top_some {heap : H} {item : α} : Valid heap → top heap = some item →
    ∃ handle, Holds heap ⟨handle, item⟩ ∧
      ∀ node, Holds (pop heap) node ↔ Holds heap node ∧ node.handle ≠ handle
  top_le {heap : H} {item : α} {node : HeapNode α} : Ordered heap → top heap = some item →
    Holds heap node → rank item ≤ rank node.item
  valid_pop {heap : H} : Valid heap → Valid (pop heap)
  ordered_pop {heap : H} : Ordered heap → Ordered (pop heap)
  size_pop {heap : H} {item : α} : top heap = some item → size (pop heap) < size heap
  size_zero {heap : H} {node : HeapNode α} : size heap = 0 → ¬ Holds heap node

/-- **A heap** as the list of its nodes, the top first, with the handle that is given next. -/
structure HandleHeap (α : Type) where
  nodes : List (HeapNode α)
  fresh : ℕ
  deriving DecidableEq

namespace HandleHeap

variable (rank : α → ℤ)

def empty : HandleHeap α := ⟨[], 0⟩

/-- The order of the nodes. -/
def Below (node other : HeapNode α) : Prop := rank node.item ≤ rank other.item

instance decidableBelow : DecidableRel (Below rank) := fun node other =>
  inferInstanceAs (Decidable (rank node.item ≤ rank other.item))

/-- The item that a handle denotes. -/
def get (heap : HandleHeap α) (handle : ℕ) : Option α :=
  (heap.nodes.find? fun node => node.handle = handle).map HeapNode.item

def push (heap : HandleHeap α) (item : α) : ℕ × HandleHeap α :=
  (heap.fresh, ⟨heap.nodes.orderedInsert (Below rank) ⟨heap.fresh, item⟩, heap.fresh + 1⟩)

/-- The item is overwritten where it is. -/
def write (heap : HandleHeap α) (handle : ℕ) (item : α) : HandleHeap α :=
  { heap with
    nodes := heap.nodes.map fun node => if node.handle = handle then ⟨handle, item⟩ else node }

/-- The node of the handle moves to the place of its rank. -/
def update (heap : HandleHeap α) (handle : ℕ) : HandleHeap α :=
  match heap.nodes.find? fun node => node.handle = handle with
  | none => heap
  | some node =>
    { heap with
      nodes := (heap.nodes.filter fun other => other.handle ≠ handle).orderedInsert (Below rank) node }

def top (heap : HandleHeap α) : Option α := heap.nodes.head?.map HeapNode.item

def pop (heap : HandleHeap α) : HandleHeap α := { heap with nodes := heap.nodes.tail }

/-! ### Handles -/

structure Valid (heap : HandleHeap α) : Prop where
  distinct : (heap.nodes.map HeapNode.handle).Nodup
  below : ∀ node ∈ heap.nodes, node.handle < heap.fresh

variable {rank} {heap : HandleHeap α} {handle : ℕ} {item : α} {node : HeapNode α}

theorem valid_empty : (empty : HandleHeap α).Valid := ⟨List.nodup_nil, by simp [empty]⟩

theorem Valid.unique (valid : heap.Valid) {other : HeapNode α} (member : node ∈ heap.nodes)
    (otherMember : other ∈ heap.nodes) (same : node.handle = other.handle) : node = other :=
  List.inj_on_of_nodup_map valid.distinct member otherMember same

theorem Valid.get_iff (valid : heap.Valid) :
    heap.get handle = some item ↔ (⟨handle, item⟩ : HeapNode α) ∈ heap.nodes := by
  unfold get
  rw [Option.map_eq_some_iff]
  constructor
  · rintro ⟨found, finds, rfl⟩
    obtain rfl : found.handle = handle := by simpa using List.find?_some finds
    exact List.mem_of_find?_eq_some finds
  · intro member
    refine ⟨⟨handle, item⟩, ?_, rfl⟩
    cases finds : heap.nodes.find? fun node => node.handle = handle with
    | none =>
      have missing := List.find?_eq_none.mp finds _ member
      simp at missing
    | some found =>
      have same : found.handle = handle := by simpa using List.find?_some finds
      exact congrArg some (valid.unique (List.mem_of_find?_eq_some finds) member same)

/-! ### The nodes after an operation -/

theorem mem_push :
    node ∈ (heap.push rank item).2.nodes ↔ node = ⟨heap.fresh, item⟩ ∨ node ∈ heap.nodes :=
  List.mem_orderedInsert _

theorem mem_write :
    node ∈ (heap.write handle item).nodes ↔
      (node ∈ heap.nodes ∧ node.handle ≠ handle) ∨
        (node = ⟨handle, item⟩ ∧ ∃ old ∈ heap.nodes, old.handle = handle) := by
  unfold write
  rw [List.mem_map]
  constructor
  · rintro ⟨old, member, rfl⟩
    by_cases same : old.handle = handle
    · rw [if_pos same]
      exact .inr ⟨rfl, old, member, same⟩
    · rw [if_neg same]
      exact .inl ⟨member, same⟩
  · rintro (⟨member, other⟩ | ⟨rfl, old, member, same⟩)
    · exact ⟨node, member, if_neg other⟩
    · exact ⟨old, member, if_pos same⟩

/-- A write keeps every handle. -/
theorem handles_write :
    (heap.write handle item).nodes.map HeapNode.handle = heap.nodes.map HeapNode.handle := by
  unfold write
  rw [List.map_map]
  refine List.map_congr_left fun node _ => ?_
  by_cases same : node.handle = handle <;> simp [same]

theorem Valid.write (valid : heap.Valid) : (heap.write handle item).Valid where
  distinct := by
    rw [handles_write]
    exact valid.distinct
  below := by
    intro node member
    have kept : node.handle ∈ heap.nodes.map HeapNode.handle :=
      handles_write ▸ List.mem_map_of_mem member
    obtain ⟨old, oldMember, same⟩ := List.mem_map.mp kept
    exact same ▸ valid.below old oldMember

/-- An update only moves a node. -/
theorem Valid.update_perm (valid : heap.Valid) :
    (heap.update rank handle).nodes.Perm heap.nodes := by
  unfold update
  cases finds : heap.nodes.find? fun node => node.handle = handle with
  | none => exact .refl _
  | some node =>
    have member := List.mem_of_find?_eq_some finds
    obtain rfl : node.handle = handle := by simpa using List.find?_some finds
    refine (List.perm_orderedInsert _ _ _).trans ?_
    have nodup : heap.nodes.Nodup := valid.distinct.of_map
    have absent : node ∉ heap.nodes.filter fun other => other.handle ≠ node.handle := by simp
    refine (List.perm_ext_iff_of_nodup (List.nodup_cons.mpr ⟨absent, nodup.filter _⟩) nodup).mpr ?_
    intro other
    rw [List.mem_cons, List.mem_filter, decide_eq_true_iff]
    constructor
    · rintro (rfl | ⟨kept, _⟩)
      · exact member
      · exact kept
    · intro kept
      by_cases same : other.handle = node.handle
      · exact .inl (valid.unique kept member same)
      · exact .inr ⟨kept, same⟩

theorem Valid.of_perm {other : HandleHeap α} (valid : heap.Valid)
    (perm : other.nodes.Perm heap.nodes) (fresh : heap.fresh ≤ other.fresh) : other.Valid where
  distinct := (perm.map HeapNode.handle).nodup_iff.mpr valid.distinct
  below node member := lt_of_lt_of_le (valid.below node (perm.mem_iff.mp member)) fresh

@[simp] theorem fresh_update : (heap.update rank handle).fresh = heap.fresh := by
  unfold update
  split <;> rfl

theorem Valid.update (valid : heap.Valid) : (heap.update rank handle).Valid :=
  valid.of_perm valid.update_perm (by rw [fresh_update])

theorem Valid.mem_update (valid : heap.Valid) :
    node ∈ (heap.update rank handle).nodes ↔ node ∈ heap.nodes :=
  valid.update_perm.mem_iff

theorem Valid.push (valid : heap.Valid) : (heap.push rank item).2.Valid where
  distinct := by
    have perm := (List.perm_orderedInsert (Below rank) ⟨heap.fresh, item⟩ heap.nodes).map
      HeapNode.handle
    refine perm.nodup_iff.mpr (List.nodup_cons.mpr ⟨?_, valid.distinct⟩)
    intro taken
    obtain ⟨old, member, same⟩ := List.mem_map.mp taken
    exact absurd same (valid.below old member).ne
  below := by
    intro node member
    rcases mem_push.mp member with rfl | old
    · exact Nat.lt_succ_self heap.fresh
    · exact Nat.lt_succ_of_lt (valid.below node old)

theorem Valid.pop (valid : heap.Valid) : heap.pop.Valid where
  distinct := by
    have tail : heap.pop.nodes.map HeapNode.handle = (heap.nodes.map HeapNode.handle).tail :=
      List.map_tail
    rw [tail]
    exact valid.distinct.tail
  below node member := valid.below node (List.mem_of_mem_tail member)

/-! ### The order -/

/-- **The heap is in order**: its top has the smallest rank. -/
def Ordered (rank : α → ℤ) (heap : HandleHeap α) : Prop := heap.nodes.Pairwise (Below rank)

instance below_total : Std.Total (Below rank) := ⟨fun _ _ => le_total _ _⟩

instance below_trans : IsTrans (HeapNode α) (Below rank) := ⟨fun _ _ _ => le_trans⟩

theorem Ordered.push (ordered : heap.Ordered rank) : (heap.push rank item).2.Ordered rank :=
  List.Pairwise.orderedInsert _ _ ordered

theorem Ordered.pop (ordered : heap.Ordered rank) : heap.pop.Ordered rank :=
  List.Pairwise.tail ordered

theorem others_write :
    ((heap.write handle item).nodes.filter fun other => other.handle ≠ handle) =
      heap.nodes.filter fun other => other.handle ≠ handle := by
  unfold write
  dsimp only
  induction heap.nodes with
  | nil => rfl
  | cons node rest ih =>
    rw [List.map_cons, List.filter_cons, List.filter_cons, ih]
    by_cases same : node.handle = handle <;> simp [same]

/-- **An update after a write restores the order**: all other nodes are as they were. -/
theorem Ordered.rewrite (ordered : heap.Ordered rank) :
    ((heap.write handle item).update rank handle).Ordered rank := by
  have sorted : ((heap.write handle item).nodes.filter fun other => other.handle ≠ handle).Pairwise
      (Below rank) := by
    rw [others_write]
    exact List.Pairwise.filter _ ordered
  unfold HandleHeap.update
  cases finds : (heap.write handle item).nodes.find? fun node => node.handle = handle with
  | none =>
    have missing := List.find?_eq_none.mp finds
    rw [List.filter_eq_self.mpr (by simpa using missing)] at sorted
    exact sorted
  | some node => exact List.Pairwise.orderedInsert _ _ sorted

/-- Nothing ranks below the top. -/
theorem Ordered.top_le (ordered : heap.Ordered rank) {top : α} (first : heap.top = some top) :
    ∀ node ∈ heap.nodes, rank top ≤ rank node.item := by
  obtain ⟨node, head, rfl⟩ := Option.map_eq_some_iff.mp first
  obtain ⟨rest, split⟩ := List.head?_eq_some_iff.mp head
  have least : (node :: rest).Pairwise (Below rank) := split ▸ ordered
  intro other member
  rw [split] at member
  rcases List.mem_cons.mp member with rfl | behind
  · exact le_refl _
  · exact (List.pairwise_cons.mp least).1 other behind

/-- The nodes without the one at the top. -/
theorem Valid.mem_pop (valid : heap.Valid) {top : α} (first : heap.top = some top) :
    ∃ handle, (⟨handle, top⟩ : HeapNode α) ∈ heap.nodes ∧
      ∀ node, node ∈ heap.pop.nodes ↔ node ∈ heap.nodes ∧ node.handle ≠ handle := by
  obtain ⟨head, found, rfl⟩ := Option.map_eq_some_iff.mp first
  obtain ⟨rest, split⟩ := List.head?_eq_some_iff.mp found
  have popped : heap.pop.nodes = rest := congrArg List.tail split
  have distinct := valid.distinct
  rw [split, List.map_cons, List.nodup_cons] at distinct
  refine ⟨head.handle, split ▸ List.mem_cons_self, fun node => ?_⟩
  rw [popped, split, List.mem_cons]
  constructor
  · exact fun behind => ⟨.inr behind, fun same => distinct.1 (same ▸ List.mem_map_of_mem behind)⟩
  · rintro ⟨rfl | behind, other⟩
    · exact absurd rfl other
    · exact behind

/-- The contract of these heaps, for items of some rank. -/
abbrev Contract (rank : α → ℤ) : Prop :=
  HeapContract rank Valid (Ordered rank) (fun heap node => node ∈ heap.nodes) (fun heap => heap.nodes.length)
    empty get (push rank) write (update rank) top pop

/-- **The contract is met.** -/
theorem contract (rank : α → ℤ) : Contract rank where
  valid_empty := valid_empty
  ordered_empty := .nil
  holds_empty _ := List.not_mem_nil
  get_iff valid := valid.get_iff
  valid_push valid := valid.push
  ordered_push ordered := ordered.push
  holds_push := mem_push
  valid_write valid := valid.write
  holds_write := mem_write
  valid_update valid := valid.update
  holds_update valid := valid.mem_update
  ordered_rewrite ordered := ordered.rewrite
  top_none := by
    intro heap node nothing
    rw [List.head?_eq_none_iff.mp (Option.map_eq_none_iff.mp nothing)]
    exact List.not_mem_nil
  top_some valid first := valid.mem_pop first
  top_le ordered first member := ordered.top_le first _ member
  valid_pop valid := valid.pop
  ordered_pop ordered := ordered.pop
  size_pop := by
    intro heap item first
    obtain ⟨head, found, _⟩ := Option.map_eq_some_iff.mp first
    obtain ⟨rest, split⟩ := List.head?_eq_some_iff.mp found
    show heap.nodes.tail.length < heap.nodes.length
    rw [split]
    exact Nat.lt_succ_self _
  size_zero := by
    intro heap node none_left
    rw [List.eq_nil_of_length_eq_zero none_left]
    exact List.not_mem_nil

end HandleHeap

namespace HeapContract

variable {H : Type} {rank : α → ℤ} {Valid Ordered : H → Prop} {Holds : H → HeapNode α → Prop} {size : H → ℕ}
  {empty : H} {get : H → ℕ → Option α} {push : H → α → ℕ × H} {write : H → ℕ → α → H} {update : H → ℕ → H}
  {top : H → Option α} {pop : H → H}
  (contract : HeapContract rank Valid Ordered Holds size empty get push write update top pop)
  {heap : H} {node other : HeapNode α} {handle : ℕ} {item old : α}

include contract

/-- **A handle denotes one node.** -/
theorem unique (valid : Valid heap) (member : Holds heap node) (otherMember : Holds heap other)
    (same : node.handle = other.handle) : node = other := by
  obtain ⟨handle, item⟩ := node
  obtain ⟨_, otherItem⟩ := other
  cases same
  have first := (contract.get_iff valid).mpr member
  rw [(contract.get_iff valid).mpr otherMember] at first
  cases first
  rfl

/-- **An item that is overwritten**, with the update after it: all other nodes are as they were. -/
theorem holds_rewrite (valid : Valid heap) (member : Holds heap ⟨handle, old⟩) :
    Holds (update (write heap handle item) handle) node ↔
      (Holds heap node ∧ node.handle ≠ handle) ∨ node = ⟨handle, item⟩ := by
  rw [contract.holds_update (contract.valid_write valid), contract.holds_write]
  exact or_congr_right (and_iff_left ⟨_, member, rfl⟩)

end HeapContract

end Vanet.Library
