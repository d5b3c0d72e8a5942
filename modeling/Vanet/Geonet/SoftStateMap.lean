/-
**`SoftStateMap`, a map with expiring entries.**

A hash map keeps the values, a heap the expiries; a value knows the handle of its heap element. An
entry whose expiry has passed is hidden from `getValuePtr` and `map`, but it stays in the map until
`dropExpired` runs, and `getValue` and `refresh` give it a new lifetime.

`view` is what the map stores for a key, with its expiry. `WellFormed` says that map entries and heap
elements are in bijection; each operation has one lemma about both.
-/

import Mathlib.Data.List.AList
import Vanet.Library.HandleHeap

namespace Vanet.Geonet

open Vanet.Library

structure ExpiryWithKey (κ : Type) where
  expiry : ℤ
  key : κ
  deriving DecidableEq

structure ValueWithHandle (ν : Type) where
  handle : ℕ
  value : ν
  deriving DecidableEq

/-- **The map.** The clock of the runtime is an argument of the operations. -/
structure SoftStateMap (κ ν : Type) where
  lifetime : ℤ
  heap : HandleHeap (ExpiryWithKey κ)
  map : AList fun _ : κ => ValueWithHandle ν

namespace SoftStateMap

variable {κ ν : Type} [DecidableEq κ] (create : ℤ → ν)

def empty (lifetime : ℤ) : SoftStateMap κ ν := ⟨lifetime, .empty, ∅⟩

def setLifetime (soft : SoftStateMap κ ν) (lifetime : ℤ) : SoftStateMap κ ν :=
  { soft with lifetime := lifetime }

def getDataPtr (soft : SoftStateMap κ ν) (key : κ) : Option (ValueWithHandle ν) :=
  soft.map.lookup key

/-- `is_expired(*handle)`. -/
def isExpired (soft : SoftStateMap κ ν) (now : ℤ) (handle : ℕ) : Bool :=
  (soft.heap.get handle).any fun expiry => now > expiry.expiry

/-- `refresh(handle)`: the expiry is overwritten, then the heap is told. -/
def refreshHandle (soft : SoftStateMap κ ν) (now : ℤ) (handle : ℕ) : SoftStateMap κ ν :=
  match soft.heap.get handle with
  | none => soft
  | some expiry =>
    { soft with
      heap := (soft.heap.write handle { expiry with expiry := now + soft.lifetime }).update
        ExpiryWithKey.expiry handle }

/-- An entry that has just been created. -/
def emplace (soft : SoftStateMap κ ν) (now : ℤ) (key : κ) (value : ν) :
    ValueWithHandle ν × SoftStateMap κ ν :=
  let pushed := soft.heap.push ExpiryWithKey.expiry ⟨now + soft.lifetime, key⟩
  let data := ⟨pushed.1, value⟩
  (data, { soft with heap := pushed.2, map := soft.map.insert key data })

def getData (soft : SoftStateMap κ ν) (now : ℤ) (key : κ) : ValueWithHandle ν × SoftStateMap κ ν :=
  match soft.getDataPtr key with
  | none => soft.emplace now key (create now)
  | some data =>
    -- an expired element is pretended to have just been created, but its value is the old one
    if soft.isExpired now data.handle then (data, soft.refreshHandle now data.handle) else (data, soft)

def getValue (soft : SoftStateMap κ ν) (now : ℤ) (key : κ) : ν × SoftStateMap κ ν :=
  let data := soft.getData create now key
  (data.1.value, data.2)

def getValuePtr (soft : SoftStateMap κ ν) (now : ℤ) (key : κ) : Option ν :=
  (soft.getDataPtr key).bind fun data =>
    if soft.isExpired now data.handle then none else some data.value

def hasValue (soft : SoftStateMap κ ν) (now : ℤ) (key : κ) : Bool := (soft.getValuePtr now key).isSome

def refresh (soft : SoftStateMap κ ν) (now : ℤ) (key : κ) : ν × SoftStateMap κ ν :=
  match soft.getDataPtr key with
  | some data => (data.value, soft.refreshHandle now data.handle)
  | none => soft.getValue create now key

/-- The caller of an operation writes to the value that it has been given a reference to. -/
def modify (soft : SoftStateMap κ ν) (key : κ) (change : ν → ν) : SoftStateMap κ ν :=
  match soft.getDataPtr key with
  | none => soft
  | some data =>
    { soft with map := soft.map.insert key { data with value := change data.value } }

/-- The loop of `drop_expired`, which takes an element off the heap in each round. -/
def dropExpiredFrom (now : ℤ) : ℕ → SoftStateMap κ ν → SoftStateMap κ ν
  | 0, soft => soft
  | rounds + 1, soft =>
    match soft.heap.top with
    | none => soft
    | some top =>
      if now > top.expiry then
        dropExpiredFrom now rounds { soft with map := soft.map.erase top.key, heap := soft.heap.pop }
      else soft

def dropExpired (soft : SoftStateMap κ ν) (now : ℤ) : SoftStateMap κ ν :=
  dropExpiredFrom now soft.heap.nodes.length soft

/-- `map()`: the entries that have not expired, in an order that is not specified. -/
def entries (soft : SoftStateMap κ ν) (now : ℤ) : List (κ × ν) :=
  (soft.map.entries.filter fun entry => !soft.isExpired now entry.2.handle).map fun entry =>
    (entry.1, entry.2.value)

/-! ### What is stored -/

omit [DecidableEq κ] in
/-- All that is known of the heap. -/
theorem heap_contract : HandleHeap.Contract (ExpiryWithKey.expiry : ExpiryWithKey κ → ℤ) :=
  HandleHeap.contract ExpiryWithKey.expiry

/-- **Map entries and heap elements are in bijection**, and the heap is in order. -/
structure WellFormed (soft : SoftStateMap κ ν) : Prop where
  valid : soft.heap.Valid
  ordered : soft.heap.Ordered ExpiryWithKey.expiry
  denotes : ∀ key data, soft.getDataPtr key = some data →
    ∃ expiry, (⟨data.handle, ⟨expiry, key⟩⟩ : HeapNode _) ∈ soft.heap.nodes
  stored : ∀ node ∈ soft.heap.nodes, ∃ value, soft.getDataPtr node.item.key = some ⟨node.handle, value⟩

/-- **The value that is stored for a key and its expiry**, whether it has expired or not. -/
def view (soft : SoftStateMap κ ν) (key : κ) : Option (ν × ℤ) :=
  (soft.getDataPtr key).bind fun data =>
    (soft.heap.get data.handle).map fun expiry => (data.value, expiry.expiry)

theorem wellFormed_empty (lifetime : ℤ) : (empty lifetime : SoftStateMap κ ν).WellFormed where
  valid := heap_contract.valid_empty
  ordered := heap_contract.ordered_empty
  denotes := nofun
  stored node member := absurd member (heap_contract.holds_empty node)

theorem WellFormed.setLifetime {soft : SoftStateMap κ ν} (formed : soft.WellFormed) (lifetime : ℤ) :
    (soft.setLifetime lifetime).WellFormed :=
  ⟨formed.valid, formed.ordered, formed.denotes, formed.stored⟩

section View

variable {soft after : SoftStateMap κ ν} {key other : κ} {value : ν} {expiry now : ℤ} {handle : ℕ}

theorem WellFormed.view_some (formed : soft.WellFormed) :
    soft.view key = some (value, expiry) ↔
      ∃ handle, soft.getDataPtr key = some ⟨handle, value⟩ ∧
        (⟨handle, ⟨expiry, key⟩⟩ : HeapNode _) ∈ soft.heap.nodes := by
  unfold view
  rw [Option.bind_eq_some_iff]
  constructor
  · rintro ⟨⟨handle, stored⟩, found, shown⟩
    obtain ⟨⟨passes, owner⟩, denoted, same⟩ := Option.map_eq_some_iff.mp shown
    obtain ⟨rfl, rfl⟩ := Prod.mk.inj same
    obtain ⟨_, member⟩ := formed.denotes key _ found
    cases Option.some.inj (denoted.symm.trans ((heap_contract.get_iff formed.valid).mpr member))
    exact ⟨handle, found, member⟩
  · rintro ⟨handle, found, member⟩
    exact ⟨_, found, Option.map_eq_some_iff.mpr ⟨_, (heap_contract.get_iff formed.valid).mpr member, rfl⟩⟩

theorem view_none (missing : soft.getDataPtr key = none) : soft.view key = none := by
  unfold view
  rw [missing]
  rfl

/-- A key whose entry is found has a heap element of its own. -/
theorem WellFormed.found (formed : soft.WellFormed) {data : ValueWithHandle ν}
    (found : soft.getDataPtr key = some data) :
    ∃ expiry, soft.view key = some (data.value, expiry) ∧
      soft.heap.get data.handle = some ⟨expiry, key⟩ := by
  obtain ⟨expiry, member⟩ := formed.denotes key data found
  exact ⟨expiry, formed.view_some.mpr ⟨data.handle, found, member⟩,
    (heap_contract.get_iff formed.valid).mpr member⟩

/-- **The frame rule**: a key whose entry and whose heap elements are as before is viewed as before. -/
theorem WellFormed.frame (formed : soft.WellFormed) (formedAfter : after.WellFormed)
    (entry : after.getDataPtr key = soft.getDataPtr key)
    (element : ∀ handle expiry, (⟨handle, ⟨expiry, key⟩⟩ : HeapNode _) ∈ after.heap.nodes ↔
      (⟨handle, ⟨expiry, key⟩⟩ : HeapNode _) ∈ soft.heap.nodes) :
    after.view key = soft.view key := by
  refine Option.ext ?_
  rintro ⟨value, expiry⟩
  rw [formedAfter.view_some, formed.view_some, entry]
  exact exists_congr fun handle => and_congr_right fun _ => element handle expiry

omit [DecidableEq κ] in
/-- `is_expired` compares the expiry of the entry. -/
theorem isExpired_eq (denoted : soft.heap.get handle = some ⟨expiry, key⟩) :
    soft.isExpired now handle = decide (now > expiry) := by
  unfold isExpired
  rw [denoted]
  rfl

end View

/-! ### The operations -/

section Operations

variable {soft : SoftStateMap κ ν} {key : κ} {data : ValueWithHandle ν} {now : ℤ}

theorem emplace_spec (now : ℤ) (formed : soft.WellFormed) (missing : soft.getDataPtr key = none) (value : ν) :
    (soft.emplace now key value).2.WellFormed ∧
      (soft.emplace now key value).2.view =
        Function.update soft.view key (some (value, now + soft.lifetime)) := by
  set after := (soft.emplace now key value).2 with emplaced
  have entry : after.getDataPtr key = some ⟨soft.heap.fresh, value⟩ := AList.lookup_insert _
  have frame : ∀ other, other ≠ key → after.getDataPtr other = soft.getDataPtr other :=
    fun other different => AList.lookup_insert_ne different
  have element : ∀ node, node ∈ after.heap.nodes ↔
      node = ⟨soft.heap.fresh, ⟨now + soft.lifetime, key⟩⟩ ∨ node ∈ soft.heap.nodes :=
    fun node => heap_contract.holds_push
  have formedAfter : after.WellFormed := by
    refine ⟨heap_contract.valid_push formed.valid, heap_contract.ordered_push formed.ordered, ?_, ?_⟩
    · intro other data found
      by_cases same : other = key
      · subst same
        cases entry.symm.trans found
        exact ⟨_, (element _).mpr (.inl rfl)⟩
      · rw [frame other same] at found
        obtain ⟨expiry, member⟩ := formed.denotes other data found
        exact ⟨expiry, (element _).mpr (.inr member)⟩
    · intro node member
      rcases (element node).mp member with rfl | old
      · exact ⟨value, entry⟩
      · obtain ⟨stored, found⟩ := formed.stored node old
        have different : node.item.key ≠ key := by
          intro same
          rw [same, missing] at found
          cases found
        exact ⟨stored, (frame _ different).trans found⟩
  refine ⟨formedAfter, ?_⟩
  funext other
  by_cases same : other = key
  · subst same
    rw [Function.update_self]
    exact formedAfter.view_some.mpr ⟨_, entry, (element _).mpr (.inl rfl)⟩
  · rw [Function.update_of_ne same]
    refine formed.frame formedAfter (frame other same) fun handle expiry => ?_
    rw [element]
    refine or_iff_right fun equal => same ?_
    cases equal
    rfl

omit [DecidableEq κ] in
theorem refreshHandle_lifetime {handle : ℕ} :
    (soft.refreshHandle now handle).lifetime = soft.lifetime := by
  unfold refreshHandle
  split <;> rfl

theorem refreshHandle_spec (now : ℤ) (formed : soft.WellFormed) (found : soft.getDataPtr key = some data) :
    (soft.refreshHandle now data.handle).WellFormed ∧
      (soft.refreshHandle now data.handle).view =
        Function.update soft.view key (some (data.value, now + soft.lifetime)) := by
  obtain ⟨expiry, _, denoted⟩ := formed.found found
  have member := (heap_contract.get_iff formed.valid).mp denoted
  have unfolded : soft.refreshHandle now data.handle =
      { soft with
        heap := (soft.heap.write data.handle ⟨now + soft.lifetime, key⟩).update
          ExpiryWithKey.expiry data.handle } := by
    unfold refreshHandle
    rw [denoted]
  set after := soft.refreshHandle now data.handle with refreshed
  have entry : ∀ other, after.getDataPtr other = soft.getDataPtr other := by
    intro other
    rw [unfolded]
    rfl
  have element : ∀ node, node ∈ after.heap.nodes ↔
      (node ∈ soft.heap.nodes ∧ node.handle ≠ data.handle) ∨
        node = ⟨data.handle, ⟨now + soft.lifetime, key⟩⟩ := by
    intro node
    rw [unfolded]
    exact heap_contract.holds_rewrite formed.valid member
  have formedAfter : after.WellFormed := by
    refine ⟨?_, ?_, ?_, ?_⟩
    · rw [unfolded]
      exact heap_contract.valid_update (heap_contract.valid_write formed.valid)
    · rw [unfolded]
      exact heap_contract.ordered_rewrite formed.ordered
    · intro other stored isStored
      rw [entry] at isStored
      obtain ⟨passes, old⟩ := formed.denotes other stored isStored
      by_cases same : stored.handle = data.handle
      · have equal := heap_contract.unique formed.valid old member same
        rw [HeapNode.mk.injEq, ExpiryWithKey.mk.injEq] at equal
        exact ⟨_, (element _).mpr (.inr (by rw [equal.1, equal.2.2]))⟩
      · exact ⟨passes, (element _).mpr (.inl ⟨old, same⟩)⟩
    · intro node isNode
      rw [entry]
      rcases (element node).mp isNode with ⟨old, _⟩ | rfl
      · exact formed.stored node old
      · exact ⟨data.value, found⟩
  refine ⟨formedAfter, ?_⟩
  funext other
  by_cases same : other = key
  · subst same
    rw [Function.update_self]
    exact formedAfter.view_some.mpr ⟨_, (entry other).trans found, (element _).mpr (.inr rfl)⟩
  · rw [Function.update_of_ne same]
    refine formed.frame formedAfter (entry other) fun handle passes => ?_
    rw [element]
    constructor
    · rintro (⟨old, _⟩ | equal)
      · exact old
      · cases equal
        exact absurd rfl same
    · intro old
      refine .inl ⟨old, fun shared => same ?_⟩
      cases heap_contract.unique formed.valid old member shared
      rfl

theorem modify_lifetime (change : ν → ν) :
    (soft.modify key change).lifetime = soft.lifetime := by
  unfold modify
  split <;> rfl

theorem modify_spec (key : κ) (formed : soft.WellFormed) (change : ν → ν) :
    (soft.modify key change).WellFormed ∧
      (soft.modify key change).view =
        Function.update soft.view key ((soft.view key).map fun entry => (change entry.1, entry.2)) := by
  unfold modify
  cases found : soft.getDataPtr key with
  | none =>
    rw [view_none found]
    refine ⟨formed, (Function.update_eq_self_iff.mpr ?_).symm⟩
    exact (view_none found).symm
  | some data =>
    obtain ⟨expiry, shown, denoted⟩ := formed.found found
    set after : SoftStateMap κ ν :=
      { soft with map := soft.map.insert key { data with value := change data.value } }
    have entry : after.getDataPtr key = some ⟨data.handle, change data.value⟩ :=
      AList.lookup_insert _
    have frame : ∀ other, other ≠ key → after.getDataPtr other = soft.getDataPtr other :=
      fun other different => AList.lookup_insert_ne different
    have formedAfter : after.WellFormed := by
      refine ⟨formed.valid, formed.ordered, ?_, ?_⟩
      · intro other stored isStored
        by_cases same : other = key
        · subst same
          cases entry.symm.trans isStored
          exact formed.denotes other data found
        · rw [frame other same] at isStored
          exact formed.denotes other stored isStored
      · intro node member
        obtain ⟨value, isStored⟩ := formed.stored node member
        by_cases same : node.item.key = key
        · rw [same] at isStored ⊢
          cases found.symm.trans isStored
          exact ⟨change value, entry⟩
        · exact ⟨value, (frame _ same).trans isStored⟩
    refine ⟨formedAfter, ?_⟩
    funext other
    by_cases same : other = key
    · subst same
      rw [Function.update_self, shown]
      exact formedAfter.view_some.mpr ⟨_, entry, (heap_contract.get_iff formed.valid).mp denoted⟩
    · rw [Function.update_of_ne same]
      exact formed.frame formedAfter (frame other same) fun _ _ => Iff.rfl

/-- A round of `drop_expired`: the entry of the key at the top goes, with its heap element. -/
theorem pop_spec (formed : soft.WellFormed) {top : ExpiryWithKey κ} (first : soft.heap.top = some top) :
    let after : SoftStateMap κ ν := { soft with map := soft.map.erase top.key, heap := soft.heap.pop }
    after.WellFormed ∧ after.view = Function.update soft.view top.key none ∧
      ∃ value, soft.view top.key = some (value, top.expiry) := by
  intro after
  obtain ⟨handle, member, element⟩ := heap_contract.top_some formed.valid first
  have gone : after.getDataPtr top.key = none := AList.lookup_erase _ _
  have frame : ∀ other, other ≠ top.key → after.getDataPtr other = soft.getDataPtr other :=
    fun other different => AList.lookup_erase_ne different
  obtain ⟨value, found⟩ := formed.stored _ member
  have formedAfter : after.WellFormed := by
    refine ⟨heap_contract.valid_pop formed.valid, heap_contract.ordered_pop formed.ordered, ?_, ?_⟩
    · intro other stored isStored
      have different : other ≠ top.key := by
        rintro rfl
        rw [gone] at isStored
        cases isStored
      rw [frame other different] at isStored
      obtain ⟨expiry, isNode⟩ := formed.denotes other stored isStored
      refine ⟨expiry, (element _).mpr ⟨isNode, fun same => different ?_⟩⟩
      cases heap_contract.unique formed.valid isNode member same
      rfl
    · intro other isNode
      obtain ⟨old, different⟩ := (element other).mp isNode
      obtain ⟨stored, isStored⟩ := formed.stored other old
      refine ⟨stored, (frame _ fun same => different ?_).trans isStored⟩
      rw [same, found] at isStored
      exact (congrArg ValueWithHandle.handle (Option.some.inj isStored)).symm
  refine ⟨formedAfter, ?_, value, formed.view_some.mpr ⟨handle, found, member⟩⟩
  funext other
  by_cases same : other = top.key
  · subst same
    rw [Function.update_self]
    exact view_none gone
  · rw [Function.update_of_ne same]
    refine formed.frame formedAfter (frame other same) fun denoting expiry => ?_
    refine (element _).trans (and_iff_left_of_imp fun isNode shared => same ?_)
    cases heap_contract.unique formed.valid isNode member shared
    rfl

/-- An entry whose expiry has not passed. -/
def alive (now : ℤ) (entry : Option (ν × ℤ)) : Option (ν × ℤ) := entry.filter fun entry => now ≤ entry.2

@[simp] theorem alive_none : alive now (none : Option (ν × ℤ)) = none := rfl

theorem alive_some {value : ν} {expiry : ℤ} :
    alive now (some (value, expiry)) = if expiry < now then none else some (value, expiry) := by
  by_cases passed : expiry < now <;> simp [alive, Option.filter, passed, not_lt.mp]

theorem view_of_no_nodes (formed : soft.WellFormed) (none_left : ∀ node, node ∉ soft.heap.nodes) (key : κ) :
    soft.view key = none := by
  refine Option.eq_none_iff_forall_not_mem.mpr ?_
  rintro ⟨value, expiry⟩ shown
  obtain ⟨handle, _, member⟩ := formed.view_some.mp shown
  exact none_left _ member

theorem dropExpiredFrom_spec (rounds : ℕ) :
    ∀ soft : SoftStateMap κ ν, soft.WellFormed → soft.heap.nodes.length ≤ rounds →
      (dropExpiredFrom now rounds soft).WellFormed ∧
        (dropExpiredFrom now rounds soft).lifetime = soft.lifetime ∧
        (dropExpiredFrom now rounds soft).view = fun key => alive now (soft.view key) := by
  have emptied : ∀ soft : SoftStateMap κ ν, soft.WellFormed → (∀ node, node ∉ soft.heap.nodes) →
      soft.view = fun key => alive now (soft.view key) := by
    intro soft formed none_left
    funext key
    rw [view_of_no_nodes formed none_left]
    rfl
  induction rounds with
  | zero =>
    intro soft formed few
    exact ⟨formed, rfl, emptied soft formed fun _ => heap_contract.size_zero (Nat.le_zero.mp few)⟩
  | succ rounds ih =>
    intro soft formed few
    unfold dropExpiredFrom
    cases first : soft.heap.top with
    | none =>
      exact ⟨formed, rfl, emptied soft formed fun _ => heap_contract.top_none first⟩
    | some top =>
      by_cases passed : now > top.expiry
      · obtain ⟨formedAfter, views, value, shown⟩ := pop_spec formed first
        have fewer : soft.heap.pop.nodes.length ≤ rounds :=
          Nat.le_of_lt_succ ((heap_contract.size_pop first).trans_le few)
        obtain ⟨formedLast, lifetime, left⟩ := ih _ formedAfter fewer
        simp only [if_pos passed]
        refine ⟨formedLast, lifetime, left.trans ?_⟩
        funext key
        rw [views]
        by_cases same : key = top.key
        · rw [same, Function.update_self, shown, alive_some, if_pos passed, alive_none]
        · rw [Function.update_of_ne same]
      · simp only [if_neg passed]
        refine ⟨formed, trivial, ?_⟩
        funext key
        cases shown : soft.view key with
        | none => rfl
        | some entry =>
          obtain ⟨handle, _, member⟩ := formed.view_some.mp shown
          have least := heap_contract.top_le formed.ordered first member
          rw [alive_some, if_neg (not_lt.mpr (le_trans (not_lt.mp passed) least))]

theorem dropExpired_spec (now : ℤ) (formed : soft.WellFormed) :
    (soft.dropExpired now).WellFormed ∧ (soft.dropExpired now).lifetime = soft.lifetime ∧
      (soft.dropExpired now).view = fun key => alive now (soft.view key) :=
  dropExpiredFrom_spec _ soft formed le_rfl

theorem getValuePtr_eq (formed : soft.WellFormed) :
    soft.getValuePtr now key = (alive now (soft.view key)).map Prod.fst := by
  unfold getValuePtr
  cases found : soft.getDataPtr key with
  | none =>
    rw [view_none found]
    rfl
  | some data =>
    obtain ⟨expiry, shown, denoted⟩ := formed.found found
    rw [shown, Option.bind_some, isExpired_eq denoted, alive_some]
    by_cases passed : expiry < now <;> simp [passed]

/-- `map()` lists the entries that have not expired. -/
theorem mem_entries {value : ν} :
    (key, value) ∈ soft.entries now ↔ soft.getValuePtr now key = some value := by
  unfold entries getValuePtr getDataPtr
  rw [List.mem_map, Option.bind_eq_some_iff]
  constructor
  · rintro ⟨⟨owner, data⟩, member, same⟩
    obtain ⟨listed, lives⟩ := List.mem_filter.mp member
    cases same
    refine ⟨data, AList.mem_lookup_iff.mpr listed, if_neg ?_⟩
    simpa using lives
  · rintro ⟨data, found, shown⟩
    obtain ⟨lives, same⟩ := Option.ite_none_left_eq_some.mp shown
    cases same
    refine ⟨⟨key, data⟩, List.mem_filter.mpr ⟨AList.mem_lookup_iff.mp found, ?_⟩, rfl⟩
    simpa using lives

variable (create : ℤ → ν)

/-- What `get_value` makes of an entry: an expired one is resurrected with its old value. -/
def accessed (now lifetime : ℤ) : Option (ν × ℤ) → ν × ℤ
  | none => (create now, now + lifetime)
  | some (value, expiry) => if now > expiry then (value, now + lifetime) else (value, expiry)

/-- What `refresh` makes of an entry. -/
def refreshed (now lifetime : ℤ) : Option (ν × ℤ) → ν × ℤ
  | none => (create now, now + lifetime)
  | some (value, _) => (value, now + lifetime)

theorem getValue_spec (now : ℤ) (key : κ) (formed : soft.WellFormed) :
    (soft.getValue create now key).2.WellFormed ∧
      (soft.getValue create now key).2.lifetime = soft.lifetime ∧
      (soft.getValue create now key).1 = (accessed create now soft.lifetime (soft.view key)).1 ∧
      (soft.getValue create now key).2.view =
        Function.update soft.view key (some (accessed create now soft.lifetime (soft.view key))) := by
  unfold getValue getData
  cases found : soft.getDataPtr key with
  | none =>
    obtain ⟨formedAfter, views⟩ := emplace_spec now formed found (create now)
    rw [view_none found]
    exact ⟨formedAfter, rfl, rfl, views⟩
  | some data =>
    obtain ⟨expiry, shown, denoted⟩ := formed.found found
    dsimp only
    rw [shown, isExpired_eq denoted]
    by_cases passed : now > expiry
    · obtain ⟨formedAfter, views⟩ := refreshHandle_spec now formed found
      simp only [accessed, if_pos passed, decide_eq_true passed, ↓reduceIte]
      exact ⟨formedAfter, refreshHandle_lifetime, trivial, views⟩
    · simp only [accessed, if_neg passed, decide_eq_false passed, Bool.false_eq_true, ↓reduceIte]
      exact ⟨formed, trivial, trivial, (Function.update_eq_self_iff.mpr shown.symm).symm⟩

theorem refresh_spec (now : ℤ) (key : κ) (formed : soft.WellFormed) :
    (soft.refresh create now key).2.WellFormed ∧
      (soft.refresh create now key).2.lifetime = soft.lifetime ∧
      (soft.refresh create now key).1 = (refreshed create now soft.lifetime (soft.view key)).1 ∧
      (soft.refresh create now key).2.view =
        Function.update soft.view key (some (refreshed create now soft.lifetime (soft.view key))) := by
  unfold refresh
  cases found : soft.getDataPtr key with
  | none =>
    have spec := getValue_spec create now key formed
    rw [view_none found] at spec ⊢
    exact spec
  | some data =>
    obtain ⟨expiry, shown, denoted⟩ := formed.found found
    obtain ⟨formedAfter, views⟩ := refreshHandle_spec now formed found
    rw [shown]
    exact ⟨formedAfter, refreshHandle_lifetime, rfl, views⟩

/-! ### What is read of the values -/

variable {β : Type} (read : ν → Option β)

/-- What is read of the value under a key, whether it has expired or not. -/
def reading (soft : SoftStateMap κ ν) (key : κ) : Option β :=
  (soft.view key).bind fun entry => read entry.1

variable {create}

/-- An access keeps what is read, if nothing is read of a value that it creates. -/
theorem reading_refresh (formed : soft.WellFormed) (blank : read (create now) = none) :
    reading read (soft.refresh create now key).2 = reading read soft := by
  funext other
  unfold reading
  rw [(refresh_spec create now key formed).2.2.2]
  by_cases same : other = key
  · subst same
    rw [Function.update_self]
    cases soft.view other with
    | none => exact blank
    | some entry => rfl
  · rw [Function.update_of_ne same]

theorem reading_getValue (formed : soft.WellFormed) (blank : read (create now) = none) :
    reading read (soft.getValue create now key).2 = reading read soft := by
  funext other
  unfold reading
  rw [(getValue_spec create now key formed).2.2.2]
  by_cases same : other = key
  · subst same
    rw [Function.update_self]
    cases soft.view other with
    | none => exact blank
    | some entry =>
      unfold accessed
      dsimp only
      split <;> rfl
  · rw [Function.update_of_ne same]

theorem reading_modify (formed : soft.WellFormed) (change : ν → ν) :
    reading read (soft.modify key change) =
      Function.update (reading read soft) key ((soft.view key).bind fun entry => read (change entry.1)) := by
  funext other
  unfold reading
  rw [(modify_spec key formed change).2]
  by_cases same : other = key
  · subst same
    rw [Function.update_self, Function.update_self]
    cases soft.view other <;> rfl
  · rw [Function.update_of_ne same, Function.update_of_ne same]

end Operations

end SoftStateMap

end Vanet.Geonet
