/-
**The representation of a soft state map, in every run.**

* `step_wellFormed`: every operation keeps map entries and heap elements in bijection.
* `WellFormed.linked`, `WellFormed.keys`: the bijection as a permutation, and no key twice.
* `dropExpired_nodes`: the elements that `drop_expired` leaves in the heap.
* `soft_state_representation`: all of it after any sequence of operations.
-/

import Mathlib.Data.List.Induction
import Vanet.Geonet.SoftState

namespace Vanet.Geonet

open Vanet.Library SoftStateMap

variable {κ ν : Type} [DecidableEq κ]

namespace SoftStateMap

variable {soft : SoftStateMap κ ν} {now : ℤ}

/-- A map entry and the element of the heap that its handle denotes. -/
def links (soft : SoftStateMap κ ν) : List (κ × ℕ) :=
  soft.map.entries.map fun entry => (entry.1, entry.2.handle)

/-- An element of the heap, by its key. -/
def elements (soft : SoftStateMap κ ν) : List (κ × ℕ) :=
  soft.heap.nodes.map fun node => (node.item.key, node.handle)

/-- **The representation.** Map entries and heap elements are the same links, each handle denotes the
element with the entry's own key, no key occurs twice in the heap, and the heap is in order. -/
structure Represents (soft : SoftStateMap κ ν) : Prop where
  linked : soft.links.Perm soft.elements
  denotes : ∀ key data, soft.getDataPtr key = some data →
    ∃ expiry, soft.heap.get data.handle = some ⟨expiry, key⟩
  keys : (soft.heap.nodes.map fun node => node.item.key).Nodup
  ordered : soft.heap.Ordered ExpiryWithKey.expiry

/-- The entry of a key knows its only element. -/
theorem WellFormed.keys (formed : soft.WellFormed) :
    (soft.heap.nodes.map fun node => node.item.key).Nodup := by
  have nodup : soft.heap.nodes.Nodup := formed.valid.distinct.of_map
  refine nodup.map_on fun node member other otherMember same => ?_
  obtain ⟨value, found⟩ := formed.stored node member
  obtain ⟨otherValue, otherFound⟩ := formed.stored other otherMember
  rw [← same, found] at otherFound
  exact heap_contract.unique formed.valid member otherMember
    (congrArg ValueWithHandle.handle (Option.some.inj otherFound))

theorem mem_links {link : κ × ℕ} :
    link ∈ soft.links ↔ ∃ value, soft.getDataPtr link.1 = some ⟨link.2, value⟩ := by
  unfold links getDataPtr
  rw [List.mem_map]
  constructor
  · rintro ⟨⟨key, data⟩, listed, rfl⟩
    exact ⟨data.value, AList.mem_lookup_iff.mpr listed⟩
  · rintro ⟨value, found⟩
    exact ⟨⟨link.1, ⟨link.2, value⟩⟩, AList.mem_lookup_iff.mp found, rfl⟩

theorem WellFormed.linked (formed : soft.WellFormed) : soft.links.Perm soft.elements := by
  have keys : (soft.links.map Prod.fst).Nodup := by
    unfold links
    rw [List.map_map]
    exact soft.map.nodupKeys
  have elements : (soft.elements.map Prod.fst).Nodup := by
    unfold SoftStateMap.elements
    rw [List.map_map]
    exact formed.keys
  refine (List.perm_ext_iff_of_nodup keys.of_map elements.of_map).mpr fun link => ?_
  rw [mem_links]
  constructor
  · rintro ⟨value, found⟩
    obtain ⟨expiry, member⟩ := formed.denotes link.1 _ found
    exact List.mem_map.mpr ⟨_, member, rfl⟩
  · intro member
    obtain ⟨node, listed, rfl⟩ := List.mem_map.mp member
    exact formed.stored node listed

theorem WellFormed.represents (formed : soft.WellFormed) : soft.Represents where
  linked := formed.linked
  denotes key data found := by
    obtain ⟨expiry, _, denoted⟩ := formed.found found
    exact ⟨expiry, denoted⟩
  keys := formed.keys
  ordered := formed.ordered

/-- **An expiry that is changed in place** leaves the heap in order, whichever way it changes. -/
theorem WellFormed.refreshHandle_ordered (formed : soft.WellFormed) (handle : ℕ) :
    (soft.refreshHandle now handle).heap.Ordered ExpiryWithKey.expiry := by
  unfold refreshHandle
  split
  · exact formed.ordered
  · exact heap_contract.ordered_rewrite formed.ordered

/-! ### Dropping -/

theorem dropExpiredFrom_nodes (rounds : ℕ) : ∀ soft : SoftStateMap κ ν,
    soft.heap.Ordered ExpiryWithKey.expiry → soft.heap.nodes.length ≤ rounds →
      (dropExpiredFrom now rounds soft).heap.nodes =
        soft.heap.nodes.filter fun node => now ≤ node.item.expiry := by
  induction rounds with
  | zero =>
    intro soft _ few
    rw [List.eq_nil_of_length_eq_zero (Nat.le_zero.mp few)]
    exact List.eq_nil_of_length_eq_zero (Nat.le_zero.mp few)
  | succ rounds ih =>
    intro soft ordered few
    unfold dropExpiredFrom
    cases nodes : soft.heap.nodes with
    | nil =>
      have empty : soft.heap.top = none := by
        unfold HandleHeap.top
        rw [nodes]
        rfl
      rw [empty]
      exact nodes
    | cons node rest =>
      have first : soft.heap.top = some node.item := by
        unfold HandleHeap.top
        rw [nodes]
        rfl
      have popped : soft.heap.pop.nodes = rest := congrArg List.tail nodes
      rw [first]
      dsimp only
      split_ifs with passed
      · have fewer : soft.heap.pop.nodes.length ≤ rounds :=
          Nat.le_of_lt_succ ((heap_contract.size_pop first).trans_le few)
        rw [ih _ (heap_contract.ordered_pop ordered) fewer, List.filter_cons_of_neg (by simpa using passed)]
        exact congrArg (List.filter _) popped
      · -- the top has the least expiry
        rw [← nodes]
        refine (List.filter_eq_self.mpr fun other member => decide_eq_true ?_).symm
        exact le_trans (not_lt.mp passed) (heap_contract.top_le ordered first member)

theorem dropExpired_nodes (formed : soft.WellFormed) : (soft.dropExpired now).heap.nodes =
    soft.heap.nodes.filter fun node => now ≤ node.item.expiry :=
  dropExpiredFrom_nodes _ soft formed.ordered le_rfl

theorem dropExpired_view (formed : soft.WellFormed) {key : κ} {value : ν} {expiry : ℤ} :
    (soft.dropExpired now).view key = some (value, expiry) ↔
      soft.view key = some (value, expiry) ∧ now ≤ expiry := by
  rw [(dropExpired_spec now formed).2.2]
  unfold alive
  rw [Option.filter_eq_some_iff, decide_eq_true_iff]

end SoftStateMap

/-! ### Runs -/

variable {create : ℤ → ν}

/-- **Every operation** keeps the map well formed. -/
theorem step_wellFormed {state : ℤ × SoftStateMap κ ν} (formed : state.2.WellFormed)
    (action : SoftAction κ ν) : (softStep create state action).2.2.WellFormed := by
  cases action with
  | getValue key change =>
    exact (modify_spec key (getValue_spec create state.1 key formed).1 change).1
  | getValuePtr key change =>
    unfold softStep
    dsimp only
    cases state.2.getValuePtr state.1 key with
    | none => exact formed
    | some value => exact (modify_spec key formed change).1
  | hasValue key => exact formed
  | refresh key change =>
    exact (modify_spec key (refresh_spec create state.1 key formed).1 change).1
  | setLifetime lifetime => exact formed.setLifetime lifetime
  | dropExpired => exact (dropExpired_spec state.1 formed).1
  | map => exact formed
  | advance elapsed => exact formed

theorem outcome_wellFormed (now lifetime : ℤ) (actions : List (SoftAction κ ν)) :
    (outcome (softStep create) (now, SoftStateMap.empty lifetime) actions).2.WellFormed := by
  induction actions using List.reverseRecOn with
  | nil => exact wellFormed_empty lifetime
  | append_singleton earlier last ih =>
    rw [outcome_concat]
    exact step_wellFormed ih last

/-- **The representation of a soft state map.** After any operations, at times that do not decrease,
map entries and heap elements are in bijection and the heap is in order; a change of an expiry in place
keeps it in order; and `drop_expired` leaves exactly the entries whose expiry has not passed. -/
theorem soft_state_representation (create : ℤ → ν) (now lifetime : ℤ) (actions : List (SoftAction κ ν)) :
    let state := outcome (softStep create) (now, (SoftStateMap.empty lifetime : SoftStateMap κ ν)) actions
    let dropped := state.2.dropExpired state.1
    state.2.Represents ∧
      (∀ handle, (state.2.refreshHandle state.1 handle).heap.Ordered ExpiryWithKey.expiry) ∧
      dropped.heap.nodes = state.2.heap.nodes.filter (fun node => state.1 ≤ node.item.expiry) ∧
      ∀ key value expiry, dropped.view key = some (value, expiry) ↔
        state.2.view key = some (value, expiry) ∧ state.1 ≤ expiry := by
  intro state dropped
  have formed : state.2.WellFormed := outcome_wellFormed now lifetime actions
  exact ⟨formed.represents, formed.refreshHandle_ordered, dropExpired_nodes formed,
    fun _ _ _ => dropExpired_view formed⟩

end Vanet.Geonet
