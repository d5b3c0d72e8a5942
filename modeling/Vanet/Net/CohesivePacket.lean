/-
**The cohesive packet, with its iterators.**

A packet owns one buffer. Eight iterators into the buffer are the boundaries of the seven layers, and a
copy rebuilds them from the differences of the other packet's iterators.

* `Layered`: the boundaries of a packet are positions in its own buffer that do not decrease.
* `contents_eq`: the layers together are the buffer up to the last boundary.
* `setBoundary_toPacket`, `trim_toPacket`: what the operations do to the layers, for the boundaries that
  the router sets.
* `packet_layering`: what holds of the packets after any sequence of operations.
-/

import Mathlib.Data.List.FinRange
import Mathlib.Order.Lattice
import Vanet.Library.Run
import Vanet.Library.Segments
import Vanet.Net.EthernetHeader

namespace Vanet.Net

open Vanet.Library

/-- An iterator, of the buffer that a packet owns. -/
structure Iterator where
  owner : ℕ
  position : ℕ
  deriving DecidableEq

namespace Iterator

/-- `iterator + bytes`. -/
def advance (iterator : Iterator) (bytes : ℤ) : Iterator :=
  ⟨iterator.owner, (iterator.position + bytes).toNat⟩

/-- `std::distance`. -/
def distance (first last : Iterator) : ℤ := last.position - first.position

end Iterator

/-- The index of the iterator above a layer. -/
def OsiLayer.upper (layer : OsiLayer) : Fin 8 := ⟨layer.index, by cases layer <;> decide⟩

/-- The index of the iterator below a layer. -/
def OsiLayer.lower (layer : OsiLayer) : Fin 8 := ⟨layer.index - 1, by cases layer <;> decide⟩

/-- The members of a `CohesivePacket`. The time is in milliseconds. -/
structure Cohesive where
  buffer : ByteBuffer
  iterators : Fin 8 → Iterator
  rssi : ℤ
  timeReceived : ℤ
  ethHeader : EthernetHeader

namespace Cohesive

/-- `reset_iterators`: all bytes belong to one layer. -/
def resetIterators (address : ℕ) (buffer : ByteBuffer) (layer : OsiLayer) : Fin 8 → Iterator :=
  fun i => if i.1 < layer.index then ⟨address, 0⟩ else ⟨address, buffer.length⟩

/-- The constructor from a buffer, of the packet at an address. -/
def construct (address : ℕ) (buffer : ByteBuffer) (layer : OsiLayer) : Cohesive where
  buffer := buffer
  iterators := resetIterators address buffer layer
  rssi := -255
  timeReceived := -1000
  ethHeader := .zero

/-- The loop of `rebuild_iterators`, up to an iterator. -/
def rebuilt (address : ℕ) (other : Fin 8 → Iterator) : (i : ℕ) → i < 8 → Iterator
  | 0, _ => ⟨address, 0⟩
  | i + 1, below =>
    (rebuilt address other i (Nat.lt_of_succ_lt below)).advance
      (Iterator.distance (other ⟨i, Nat.lt_of_succ_lt below⟩) (other ⟨i + 1, below⟩))

/-- `rebuild_iterators`. -/
def rebuildIterators (address : ℕ) (other : Cohesive) : Fin 8 → Iterator :=
  fun i => rebuilt address other.iterators i.1 i.2

/-- The copy constructor. -/
def copyConstruct (address : ℕ) (other : Cohesive) : Cohesive :=
  { other with iterators := rebuildIterators address other }

/-- `operator=`. -/
def assign (packet : Cohesive) (address : ℕ) (other : Cohesive) : Cohesive :=
  { packet with buffer := other.buffer, iterators := rebuildIterators address other }

variable (packet : Cohesive)

/-- `get`: the bytes of a layer. -/
def get (layer : OsiLayer) : ByteBuffer :=
  packet.buffer.extract (packet.iterators layer.lower).position (packet.iterators layer.upper).position

/-- `size` of the whole packet. -/
def size : ℕ := (Iterator.distance (packet.iterators 0) (packet.iterators 7)).toNat

/-- `size` of a range of layers, which may be empty. -/
def sizeRange (first last : OsiLayer) : ℕ :=
  (Iterator.distance (packet.iterators first.lower) (packet.iterators last.upper)).toNat

/-- `size` of a single layer. -/
def sizeLayer (layer : OsiLayer) : ℕ := packet.sizeRange layer layer

/-- `set_boundary`. The layer is asserted to have the bytes it keeps. -/
def setBoundary (layer : OsiLayer) (bytes : ℕ) : Option Cohesive :=
  if bytes ≤ packet.sizeLayer layer then
    some { packet with
      iterators := Function.update packet.iterators layer.upper
        ((packet.iterators layer.lower).advance bytes) }
  else none

/-- The body of the loop in `trim`. -/
def clamp (iterators : Fin 8 → Iterator) (idx : Fin 8) : Fin 8 → Iterator :=
  if (iterators idx).position > (iterators 7).position then Function.update iterators idx (iterators 7)
  else iterators

/-- What `trim` does to a packet that is too long. -/
def cut (first : OsiLayer) (bytes : ℕ) : Option Cohesive :=
  let iterators := Function.update packet.iterators 7 ((packet.iterators first.lower).advance bytes)
  if (iterators 7).position ≥ (iterators 0).position then
    some { packet with
      iterators := ((List.finRange 8).filter fun idx => first.lower ≤ idx ∧ idx < 7).foldl clamp iterators }
  else none

/-- `trim`, with its assertions. -/
def trim (first : OsiLayer) (bytes : ℕ) : Option Cohesive :=
  (if packet.sizeRange first .application > bytes then packet.cut first bytes else some packet).filter
    fun trimmed => trimmed.sizeRange first .application ≤ bytes

/-- The layers of the packet. -/
def toPacket : CohesivePacket := ⟨packet.get⟩

/-- All layers, from the lowest to the highest. -/
def contents : ByteBuffer := (osiLayers.map packet.get).flatten

/-- The position of a boundary. -/
def boundary (i : ℕ) : ℕ := (packet.iterators ⟨min i 7, by omega⟩).position

/-- **The boundaries of a packet** are positions in its own buffer that do not decrease. -/
structure Layered (address : ℕ) : Prop where
  own : ∀ i, (packet.iterators i).owner = address
  front : packet.boundary 0 = 0
  ordered : Monotone packet.boundary
  within : packet.boundary 7 ≤ packet.buffer.length

/-! ### Boundaries and layers -/

variable {packet} {address : ℕ}

theorem lower_position (layer : OsiLayer) :
    (packet.iterators layer.lower).position = packet.boundary (layer.index - 1) := by
  cases layer <;> rfl

theorem upper_position (layer : OsiLayer) :
    (packet.iterators layer.upper).position = packet.boundary (layer.index - 1 + 1) := by
  cases layer <;> rfl

theorem get_eq (layer : OsiLayer) :
    packet.get layer =
      packet.buffer.extract (packet.boundary (layer.index - 1)) (packet.boundary (layer.index - 1 + 1)) := by
  rw [← lower_position, ← upper_position]
  rfl

theorem sizeRange_eq (first last : OsiLayer) :
    packet.sizeRange first last = packet.boundary last.index - packet.boundary (first.index - 1) := by
  have upper : packet.boundary last.index = (packet.iterators last.upper).position := by
    cases last <;> rfl
  rw [upper, ← lower_position]
  unfold sizeRange Iterator.distance
  omega

/-- The boundaries beyond the last one are the last one. -/
theorem boundary_saturate (i : ℕ) : packet.boundary i = packet.boundary (min i 7) := by
  unfold boundary
  congr 2
  exact Fin.ext (by simp)

namespace Layered

theorem boundary_le (layered : packet.Layered address) (i : ℕ) :
    packet.boundary i ≤ packet.buffer.length := by
  rw [boundary_saturate]
  exact (layered.ordered (Nat.min_le_right i 7)).trans layered.within

/-- **The layers together** are the buffer up to the last boundary. -/
theorem contents_eq (layered : packet.Layered address) :
    packet.contents = packet.buffer.take (packet.boundary 7) := by
  have places : osiLayers.map packet.get = (List.range 7).map fun i =>
      packet.buffer.extract (packet.boundary i) (packet.boundary (i + 1)) := by
    rw [show List.range 7 = osiLayers.map fun layer => layer.index - 1 from rfl, List.map_map]
    exact List.map_congr_left fun layer _ => get_eq layer
  unfold contents
  rw [places, flatten_segments _ layered.ordered, layered.front]
  simp

theorem length_get (layered : packet.Layered address) (layer : OsiLayer) :
    (packet.get layer).length =
      packet.boundary (layer.index - 1 + 1) - packet.boundary (layer.index - 1) := by
  rw [get_eq, length_extract _ (layered.boundary_le _)]

/-- **The size of a range** is the sum of the sizes of its layers. -/
theorem sizeRange_toPacket (layered : packet.Layered address) (first last : OsiLayer) :
    packet.sizeRange first last = packet.toPacket.sizeRange first last := by
  have places : (osiLayerRange first last).map (fun layer => layer.index - 1) =
      List.Ico (first.index - 1) last.index := by
    cases first <;> cases last <;> rfl
  show _ = ((osiLayerRange first last).map fun layer => (packet.get layer).length).sum
  rw [sizeRange_eq, ← sum_segments layered.ordered, ← places, List.map_map]
  exact congrArg List.sum (List.map_congr_left fun layer _ => (layered.length_get layer).symm)

end Layered

/-! ### Constructors -/

theorem construct_boundary (address : ℕ) (buffer : ByteBuffer) (layer : OsiLayer) (i : ℕ) :
    (construct address buffer layer).boundary i =
      if min i 7 < layer.index then 0 else buffer.length := by
  unfold boundary construct resetIterators
  dsimp only
  split_ifs <;> rfl

theorem construct_layered (address : ℕ) (buffer : ByteBuffer) (layer : OsiLayer) :
    (construct address buffer layer).Layered address := by
  have position := construct_boundary address buffer layer
  have lowest : 0 < layer.index := by cases layer <;> decide
  have highest : ¬ 7 < layer.index := by cases layer <;> decide
  constructor
  case own =>
    intro i
    show (if i.1 < layer.index then (⟨address, 0⟩ : Iterator) else ⟨address, buffer.length⟩).owner = address
    split_ifs <;> rfl
  case front => exact (position 0).trans (if_pos lowest)
  case ordered =>
    intro i j le
    rw [position, position]
    split_ifs <;> omega
  case within =>
    exact ((position 7).trans (if_neg highest)).le

theorem construct_last (address : ℕ) (buffer : ByteBuffer) (layer : OsiLayer) :
    (construct address buffer layer).boundary 7 = buffer.length := by
  have highest : ¬ min 7 7 < layer.index := by cases layer <;> decide
  rw [construct_boundary, if_neg highest]

section Copies

variable {other : Cohesive} {source : ℕ}

/-- The loop of `rebuild_iterators` comes to the positions of the other packet. -/
theorem rebuilt_eq (layered : other.Layered source) (address i : ℕ) (below : i < 8) :
    rebuilt address other.iterators i below = ⟨address, other.boundary i⟩ := by
  induction i with
  | zero =>
    rw [layered.front]
    rfl
  | succ i ih =>
    have place (j : ℕ) (small : j < 8) : (other.iterators ⟨j, small⟩).position = other.boundary j := by
      unfold boundary
      congr 2
      exact Fin.ext (by dsimp only; omega)
    have ordered : other.boundary i ≤ other.boundary (i + 1) := layered.ordered i.le_succ
    unfold rebuilt
    rw [ih (Nat.lt_of_succ_lt below)]
    unfold Iterator.advance Iterator.distance
    rw [place, place]
    dsimp only
    congr 1
    omega

/-- **`rebuild_iterators`** of a packet whose buffer is a copy. -/
theorem rebuildIterators_layered (layered : other.Layered source) (address : ℕ) (copy : Cohesive)
    (buffer : copy.buffer = other.buffer) (rebuild : copy.iterators = rebuildIterators address other) :
    copy.Layered address ∧ copy.get = other.get ∧ copy.boundary = other.boundary := by
  have same : copy.boundary = other.boundary := by
    funext i
    have below : min i 7 < 8 := by omega
    calc
      copy.boundary i = (rebuildIterators address other ⟨min i 7, below⟩).position := by
        unfold boundary
        rw [rebuild]
      _ = other.boundary (min i 7) := by
        show (rebuilt address other.iterators (min i 7) below).position = _
        rw [rebuilt_eq layered]
      _ = other.boundary i := (boundary_saturate i).symm
  refine ⟨⟨?_, ?_, same ▸ layered.ordered, ?_⟩, ?_, same⟩
  · intro i
    rw [rebuild]
    exact congrArg Iterator.owner (rebuilt_eq layered address i.1 i.2)
  · rw [same, layered.front]
  · rw [same, buffer]
    exact layered.within
  · funext layer
    rw [get_eq, get_eq, same, buffer]

theorem copyConstruct_layered (layered : other.Layered source) (address : ℕ) :
    (copyConstruct address other).Layered address ∧ (copyConstruct address other).get = other.get ∧
      (copyConstruct address other).boundary = other.boundary :=
  rebuildIterators_layered layered address _ rfl rfl

theorem assign_layered (layered : other.Layered source) (target : Cohesive) (address : ℕ) :
    (target.assign address other).Layered address ∧ (target.assign address other).get = other.get ∧
      (target.assign address other).boundary = other.boundary :=
  rebuildIterators_layered layered address _ rfl rfl

end Copies

/-! ### Boundaries that are moved -/

theorem exists_setBoundary {layer : OsiLayer} {bytes : ℕ} (enough : bytes ≤ packet.sizeLayer layer) :
    ∃ after, packet.setBoundary layer bytes = some after :=
  ⟨_, if_pos enough⟩

theorem setBoundary_enough {layer : OsiLayer} {bytes : ℕ} {after : Cohesive}
    (moved : packet.setBoundary layer bytes = some after) : bytes ≤ packet.sizeLayer layer := by
  unfold setBoundary at moved
  split_ifs at moved with enough
  exact enough

/-- **`set_boundary` moves one boundary.** -/
theorem setBoundary_spec (layered : packet.Layered address) {layer : OsiLayer} {bytes : ℕ}
    {after : Cohesive} (moved : packet.setBoundary layer bytes = some after) :
    bytes ≤ packet.boundary layer.index - packet.boundary (layer.index - 1) ∧
      after.buffer = packet.buffer ∧ (∀ i, (after.iterators i).owner = address) ∧
        ∀ i, after.boundary i =
          if min i 7 = layer.index then packet.boundary (layer.index - 1) + bytes else packet.boundary i := by
  have enough := setBoundary_enough moved
  obtain rfl := Option.some.inj ((if_pos enough).symm.trans moved)
  rw [sizeLayer, sizeRange_eq] at enough
  refine ⟨enough, rfl, ?_, ?_⟩
  · intro i
    dsimp only
    rw [Function.update_apply]
    split_ifs
    · exact layered.own layer.lower
    · exact layered.own i
  · intro i
    unfold boundary
    dsimp only
    rw [Function.update_apply]
    by_cases place : min i 7 = layer.index
    · rw [if_pos (Fin.ext place), if_pos place, ← boundary, ← lower_position]
      unfold Iterator.advance
      dsimp only
      omega
    · rw [if_neg fun same => place (congrArg Fin.val same), if_neg place]

theorem setBoundary_layered (layered : packet.Layered address) {layer : OsiLayer} {bytes : ℕ}
    {after : Cohesive} (moved : packet.setBoundary layer bytes = some after) :
    after.Layered address := by
  obtain ⟨enough, buffer, own, position⟩ := setBoundary_spec layered moved
  have lowest : 0 < layer.index := by cases layer <;> decide
  have le : packet.boundary (layer.index - 1) ≤ packet.boundary layer.index :=
    layered.ordered (Nat.sub_le _ 1)
  constructor
  case own => exact own
  case front =>
    rw [position, if_neg (by omega)]
    exact layered.front
  case ordered =>
    intro i j before
    rw [position, position]
    have upTo (k : ℕ) (small : min k 7 < layer.index) :
        packet.boundary k ≤ packet.boundary (layer.index - 1) := by
      rw [boundary_saturate]
      exact layered.ordered (by omega)
    have beyond (k : ℕ) (large : layer.index ≤ min k 7) :
        packet.boundary layer.index ≤ packet.boundary k := by
      rw [@boundary_saturate packet k]
      exact layered.ordered large
    split_ifs with left right right
    · exact le_rfl
    · have above := beyond j (by omega)
      omega
    · have below := upTo i (by omega)
      omega
    · exact layered.ordered before
  case within =>
    rw [position, buffer]
    have last := layered.boundary_le layer.index
    split_ifs
    · omega
    · exact layered.within

/-- The last boundary moves with the highest layer only. -/
theorem setBoundary_last (layered : packet.Layered address) {layer : OsiLayer} {bytes : ℕ}
    {after : Cohesive} (moved : packet.setBoundary layer bytes = some after)
    (kept : layer = .application → bytes = packet.sizeLayer .application) :
    after.boundary 7 = packet.boundary 7 := by
  obtain ⟨_, _, _, position⟩ := setBoundary_spec layered moved
  rw [position]
  by_cases highest : layer = .application
  · subst highest
    have size := kept rfl
    rw [sizeLayer, sizeRange_eq] at size
    have le : packet.boundary 6 ≤ packet.boundary 7 := layered.ordered (by decide)
    have place : min 7 7 = OsiLayer.application.index := rfl
    rw [if_pos place, size]
    exact Nat.add_sub_of_le le
  · rw [if_neg]
    cases layer <;> first | decide | exact absurd rfl highest

/-- The loop of `trim` clamps each iterator by itself. -/
theorem foldl_clamp (iterators : Fin 8 → Iterator) (idxs : List (Fin 8)) :
    idxs.foldl clamp iterators = fun i =>
      if i ∈ idxs ∧ (iterators i).position > (iterators 7).position then iterators 7 else iterators i := by
  induction idxs generalizing iterators with
  | nil => simp
  | cons idx idxs ih =>
    have last : clamp iterators idx 7 = iterators 7 := by
      unfold clamp
      split_ifs with beyond
      · by_cases same : 7 = idx
        · rw [same, Function.update_self]
        · rw [Function.update_of_ne same]
      · rfl
    rw [List.foldl_cons, ih, last]
    funext i
    by_cases same : i = idx
    · subst same
      by_cases beyond : (iterators i).position > (iterators 7).position
      · simp [clamp, beyond]
      · simp [clamp, beyond]
    · have other : clamp iterators idx i = iterators i := by
        unfold clamp
        split_ifs
        · rw [Function.update_of_ne same]
        · rfl
      simp [other, same]

/-- What is left of a packet that is too long. -/
theorem cut_spec (layered : packet.Layered address) {first : OsiLayer} {bytes : ℕ}
    (long : packet.boundary (first.index - 1) + bytes < packet.boundary 7) :
    ∃ after, packet.cut first bytes = some after ∧ after.buffer = packet.buffer ∧
      (∀ i, (after.iterators i).owner = address) ∧
        ∀ i, after.boundary i = min (packet.boundary i) (packet.boundary (first.index - 1) + bytes) := by
  let limit := (packet.iterators first.lower).advance bytes
  have limit_position : limit.position = packet.boundary (first.index - 1) + bytes := by
    rw [← lower_position]
    show ((packet.iterators first.lower).position + (bytes : ℤ)).toNat = _
    omega
  let iterators := Function.update packet.iterators 7 limit
  have zero : (iterators 0).position = 0 := layered.front
  have some : packet.cut first bytes = _ := if_pos (by show (iterators 7).position ≥ (iterators 0).position; omega)
  refine ⟨_, some, rfl, ?_, ?_⟩
  · intro i
    show (List.foldl clamp iterators _ i).owner = address
    rw [foldl_clamp]
    have own (j : Fin 8) : (iterators j).owner = address := by
      show (Function.update packet.iterators 7 limit j).owner = address
      rw [Function.update_apply]
      split_ifs
      · exact layered.own first.lower
      · exact layered.own j
    dsimp only
    split_ifs
    · exact own 7
    · exact own i
  · intro i
    show (List.foldl clamp iterators _ ⟨min i 7, _⟩).position = _
    rw [foldl_clamp]
    have last : iterators 7 = limit := Function.update_self ..
    let k : Fin 8 := ⟨min i 7, by omega⟩
    show (if k ∈ _ ∧ (iterators k).position > (iterators 7).position then iterators 7
      else iterators k).position = _
    have member : k ∈ (List.finRange 8).filter (fun idx => first.lower ≤ idx ∧ idx < 7) ↔
        first.lower ≤ k ∧ k < 7 := by
      simp
    rw [last, limit_position]
    by_cases highest : min i 7 = 7
    · have idx : k = 7 := Fin.ext highest
      rw [if_neg fun inside => ((member.mp inside.1).2.ne idx), idx, last, limit_position,
        boundary_saturate i, highest, min_eq_right long.le]
    · have other : iterators k = packet.iterators k :=
        Function.update_of_ne (fun same => highest (congrArg Fin.val same)) ..
      have position : (packet.iterators k).position = packet.boundary i := rfl
      have below : k < 7 := Fin.lt_def.mpr (show min i 7 < 7 by omega)
      rw [other, position]
      by_cases inside : first.lower ≤ k
      · by_cases beyond : packet.boundary i > packet.boundary (first.index - 1) + bytes
        · rw [if_pos ⟨member.mpr ⟨inside, below⟩, beyond⟩, limit_position,
            min_eq_right beyond.le]
        · rw [if_neg fun inside => beyond inside.2, position, min_eq_left (not_lt.mp beyond)]
      · rw [if_neg fun clamped => inside (member.mp clamped.1).1, position, min_eq_left]
        have before : min i 7 < first.index - 1 := Fin.lt_def.mp (not_le.mp inside)
        calc
          packet.boundary i = packet.boundary (min i 7) := boundary_saturate i
          _ ≤ packet.boundary (first.index - 1) := layered.ordered before.le
          _ ≤ packet.boundary (first.index - 1) + bytes := Nat.le_add_right ..

/-- **`trim` limits every boundary**, and its assertions hold. -/
theorem trim_spec (layered : packet.Layered address) (first : OsiLayer) (bytes : ℕ) :
    ∃ after, packet.trim first bytes = some after ∧ after.buffer = packet.buffer ∧
      (∀ i, (after.iterators i).owner = address) ∧
        ∀ i, after.boundary i = min (packet.boundary i) (packet.boundary (first.index - 1) + bytes) := by
  have size : packet.sizeRange first .application = packet.boundary 7 - packet.boundary (first.index - 1) :=
    sizeRange_eq first .application
  unfold trim
  by_cases long : packet.sizeRange first .application > bytes
  · rw [size] at long
    obtain ⟨after, done, buffer, own, position⟩ := cut_spec layered (Nat.add_lt_of_lt_sub' long)
    refine ⟨after, ?_, buffer, own, position⟩
    rw [if_pos (by rw [size]; exact long), done, Option.filter_some, if_pos]
    rw [decide_eq_true_iff, sizeRange_eq, position, position]
    show min (packet.boundary 7) _ - _ ≤ bytes
    omega
  · refine ⟨packet, ?_, rfl, layered.own, fun i => ?_⟩
    · rw [if_neg long, Option.filter_some, if_pos (decide_eq_true (not_lt.mp long))]
    · have last : packet.boundary i ≤ packet.boundary 7 := by
        rw [boundary_saturate]
        exact layered.ordered (Nat.min_le_right i 7)
      omega

theorem trim_layered (layered : packet.Layered address) {first : OsiLayer} {bytes : ℕ} {after : Cohesive}
    (trimmed : packet.trim first bytes = some after) :
    after.Layered address ∧ after.buffer = packet.buffer := by
  obtain ⟨result, done, buffer, own, position⟩ := trim_spec layered first bytes
  obtain rfl : after = result := Option.some.inj (trimmed.symm.trans done)
  refine ⟨⟨own, ?_, ?_, ?_⟩, buffer⟩
  · rw [position, layered.front, Nat.zero_min]
  · rw [show after.boundary = _ from funext position]
    exact layered.ordered.min monotone_const
  · rw [position, buffer]
    exact (min_le_left _ _).trans layered.within

theorem trim_isSome (layered : packet.Layered address) (first : OsiLayer) (bytes : ℕ) :
    (packet.trim first bytes).isSome = true := by
  obtain ⟨after, done, _⟩ := trim_spec layered first bytes
  rw [done]
  rfl

/-! ### The layers, as the router sees them -/

/-- **The boundary above the network layer**, as a change of the layers. -/
theorem setBoundary_toPacket (layered : packet.Layered address) {bytes : ℕ} {after : Cohesive}
    (moved : packet.setBoundary .network bytes = some after) :
    packet.toPacket.setBoundary bytes = some after.toPacket := by
  obtain ⟨enough, buffer, _, position⟩ := setBoundary_spec layered moved
  have size : bytes ≤ (packet.toPacket.layer .network).length :=
    enough.trans (layered.length_get .network).ge
  have ordered : packet.boundary 2 + bytes ≤ packet.boundary 3 := by
    have le : packet.boundary 2 ≤ packet.boundary 3 := layered.ordered (by decide)
    have room : bytes ≤ packet.boundary 3 - packet.boundary 2 := enough
    omega
  have moved : after.boundary 3 = packet.boundary 2 + bytes := position 3
  have second : after.boundary 2 = packet.boundary 2 := position 2
  have fourth : after.boundary 4 = packet.boundary 4 := position 4
  unfold CohesivePacket.setBoundary
  rw [if_pos size]
  refine congrArg some (congrArg CohesivePacket.mk (funext fun layer => ?_))
  show _ = after.get layer
  cases layer with
  | network =>
    show (packet.get .network).take bytes = _
    rw [get_eq, get_eq, buffer]
    show (packet.buffer.extract (packet.boundary 2) (packet.boundary 3)).take bytes =
      packet.buffer.extract (after.boundary 2) (after.boundary 3)
    rw [take_extract _ _ _ _ (packet.boundary 2 + bytes) (by omega), second, moved,
      min_eq_left (Nat.le_add_right ..), min_eq_right ordered]
  | transport =>
    show (packet.get .network).drop bytes ++ packet.get .transport = _
    rw [get_eq, get_eq, get_eq, buffer]
    show (packet.buffer.extract (packet.boundary 2) (packet.boundary 3)).drop bytes ++
        packet.buffer.extract (packet.boundary 3) (packet.boundary 4) =
      packet.buffer.extract (after.boundary 3) (after.boundary 4)
    rw [drop_extract, moved, fourth, extract_append _ ordered (layered.ordered (by decide))]
  | _ =>
    show packet.get _ = _
    rw [get_eq, get_eq, buffer, position, position]
    rfl

/-- **A limit of the bytes from the transport layer on**, as a change of the layers. -/
theorem trim_toPacket (layered : packet.Layered address) (bytes : ℕ) :
    (packet.trim .transport bytes).map toPacket = some (packet.toPacket.trim bytes) := by
  obtain ⟨after, done, buffer, _, position⟩ := trim_spec layered .transport bytes
  rw [done, Option.map_some]
  refine congrArg some (congrArg CohesivePacket.mk (funext fun layer => ?_))
  have start : packet.boundary (OsiLayer.transport.index - 1) = packet.boundary 3 := rfl
  show after.get layer = if layer.index < OsiLayer.transport.index then packet.get layer
    else (packet.get layer).take (bytes - packet.toPacket.below layer)
  rw [get_eq, get_eq, buffer, position, position, start]
  by_cases lower : layer.index < OsiLayer.transport.index
  · have small : layer.index < 4 := lower
    rw [if_pos lower, min_eq_left, min_eq_left]
    · exact (layered.ordered (by omega)).trans (Nat.le_add_right ..)
    · exact (layered.ordered (by omega)).trans (Nat.le_add_right ..)
  · have large : 4 ≤ layer.index := not_lt.mp lower
    have before : packet.toPacket.below layer = packet.boundary (layer.index - 1) - packet.boundary 3 := by
      have places : ((osiLayerRange .transport .application).filter fun below =>
          below.index < layer.index).map (fun below => below.index - 1) = List.Ico 3 (layer.index - 1) := by
        cases layer <;> rfl
      rw [← sum_segments layered.ordered, ← places, List.map_map]
      exact congrArg List.sum (List.map_congr_left fun below _ => layered.length_get below)
    have le : packet.boundary 3 ≤ packet.boundary (layer.index - 1) := layered.ordered (by omega)
    rw [if_neg lower, before, take_extract _ _ _ _ (packet.boundary 3 + bytes) (by omega)]

end Cohesive

open Cohesive

/-! ### Any number of packets -/

/-- A packet, with the buffer it was made from and whether its end was cut. -/
structure Held where
  packet : Cohesive
  original : ByteBuffer
  shortened : Bool

inductive PacketAction
  | construct (buffer : ByteBuffer) (layer : OsiLayer)
  | setBoundary (id : ℕ) (layer : OsiLayer) (bytes : ℕ)
  | trim (id : ℕ) (first : OsiLayer) (bytes : ℕ)
  | copy (source : ℕ)
  | assign (target source : ℕ)

/-- The operation is a call of `trim`. -/
def PacketAction.trims : PacketAction → Bool
  | .trim .. => true
  | _ => false

/-- **An operation on one of the packets.** The address of a packet is its place in the list. -/
def packetStep (held : List Held) : PacketAction → Option (List Held)
  | .construct buffer layer => some (held ++ [⟨.construct held.length buffer layer, buffer, false⟩])
  | .setBoundary id layer bytes => do
    let one ← held[id]?
    let packet ← one.packet.setBoundary layer bytes
    let shortened := layer = .application ∧ bytes < one.packet.sizeLayer layer
    some (held.set id { one with packet := packet, shortened := one.shortened || shortened })
  | .trim id first bytes => do
    let one ← held[id]?
    let packet ← one.packet.trim first bytes
    some (held.set id { one with packet := packet, shortened := true })
  | .copy source => do
    let one ← held[source]?
    some (held ++ [{ one with packet := copyConstruct held.length one.packet }])
  | .assign target source => do
    let destination ← held[target]?
    let one ← held[source]?
    some (held.set target { one with packet := destination.packet.assign target one.packet })

/-- **A packet at its address.** -/
structure Held.Sound (one : Held) (address : ℕ) : Prop where
  layered : one.packet.Layered address
  buffer : one.packet.buffer = one.original
  whole : one.shortened = false → one.packet.boundary 7 = one.packet.buffer.length

/-- Every packet is sound. -/
def SoundPackets (held : List Held) : Prop :=
  ∀ (id : ℕ) (one : Held), held[id]? = some one → one.Sound id

variable {held : List Held}

theorem SoundPackets.append (sound : SoundPackets held) {one : Held} (fresh : one.Sound held.length) :
    SoundPackets (held ++ [one]) := by
  intro id other found
  rcases lt_or_ge id held.length with old | new
  · rw [List.getElem?_append_left old] at found
    exact sound id other found
  · rw [List.getElem?_append_right new, List.getElem?_singleton] at found
    split_ifs at found with zero
    obtain rfl := Option.some.inj found
    rwa [show id = held.length by omega]

theorem SoundPackets.set (sound : SoundPackets held) {target : ℕ} {one : Held} (fresh : one.Sound target) :
    SoundPackets (held.set target one) := by
  intro id other found
  rw [List.getElem?_set] at found
  split_ifs at found with same inside
  · obtain rfl := Option.some.inj found
    exact same ▸ fresh
  · exact sound id other found

/-- **Every operation** keeps the packets sound. -/
theorem packetStep_sound (sound : SoundPackets held) {action : PacketAction} {after : List Held}
    (taken : packetStep held action = some after) : SoundPackets after := by
  cases action with
  | construct buffer layer =>
    obtain rfl := Option.some.inj taken
    exact sound.append ⟨construct_layered _ buffer layer, rfl, fun _ => construct_last _ buffer layer⟩
  | setBoundary id layer bytes =>
    obtain ⟨one, found, taken⟩ := Option.bind_eq_some_iff.mp taken
    obtain ⟨packet, moved, taken⟩ := Option.bind_eq_some_iff.mp taken
    obtain rfl := Option.some.inj taken
    obtain ⟨layered, buffer, whole⟩ := sound id one found
    have same : packet.buffer = one.packet.buffer := (setBoundary_spec layered moved).2.1
    refine sound.set ⟨setBoundary_layered layered moved, same.trans buffer, fun kept => ?_⟩
    obtain ⟨before, notCut⟩ := Bool.or_eq_false_iff.mp kept
    have enough := setBoundary_enough moved
    rw [setBoundary_last layered moved, same, whole before]
    rintro rfl
    exact le_antisymm enough (not_lt.mp fun less => of_decide_eq_false notCut ⟨rfl, less⟩)
  | trim id first bytes =>
    obtain ⟨one, found, taken⟩ := Option.bind_eq_some_iff.mp taken
    obtain ⟨packet, trimmed, taken⟩ := Option.bind_eq_some_iff.mp taken
    obtain rfl := Option.some.inj taken
    obtain ⟨layered, buffer, _⟩ := sound id one found
    obtain ⟨kept, same⟩ := trim_layered layered trimmed
    exact sound.set ⟨kept, same.trans buffer, nofun⟩
  | copy source =>
    obtain ⟨one, found, taken⟩ := Option.bind_eq_some_iff.mp taken
    obtain rfl := Option.some.inj taken
    obtain ⟨layered, buffer, whole⟩ := sound source one found
    obtain ⟨copied, _, same⟩ := copyConstruct_layered layered held.length
    exact sound.append ⟨copied, buffer, fun kept => (congrFun same 7).trans (whole kept)⟩
  | assign target source =>
    obtain ⟨destination, _, taken⟩ := Option.bind_eq_some_iff.mp taken
    obtain ⟨one, found, taken⟩ := Option.bind_eq_some_iff.mp taken
    obtain rfl := Option.some.inj taken
    obtain ⟨layered, buffer, whole⟩ := sound source one found
    obtain ⟨copied, _, same⟩ := assign_layered layered destination.packet target
    exact sound.set ⟨copied, buffer, fun kept => (congrFun same 7).trans (whole kept)⟩

theorem soundPackets (reached : Reachable (· = []) packetStep held) : SoundPackets held := by
  refine GuardedReach.invariant ?_ ?_ held reached
  · rintro _ rfl id one found
    cases found
  · intro before action after _ sound _ taken
    exact packetStep_sound sound taken

/-- **The layering of packets.** After any operations on any number of packets, the boundaries of each
of them are positions in its own buffer that do not decrease, its layers together are a prefix of the
buffer it was made from, and the whole buffer if its end was not cut; a copy has the same layers, in a
buffer of its own. -/
theorem packet_layering (held : List Held) (reached : Reachable (· = []) packetStep held) (id : ℕ)
    (one : Held) (found : held[id]? = some one) :
    one.packet.Layered id ∧ one.packet.contents <+: one.original ∧
      (one.shortened = false → one.packet.contents = one.original) ∧
      (∀ first last, one.packet.sizeRange first last = one.packet.toPacket.sizeRange first last) ∧
      (∀ first bytes, (one.packet.trim first bytes).isSome = true) ∧
      (∀ address, (copyConstruct address one.packet).Layered address ∧
        (copyConstruct address one.packet).get = one.packet.get) ∧
      ∀ (target : Cohesive) address, (target.assign address one.packet).Layered address ∧
        (target.assign address one.packet).get = one.packet.get := by
  obtain ⟨layered, buffer, whole⟩ := soundPackets reached id one found
  have copies (address : ℕ) := copyConstruct_layered layered address
  have assigned (target : Cohesive) (address : ℕ) := assign_layered layered target address
  refine ⟨layered, ?_, ?_, layered.sizeRange_toPacket, trim_isSome layered,
    fun address => ⟨(copies address).1, (copies address).2.1⟩,
    fun target address => ⟨(assigned target address).1, (assigned target address).2.1⟩⟩
  · rw [layered.contents_eq, ← buffer]
    exact List.take_prefix ..
  · intro kept
    rw [layered.contents_eq, whole kept, List.take_length, buffer]

/-- A packet that is made, copied, and changed. -/
theorem packet_layering_changed : ∃ (held : List Held) (one : Held), held[1]? = some one ∧
    one.packet.Layered 1 ∧ one.packet.contents <+: one.original := by
  let actions : List PacketAction := [.construct [1, 2, 3] .physical, .setBoundary 0 .physical 1, .copy 0,
    .trim 1 .physical 2]
  obtain ⟨held, reached, long⟩ := run_reach (· = []) packetStep (fun _ _ => True)
    (fun held => held.length = 2) rfl actions (by decide)
  have inside : 1 < held.length := by omega
  obtain ⟨layered, contents, _⟩ := packet_layering held reached 1 held[1] (List.getElem?_eq_getElem inside)
  exact ⟨held, held[1], List.getElem?_eq_getElem inside, layered, contents⟩

/-- **A packet may lose bytes without being trimmed**: there is no layer above the highest one. -/
theorem not_whole_untrimmed : ¬ ∀ held : List Held,
    GuardedReach (· = []) packetStep (fun _ action => action.trims = false) held →
      ∀ one ∈ held, one.packet.contents = one.original := by
  intro whole
  let actions : List PacketAction := [.construct [1] .application, .setBoundary 0 .application 0]
  obtain ⟨held, reached, one, member, differ⟩ := run_reach (· = []) packetStep
    (fun _ action => action.trims = false) (fun held => ∃ one ∈ held, one.packet.contents ≠ one.original)
    rfl actions (by decide)
  exact differ (whole held reached one member)

end Vanet.Net
