/-
**What a router remembers of packets**: the sequence numbers of a source (`DuplicatePacketList`) and
the GeoBroadcast packets that it has passed up (`GbcMemory`).
-/

import Vanet.Library.CircularBuffer
import Vanet.Geonet.PositionVector

namespace Vanet.Geonet

open Vanet.Library

abbrev SequenceNumber := UInt16

/-- `CbfPacketIdentifier`: the address of the source and the sequence number. -/
structure PacketIdentifier where
  source : Address
  sequenceNumber : SequenceNumber
  deriving DecidableEq

/-! ### The sequence numbers of a source -/

structure ListElement where
  sequenceNumber : SequenceNumber
  counter : UInt32
  deriving DecidableEq

/-- The circular buffer of a source. -/
structure DuplicatePacketList where
  elements : CircularBuffer ListElement
  deriving DecidableEq

namespace DuplicatePacketList

/-- The list that is constructed for a number of elements. -/
def empty (elements : ℕ) : DuplicatePacketList := ⟨.empty elements⟩

/-- The elements with the counter of the first one of a sequence number incremented. -/
def increment (sn : SequenceNumber) : List ListElement → List ListElement
  | [] => []
  | element :: rest =>
    if element.sequenceNumber = sn then { element with counter := element.counter + 1 } :: rest
    else element :: increment sn rest

theorem length_increment (sn : SequenceNumber) (elements : List ListElement) :
    (increment sn elements).length = elements.length := by
  induction elements with
  | nil => rfl
  | cons element rest ih =>
    unfold increment
    split
    · rfl
    · rw [List.length_cons, List.length_cons, ih]

/-- An incremented counter changes no sequence number. -/
theorem sequenceNumbers_increment (sn : SequenceNumber) (elements : List ListElement) :
    (increment sn elements).map ListElement.sequenceNumber =
      elements.map ListElement.sequenceNumber := by
  induction elements with
  | nil => rfl
  | cons element rest ih =>
    unfold increment
    split
    · rfl
    · rw [List.map_cons, List.map_cons, ih]

/-- `check`: whether the sequence number is a duplicate; it is in the list afterwards. -/
def check (list : DuplicatePacketList) (sn : SequenceNumber) : Bool × DuplicatePacketList :=
  if list.elements.items.any fun element => element.sequenceNumber = sn then
    (true, { elements :=
      { list.elements with
        items := increment sn list.elements.items
        bounded := (length_increment sn _).le.trans list.elements.bounded } })
  else (false, ⟨list.elements.push ⟨sn, 1⟩⟩)

def counter (list : DuplicatePacketList) (sn : SequenceNumber) : UInt32 :=
  ((list.elements.items.find? fun element => element.sequenceNumber = sn).map
    ListElement.counter).getD 0

end DuplicatePacketList

/-! ### The packets that have been passed up -/

/-- The identifiers, the least recently seen first. -/
structure GbcMemory where
  capacity : ℕ
  identifiers : List PacketIdentifier
  deriving DecidableEq

namespace GbcMemory

def initial : GbcMemory := ⟨1, []⟩

/-- `capacity`: at least one identifier is kept, excessive ones go. -/
def setCapacity (memory : GbcMemory) (num : ℕ) : GbcMemory :=
  let capacity := if num < 1 then 1 else num
  ⟨capacity, memory.identifiers.drop (memory.identifiers.length - capacity)⟩

/-- `remember`: whether the packet is known; it is the most recently seen one afterwards. -/
def remember (memory : GbcMemory) (id : PacketIdentifier) : Bool × GbcMemory :=
  if id ∈ memory.identifiers then
    (true, { memory with identifiers := memory.identifiers.erase id ++ [id] })
  else
    -- space is made for one identifier
    let surplus := memory.identifiers.length + 1 - memory.capacity
    (false, { memory with identifiers := memory.identifiers.drop surplus ++ [id] })

def knows (memory : GbcMemory) (id : PacketIdentifier) : Bool := id ∈ memory.identifiers

end GbcMemory

end Vanet.Geonet
