/-
**The location table.**

An entry keeps the newest position vector of a station, its packet data rate, whether it is a direct
neighbour, and extensions. The entries are soft state, under the MAC part of the station's address.
The position vector is `none` until one has been set. Packet data rates are exact here; `none` is the
quiet NaN of an entry that has no rate yet.
-/

import Mathlib.Data.Rat.Defs
import Mathlib.Algebra.Order.Ring.Rat
import Vanet.Geonet.PacketLists
import Vanet.Geonet.SoftStateMap

namespace Vanet.Geonet

open Vanet.Net Vanet.Library

/-- `Clock::time_point::min()` and `Clock::time_point::max()`. -/
def timePointMin : ℤ := -9223372036854775808
def timePointMax : ℤ := 9223372036854775807

structure DccMcoField where
  cbrL0Hop : UInt8
  cbrL1Hop : UInt8
  outputPower : BitVec 5
  deriving DecidableEq

/-- `LocTEX_G5`, the extension for ITS-G5. -/
structure LocTexG5 where
  localUpdate : Timestamp
  sourceUpdate : Timestamp
  dccMco : DccMcoField
  deriving DecidableEq

/-- The objects that an `ObjectContainer` holds for an entry. -/
structure Extensions where
  duplicatePacketList : Option DuplicatePacketList
  locTexG5 : Option LocTexG5
  deriving DecidableEq

structure LocationTableEntry where
  isNeighbourUntil : ℤ
  positionVector : Option LongPositionVector
  pdr : Option ℚ
  pdrUpdate : ℤ
  extensions : Extensions
  deriving DecidableEq

namespace LocationTableEntry

/-- The entry that is constructed. -/
def create (now : ℤ) : LocationTableEntry := ⟨timePointMin, none, none, now, ⟨none, none⟩⟩

def isNeighbour (entry : LocationTableEntry) (now : ℤ) : Bool := entry.isNeighbourUntil > now

def updatePdr (entry : LocationTableEntry) (now : ℤ) (packetSize : ℕ) (beta : ℚ) :
    LocationTableEntry :=
  match entry.pdr with
  | none => { entry with pdr := some 0, pdrUpdate := now }
  | some pdr =>
    if 0 < beta ∧ beta < 1 then
      let timePeriod : ℚ := (now - entry.pdrUpdate : ℤ) / 1000000
      if 0 < timePeriod then
        { entry with
          pdr := some (pdr * beta + (1 - beta) * (packetSize / timePeriod))
          pdrUpdate := now }
      else entry
    else entry

/-- `set_position_vector`: an invalid vector is not stored. -/
def setPositionVector (entry : LocationTableEntry) (pv : LongPositionVector) :
    Bool × LocationTableEntry :=
  if pv.isValid then (true, { entry with positionVector := some pv }) else (false, entry)

def updatePositionVector (entry : LocationTableEntry) (lpv : LongPositionVector) :
    Bool × LocationTableEntry :=
  match entry.positionVector with
  | some pv => if pv.timestamp.before lpv.timestamp then entry.setPositionVector lpv else (false, entry)
  | none => entry.setPositionVector lpv

def setNeighbour (entry : LocationTableEntry) (flag : Bool) : LocationTableEntry :=
  { entry with isNeighbourUntil := if flag then timePointMax else timePointMin }

/-- `set_neighbour` with an expiry. -/
def setNeighbourFor (entry : LocationTableEntry) (now : ℤ) (flag : Bool) (expiry : ℤ) :
    LocationTableEntry :=
  if flag ∧ expiry > 0 then { entry with isNeighbourUntil := now + expiry } else entry.setNeighbour flag

end LocationTableEntry

abbrev LocationTable := SoftStateMap MacAddress LocationTableEntry

namespace LocationTable

open SoftStateMap

/-- `get_position`. -/
def getPosition (table : LocationTable) (now : ℤ) (mac : MacAddress) : Option LongPositionVector :=
  (table.getValuePtr now mac).bind LocationTableEntry.positionVector

def hasNeighbours (table : LocationTable) (now : ℤ) : Bool :=
  (table.entries now).any fun entry => entry.2.isNeighbour now

/-- `neighbours()`. -/
def neighbours (table : LocationTable) (now : ℤ) : List LocationTableEntry :=
  ((table.entries now).map Prod.snd).filter fun entry => entry.isNeighbour now

def getOrCreateEntry (table : LocationTable) (now : ℤ) (mac : MacAddress) :
    LocationTableEntry × LocationTable :=
  table.getValue LocationTableEntry.create now mac

/-- `update`. The entry that is returned is the one under the vector's address. -/
def update (table : LocationTable) (now : ℤ) (lpv : LongPositionVector) : LocationTable :=
  let mac := lpv.gnAddr.mid
  let updated := fun entry : LocationTableEntry => (entry.updatePositionVector lpv).2
  match table.getValuePtr now mac with
  | some entry =>
    if entry.positionVector.isSome then
      let table := table.modify mac updated
      if (entry.updatePositionVector lpv).1 then
        (table.refresh LocationTableEntry.create now mac).2
      else table
    else (table.refresh LocationTableEntry.create now mac).2.modify mac updated
  | none => (table.refresh LocationTableEntry.create now mac).2.modify mac updated

end LocationTable

end Vanet.Geonet
