/-
**GeoNetworking addresses, timestamps and position vectors.**

A timestamp counts milliseconds modulo `2^32`, and the comparison of two timestamps takes the shorter
way round. It is no order on all timestamps, but on those of a window shorter than `2^31` it compares
how far they lie behind the start of the window (`Timestamp.before_iff`).
-/

import Vanet.Net.Packet

namespace Vanet.Geonet

open Vanet.Net

/-- `StationType` and country code are the 5 and 10 bits that the address has for them. -/
structure Address where
  isManuallyConfigured : Bool
  stationType : BitVec 5
  countryCode : BitVec 10
  mid : MacAddress
  deriving DecidableEq

/-! ### Timestamps -/

structure Timestamp where
  raw : UInt32
  deriving DecidableEq

namespace Timestamp

/-- The timestamp of a time point, in milliseconds. -/
def ofTimePoint (now : ℤ) : Timestamp := ⟨UInt32.ofInt (now.tdiv 1000)⟩

/-- `is_greater`, with `max/2` of 32 bits. -/
def isGreater (lhs rhs : Timestamp) : Bool :=
  (lhs.raw > rhs.raw ∧ lhs.raw - rhs.raw ≤ 2147483647) ∨
    (rhs.raw > lhs.raw ∧ rhs.raw - lhs.raw > 2147483647)

/-- `operator<`. -/
def before (lhs rhs : Timestamp) : Bool := !lhs.isGreater rhs ∧ lhs ≠ rhs

/-- How far a timestamp lies behind another one. -/
def since (timestamp base : Timestamp) : ℕ := (timestamp.raw - base.raw).toNat

/-- **In a window shorter than `2^31` the comparison is that of the distances from its start.** -/
theorem before_iff {base lhs rhs : Timestamp} (left : lhs.since base < 2147483648)
    (right : rhs.since base < 2147483648) :
    lhs.before rhs = true ↔ lhs.since base < rhs.since base := by
  obtain ⟨lhs⟩ := lhs
  obtain ⟨rhs⟩ := rhs
  obtain ⟨base⟩ := base
  have leftBound := lhs.toNat_lt
  have rightBound := rhs.toNat_lt
  have baseBound := base.toNat_lt
  unfold since at left right ⊢
  unfold before isGreater
  simp only [UInt32.toNat_sub] at left right
  simp only [ne_eq, mk.injEq, ← UInt32.toNat_inj, gt_iff_lt, UInt32.lt_iff_toNat_lt,
    UInt32.le_iff_toNat_le, UInt32.toNat_sub, Bool.decide_and, Bool.and_eq_true, Bool.not_eq_true',
    decide_eq_true_eq, decide_eq_false_iff_not, UInt32.reduceToNat]
  omega

end Timestamp

/-! ### Position vectors -/

/-- Latitude and longitude count tenths of a microdegree, the speed centimetres per second and the
heading tenths of a degree. -/
structure LongPositionVector where
  gnAddr : Address
  timestamp : Timestamp
  latitude : Int32
  longitude : Int32
  positionAccuracyIndicator : Bool
  speed : BitVec 15
  heading : UInt16
  deriving DecidableEq

structure GeodeticPosition where
  latitude : Int32
  longitude : Int32
  deriving DecidableEq

namespace LongPositionVector

/-- The vector that is constructed, with all data elements zero. -/
def zero : LongPositionVector where
  gnAddr := ⟨false, 0, 0, ⟨[0, 0, 0, 0, 0, 0], rfl⟩⟩
  timestamp := ⟨0⟩
  latitude := 0
  longitude := 0
  positionAccuracyIndicator := false
  speed := 0
  heading := 0

def isEmpty (pv : LongPositionVector) : Bool := pv = zero

/-- Not empty, and latitude, longitude and heading are within their ranges. -/
def isValid (pv : LongPositionVector) : Bool :=
  !(pv.isEmpty ∨ pv.latitude < -900000000 ∨ pv.latitude > 900000000 ∨
    pv.longitude < -1800000000 ∨ pv.longitude > 1800000000 ∨ pv.heading > 3600)

def position (pv : LongPositionVector) : GeodeticPosition := ⟨pv.latitude, pv.longitude⟩

end LongPositionVector

end Vanet.Geonet
