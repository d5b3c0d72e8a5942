/-
**The headers of GeoNetworking packets.**

An enumeration that is read from a packet without a check is the bits that it has there. Durations
count microseconds, and the lifetime's arithmetic is exact: where the source divides floating point
numbers, a quotient halfway between two multipliers may be rounded to the other one there.

`Lifetime.decode_encode_le`: a lifetime that is encoded anew for less time than it stood for does not
grow, whatever the base that is chosen.
-/

import Mathlib.Data.Int.Order.Basic
import Mathlib.Tactic.Linarith
import Vanet.Dcc.TransmitRateControl
import Vanet.Geonet.LocationTable

namespace Vanet.Geonet

open Vanet.Net

/-! ### Lifetime -/

/-- Two bits of base and six bits of multiplier. -/
structure Lifetime where
  raw : UInt8
  deriving DecidableEq

namespace Lifetime

inductive Base
  | fiftyMilliseconds
  | oneSecond
  | tenSeconds
  | hundredSeconds
  deriving DecidableEq

def Base.code : Base → ℕ
  | fiftyMilliseconds => 0
  | oneSecond => 1
  | tenSeconds => 2
  | hundredSeconds => 3

def Base.ofCode (code : ℕ) : Base :=
  match code with
  | 0 => fiftyMilliseconds
  | 1 => oneSecond
  | 2 => tenSeconds
  | _ => hundredSeconds

/-- The duration of one multiplier. -/
def Base.unit : Base → ℤ
  | fiftyMilliseconds => 50000
  | oneSecond => 1000000
  | tenSeconds => 10000000
  | hundredSeconds => 100000000

def base (lifetime : Lifetime) : Base := .ofCode (lifetime.raw.toNat % 4)

def multiplier (lifetime : Lifetime) : ℕ := lifetime.raw.toNat / 4

/-- `set`: the multiplier is a `BitNumber` of six bits. -/
def set (base : Base) (multiplier : ℤ) : Lifetime :=
  ⟨UInt8.ofNat ((multiplier % 64).toNat * 4 + base.code)⟩

def zero : Lifetime := set .fiftyMilliseconds 0

def decode (lifetime : Lifetime) : ℤ := lifetime.multiplier * lifetime.base.unit

/-- `std::lround` of a quotient: halves are rounded away from zero. -/
def lround (dividend divisor : ℤ) : ℤ :=
  if 0 ≤ dividend then (2 * dividend + divisor) / (2 * divisor)
  else -((2 * -dividend + divisor) / (2 * divisor))

/-- The base that `encode` chooses. -/
def Base.choose (duration : ℤ) : Base :=
  if duration ≥ 630000000 then hundredSeconds
  else if duration ≥ 63000000 then tenSeconds
  else if duration ≥ 3150000 then oneSecond
  else fiftyMilliseconds

/-- The quotient is exact, so that an exact half is rounded up. -/
def encode (duration : ℤ) : Lifetime :=
  let base := Base.choose duration
  set base (lround duration base.unit)

/-- `operator<`. -/
def before (lhs rhs : Lifetime) : Bool := lhs.decode < rhs.decode

theorem Base.unit_pos (base : Base) : 0 < base.unit := by cases base <;> decide

theorem Base.ofCode_code (base : Base) : Base.ofCode base.code = base := by cases base <;> rfl

theorem Base.code_lt (base : Base) : base.code < 4 := by cases base <;> decide

/-- A multiplier of six bits is read back. -/
theorem decode_set {base : Base} {multiplier : ℤ} (low : 0 ≤ multiplier) (high : multiplier < 64) :
    (set base multiplier).decode = multiplier * base.unit := by
  have code := base.code_lt
  have raw : (set base multiplier).raw.toNat = multiplier.toNat * 4 + base.code := by
    unfold set
    rw [Int.emod_eq_of_lt low high, UInt8.toNat_ofNat_of_lt']
    show multiplier.toNat * 4 + base.code < 256
    omega
  have times : (set base multiplier).multiplier = multiplier.toNat := by
    unfold Lifetime.multiplier
    rw [raw]
    omega
  have kept : (set base multiplier).base = base := by
    unfold Lifetime.base
    rw [raw, show (multiplier.toNat * 4 + base.code) % 4 = base.code by omega, Base.ofCode_code]
  unfold decode
  rw [times, kept, Int.toNat_of_nonneg low]

theorem decode_zero : zero.decode = 0 := rfl

theorem decode_nonneg (lifetime : Lifetime) : 0 ≤ lifetime.decode :=
  Int.mul_nonneg (Int.natCast_nonneg _) lifetime.base.unit_pos.le

theorem multiplier_lt (lifetime : Lifetime) : lifetime.multiplier < 64 := by
  have := lifetime.raw.toNat_lt
  unfold multiplier
  omega

/-- The multiplier that is encoded for less time than a lifetime stands for fits into six bits. -/
theorem decode_encode {lifetime : Lifetime} {duration : ℤ} (positive : 0 ≤ duration)
    (less : duration < lifetime.decode) :
    (encode duration).decode =
      lround duration (Base.choose duration).unit * (Base.choose duration).unit := by
  have short := lifetime.multiplier_lt
  unfold decode at less
  refine decode_set ?_ ?_
  all_goals
    unfold lround
    rw [if_pos positive]
  · have unit := (Base.choose duration).unit_pos
    exact Int.ediv_nonneg (by omega) (by omega)
  · cases base : lifetime.base
    all_goals
      rw [base] at less
      simp only [Base.unit] at less
      unfold Base.choose
      split_ifs
      all_goals
        simp only [Base.unit]
        omega

/-- **A lifetime that is encoded for less time than another one stands for is no longer than it.** -/
theorem decode_encode_le {lifetime : Lifetime} {duration : ℤ} (positive : 0 ≤ duration)
    (less : duration < lifetime.decode) : (encode duration).decode ≤ lifetime.decode := by
  rw [decode_encode positive less]
  have short := lifetime.multiplier_lt
  unfold decode at less ⊢
  unfold lround
  rw [if_pos positive]
  cases base : lifetime.base
  all_goals
    rw [base] at less
    simp only [Base.unit] at less
    unfold Base.choose
    split_ifs
    all_goals
      simp only [Base.unit]
      omega

/-- **An encoding adds at most half a unit** of the base that it chooses. -/
theorem two_mul_decode_encode_le {lifetime : Lifetime} {duration : ℤ} (positive : 0 ≤ duration)
    (less : duration < lifetime.decode) :
    2 * (encode duration).decode ≤ 2 * duration + (Base.choose duration).unit := by
  have rounded := Int.mul_ediv_self_le (x := 2 * duration + (Base.choose duration).unit)
    (k := 2 * (Base.choose duration).unit) (by have := (Base.choose duration).unit_pos; omega)
  rw [decode_encode positive less]
  unfold lround
  rw [if_pos positive]
  linarith

end Lifetime

/-! ### Traffic class -/

/-- A flag for store-carry-forward, one for channel offload and six bits of id. -/
structure TrafficClass where
  raw : UInt8
  deriving DecidableEq

namespace TrafficClass

def storeCarryForward (tc : TrafficClass) : Bool := tc.raw &&& 0x80 ≠ 0

def tcId (tc : TrafficClass) : UInt8 := tc.raw &&& 0x3f

end TrafficClass

/-- `map_tc_onto_profile`. -/
def mapTcOntoProfile (tc : TrafficClass) : Dcc.Profile :=
  match tc.tcId.toNat with
  | 0 => .dp0
  | 1 => .dp1
  | 2 => .dp2
  | _ => .dp3

/-! ### Areas -/

/-- `HeaderType`: a byte, of which the values of the source's enumeration are named. -/
abbrev HeaderType := UInt8

namespace HeaderType

def any : HeaderType := 0x00
def beacon : HeaderType := 0x10
def geoBroadcastCircle : HeaderType := 0x40
def geoBroadcastRect : HeaderType := 0x41
def geoBroadcastElip : HeaderType := 0x42
def tsbSingleHop : HeaderType := 0x50

end HeaderType

/-- Lengths in metres, as the header has them. -/
inductive AreaShape
  | circle (r : UInt16)
  | rectangle (a b : UInt16)
  | ellipse (a b : UInt16)
  deriving DecidableEq

structure Area where
  shape : AreaShape
  position : GeodeticPosition
  angle : UInt16
  deriving DecidableEq

/-- `gbc_header_type`. -/
def gbcHeaderType (area : Area) : HeaderType :=
  match area.shape with
  | .circle _ => .geoBroadcastCircle
  | .rectangle _ _ => .geoBroadcastRect
  | .ellipse _ _ => .geoBroadcastElip

/-! ### Headers -/

/-- `NextHeaderBasic`, as it is read from four bits. -/
abbrev NextHeaderBasic := BitVec 4

namespace NextHeaderBasic

def any : NextHeaderBasic := 0
def common : NextHeaderBasic := 1
def secured : NextHeaderBasic := 2

end NextHeaderBasic

structure BasicHeader where
  version : BitVec 4
  nextHeader : NextHeaderBasic
  reserved : UInt8
  lifetime : Lifetime
  hopLimit : UInt8
  deriving DecidableEq

def BasicHeader.lengthBytes : ℕ := 4

/-- `NextHeaderCommon`, as it is read from four bits. -/
abbrev NextHeaderCommon := BitVec 4

namespace NextHeaderCommon

def any : NextHeaderCommon := 0
def btpA : NextHeaderCommon := 1
def btpB : NextHeaderCommon := 2
def ipv6 : NextHeaderCommon := 3

end NextHeaderCommon

structure CommonHeader where
  nextHeader : NextHeaderCommon
  reserved1 : BitVec 4
  headerType : HeaderType
  trafficClass : TrafficClass
  flags : UInt8
  payload : UInt16
  maximumHopLimit : UInt8
  reserved2 : UInt8
  deriving DecidableEq

def CommonHeader.lengthBytes : ℕ := 8

def LongPositionVector.lengthBytes : ℕ := 24

structure BeaconHeader where
  sourcePosition : LongPositionVector
  deriving DecidableEq

def BeaconHeader.lengthBytes : ℕ := LongPositionVector.lengthBytes

/-- `DccField`, in the order of the variant's alternatives. -/
inductive DccField
  | raw (field : UInt32)
  | mco (field : DccMcoField)
  deriving DecidableEq

/-- `DccMcoField(uint32_t)`. -/
def DccMcoField.ofRaw (field : UInt32) : DccMcoField :=
  ⟨(field >>> 24).toUInt8, (field >>> 16).toUInt8, BitVec.ofNat 5 (field >>> 11).toNat⟩

/-- `get_dcc_mco`: either alternative has a field. -/
def getDccMco : DccField → DccMcoField
  | .raw field => .ofRaw field
  | .mco field => field

structure ShbHeader where
  sourcePosition : LongPositionVector
  dcc : DccField
  deriving DecidableEq

def ShbHeader.lengthBytes : ℕ := 4 + LongPositionVector.lengthBytes

structure GeoBroadcastHeader where
  sequenceNumber : SequenceNumber
  reserved1 : UInt16
  sourcePosition : LongPositionVector
  geoAreaPosLatitude : Int32
  geoAreaPosLongitude : Int32
  distanceA : UInt16
  distanceB : UInt16
  angle : UInt16
  reserved2 : UInt16
  deriving DecidableEq

namespace GeoBroadcastHeader

def lengthBytes : ℕ := 20 + LongPositionVector.lengthBytes

def position (header : GeoBroadcastHeader) : GeodeticPosition :=
  ⟨header.geoAreaPosLatitude, header.geoAreaPosLongitude⟩

/-- `destination(HeaderType)`, which throws for any other type. -/
def destination (header : GeoBroadcastHeader) (ht : HeaderType) : Option Area :=
  if ht = .geoBroadcastCircle then
    some ⟨.circle header.distanceA, header.position, header.angle⟩
  else if ht = .geoBroadcastRect then
    some ⟨.rectangle header.distanceA header.distanceB, header.position, header.angle⟩
  else if ht = .geoBroadcastElip then
    some ⟨.ellipse header.distanceA header.distanceB, header.position, header.angle⟩
  else none

/-- `destination(Area)`. -/
def setDestination (header : GeoBroadcastHeader) (area : Area) : GeoBroadcastHeader :=
  let distances : UInt16 × UInt16 :=
    match area.shape with
    | .circle r => (r, 0)
    | .rectangle a b => (a, b)
    | .ellipse a b => (a, b)
  { header with
    geoAreaPosLatitude := area.position.latitude
    geoAreaPosLongitude := area.position.longitude
    angle := area.angle
    distanceA := distances.1
    distanceB := distances.2 }

/-- **The area that a header has been given is read back** with the header type of the area. -/
theorem destination_setDestination (header : GeoBroadcastHeader) (area : Area) :
    (header.setDestination area).destination (gbcHeaderType area) = some area := by
  obtain ⟨shape, position, angle⟩ := area
  cases shape <;> rfl

/-- `identifier`: what a packet is told apart by. -/
def identifier (header : GeoBroadcastHeader) : PacketIdentifier :=
  ⟨header.sourcePosition.gnAddr, header.sequenceNumber⟩

end GeoBroadcastHeader

/-- `HeaderVariant`. -/
inductive HeaderVariant
  | beacon (header : BeaconHeader)
  | geoBroadcast (header : GeoBroadcastHeader)
  | shb (header : ShbHeader)
  deriving DecidableEq

/-- `get_length`. -/
def HeaderVariant.getLength : HeaderVariant → ℕ
  | beacon _ => BeaconHeader.lengthBytes
  | geoBroadcast _ => GeoBroadcastHeader.lengthBytes
  | shb _ => ShbHeader.lengthBytes

end Vanet.Geonet
