/-
**The destination of a GeoBroadcast packet, from the request to a receiver.**

A request has its destination in floating point metres and degrees, which are exact here. The header
has whole metres, whole degrees and tenths of microdegrees: the conversions cut the fraction off and
keep as many bits as the field has. Requests are accepted by the size of the whole area only.

* `word_near_iff`, `geoAngle_near_iff`: when a field is near what it has been set to.
* `receivedArea_created`: a receiver reads the area that has been stored.
* `destination_survives_iff`: the destination survives the headers exactly when every field has room
  for its integer part.
-/

import Vanet.Geonet.HeaderFormat
import Vanet.Geonet.RouterRequest
import Vanet.Library.Rounding

namespace Vanet.Geonet

open Vanet.Net hiding ByteBuffer
open Vanet.Library Vanet.Security Reader Read

/-! ### Requested areas -/

/-- Lengths in metres, as a request has them. -/
inductive RequestedShape
  | circle (r : ℚ)
  | rectangle (a b : ℚ)
  | ellipse (a b : ℚ)
  deriving DecidableEq

/-- `Area` of a request. Angles are degrees. -/
structure RequestedArea where
  shape : RequestedShape
  latitude : ℚ
  longitude : ℚ
  angle : ℚ
  deriving DecidableEq

/-- `double_constants::pi`. -/
def doublePi : ℚ := 884279719003555 / 281474976710656

/-- `area_size`. -/
def RequestedArea.areaSize (area : RequestedArea) : ℚ :=
  match area.shape with
  | .circle r => doublePi * r * r
  | .rectangle a b => 4 * a * b
  | .ellipse a b => doublePi * a * b

/-! ### Fields -/

/-- The conversion to `distance_u16t` and `angle_u16t`. -/
def toWord (value : ℚ) : UInt16 := .ofInt (towardZero value)

/-- The conversion of degrees to `geo_angle_i32t`. -/
def toGeoAngle (degrees : ℚ) : Int32 := .ofInt (towardZero (degrees * 10000000))

/-- The degrees of a `geo_angle_i32t`. -/
def ofGeoAngle (angle : Int32) : ℚ := angle.toInt / 10000000

/-- What `GbcGacHeader::destination(const Area&)` stores of a requested area. -/
def RequestedArea.stored (area : RequestedArea) : Area where
  shape :=
    match area.shape with
    | .circle r => .circle (toWord r)
    | .rectangle a b => .rectangle (toWord a) (toWord b)
    | .ellipse a b => .ellipse (toWord a) (toWord b)
  position := ⟨toGeoAngle area.latitude, toGeoAngle area.longitude⟩
  angle := toWord area.angle

/-- `validate_data_request` of a request with an exact destination. -/
def RequestedArea.validate (area : RequestedArea) (request : DataRequest) (mib : Mib) : ResultCode :=
  validateDataRequestWithArea (fun _ => area.areaSize) request area.stored mib

/-- A field of sixteen bits has room for the integer part. -/
def FitsWord (value : ℚ) : Prop := -1 < value ∧ value < 65536

/-- So has a geographical angle's field. -/
def FitsGeoAngle (degrees : ℚ) : Prop :=
  -2147483649 < degrees * 10000000 ∧ degrees * 10000000 < 2147483648

instance (value : ℚ) : Decidable (FitsWord value) := inferInstanceAs (Decidable (_ ∧ _))

instance (degrees : ℚ) : Decidable (FitsGeoAngle degrees) := inferInstanceAs (Decidable (_ ∧ _))

theorem toNat_toWord (value : ℚ) : ((toWord value).toNat : ℤ) = towardZero value % 65536 := by
  have bound : (towardZero value % 65536).toNat < 65536 := by omega
  have stored : (toWord value).toNat = (towardZero value % 65536).toNat :=
    UInt16.toNat_ofNat_of_lt' bound
  rw [stored]
  omega

theorem fitsWord_iff (value : ℚ) : FitsWord value ↔ ((toWord value).toNat : ℤ) = towardZero value := by
  have low := le_towardZero_iff value (n := 0) le_rfl
  have high := towardZero_lt_iff value (n := 65536) (by norm_num)
  push_cast at low high
  rw [zero_sub] at low
  unfold FitsWord
  rw [← low, ← high, toNat_toWord]
  omega

/-- **A field of sixteen bits** is within its resolution of what it has been set to exactly when it
has room for it. -/
theorem word_near_iff (value : ℚ) : |value - (toWord value).toNat| ≤ 1 ↔ FitsWord value := by
  have wrapped : 65536 ∣ ((toWord value).toNat : ℤ) - towardZero value := by
    rw [toNat_toWord]
    omega
  have near := abs_sub_le_one_iff (by norm_num) wrapped
  rw [Int.cast_natCast] at near
  rw [near, fitsWord_iff]

theorem toInt_toGeoAngle (degrees : ℚ) :
    (toGeoAngle degrees).toInt = (towardZero (degrees * 10000000)).bmod 4294967296 :=
  Int32.toInt_ofInt

theorem fitsGeoAngle_iff (degrees : ℚ) :
    FitsGeoAngle degrees ↔ (toGeoAngle degrees).toInt = towardZero (degrees * 10000000) := by
  have low := le_towardZero_iff (degrees * 10000000) (n := -2147483648) (by norm_num)
  have high := towardZero_lt_iff (degrees * 10000000) (n := 2147483648) (by norm_num)
  have least : ((-2147483648 : ℤ) : ℚ) - 1 = -2147483649 := by norm_num
  have most : ((2147483648 : ℤ) : ℚ) = 2147483648 := by norm_num
  rw [least] at low
  rw [most] at high
  unfold FitsGeoAngle
  rw [← low, ← high, toInt_toGeoAngle, Int.bmod_eq_iff (by norm_num)]
  omega

/-- **A geographical angle** is within its resolution of what it has been set to exactly when the
field has room for it. -/
theorem geoAngle_near_iff (degrees : ℚ) :
    |degrees - ofGeoAngle (toGeoAngle degrees)| ≤ 1 / 10000000 ↔ FitsGeoAngle degrees := by
  have wrapped : 4294967296 ∣ (toGeoAngle degrees).toInt - towardZero (degrees * 10000000) := by
    rw [toInt_toGeoAngle]
    exact Int.dvd_bmod_sub_self
  have near := abs_sub_le_one_iff (by norm_num) wrapped
  have scaled : degrees * 10000000 - (toGeoAngle degrees).toInt =
      (degrees - ofGeoAngle (toGeoAngle degrees)) * 10000000 := by
    unfold ofGeoAngle
    ring
  rw [scaled, abs_mul, abs_of_nonneg (by norm_num : (0 : ℚ) ≤ 10000000)] at near
  rw [fitsGeoAngle_iff, ← near, le_div_iff₀ (by norm_num)]

/-! ### The way to a receiver -/

/-- The area that a receiver finds behind the basic header. -/
def readArea : Read (Option Area) := do
  let common ← CommonHeader.deserialize
  let header ← GeoBroadcastHeader.deserialize
  pure (header.destination common.headerType)

def receivedArea (bytes : ByteBuffer) : Option Area :=
  match (readArea ⟨bytes, []⟩).1 with
  | .ok area => area
  | .error _ => none

/-- A receiver reads the area that the two headers tell. -/
theorem readArea_restores {common : CommonHeader} {header : GeoBroadcastHeader} {area : Area}
    (told : header.destination common.headerType = some area) (rest : ByteBuffer) :
    receivedArea (common.serialize ++ (header.serialize ++ rest)) = some area := by
  have restores : Restores readArea (common.serialize ++ header.serialize)
      (header.destination common.headerType) :=
    common.restores.bind (header.restores.map .pure)
  obtain ⟨taken, ran⟩ := restores rest []
  unfold receivedArea
  rw [← List.append_assoc, ran]
  exact told

/-- The headers that a router creates lead a receiver to the stored area. -/
theorem receivedArea_created {platform : Platform} {request : DataRequest} {area : Area}
    {router after : Router} {pdu : GbcPdu}
    (created : Router.createGbcPdu platform request area router = (.ok pdu, after))
    (payload : ChunkPacket) (rest : ByteBuffer) :
    receivedArea ((Router.withPayloadSize pdu payload).common.serialize ++
      (pdu.extended.serialize ++ rest)) = some area := by
  obtain ⟨common, mid, -, created⟩ := Action.bind_ok.mp created
  cases created
  apply readArea_restores
  exact GeoBroadcastHeader.destination_setDestination _ area

/-! ### What survives -/

/-- A length is received within the resolution of a metre, and is not wrapped around. -/
def KeepsLength (value : ℚ) (word : UInt16) : Prop :=
  |value - word.toNat| ≤ 1 ∧ (word.toNat : ℤ) = towardZero value

/-- The shapes are of one kind, and the received one keeps the lengths. -/
def KeepsShape : RequestedShape → AreaShape → Prop
  | .circle r, .circle r' => KeepsLength r r'
  | .rectangle a b, .rectangle a' b' => KeepsLength a a' ∧ KeepsLength b b'
  | .ellipse a b, .ellipse a' b' => KeepsLength a a' ∧ KeepsLength b b'
  | _, _ => False

/-- **The received area is the requested one** up to the resolution of the headers. -/
structure RequestedArea.Survives (area : RequestedArea) (received : Area) : Prop where
  shape : KeepsShape area.shape received.shape
  latitude : |area.latitude - ofGeoAngle received.position.latitude| ≤ 1 / 10000000
  longitude : |area.longitude - ofGeoAngle received.position.longitude| ≤ 1 / 10000000
  angle : |area.angle - received.angle.toNat| ≤ 1

def RequestedShape.Fits : RequestedShape → Prop
  | .circle r => FitsWord r
  | .rectangle a b => FitsWord a ∧ FitsWord b
  | .ellipse a b => FitsWord a ∧ FitsWord b

/-- **Every field of the header has room** for the integer part it is set to. -/
structure RequestedArea.Fits (area : RequestedArea) : Prop where
  shape : area.shape.Fits
  latitude : FitsGeoAngle area.latitude
  longitude : FitsGeoAngle area.longitude
  angle : FitsWord area.angle

theorem keepsLength_toWord (value : ℚ) : KeepsLength value (toWord value) ↔ FitsWord value := by
  unfold KeepsLength
  rw [word_near_iff, ← fitsWord_iff, and_self_iff]

theorem keepsShape_stored (area : RequestedArea) :
    KeepsShape area.shape area.stored.shape ↔ area.shape.Fits := by
  obtain ⟨shape, latitude, longitude, angle⟩ := area
  cases shape with
  | circle r => exact keepsLength_toWord r
  | rectangle a b => exact and_congr (keepsLength_toWord a) (keepsLength_toWord b)
  | ellipse a b => exact and_congr (keepsLength_toWord a) (keepsLength_toWord b)

theorem survives_stored_iff (area : RequestedArea) : area.Survives area.stored ↔ area.Fits := by
  constructor
  · intro survives
    exact ⟨(keepsShape_stored area).mp survives.shape,
      (geoAngle_near_iff area.latitude).mp survives.latitude,
      (geoAngle_near_iff area.longitude).mp survives.longitude,
      (word_near_iff area.angle).mp survives.angle⟩
  · intro fits
    exact ⟨(keepsShape_stored area).mpr fits.shape,
      (geoAngle_near_iff area.latitude).mpr fits.latitude,
      (geoAngle_near_iff area.longitude).mpr fits.longitude,
      (word_near_iff area.angle).mpr fits.angle⟩

/-- **The destination of a request survives its headers**, with any payload and whatever follows,
exactly when every field has room for it. -/
theorem destination_survives_iff (platform : Platform) (request : DataRequest) (area : RequestedArea)
    (payload : ChunkPacket) (rest : ByteBuffer) (router after : Router) (pdu : GbcPdu)
    (created : Router.createGbcPdu platform request area.stored router = (.ok pdu, after)) :
    (∃ received, receivedArea ((Router.withPayloadSize pdu payload).common.serialize ++
        (pdu.extended.serialize ++ rest)) = some received ∧ area.Survives received) ↔ area.Fits := by
  rw [receivedArea_created created, ← survives_stored_iff]
  constructor
  · rintro ⟨received, ⟨⟩, survives⟩
    exact survives
  · intro survives
    exact ⟨area.stored, rfl, survives⟩

/-- A request of the upper layers with the default parameters. -/
def broadcastRequest : DataRequest := ⟨.btpB, .itsG5, 36, .set .tenSeconds 1, none, 10, ⟨0⟩⟩

/-- A platform with the default parameters. -/
def defaults : Platform := ⟨Mib.initial, ⟨fun _ _ => true, fun _ _ => 0, fun _ => 0, fun _ => none⟩⟩

/-- A circle with a radius of a kilometre and a half. -/
theorem destination_survives_circle : ∃ pdu after,
    Router.createGbcPdu defaults broadcastRequest
        (RequestedArea.stored ⟨.circle (2999 / 2), 481 / 10, 23 / 2, 0⟩) (.create Mib.initial 0 0) =
      (.ok pdu, after) ∧
    ∃ received, receivedArea ((Router.withPayloadSize pdu .empty).common.serialize ++
        (pdu.extended.serialize ++ [])) = some received ∧
      RequestedArea.Survives ⟨.circle (2999 / 2), 481 / 10, 23 / 2, 0⟩ received := by
  refine ⟨_, _, rfl, (destination_survives_iff defaults broadcastRequest _ .empty [] _ _ _ rfl).mpr ?_⟩
  have radius : FitsWord (2999 / 2) := by decide +kernel
  exact ⟨radius, by decide +kernel, by decide +kernel, by decide +kernel⟩

/-- **A strip of two hundred kilometres by twenty metres** is accepted, and its length is received
modulo two to the sixteenth. -/
theorem strip_wraps : ¬ ∀ (platform : Platform) (request : DataRequest) (area : RequestedArea)
    (payload : ChunkPacket) (rest : ByteBuffer) (router after : Router) (pdu : GbcPdu),
    area.validate request platform.mib = .accepted →
    Router.createGbcPdu platform request area.stored router = (.ok pdu, after) →
    ∃ received, receivedArea ((Router.withPayloadSize pdu payload).common.serialize ++
      (pdu.extended.serialize ++ rest)) = some received ∧ area.Survives received := by
  intro always
  obtain ⟨pdu, after, created⟩ : ∃ pdu after, Router.createGbcPdu defaults broadcastRequest
      (RequestedArea.stored ⟨.rectangle 100000 10, 0, 0, 0⟩) (.create Mib.initial 0 0) =
        (.ok pdu, after) := ⟨_, _, rfl⟩
  obtain ⟨received, read, survives⟩ := always defaults broadcastRequest
    ⟨.rectangle 100000 10, 0, 0, 0⟩ .empty [] _ _ _ (by decide +kernel) created
  rw [receivedArea_created created] at read
  cases read
  have wrapped : KeepsLength 100000 (toWord 100000) := survives.shape.1
  exact absurd ((keepsLength_toWord 100000).mp wrapped) (by decide +kernel)

end Vanet.Geonet
