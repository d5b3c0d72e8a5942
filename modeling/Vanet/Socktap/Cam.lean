/-
**`CamApplication`: a CAM from the simulator's JSON to the peers' JSON.**

`camOnMessage` fills a CAM from the flat JSON of `vanetza/in/cam`, `Cam.Encodable` are the ASN.1
ranges the UPER encoder checks, `buildJSON` is the flat JSON published on `vanetza/out/cam`.
`camBroadcast` is the whole way; the transport in between is lossless.

* `abs_sub_truncate`: a JSON number loses exactly its fractional part when it is read as an
  integer.
* `camBroadcast_eq_some`: what the peers read, field by field, for every CAM that is sent.
-/

import Mathlib.Algebra.Order.Floor.Ring
import Mathlib.Data.Rat.Floor
import Mathlib.Tactic.Linarith

namespace Vanet.Socktap

/-- `get<integer>` of a JSON number: a floating point value is truncated toward zero. -/
def truncate (q : ℚ) : ℤ := q.num.tdiv q.den

@[simp] theorem truncate_intCast (n : ℤ) : truncate n = n := by
  simp [truncate]

/-- On nonnegative numbers truncation is the floor. -/
theorem truncate_of_nonneg {q : ℚ} (nonneg : 0 ≤ q) : truncate q = ⌊q⌋ := by
  rw [truncate, Int.tdiv_eq_ediv_of_nonneg (Rat.num_nonneg.mpr nonneg)]
  exact (Rat.floor_def q).symm

theorem truncate_neg (q : ℚ) : truncate (-q) = -truncate q := by
  simp [truncate, Int.neg_tdiv]

/-- **The truncation error is the fractional part of the absolute value.** -/
theorem abs_sub_truncate (q : ℚ) : |q - truncate q| = Int.fract |q| := by
  rcases le_total 0 q with nonneg | nonpos
  · rw [truncate_of_nonneg nonneg, abs_of_nonneg nonneg, Int.self_sub_floor,
      abs_of_nonneg (Int.fract_nonneg q)]
  · have flipped : 0 ≤ -q := neg_nonneg.mpr nonpos
    have same : q - truncate q = -(-q - ⌊-q⌋) := by
      rw [← truncate_of_nonneg flipped, truncate_neg]
      push_cast
      ring
    rw [same, abs_neg, Int.self_sub_floor, abs_of_nonneg (Int.fract_nonneg _),
      abs_of_nonpos nonpos]

/-- Truncation does not leave an interval with integer ends around zero. -/
theorem truncate_mem {q : ℚ} {bound : ℤ} (inside : |q| ≤ bound) :
    -bound ≤ truncate q ∧ truncate q ≤ bound := by
  have error := abs_sub_truncate q
  rcases le_total 0 q with nonneg | nonpos
  · rw [abs_of_nonneg nonneg] at inside
    rw [truncate_of_nonneg nonneg]
    have lower := Int.floor_nonneg.mpr nonneg
    have upper : ⌊q⌋ ≤ bound := by
      have := (Int.floor_le q).trans inside
      exact_mod_cast this
    omega
  · rw [abs_of_nonpos nonpos] at inside
    have flipped : 0 ≤ -q := neg_nonneg.mpr nonpos
    have value : truncate q = -⌊-q⌋ := by
      rw [← truncate_of_nonneg flipped, truncate_neg, neg_neg]
    have lower := Int.floor_nonneg.mpr flipped
    have upper : ⌊-q⌋ ≤ bound := by
      have := (Int.floor_le (-q)).trans inside
      exact_mod_cast this
    omega

/-! ### The two representations of a CAM -/

/-- `driveDirection`: `FORWARD`, `BACKWARD` or any other text. -/
inductive DriveDirection
  | forward
  | backward
  | unavailable
  deriving DecidableEq, Repr

/-- The flat JSON of a CAM. Numbers are exact; both publishers write the station's id and type as
nonnegative integers. -/
structure CamJson where
  accEngaged : Bool
  acceleration : ℚ
  altitude : ℚ
  altitudeConf : ℚ
  brakePedal : Bool
  collisionWarning : Bool
  cruiseControl : Bool
  curvature : ℚ
  driveDirection : DriveDirection
  emergencyBrake : Bool
  gasPedal : Bool
  heading : ℚ
  headingConf : ℚ
  latitude : ℚ
  length : ℚ
  longitude : ℚ
  semiMajorConf : ℚ
  semiMajorOrient : ℚ
  semiMinorConf : ℚ
  embarkationStatus : Bool
  speed : ℚ
  speedConf : ℚ
  speedLimiter : Bool
  stationID : ℕ
  stationType : ℕ
  width : ℚ
  yawRate : ℚ
  deriving DecidableEq

/-- The fields of a CAM that `on_message` fills from the JSON. -/
structure Cam where
  stationID : ℕ
  latitude : ℤ
  longitude : ℤ
  semiMajorConfidence : ℤ
  semiMinorConfidence : ℤ
  semiMajorOrientation : ℤ
  altitudeValue : ℤ
  altitudeConfidence : ℤ
  stationType : ℕ
  headingValue : ℤ
  headingConfidence : ℤ
  speedValue : ℤ
  speedConfidence : ℤ
  driveDirection : DriveDirection
  vehicleLengthValue : ℤ
  vehicleWidth : ℤ
  longitudinalAccelerationValue : ℤ
  curvatureValue : ℤ
  yawRateValue : ℤ
  /-- The one byte of the `AccelerationControl` bit string. -/
  accelerationControl : BitVec 8
  embarkationStatus : Bool
  deriving DecidableEq

def headingConfidenceUnavailable : ℤ := 127
def speedConfidenceUnavailable : ℤ := 127

/-- Set bit `bit` of the buffer if the flag is engaged. -/
def engage (flag : Bool) (bit : ℕ) (buf : BitVec 8) : BitVec 8 :=
  if flag then buf ||| (1#8 <<< bit) else buf

/-- `CamApplication::on_message` on the topic `vanetza/in/cam`. -/
def camOnMessage (payload : CamJson) : Cam where
  stationID := payload.stationID
  latitude := truncate payload.latitude
  longitude := truncate payload.longitude
  semiMajorConfidence := truncate payload.semiMajorConf
  semiMinorConfidence := truncate payload.semiMinorConf
  semiMajorOrientation := truncate payload.semiMajorOrient
  altitudeValue := truncate payload.altitude
  altitudeConfidence := truncate payload.altitudeConf
  stationType := payload.stationType
  headingValue := truncate payload.heading
  -- both confidences are read from the payload first and overwritten further down
  headingConfidence := headingConfidenceUnavailable
  speedValue := truncate payload.speed
  speedConfidence := speedConfidenceUnavailable
  driveDirection := payload.driveDirection
  vehicleLengthValue := truncate payload.length
  vehicleWidth := truncate payload.width
  longitudinalAccelerationValue := truncate payload.acceleration
  curvatureValue := truncate payload.curvature
  yawRateValue := truncate payload.yawRate
  accelerationControl :=
    engage payload.speedLimiter 1 (engage payload.cruiseControl 2 (engage payload.accEngaged 3
      (engage payload.collisionWarning 4 (engage payload.emergencyBrake 5
        (engage payload.gasPedal 6 (engage payload.brakePedal 7 0#8))))))
  embarkationStatus := payload.embarkationStatus

/-- `n` lies in the value range of an ASN.1 integer. -/
def InRange (lower n upper : ℤ) : Prop := lower ≤ n ∧ n ≤ upper

instance (lower n upper : ℤ) : Decidable (InRange lower n upper) := by
  unfold InRange
  infer_instance

/-- The value ranges of the data dictionary: UPER encodes nothing else. -/
def Cam.Encodable (cam : Cam) : Prop :=
  cam.stationID ≤ 4294967295 ∧
  InRange (-900000000) cam.latitude 900000001 ∧
  InRange (-1800000000) cam.longitude 1800000001 ∧
  InRange 0 cam.semiMajorConfidence 4095 ∧
  InRange 0 cam.semiMinorConfidence 4095 ∧
  InRange 0 cam.semiMajorOrientation 3601 ∧
  InRange (-100000) cam.altitudeValue 800001 ∧
  InRange 0 cam.altitudeConfidence 15 ∧
  cam.stationType ≤ 255 ∧
  InRange 0 cam.headingValue 3601 ∧
  InRange 1 cam.headingConfidence 127 ∧
  InRange 0 cam.speedValue 16383 ∧
  InRange 1 cam.speedConfidence 127 ∧
  InRange 1 cam.vehicleLengthValue 1023 ∧
  InRange 1 cam.vehicleWidth 62 ∧
  InRange (-160) cam.longitudinalAccelerationValue 161 ∧
  InRange (-1023) cam.curvatureValue 1023 ∧
  InRange (-32766) cam.yawRateValue 32767

instance (cam : Cam) : Decidable cam.Encodable := by
  unfold Cam.Encodable
  infer_instance

/-- `CamApplication::buildJSON`, without the fields of the reception (`timestamp`, `newInfo`,
`rssi`, `test`, `receiverID`, `receiverType`), which no consumer in the simulator reads. -/
def buildJSON (cam : Cam) : CamJson where
  accEngaged := cam.accelerationControl.getLsbD 3
  acceleration := cam.longitudinalAccelerationValue
  altitude := cam.altitudeValue
  altitudeConf := cam.altitudeConfidence
  brakePedal := cam.accelerationControl.getLsbD 7
  collisionWarning := cam.accelerationControl.getLsbD 4
  cruiseControl := cam.accelerationControl.getLsbD 2
  curvature := cam.curvatureValue
  driveDirection := cam.driveDirection
  emergencyBrake := cam.accelerationControl.getLsbD 5
  gasPedal := cam.accelerationControl.getLsbD 6
  heading := cam.headingValue
  headingConf := cam.headingConfidence
  latitude := cam.latitude
  length := cam.vehicleLengthValue
  longitude := cam.longitude
  semiMajorConf := cam.semiMajorConfidence
  semiMajorOrient := cam.semiMajorOrientation
  semiMinorConf := cam.semiMinorConfidence
  embarkationStatus := false
  speed := cam.speedValue
  speedConf := cam.speedConfidence
  speedLimiter := cam.accelerationControl.getLsbD 1
  stationID := cam.stationID
  stationType := cam.stationType
  width := cam.vehicleWidth
  yawRate := cam.yawRateValue

/-- **From one station's `vanetza/in/cam` to the others' `vanetza/out/cam`.** A CAM that UPER
cannot encode is not sent. -/
def camBroadcast (payload : CamJson) : Option CamJson :=
  if (camOnMessage payload).Encodable then some (buildJSON (camOnMessage payload)) else none

/-- **What the peers read.** -/
theorem camBroadcast_eq_some {payload received : CamJson}
    (sent : camBroadcast payload = some received) :
    (camOnMessage payload).Encodable ∧ received = buildJSON (camOnMessage payload) := by
  unfold camBroadcast at sent
  split at sent
  · rename_i encodable
    exact ⟨encodable, (Option.some.inj sent).symm⟩
  · cases sent

end Vanet.Socktap
