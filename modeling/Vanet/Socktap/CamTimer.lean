/-
**`CamApplication::on_timer`: a CAM from the position fix.**

The acceleration and the yaw rate are differences of two samples, taken when the sample changes or one
second is over. The comparisons that should find a difference out of range are joined by `&&` and never
hold, and an unavailable sample is subtracted as a number. `cam_timer_valid_iff` says at which callbacks
the message is what it should be.
-/

import Vanet.Library.Rounding
import Vanet.Library.Run
import Vanet.Socktap.Cam

namespace Vanet.Socktap

open Vanet.Library

/-! ### The position -/

/-- `PositionFix`: angles in degrees, speeds and lengths as numbers; what is not a number is `none`. -/
structure PositionFix where
  latitude : ℚ
  longitude : ℚ
  course : Option ℚ
  speed : Option ℚ
  altitude : Option (Option ℚ × Option ℚ)

def headingValueUnavailable : ℤ := 3601
def semiAxisLengthUnavailable : ℤ := 4095
def altitudeValueUnavailable : ℤ := 800001
def altitudeConfidenceUnavailable : ℤ := 15
def altitudeConfidenceOutOfRange : ℤ := 14

/-- The bounds of `AltitudeConfidence` in metres; the values are their positions. -/
def altitudeConfidences : List ℚ :=
  [1 / 100, 2 / 100, 5 / 100, 1 / 10, 2 / 10, 5 / 10, 1, 2, 5, 10, 20, 50, 100, 200]

def toAltitudeConfidence : Option ℚ → ℤ
  | none => altitudeConfidenceUnavailable
  | some confidence =>
    if confidence < 0 then altitudeConfidenceUnavailable
    else
      match altitudeConfidences.findIdx? fun bound => confidence ≤ bound with
      | some value => value
      | none => altitudeConfidenceOutOfRange

def toAltitudeValue : Option ℚ → ℤ
  | none => altitudeValueUnavailable
  | some altitude => truncate (100 * max (-1000) (min 8000 altitude))

/-- `copy(position, referencePosition)` into the fields of a CAM. -/
def copyPosition (position : PositionFix) (cam : Cam) : Cam :=
  { cam with
    longitude := lround (position.longitude * 1000000) * 10
    latitude := lround (position.latitude * 1000000) * 10
    semiMajorOrientation := headingValueUnavailable
    semiMajorConfidence := semiAxisLengthUnavailable
    semiMinorConfidence := semiAxisLengthUnavailable
    altitudeValue :=
      match position.altitude with
      | some altitude => toAltitudeValue altitude.1
      | none => altitudeValueUnavailable
    altitudeConfidence :=
      match position.altitude with
      | some altitude => toAltitudeConfidence altitude.2
      | none => altitudeConfidenceUnavailable }

/-! ### Samples and their differences -/

/-- `LLONG_MIN`: there was no sample. -/
def lLongMin : ℤ := -9223372036854775808

/-- **A sample and what is derived from it**: the largest value and the unavailable one, the scale of the
derivative, its range and its unavailable value. -/
structure Channel where
  largest : ℤ
  unavailable : ℤ
  scale : ℤ
  lowest : ℤ
  highest : ℤ
  underivable : ℤ

/-- `SpeedValue` and `LongitudinalAccelerationValue`. -/
def speedChannel : Channel := ⟨16382, 16383, 10, -160, 160, 161⟩

/-- `HeadingValue` and `YawRateValue`. -/
def headingChannel : Channel := ⟨3600, 3601, 100, -32766, 32766, 32767⟩

namespace Channel

variable (channel : Channel)

def sample : Option ℚ → ℤ
  | none => channel.unavailable
  | some value =>
    if 0 ≤ value ∧ value ≤ channel.largest then truncate value else channel.unavailable

/-- A difference is taken: there is a previous sample, and it was another one or a second is over. -/
def Derives (last : ℤ) (time : ℚ) (current : ℤ) (millisNow : ℚ) : Prop :=
  last ≠ lLongMin ∧ (current ≠ last ∨ millisNow - (if time = 0 then millisNow else time) ≥ 1)

instance (last : ℤ) (time : ℚ) (current : ℤ) (millisNow : ℚ) :
    Decidable (Derives last time current millisNow) := by
  unfold Derives
  infer_instance

/-- The derivative and the time of the last difference. -/
def derive (last : ℤ) (time : ℚ) (current : ℤ) (millisNow : ℚ) : ℤ × ℚ :=
  if Derives last time current millisNow then
    let value := (current - last) * channel.scale
    (if value < channel.lowest ∧ value > channel.highest then channel.underivable else value,
      millisNow)
  else (channel.underivable, if time = 0 then millisNow else time)

end Channel

/-! ### The timer -/

/-- The global variables. -/
structure CamTimer where
  lastSpeed : ℤ
  timeSpeed : ℚ
  lastHeading : ℤ
  timeHeading : ℚ
  deriving DecidableEq

def CamTimer.initial : CamTimer := ⟨lLongMin, 0, lLongMin, 0⟩

/-- What the configuration says of the station. -/
structure CamConfig where
  stationId : ℕ
  stationType : ℕ
  length : ℚ
  width : ℚ

def curvatureValueUnavailable : ℤ := 1023

/-- The fields that are the same in every CAM of the station. -/
def stationCam (config : CamConfig) : Cam where
  stationID := config.stationId
  latitude := 0
  longitude := 0
  semiMajorConfidence := 0
  semiMinorConfidence := 0
  semiMajorOrientation := 0
  altitudeValue := 0
  altitudeConfidence := 0
  stationType := config.stationType
  headingValue := 0
  headingConfidence := headingConfidenceUnavailable
  speedValue := 0
  speedConfidence := speedConfidenceUnavailable
  driveDirection := .forward
  vehicleLengthValue := truncate (config.length * 10)
  vehicleWidth := truncate (config.width * 10)
  longitudinalAccelerationValue := 0
  curvatureValue := curvatureValueUnavailable
  yawRateValue := 0
  accelerationControl := 0b10111110#8
  embarkationStatus := false

section Timer

variable (config : CamConfig) (timer : CamTimer) (position : PositionFix) (millisNow : ℚ)

/-- The message before its validation. -/
def timerCam : Cam :=
  let speed := speedChannel.sample position.speed
  let heading := headingChannel.sample position.course
  { copyPosition position (stationCam config) with
    headingValue := heading
    speedValue := speed
    longitudinalAccelerationValue :=
      (speedChannel.derive timer.lastSpeed timer.timeSpeed speed millisNow).1
    yawRateValue :=
      (headingChannel.derive timer.lastHeading timer.timeHeading heading millisNow).1 }

/-- What a callback leaves in the global variables. -/
def timerAfter : CamTimer :=
  let speed := speedChannel.sample position.speed
  let heading := headingChannel.sample position.course
  { lastSpeed := speed
    timeSpeed := (speedChannel.derive timer.lastSpeed timer.timeSpeed speed millisNow).2
    lastHeading := heading
    timeHeading := (headingChannel.derive timer.lastHeading timer.timeHeading heading millisNow).2 }

/-- What is thrown when the message is not valid. -/
inductive TimerError
  | invalidHighFrequencyCam
  deriving DecidableEq

/-- **`CamApplication::on_timer`**: the message that is requested, or the exception that leaves the
callback. -/
def camOnTimer : Except TimerError Cam × CamTimer :=
  let cam := timerCam config timer position millisNow
  (if cam.Encodable then .ok cam else .error .invalidHighFrequencyCam,
    timerAfter timer position millisNow)

end Timer

/-- One callback after the other. An exception ends the program. -/
def CamTimer.step (config : CamConfig) (timer : CamTimer) (fix : PositionFix × ℚ) : Option CamTimer :=
  match camOnTimer config timer fix.1 fix.2 with
  | (.ok _, after) => some after
  | (.error _, _) => none

/-! ### When the message is right -/

namespace Channel

variable {channel : Channel} {last current : ℤ} {time millisNow : ℚ}

/-- The samples of a channel. -/
def IsSample (channel : Channel) (value : ℤ) : Prop :=
  0 ≤ value ∧ value ≤ channel.largest ∨ value = channel.unavailable

/-- **The derivative is what it should be**: in range, and unavailable if one of the two samples is not
available. -/
def Right (channel : Channel) (last : ℤ) (time : ℚ) (current : ℤ) (millisNow : ℚ) : Prop :=
  InRange channel.lowest (channel.derive last time current millisNow).1 channel.underivable ∧
    (current = channel.unavailable ∨ last = channel.unavailable ∨ last = lLongMin →
      (channel.derive last time current millisNow).1 = channel.underivable)

/-- **No difference is taken, or that of two available samples which are near to each other.** -/
def Smooth (channel : Channel) (jump : ℤ) (last : ℤ) (time : ℚ) (current : ℤ) (millisNow : ℚ) :
    Prop :=
  Derives last time current millisNow →
    current ≠ channel.unavailable ∧ last ≠ channel.unavailable ∧ |current - last| ≤ jump

theorem sample_isSample (channel : Channel) (value : Option ℚ) :
    channel.IsSample (channel.sample value) := by
  cases value with
  | none => exact .inr rfl
  | some value =>
    unfold sample
    dsimp only
    split_ifs with inside
    · left
      rw [truncate_of_nonneg inside.1]
      have bounded : (⌊value⌋ : ℚ) ≤ channel.largest := le_trans (Int.floor_le value) inside.2
      exact ⟨Int.floor_nonneg.mpr inside.1, by exact_mod_cast bounded⟩
    · exact .inr rfl

/-- The comparisons joined by `&&` never hold. -/
theorem derive_fst (ordered : channel.lowest ≤ channel.highest) :
    (channel.derive last time current millisNow).1 =
      if Derives last time current millisNow then (current - last) * channel.scale
      else channel.underivable := by
  unfold derive
  by_cases derives : Derives last time current millisNow
  · rw [if_pos derives, if_pos derives]
    refine if_neg fun both => ?_
    have below := both.1
    have above := both.2
    omega
  · rw [if_neg derives, if_neg derives]

/-- **The two channels alike**: the derivative is right exactly if the samples are smooth. `jump` is the
largest difference in range, and no difference gives the unavailable value. -/
theorem right_iff_smooth {jump : ℤ} (ordered : channel.lowest ≤ channel.highest)
    (reserved : channel.lowest ≤ channel.underivable)
    (inRange : ∀ difference, InRange channel.lowest (difference * channel.scale) channel.underivable ↔
      |difference| ≤ jump)
    (distinct : ∀ difference, difference * channel.scale ≠ channel.underivable) :
    channel.Right last time current millisNow ↔
      channel.Smooth jump last time current millisNow := by
  unfold Right Smooth
  rw [derive_fst ordered]
  by_cases derives : Derives last time current millisNow
  · rw [if_pos derives, inRange]
    constructor
    · rintro ⟨near, unavailable⟩ _
      exact ⟨fun missing => distinct _ (unavailable (.inl missing)),
        fun missing => distinct _ (unavailable (.inr (.inl missing))), near⟩
    · intro smooth
      obtain ⟨available, before, near⟩ := smooth derives
      refine ⟨near, fun missing => ?_⟩
      rcases missing with missing | missing | missing
      · exact absurd missing available
      · exact absurd missing before
      · exact absurd missing derives.1
  · rw [if_neg derives]
    exact ⟨fun _ holds => absurd holds derives, fun _ => ⟨⟨reserved, le_rfl⟩, fun _ => rfl⟩⟩

end Channel

theorem acceleration_right_iff {last current : ℤ} {time millisNow : ℚ} :
    speedChannel.Right last time current millisNow ↔
      speedChannel.Smooth 16 last time current millisNow := by
  apply Channel.right_iff_smooth
  · decide
  · decide
  · intro difference
    show InRange (-160) (difference * 10) 161 ↔ |difference| ≤ 16
    rw [InRange, abs_le]
    omega
  · intro difference
    show difference * 10 ≠ 161
    omega

theorem yawRate_right_iff {last current : ℤ} {time millisNow : ℚ} :
    headingChannel.Right last time current millisNow ↔
      headingChannel.Smooth 327 last time current millisNow := by
  apply Channel.right_iff_smooth
  · decide
  · decide
  · intro difference
    show InRange (-32766) (difference * 100) 32767 ↔ |difference| ≤ 327
    rw [InRange, abs_le]
    omega
  · intro difference
    show difference * 100 ≠ 32767
    omega

section Callback

variable {config : CamConfig} {timer : CamTimer} {position : PositionFix} {millisNow : ℚ}

/-- The ranges of all fields but the two derivatives. -/
def OthersEncodable (cam : Cam) : Prop :=
  ({ cam with longitudinalAccelerationValue := 0, yawRateValue := 0 } : Cam).Encodable

theorem encodable_iff (cam : Cam) :
    cam.Encodable ↔ OthersEncodable cam ∧ InRange (-160) cam.longitudinalAccelerationValue 161 ∧
      InRange (-32766) cam.yawRateValue 32767 := by
  unfold OthersEncodable Cam.Encodable InRange
  constructor
  · rintro ⟨h1, h2, h3, h4, h5, h6, h7, h8, h9, h10, h11, h12, h13, h14, h15, acceleration, h17, yaw⟩
    exact ⟨⟨h1, h2, h3, h4, h5, h6, h7, h8, h9, h10, h11, h12, h13, h14, h15,
      (by decide : InRange (-160) 0 161), h17, (by decide : InRange (-32766) 0 32767)⟩,
      acceleration, yaw⟩
  · rintro ⟨⟨h1, h2, h3, h4, h5, h6, h7, h8, h9, h10, h11, h12, h13, h14, h15, -, h17, -⟩,
      acceleration, yaw⟩
    exact ⟨h1, h2, h3, h4, h5, h6, h7, h8, h9, h10, h11, h12, h13, h14, h15, acceleration, h17, yaw⟩

/-- **A callback as it should be**: both derivatives are in range, unavailable if one of their samples is
unavailable, and no exception leaves the callback but for another field. -/
structure TimerRight (config : CamConfig) (timer : CamTimer) (position : PositionFix)
    (millisNow : ℚ) : Prop where
  acceleration :
    InRange (-160) (timerCam config timer position millisNow).longitudinalAccelerationValue 161
  yawRate : InRange (-32766) (timerCam config timer position millisNow).yawRateValue 32767
  speedMissing : (timerCam config timer position millisNow).speedValue = 16383 ∨
      timer.lastSpeed = 16383 ∨ timer.lastSpeed = lLongMin →
    (timerCam config timer position millisNow).longitudinalAccelerationValue = 161
  headingMissing : (timerCam config timer position millisNow).headingValue = 3601 ∨
      timer.lastHeading = 3601 ∨ timer.lastHeading = lLongMin →
    (timerCam config timer position millisNow).yawRateValue = 32767
  returns : OthersEncodable (timerCam config timer position millisNow) →
    (camOnTimer config timer position millisNow).1 = .ok (timerCam config timer position millisNow)

/-- **The samples are smooth**: where a difference is taken, both samples are available and at most 16
apart for the speed, 327 for the heading. -/
def SmoothFix (timer : CamTimer) (position : PositionFix) (millisNow : ℚ) : Prop :=
  speedChannel.Smooth 16 timer.lastSpeed timer.timeSpeed (speedChannel.sample position.speed)
      millisNow ∧
    headingChannel.Smooth 327 timer.lastHeading timer.timeHeading
      (headingChannel.sample position.course) millisNow

/-- **One callback.** -/
theorem timerRight_iff :
    TimerRight config timer position millisNow ↔ SmoothFix timer position millisNow := by
  unfold SmoothFix
  rw [← acceleration_right_iff, ← yawRate_right_iff]
  constructor
  · intro right
    exact ⟨⟨right.acceleration, right.speedMissing⟩, right.yawRate, right.headingMissing⟩
  · rintro ⟨⟨acceleration, speedMissing⟩, yawRate, headingMissing⟩
    refine ⟨acceleration, yawRate, speedMissing, headingMissing, fun others => ?_⟩
    exact if_pos ((encodable_iff _).mpr ⟨others, acceleration, yawRate⟩)

/-- The samples that a callback leaves. -/
theorem step_samples {fix : PositionFix × ℚ} {after : CamTimer}
    (taken : CamTimer.step config timer fix = some after) :
    speedChannel.IsSample after.lastSpeed ∧ headingChannel.IsSample after.lastHeading := by
  unfold CamTimer.step at taken
  split at taken
  · rename_i called
    have left := congrArg Prod.snd called
    cases taken
    change timerAfter timer fix.1 fix.2 = after at left
    rw [← left]
    exact ⟨speedChannel.sample_isSample _, headingChannel.sample_isSample _⟩
  · cases taken

/-- **No cast to `int` overflows** in a run: a difference is taken of samples. -/
theorem reachable_fits
    (reached : Reachable (· = CamTimer.initial) (CamTimer.step config) timer) :
    (Channel.Derives timer.lastSpeed timer.timeSpeed (speedChannel.sample position.speed) millisNow →
        |(speedChannel.sample position.speed - timer.lastSpeed) * 10| < 2 ^ 31) ∧
      (Channel.Derives timer.lastHeading timer.timeHeading (headingChannel.sample position.course)
          millisNow →
        |(headingChannel.sample position.course - timer.lastHeading) * 100| < 2 ^ 31) := by
  cases reached with
  | start first =>
    rw [first]
    exact ⟨fun derives => absurd rfl derives.1, fun derives => absurd rfl derives.1⟩
  | next _ _ taken =>
    obtain ⟨speed, heading⟩ := step_samples taken
    have speedNow := speedChannel.sample_isSample position.speed
    have headingNow := headingChannel.sample_isSample position.course
    unfold Channel.IsSample speedChannel at speed speedNow
    unfold Channel.IsSample headingChannel at heading headingNow
    dsimp only at speed speedNow heading headingNow
    constructor
    · intro _
      rw [abs_lt]
      unfold speedChannel
      omega
    · intro _
      rw [abs_lt]
      unfold headingChannel
      omega

/-- The property holds at every callback of a run. -/
def AtEach (config : CamConfig) (P : CamTimer → PositionFix → ℚ → Prop) :
    CamTimer → List (PositionFix × ℚ) → Prop
  | _, [] => True
  | timer, fix :: rest =>
    P timer fix.1 fix.2 ∧
      ∀ after, CamTimer.step config timer fix = some after → AtEach config P after rest

/-- What is the same at every callback is the same of a run. -/
theorem atEach_congr {P Q : CamTimer → PositionFix → ℚ → Prop}
    (same : ∀ timer position millisNow, P timer position millisNow ↔ Q timer position millisNow)
    (fixes : List (PositionFix × ℚ)) :
    ∀ timer, AtEach config P timer fixes ↔ AtEach config Q timer fixes := by
  induction fixes with
  | nil => exact fun _ => Iff.rfl
  | cons fix rest ih =>
    intro timer
    unfold AtEach
    rw [same]
    exact and_congr_right fun _ => forall_congr' fun after => imp_congr_right fun _ => ih after

/-- **When the generated CAMs are right.** In every run of callbacks, the derivatives are in range and
unavailable where they should be at each of them, and no exception is thrown for them, if and only if the
samples are smooth at each of them. -/
theorem cam_timer_valid_iff (config : CamConfig) (fixes : List (PositionFix × ℚ)) :
    AtEach config (TimerRight config) CamTimer.initial fixes ↔
      AtEach config SmoothFix CamTimer.initial fixes :=
  atEach_congr (fun _ _ _ => timerRight_iff) fixes CamTimer.initial

end Callback

/-- A car on the origin. -/
def carConfig : CamConfig := ⟨99, 15, 10, 3⟩

def movingAt (speed : ℚ) : PositionFix := ⟨0, 0, some 90, some speed, none⟩

/-- **From standstill to the speed 20 in one second**: the acceleration is 200, and the exception leaves the
callback. -/
theorem cam_timer_throws :
    ¬ ∀ (config : CamConfig) (fixes : List (PositionFix × ℚ)),
      AtEach config (TimerRight config) CamTimer.initial fixes := by
  intro claimed
  obtain ⟨-, next⟩ := claimed carConfig [(movingAt 0, 1), (movingAt 20, 2)]
  obtain ⟨right, -⟩ := next ⟨0, 1, 90, 1⟩ (by decide +kernel)
  have returned := right.returns (by unfold OthersEncodable; decide +kernel)
  exact absurd returned (by decide +kernel)

end Vanet.Socktap
