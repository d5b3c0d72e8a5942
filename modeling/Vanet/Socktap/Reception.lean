/-
**What the applications do with a received message.**

The decoder gives an object of the message's type, or nothing. `CamApplication` and `DenmApplication`
use the object whether there is one or not, and `buildJSON` of a CAM takes its container for a
vehicle's one with an acceleration control. So a DENM is published exactly when it has been decoded,
and a CAM when it is such a vehicle's as well (`indicate_safe_iff`).
-/

import Vanet.Socktap.Asn1Types

namespace Vanet.Socktap

open Vanet.Net

/-! ### Numbers of a message -/

namespace Asn1

/-- A member of a member. -/
def follow (object : Asn1) (path : List String) : Asn1 := path.foldl member object

def number (object : Asn1) (path : List String) : Except Fault ℤ := (object.follow path).readInteger

end Asn1

namespace Asn1Type

/-- The type of a member that is not optional. -/
def requiredMember : List Asn1Member → String → Option Asn1Type
  | [], _ => none
  | .required other type :: rest, name =>
    if other = name then some type else requiredMember rest name
  | .optional _ _ :: rest, name => requiredMember rest name

/-- The type of what the path leads to. -/
def along : Asn1Type → List String → Option Asn1Type
  | type, [] => some type
  | .sequence members, name :: rest => (requiredMember members name).bind fun type => type.along rest
  | _, _ :: _ => none

/-- A path to a number. -/
def hasNumber (type : Asn1Type) (path : List String) : Bool :=
  match type.along path with
  | some .integer => true
  | _ => false

theorem requiredMember_mem {members : List Asn1Member} {name : String} {type : Asn1Type}
    (found : requiredMember members name = some type) : .required name type ∈ members := by
  induction members with
  | nil => cases found
  | cons first rest ih =>
    cases first with
    | required other own =>
      unfold requiredMember at found
      split_ifs at found with same
      · subst same
        cases found
        exact List.mem_cons_self
      · exact List.mem_cons_of_mem _ (ih found)
    | optional other own =>
      unfold requiredMember at found
      exact List.mem_cons_of_mem _ (ih found)

end Asn1Type

section Paths

variable {object : Asn1}

/-- **A path along members that are not optional** leads to an object of its type. -/
theorem Holds.along {target : Asn1Type} (path : List String) :
    ∀ {type : Asn1Type} {object : Asn1}, Holds type object → type.along path = some target →
      Holds target (object.follow path) := by
  induction path with
  | nil =>
    intro type object holds leads
    cases leads
    exact holds
  | cons name rest ih =>
    intro type object holds leads
    cases type with
    | sequence members =>
      obtain ⟨next, found, further⟩ := Option.bind_eq_some_iff.mp leads
      unfold Holds at holds
      exact ih (holds.required (Asn1Type.requiredMember_mem found)) further
    | integer => cases leads
    | octetString => cases leads
    | bitString names => cases leads
    | choice alternatives => cases leads
    | sequenceOf element => cases leads

theorem Holds.number {type : Asn1Type} (holds : Holds type object) (path : List String)
    (leads : type.hasNumber path = true) : ∃ n, object.number path = .ok n := by
  unfold Asn1Type.hasNumber at leads
  split at leads
  · rename_i reached
    have number := holds.along path reached
    unfold Holds at number
    obtain ⟨n, same⟩ := number
    refine ⟨n, ?_⟩
    unfold Asn1.number
    rw [same]
    rfl
  · cases leads

end Paths

/-! ### Applications -/

/-- The settings of an application. -/
structure Settings where
  mqttEnabled : Bool
  ddsEnabled : Bool
  topicOut : String
  fullTopicOut : String
  udpOutPort : ℕ
  stationId : ℕ
  stationType : ℕ

/-- A received payload, and the clocks' times while it is handled. -/
structure Reception where
  payload : ByteBuffer
  timeReceived : ℚ
  rssi : ℤ
  timeNow : ℚ
  timePublished : ℚ

/-- What has been published. -/
inductive Output
  | mqtt (topic : String) (json : Json)
  | dds (topic : String) (json : Json)
  | udp (json : Json)

/-- The publications on a topic. -/
def publish (settings : Settings) (topic : String) (json : Json) : List Output :=
  (if settings.mqttEnabled then [.mqtt topic json] else []) ++
    if settings.ddsEnabled then [.dds topic json] else []

/-! ### CAM -/

/-- The last position of a station. -/
structure LastMap where
  lat : ℚ
  lng : ℚ
  time : ℚ
  deriving DecidableEq

structure CamApplication where
  persistence : ℤ → Option LastMap
  outputs : List Output

/-- The containers of a CAM. -/
def Asn1.basicContainer (message : Asn1) : Asn1 :=
  message.follow ["cam", "camParameters", "basicContainer"]

def Asn1.highFrequencyContainer (message : Asn1) : Asn1 :=
  message.follow ["cam", "camParameters", "highFrequencyContainer"]

namespace CamApplication

/-- The numbers that are taken from the basic container. -/
def basicNumbers : List (String × List String) :=
  [("stationType", ["stationType"]),
    ("latitude", ["referencePosition", "latitude"]),
    ("longitude", ["referencePosition", "longitude"]),
    ("semiMajorConf", ["referencePosition", "positionConfidenceEllipse", "semiMajorConfidence"]),
    ("semiMinorConf", ["referencePosition", "positionConfidenceEllipse", "semiMinorConfidence"]),
    ("semiMajorOrient", ["referencePosition", "positionConfidenceEllipse", "semiMajorOrientation"]),
    ("altitude", ["referencePosition", "altitude", "altitudeValue"]),
    ("altitudeConf", ["referencePosition", "altitude", "altitudeConfidence"])]

/-- ... and from the container of a vehicle. -/
def vehicleNumbers : List (String × List String) :=
  [("heading", ["heading", "headingValue"]),
    ("headingConf", ["heading", "headingConfidence"]),
    ("speed", ["speed", "speedValue"]),
    ("speedConf", ["speed", "speedConfidence"]),
    ("length", ["vehicleLength", "vehicleLengthValue"]),
    ("width", ["vehicleWidth"]),
    ("acceleration", ["longitudinalAcceleration", "longitudinalAccelerationValue"]),
    ("curvature", ["curvature", "curvatureValue"]),
    ("yawRate", ["yawRate", "yawRateValue"])]

/-- The flags of the acceleration control, from the highest bit of its byte. -/
def accelerationFlags : List (String × ℕ) :=
  [("brakePedal", 7), ("gasPedal", 6), ("emergencyBrake", 5), ("collisionWarning", 4),
    ("accEngaged", 3), ("cruiseControl", 2), ("speedLimiter", 1)]

def readNumbers (object : Asn1) (numbers : List (String × List String)) :
    Except Fault (List (String × Json)) :=
  numbers.mapM fun entry => do
    let n ← object.number entry.2
    pure (entry.1, .integer n)

/-- The first byte of the bit string. -/
def readByte (object : Asn1) : Except Fault UInt8 := do
  let buf ← object.readBits
  match buf with
  | byte :: _ => pure byte
  | [] => .error .absent

def driveDirectionText (driveDirection : ℤ) : String :=
  if driveDirection = 0 then "FORWARD" else if driveDirection = 1 then "BACKWARD" else "UNAVAILABLE"

/-- `buildJSON`. The container of a vehicle and its acceleration control are read without a look
whether they are there. -/
def buildJSON (settings : Settings) (reception : Reception) (app : CamApplication) (message : Asn1) :
    Except Fault (Json × CamApplication) := do
  let bvc ← message.highFrequencyContainer.alternative "basicVehicleContainerHighFrequency"
  let driveDirection ← bvc.number ["driveDirection"]
  let latitude ← message.basicContainer.number ["referencePosition", "latitude"]
  let longitude ← message.basicContainer.number ["referencePosition", "longitude"]
  let stationID ← message.number ["header", "stationID"]
  let newInfo :=
    match app.persistence stationID with
    | none => true
    | some last =>
      last.lat ≠ latitude ∨ last.lng ≠ longitude ∨ reception.timeReceived - last.time ≥ 1
  let fixed ← readNumbers message.basicContainer basicNumbers
  let moving ← readNumbers bvc vehicleNumbers
  let byte ← readByte (bvc.member "accelerationControl")
  let json : Json := .object (
    [("timestamp", .number reception.timeReceived), ("newInfo", .bool newInfo),
      ("rssi", .integer reception.rssi),
      ("test", .object [("json_timestamp", .number reception.timeNow)]),
      ("stationID", .integer stationID), ("receiverID", .integer settings.stationId),
      ("receiverType", .integer settings.stationType),
      ("driveDirection", .text (driveDirectionText driveDirection))] ++ fixed ++ moving ++
    accelerationFlags.map (fun flag => (flag.1, .bool (byte.toNat.testBit flag.2))) ++
    [("specialVehicle",
      .object [("publicTransportContainer", .object [("embarkationStatus", .bool false)])])])
  pure (json,
    if newInfo then
      { app with
        persistence := Function.update app.persistence stationID
          (some ⟨latitude, longitude, reception.timeReceived⟩) }
    else app)

/-- The whole message as JSON. -/
def fullJSON (reception : Reception) (message : Asn1) : Except Fault Json := do
  let fields ← marshal .cam message
  pure (.object [("timestamp", .number reception.timeReceived), ("rssi", .integer reception.rssi),
    ("others", .array [.text "json_timestamp", .number reception.timePublished]), ("fields", fields)])

/-- The second half of `indicate`, if a topic is set for it. -/
def publishFull (settings : Settings) (reception : Reception) (app : CamApplication)
    (message : Asn1) : Except Fault CamApplication :=
  if settings.fullTopicOut ≠ "" then do
    let json ← fullJSON reception message
    pure { app with
      outputs := app.outputs ++ publish settings settings.fullTopicOut json ++
        if settings.udpOutPort ≠ 0 then [.udp json] else [] }
  else pure app

/-- **`CamApplication::indicate`** with the result of the decoder, which is dereferenced in any
case. -/
def indicate (settings : Settings) (decode : ByteBuffer → Option {message : Asn1 // Holds .cam message})
    (reception : Reception) (app : CamApplication) : Except Fault CamApplication :=
  match decode reception.payload with
  | none => .error .absent
  | some message => do
    let (json, app) ← buildJSON settings reception app message.1
    let app := { app with outputs := app.outputs ++ publish settings settings.topicOut json }
    publishFull settings reception app message.1

end CamApplication

/-! ### DENM -/

structure DenmApplication where
  outputs : List Output

namespace DenmApplication

def buildJSON (settings : Settings) (reception : Reception) (message : Asn1) : Except Fault Json := do
  let fields ← marshal .denm message
  let stationID ← message.number ["header", "stationID"]
  pure (.object [("timestamp", .number reception.timeReceived), ("newInfo", .bool true),
    ("rssi", .integer reception.rssi),
    ("test", .object [("json_timestamp", .number reception.timeNow)]),
    ("fields", fields), ("stationID", .integer stationID),
    ("receiverID", .integer settings.stationId), ("receiverType", .integer settings.stationType)])

/-- **`DenmApplication::indicate`** with the result of the decoder. -/
def indicate (settings : Settings)
    (decode : ByteBuffer → Option {message : Asn1 // Holds .denm message}) (reception : Reception)
    (app : DenmApplication) : Except Fault DenmApplication :=
  match decode reception.payload with
  | none => .error .absent
  | some message => do
    let json ← buildJSON settings reception message.1
    pure { app with
      outputs := app.outputs ++ publish settings settings.topicOut json ++
        if settings.udpOutPort ≠ 0 then [.udp json] else [] }

end DenmApplication

/-! ### What is handled without a fault -/

/-- **The CAM of a vehicle with an acceleration control.** -/
def Asn1.VehicleAccelerates (message : Asn1) : Prop :=
  ∃ bvc, message.highFrequencyContainer = .choice "basicVehicleContainerHighFrequency" bvc ∧
    bvc.member "accelerationControl" ≠ .absent

theorem except_bind_ok {α β : Type} {first : Except Fault α} {next : α → Except Fault β}
    {result : β} :
    (first >>= next) = .ok result ↔ ∃ value, first = .ok value ∧ next value = .ok result := by
  cases first with
  | ok value =>
    constructor
    · exact fun ended => ⟨value, rfl, ended⟩
    · rintro ⟨_, ⟨⟩, ended⟩
      exact ended
  | error fault => exact iff_of_false nofun fun ⟨_, impossible, _⟩ => nomatch impossible

section Handled

variable {settings : Settings} {reception : Reception} {message : Asn1}

theorem readNumbers_ok {object : Asn1} {type : Asn1Type} (numbers : List (String × List String))
    (holds : Holds type object) (leads : numbers.all (fun entry => type.hasNumber entry.2) = true) :
    ∃ members, CamApplication.readNumbers object numbers = .ok members := by
  refine mapM_ok fun entry member => ?_
  obtain ⟨n, read⟩ := holds.number entry.2 (List.all_eq_true.mp leads entry member)
  refine ⟨(entry.1, .integer n), ?_⟩
  rw [read]
  rfl

/-- The content of a vehicle's container has its type. -/
theorem vehicle_holds {bvc : Asn1} (holds : Holds .cam message)
    (vehicle : message.highFrequencyContainer = .choice "basicVehicleContainerHighFrequency" bvc) :
    Holds .basicVehicleContainerHighFrequency bvc := by
  have container : Holds .highFrequencyContainer message.highFrequencyContainer :=
    holds.along ["cam", "camParameters", "highFrequencyContainer"] rfl
  rw [vehicle, Asn1Type.highFrequencyContainer] at container
  unfold Holds at container
  obtain ⟨present, content, same, held⟩ := container
  cases same
  unfold HoldsAlternative at held
  rwa [if_pos rfl] at held

/-- The acceleration control has a byte, if it is there. -/
theorem readByte_ok {bvc : Asn1} (holds : Holds .basicVehicleContainerHighFrequency bvc)
    (there : bvc.member "accelerationControl" ≠ .absent) :
    ∃ byte, CamApplication.readByte (bvc.member "accelerationControl") = .ok byte := by
  rw [Asn1Type.basicVehicleContainerHighFrequency] at holds
  unfold Holds at holds
  simp only [HoldsMembers, HoldsMember] at holds
  obtain ⟨_, _, _, _, _, _, _, _, _, control, _⟩ := holds
  have bits := control.resolve_left there
  rw [Asn1Type.accelerationControl] at bits
  unfold Holds at bits
  obtain ⟨buf, same, enough⟩ := bits
  rw [same]
  cases buf with
  | nil => cases enough
  | cons byte rest => exact ⟨byte, rfl⟩

theorem camBuildJSON_ok_iff (app : CamApplication) (holds : Holds .cam message) :
    (∃ result, CamApplication.buildJSON settings reception app message = .ok result) ↔
      message.VehicleAccelerates := by
  unfold CamApplication.buildJSON
  constructor
  · rintro ⟨result, ended⟩
    obtain ⟨bvc, chosen, ended⟩ := except_bind_ok.mp ended
    obtain ⟨_, _, ended⟩ := except_bind_ok.mp ended
    obtain ⟨_, _, ended⟩ := except_bind_ok.mp ended
    obtain ⟨_, _, ended⟩ := except_bind_ok.mp ended
    obtain ⟨_, _, ended⟩ := except_bind_ok.mp ended
    obtain ⟨_, _, ended⟩ := except_bind_ok.mp ended
    obtain ⟨_, _, ended⟩ := except_bind_ok.mp ended
    obtain ⟨byte, read, _⟩ := except_bind_ok.mp ended
    refine ⟨bvc, ?_, ?_⟩
    · unfold Asn1.alternative at chosen
      split at chosen
      · split_ifs at chosen with present
        cases chosen
        rename_i same
        rw [same, present]
      · cases chosen
    · intro missing
      rw [missing] at read
      cases read
  · rintro ⟨bvc, vehicle, there⟩
    have moving := vehicle_holds holds vehicle
    have basic : Holds .basicContainer message.basicContainer :=
      holds.along ["cam", "camParameters", "basicContainer"] rfl
    obtain ⟨driveDirection, direction⟩ := moving.number ["driveDirection"] rfl
    obtain ⟨latitude, north⟩ := basic.number ["referencePosition", "latitude"] rfl
    obtain ⟨longitude, east⟩ := basic.number ["referencePosition", "longitude"] rfl
    obtain ⟨stationID, station⟩ := holds.number ["header", "stationID"] rfl
    obtain ⟨_, fixed⟩ := readNumbers_ok CamApplication.basicNumbers basic rfl
    obtain ⟨_, numbers⟩ := readNumbers_ok CamApplication.vehicleNumbers moving rfl
    obtain ⟨byte, read⟩ := readByte_ok moving there
    have chosen : message.highFrequencyContainer.alternative "basicVehicleContainerHighFrequency" =
        .ok bvc := by
      rw [vehicle]
      rfl
    rw [chosen]
    refine ⟨_, except_bind_ok.mpr ⟨_, rfl, except_bind_ok.mpr ⟨_, direction,
      except_bind_ok.mpr ⟨_, north, except_bind_ok.mpr ⟨_, east, except_bind_ok.mpr ⟨_, station,
        except_bind_ok.mpr ⟨_, fixed, except_bind_ok.mpr ⟨_, numbers,
          except_bind_ok.mpr ⟨_, read, rfl⟩⟩⟩⟩⟩⟩⟩⟩⟩

theorem publishFull_ok (app : CamApplication) (holds : Holds .cam message) :
    ∃ after, CamApplication.publishFull settings reception app message = .ok after := by
  unfold CamApplication.publishFull
  by_cases full : settings.fullTopicOut ≠ ""
  · rw [if_pos full]
    obtain ⟨fields, marshalled⟩ := marshal_ok .cam message holds
    exact ⟨_, except_bind_ok.mpr ⟨_, except_bind_ok.mpr ⟨fields, marshalled, rfl⟩, rfl⟩⟩
  · rw [if_neg full]
    exact ⟨app, rfl⟩

theorem denmBuildJSON_ok (holds : Holds .denm message) :
    ∃ json, DenmApplication.buildJSON settings reception message = .ok json := by
  obtain ⟨fields, marshalled⟩ := marshal_ok .denm message holds
  obtain ⟨stationID, station⟩ := holds.number ["header", "stationID"] rfl
  exact ⟨_, except_bind_ok.mpr ⟨fields, marshalled, except_bind_ok.mpr ⟨stationID, station, rfl⟩⟩⟩

end Handled

/-! ### Safety -/

/-- **A received payload is handled safely**: the application completes, and publishes nothing for a
payload that is not decoded. -/
def CamApplication.Safe (settings : Settings)
    (decode : ByteBuffer → Option {message : Asn1 // Holds .cam message}) (reception : Reception)
    (app : CamApplication) : Prop :=
  ∃ after, app.indicate settings decode reception = .ok after ∧
    (decode reception.payload = none → after.outputs = app.outputs)

def DenmApplication.Safe (settings : Settings)
    (decode : ByteBuffer → Option {message : Asn1 // Holds .denm message}) (reception : Reception)
    (app : DenmApplication) : Prop :=
  ∃ after, app.indicate settings decode reception = .ok after ∧
    (decode reception.payload = none → after.outputs = app.outputs)

/-- **What is handled safely**: the CAM of a vehicle with an acceleration control, and every DENM that
is decoded. -/
theorem indicate_safe_iff (settings : Settings) (reception : Reception)
    (decodeCam : ByteBuffer → Option {message : Asn1 // Holds .cam message})
    (decodeDenm : ByteBuffer → Option {message : Asn1 // Holds .denm message})
    (cam : CamApplication) (denm : DenmApplication) :
    (cam.Safe settings decodeCam reception ↔
      ∃ message, decodeCam reception.payload = some message ∧ message.1.VehicleAccelerates) ∧
    (denm.Safe settings decodeDenm reception ↔
      ∃ message, decodeDenm reception.payload = some message) := by
  unfold CamApplication.Safe DenmApplication.Safe CamApplication.indicate DenmApplication.indicate
  constructor
  · cases decoded : decodeCam reception.payload with
    | none =>
      refine iff_of_false ?_ fun ⟨_, impossible, _⟩ => nomatch impossible
      exact fun ⟨_, impossible, _⟩ => nomatch impossible
    | some message =>
      have built := @camBuildJSON_ok_iff settings reception message.1 cam message.2
      constructor
      · rintro ⟨after, ended, _⟩
        obtain ⟨result, read, _⟩ := except_bind_ok.mp ended
        exact ⟨message, rfl, built.mp ⟨result, read⟩⟩
      · rintro ⟨_, ⟨⟩, vehicle⟩
        obtain ⟨⟨json, app⟩, read⟩ := built.mpr vehicle
        obtain ⟨after, published⟩ := @publishFull_ok settings reception message.1
          { app with outputs := app.outputs ++ publish settings settings.topicOut json } message.2
        exact ⟨after, except_bind_ok.mpr ⟨(json, app), read, published⟩, nofun⟩
  · cases decoded : decodeDenm reception.payload with
    | none =>
      refine iff_of_false ?_ fun ⟨_, impossible⟩ => nomatch impossible
      exact fun ⟨_, impossible, _⟩ => nomatch impossible
    | some message =>
      obtain ⟨json, built⟩ := @denmBuildJSON_ok settings reception message.1 message.2
      refine iff_of_true ⟨_, except_bind_ok.mpr ⟨json, built, rfl⟩, nofun⟩ ⟨message, rfl⟩

/-! ### Messages that are not -/

/-- A SEQUENCE of numbers, all of them zero. -/
def zeros (names : List String) : Asn1 := .sequence (names.map fun name => (name, .integer 0))

/-- A CAM with this container and without any optional one. -/
def camOf (container : Asn1) : Asn1 :=
  .sequence [("header", zeros ["protocolVersion", "messageID", "stationID"]),
    ("cam", .sequence [("generationDeltaTime", .integer 0),
      ("camParameters", .sequence [
        ("basicContainer", .sequence [("stationType", .integer 0),
          ("referencePosition", .sequence [("latitude", .integer 0), ("longitude", .integer 0),
            ("positionConfidenceEllipse",
              zeros ["semiMajorConfidence", "semiMinorConfidence", "semiMajorOrientation"]),
            ("altitude", zeros ["altitudeValue", "altitudeConfidence"])])]),
        ("highFrequencyContainer", container)])])]

/-- A vehicle's container without any optional member. -/
def bareVehicle : Asn1 :=
  .sequence [("heading", zeros ["headingValue", "headingConfidence"]),
    ("speed", zeros ["speedValue", "speedConfidence"]), ("driveDirection", .integer 0),
    ("vehicleLength", zeros ["vehicleLengthValue", "vehicleLengthConfidenceIndication"]),
    ("vehicleWidth", .integer 0),
    ("longitudinalAcceleration",
      zeros ["longitudinalAccelerationValue", "longitudinalAccelerationConfidence"]),
    ("curvature", zeros ["curvatureValue", "curvatureConfidence"]),
    ("curvatureCalculationMode", .integer 0), ("yawRate", zeros ["yawRateValue", "yawRateConfidence"])]

theorem camOf_holds {container : Asn1} (holds : Holds .highFrequencyContainer container) :
    Holds .cam (camOf container) := by
  simp [Asn1Type.cam, Asn1Type.itsPduHeader, Asn1Type.coopAwareness, Asn1Type.camParameters,
    Asn1Type.basicContainer, Asn1Type.referencePosition, Asn1Type.posConfidenceEllipse,
    Asn1Type.altitude, Holds, HoldsMembers, HoldsMember, camOf, zeros, Asn1.member, List.lookup_cons]
  exact holds

/-- A CAM of a road-side unit. -/
def roadsideCam : {message : Asn1 // Holds .cam message} :=
  ⟨camOf (.choice "rsuContainerHighFrequency" (.sequence [])), camOf_holds (by
    simp [Asn1Type.highFrequencyContainer, Asn1Type.rsuContainerHighFrequency, Holds, HoldsMembers,
      HoldsMember, HoldsAlternative, Asn1.member])⟩

/-- A CAM of a vehicle without an acceleration control. -/
def bareVehicleCam : {message : Asn1 // Holds .cam message} :=
  ⟨camOf (.choice "basicVehicleContainerHighFrequency" bareVehicle), camOf_holds (by
    simp [Asn1Type.highFrequencyContainer, Asn1Type.basicVehicleContainerHighFrequency,
      Asn1Type.heading, Asn1Type.speed, Asn1Type.vehicleLength, Asn1Type.longitudinalAcceleration,
      Asn1Type.curvature, Asn1Type.yawRate, Holds, HoldsMembers, HoldsMember, HoldsAlternative,
      bareVehicle, zeros, Asn1.member, List.lookup_cons])⟩

/-- **Payloads that are not handled safely**: one that is not decoded, a road-side unit's CAM, and a
CAM without an acceleration control. -/
theorem not_indicate_safe :
    ¬ (∀ settings decode reception (app : CamApplication), app.Safe settings decode reception) ∧
    ¬ (∀ settings decode reception (app : DenmApplication), app.Safe settings decode reception) ∧
    (∀ settings reception (app : CamApplication),
      ¬ app.Safe settings (fun _ => some roadsideCam) reception) ∧
    ∀ settings reception (app : CamApplication),
      ¬ app.Safe settings (fun _ => some bareVehicleCam) reception := by
  have settings : Settings := ⟨true, false, "", "", 0, 0, 0⟩
  have reception : Reception := ⟨[], 0, 0, 0, 0⟩
  refine ⟨fun safe => ?_, fun safe => ?_, fun settings reception app safe => ?_,
    fun settings reception app safe => ?_⟩
  · obtain ⟨_, impossible, _⟩ := safe settings (fun _ => none) reception ⟨fun _ => none, []⟩
    cases impossible
  · obtain ⟨_, impossible, _⟩ := safe settings (fun _ => none) reception ⟨[]⟩
    cases impossible
  · obtain ⟨_, ended, _⟩ := safe
    obtain ⟨result, built, _⟩ := except_bind_ok.mp ended
    obtain ⟨bvc, vehicle, _⟩ := (camBuildJSON_ok_iff app roadsideCam.2).mp ⟨result, built⟩
    exact absurd (Asn1.choice.inj vehicle).1 (by decide)
  · obtain ⟨_, ended, _⟩ := safe
    obtain ⟨result, built, _⟩ := except_bind_ok.mp ended
    obtain ⟨bvc, vehicle, there⟩ := (camBuildJSON_ok_iff app bareVehicleCam.2).mp ⟨result, built⟩
    cases vehicle
    exact there rfl

end Vanet.Socktap
