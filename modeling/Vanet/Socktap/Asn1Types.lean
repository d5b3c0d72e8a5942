/-
**The types of CAM and DENM**, each as its generated function marshals it. The members that are not
marshalled are left out.
-/

import Vanet.Socktap.Asn1

namespace Vanet.Socktap

namespace Asn1Type

/-! ### CAM -/

def itsPduHeader : Asn1Type :=
  .sequence [.required "protocolVersion" .integer, .required "messageID" .integer,
    .required "stationID" .integer]

def posConfidenceEllipse : Asn1Type :=
  .sequence [.required "semiMajorConfidence" .integer, .required "semiMinorConfidence" .integer,
    .required "semiMajorOrientation" .integer]

def altitude : Asn1Type :=
  .sequence [.required "altitudeValue" .integer, .required "altitudeConfidence" .integer]

def referencePosition : Asn1Type :=
  .sequence [.required "latitude" .integer, .required "longitude" .integer,
    .required "positionConfidenceEllipse" .posConfidenceEllipse, .required "altitude" .altitude]

def basicContainer : Asn1Type :=
  .sequence [.required "stationType" .integer, .required "referencePosition" .referencePosition]

def heading : Asn1Type :=
  .sequence [.required "headingValue" .integer, .required "headingConfidence" .integer]

def speed : Asn1Type :=
  .sequence [.required "speedValue" .integer, .required "speedConfidence" .integer]

def vehicleLength : Asn1Type :=
  .sequence [.required "vehicleLengthValue" .integer,
    .required "vehicleLengthConfidenceIndication" .integer]

def longitudinalAcceleration : Asn1Type :=
  .sequence [.required "longitudinalAccelerationValue" .integer,
    .required "longitudinalAccelerationConfidence" .integer]

def curvature : Asn1Type :=
  .sequence [.required "curvatureValue" .integer, .required "curvatureConfidence" .integer]

def yawRate : Asn1Type :=
  .sequence [.required "yawRateValue" .integer, .required "yawRateConfidence" .integer]

def accelerationControl : Asn1Type :=
  .bitString ["brakePedalEngaged", "gasPedalEngaged", "emergencyBrakeEngaged",
    "collisionWarningEngaged", "accEngaged", "cruiseControlEngaged", "speedLimiterEngaged"]

def steeringWheelAngle : Asn1Type :=
  .sequence [.required "steeringWheelAngleValue" .integer,
    .required "steeringWheelAngleConfidence" .integer]

def lateralAcceleration : Asn1Type :=
  .sequence [.required "lateralAccelerationValue" .integer,
    .required "lateralAccelerationConfidence" .integer]

def verticalAcceleration : Asn1Type :=
  .sequence [.required "verticalAccelerationValue" .integer,
    .required "verticalAccelerationConfidence" .integer]

def cenDsrcTollingZone : Asn1Type :=
  .sequence [.required "protectedZoneLatitude" .integer,
    .required "protectedZoneLongitude" .integer, .optional "cenDsrcTollingZoneID" .integer]

def basicVehicleContainerHighFrequency : Asn1Type :=
  .sequence [.required "heading" .heading, .required "speed" .speed,
    .required "driveDirection" .integer, .required "vehicleLength" .vehicleLength,
    .required "vehicleWidth" .integer,
    .required "longitudinalAcceleration" .longitudinalAcceleration,
    .required "curvature" .curvature, .required "curvatureCalculationMode" .integer,
    .required "yawRate" .yawRate, .optional "accelerationControl" .accelerationControl,
    .optional "lanePosition" .integer, .optional "steeringWheelAngle" .steeringWheelAngle,
    .optional "lateralAcceleration" .lateralAcceleration,
    .optional "verticalAcceleration" .verticalAcceleration, .optional "performanceClass" .integer,
    .optional "cenDsrcTollingZone" .cenDsrcTollingZone]

def protectedCommunicationZone : Asn1Type :=
  .sequence [.required "protectedZoneType" .integer, .required "protectedZoneLatitude" .integer,
    .required "protectedZoneLongitude" .integer, .optional "protectedZoneRadius" .integer,
    .optional "protectedZoneID" .integer]

def protectedCommunicationZonesRSU : Asn1Type := .sequenceOf .protectedCommunicationZone

def rsuContainerHighFrequency : Asn1Type :=
  .sequence [.optional "protectedCommunicationZonesRSU" .protectedCommunicationZonesRSU]

def highFrequencyContainer : Asn1Type :=
  .choice [.required "basicVehicleContainerHighFrequency" .basicVehicleContainerHighFrequency,
    .required "rsuContainerHighFrequency" .rsuContainerHighFrequency]

def exteriorLights : Asn1Type :=
  .bitString ["lowBeamHeadlightsOn", "highBeamHeadlightsOn", "leftTurnSignalOn",
    "rightTurnSignalOn", "daytimeRunningLightsOn", "reverseLightOn", "fogLightOn",
    "parkingLightsOn"]

def deltaReferencePosition : Asn1Type :=
  .sequence [.required "deltaLatitude" .integer, .required "deltaLongitude" .integer,
    .required "deltaAltitude" .integer]

def pathPoint : Asn1Type :=
  .sequence [.required "pathPosition" .deltaReferencePosition, .optional "pathDeltaTime" .integer]

def pathHistory : Asn1Type := .sequenceOf .pathPoint

def basicVehicleContainerLowFrequency : Asn1Type :=
  .sequence [.required "vehicleRole" .integer, .required "exteriorLights" .exteriorLights,
    .required "pathHistory" .pathHistory]

def lowFrequencyContainer : Asn1Type :=
  .choice [.required "basicVehicleContainerLowFrequency" .basicVehicleContainerLowFrequency]

def ptActivation : Asn1Type :=
  .sequence [.required "ptActivationType" .integer, .required "ptActivationData" .octetString]

def publicTransportContainer : Asn1Type :=
  .sequence [.required "embarkationStatus" .integer, .optional "ptActivation" .ptActivation]

def specialTransportType : Asn1Type :=
  .bitString ["heavyLoad", "excessWidth", "excessLength", "excessHeight"]

def lightBarSirenInUse : Asn1Type := .bitString ["lightBarActivated", "sirenActivated"]

def specialTransportContainer : Asn1Type :=
  .sequence [.required "specialTransportType" .specialTransportType,
    .required "lightBarSirenInUse" .lightBarSirenInUse]

def dangerousGoodsContainer : Asn1Type := .sequence [.required "dangerousGoodsBasic" .integer]

def drivingLaneStatus : Asn1Type := .bitString []

def closedLanes : Asn1Type :=
  .sequence [.optional "innerhardShoulderStatus" .integer,
    .optional "outerhardShoulderStatus" .integer, .optional "drivingLaneStatus" .drivingLaneStatus]

def roadWorksContainerBasic : Asn1Type :=
  .sequence [.required "lightBarSirenInUse" .lightBarSirenInUse,
    .optional "roadworksSubCauseCode" .integer, .optional "closedLanes" .closedLanes]

def rescueContainer : Asn1Type := .sequence [.required "lightBarSirenInUse" .lightBarSirenInUse]

def causeCode : Asn1Type :=
  .sequence [.required "causeCode" .integer, .required "subCauseCode" .integer]

def emergencyPriority : Asn1Type :=
  .bitString ["requestForRightOfWay", "requestForFreeCrossingAtATrafficLight"]

def emergencyContainer : Asn1Type :=
  .sequence [.required "lightBarSirenInUse" .lightBarSirenInUse,
    .optional "incidentIndication" .causeCode, .optional "emergencyPriority" .emergencyPriority]

def safetyCarContainer : Asn1Type :=
  .sequence [.required "lightBarSirenInUse" .lightBarSirenInUse,
    .optional "incidentIndication" .causeCode, .optional "trafficRule" .integer,
    .optional "speedLimit" .integer]

def specialVehicleContainer : Asn1Type :=
  .choice [.required "publicTransportContainer" .publicTransportContainer,
    .required "specialTransportContainer" .specialTransportContainer,
    .required "dangerousGoodsContainer" .dangerousGoodsContainer,
    .required "roadWorksContainerBasic" .roadWorksContainerBasic,
    .required "rescueContainer" .rescueContainer,
    .required "emergencyContainer" .emergencyContainer,
    .required "safetyCarContainer" .safetyCarContainer]

def camParameters : Asn1Type :=
  .sequence [.required "basicContainer" .basicContainer,
    .required "highFrequencyContainer" .highFrequencyContainer,
    .optional "lowFrequencyContainer" .lowFrequencyContainer,
    .optional "specialVehicleContainer" .specialVehicleContainer]

def coopAwareness : Asn1Type :=
  .sequence [.required "generationDeltaTime" .integer, .required "camParameters" .camParameters]

def cam : Asn1Type := .sequence [.required "header" .itsPduHeader, .required "cam" .coopAwareness]

/-! ### DENM -/

def actionID : Asn1Type :=
  .sequence [.required "originatingStationID" .integer, .required "sequenceNumber" .integer]

def managementContainer : Asn1Type :=
  .sequence [.required "actionID" .actionID, .required "detectionTime" .integer,
    .required "referenceTime" .integer, .required "eventPosition" .referencePosition,
    .required "stationType" .integer, .optional "termination" .integer,
    .optional "relevanceDistance" .integer, .optional "relevanceTrafficDirection" .integer,
    .optional "transmissionInterval" .integer]

def eventPoint : Asn1Type :=
  .sequence [.required "eventPosition" .deltaReferencePosition,
    .required "informationQuality" .integer, .optional "eventDeltaTime" .integer]

def eventHistory : Asn1Type := .sequenceOf .eventPoint

def situationContainer : Asn1Type :=
  .sequence [.required "informationQuality" .integer, .required "eventType" .causeCode,
    .optional "linkedCause" .causeCode, .optional "eventHistory" .eventHistory]

def traces : Asn1Type := .sequenceOf .pathHistory

def locationContainer : Asn1Type :=
  .sequence [.required "traces" .traces, .optional "eventSpeed" .speed,
    .optional "eventPositionHeading" .heading, .optional "roadType" .integer]

def positionOfPillars : Asn1Type := .sequenceOf .integer

def positionOfOccupants : Asn1Type :=
  .bitString ["row1LeftOccupied", "row1RightOccupied", "row1MidOccupied", "row1NotDetectable",
    "row1NotPresent", "row2LeftOccupied", "row2RightOccupied", "row2MidOccupied",
    "row2NotDetectable", "row2NotPresent", "row3LeftOccupied", "row3RightOccupied",
    "row3MidOccupied", "row3NotDetectable", "row3NotPresent", "row4LeftOccupied",
    "row4RightOccupied", "row4MidOccupied", "row4NotDetectable", "row4NotPresent"]

def impactReductionContainer : Asn1Type :=
  .sequence [.required "heightLonCarrLeft" .integer, .required "heightLonCarrRight" .integer,
    .required "posLonCarrLeft" .integer, .required "posLonCarrRight" .integer,
    .required "positionOfPillars" .positionOfPillars, .required "posCentMass" .integer,
    .required "wheelBaseVehicle" .integer, .required "turningRadius" .integer,
    .required "posFrontAx" .integer, .required "positionOfOccupants" .positionOfOccupants,
    .required "vehicleMass" .integer, .required "requestResponseIndication" .integer]

def restrictedTypes : Asn1Type := .sequenceOf .integer

def itineraryPath : Asn1Type := .sequenceOf .referencePosition

def referenceDenms : Asn1Type := .sequenceOf .actionID

def roadWorksContainerExtended : Asn1Type :=
  .sequence [.optional "lightBarSirenInUse" .lightBarSirenInUse,
    .optional "closedLanes" .closedLanes, .optional "restriction" .restrictedTypes,
    .optional "speedLimit" .integer, .optional "incidentIndication" .causeCode,
    .optional "recommendedPath" .itineraryPath,
    .optional "startingPointSpeedLimit" .deltaReferencePosition,
    .optional "trafficFlowRule" .integer, .optional "referenceDenms" .referenceDenms]

def dangerousGoodsExtended : Asn1Type :=
  .sequence [.required "dangerousGoodsType" .integer, .required "unNumber" .integer,
    .required "elevatedTemperature" .integer, .required "tunnelsRestricted" .integer,
    .required "limitedQuantity" .integer, .optional "emergencyActionCode" .octetString,
    .optional "companyName" .octetString]

def vehicleIdentification : Asn1Type := .sequence []

def energyStorageType : Asn1Type :=
  .bitString ["hydrogenStorage", "electricEnergyStorage", "liquidPropaneGas",
    "compressedNaturalGas", "diesel", "gasoline", "ammonia"]

def stationaryVehicleContainer : Asn1Type :=
  .sequence [.optional "stationarySince" .integer, .optional "stationaryCause" .causeCode,
    .optional "carryingDangerousGoods" .dangerousGoodsExtended,
    .optional "numberOfOccupants" .integer,
    .optional "vehicleIdentification" .vehicleIdentification,
    .optional "energyStorageType" .energyStorageType]

def alacarteContainer : Asn1Type :=
  .sequence [.optional "lanePosition" .integer,
    .optional "impactReduction" .impactReductionContainer,
    .optional "externalTemperature" .integer, .optional "roadWorks" .roadWorksContainerExtended,
    .optional "positioningSolution" .integer,
    .optional "stationaryVehicle" .stationaryVehicleContainer]

def decentralizedEnvironmentalNotificationMessage : Asn1Type :=
  .sequence [.required "management" .managementContainer,
    .optional "situation" .situationContainer, .optional "location" .locationContainer,
    .optional "alacarte" .alacarteContainer]

def denm : Asn1Type :=
  .sequence [.required "header" .itsPduHeader,
    .required "denm" .decentralizedEnvironmentalNotificationMessage]

end Asn1Type

end Vanet.Socktap
