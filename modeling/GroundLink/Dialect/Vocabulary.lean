import GroundLink.Dialect.Field

/-!
# The vocabulary of the common dialect

The types of the constrained fields: for an enumeration the spans of values
that it names, both ends included, and for a set of flags the mask of the bits
that have a meaning.
-/

namespace GroundLink.Dialect

/-! ## Enumerations -/

def adsbAltitudeType : Constraint := .oneOf "AdsbAltitudeType" [(0, 1)]

def adsbEmitterType : Constraint := .oneOf "AdsbEmitterType" [(0, 19)]

def aisNavStatus : Constraint := .oneOf "AisNavStatus" [(0, 15)]

def aisType : Constraint := .oneOf "AisType" [(0, 99)]

def cameraMode : Constraint := .oneOf "CameraMode" [(0, 2)]

def cameraTrackingMode : Constraint := .oneOf "CameraTrackingMode" [(0, 2)]

def cameraTrackingStatusFlags : Constraint :=
  .oneOf "CameraTrackingStatusFlags" [(0, 2)]

def canFilterOp : Constraint := .oneOf "CanFilterOp" [(0, 2)]

def cellularConfigResponse : Constraint :=
  .oneOf "CellularConfigResponse" [(0, 4)]

def cellularNetworkFailedReason : Constraint :=
  .oneOf "CellularNetworkFailedReason" [(0, 3)]

def cellularNetworkRadioType : Constraint :=
  .oneOf "CellularNetworkRadioType" [(0, 4)]

def cellularStatusFlag : Constraint := .oneOf "CellularStatusFlag" [(0, 12)]

def escConnectionType : Constraint := .oneOf "EscConnectionType" [(0, 5)]

def fenceBreach : Constraint := .oneOf "FenceBreach" [(0, 3)]

def gpsFixType : Constraint := .oneOf "GpsFixType" [(0, 8)]

def magCalStatus : Constraint := .oneOf "MagCalStatus" [(0, 7)]

def mavAutopilot : Constraint := .oneOf "MavAutopilot" [(0, 20)]

def mavBatteryFunction : Constraint := .oneOf "MavBatteryFunction" [(0, 4)]

def mavBatteryType : Constraint := .oneOf "MavBatteryType" [(0, 4)]

def mavCmd : Constraint := .oneOf "MavCmd" [
    (16, 25), (30, 34), (80, 82), (84, 85), (92, 95), (112, 115), (159, 159),
    (176, 187), (189, 198), (200, 214), (220, 224), (240, 243), (245, 246),
    (252, 252), (260, 260), (300, 300), (310, 311), (400, 401), (405, 405),
    (410, 410), (420, 420), (500, 500), (510, 512), (519, 522), (525, 533),
    (600, 601), (1000, 1001), (2000, 2005), (2010, 2010), (2500, 2505),
    (2510, 2511), (2520, 2520), (2600, 2600), (2800, 2800), (3000, 3001),
    (4000, 4001), (4501, 4501), (5000, 5004), (5100, 5100), (5200, 5200),
    (10001, 10001), (30001, 30002), (31000, 31014), (32000, 32000),
    (42006, 42006), (42600, 42600)]

def mavCollisionAction : Constraint := .oneOf "MavCollisionAction" [(0, 6)]

def mavCollisionSrc : Constraint := .oneOf "MavCollisionSrc" [(0, 1)]

def mavCollisionThreatLevel : Constraint :=
  .oneOf "MavCollisionThreatLevel" [(0, 2)]

def mavDistanceSensor : Constraint := .oneOf "MavDistanceSensor" [(0, 4)]

def mavEstimatorType : Constraint := .oneOf "MavEstimatorType" [(0, 8)]

def mavEventErrorReason : Constraint := .oneOf "MavEventErrorReason" [(0, 0)]

def mavFrame : Constraint := .oneOf "MavFrame" [(0, 21)]

def mavLandedState : Constraint := .oneOf "MavLandedState" [(0, 4)]

def mavMissionResult : Constraint := .oneOf "MavMissionResult" [(0, 15)]

def mavMode : Constraint := .oneOf "MavMode" [
    (0, 0), (64, 64), (66, 66), (80, 80), (88, 88), (92, 92), (192, 192),
    (194, 194), (208, 208), (216, 216), (220, 220)]

def mavOdidArmStatus : Constraint := .oneOf "MavOdidArmStatus" [(0, 1)]

def mavOdidAuthType : Constraint := .oneOf "MavOdidAuthType" [(0, 5)]

def mavOdidCategoryEu : Constraint := .oneOf "MavOdidCategoryEu" [(0, 3)]

def mavOdidClassEu : Constraint := .oneOf "MavOdidClassEu" [(0, 7)]

def mavOdidClassificationType : Constraint :=
  .oneOf "MavOdidClassificationType" [(0, 1)]

def mavOdidDescType : Constraint := .oneOf "MavOdidDescType" [(0, 2)]

def mavOdidHeightRef : Constraint := .oneOf "MavOdidHeightRef" [(0, 1)]

def mavOdidHorAcc : Constraint := .oneOf "MavOdidHorAcc" [(0, 12)]

def mavOdidIdType : Constraint := .oneOf "MavOdidIdType" [(0, 4)]

def mavOdidOperatorIdType : Constraint :=
  .oneOf "MavOdidOperatorIdType" [(0, 0)]

def mavOdidOperatorLocationType : Constraint :=
  .oneOf "MavOdidOperatorLocationType" [(0, 2)]

def mavOdidSpeedAcc : Constraint := .oneOf "MavOdidSpeedAcc" [(0, 4)]

def mavOdidStatus : Constraint := .oneOf "MavOdidStatus" [(0, 4)]

def mavOdidTimeAcc : Constraint := .oneOf "MavOdidTimeAcc" [(0, 15)]

def mavOdidUaType : Constraint := .oneOf "MavOdidUaType" [(0, 15)]

def mavOdidVerAcc : Constraint := .oneOf "MavOdidVerAcc" [(0, 6)]

def mavParamExtType : Constraint := .oneOf "MavParamExtType" [(1, 11)]

def mavParamType : Constraint := .oneOf "MavParamType" [(1, 10)]

def mavResult : Constraint := .oneOf "MavResult" [(0, 6)]

def mavSensorOrientation : Constraint :=
  .oneOf "MavSensorOrientation" [(0, 40), (100, 100)]

def mavSeverity : Constraint := .oneOf "MavSeverity" [(0, 7)]

def mavState : Constraint := .oneOf "MavState" [(0, 8)]

def mavTunnelPayloadType : Constraint :=
  .oneOf "MavTunnelPayloadType" [(0, 0), (200, 209)]

def mavType : Constraint := .oneOf "MavType" [(0, 42)]

def mavVtolState : Constraint := .oneOf "MavVtolState" [(0, 4)]

def mavlinkDataStreamType : Constraint :=
  .oneOf "MavlinkDataStreamType" [(0, 5)]

def paramAck : Constraint := .oneOf "ParamAck" [(0, 3)]

def rtkBaselineCoordinateSystem : Constraint :=
  .oneOf "RtkBaselineCoordinateSystem" [(0, 1)]

def serialControlDev : Constraint :=
  .oneOf "SerialControlDev" [(0, 3), (10, 10), (100, 109)]

def storageStatus : Constraint := .oneOf "StorageStatus" [(0, 3)]

def uavcanNodeHealth : Constraint := .oneOf "UavcanNodeHealth" [(0, 3)]

def uavcanNodeMode : Constraint := .oneOf "UavcanNodeMode" [(0, 3), (7, 7)]

def utmFlightState : Constraint :=
  .oneOf "UtmFlightState" [(1, 3), (16, 16), (32, 32)]

def videoStreamType : Constraint := .oneOf "VideoStreamType" [(0, 3)]

/-! ## Sets of flags -/

def adsbFlags : Constraint := .within "AdsbFlags" 33279

def aisFlags : Constraint := .within "AisFlags" 8191

def attitudeTargetTypemask : Constraint := .within "AttitudeTargetTypemask" 231

def cameraCapFlags : Constraint := .within "CameraCapFlags" 4095

def cameraTrackingTargetData : Constraint :=
  .within "CameraTrackingTargetData" 7

def estimatorStatusFlags : Constraint := .within "EstimatorStatusFlags" 4095

def gimbalDeviceCapFlags : Constraint := .within "GimbalDeviceCapFlags" 16383

def gimbalDeviceErrorFlags : Constraint := .within "GimbalDeviceErrorFlags" 1023

def gimbalDeviceFlags : Constraint := .within "GimbalDeviceFlags" 1023

def gimbalManagerCapFlags : Constraint := .within "GimbalManagerCapFlags" 212991

def gimbalManagerFlags : Constraint := .within "GimbalManagerFlags" 1023

def gpsInputIgnoreFlags : Constraint := .within "GpsInputIgnoreFlags" 255

def highresImuUpdatedFlags : Constraint :=
  .within "HighresImuUpdatedFlags" 65535

def hilSensorUpdatedFlags : Constraint :=
  .within "HilSensorUpdatedFlags" 2147491839

def hlFailureFlag : Constraint := .within "HlFailureFlag" 16383

def mavEventCurrentSequenceFlags : Constraint :=
  .within "MavEventCurrentSequenceFlags" 1

def mavGeneratorStatusFlag : Constraint :=
  .within "MavGeneratorStatusFlag" 8388607

def mavModeFlag : Constraint := .within "MavModeFlag" 255

def mavPowerStatus : Constraint := .within "MavPowerStatus" 63

def mavProtocolCapability : Constraint := .within "MavProtocolCapability" 262143

def mavSysStatusSensor : Constraint := .within "MavSysStatusSensor" 4294967295

def mavWinchStatusFlag : Constraint := .within "MavWinchStatusFlag" 16383

def positionTargetTypemask : Constraint := .within "PositionTargetTypemask" 4095

def serialControlFlag : Constraint := .within "SerialControlFlag" 31

def tuneFormat : Constraint := .within "TuneFormat" 3

def utmDataAvailFlags : Constraint := .within "UtmDataAvailFlags" 255

def videoStreamStatusFlags : Constraint := .within "VideoStreamStatusFlags" 3

end GroundLink.Dialect
