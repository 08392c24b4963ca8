import TriFusion.Foundation.Result

namespace TriFusion.DeviceControl

open Foundation

inductive CompositeSensorOutputMode
  | unknown
  | lowlightOnly
  | thermalOnly
  | lowlightThermalComposite
  deriving DecidableEq, Repr

inductive CompositeSensorAckType
  | unknown
  | ack
  | nack
  | modeReport
  deriving DecidableEq, Repr

inductive CompositeSensorCommandCode
  | readRegister
  | writeRegister
  deriving DecidableEq, Repr

def CompositeSensorCommandCode.word : CompositeSensorCommandCode → UInt16
  | .readRegister => 0x5AF8
  | .writeRegister => 0x5AF9

/-- A status word as received: the cast to the enumeration keeps every value. -/
inductive CompositeSensorStatusWord
  | unknown
  | executable
  | rejected
  | other (word : UInt16)
  deriving DecidableEq, Repr

namespace CompositeSensorStatusWord

def executableWord : UInt16 := 0x5858

def rejectedWord : UInt16 := 0x4B4B

def ofWord (word : UInt16) : CompositeSensorStatusWord :=
  if word = 0 then .unknown
  else if word = executableWord then .executable
  else if word = rejectedWord then .rejected
  else .other word

def toText : CompositeSensorStatusWord → Text
  | .executable => "EXECUTABLE"
  | .rejected => "REJECTED"
  | .unknown | .other _ => "UNKNOWN"

def isExecutable (status : CompositeSensorStatusWord) : Bool := status == .executable

end CompositeSensorStatusWord

inductive CompositeSensorRegister
  | fusionMode
  | infraredPolarity
  | fusionColor
  | infraredCorrection
  | lowlightBrightness
  | lowlightContrast
  | infraredBrightness
  | infraredContrast
  | contourMode
  | infraredRegistrationZoom
  | infraredRegistrationOffsetX
  | infraredRegistrationOffsetY
  | lowlightRegistrationZoom
  | lowlightRegistrationOffsetX
  | lowlightRegistrationOffsetY
  | saveConfig
  deriving DecidableEq, Repr

def CompositeSensorRegister.address : CompositeSensorRegister → UInt16
  | .fusionMode => 0x6500
  | .infraredPolarity => 0x6504
  | .fusionColor => 0x6508
  | .infraredCorrection => 0x650C
  | .lowlightBrightness => 0x6514
  | .lowlightContrast => 0x6518
  | .infraredBrightness => 0x651C
  | .infraredContrast => 0x6520
  | .contourMode => 0x652C
  | .infraredRegistrationZoom => 0x6730
  | .infraredRegistrationOffsetX => 0x6732
  | .infraredRegistrationOffsetY => 0x6734
  | .lowlightRegistrationZoom => 0x6736
  | .lowlightRegistrationOffsetX => 0x6738
  | .lowlightRegistrationOffsetY => 0x673A
  | .saveConfig => 0x6510

structure CompositeSensorAck where
  type : CompositeSensorAckType
  mode : CompositeSensorOutputMode
  originalCommand : CompositeSensorCommandCode
  status : CompositeSensorStatusWord
  data : UInt16
  checksum : UInt16
  expectedChecksum : UInt16
  message : Text
  deriving DecidableEq, Repr

namespace CompositeSensorOutputMode

def toText : CompositeSensorOutputMode → Text
  | .lowlightOnly => "LOWLIGHT_ONLY"
  | .thermalOnly => "THERMAL_ONLY"
  | .lowlightThermalComposite => "LOWLIGHT_THERMAL_COMPOSITE"
  | .unknown => "UNKNOWN"

def fromString (text : Text) : CompositeSensorOutputMode :=
  let s := normalize text
  if s = "LOWLIGHTONLY".toList ∨ s = "LOWLIGHT".toList ∨ s = "MICROLIGHTONLY".toList ∨
      s = "MICROLIGHT".toList then .lowlightOnly
  else if s = "THERMALONLY".toList ∨ s = "THERMAL".toList ∨ s = "INFRAREDONLY".toList ∨
      s = "INFRARED".toList then .thermalOnly
  else if s = "LOWLIGHTTHERMALCOMPOSITE".toList ∨ s = "LOWLIGHTTHERMAL".toList ∨
      s = "COMPOSITE".toList ∨ s = "FUSION".toList ∨ s = "LOWLIGHTTHERMALFUSION".toList then
    .lowlightThermalComposite
  else .unknown

/-- `outputModeRegisterValue`. -/
def registerValue : CompositeSensorOutputMode → UInt16
  | .thermalOnly => 1
  | .lowlightOnly => 2
  | .lowlightThermalComposite => 3
  | .unknown => 0

/-- `outputModeFromRegisterValue`. -/
def fromRegisterValue (value : UInt16) : CompositeSensorOutputMode :=
  if value = 1 then .thermalOnly
  else if value = 2 then .lowlightOnly
  else if value = 3 then .lowlightThermalComposite
  else .unknown

end CompositeSensorOutputMode

end TriFusion.DeviceControl
