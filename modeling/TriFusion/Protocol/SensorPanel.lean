import TriFusion.DeviceControl.SensorSettings
import TriFusion.Protocol.PrivateControlHandlers
import TriFusion.Protocol.PrivateControlProbe

namespace TriFusion.Protocol

open Foundation Hardware DeviceControl Media Library CompositeSensorController

section Names

def fusionModeValueName (value : UInt16) : Text :=
  if value = 1 then "infrared" else if value = 2 then "lowlight"
  else if value = 3 then "fusion" else "unknown"

def fusionColorValueName (value : UInt16) : Text :=
  if value = 1 then "black_white" else if value = 2 then "forest" else if value = 3 then "snow"
  else if value = 4 then "ocean" else if value = 5 then "city" else if value = 6 then "desert"
  else if value = 7 then "default" else "unknown"

def contourModeValueName (value : UInt16) : Text :=
  if value = 0 then "off" else if value = 1 then "red" else if value = 2 then "green"
  else if value = 3 then "blue" else if value = 4 then "purple" else "unknown"

def infraredPolarityValueName (value : UInt16) : Text :=
  if value = 0 then "white_hot" else if value = 1 then "black_hot" else "unknown"

def correctionValueName (value : UInt16) : Text :=
  if value = 0 then "idle" else if value = 1 then "correction" else "unknown"

def signed16 (value : UInt16) : Int32 := value.toInt16.toInt32

end Names

/-- A literal of the source, whose bytes are UTF-8. -/
def utf8 (literal : String) : Text :=
  literal.toList.flatMap fun c ↦ (String.utf8EncodeChar c).map fun byte ↦ Char.ofNat byte.toNat

structure CompositeRegisterSpec where
  index : Int32
  name : Text
  displayName : Text
  reg : CompositeSensorRegister
  signedValue : Bool := false
  valueNameFn : Option (UInt16 → Text) := none

def compositeConfigRegisterSpecs : List CompositeRegisterSpec :=
  [{ index := 1, name := "fusion_mode", displayName := utf8 "融合模式", reg := .fusionMode
     valueNameFn := some fusionModeValueName },
    { index := 2, name := "fusion_color", displayName := utf8 "融合颜色", reg := .fusionColor
      valueNameFn := some fusionColorValueName },
    { index := 3, name := "contour_mode", displayName := utf8 "轮廓模式", reg := .contourMode
      valueNameFn := some contourModeValueName },
    { index := 4, name := "infrared_polarity", displayName := utf8 "红外极性", reg := .infraredPolarity
      valueNameFn := some infraredPolarityValueName },
    { index := 5, name := "infrared_correction", displayName := utf8 "红外校正"
      reg := .infraredCorrection, valueNameFn := some correctionValueName },
    { index := 6, name := "infrared_brightness", displayName := utf8 "红外亮度"
      reg := .infraredBrightness },
    { index := 7, name := "infrared_contrast", displayName := utf8 "红外对比度"
      reg := .infraredContrast },
    { index := 8, name := "lowlight_brightness", displayName := utf8 "微光亮度"
      reg := .lowlightBrightness },
    { index := 9, name := "lowlight_contrast", displayName := utf8 "微光对比度"
      reg := .lowlightContrast },
    { index := 10, name := "infrared_registration_zoom", displayName := utf8 "红外配准挡位"
      reg := .infraredRegistrationZoom },
    { index := 11, name := "infrared_registration_offset_x", displayName := utf8 "红外配准 x 偏移"
      reg := .infraredRegistrationOffsetX, signedValue := true },
    { index := 12, name := "infrared_registration_offset_y", displayName := utf8 "红外配准 y 偏移"
      reg := .infraredRegistrationOffsetY, signedValue := true },
    { index := 13, name := "lowlight_registration_zoom", displayName := utf8 "微光配准挡位"
      reg := .lowlightRegistrationZoom },
    { index := 14, name := "lowlight_registration_offset_x", displayName := utf8 "微光配准 x 偏移"
      reg := .lowlightRegistrationOffsetX, signedValue := true },
    { index := 15, name := "lowlight_registration_offset_y", displayName := utf8 "微光配准 y 偏移"
      reg := .lowlightRegistrationOffsetY, signedValue := true }]

namespace CompositeRegisterSpec

def item (spec : CompositeRegisterSpec) (raw : UInt16) : PrivateCompositeRegisterValue where
  index := spec.index
  name := spec.name
  displayName := spec.displayName
  address := spec.reg.address
  rawValue := raw
  value := if spec.signedValue then signed16 raw else Int32.ofNat raw.toNat
  valueName := spec.valueNameFn.elim [] (· raw)

end CompositeRegisterSpec

namespace Probe

variable {ω : Type} (io : ProbeIo ω) (setup : ProbeSetup)

/-- The call of the controller that a composite request comes to. -/
def applyComposite (request : PrivateCompositeControlRequest) (x : Probe ω) :
    Result Unit × CompositeSensorController × ω :=
  match request.kind with
  | .fusionColor => setFusionColor io.tty request.value x.compositeController x.outside
  | .contourMode => setContourMode io.tty request.value x.compositeController x.outside
  | .infraredPolarity => setInfraredPolarity io.tty request.value x.compositeController x.outside
  | .unknown =>
    (.fail .invalidArgument "unsupported composite control request", x.compositeController,
      x.outside)

def compositeControlCallback (request : PrivateCompositeControlRequest) (x : Probe ω) :
    PrivateControlResult × Probe ω :=
  let asked := x.currentMode.toText
  if !setup.serialEnabled then
    ({ ok := false
       message := "serial control is disabled; composite parameter cannot be written"
       currentMode := asked }, x)
  else
    let (ret, controller, outside) := x.applyComposite io request
    let x := { x with compositeController := controller, outside := outside }
    match ret with
    | .error e =>
      ({ ok := false, message := "serial write register failed: ".toList ++ e.describe
         currentMode := asked }, x)
    | .ok () =>
      ({ ok := true
         message := "succeeded: composite parameter applied: ".toList ++ request.name ++
           "=".toList ++ request.valueName
         currentMode := asked }, x)

def readConfig : List CompositeRegisterSpec → List PrivateCompositeRegisterValue → Probe ω →
    PrivateCompositeConfigSnapshot × Probe ω
  | [], registers, x =>
    ({ ok := true, message := "succeeded: composite config read successfully"
       registers := registers }, x)
  | spec :: rest, registers, x =>
    let (readRet, controller, outside) :=
      x.compositeController.readRegister io.tty spec.reg.address x.outside
    let x := { x with compositeController := controller, outside := outside }
    match readRet with
    | .error e =>
      ({ ok := false
         message := "failed: read register ".toList ++ spec.name ++ " at 0x".toList ++
           upperHex spec.reg.address.toNat ++ " failed: ".toList ++ e.describe
         registers := registers }, x)
    | .ok raw => readConfig rest (registers ++ [spec.item raw]) x

def compositeConfigQueryCallback (x : Probe ω) : PrivateCompositeConfigSnapshot × Probe ω :=
  if !setup.serialEnabled then
    ({ ok := false
       message := "failed: serial control is disabled; composite config cannot be read" }, x)
  else x.readConfig io compositeConfigRegisterSpecs []

def callbacks : ControlCallbacks (Probe ω) where
  mode := some (switchCallback io setup)
  composite := some (compositeControlCallback io setup)
  configQuery := some (compositeConfigQueryCallback io setup)

end Probe

end TriFusion.Protocol
