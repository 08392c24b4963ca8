import TriFusion.DeviceControl.ControlTypes
import TriFusion.Foundation.Config

namespace TriFusion.Mode

open Foundation DeviceControl

inductive WorkMode
  | unknown
  | visibleOnly
  | lowlightOnly
  | thermalOnly
  | lowlightThermalComposite
  | visibleLowlightFusion
  | visibleThermalFusion
  | visibleCompositeFusion
  deriving DecidableEq, Repr

namespace WorkMode

def toText : WorkMode → Text
  | .visibleOnly => "VISIBLE_ONLY"
  | .lowlightOnly => "LOWLIGHT_ONLY"
  | .thermalOnly => "THERMAL_ONLY"
  | .lowlightThermalComposite => "LOWLIGHT_THERMAL_COMPOSITE"
  | .visibleLowlightFusion => "VISIBLE_LOWLIGHT_FUSION"
  | .visibleThermalFusion => "VISIBLE_THERMAL_FUSION"
  | .visibleCompositeFusion => "VISIBLE_COMPOSITE_FUSION"
  | .unknown => "UNKNOWN"

def configKey : WorkMode → Text
  | .visibleOnly => "visible_only"
  | .lowlightOnly => "lowlight_only"
  | .thermalOnly => "thermal_only"
  | .lowlightThermalComposite => "lowlight_thermal_composite"
  | .visibleLowlightFusion => "visible_lowlight_fusion"
  | .visibleThermalFusion => "visible_thermal_fusion"
  | .visibleCompositeFusion => "visible_composite_fusion"
  | .unknown => "unknown"

/-- `workModeFromString`. -/
def fromString (text : Text) : WorkMode :=
  let s := normalize text
  if s = "VISIBLEONLY".toList ∨ s = "VISIBLE".toList then .visibleOnly
  else if s = "LOWLIGHTONLY".toList ∨ s = "LOWLIGHT".toList ∨ s = "MICROLIGHT".toList then
    .lowlightOnly
  else if s = "THERMALONLY".toList ∨ s = "THERMAL".toList ∨ s = "INFRARED".toList then .thermalOnly
  else if s = "LOWLIGHTTHERMALCOMPOSITE".toList ∨ s = "LOWLIGHTTHERMAL".toList ∨
      s = "COMPOSITE".toList ∨ s = "FUSION".toList then .lowlightThermalComposite
  else if s = "VISIBLELOWLIGHTFUSION".toList ∨ s = "VISIBLELOWLIGHT".toList then
    .visibleLowlightFusion
  else if s = "VISIBLETHERMALFUSION".toList ∨ s = "VISIBLETHERMAL".toList then
    .visibleThermalFusion
  else if s = "VISIBLECOMPOSITEFUSION".toList ∨ s = "VISIBLECOMPOSITE".toList ∨
      s = "TRIFUSION".toList then .visibleCompositeFusion
  else .unknown

def isFusionMode : WorkMode → Bool
  | .visibleLowlightFusion | .visibleThermalFusion | .visibleCompositeFusion => true
  | _ => false

def requiresVisibleCamera (mode : WorkMode) : Bool := mode == .visibleOnly || mode.isFusionMode

def requiresCompositeCamera : WorkMode → Bool
  | .lowlightOnly | .thermalOnly | .lowlightThermalComposite | .visibleLowlightFusion
  | .visibleThermalFusion | .visibleCompositeFusion => true
  | _ => false

def requiresCompositeSensorSwitch (mode : WorkMode) : Bool := mode.requiresCompositeCamera

end WorkMode

structure ModePolicy where
  config : ModeConfig := {}
  initialized : Bool := false
  deriving DecidableEq

namespace ModePolicy

def init (config : ModeConfig) : ModePolicy := { config := config, initialized := true }

def validateModeEnabled (mode : WorkMode) (p : ModePolicy) : Result Unit :=
  if !p.initialized then .fail .notInitialized "mode policy is not initialized"
  else if mode = .unknown then .fail .invalidArgument "unknown work mode"
  else if p.config.enabledModes.lookup mode.configKey = some false then
    .fail .unsupportedWorkMode ("work mode disabled by config: ".toList ++ mode.configKey)
  else .ok ()

def defaultCompositeOutput : WorkMode → CompositeSensorOutputMode
  | .lowlightOnly | .visibleLowlightFusion => .lowlightOnly
  | .thermalOnly | .visibleThermalFusion => .thermalOnly
  | .lowlightThermalComposite | .visibleCompositeFusion => .lowlightThermalComposite
  | .visibleOnly | .unknown => .unknown

/-- The part of `compositeOutputFor` for a mode without an entry of its own. -/
def fallbackOutputFor (mode : WorkMode) : Result CompositeSensorOutputMode :=
  if defaultCompositeOutput mode = .unknown then
    .fail .unsupportedWorkMode
      ("work mode does not map to composite sensor output: ".toList ++ mode.toText)
  else .ok (defaultCompositeOutput mode)

def compositeOutputFor (mode : WorkMode) (p : ModePolicy) : Result CompositeSensorOutputMode :=
  if !mode.requiresCompositeSensorSwitch then .ok .unknown
  else
    match p.config.compositeOutputs.lookup mode.configKey with
    | none => fallbackOutputFor mode
    | some text =>
      if text = [] then fallbackOutputFor mode
      else if CompositeSensorOutputMode.fromString text = .unknown then
        .fail .configError ("invalid composite_output for mode ".toList ++ mode.configKey ++
          ": ".toList ++ text)
      else .ok (CompositeSensorOutputMode.fromString text)

end ModePolicy

end TriFusion.Mode
