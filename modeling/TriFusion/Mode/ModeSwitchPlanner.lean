import TriFusion.Algorithm.FusionEngine
import TriFusion.Media.PipelineBuilder
import TriFusion.Mode.WorkMode

namespace TriFusion.Mode

open Foundation Algorithm Device DeviceControl Media

structure ModeSwitchPlan where
  targetMode : WorkMode := .unknown
  requiredCameras : List CameraId := []
  requireVisible : Bool := false
  requireComposite : Bool := false
  requireCompositeSensorSwitch : Bool := false
  compositeOutput : CompositeSensorOutputMode := .unknown
  requireFusion : Bool := false
  fusionMode : FusionMode := .unknown
  restartPipeline : Bool := true
  stableWaitMs : Int32 := 200
  pipeline : PipelineConfig := {}
  pipelineNodes : List Text := []
  deriving DecidableEq

structure ModeSwitchPlanner where
  policy : ModePolicy := {}
  mediaConfig : MediaConfig := {}
  initialized : Bool := false
  deriving DecidableEq

namespace ModeSwitchPlanner

def init (modeConfig : ModeConfig) (mediaConfig : MediaConfig) : ModeSwitchPlanner where
  policy := .init modeConfig
  mediaConfig := mediaConfig
  initialized := true

def fusionModeFor : WorkMode → FusionMode
  | .visibleLowlightFusion => .visibleLowlight
  | .visibleThermalFusion => .visibleThermal
  | .visibleCompositeFusion => .visibleComposite
  | _ => .unknown

def fusionNode : FusionMode → Text
  | .visibleLowlight => "VisibleLowlightFusion"
  | .visibleThermal => "VisibleThermalFusion"
  | .visibleComposite => "VisibleCompositeFusion"
  | .unknown => "UnknownFusion"

def describePipelineNodes (plan : ModeSwitchPlan) : List Text :=
  let when (present : Bool) (nodes : List Text) : List Text := if present then nodes else []
  when plan.requireVisible ["VisibleCaptureNode"] ++
    when plan.requireComposite ["CompositeCaptureNode"] ++
    when plan.pipeline.useDecoder ["MjpegDecoder"] ++
    when plan.requireFusion ["FrameSync", "ImageRegistrationNode", fusionNode plan.fusionMode] ++
    when plan.pipeline.useFormatConvert ["FormatConvertNode(NV12)"] ++
    when plan.pipeline.useEncoder ["MppH264Encoder"] ++
    when (!plan.pipeline.useEncoder && plan.pipeline.passthroughEncoded) ["EncodedPassthrough"] ++
    ["MainStream".toList]

def pipelineFor (mode : WorkMode) (media : MediaConfig) : PipelineConfig :=
  if mode = .visibleOnly then PipelineBuilder.visibleOnly media
  else if mode.isFusionMode then PipelineBuilder.visibleCompositeFusionPlaceholder media
  else PipelineBuilder.compositeOnlyAuto media

def planFor (media : MediaConfig) (mode : WorkMode) (output : CompositeSensorOutputMode) :
    ModeSwitchPlan :=
  let plan : ModeSwitchPlan :=
    { targetMode := mode
      requireVisible := mode.requiresVisibleCamera
      requireComposite := mode.requiresCompositeCamera
      requireCompositeSensorSwitch := mode.requiresCompositeSensorSwitch
      requireFusion := mode.isFusionMode
      fusionMode := fusionModeFor mode
      requiredCameras :=
        (if mode.requiresVisibleCamera then [.visible] else []) ++
          (if mode.requiresCompositeCamera then [.compositeLowThermal] else [])
      compositeOutput := output
      pipeline := pipelineFor mode media }
  { plan with pipelineNodes := describePipelineNodes plan }

def buildPlan (targetMode : WorkMode) (p : ModeSwitchPlanner) : Result ModeSwitchPlan :=
  if !p.initialized then .fail .notInitialized "mode switch planner is not initialized"
  else
    match p.policy.validateModeEnabled targetMode with
    | .error e => .rethrow e
    | .ok () =>
      if targetMode.requiresCompositeSensorSwitch then
        match p.policy.compositeOutputFor targetMode with
        | .error e => .rethrow e
        | .ok output => .ok (planFor p.mediaConfig targetMode output)
      else .ok (planFor p.mediaConfig targetMode .unknown)

theorem buildPlan_ok {p : ModeSwitchPlanner} {mode : WorkMode} {plan : ModeSwitchPlan}
    (h : p.buildPlan mode = .ok plan) : ∃ output, plan = planFor p.mediaConfig mode output := by
  unfold buildPlan at h
  split at h
  · cases h
  · split at h
    · cases h
    · split at h
      · split at h
        · cases h
        · exact ⟨_, (Except.ok.inj h).symm⟩
      · exact ⟨_, (Except.ok.inj h).symm⟩

end ModeSwitchPlanner

end TriFusion.Mode
