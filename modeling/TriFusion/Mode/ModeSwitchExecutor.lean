import TriFusion.DeviceControl.Controller
import TriFusion.Mode.ModeSwitchPlanner

namespace TriFusion.Mode

open Foundation Algorithm Hardware Device DeviceControl Media

/-- The pointers of the context; a field is `true`, or `some`, when they are not null. -/
structure ModeRuntimeContext where
  cameraManager : Option CameraManagerRef := none
  compositeController : Bool := false
  mainStream : Bool := false
  eventBus : Bool := false
  mjpegDecoder : Bool := false
  encoder : Bool := false
  fusionEngine : Bool := false
  deriving DecidableEq

/-- What a mode switch calls out to. `skipSensorSwitch` is the environment
variable TRI_FUSION_SKIP_SENSOR_SWITCH, if it is set. -/
structure ModeIo (ω : Type) where
  media : MediaIo ω
  tty : Tty ω
  openAllEnabled : ω → Result Unit × ω
  algorithmInit : FusionMode → ω → Result Unit × ω
  skipSensorSwitch : ω → Option Text

/-- What a switch does to the sensor and to the pipelines, kept for the proofs. -/
inductive SwitchAction
  | outputModeSet (mode : CompositeSensorOutputMode) (succeeded : Bool)
  | pipelineStarted (plan : ModeSwitchPlan)
  | pipelineStopped
  deriving DecidableEq

structure ModeWorld (ω : Type) where
  shared : Shared ω
  controller : CompositeSensorController := {}
  fusionEngine : FusionEngine := {}
  actions : List SwitchAction := []

variable {ω : Type}

namespace ModeWorld

def record (a : SwitchAction) (x : ModeWorld ω) : ModeWorld ω :=
  { x with actions := x.actions ++ [a] }

def mainStream (x : ModeWorld ω) : MainStream := x.shared.mainStream

def outside (x : ModeWorld ω) : ω := x.shared.outside

def withOutside (w : ω) (x : ModeWorld ω) : ModeWorld ω :=
  { x with shared := { x.shared with outside := w } }

end ModeWorld

structure ModeSwitchExecutor where
  context : ModeRuntimeContext := {}
  currentPipeline : Option MediaPipeline := none
  initialized : Bool := false
  deriving DecidableEq

namespace ModeSwitchExecutor

def init (context : ModeRuntimeContext) (x : ModeSwitchExecutor) : ModeSwitchExecutor :=
  { x with context := context, initialized := true }

variable (io : ModeIo ω)

/-- The pipeline is stopped and then destroyed, which stops it again. -/
def stop (x : ModeSwitchExecutor) (w : ModeWorld ω) : ModeSwitchExecutor × ModeWorld ω :=
  match x.currentPipeline with
  | none => (x, w)
  | some pipeline =>
    let (pipeline, shared) := pipeline.stop io.media w.shared
    let w := ModeWorld.record .pipelineStopped { w with shared := shared }
    ({ x with currentPipeline := none }, { w with shared := (pipeline.stop io.media shared).2 })

def validateContext (plan : ModeSwitchPlan) (x : ModeSwitchExecutor) : Result Unit :=
  if x.context.cameraManager = none then
    .fail .invalidArgument "mode runtime camera manager is null"
  else if !x.context.mainStream then .fail .invalidArgument "mode runtime main stream is null"
  else if plan.requireCompositeSensorSwitch && !x.context.compositeController then
    .fail .invalidArgument "mode runtime composite sensor controller is null"
  else if plan.requireFusion && !x.context.fusionEngine then
    .fail .invalidArgument "mode runtime fusion engine is null"
  else .ok ()

def ensureFusion (w : ModeWorld ω) : Result Unit × ModeWorld ω :=
  if w.fusionEngine.initialized then (.ok (), w)
  else
    match w.fusionEngine.init with
    | (.error e, engine) => (.error e, { w with fusionEngine := engine })
    | (.ok (), engine) =>
      let (ret, engine, outside) := engine.registerDefaultAlgorithms io.algorithmInit w.outside
      (ret, ModeWorld.withOutside outside { w with fusionEngine := engine })

def prepareFusion (plan : ModeSwitchPlan) (w : ModeWorld ω) : Result Unit × ModeWorld ω :=
  if !plan.requireFusion then (.ok (), w)
  else
    match ensureFusion io w with
    | (.error e, w) => (.error e, w)
    | (.ok (), w) =>
      let (ret, engine) := w.fusionEngine.setMode plan.fusionMode
      (ret, { w with fusionEngine := engine })

def setOutputMode (mode : CompositeSensorOutputMode) (w : ModeWorld ω) :
    Result Unit × ModeWorld ω :=
  let (ret, controller, outside) :=
    w.controller.setOutputMode io.tty io.media.nowMs mode w.outside
  (ret,
    ModeWorld.record (.outputModeSet mode ret.succeeded)
      (ModeWorld.withOutside outside { w with controller := controller }))

def switchCompositeSensor (plan : ModeSwitchPlan) (w : ModeWorld ω) :
    Result Unit × ModeWorld ω :=
  if !plan.requireCompositeSensorSwitch then (.ok (), w)
  else if (io.skipSensorSwitch w.outside).bind List.head? = some '1' then (.ok (), w)
  else
    match setOutputMode io plan.compositeOutput w with
    | (.error e, w) => (.error e, w)
    | (.ok (), w) => (w.controller.waitStable plan.stableWaitMs, w)

def pipelineContext (context : ModeRuntimeContext) : PipelineContext where
  cameraManager := context.cameraManager
  mainStream := context.mainStream
  eventBus := context.eventBus
  mjpegDecoder := context.mjpegDecoder
  encoder := context.encoder

/-- A pipeline that does not start is destroyed, which stops it. -/
def startPipeline (plan : ModeSwitchPlan) (x : ModeSwitchExecutor) (w : ModeWorld ω) :
    Result Unit × ModeSwitchExecutor × ModeWorld ω :=
  match io.openAllEnabled w.outside with
  | (.error e, outside) => (.error e, x, w.withOutside outside)
  | (.ok (), outside) =>
    let w := w.withOutside outside
    match PipelineBuilder.build io.media plan.pipeline (pipelineContext x.context) w.shared with
    | (.error e, shared) => (.rethrow e, x, { w with shared := shared })
    | (.ok pipeline, shared) =>
      match pipeline.start io.media shared with
      | (.error e, pipeline, shared) =>
        (.error e, { x with currentPipeline := none },
          { w with shared := (pipeline.stop io.media shared).2 })
      | (.ok (), pipeline, shared) =>
        (.ok (), { x with currentPipeline := some pipeline },
          ModeWorld.record (.pipelineStarted plan) { w with shared := shared })

/-- `execute`, from where the running pipeline has been stopped. -/
def bringUp (plan : ModeSwitchPlan) (x : ModeSwitchExecutor) (w : ModeWorld ω) :
    Result Unit × ModeSwitchExecutor × ModeWorld ω :=
  match prepareFusion io plan w with
  | (.error e, w) => (.error e, x, w)
  | (.ok (), w) =>
    match switchCompositeSensor io plan w with
    | (.error e, w) => (.error e, x, w)
    | (.ok (), w) => startPipeline io plan x w

def execute (plan : ModeSwitchPlan) (x : ModeSwitchExecutor) (w : ModeWorld ω) :
    Result Unit × ModeSwitchExecutor × ModeWorld ω :=
  if !x.initialized then
    (.fail .notInitialized "mode switch executor is not initialized", x, w)
  else
    match x.validateContext plan with
    | .error e => (.error e, x, w)
    | .ok () =>
      let (x, w) := x.stop io w
      bringUp io plan x w

end ModeSwitchExecutor

end TriFusion.Mode
