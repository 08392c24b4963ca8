import TriFusion.DeviceControl.Controller
import TriFusion.Library.Runs
import TriFusion.Media.GStreamerPipelineConfigManager
import TriFusion.Protocol.PrivateControlServer

namespace TriFusion.Protocol

open Foundation Hardware DeviceControl Media Library

variable {ω : Type}

/-- The second answer says whether the sensor is to be switched. -/
def mapPrivateModeToCompositeOutput : PrivateWorkMode → Option (CompositeSensorOutputMode × Bool)
  | .visibleOnly => some (.unknown, false)
  | .lowlightOnly | .visibleLowlightFusion => some (.lowlightOnly, true)
  | .thermalOnly | .visibleThermalFusion => some (.thermalOnly, true)
  | .lowlightThermalComposite | .visibleCompositeFusion => some (.lowlightThermalComposite, true)

structure ProbeIo (ω : Type) where
  process : ProcessIo ω
  tty : Tty ω
  nowMs : ω → Int64 × ω

structure ProbeSetup where
  gstConfigMgr : GStreamerPipelineConfigManager := {}
  serialEnabled : Bool := true
  stableMs : Int32 := 500
  deriving DecidableEq

structure Probe (ω : Type) where
  currentMode : PrivateWorkMode := .lowlightThermalComposite
  pipeline : GStreamerPipeline
  compositeController : CompositeSensorController := {}
  outside : ω

namespace Probe

variable (io : ProbeIo ω) (setup : ProbeSetup)

def stopPipeline (x : Probe ω) : Bool × Probe ω :=
  let (stopped, pipeline, outside) := x.pipeline.stop io.process x.outside
  (stopped, { x with pipeline := pipeline, outside := outside })

def startPipeline (x : Probe ω) : Bool × Probe ω :=
  let (started, pipeline, outside) := x.pipeline.start io.process x.outside
  (started, { x with pipeline := pipeline, outside := outside })

def setOutputMode (mode : CompositeSensorOutputMode) (x : Probe ω) : Result Unit × Probe ω :=
  let (ret, controller, outside) :=
    x.compositeController.setOutputMode io.tty io.nowMs mode x.outside
  (ret, { x with compositeController := controller, outside := outside })

/-- The serial part of the mode callback; an error is the message of the answer. -/
def switchSensor (mode : CompositeSensorOutputMode) (x : Probe ω) : Except Text Unit × Probe ω :=
  match x.setOutputMode io mode with
  | (.error e, x) => (.error ("serial setOutputMode failed: ".toList ++ e.describe), x)
  | (.ok (), x) =>
    match x.compositeController.waitStable setup.stableMs with
    | .error e => (.error ("serial waitStable failed: ".toList ++ e.describe), x)
    | .ok () => (.ok (), x)

/-- The sensor is switched where the mode needs an output of it and there is a serial line. -/
def readySensor (compositeMode : CompositeSensorOutputMode) (needCompositeSwitch : Bool)
    (x : Probe ω) : Except Text Unit × Probe ω :=
  if setup.serialEnabled && needCompositeSwitch then x.switchSensor io setup compositeMode
  else (.ok (), x)

def startVideo (targetMode : PrivateWorkMode) (x : Probe ω) : Bool × Probe ω :=
  startPipeline io
    { x with
      pipeline := x.pipeline.setConfig
        (setup.gstConfigMgr.configForModeCommand targetMode.toCommandName)
      currentMode := targetMode }

/-- The end of the mode callback, from where the sensor has been switched. -/
def loadVideo (targetMode : PrivateWorkMode) (asked : Text) (x : Probe ω) :
    PrivateControlResult × Probe ω :=
  let config := setup.gstConfigMgr.configForModeCommand targetMode.toCommandName
  match x.startVideo io setup targetMode with
  | (false, x) =>
    ({ ok := false
       message := "failed to restart gstreamer pipeline after mode switch: ".toList ++
         x.pipeline.lastError
       currentMode := asked }, x)
  | (true, x) =>
    ({ ok := true
       message := "mode accepted, source=".toList ++ config.sourceName ++ ", device=".toList ++
         config.device ++ ", video pipeline restarted".toList
       currentMode := targetMode.toText }, x)

def switchCallback (targetMode : PrivateWorkMode) (x : Probe ω) : PrivateControlResult × Probe ω :=
  let asked := x.currentMode.toText
  match mapPrivateModeToCompositeOutput targetMode with
  | none => ({ ok := false, message := "unsupported private work mode", currentMode := asked }, x)
  | some (compositeMode, needCompositeSwitch) =>
    match x.stopPipeline io with
    | (false, x) =>
      ({ ok := false
         message := "failed to stop gstreamer pipeline: ".toList ++ x.pipeline.lastError
         currentMode := asked }, x)
    | (true, x) =>
      match x.readySensor io setup compositeMode needCompositeSwitch with
      | (.error message, x) =>
        ({ ok := false, message := message, currentMode := asked }, (x.startPipeline io).2)
      | (.ok (), x) => x.loadVideo io setup targetMode asked

end Probe

inductive ControlRequest
  | mode (method modeName : Text)
  | status
  deriving DecidableEq

structure ControlSystem (ω : Type) where
  server : PrivateControlServer := {}
  probe : Probe ω

namespace ControlSystem

variable (io : ProbeIo ω) (setup : ProbeSetup)

def step (y : ControlSystem ω) : ControlRequest → ControlSystem ω
  | .mode method modeName =>
    let (_, server, probe) :=
      y.server.handleModeRequest (some (Probe.switchCallback io setup)) method modeName y.probe
    { server := server, probe := probe }
  | .status => y

def run (y : ControlSystem ω) (requests : List ControlRequest) : ControlSystem ω :=
  Runs.exec (step io setup) y requests

end ControlSystem

end TriFusion.Protocol
