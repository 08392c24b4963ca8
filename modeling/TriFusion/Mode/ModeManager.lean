import TriFusion.Mode.ModeSwitchExecutor

namespace TriFusion.Mode

open Foundation Algorithm DeviceControl Media

inductive ModeSwitchStage
  | idle
  | planning
  | stoppingPipeline
  | switchingCompositeSensor
  | startingPipeline
  | running
  | failed
  deriving DecidableEq, Repr

structure ModeState where
  initialized : Bool := false
  switching : Bool := false
  currentMode : WorkMode := .unknown
  previousMode : WorkMode := .unknown
  stage : ModeSwitchStage := .idle
  switchCount : UInt64 := 0
  errorCount : UInt64 := 0
  lastSwitchBeginMs : Int64 := 0
  lastSwitchEndMs : Int64 := 0
  lastError : Text := []
  deriving DecidableEq

structure ModeManager where
  planner : ModeSwitchPlanner := {}
  executor : ModeSwitchExecutor := {}
  state : ModeState := {}
  lastPlan : ModeSwitchPlan := {}
  deriving DecidableEq

variable {ω : Type}

namespace ModeManager

def init (modeConfig : ModeConfig) (mediaConfig : MediaConfig) (runtime : ModeRuntimeContext)
    (m : ModeManager) : Result Unit × ModeManager :=
  if m.state.initialized then (.fail .alreadyInitialized "mode manager already initialized", m)
  else
    (.ok (),
      { m with
        planner := .init modeConfig mediaConfig
        executor := m.executor.init runtime
        state := { initialized := true } })

def markStage (stage : ModeSwitchStage) (m : ModeManager) : ModeManager :=
  { m with state.stage := stage }

def markError (status : Status) (m : ModeManager) : ModeManager :=
  { m with
    state.stage := .failed
    state.lastError := status.describe
    state.errorCount := m.state.errorCount + 1 }

def abandon (status : Status) (m : ModeManager) : ModeManager :=
  { m.markError status with state.switching := false }

variable (io : ModeIo ω)

def succeed (mode : WorkMode) (m : ModeManager) (w : ModeWorld ω) : ModeManager × ModeWorld ω :=
  let m := m.markStage .running
  let (now, outside) := io.media.nowMs w.outside
  let m := { m with
    state.previousMode := m.state.currentMode
    state.currentMode := mode
    state.switching := false
    state.lastSwitchEndMs := now
    state.lastError := []
    state.switchCount := m.state.switchCount + 1 }
  let w := w.withOutside outside
  if !m.executor.context.eventBus then (m, w)
  else
    (m, { w with shared.events := w.shared.events ++
      [⟨.modeChanged, "work_mode_changed",
        [("work_mode", mode.toText), ("pipeline_type", m.lastPlan.pipeline.type.toText)]⟩] })

def switchTo (mode : WorkMode) (m : ModeManager) (w : ModeWorld ω) :
    Result Unit × ModeManager × ModeWorld ω :=
  if !m.state.initialized then
    (.fail .notInitialized "mode manager is not initialized", m, w)
  else if m.state.switching then (.fail .busy "mode manager is switching", m, w)
  else
    let (now, outside) := io.media.nowMs w.outside
    let w := w.withOutside outside
    let m := markStage .planning
      { m with state.switching := true, state.lastSwitchBeginMs := now }
    match m.planner.buildPlan mode with
    | .error e => (.rethrow e, m.abandon e, w)
    | .ok plan =>
      let m := { m with lastPlan := plan }
      let m := (m.markStage .stoppingPipeline).markStage .switchingCompositeSensor
      let (ret, executor, w) := m.executor.execute io plan w
      let m := { m with executor := executor }
      match ret with
      | .error e => (.error e, m.abandon e, w)
      | .ok () =>
        let (m, w) := m.succeed io mode w
        (.ok (), m, w)

def stop (m : ModeManager) (w : ModeWorld ω) : ModeManager × ModeWorld ω :=
  let (executor, w) := m.executor.stop io w
  ({ m with executor := executor, state.stage := .idle, state.switching := false }, w)

end ModeManager

/-- What can happen to a manager: the calls it serves, one at a time under its
mutex, and the turns of the worker of the pipeline it runs. A call that stops the
pipeline waits for the turn the worker is in, which here comes before the call. -/
inductive ModeCall
  | init (modeConfig : ModeConfig) (mediaConfig : MediaConfig) (runtime : ModeRuntimeContext)
  | switchTo (mode : WorkMode)
  | stop
  | work
  deriving DecidableEq

structure ModeSystem (ω : Type) where
  manager : ModeManager := {}
  world : ModeWorld ω

namespace ModeSystem

variable (io : ModeIo ω)

def work (s : ModeSystem ω) : ModeSystem ω :=
  match s.manager.executor.currentPipeline with
  | none => s
  | some pipeline =>
    let (pipeline, shared) := PipelineSystem.step io.media (pipeline, s.world.shared) .work
    { manager := { s.manager with executor.currentPipeline := some pipeline }
      world := { s.world with shared := shared } }

def step (s : ModeSystem ω) : ModeCall → ModeSystem ω
  | .init modeConfig mediaConfig runtime =>
    { s with manager := (s.manager.init modeConfig mediaConfig runtime).2 }
  | .switchTo mode =>
    let (_, manager, world) := s.manager.switchTo io mode s.world
    { manager := manager, world := world }
  | .stop =>
    let (manager, world) := s.manager.stop io s.world
    { manager := manager, world := world }
  | .work => work io s

def run (s : ModeSystem ω) (calls : List ModeCall) : ModeSystem ω :=
  Library.Runs.exec (step io) s calls

def fresh (shared : Shared ω) (controller : CompositeSensorController) (engine : FusionEngine) :
    ModeSystem ω where
  world := { shared := shared, controller := controller, fusionEngine := engine }

end ModeSystem

end TriFusion.Mode
