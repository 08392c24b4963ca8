import TriFusion.Library.Traces
import TriFusion.Mode.SwitchSteps

namespace TriFusion.Mode

open Foundation Algorithm Hardware Device DeviceControl Media Library.Traces

variable {ω : Type} {io : ModeIo ω}

def heldPlan (actions : List SwitchAction) : Option ModeSwitchPlan :=
  actions.foldl (fun held a ↦
    match a with
    | .outputModeSet _ _ => held
    | .pipelineStarted plan => some plan
    | .pipelineStopped => none) none

@[simp] theorem heldPlan_set (actions : List SwitchAction) (mode : CompositeSensorOutputMode)
    (succeeded : Bool) :
    heldPlan (actions ++ [.outputModeSet mode succeeded]) = heldPlan actions := by
  simp [heldPlan]

@[simp] theorem heldPlan_started (actions : List SwitchAction) (plan : ModeSwitchPlan) :
    heldPlan (actions ++ [.pipelineStarted plan]) = some plan := by
  simp [heldPlan]

@[simp] theorem heldPlan_stopped (actions : List SwitchAction) :
    heldPlan (actions ++ [.pipelineStopped]) = none := by
  simp [heldPlan]

/-- The sensor is switched only while no pipeline runs. -/
def Ordered (before : List SwitchAction) : SwitchAction → Prop
  | .outputModeSet _ _ => heldPlan before = none
  | _ => True

/-- The mode on record is the one the plan asks for, and it was set after the
pipeline before had been stopped. -/
def OutputOf (plan : ModeSwitchPlan) (w : ModeWorld ω) : Prop :=
  w.currentMode = plan.compositeOutput ∧
    ∃ before, heldPlan before = none ∧
      w.actions = before ++ [.outputModeSet plan.compositeOutput true, .pipelineStarted plan]

structure Consistent (x : ModeSwitchExecutor) (w : ModeWorld ω) : Prop where
  ordered : Lawful Ordered w.actions
  idle : x.currentPipeline = none → heldPlan w.actions = none
  holds : ∀ pipeline, x.currentPipeline = some pipeline →
    ∃ plan, heldPlan w.actions = some plan ∧ pipeline.config = plan.pipeline
  output : ∀ plan, heldPlan w.actions = some plan → plan.requireCompositeSensorSwitch = true →
    OutputOf plan w

namespace Consistent

variable {x x' : ModeSwitchExecutor} {w w' : ModeWorld ω}

theorem of_idle (ho : Lawful Ordered w.actions) (hh : heldPlan w.actions = none)
    (hx : x.currentPipeline = none) : Consistent x w where
  ordered := ho
  idle _ := hh
  holds pipeline hp := by
    rw [hx] at hp
    exact nomatch hp
  output plan hp := by
    rw [hh] at hp
    exact nomatch hp

theorem congr (h : Consistent x w) (ha : w'.actions = w.actions)
    (hm : w'.currentMode = w.currentMode)
    (hx : x'.currentPipeline.map MediaPipeline.config =
      x.currentPipeline.map MediaPipeline.config) : Consistent x' w' where
  ordered := ha ▸ h.ordered
  idle hn := by
    rw [hn] at hx
    exact ha ▸ h.idle (Option.map_eq_none_iff.mp hx.symm)
  holds pipeline hp := by
    rw [hp] at hx
    obtain ⟨old, ho, hc⟩ := Option.map_eq_some_iff.mp hx.symm
    obtain ⟨plan, hl, hp⟩ := h.holds old ho
    exact ⟨plan, ha ▸ hl, hc.symm.trans hp⟩
  output plan hp hr := by
    obtain ⟨hc, before, hb, he⟩ := h.output plan (ha ▸ hp) hr
    exact ⟨hm.trans hc, before, hb, ha.trans he⟩

theorem stop (h : Consistent x w) :
    Lawful Ordered (x.stop io w).2.actions ∧ heldPlan (x.stop io w).2.actions = none := by
  cases hx : x.currentPipeline with
  | none =>
    rw [ModeSwitchExecutor.stop_none hx]
    exact ⟨h.ordered, h.idle hx⟩
  | some pipeline =>
    obtain ⟨-, ha, -⟩ := ModeSwitchExecutor.stop_some io w hx
    rw [ha]
    exact ⟨(lawful_concat _ _).mpr ⟨h.ordered, trivial⟩, heldPlan_stopped _⟩

theorem stopped (h : Consistent x w) : Consistent (x.stop io w).1 (x.stop io w).2 :=
  .of_idle h.stop.1 h.stop.2 (ModeSwitchExecutor.stop_currentPipeline io _ _)

theorem of_sensorLeft {plan : ModeSwitchPlan} (ho : Lawful Ordered w.actions)
    (hh : heldPlan w.actions = none) (hl : ModeWorld.SensorLeft plan w w')
    (hx : x.currentPipeline = none) : Consistent x w' := by
  cases hl with
  | alone ha hm => exact .of_idle (ha ▸ ho) (ha ▸ hh) hx
  | refused ha hm =>
    refine .of_idle ?_ ?_ hx
    · rw [ha]
      exact (lawful_concat _ _).mpr ⟨ho, hh⟩
    · rw [ha, heldPlan_set, hh]
  | set ha hm =>
    refine .of_idle ?_ ?_ hx
    · rw [ha]
      exact (lawful_concat _ _).mpr ⟨ho, hh⟩
    · rw [ha, heldPlan_set, hh]

theorem bringUp (hk : ∀ outside, io.skipSensorSwitch outside = none) {plan : ModeSwitchPlan}
    (ho : Lawful Ordered w.actions) (hh : heldPlan w.actions = none)
    (hx : x.currentPipeline = none) :
    Consistent (ModeSwitchExecutor.bringUp io plan x w).2.1
      (ModeSwitchExecutor.bringUp io plan x w).2.2 := by
  cases hb : ModeSwitchExecutor.bringUp io plan x w with
  | mk ret rest =>
    obtain ⟨x', w'⟩ := rest
    cases ret with
    | error e =>
      obtain ⟨rfl, hl, -⟩ := ModeSwitchExecutor.bringUp_failed hx hb
      exact of_sensorLeft ho hh hl hx
    | ok =>
      obtain ⟨pipeline, rfl, hc, -, switch, ha, hplain, hset⟩ :=
        ModeSwitchExecutor.bringUp_ok hb hk
      have hl : Lawful Ordered (w.actions ++ switch) := by
        cases hr : plan.requireCompositeSensorSwitch with
        | false =>
          rw [hplain hr, List.append_nil]
          exact ho
        | true =>
          rw [(hset hr).1]
          exact (lawful_concat _ _).mpr ⟨ho, hh⟩
      have hp : heldPlan w'.actions = some plan := by rw [ha, heldPlan_started]
      refine ⟨?_, fun hn ↦ (nomatch hn), ?_, ?_⟩
      · rw [ha]
        exact (lawful_concat _ _).mpr ⟨hl, trivial⟩
      · intro p he
        exact ⟨plan, hp, Option.some.inj he ▸ hc⟩
      · intro held he hr
        obtain rfl : plan = held := Option.some.inj (hp.symm.trans he)
        obtain ⟨hs, hm⟩ := hset hr
        exact ⟨hm, w.actions, hh, by rw [ha, hs, List.append_assoc]; rfl⟩

theorem execute (hk : ∀ outside, io.skipSensorSwitch outside = none) (plan : ModeSwitchPlan)
    (h : Consistent x w) :
    Consistent (x.execute io plan w).2.1 (x.execute io plan w).2.2 := by
  unfold ModeSwitchExecutor.execute
  split
  · exact h
  · split
    · exact h
    · exact .bringUp hk h.stop.1 h.stop.2 (ModeSwitchExecutor.stop_currentPipeline io _ _)

end Consistent

namespace ModeManager

variable {m : ModeManager} {w : ModeWorld ω}

theorem switchTo_consistent (hk : ∀ outside, io.skipSensorSwitch outside = none)
    (mode : WorkMode) (h : Consistent m.executor w) :
    Consistent (m.switchTo io mode w).2.1.executor (m.switchTo io mode w).2.2 := by
  unfold switchTo
  split
  · exact h
  · split
    · exact h
    · dsimp only
      have h₁ (outside : ω) : Consistent m.executor (w.withOutside outside) :=
        h.congr rfl rfl rfl
      split
      · exact h₁ _
      · rename_i plan _
        have h₂ := (h₁ (io.media.nowMs w.outside).2).execute hk plan
        split
        · exact h₂
        · unfold succeed
          dsimp only
          split <;> exact h₂.congr rfl rfl rfl

end ModeManager

namespace ModeSystem

theorem step_consistent (hk : ∀ outside, io.skipSensorSwitch outside = none) (s : ModeSystem ω)
    (call : ModeCall) (h : Consistent s.manager.executor s.world) :
    Consistent (step io s call).manager.executor (step io s call).world := by
  cases call with
  | init modeConfig mediaConfig runtime =>
    unfold step ModeManager.init
    dsimp only
    split
    · exact h
    · exact h.congr rfl rfl rfl
  | switchTo mode => exact ModeManager.switchTo_consistent hk mode h
  | stop => exact h.stopped
  | work =>
    unfold step work
    cases hp : s.manager.executor.currentPipeline with
    | none => exact h
    | some pipeline =>
      refine h.congr rfl rfl ?_
      rw [hp]
      exact congrArg some (PipelineSystem.work_setup pipeline s.world.shared).1

/-- Whatever the steps of the switches come to, the sensor is switched only
while no pipeline runs, and a pipeline that needs a sensor output runs only with
that output on record, set after the pipeline before it had been stopped. -/
theorem switches_ordered (io : ModeIo ω) (hk : ∀ outside, io.skipSensorSwitch outside = none)
    (shared : Shared ω) (controller : CompositeSensorController) (engine : FusionEngine)
    (calls : List ModeCall) :
    Consistent (run io (fresh shared controller engine) calls).manager.executor
      (run io (fresh shared controller engine) calls).world :=
  Library.Runs.exec_invariant
    (I := fun s : ModeSystem ω ↦ Consistent s.manager.executor s.world)
    (step_consistent hk) (.of_idle lawful_nil rfl rfl) calls

def quietIo : ModeIo Unit where
  media :=
    { startCamera := fun _ w ↦ (.ok (), w)
      stopCamera := fun _ w ↦ (.ok (), w)
      readFrame := fun _ _ w ↦ (.fail .timeout "no frame", w)
      decoderInit := fun _ w ↦ (.ok (), w)
      decode := fun _ w ↦ (.fail .mjpegDecodeFailed "no frame", w)
      decoderRelease := id
      encoderInit := fun _ w ↦ (.ok (), w)
      encodeNv12 := fun _ _ w ↦ (.fail .ioError "no frame", w)
      encoderRelease := id
      imcvtcolor := fun _ _ w ↦ (.error "no frame", w)
      nowMs := fun w ↦ (0, w) }
  tty :=
    { write := fun bytes w ↦ (.ok bytes.length.succPNat, w)
      poll := fun _ w ↦ (.ok false, w)
      read := fun _ w ↦ (.ok [], w) }
  openAllEnabled := fun w ↦ (.ok (), w)
  algorithmInit := fun _ w ↦ (.ok (), w)
  skipSensorSwitch := fun _ ↦ none

def readyController : CompositeSensorController where
  portOpen := true
  builderReady := true
  ackRequired := false
  state := { initialized := true, serialOnline := true }

def fullContext : ModeRuntimeContext where
  cameraManager := some {}
  compositeController := true
  mainStream := true
  encoder := true
  fusionEngine := true

theorem switches_ordered_quiet :
    let calls := [.init {} {} fullContext, .switchTo .lowlightOnly, .switchTo .thermalOnly]
    let s := run quietIo (fresh { outside := () } readyController {}) calls
    Consistent s.manager.executor s.world ∧ s.world.currentMode = .thermalOnly ∧
      s.manager.executor.currentPipeline.isSome :=
  ⟨switches_ordered quietIo (fun _ ↦ rfl) { outside := () } readyController {} _,
    by decide +kernel, by decide +kernel⟩

end ModeSystem

end TriFusion.Mode
