import TriFusion.Media.PipelineSteps
import TriFusion.Mode.ModeManager

namespace TriFusion.Mode

open Foundation Algorithm Hardware Device DeviceControl Media

variable {ω : Type} {io : ModeIo ω}

namespace ModeWorld

def currentMode (w : ModeWorld ω) : CompositeSensorOutputMode := w.controller.state.currentMode

/-- Neither the sensor, nor a pipeline, nor the stream has been touched. -/
structure Undisturbed (w w' : ModeWorld ω) : Prop where
  actions : w'.actions = w.actions
  controller : w'.controller = w.controller
  mainStream : w'.shared.mainStream = w.shared.mainStream

namespace Undisturbed

variable {w w₁ w₂ : ModeWorld ω}

theorem refl (w : ModeWorld ω) : w.Undisturbed w := ⟨rfl, rfl, rfl⟩

theorem currentMode (h : w.Undisturbed w₁) : w₁.currentMode = w.currentMode := by
  unfold ModeWorld.currentMode
  rw [h.controller]

end Undisturbed

inductive SensorLeft (plan : ModeSwitchPlan) (w w' : ModeWorld ω) : Prop
  | alone (actions : w'.actions = w.actions) (mode : w'.currentMode = w.currentMode)
  | refused (actions : w'.actions = w.actions ++ [.outputModeSet plan.compositeOutput false])
      (mode : w'.currentMode = w.currentMode)
  | set (actions : w'.actions = w.actions ++ [.outputModeSet plan.compositeOutput true])
      (mode : w'.currentMode = plan.compositeOutput)

theorem SensorLeft.before {plan : ModeSwitchPlan} {w w₁ w₂ : ModeWorld ω}
    (hs : SensorLeft plan w₁ w₂) (ha : w₁.actions = w.actions)
    (hm : w₁.currentMode = w.currentMode) : SensorLeft plan w w₂ := by
  cases hs with
  | alone ha' hm' => exact .alone (ha'.trans ha) (hm'.trans hm)
  | refused ha' hm' => exact .refused (ha ▸ ha') (hm'.trans hm)
  | set ha' hm' => exact .set (ha ▸ ha') hm'

theorem SensorLeft.after {plan : ModeSwitchPlan} {w w₁ w₂ : ModeWorld ω}
    (hs : SensorLeft plan w w₁) (ha : w₂.actions = w₁.actions)
    (hc : w₂.controller = w₁.controller) : SensorLeft plan w w₂ := by
  have hm : w₂.currentMode = w₁.currentMode := by
    unfold ModeWorld.currentMode
    rw [hc]
  cases hs with
  | alone ha' hm' => exact .alone (ha.trans ha') (hm.trans hm')
  | refused ha' hm' => exact .refused (ha.trans ha') (hm.trans hm')
  | set ha' hm' => exact .set (ha.trans ha') (hm.trans hm')

end ModeWorld

namespace ModeSwitchExecutor

variable {x : ModeSwitchExecutor} {w : ModeWorld ω} {plan : ModeSwitchPlan}

variable (io w) in
theorem ensureFusion_undisturbed : w.Undisturbed (ensureFusion io w).2 := by
  unfold ensureFusion
  split
  · exact .refl w
  · split <;> exact ⟨rfl, rfl, rfl⟩

variable (io w plan) in
theorem prepareFusion_undisturbed : w.Undisturbed (prepareFusion io plan w).2 := by
  have he := ensureFusion_undisturbed io w
  unfold prepareFusion
  split
  · exact .refl w
  · split <;> rename_i hx <;> rw [hx] at he
    · exact he
    · exact ⟨he.actions, he.controller, he.mainStream⟩

variable (io w) in
theorem setOutputMode_left (mode : CompositeSensorOutputMode) :
    (setOutputMode io mode w).2.actions =
        w.actions ++ [.outputModeSet mode (setOutputMode io mode w).1.succeeded] ∧
      (setOutputMode io mode w).2.currentMode =
        (if (setOutputMode io mode w).1.succeeded then mode else w.currentMode) ∧
      (setOutputMode io mode w).2.shared.mainStream = w.shared.mainStream :=
  ⟨rfl, w.controller.setOutputMode_currentMode io.media.nowMs mode, rfl⟩

theorem switchCompositeSensor_left {ret : Result Unit} {w' : ModeWorld ω}
    (h : switchCompositeSensor io plan w = (ret, w')) :
    ModeWorld.SensorLeft plan w w' ∧ w'.shared.mainStream = w.shared.mainStream := by
  unfold switchCompositeSensor at h
  split at h
  · obtain ⟨-, rfl⟩ := Prod.mk.inj h
    exact ⟨.alone rfl rfl, rfl⟩
  · split at h
    · obtain ⟨-, rfl⟩ := Prod.mk.inj h
      exact ⟨.alone rfl rfl, rfl⟩
    · obtain ⟨ha, hm, hs⟩ := setOutputMode_left io w plan.compositeOutput
      split at h <;> rename_i hx <;> rw [hx] at ha hm hs <;>
        obtain ⟨-, rfl⟩ := Prod.mk.inj h
      · exact ⟨.refused ha hm, hs⟩
      · exact ⟨.set ha hm, hs⟩

theorem switchCompositeSensor_set {w' : ModeWorld ω}
    (h : switchCompositeSensor io plan w = (.ok (), w'))
    (hr : plan.requireCompositeSensorSwitch = true) (hk : io.skipSensorSwitch w.outside = none) :
    w'.actions = w.actions ++ [.outputModeSet plan.compositeOutput true] ∧
      w'.currentMode = plan.compositeOutput := by
  unfold switchCompositeSensor at h
  simp only [hr, hk, Bool.not_true, Bool.false_eq_true, if_false, Option.bind_none,
    reduceCtorEq] at h
  obtain ⟨ha, hm, -⟩ := setOutputMode_left io w plan.compositeOutput
  split at h <;> rename_i hx <;> rw [hx] at ha hm
  · exact nomatch (Prod.mk.inj h).1
  · obtain ⟨-, rfl⟩ := Prod.mk.inj h
    exact ⟨ha, hm⟩

theorem stop_none (h : x.currentPipeline = none) : x.stop io w = (x, w) := by
  unfold stop
  rw [h]

variable (io w) in
theorem stop_some {pipeline : MediaPipeline} (h : x.currentPipeline = some pipeline) :
    (x.stop io w).1 = { x with currentPipeline := none } ∧
      (x.stop io w).2.actions = w.actions ++ [.pipelineStopped] ∧
      (x.stop io w).2.controller = w.controller ∧
      (pipeline.context.mainStream = true →
        (x.stop io w).2.shared.mainStream.state = .stopped) := by
  unfold stop
  rw [h]
  refine ⟨rfl, rfl, rfl, fun hm ↦ ?_⟩
  dsimp only
  rw [MediaPipeline.stop_mainStream, MediaPipeline.stop_context, hm]
  rfl

variable (io x w) in
theorem stop_currentPipeline : (x.stop io w).1.currentPipeline = none := by
  cases h : x.currentPipeline with
  | none => rw [stop_none h, h]
  | some pipeline => rw [(stop_some io w h).1]

theorem startPipeline_ok {x' : ModeSwitchExecutor} {w' : ModeWorld ω}
    (h : startPipeline io plan x w = (.ok (), x', w')) :
    ∃ pipeline : MediaPipeline, x' = { x with currentPipeline := some pipeline } ∧
      pipeline.config = plan.pipeline ∧ pipeline.context = pipelineContext x.context ∧
      w'.actions = w.actions ++ [.pipelineStarted plan] ∧ w'.controller = w.controller := by
  unfold startPipeline at h
  split at h
  · exact nomatch (Prod.mk.inj h).1
  · dsimp only at h
    split at h
    · exact nomatch (Prod.mk.inj h).1
    · rename_i pipeline shared hb
      obtain ⟨hc, hx⟩ := PipelineBuilder.build_ok hb
      have hs := pipeline.start_setup io.media shared
      split at h <;> rename_i hy <;> rw [hy] at hs
      · exact nomatch (Prod.mk.inj h).1
      · obtain ⟨-, hr⟩ := Prod.mk.inj h
        obtain ⟨rfl, rfl⟩ := Prod.mk.inj hr
        exact ⟨_, rfl, hs.1.trans hc, hs.2.trans hx, rfl, rfl⟩

theorem startPipeline_failed {e : Status} {x' : ModeSwitchExecutor} {w' : ModeWorld ω}
    (hx : x.currentPipeline = none) (h : startPipeline io plan x w = (.error e, x', w')) :
    x' = x ∧ w'.actions = w.actions ∧ w'.controller = w.controller ∧
      (w.shared.mainStream.state = .stopped → w'.shared.mainStream.state = .stopped) := by
  have hn : { x with currentPipeline := none } = x := by rw [← hx]
  unfold startPipeline at h
  split at h
  · obtain ⟨-, hr⟩ := Prod.mk.inj h
    obtain ⟨rfl, rfl⟩ := Prod.mk.inj hr
    exact ⟨rfl, rfl, rfl, id⟩
  · rename_i outside _
    dsimp only at h
    have hb (hs : w.shared.mainStream.state = .stopped) :=
      PipelineBuilder.build_stopped io.media plan.pipeline (pipelineContext x.context)
        (s := (w.withOutside outside).shared) hs
    split at h <;> rename_i hy <;> rw [hy] at hb
    · obtain ⟨-, hr⟩ := Prod.mk.inj h
      obtain ⟨rfl, rfl⟩ := Prod.mk.inj hr
      exact ⟨rfl, rfl, rfl, hb⟩
    · split at h <;> rename_i hz
      · obtain ⟨-, hr⟩ := Prod.mk.inj h
        obtain ⟨rfl, rfl⟩ := Prod.mk.inj hr
        obtain ⟨-, ho⟩ := MediaPipeline.start_failed hz
        refine ⟨hn, rfl, rfl, fun hs ↦ ?_⟩
        dsimp only
        rw [MediaPipeline.stop_mainStream]
        split
        · rfl
        · exact ho.mainStream.symm ▸ hb hs
      · exact nomatch (Prod.mk.inj h).1

theorem bringUp_failed {e : Status} {x' : ModeSwitchExecutor} {w' : ModeWorld ω}
    (hx : x.currentPipeline = none) (h : bringUp io plan x w = (.error e, x', w')) :
    x' = x ∧ ModeWorld.SensorLeft plan w w' ∧
      (w.shared.mainStream.state = .stopped → w'.shared.mainStream.state = .stopped) := by
  have hf := prepareFusion_undisturbed io w plan
  unfold bringUp at h
  split at h <;> rename_i w₁ hp <;> rw [hp] at hf
  · obtain ⟨-, hr⟩ := Prod.mk.inj h
    obtain ⟨rfl, rfl⟩ := Prod.mk.inj hr
    exact ⟨rfl, .alone hf.actions hf.currentMode, fun hs ↦ hf.mainStream ▸ hs⟩
  · split at h <;> rename_i w₂ hq <;> obtain ⟨hl, hm⟩ := switchCompositeSensor_left hq
    · obtain ⟨-, hr⟩ := Prod.mk.inj h
      obtain ⟨rfl, rfl⟩ := Prod.mk.inj hr
      exact ⟨rfl, hl.before hf.actions hf.currentMode, fun hs ↦ (hm.trans hf.mainStream) ▸ hs⟩
    · obtain ⟨rfl, ha, hc, hs⟩ := startPipeline_failed hx h
      refine ⟨rfl, (hl.before hf.actions hf.currentMode).after ha hc, fun hw ↦ hs ?_⟩
      exact (hm.trans hf.mainStream).symm ▸ hw

theorem bringUp_ok {x' : ModeSwitchExecutor} {w' : ModeWorld ω}
    (h : bringUp io plan x w = (.ok (), x', w'))
    (hk : ∀ outside, io.skipSensorSwitch outside = none) :
    ∃ pipeline : MediaPipeline, x' = { x with currentPipeline := some pipeline } ∧
      pipeline.config = plan.pipeline ∧ pipeline.context = pipelineContext x.context ∧
      ∃ switch, w'.actions = w.actions ++ switch ++ [.pipelineStarted plan] ∧
        (plan.requireCompositeSensorSwitch = false → switch = []) ∧
        (plan.requireCompositeSensorSwitch = true →
          switch = [.outputModeSet plan.compositeOutput true] ∧
            w'.currentMode = plan.compositeOutput) := by
  have hf := prepareFusion_undisturbed io w plan
  unfold bringUp at h
  split at h <;> rename_i w₁ hp <;> rw [hp] at hf
  · exact nomatch (Prod.mk.inj h).1
  · split at h
    · exact nomatch (Prod.mk.inj h).1
    · rename_i w₂ hq
      obtain ⟨pipeline, hx, hc, hctx, ha, hcon⟩ := startPipeline_ok h
      refine ⟨pipeline, hx, hc, hctx, ?_⟩
      cases hr : plan.requireCompositeSensorSwitch with
      | false =>
        have hw : w₂ = w₁ := by
          simp only [switchCompositeSensor, hr, Bool.not_false, if_true] at hq
          exact (Prod.mk.inj hq).2.symm
        subst hw
        exact ⟨[], by rw [ha, hf.actions, List.append_nil], fun _ ↦ rfl, fun hn ↦ (nomatch hn)⟩
      | true =>
        obtain ⟨hs, hm⟩ := switchCompositeSensor_set hq hr (hk _)
        refine ⟨[.outputModeSet plan.compositeOutput true], by rw [ha, hs, hf.actions],
          fun hn ↦ (nomatch hn), fun _ ↦ ⟨rfl, ?_⟩⟩
        exact (congrArg (fun c ↦ c.state.currentMode) hcon).trans hm

end ModeSwitchExecutor

end TriFusion.Mode
