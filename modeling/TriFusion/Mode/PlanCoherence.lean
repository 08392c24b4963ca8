import TriFusion.Mode.ModeSwitchPlanner
import Mathlib.Logic.Basic

namespace TriFusion.Mode

open Foundation Algorithm Device DeviceControl Media

namespace ModePolicy

variable {config : ModeConfig} {mode : WorkMode}

/-- The configured output of the mode is a text that names no output mode. -/
def Misnamed (config : ModeConfig) (mode : WorkMode) : Prop :=
  ∃ text, config.compositeOutputs.lookup mode.configKey = some text ∧ text ≠ [] ∧
    CompositeSensorOutputMode.fromString text = .unknown

theorem validateModeEnabled_ok_iff :
    (init config).validateModeEnabled mode = .ok () ↔
      mode ≠ .unknown ∧ config.enabledModes.lookup mode.configKey ≠ some false := by
  by_cases hm : mode = .unknown
  · subst hm
    simp [validateModeEnabled, init, Result.fail]
  · by_cases hd : config.enabledModes.lookup mode.configKey = some false
    · simp [validateModeEnabled, init, hm, hd, Result.fail]
    · simp [validateModeEnabled, init, hm, hd]

theorem fallbackOutputFor_of_switch (hs : mode.requiresCompositeSensorSwitch = true) :
    fallbackOutputFor mode = .ok (defaultCompositeOutput mode) ∧
      defaultCompositeOutput mode ≠ .unknown := by
  cases mode <;> first | exact absurd hs Bool.false_ne_true | exact ⟨rfl, by decide⟩

theorem compositeOutputFor_cases (config : ModeConfig)
    (hs : mode.requiresCompositeSensorSwitch = true) :
    (Misnamed config mode ∧ ∃ e, (init config).compositeOutputFor mode = .error e) ∨
      (¬Misnamed config mode ∧
        ∃ output, (init config).compositeOutputFor mode = .ok output ∧ output ≠ .unknown) := by
  obtain ⟨hf, hd⟩ := fallbackOutputFor_of_switch hs
  cases hl : config.compositeOutputs.lookup mode.configKey with
  | none =>
    right
    refine ⟨?_, _, ?_, hd⟩
    · intro ⟨text, ht, _⟩
      rw [hl] at ht
      cases ht
    · simp [compositeOutputFor, init, hs, hl, hf]
  | some text =>
    by_cases hn : text = []
    · right
      refine ⟨?_, _, ?_, hd⟩
      · intro ⟨text', ht, hne, _⟩
        rw [hl] at ht
        exact hne (Option.some.inj ht ▸ hn)
      · simp [compositeOutputFor, init, hs, hl, hn, hf]
    · by_cases hu : CompositeSensorOutputMode.fromString text = .unknown
      · left
        refine ⟨⟨text, hl, hn, hu⟩, ?_⟩
        simp [compositeOutputFor, init, hs, hl, hn, hu, Result.fail]
      · right
        refine ⟨?_, _, ?_, hu⟩
        · intro ⟨text', ht, _, hu'⟩
          rw [hl] at ht
          exact hu (Option.some.inj ht ▸ hu')
        · simp [compositeOutputFor, init, hs, hl, hn, hu]

end ModePolicy

/-- The parts of a plan for the mode agree on cameras, sensor, fusion and codec. -/
structure ModeSwitchPlan.Coherent (mode : WorkMode) (plan : ModeSwitchPlan) : Prop where
  target : plan.targetMode = mode
  visible : plan.requireVisible = mode.requiresVisibleCamera
  composite : plan.requireComposite = mode.requiresCompositeCamera
  switch : plan.requireCompositeSensorSwitch = plan.requireComposite
  pipelineComposite : plan.pipeline.requireComposite = plan.requireComposite
  output : plan.compositeOutput ≠ .unknown ↔ plan.requireCompositeSensorSwitch = true
  fusion : plan.requireFusion = true ↔ plan.fusionMode ≠ .unknown
  pipelineVisible : plan.pipeline.requireVisible = plan.requireVisible
  cameras : ∀ camera, camera ∈ plan.requiredCameras ↔
    (camera = .visible ∧ plan.requireVisible = true) ∨
      (camera = .compositeLowThermal ∧ plan.requireComposite = true)
  cameras_nodup : plan.requiredCameras.Nodup
  codec : Xor (plan.pipeline.useEncoder = true) (plan.pipeline.passthroughEncoded = true)

namespace ModeSwitchPlanner

variable {mode : WorkMode}

def Refuses (modeConfig : ModeConfig) (mode : WorkMode) : Prop :=
  mode = .unknown ∨ modeConfig.enabledModes.lookup mode.configKey = some false ∨
    (mode.requiresCompositeSensorSwitch = true ∧ ModePolicy.Misnamed modeConfig mode)

theorem mem_planFor_cameras (media : MediaConfig) (output : CompositeSensorOutputMode)
    (camera : CameraId) :
    camera ∈ (planFor media mode output).requiredCameras ↔
      (camera = .visible ∧ mode.requiresVisibleCamera = true) ∨
        (camera = .compositeLowThermal ∧ mode.requiresCompositeCamera = true) := by
  simp only [planFor, List.mem_append]
  cases mode.requiresVisibleCamera <;> cases mode.requiresCompositeCamera <;> simp

theorem pipelineFor_coherent (media : MediaConfig) (hm : mode ≠ .unknown) :
    (pipelineFor mode media).requireVisible = mode.requiresVisibleCamera ∧
      (pipelineFor mode media).requireComposite = mode.requiresCompositeCamera ∧
      Xor ((pipelineFor mode media).useEncoder = true)
        ((pipelineFor mode media).passthroughEncoded = true) := by
  by_cases hv : mode = .visibleOnly
  · subst hv
    exact ⟨rfl, rfl, .inr ⟨rfl, Bool.false_ne_true⟩⟩
  · by_cases hf : mode.isFusionMode = true
    · simp only [pipelineFor, hv, hf, if_false, if_true]
      refine ⟨?_, ?_, .inl ⟨rfl, Bool.false_ne_true⟩⟩
      · simp [WorkMode.requiresVisibleCamera, hf, PipelineBuilder.visibleCompositeFusionPlaceholder]
      · cases mode <;> first | rfl | exact absurd hf Bool.false_ne_true
    · simp only [pipelineFor, hv, hf, if_false]
      refine ⟨?_, ?_, .inl ⟨rfl, Bool.false_ne_true⟩⟩
      · simp [WorkMode.requiresVisibleCamera, hf, hv, PipelineBuilder.compositeOnlyAuto]
      · cases mode <;> first | rfl | exact absurd rfl hm | exact absurd rfl hv

theorem fusionModeFor_ne_unknown : mode.isFusionMode = true ↔ fusionModeFor mode ≠ .unknown := by
  cases mode <;> decide

theorem planFor_coherent (media : MediaConfig) {output : CompositeSensorOutputMode}
    (hm : mode ≠ .unknown)
    (ho : output ≠ .unknown ↔ mode.requiresCompositeSensorSwitch = true) :
    (planFor media mode output).Coherent mode := by
  obtain ⟨hv, hc, hx⟩ := pipelineFor_coherent media hm
  constructor
  case cameras => exact mem_planFor_cameras media output
  case cameras_nodup =>
    simp only [planFor]
    cases mode.requiresVisibleCamera <;> cases mode.requiresCompositeCamera <;> decide
  case pipelineVisible => exact hv
  case pipelineComposite => exact hc
  case codec => exact hx
  case output => exact ho
  case fusion => exact fusionModeFor_ne_unknown
  all_goals rfl

theorem buildPlan_cases (modeConfig : ModeConfig) (mediaConfig : MediaConfig) (mode : WorkMode) :
    (Refuses modeConfig mode ∧ ∃ e, (init modeConfig mediaConfig).buildPlan mode = .error e) ∨
      (¬Refuses modeConfig mode ∧ ∃ plan, plan.Coherent mode ∧
        (init modeConfig mediaConfig).buildPlan mode = .ok plan) := by
  have hi : (init modeConfig mediaConfig).initialized = true := rfl
  have hp : (init modeConfig mediaConfig).policy = ModePolicy.init modeConfig := rfl
  simp only [buildPlan, hi, hp, Bool.not_true, Bool.false_eq_true, if_false]
  cases hv : (ModePolicy.init modeConfig).validateModeEnabled mode with
  | error e =>
    left
    refine ⟨?_, _, rfl⟩
    by_contra hr
    simp only [Refuses, not_or] at hr
    rw [ModePolicy.validateModeEnabled_ok_iff.mpr ⟨hr.1, hr.2.1⟩] at hv
    cases hv
  | ok u =>
    obtain ⟨hm, hd⟩ := ModePolicy.validateModeEnabled_ok_iff.mp hv
    by_cases hs : mode.requiresCompositeSensorSwitch = true
    · simp only [hs, if_true]
      rcases ModePolicy.compositeOutputFor_cases modeConfig hs with
        ⟨hn, e, he⟩ | ⟨hn, output, he, ho⟩
      · rw [he]
        exact .inl ⟨.inr (.inr ⟨hs, hn⟩), _, rfl⟩
      · rw [he]
        right
        refine ⟨?_, _, planFor_coherent mediaConfig hm (iff_of_true ho hs), rfl⟩
        intro h
        rcases h with h | h | ⟨_, h⟩
        · exact hm h
        · exact hd h
        · exact hn h
    · simp only [hs]
      right
      have ho : (CompositeSensorOutputMode.unknown ≠ .unknown ↔
          mode.requiresCompositeSensorSwitch = true) := iff_of_false (fun h ↦ h rfl) hs
      refine ⟨?_, _, planFor_coherent mediaConfig hm ho, rfl⟩
      intro h
      rcases h with h | h | ⟨h, _⟩
      · exact hm h
      · exact hd h
      · exact hs h

/-- `buildPlan` fails exactly on the modes it refuses, and what it returns is coherent. -/
theorem buildPlan_coherent (modeConfig : ModeConfig) (mediaConfig : MediaConfig)
    (mode : WorkMode) :
    ((∃ e, (init modeConfig mediaConfig).buildPlan mode = .error e) ↔
        Refuses modeConfig mode) ∧
      ∀ plan, (init modeConfig mediaConfig).buildPlan mode = .ok plan → plan.Coherent mode := by
  rcases buildPlan_cases modeConfig mediaConfig mode with ⟨hr, e, he⟩ | ⟨hr, plan, hc, hp⟩
  · refine ⟨iff_of_true ⟨e, he⟩ hr, ?_⟩
    intro plan hp
    rw [he] at hp
    cases hp
  · refine ⟨iff_of_false ?_ hr, ?_⟩
    · intro ⟨e, he⟩
      rw [hp] at he
      cases he
    · intro plan' hp'
      rw [hp] at hp'
      cases hp'
      exact hc

end ModeSwitchPlanner

end TriFusion.Mode
