import TriFusion.Media.OutputCodec
import TriFusion.Mode.ModeSwitchPlanner

namespace TriFusion.Mode

open Foundation Hardware Device Media Library Library.Traces

/-- Every frame that a pipeline of this configuration pushes has the codec that the
stream was set up with: for any cameras and codecs, and however it is run. -/
def FramesMatchProfile (m : MediaConfig) (config : PipelineConfig) : Prop :=
  ∀ (ω : Type) (io : MediaIo ω) (stream : MainStream) (events : List Event) (outside : ω)
    (context : PipelineContext) (pipeline : MediaPipeline) (shared : Shared ω)
    (calls : List PipelineCall),
    PipelineBuilder.build io config context
        { mainStream := (stream.init m).2, events := events, outside := outside } =
      (.ok pipeline, shared) →
    (∀ config context, PipelineCall.init config context ∉ calls) →
    ∀ frame, .pushed frame ∈ (PipelineSystem.run io (pipeline, shared) calls).2.history →
      frame.codec = (PipelineSystem.run io (pipeline, shared) calls).2.mainStream.profile.codec

namespace ModeSwitchPlanner

theorem buildPlan_pipeline {p : ModeSwitchPlanner} {mode : WorkMode} {plan : ModeSwitchPlan}
    (h : p.buildPlan mode = .ok plan) : plan.pipeline = pipelineFor mode p.mediaConfig := by
  obtain ⟨output, rfl⟩ := buildPlan_ok h
  rfl

theorem pipelineFor_useEncoder (mode : WorkMode) (m : MediaConfig) :
    (pipelineFor mode m).useEncoder = decide (mode ≠ .visibleOnly) := by
  cases mode <;> rfl

end ModeSwitchPlanner

def frameCodec (mode : WorkMode) : MppCodec := if mode = .visibleOnly then .mjpeg else .h264

theorem frameCodec_eq (mode : WorkMode) (m : MediaConfig) :
    frameCodec mode =
      if (ModeSwitchPlanner.pipelineFor mode m).useEncoder then .h264 else .mjpeg := by
  rw [ModeSwitchPlanner.pipelineFor_useEncoder]
  cases mode <;> rfl

theorem frames_match {m : MediaConfig} {config : PipelineConfig}
    (h : codecFromString m.codec = if config.useEncoder then .h264 else .mjpeg) :
    FramesMatchProfile m config := by
  intro ω io stream events outside context pipeline shared calls hb hc frame hf
  obtain ⟨ho, hs⟩ := PipelineBuilder.build_outputCodec hb
  have hstart : PipelineSystem.InCodec (if config.useEncoder then .h264 else .mjpeg)
      (stream.init m).2.profile (pipeline, shared) := by
    refine ⟨ho, ?_, by rw [hs.mainStream]⟩
    dsimp only
    rw [hs.history]
    exact lawful_nil
  have hend := PipelineSystem.run_inCodec io calls hc hstart
  rw [hend.profile, Coded.of_mem hend.history hf]
  exact h.symm

def steadyIo (frame : CameraFrame) : MediaIo Unit where
  startCamera _ w := (.ok (), w)
  stopCamera _ w := (.ok (), w)
  readFrame _ _ w := (.ok frame, w)
  decoderInit _ w := (.ok (), w)
  decode _ w := (.ok {}, w)
  decoderRelease := id
  encoderInit _ w := (.ok (), w)
  encodeNv12 _ _ w := (.ok { data := [0] }, w)
  encoderRelease := id
  imcvtcolor _ dst w := (.ok dst.data, w)
  nowMs w := (0, w)

def fullPipelineContext : PipelineContext where
  cameraManager := some {}
  mainStream := true
  encoder := true

def sampleFrame (mode : WorkMode) : CameraFrame where
  width := 1
  height := 1
  pixelformat := if mode = .visibleOnly then V4L2_PIX_FMT_MJPEG else V4L2_PIX_FMT_NV12
  bytes := [0]

theorem exists_pushed (mode : WorkMode) (m : MediaConfig) :
    ∃ pipeline shared,
      PipelineBuilder.build (steadyIo (sampleFrame mode))
          (ModeSwitchPlanner.pipelineFor mode m) fullPipelineContext
          { mainStream := (({} : MainStream).init m).2, outside := () } =
        (.ok pipeline, shared) ∧
      ∃ frame, .pushed frame ∈
          (PipelineSystem.run (steadyIo (sampleFrame mode)) (pipeline, shared)
            [.start, .work]).2.history ∧
        frame.codec = frameCodec mode ∧
        (PipelineSystem.run (steadyIo (sampleFrame mode)) (pipeline, shared)
          [.start, .work]).2.mainStream.profile.codec = codecFromString m.codec := by
  cases mode with
  | visibleOnly => exact ⟨_, _, rfl, _, .tail _ (.head _), rfl, rfl⟩
  | _ => exact ⟨_, _, rfl, _, .tail _ (.tail _ (.head _)), rfl, rfl⟩

/-- The frames of a mode have the advertised codec exactly when the configuration
names the one codec that the pipeline of the mode makes. -/
theorem frames_match_profile_iff {modeConfig : ModeConfig} {m : MediaConfig} {mode : WorkMode}
    {plan : ModeSwitchPlan}
    (hb : (ModeSwitchPlanner.init modeConfig m).buildPlan mode = .ok plan) :
    FramesMatchProfile m plan.pipeline ↔ codecFromString m.codec = frameCodec mode := by
  have hp : plan.pipeline = ModeSwitchPlanner.pipelineFor mode m :=
    ModeSwitchPlanner.buildPlan_pipeline hb
  rw [hp]
  constructor
  · intro h
    obtain ⟨pipeline, shared, hbuild, frame, hf, hc, hprofile⟩ := exists_pushed mode m
    have hm := h Unit _ {} [] () _ pipeline shared [.start, .work] hbuild (by simp) frame hf
    rw [← hprofile, ← hm, hc]
  · intro h
    exact frames_match (h.trans (frameCodec_eq mode m))

theorem lowlight_planned :
    (ModeSwitchPlanner.init {} {}).buildPlan .lowlightOnly =
      .ok (ModeSwitchPlanner.planFor {} .lowlightOnly .lowlightOnly) := by
  decide +kernel

theorem frames_match_profile_lowlight :
    FramesMatchProfile {} (ModeSwitchPlanner.pipelineFor .lowlightOnly {}) :=
  (frames_match_profile_iff lowlight_planned).mpr (by decide +kernel)

/-- With the default configuration the visible mode pushes MJPEG under an H.264 profile. -/
theorem visible_frames_mislabelled :
    (ModeSwitchPlanner.init {} {}).buildPlan .visibleOnly =
        .ok (ModeSwitchPlanner.planFor {} .visibleOnly .unknown) ∧
      ¬ FramesMatchProfile {} (ModeSwitchPlanner.planFor {} .visibleOnly .unknown).pipeline := by
  refine ⟨by decide +kernel, fun h ↦ ?_⟩
  obtain ⟨pipeline, shared, hbuild, frame, hf, hc, hprofile⟩ := exists_pushed .visibleOnly {}
  have hm := h Unit _ {} [] () _ pipeline shared [.start, .work] hbuild (by simp) frame hf
  rw [hc, hprofile] at hm
  exact absurd hm (by decide +kernel)

end TriFusion.Mode
