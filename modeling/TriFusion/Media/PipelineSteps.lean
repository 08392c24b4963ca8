import TriFusion.Media.PipelineBuilder

namespace TriFusion.Media

open Foundation Hardware Device

variable {ω α : Type} {io : MediaIo ω}

namespace Shared

def OnlyOutside (s s' : Shared ω) : Prop := s' = { s with outside := s'.outside }

namespace OnlyOutside

variable {s s₁ s₂ : Shared ω}

theorem refl (s : Shared ω) : s.OnlyOutside s := rfl

theorem trans (h : s.OnlyOutside s₁) (h' : s₁.OnlyOutside s₂) : s.OnlyOutside s₂ := by
  unfold OnlyOutside at *
  rw [h', h]

theorem mainStream (h : s.OnlyOutside s₁) : s₁.mainStream = s.mainStream := by rw [h]

theorem history (h : s.OnlyOutside s₁) : s₁.history = s.history := by rw [h]

end OnlyOutside

theorem call_outside (f : ω → α × ω) (s : Shared ω) : s.OnlyOutside (s.call f).2 := rfl

theorem outside_of_call {f : ω → α × ω} {s s' : Shared ω} {a : α} (h : s.call f = (a, s')) :
    s.OnlyOutside s' := by
  have hs := call_outside f s
  rw [h] at hs
  exact hs

theorem call_eq {f : ω → α × ω} {s s' : Shared ω} {a : α} (h : s.call f = (a, s')) :
    f s.outside = (a, s'.outside) := by
  obtain ⟨ha, hs⟩ := Prod.mk.inj h
  rw [← ha, ← hs]

end Shared

namespace MediaPipeline

variable {p : MediaPipeline} {s : Shared ω}

def SameSetup (p p' : MediaPipeline) : Prop := p'.config = p.config ∧ p'.context = p.context

theorem SameSetup.trans {p p₁ p₂ : MediaPipeline} (h : p.SameSetup p₁) (h' : p₁.SameSetup p₂) :
    p.SameSetup p₂ :=
  ⟨h'.1.trans h.1, h'.2.trans h.2⟩

theorem initVisible_setup : p.SameSetup p.initVisible.2 := by
  unfold initVisible
  split
  · exact ⟨rfl, rfl⟩
  · dsimp only
    split <;> exact ⟨rfl, rfl⟩

theorem initComposite_setup : p.SameSetup p.initComposite.2 := by
  unfold initComposite
  split
  · exact ⟨rfl, rfl⟩
  · dsimp only
    split <;> exact ⟨rfl, rfl⟩

variable (io p s) in
theorem initDecoder_kept :
    p.SameSetup (p.initDecoder io s).2.1 ∧ s.OnlyOutside (p.initDecoder io s).2.2 := by
  unfold initDecoder
  split
  · exact ⟨⟨rfl, rfl⟩, .refl s⟩
  · dsimp only
    split <;> rename_i hx <;> exact ⟨⟨rfl, rfl⟩, Shared.outside_of_call hx⟩

theorem initFormatConvert_setup : p.SameSetup p.initFormatConvert := by
  unfold initFormatConvert
  split <;> exact ⟨rfl, rfl⟩

variable (io p s) in
theorem initEncoder_kept :
    p.SameSetup (p.initEncoder io s).2.1 ∧ s.OnlyOutside (p.initEncoder io s).2.2 := by
  unfold initEncoder
  split
  · dsimp only
    split <;> rename_i hx <;> exact ⟨⟨rfl, rfl⟩, Shared.outside_of_call hx⟩
  · split <;> exact ⟨⟨rfl, rfl⟩, .refl s⟩

variable (io p s) in
theorem initNodes_kept :
    p.SameSetup (p.initNodes io s).2.1 ∧ s.OnlyOutside (p.initNodes io s).2.2 := by
  have hv := initVisible_setup (p := p)
  unfold initNodes
  split <;> rename_i p₁ hx <;> rw [hx] at hv
  · exact ⟨hv, .refl s⟩
  · have hc := hv.trans (initComposite_setup (p := p₁))
    split <;> rename_i p₂ hx <;> rw [hx] at hc
    · exact ⟨hc, .refl s⟩
    · obtain ⟨hd, ho⟩ := p₂.initDecoder_kept io s
      split <;> rename_i p₃ s₃ hx <;> rw [hx] at hd ho
      · exact ⟨hc.trans hd, ho⟩
      · obtain ⟨he, ho'⟩ := p₃.initFormatConvert.initEncoder_kept io s₃
        have hf := (hc.trans hd).trans (initFormatConvert_setup.trans he)
        split <;> rename_i hx <;> rw [hx] at hf ho'
        · exact ⟨hf, ho.trans ho'⟩
        · exact ⟨hf.trans ⟨rfl, rfl⟩, ho.trans ho'⟩

variable (io p s) in
theorem init_kept (config : PipelineConfig) (context : PipelineContext) (hr : p.state ≠ .running) :
    (p.init io config context s).2.1.config = config ∧
      (p.init io config context s).2.1.context = context ∧
      s.OnlyOutside (p.init io config context s).2.2 := by
  unfold init
  rw [if_neg hr]
  dsimp only
  split
  · exact ⟨rfl, rfl, .refl s⟩
  · obtain ⟨hn, ho⟩ := initNodes_kept io
      { p with config := config, context := context, stats := {}, graph := [] } s
    exact ⟨hn.1, hn.2, ho⟩

variable (io p s) in
theorem init_outside (config : PipelineConfig) (context : PipelineContext) :
    s.OnlyOutside (p.init io config context s).2.2 := by
  by_cases hr : p.state = .running
  · unfold init
    rw [if_pos hr]
    exact .refl s
  · exact (init_kept io p s config context hr).2.2

variable (io s) in
theorem startNode_outside (node : Option CaptureNode) :
    s.OnlyOutside (startNode io node s).2 := by
  cases node with
  | none => exact .refl s
  | some node => exact Shared.call_outside _ s

theorem stopNode_outside (node : Option CaptureNode) : s.OnlyOutside (stopNode io node s) := by
  cases node with
  | none => exact .refl s
  | some node => exact Shared.call_outside _ s

variable (io p s) in
theorem startCaptureNodes_outside : s.OnlyOutside (p.startCaptureNodes io s).2 := by
  have hv := startNode_outside io s p.visibleCapture
  unfold startCaptureNodes
  split
  · rename_i hx
    rw [hx] at hv
    exact hv
  · rename_i s₁ hx
    rw [hx] at hv
    have hc := startNode_outside io s₁ p.compositeCapture
    split <;> rename_i hy <;> rw [hy] at hc
    · exact (hv.trans hc).trans (stopNode_outside _)
    · exact hv.trans hc

variable (io p s) in
theorem stopCaptureNodes_outside : s.OnlyOutside (p.stopCaptureNodes io s) :=
  (stopNode_outside _).trans (stopNode_outside _)

@[simp] theorem publishEvent_mainStream (type : EventType) (name : Text) :
    (p.publishEvent type name s).mainStream = s.mainStream := by
  unfold publishEvent
  split <;> rfl

@[simp] theorem publishEvent_history (type : EventType) (name : Text) :
    (p.publishEvent type name s).history = s.history := by
  unfold publishEvent
  split <;> rfl

theorem start_failed {e : Status} {p' : MediaPipeline} {s' : Shared ω}
    (h : p.start io s = (.error e, p', s')) : p' = p ∧ s.OnlyOutside s' := by
  have hc := p.startCaptureNodes_outside io s
  unfold start at h
  split at h
  · obtain ⟨-, hr⟩ := Prod.mk.inj h
    obtain ⟨rfl, rfl⟩ := Prod.mk.inj hr
    exact ⟨rfl, .refl _⟩
  · split at h <;> rename_i hx <;> rw [hx] at hc
    · obtain ⟨-, hr⟩ := Prod.mk.inj h
      obtain ⟨rfl, rfl⟩ := Prod.mk.inj hr
      exact ⟨rfl, hc⟩
    · split at h
      · exact nomatch (Prod.mk.inj h).1
      · dsimp only at h
        split at h <;> exact nomatch (Prod.mk.inj h).1

variable (io p s) in
theorem start_setup : p.SameSetup (p.start io s).2.1 := by
  unfold start
  split
  · exact ⟨rfl, rfl⟩
  · split
    · exact ⟨rfl, rfl⟩
    · split
      · exact ⟨rfl, rfl⟩
      · dsimp only
        split <;> exact ⟨rfl, rfl⟩

theorem start_history : (p.start io s).2.2.history = s.history := by
  have hc := (p.startCaptureNodes_outside io s).history
  unfold start
  split
  · rfl
  · split <;> rename_i hx <;> rw [hx] at hc
    · exact hc
    · split
      · exact hc
      · dsimp only
        split
        · exact hc
        · exact (publishEvent_history _ _).trans hc

theorem releaseNodes_outside : s.OnlyOutside (p.releaseNodes io s) := by
  have hc := p.stopCaptureNodes_outside io s
  unfold releaseNodes
  cases p.decoder <;> cases p.encoder <;> exact hc.trans rfl

theorem stop_history : (p.stop io s).2.history = s.history := by
  unfold stop
  extract_lets p₁ s₁ s₂ s₃
  have h₁ : s₁.history = s.history := releaseNodes_outside.history
  have h₂ : s₂.history = s₁.history := by
    unfold s₂
    split <;> rfl
  have h₃ : s₃.history = s₂.history := by
    unfold s₃
    split
    · exact publishEvent_history _ _
    · rfl
  exact h₃.trans (h₂.trans h₁)

theorem stop_mainStream : (p.stop io s).2.mainStream =
    if p.context.mainStream then s.mainStream.stop else s.mainStream := by
  unfold stop
  extract_lets p₁ s₁ s₂ s₃
  have h₁ : s₁.mainStream = s.mainStream := releaseNodes_outside.mainStream
  have h₂ : s₂.mainStream = if p.context.mainStream then s.mainStream.stop else s.mainStream := by
    unfold s₂ p₁
    split
    · exact congrArg MainStream.stop h₁
    · exact h₁
  have h₃ : s₃.mainStream = s₂.mainStream := by
    unfold s₃
    split
    · exact publishEvent_mainStream _ _
    · rfl
  exact h₃.trans h₂

theorem stop_context : (p.stop io s).1.context = p.context := rfl

variable (io p s) in
theorem prepareFrameForPipeline_setup (frame : VideoFrame) :
    p.SameSetup (p.prepareFrameForPipeline io frame s).2.1 := by
  unfold prepareFrameForPipeline
  split
  · exact ⟨rfl, rfl⟩
  · split
    · split
      · dsimp only
        split <;> exact ⟨rfl, rfl⟩
      · split <;> exact ⟨rfl, rfl⟩
    · exact ⟨rfl, rfl⟩

theorem pushEncoded_setup (encoded : EncodedFrame) :
    p.SameSetup (pushEncoded encoded p s).2.1 := by
  unfold pushEncoded
  dsimp only
  split <;> exact ⟨rfl, rfl⟩

theorem publishFrame_setup (frame : VideoFrame) : p.SameSetup (p.publishFrame io frame s).2.1 := by
  unfold publishFrame
  split
  · dsimp only
    split
    · exact ⟨rfl, rfl⟩
    · exact pushEncoded_setup _
  · split
    · exact ⟨rfl, rfl⟩
    · split
      · exact ⟨rfl, rfl⟩
      · exact pushEncoded_setup _

variable (io p s) in
theorem processOneFrame_setup : p.SameSetup (p.processOneFrame io s).2.1 := by
  unfold processOneFrame
  split
  · exact ⟨rfl, rfl⟩
  · split
    · exact ⟨rfl, rfl⟩
    · rename_i frame s₁ _
      dsimp only
      generalize hp : ({ p with stats.capturedFrames := p.stats.capturedFrames + 1 } :
        MediaPipeline) = p₁
      have h₁ : p.SameSetup p₁ := hp ▸ ⟨rfl, rfl⟩
      have h₂ := h₁.trans (p₁.prepareFrameForPipeline_setup io (s₁.record (.captured frame))
        frame)
      split <;> rename_i hx <;> rw [hx] at h₂
      · exact h₂
      · exact h₂.trans (publishFrame_setup _)

theorem runLoopTurn_setup : p.SameSetup (p.runLoopTurn io s).1 := by
  have h := p.processOneFrame_setup io s
  unfold runLoopTurn
  split <;> rename_i hx <;> rw [hx] at h <;> exact h

end MediaPipeline

namespace PipelineBuilder

variable {s : Shared ω} {config : PipelineConfig} {context : PipelineContext}

theorem build_ok {pipeline : MediaPipeline} {s' : Shared ω}
    (h : build io config context s = (.ok pipeline, s')) :
    pipeline.config = config ∧ pipeline.context = context := by
  obtain ⟨hc, hx, -⟩ := MediaPipeline.init_kept io {} s config context
    (by decide)
  unfold build at h
  split at h <;> rename_i hi <;> rw [hi] at hc hx
  · exact nomatch (Prod.mk.inj h).1
  · obtain ⟨hp, -⟩ := Prod.mk.inj h
    obtain rfl := Except.ok.inj hp
    exact ⟨hc, hx⟩

variable (io config context) in
theorem build_stopped (h : s.mainStream.state = .stopped) :
    (build io config context s).2.mainStream.state = .stopped := by
  have hm := (MediaPipeline.init_outside io {} s config context).mainStream
  unfold build
  split <;> rename_i hi <;> rw [hi] at hm
  · rw [MediaPipeline.stop_mainStream]
    split
    · rfl
    · exact hm.symm ▸ h
  · exact hm.symm ▸ h

end PipelineBuilder

theorem PipelineSystem.work_setup (p : MediaPipeline) (s : Shared ω) :
    p.SameSetup (PipelineSystem.step io (p, s) .work).1 := by
  unfold PipelineSystem.step
  dsimp only
  split
  · exact ⟨rfl, rfl⟩
  · split
    · exact MediaPipeline.runLoopTurn_setup
    · exact ⟨rfl, rfl⟩

end TriFusion.Media
