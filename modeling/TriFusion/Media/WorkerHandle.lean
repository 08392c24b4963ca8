import TriFusion.Media.PipelineSteps

namespace TriFusion.Media

open Foundation Hardware Device Library

variable {ω : Type} {io : MediaIo ω}

namespace MediaPipeline

variable {p p' p₁ : MediaPipeline} {s s' : Shared ω}

/-- The members that the guards of `init` and `start` read, and the thread they guard. -/
def SameHandle (p p' : MediaPipeline) : Prop :=
  p'.state = p.state ∧ p'.worker = p.worker ∧ p'.stopFlag = p.stopFlag

theorem SameHandle.refl (p : MediaPipeline) : p.SameHandle p := ⟨rfl, rfl, rfl⟩

theorem SameHandle.trans (h : p.SameHandle p₁) (h' : p₁.SameHandle p') : p.SameHandle p' :=
  ⟨h'.1.trans h.1, h'.2.1.trans h.2.1, h'.2.2.trans h.2.2⟩

theorem initVisible_handle : p.SameHandle p.initVisible.2 := by
  unfold initVisible
  split
  · exact .refl p
  · dsimp only
    split <;> exact .refl p

theorem initComposite_handle : p.SameHandle p.initComposite.2 := by
  unfold initComposite
  split
  · exact .refl p
  · dsimp only
    split <;> exact .refl p

variable (io p s) in
theorem initDecoder_handle : p.SameHandle (p.initDecoder io s).2.1 := by
  unfold initDecoder
  split
  · exact .refl p
  · dsimp only
    split <;> exact .refl p

theorem initFormatConvert_handle : p.SameHandle p.initFormatConvert := by
  unfold initFormatConvert
  split <;> exact .refl p

variable (io p s) in
theorem initEncoder_handle : p.SameHandle (p.initEncoder io s).2.1 := by
  unfold initEncoder
  split
  · dsimp only
    split <;> exact .refl p
  · split <;> exact .refl p

variable (io p s) in
theorem initNodes_handle :
    (∃ e, (p.initNodes io s).1 = .error e ∧ p.SameHandle (p.initNodes io s).2.1) ∨
      (p.initNodes io s).1 = .ok () ∧ (p.initNodes io s).2.1.state = .initialized ∧
        (p.initNodes io s).2.1.worker = p.worker := by
  have hv := initVisible_handle (p := p)
  unfold initNodes
  split <;> rename_i p₁ hx <;> rw [hx] at hv
  · exact .inl ⟨_, rfl, hv⟩
  · have hc := hv.trans (initComposite_handle (p := p₁))
    split <;> rename_i p₂ hx <;> rw [hx] at hc
    · exact .inl ⟨_, rfl, hc⟩
    · have hd := hc.trans (initDecoder_handle io p₂ s)
      split <;> rename_i p₃ s₃ hx <;> rw [hx] at hd
      · exact .inl ⟨_, rfl, hd⟩
      · have he := hd.trans (initFormatConvert_handle.trans
          (initEncoder_handle io p₃.initFormatConvert s₃))
        split <;> rename_i hx <;> rw [hx] at he
        · exact .inl ⟨_, rfl, he⟩
        · exact .inr ⟨rfl, rfl, he.2.1⟩

variable (io p s) in
theorem init_handle (config : PipelineConfig) (context : PipelineContext) :
    (∃ e, (p.init io config context s).1 = .error e ∧
        p.SameHandle (p.init io config context s).2.1) ∨
      (p.init io config context s).1 = .ok () ∧
        (p.init io config context s).2.1.state = .initialized ∧
        (p.init io config context s).2.1.worker = p.worker := by
  unfold init
  split
  · exact .inl ⟨_, rfl, .refl p⟩
  · dsimp only
    split
    · exact .inl ⟨_, rfl, .refl p⟩
    · rcases initNodes_handle io
        { p with config := config, context := context, stats := {}, graph := [] } s with
        ⟨e, he, hh⟩ | ⟨hr, hst, hw⟩
      · exact .inl ⟨e, he, hh⟩
      · exact .inr ⟨hr, hst, hw⟩

@[simp] theorem publishEvent_crashed (type : EventType) (name : Text) :
    (p.publishEvent type name s).crashed = s.crashed := by
  unfold publishEvent
  split <;> rfl

variable (io p s) in
theorem start_cases :
    (∃ e, (p.start io s).1 = .error e ∧ (p.start io s).2.1 = p ∧
        (p.start io s).2.2.crashed = s.crashed) ∨
      ((p.state = .initialized ∨ p.state = .stopped) ∧
        (p.startCaptureNodes io s).1 = .ok () ∧
        ((¬(p.context.mainStream = true ∧ p.worker = false) ∧
            (p.start io s).2.1.state = p.state ∧ (p.start io s).2.1.worker = p.worker ∧
            (p.start io s).2.2.crashed = true) ∨
          (p.context.mainStream = true ∧ p.worker = false ∧ (p.start io s).1 = .ok () ∧
            (p.start io s).2.1 =
              { p with stopFlag := false, worker := true, state := .running } ∧
            (p.start io s).2.2.crashed = s.crashed))) := by
  have hc := congrArg Shared.crashed (p.startCaptureNodes_outside io s)
  unfold start
  split
  · exact .inl ⟨_, rfl, rfl, rfl⟩
  · rename_i hstate
    have hstate : p.state = .initialized ∨ p.state = .stopped := or_iff_not_and_not.mpr hstate
    split <;> rename_i hx <;> rw [hx] at hc
    · exact .inl ⟨_, rfl, rfl, hc⟩
    · refine .inr ⟨hstate, by rw [hx], ?_⟩
      split
      · rename_i hm
        refine .inl ⟨fun h ↦ ?_, rfl, rfl, rfl⟩
        rw [h.1] at hm
        exact nomatch hm
      · rename_i hm
        dsimp only
        split
        · rename_i hw
          refine .inl ⟨fun h ↦ ?_, rfl, rfl, rfl⟩
          rw [h.2] at hw
          exact nomatch hw
        · rename_i hw
          refine .inr ⟨?_, Bool.eq_false_iff.mpr hw, rfl, rfl, ?_⟩
          · rw [Bool.not_eq_true', Bool.not_eq_false] at hm
            exact hm
          · rw [publishEvent_crashed]
            exact hc

variable (io p s) in
theorem prepareFrameForPipeline_handle (frame : VideoFrame) :
    p.SameHandle (p.prepareFrameForPipeline io frame s).2.1 := by
  unfold prepareFrameForPipeline
  split
  · exact .refl p
  · split
    · split
      · dsimp only
        split <;> exact .refl p
      · split <;> exact .refl p
    · exact .refl p

theorem pushEncoded_handle (encoded : EncodedFrame) :
    p.SameHandle (pushEncoded encoded p s).2.1 := by
  unfold pushEncoded
  dsimp only
  split <;> exact .refl p

theorem publishFrame_handle (frame : VideoFrame) :
    p.SameHandle (p.publishFrame io frame s).2.1 := by
  unfold publishFrame
  split
  · dsimp only
    split
    · exact .refl p
    · exact pushEncoded_handle _
  · split
    · exact .refl p
    · split
      · exact .refl p
      · exact pushEncoded_handle _

variable (io p s) in
theorem processOneFrame_handle : p.SameHandle (p.processOneFrame io s).2.1 := by
  unfold processOneFrame
  split
  · exact .refl p
  · split
    · exact .refl p
    · rename_i frame s₁ _
      dsimp only
      generalize hp : ({ p with stats.capturedFrames := p.stats.capturedFrames + 1 } :
        MediaPipeline) = p₁
      have h₁ : p.SameHandle p₁ := hp ▸ .refl p
      have h₂ := h₁.trans (p₁.prepareFrameForPipeline_handle io (s₁.record (.captured frame)) frame)
      split <;> rename_i hx <;> rw [hx] at h₂
      · exact h₂
      · exact h₂.trans (publishFrame_handle _)

def Harmless (ret : Result Unit) : Prop :=
  ∀ e, ret = .error e → e.code = .timeout ∨ e.code = .serialReadTimeout

variable (io p s) in
theorem runLoopTurn_cases :
    (p.runLoopTurn io s).1.worker = p.worker ∧ (p.runLoopTurn io s).1.stopFlag = p.stopFlag ∧
      ((Harmless (p.processOneFrame io s).1 ∧ (p.runLoopTurn io s).1.state = p.state) ∨
        (¬Harmless (p.processOneFrame io s).1 ∧ (p.runLoopTurn io s).1.state = .error)) := by
  obtain ⟨hstate, hworker, hflag⟩ := processOneFrame_handle io p s
  unfold runLoopTurn
  split <;> rename_i hx <;> rw [hx] at hstate hworker hflag ⊢
  · rename_i e p₁ s₁
    refine ⟨hworker, hflag, ?_⟩
    by_cases he : e.code ≠ .timeout ∧ e.code ≠ .serialReadTimeout
    · refine .inr ⟨fun h ↦ ?_, if_pos he⟩
      exact (h e rfl).elim he.1 he.2
    · refine .inl ⟨fun e' he' ↦ ?_, (if_neg he).trans hstate⟩
      rw [← Except.error.inj he']
      exact or_iff_not_and_not.mpr he
  · exact ⟨hworker, hflag, .inl ⟨fun _ he ↦ (nomatch he), hstate⟩⟩

def Unchanged (p p' : MediaPipeline) : Prop := p' = { p with stats := p'.stats }

theorem init_running (h : p.state = .running) (config : PipelineConfig)
    (context : PipelineContext) :
    p.init io config context s = (.error ⟨.busy, "pipeline is running"⟩, p, s) := by
  unfold init
  rw [if_pos h]
  rfl

theorem start_running (h : p.state = .running) :
    p.start io s = (.error ⟨.notInitialized, "pipeline is not initialized"⟩, p, s) := by
  have hs : p.state ≠ .initialized ∧ p.state ≠ .stopped := by
    rw [h]
    decide
  unfold start
  rw [if_pos hs]
  rfl

end MediaPipeline

namespace PipelineSystem

open MediaPipeline

variable {y : PipelineSystem ω} {call : PipelineCall}

/-- While the worker has not been joined, `init` is refused and leaves the pipeline as it
is, and `start` does not end the process by giving `worker_` another thread. -/
def Guarded (io : MediaIo ω) (y : PipelineSystem ω) : Prop :=
  y.1.worker = true →
    (∀ config context, (∃ e, (y.1.init io config context y.2).1 = .error e) ∧
      y.1.Unchanged (y.1.init io config context y.2).2.1) ∧
    ((y.1.start io y.2).2.2.crashed = true → y.2.crashed = true)

def Calm (io : MediaIo ω) (y : PipelineSystem ω) (call : PipelineCall) : Prop :=
  call = .work → y.2.crashed = false → y.1.worker = true → y.1.stopFlag = false →
    Harmless (y.1.processOneFrame io y.2).1

def Joined (y : PipelineSystem ω) : Prop := y.1.worker = true → y.1.state = .running

theorem Joined.guarded (h : y.Joined) : y.Guarded io := by
  intro hw
  have hr := h hw
  refine ⟨fun config context ↦ ?_, fun hc ↦ ?_⟩
  · rw [init_running hr]
    exact ⟨⟨_, rfl⟩, rfl⟩
  · rw [start_running hr] at hc
    exact hc

theorem not_guarded (hw : y.1.worker = true) (hr : y.1.state ≠ .running) : ¬y.Guarded io := by
  intro h
  have hu := ((h hw).1 { y.1.config with requireVisible := !y.1.config.requireVisible }
    y.1.context).2
  have hc := (init_kept io y.1 y.2 { y.1.config with requireVisible := !y.1.config.requireVisible }
    y.1.context hr).1
  rw [hu] at hc
  have hb : y.1.config.requireVisible = !y.1.config.requireVisible :=
    congrArg PipelineConfig.requireVisible hc
  exact absurd hb (by cases y.1.config.requireVisible <;> decide)

theorem step_crashed (h : y.2.crashed = true) : step io y call = y := by
  obtain ⟨p, s⟩ := y
  unfold step
  exact if_pos h

theorem Joined.step (h : y.Joined) (hc : y.Calm io call) : (step io y call).Joined := by
  by_cases hcrash : y.2.crashed = true
  · rw [step_crashed hcrash]
    exact h
  obtain ⟨p, s⟩ := y
  have hcrash : s.crashed = false := Bool.eq_false_iff.mpr hcrash
  unfold PipelineSystem.step
  simp only [hcrash, Bool.false_eq_true, if_false]
  intro hw
  cases call with
  | init config context =>
    rcases init_handle io p s config context with ⟨e, -, hh⟩ | ⟨hok, -, hworker⟩
    · rw [hh.2.1] at hw
      exact hh.1.trans (h hw)
    · rw [hworker] at hw
      rw [init_running (h hw)] at hok
      exact nomatch hok
  | start =>
    rcases start_cases io p s with
      ⟨e, -, hp, -⟩ | ⟨-, -, ⟨-, hstate, hworker, -⟩ | ⟨-, -, -, hp, -⟩⟩
    · dsimp only at hw ⊢
      rw [hp] at hw ⊢
      exact h hw
    · rw [hworker] at hw
      exact hstate.trans (h hw)
    · dsimp only
      rw [hp]
  | stop => exact nomatch hw
  | work =>
    dsimp only at hw ⊢
    by_cases hactive : (p.worker && !p.stopFlag) = true
    · rw [if_pos hactive] at hw ⊢
      obtain ⟨hworker, hflag⟩ := (Bool.and_eq_true _ _).mp hactive
      have hflag : p.stopFlag = false := (Bool.not_eq_true' _).mp hflag
      obtain ⟨-, -, ⟨-, hstate⟩ | ⟨hn, -⟩⟩ := runLoopTurn_cases io p s
      · exact hstate.trans (h hworker)
      · exact absurd (hc rfl hcrash hworker hflag) hn
    · rw [if_neg hactive] at hw ⊢
      exact h hw

theorem step_harmful (hc : ¬y.Calm io call) : ¬(step io y call).Guarded io := by
  obtain ⟨p, s⟩ := y
  unfold Calm at hc
  push Not at hc
  obtain ⟨rfl, hcrash, hworker, hflag, hharm⟩ := hc
  dsimp only at hcrash hworker hflag hharm
  have hactive : (p.worker && !p.stopFlag) = true := by rw [hworker, hflag]; rfl
  unfold step
  simp only [hcrash, Bool.false_eq_true, if_false]
  rw [if_pos hactive]
  obtain ⟨hw, -, ⟨hn, -⟩ | ⟨-, hstate⟩⟩ := runLoopTurn_cases io p s
  · exact absurd hn hharm
  · refine not_guarded (hw.trans hworker) fun hr ↦ ?_
    rw [hstate] at hr
    exact nomatch hr

theorem fresh_joined (mainStream : MainStream) (events : List Event) (outside : ω) :
    (fresh mainStream events outside).Joined := fun h ↦ nomatch h

/-- The guards hold in every state of a run exactly when no turn of the worker in it meets
an error other than a timeout. -/
theorem guarded_iff (io : MediaIo ω) (mainStream : MainStream) (events : List Event)
    (outside : ω) (calls : List PipelineCall) :
    (∀ reached, reached <+: calls →
        (run io (fresh mainStream events outside) reached).Guarded io) ↔
      Runs.Along (step io) (fun y call ↦ y.Calm io call) (fresh mainStream events outside)
        calls := by
  constructor
  · intro h
    refine (Runs.along_iff _ _).mpr fun before call after he ↦ ?_
    by_contra hc
    refine step_harmful hc ?_
    have hr := h (before ++ [call]) ⟨after, by rw [he, List.append_assoc]; rfl⟩
    unfold run at hr
    rw [Runs.exec_append] at hr
    exact hr
  · rintro h reached ⟨rest, rfl⟩
    have hj := ((Runs.along_append _ _ _).mp h).1.invariant
      (fun y call hy hc ↦ Joined.step hy hc) (fresh_joined mainStream events outside)
    exact hj.guarded

def unplugged : MediaIo Unit where
  startCamera := fun _ w ↦ (.ok (), w)
  stopCamera := fun _ w ↦ (.ok (), w)
  readFrame := fun _ _ w ↦ (.fail .ioError "no such device", w)
  decoderInit := fun _ w ↦ (.ok (), w)
  decode := fun _ w ↦ (.fail .mjpegDecodeFailed "no frame", w)
  decoderRelease := id
  encoderInit := fun _ w ↦ (.ok (), w)
  encodeNv12 := fun _ _ w ↦ (.fail .ioError "no frame", w)
  encoderRelease := id
  imcvtcolor := fun _ _ w ↦ (.error "no frame", w)
  nowMs := fun w ↦ (0, w)

/-- The first read fails; the pipeline can be set up anew, and starting it gives the live
thread's handle away. -/
theorem worker_overwritten :
    let context : PipelineContext := { cameraManager := some {}, mainStream := true }
    let y := run unplugged (fresh {} [] ()) [.init {} context, .start, .work]
    let again := step unplugged y (.init { passthroughEncoded := true } context)
    y.1.worker = true ∧ y.1.config.passthroughEncoded = false ∧
      (y.1.init unplugged { passthroughEncoded := true } context y.2).1 = .ok () ∧
      again.1.config.passthroughEncoded = true ∧ again.1.worker = true ∧
      again.2.crashed = false ∧ (step unplugged again .start).2.crashed = true := by
  decide +kernel

end PipelineSystem

end TriFusion.Media
