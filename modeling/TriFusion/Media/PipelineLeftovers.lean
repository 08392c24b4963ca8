import TriFusion.Media.PipelineReinit

namespace TriFusion.Media

open Foundation Hardware Device Library

inductive Touch
  | started (id : CameraId)
  | decoderReleased
  | encoderReleased
  deriving DecidableEq

/-- Devices that write down what reaches them; the cameras always have the one frame. -/
def recorder (frame : CameraFrame) : MediaIo (List Touch) where
  startCamera id w := (.ok (), w ++ [.started id])
  stopCamera _ w := (.ok (), w)
  readFrame _ _ w := (.ok frame, w)
  decoderInit _ w := (.ok (), w)
  decode _ w := (.fail .mjpegDecodeFailed "no frame", w)
  decoderRelease w := w ++ [.decoderReleased]
  encoderInit _ w := (.ok (), w)
  encodeNv12 _ _ w := (.fail .ioError "no packet", w)
  encoderRelease w := w ++ [.encoderReleased]
  imcvtcolor _ _ w := (.error "no image", w)
  nowMs w := (0, w)

namespace MediaPipeline

variable {ω α : Type} {io : MediaIo ω} {p q : MediaPipeline} {config : PipelineConfig}
  {context : PipelineContext} {frame : CameraFrame}

theorem init_willing (hd : ∀ codec w, (io.decoderInit codec w).1 = .ok ())
    (he : ∀ config w, (io.encoderInit config w).1 = .ok ()) (s : Shared ω)
    (hr : p.state ≠ .running) (hv : (p.cleared config context).validateContext = .ok ()) :
    (p.init io config context s).1 = .ok () := by
  obtain ⟨manager, hm, -⟩ := validateContext_ok hv
  have hm : context.cameraManager ≠ none := fun hn ↦ Option.some_ne_none manager (hm.symm.trans hn)
  have hdec : ((p.captured config context).initDecoder io s).1 = .ok () := by
    by_cases hu : config.useDecoder = true
    · have hmade : ((madeDecoder (p.captured config context).context).init io s.outside).1 =
          .ok () := by
        unfold madeDecoder
        split
        · exact hd _ _
        · rfl
      have hu : (p.captured config context).config.useDecoder = true := hu
      rw [initDecoder_used hu]
      split <;> rename_i hx <;> rw [Shared.call_eq hx] at hmade
      cases hmade
    · have hq : (!(p.captured config context).config.useDecoder) = true :=
        Bool.not_eq_true' _ ▸ Bool.of_not_eq_true hu
      unfold initDecoder
      rw [if_pos hq]
  have hset := ((p.captured config context).initDecoder_kept io s).1
  rcases hx : (p.captured config context).initDecoder io s with ⟨r, p₁, s₁⟩
  rw [hx] at hdec hset
  obtain rfl : r = .ok () := hdec
  obtain ⟨hconfig, hcontext⟩ := hset.trans initFormatConvert_setup
  have henc : (p₁.initFormatConvert.initEncoder io s₁).1 = .ok () := by
    by_cases hu : p₁.initFormatConvert.config.useEncoder = true
    · have hb : p₁.initFormatConvert.context.encoder = true := by
        rw [hcontext]
        exact validateContext_encoder hv (hconfig ▸ hu)
      have hmade : ((MppH264Encoder.init io s₁.mainStream.profile
          { bound := p₁.initFormatConvert.context.encoder }) s₁.outside).1 = .ok () := by
        rw [hb]
        exact he _ _
      rw [initEncoder_used hu]
      split <;> rename_i hy <;> rw [Shared.call_eq hy] at hmade
      cases hmade
    · unfold initEncoder
      rw [if_neg hu]
      split <;> rfl
  rcases hy : p₁.initFormatConvert.initEncoder io s₁ with ⟨r, p₂, s₂⟩
  rw [hy] at henc
  obtain rfl : r = .ok () := henc
  rw [init_valid io s hr hv, initNodes_captured hm, hx]
  dsimp only
  rw [hy]

theorem Reinitialises.answers (h : p.Reinitialises config context) (hr : p.state ≠ .running)
    (hv : (p.cleared config context).validateContext = .ok ()) (frame : CameraFrame) :
    ∃ s : Shared (List Touch), s.crashed = false ∧ ∀ calls,
      Simulation.answers (PipelineSystem.use (recorder frame)) (p.setUp config context, s) calls =
        Simulation.answers (PipelineSystem.use (recorder frame))
          (({} : MediaPipeline).setUp config context, s) calls := by
  have hok : (p.init (recorder frame) config context { outside := [] }).1 = .ok () :=
    init_willing (fun _ _ ↦ rfl) (fun _ _ ↦ rfl) _ hr hv
  have hs := p.init_outside (recorder frame) { outside := [] } config context
  rcases init_cases (recorder frame) config context { outside := [] } with
    ⟨e, s', herr⟩ | ⟨s', -, hinit⟩
  · obtain ⟨q, hq, -⟩ := herr p hr
    rw [hq] at hok
    cases hok
  · have hcalls := h _ (recorder frame) { outside := [] } rfl hok
    rw [hinit p hr, hinit {} (by decide)] at hcalls
    rw [hinit p hr] at hs
    exact ⟨s', congrArg Shared.crashed hs, hcalls⟩

def startedBy (p : MediaPipeline) : List Touch :=
  (if p.visibleCapture.isSome then [.started .visible] else []) ++
    if p.compositeCapture.isSome then [.started .compositeLowThermal] else []

def releasedBy (p : MediaPipeline) : List Touch :=
  (if p.decoder = some (.mppMjpeg true) then [.decoderReleased] else []) ++
    if p.encoder.isSome then [.encoderReleased] else []

/-- A sound object that `start` finds as `init` leaves it. -/
structure Ready (p : MediaPipeline) : Prop where
  sound : p.Sound
  initialized : p.state = .initialized
  streams : p.context.mainStream = true
  idle : p.worker = false

theorem startNode_recorder {node : Option CaptureNode} {id : CameraId}
    (h : ∀ n, node = some n → n.cameraId = id ∧ n.manager ≠ none) (s : Shared (List Touch)) :
    startNode (recorder frame) node s = (.ok (),
      { s with outside := s.outside ++ if node.isSome then [.started id] else [] }) := by
  cases node with
  | none =>
    unfold startNode
    rw [Option.isSome_none, if_neg Bool.false_ne_true, List.append_nil]
  | some n =>
    obtain ⟨rfl, hm⟩ := h n rfl
    have hs : n.start (recorder frame) s.outside =
        (.ok (), s.outside ++ [.started n.cameraId]) := by
      unfold CaptureNode.start
      rw [if_neg hm]
      rfl
    unfold startNode Shared.call
    dsimp only
    rw [hs]
    rfl

variable (frame) in
theorem start_recorder (h : p.Ready) (s : Shared (List Touch)) :
    ∃ s', p.start (recorder frame) s =
        (.ok (), { p with stopFlag := false, worker := true, state := .running }, s') ∧
      s'.outside = s.outside ++ p.startedBy ∧ s'.crashed = s.crashed := by
  have hnodes : p.startCaptureNodes (recorder frame) s =
      (.ok (), { s with outside := s.outside ++ p.startedBy }) := by
    unfold startCaptureNodes startedBy
    rw [startNode_recorder h.sound.visible]
    dsimp only
    rw [startNode_recorder h.sound.composite, ← List.append_assoc]
  have hstate : ¬(p.state ≠ .initialized ∧ p.state ≠ .stopped) := fun hn ↦ hn.1 h.initialized
  have hstream : ¬(!p.context.mainStream) = true := by
    rw [h.streams]
    decide
  unfold start
  rw [if_neg hstate, hnodes]
  dsimp only
  rw [if_neg hstream, if_neg (Bool.eq_false_iff.mp h.idle)]
  refine ⟨_, rfl, ?_, ?_⟩
  · rw [publishEvent_outside]
  · rw [publishEvent_crashed]

theorem stopNode_recorder (node : Option CaptureNode) (s : Shared (List Touch)) :
    (stopNode (recorder frame) node s).outside = s.outside := by
  cases node with
  | none => rfl
  | some n =>
    unfold stopNode CaptureNode.stop Shared.call
    dsimp only
    split <;> rfl

theorem releaseNodes_recorder (h : p.Sound) (s : Shared (List Touch)) :
    (p.releaseNodes (recorder frame) s).outside = s.outside ++ p.releasedBy := by
  have hcaptures : (p.stopCaptureNodes (recorder frame) s).outside = s.outside :=
    (stopNode_recorder _ _).trans (stopNode_recorder _ _)
  have hdecoder (d : Decoder) (hd : p.decoder = some d) (w : List Touch) :
      d.release (recorder frame) w =
        w ++ if p.decoder = some (.mppMjpeg true) then [.decoderReleased] else [] := by
    cases d with
    | mjpeg =>
      rw [hd]
      exact (List.append_nil w).symm
    | mppMjpeg bound =>
      cases bound with
      | false => exact absurd hd h.decoder
      | true =>
        rw [hd]
        rfl
  have hencoder (e : MppH264Encoder) (he : p.encoder = some e) (w : List Touch) :
      e.release (recorder frame) w = w ++ [.encoderReleased] := by
    have hb : e.bound = true := by
      have hb := h.encoder
      unfold encoderBound at hb
      rw [he] at hb
      exact Bool.eq_false_imp_eq_true.mp fun hf ↦ absurd (congrArg some hf) hb
    unfold MppH264Encoder.release
    rw [if_pos hb]
    rfl
  unfold releaseNodes releasedBy
  extract_lets s₁ s₂
  have h₂ : s₂.outside =
      s.outside ++ if p.decoder = some (.mppMjpeg true) then [.decoderReleased] else [] := by
    unfold s₂
    cases hd : p.decoder with
    | none => exact hcaptures.trans (List.append_nil _).symm
    | some d =>
      have hreleased := hdecoder d hd s₁.outside
      rw [hd] at hreleased
      exact hreleased.trans (congrArg (· ++ _) hcaptures)
  cases he : p.encoder with
  | none =>
    rw [Option.isSome_none, if_neg Bool.false_ne_true, List.append_nil]
    exact h₂
  | some e =>
    rw [Option.isSome_some, if_pos rfl, ← List.append_assoc, ← h₂]
    exact hencoder e he s₂.outside

theorem stop_recorder (h : p.Sound) (s : Shared (List Touch)) :
    (p.stop (recorder frame) s).2.outside = s.outside ++ p.releasedBy := by
  unfold stop
  extract_lets p₁ s₁ s₂ s₃
  have h₁ : s₁.outside = s.outside ++ p.releasedBy :=
    releaseNodes_recorder (p := p₁) ⟨h.visible, h.composite, h.decoder, h.encoder, fun _ ↦ rfl⟩ s
  have h₂ : s₂.outside = s.outside ++ p.releasedBy := by
    unfold s₂
    split <;> exact h₁
  change s₃.outside = _
  unfold s₃
  split
  · rw [publishEvent_outside]
    exact h₂
  · exact h₂

theorem setUp_ready (h : p.Sound) (hw : p.worker = false)
    (hv : (p.cleared config context).validateContext = .ok ()) :
    (p.setUp config context).Ready := by
  obtain ⟨manager, hm, hstream, -⟩ := validateContext_ok hv
  have hm : context.cameraManager ≠ none := fun hn ↦ Option.some_ne_none manager (hm.symm.trans hn)
  exact ⟨h.renewed setUp_renewed hm (validateContext_encoder hv) fun _ ↦ hw, rfl, hstream, hw⟩

def AnswerAlike (frame : CameraFrame) (s : Shared (List Touch)) (p q : MediaPipeline) : Prop :=
  ∀ calls, Simulation.answers (PipelineSystem.use (recorder frame)) (p, s) calls =
    Simulation.answers (PipelineSystem.use (recorder frame)) (q, s) calls

variable {s : Shared (List Touch)}

theorem AnswerAlike.started (h : AnswerAlike frame s p q) (hc : s.crashed = false) (hp : p.Ready)
    (hq : q.Ready) :
    p.startedBy = q.startedBy := by
  obtain ⟨s₁, hs₁, ho₁, -⟩ := start_recorder frame hp s
  obtain ⟨s₂, hs₂, ho₂, -⟩ := start_recorder frame hq s
  have hseen := (List.cons.inj (h [.start])).1
  have hshared : (PipelineSystem.step (recorder frame) (p, s) .start).2.outside =
      (PipelineSystem.step (recorder frame) (q, s) .start).2.outside :=
    congrArg (fun seen ↦ seen.shared.outside) hseen
  unfold PipelineSystem.step at hshared
  simp only [hc, Bool.false_eq_true, if_false] at hshared
  rw [hs₁, hs₂] at hshared
  exact List.append_cancel_left (ho₁.symm.trans (hshared.trans ho₂))

theorem AnswerAlike.released (h : AnswerAlike frame s p q) (hc : s.crashed = false)
    (hp : p.Sound) (hq : q.Sound) : p.releasedBy = q.releasedBy := by
  have hseen := (List.cons.inj (h [.stop])).1
  have hshared : (PipelineSystem.step (recorder frame) (p, s) .stop).2.outside =
      (PipelineSystem.step (recorder frame) (q, s) .stop).2.outside :=
    congrArg (fun seen ↦ seen.shared.outside) hseen
  unfold PipelineSystem.step at hshared
  simp only [hc, Bool.false_eq_true, if_false] at hshared
  exact List.append_cancel_left
    ((stop_recorder hp s).symm.trans (hshared.trans (stop_recorder hq s)))

def going (p : MediaPipeline) : MediaPipeline :=
  { p with stopFlag := false, worker := true, state := .running }

theorem AnswerAlike.worked (h : AnswerAlike frame s p q) (hc : s.crashed = false) (hp : p.Ready)
    (hq : q.Ready) :
    ∃ s₁ s₂, (p.going.runLoopTurn (recorder frame) s₁).1.stats =
      (q.going.runLoopTurn (recorder frame) s₂).1.stats := by
  obtain ⟨s₁, hs₁, -, hc₁⟩ := start_recorder frame hp s
  obtain ⟨s₂, hs₂, -, hc₂⟩ := start_recorder frame hq s
  refine ⟨s₁, s₂, ?_⟩
  have hgoing (p : MediaPipeline) (s' : Shared (List Touch)) (hs' : s'.crashed = s.crashed)
      (hstart : p.start (recorder frame) s = (.ok (), p.going, s')) :
      PipelineSystem.step (recorder frame) (PipelineSystem.step (recorder frame) (p, s) .start)
        .work = p.going.runLoopTurn (recorder frame) s' := by
    unfold PipelineSystem.step
    simp only [hc, Bool.false_eq_true, if_false]
    rw [hstart]
    simp only [hs'.trans hc, Bool.false_eq_true, if_false]
    rfl
  have hseen := (List.cons.inj (List.cons.inj (h [.start, .work])).2).1
  have hstats := congrArg Seen.stats hseen
  change (PipelineSystem.step (recorder frame) (PipelineSystem.step (recorder frame) (p, s) .start)
    .work).1.stats = (PipelineSystem.step (recorder frame)
      (PipelineSystem.step (recorder frame) (q, s) .start) .work).1.stats at hstats
  rw [hgoing p s₁ hc₁ hs₁, hgoing q s₂ hc₂ hs₂] at hstats
  exact hstats

def Captures (p : MediaPipeline) : Prop :=
  ∃ n manager, p.captureNode = some n ∧ n.manager = some manager ∧
    manager.has n.cameraId = true

theorem setUp_captures (hv : (p.cleared config context).validateContext = .ok ())
    (hc : ¬Captureless config) : (p.setUp config context).Captures := by
  obtain ⟨manager, hm, -, hvisible, hcomposite⟩ := validateContext_ok hv
  have hm : context.cameraManager = some manager := hm
  have hvisible : config.requireVisible = true → manager.visibleCamera = true := hvisible
  have hcomposite : config.requireComposite = true → manager.compositeCamera = true := hcomposite
  unfold Captures captureNode setUp
  dsimp only
  rw [hm]
  cases hrc : config.requireComposite with
  | true => exact ⟨_, manager, rfl, rfl, hcomposite hrc⟩
  | false =>
    cases hrv : config.requireVisible with
    | true => exact ⟨_, manager, rfl, rfl, hvisible hrv⟩
    | false => exact absurd ⟨hrv, hrc⟩ hc

theorem capture_recorder {n : CaptureNode} {manager : CameraManagerRef}
    (hm : n.manager = some manager) (hh : manager.has n.cameraId = true) (timeoutMs : Int32)
    (w : List Touch) :
    n.capture (recorder frame) timeoutMs w = (.ok (fromCameraFrame frame), w) := by
  unfold CaptureNode.capture
  rw [hm]
  dsimp only
  rw [hh]
  rfl

def finish (io : MediaIo ω) (prepared : Result VideoFrame × MediaPipeline × Shared ω) :
    Result Unit × MediaPipeline × Shared ω :=
  match prepared with
  | (.error e, p, s) => (.error e, p, s)
  | (.ok frame, p, s) => p.publishFrame io frame s

def countCaptured (p : MediaPipeline) : MediaPipeline :=
  { p with stats.capturedFrames := p.stats.capturedFrames + 1 }

theorem processOneFrame_recorder (h : p.Captures) (s : Shared (List Touch)) :
    p.processOneFrame (recorder frame) s = finish (recorder frame)
      (p.countCaptured.prepareFrameForPipeline (recorder frame) (fromCameraFrame frame)
        (s.record (.captured (fromCameraFrame frame)))) := by
  obtain ⟨n, manager, hn, hm, hh⟩ := h
  have hcall : s.call (n.capture (recorder frame) p.config.captureTimeoutMs) =
      (.ok (fromCameraFrame frame), s) := by
    unfold Shared.call
    rw [capture_recorder hm hh]
  unfold processOneFrame
  rw [hn]
  dsimp only
  rw [hcall]
  rfl

theorem publishFrame_decoded (frame : VideoFrame) (p : MediaPipeline) (s : Shared ω) :
    (p.publishFrame io frame s).2.1.stats.decodedFrames = p.stats.decodedFrames := by
  have hpush (encoded : EncodedFrame) (p : MediaPipeline) (s : Shared ω) :
      (pushEncoded encoded p s).2.1.stats.decodedFrames = p.stats.decodedFrames := by
    unfold pushEncoded
    dsimp only
    split <;> rfl
  unfold publishFrame
  split
  · dsimp only
    split
    · rfl
    · exact hpush _ _ _
  · split
    · rfl
    · split
      · rfl
      · exact hpush _ _ _

theorem finish_decoded (io : MediaIo ω) (prepared : Result VideoFrame × MediaPipeline × Shared ω) :
    (finish io prepared).2.1.stats.decodedFrames = prepared.2.1.stats.decodedFrames := by
  obtain ⟨r, p, s⟩ := prepared
  cases r with
  | error e => rfl
  | ok frame => exact publishFrame_decoded frame p s

/-- A decoder that only hands frames on counts them all the same. -/
theorem prepareFrameForPipeline_counts {frame : VideoFrame} (hf : frame.format = .mjpeg)
    (hd : p.decoder = some .mjpeg) (s : Shared ω) :
    (p.prepareFrameForPipeline io frame s).2.1.stats.decodedFrames = p.stats.decodedFrames + 1 := by
  unfold prepareFrameForPipeline
  rw [hf, if_neg (by decide), if_pos rfl, hd]
  rfl

theorem prepareFrameForPipeline_undecoded {frame : VideoFrame} (hf : frame.format = .mjpeg)
    (hd : p.decoder = none) (s : Shared ω) :
    (p.prepareFrameForPipeline io frame s).2.1.stats.decodedFrames = p.stats.decodedFrames := by
  unfold prepareFrameForPipeline
  rw [hf, if_neg (by decide), if_pos rfl, hd]
  dsimp only
  split <;> rfl

theorem runLoopTurn_decoded (s : Shared ω) : (p.runLoopTurn io s).1.stats.decodedFrames =
    (p.processOneFrame io s).2.1.stats.decodedFrames := by
  unfold runLoopTurn
  rcases p.processOneFrame io s with ⟨r, q, s'⟩
  cases r with
  | error e => rfl
  | ok u => rfl

/-- The letter that a failure opens with. -/
def opening (ret : Result α) : Option Char :=
  match ret with
  | .ok _ => none
  | .error e => e.describe.head?

theorem opening_fail {code : ErrorCode} {message : Text} {c : Char}
    (h : message.head? = some c) : opening (.fail code message : Result α) = some c := by
  have hne : message ≠ [] := by
    intro hn
    rw [hn] at h
    cases h
  unfold opening Result.fail Status.describe
  dsimp only
  rw [if_pos hne]
  exact h

theorem opening_rethrow {e : Status} {c : Char} (h : e.describe.head? = some c) :
    opening (.rethrow e : Result α) = some c :=
  opening_fail h

theorem runLoopTurn_opening {c : Char} (s : Shared ω)
    (h : opening (p.processOneFrame io s).1 = some c) :
    (p.runLoopTurn io s).1.stats.lastError.head? = some c := by
  unfold runLoopTurn
  rcases hx : p.processOneFrame io s with ⟨r, q, s'⟩
  rw [hx] at h
  cases r with
  | error e => exact h
  | ok u => cases h

def Blank (frame : VideoFrame) : Prop :=
  (frame.format = .nv12 ∨ frame.format = .yuyv422) ∧ frame.width = 0

theorem prepareFrameForPipeline_raw {frame : VideoFrame} (hf : Blank frame)
    (he : p.encoder ≠ none) (s : Shared ω) :
    p.prepareFrameForPipeline io frame s =
      ((p.prepareFrameForEncoder io frame s).1, p, (p.prepareFrameForEncoder io frame s).2) := by
  have hu : frame.format ≠ .unknown := by
    rcases hf.1 with hf | hf <;> rw [hf] <;> decide
  have hm : frame.format ≠ .mjpeg := by
    rcases hf.1 with hf | hf <;> rw [hf] <;> decide
  unfold prepareFrameForPipeline prepareRaw
  rw [if_neg hu, if_neg hm, if_pos (Option.isSome_iff_ne_none.mpr he)]

variable (io p) in
theorem prepare_blank_unconverted {frame : VideoFrame} (hf : Blank frame) (he : p.encoder ≠ none)
    (hi : frame.format ≠ p.config.encoderInputFormat) (hn : p.formatConvert = none)
    (s : Shared ω) :
    opening (finish io (p.prepareFrameForPipeline io frame s)).1 = some 'e' := by
  rw [prepareFrameForPipeline_raw hf he]
  unfold prepareFrameForEncoder
  rw [if_neg hi, hn]
  exact opening_fail rfl

variable (io) in
theorem process_blank {frame : VideoFrame} (hf : Blank frame) (node : FormatConvertNode) (w : ω) :
    node.process io frame w = (.ok frame, w) ∨
      opening (node.process io frame w).1 = some 'i' ∨
      opening (node.process io frame w).1 = some 'u' := by
  unfold FormatConvertNode.process
  split
  · exact .inl rfl
  · split
    · refine .inr (.inl ?_)
      unfold FormatConvertNode.convertYuyv422ToNv12
      rw [if_pos (.inl hf.2)]
      exact opening_fail rfl
    · have he : frame.format.isEncodedFormat = false := by
        rcases hf.1 with hf | hf <;> rw [hf] <;> rfl
      rw [he, if_neg Bool.false_ne_true]
      exact .inr (.inr (opening_fail rfl))

variable (io) in
theorem encode_blank {frame : VideoFrame} (hf : Blank frame) (encoder : MppH264Encoder) (w : ω) :
    opening (encoder.encode io frame w).1 = some 'M' := by
  unfold MppH264Encoder.encode
  split
  · exact opening_fail rfl
  · split
    · exact opening_fail rfl
    · rw [if_pos (.inl hf.2)]
      exact opening_fail rfl

theorem publishFrame_blank {frame : VideoFrame} (hf : Blank frame) (he : p.encoder ≠ none)
    (s : Shared ω) : opening (p.publishFrame io frame s).1 = some 'M' := by
  obtain ⟨encoder, he⟩ := Option.ne_none_iff_exists'.mp he
  have hencode := encode_blank io hf encoder s.outside
  unfold publishFrame
  rw [he]
  dsimp only
  split <;> rename_i hx <;> rw [hx] at hencode
  · exact opening_rethrow hencode
  · cases hencode

variable (io p) in
theorem prepare_blank_converted {frame : VideoFrame} (hf : Blank frame) (he : p.encoder ≠ none)
    (hi : frame.format ≠ p.config.encoderInputFormat) (hn : p.formatConvert ≠ none)
    (s : Shared ω) :
    ∃ c, opening (finish io (p.prepareFrameForPipeline io frame s)).1 = some c ∧ c ≠ 'e' := by
  obtain ⟨node, hn⟩ := Option.ne_none_iff_exists'.mp hn
  rw [prepareFrameForPipeline_raw hf he]
  unfold prepareFrameForEncoder
  rw [if_neg hi, hn]
  dsimp only
  have hp := process_blank io hf node s.outside
  split <;> rename_i hx <;> rw [Shared.call_eq hx] at hp
  · rcases hp with hp | hp | hp
    · cases hp
    · exact ⟨'i', opening_rethrow hp, by decide⟩
    · exact ⟨'u', opening_rethrow hp, by decide⟩
  · rcases hp with hp | hp | hp
    · obtain ⟨hp, -⟩ := Prod.mk.inj hp
      obtain rfl := Except.ok.inj hp
      exact ⟨'M', publishFrame_blank hf he _, by decide⟩
    · cases hp
    · cases hp

theorem startedBy_inj (h : p.startedBy = q.startedBy) :
    p.visibleCapture.isSome = q.visibleCapture.isSome ∧
      p.compositeCapture.isSome = q.compositeCapture.isSome := by
  unfold startedBy at h
  generalize p.visibleCapture.isSome = a, p.compositeCapture.isSome = b,
    q.visibleCapture.isSome = c, q.compositeCapture.isSome = d at h ⊢
  cases a <;> cases b <;> cases c <;> cases d <;> first | exact ⟨rfl, rfl⟩ | cases h

theorem releasedBy_inj (h : p.releasedBy = q.releasedBy) :
    (p.decoder = some (.mppMjpeg true) ↔ q.decoder = some (.mppMjpeg true)) ∧
      p.encoder.isSome = q.encoder.isSome := by
  unfold releasedBy at h
  generalize p.encoder.isSome = a, q.encoder.isSome = b at h ⊢
  by_cases hp : p.decoder = some (.mppMjpeg true) <;>
    by_cases hq : q.decoder = some (.mppMjpeg true) <;>
    simp only [hp, hq, if_true, if_false] at h <;> cases a <;> cases b <;>
    first | exact ⟨iff_of_true hp hq, rfl⟩ | exact ⟨iff_of_false hp hq, rfl⟩ | cases h

theorem absent_or_made {made : Bool} {new : α} {old : Option α}
    (h : (if made then some new else old).isSome = (if made then some new else none).isSome) :
    old = none ∨ made = true := by
  cases made with
  | false => exact .inl (Option.isSome_eq_false_iff.mp h |> Option.isNone_iff_eq_none.mp)
  | true => exact .inr rfl

def mjpegFrame : CameraFrame := { pixelformat := V4L2_PIX_FMT_MJPEG }

/-- A frame without a pixel, in a raw format that the encoder does not take. -/
def blankFrame (config : PipelineConfig) : CameraFrame :=
  { pixelformat := if config.encoderInputFormat = .nv12 then V4L2_PIX_FMT_YUYV
                   else V4L2_PIX_FMT_NV12 }

theorem blankFrame_blank (config : PipelineConfig) :
    Blank (fromCameraFrame (blankFrame config)) ∧
      (fromCameraFrame (blankFrame config)).format ≠ config.encoderInputFormat := by
  unfold blankFrame
  split <;> rename_i hn
  · rw [hn]
    exact ⟨⟨.inr rfl, rfl⟩, by decide⟩
  · exact ⟨⟨.inl rfl, rfl⟩, fun h ↦ hn h.symm⟩

theorem going_counts (h : p.Captures) (hd : p.decoder = some .mjpeg) (s : Shared (List Touch)) :
    (p.going.runLoopTurn (recorder mjpegFrame) s).1.stats.decodedFrames =
      p.stats.decodedFrames + 1 := by
  have h : p.going.Captures := h
  have hd : p.going.countCaptured.decoder = some .mjpeg := hd
  rw [runLoopTurn_decoded, processOneFrame_recorder h, finish_decoded,
    prepareFrameForPipeline_counts (by decide) hd]
  rfl

theorem going_undecoded (h : p.Captures) (hd : p.decoder = none) (s : Shared (List Touch)) :
    (p.going.runLoopTurn (recorder mjpegFrame) s).1.stats.decodedFrames =
      p.stats.decodedFrames := by
  have h : p.going.Captures := h
  have hd : p.going.countCaptured.decoder = none := hd
  rw [runLoopTurn_decoded, processOneFrame_recorder h, finish_decoded,
    prepareFrameForPipeline_undecoded (by decide) hd]
  rfl

theorem going_unconverted (h : p.Captures) (he : p.encoder ≠ none) (hf : p.formatConvert = none)
    (s : Shared (List Touch)) :
    (p.going.runLoopTurn (recorder (blankFrame p.config)) s).1.stats.lastError.head? =
      some 'e' := by
  have h : p.going.Captures := h
  apply runLoopTurn_opening
  rw [processOneFrame_recorder h]
  exact prepare_blank_unconverted _ p.going.countCaptured (blankFrame_blank p.config).1 he
    (blankFrame_blank p.config).2 hf _

theorem going_converted (h : p.Captures) (he : p.encoder ≠ none) (hf : p.formatConvert ≠ none)
    (s : Shared (List Touch)) :
    (p.going.runLoopTurn (recorder (blankFrame p.config)) s).1.stats.lastError.head? ≠
      some 'e' := by
  have h : p.going.Captures := h
  obtain ⟨c, hopening, hc⟩ := prepare_blank_converted (recorder (blankFrame p.config))
    p.going.countCaptured (blankFrame_blank p.config).1 he (blankFrame_blank p.config).2 hf
    (s.record (.captured (fromCameraFrame (blankFrame p.config))))
  rw [← processOneFrame_recorder h] at hopening
  rw [runLoopTurn_opening s hopening]
  exact fun h ↦ hc (Option.some.inj h)

theorem AnswerAlike.decoder (hc : s.crashed = false) (hp : p.Sound) (hw : p.worker = false)
    (hv : (p.cleared config context).validateContext = .ok ())
    (h : AnswerAlike mjpegFrame s (p.setUp config context)
      (({} : MediaPipeline).setUp config context)) :
    p.decoder = none ∨ config.useDecoder = true ∨ p.decoder = some .mjpeg ∧ Captureless config := by
  have hready := setUp_ready hp hw hv
  have hv' : (({} : MediaPipeline).cleared config context).validateContext = .ok () := hv
  have hfresh := setUp_ready fresh_sound rfl hv'
  by_cases hu : config.useDecoder = true
  · exact .inr (.inl hu)
  have hleft : (p.setUp config context).decoder = p.decoder := if_neg hu
  have hnone : (({} : MediaPipeline).setUp config context).decoder = none := if_neg hu
  have hreleased := releasedBy_inj (h.released hc hready.sound hfresh.sound)
  rw [hleft, hnone] at hreleased
  cases hd : p.decoder with
  | none => exact .inl rfl
  | some d =>
    cases d with
    | mppMjpeg bound =>
      cases bound with
      | false => exact absurd hd hp.decoder
      | true => cases hreleased.1.mp hd
    | mjpeg =>
      refine .inr (.inr ⟨rfl, ?_⟩)
      by_contra hcamera
      obtain ⟨s₁, s₂, hstats⟩ := h.worked hc hready hfresh
      have hcount := congrArg PipelineStats.decodedFrames hstats
      rw [going_counts (setUp_captures hv hcamera) (hleft.trans hd),
        going_undecoded (setUp_captures hv' hcamera) hnone] at hcount
      cases hcount

theorem AnswerAlike.formatConvert (hc : s.crashed = false) (hp : p.Sound) (hw : p.worker = false)
    (hv : (p.cleared config context).validateContext = .ok ())
    (h : AnswerAlike (blankFrame config) s (p.setUp config context)
      (({} : MediaPipeline).setUp config context)) :
    p.formatConvert = none ∨ config.useEncoder = false ∨ config.useFormatConvert = true ∨
      Captureless config := by
  by_contra hn
  push Not at hn
  obtain ⟨hleft, hencoder, hconvert, hcamera⟩ := hn
  have hv' : (({} : MediaPipeline).cleared config context).validateContext = .ok () := hv
  obtain ⟨s₁, s₂, hstats⟩ := h.worked hc (setUp_ready hp hw hv) (setUp_ready fresh_sound rfl hv')
  have hmade (q : MediaPipeline) : (q.setUp config context).encoder ≠ none := by
    unfold setUp
    dsimp only
    rw [if_pos (Bool.of_not_eq_false hencoder)]
    exact Option.some_ne_none _
  have hkept (q : MediaPipeline) : (q.setUp config context).formatConvert = q.formatConvert := by
    unfold setUp
    dsimp only
    rw [Bool.of_not_eq_true hconvert, Bool.and_false]
    rfl
  have hold := going_converted (setUp_captures hv hcamera) (hmade p) (by rw [hkept]; exact hleft) s₁
  have hnew := going_unconverted (setUp_captures hv' hcamera) (hmade {}) (hkept {}) s₂
  exact hold ((congrArg (fun stats ↦ stats.lastError.head?) hstats).trans hnew)

theorem Reinitialises.clean (h : p.Reinitialises config context) (hp : p.Sound)
    (hs : p.state = .stopped) (hv : (p.cleared config context).validateContext = .ok ()) :
    p.Clean config := by
  have hr : p.state ≠ .running := by
    rw [hs]
    decide
  have hw := hp.joined hs
  have hready := setUp_ready hp hw hv
  have hv' : (({} : MediaPipeline).cleared config context).validateContext = .ok () := hv
  have hfresh := setUp_ready fresh_sound rfl hv'
  obtain ⟨s, hc, halike⟩ := h.answers hr hv mjpegFrame
  obtain ⟨s', hc', hblank⟩ := h.answers hr hv (blankFrame config)
  have hstarted := startedBy_inj (AnswerAlike.started halike hc hready hfresh)
  have hreleased := releasedBy_inj (AnswerAlike.released halike hc hready.sound hfresh.sound)
  exact ⟨absent_or_made hstarted.1, absent_or_made hstarted.2, absent_or_made hreleased.2,
    AnswerAlike.decoder hc hp hw hv halike, AnswerAlike.formatConvert hc' hp hw hv hblank⟩

end MediaPipeline

namespace PipelineSystem

variable {ω ω' : Type}

/-- An object that has been stopped, whatever has happened to it, is as good as new after an
`init` that succeeds exactly when no node is left over that the new configuration does not
ask for and that could be noticed. -/
theorem reinitialises_iff (io : MediaIo ω) (mainStream : MainStream) (events : List Event)
    (outside : ω) (calls : List PipelineCall) (config : PipelineConfig)
    (context : PipelineContext) (io' : MediaIo ω') (s : Shared ω')
    (hs : (run io (fresh mainStream events outside) calls).1.state = .stopped)
    (hok : ((run io (fresh mainStream events outside) calls).1.init io' config context s).1 =
      .ok ()) :
    (run io (fresh mainStream events outside) calls).1.Reinitialises config context ↔
      (run io (fresh mainStream events outside) calls).1.Clean config := by
  have hsound := run_sound io mainStream events outside calls
  generalize (run io (fresh mainStream events outside) calls).1 = p at hs hok hsound ⊢
  have hr : p.state ≠ .running := by
    rw [hs]
    decide
  constructor
  · intro h
    rcases MediaPipeline.init_cases io' config context s with ⟨e, s', herr⟩ | ⟨s', hv, -⟩
    · obtain ⟨q, hq, -⟩ := herr p hr
      rw [hq] at hok
      cases hok
    · exact h.clean hsound hs (hv p)
  · intro h
    exact h.reinitialises hs (hsound.joined hs)

def bothCameras : PipelineConfig := { requireVisible := true }

def camerasOnly : PipelineContext := { cameraManager := some {}, mainStream := true }

theorem reinitialises_iff_same :
    let p := (run unplugged (fresh {} [] ()) [.init bothCameras camerasOnly, .start, .stop]).1
    p.Reinitialises bothCameras camerasOnly ∧ p.visibleCapture ≠ none := by
  refine ⟨(reinitialises_iff unplugged {} [] () _ bothCameras camerasOnly unplugged
    { outside := () } (by decide +kernel) (by decide +kernel)).mpr ⟨.inr rfl, .inr rfl, ?_, ?_, ?_⟩,
    by decide +kernel⟩
  · exact .inl (by decide +kernel)
  · exact .inl (by decide +kernel)
  · exact .inl (by decide +kernel)

theorem reinitialised_starts_both :
    let p := (run unplugged (fresh {} [] ()) [.init bothCameras camerasOnly, .start, .stop]).1
    p.state = .stopped ∧ (p.init unplugged {} camerasOnly { outside := () }).1 = .ok () ∧
      ¬p.Reinitialises {} camerasOnly := by
  refine ⟨by decide +kernel, by decide +kernel, fun h ↦ ?_⟩
  have hcalls := h (List Touch) (recorder {}) { outside := [] } rfl (by decide +kernel) [.start]
  have htouched := congrArg (List.map fun seen ↦ seen.shared.outside) hcalls
  exact absurd htouched (by decide +kernel)

end PipelineSystem

end TriFusion.Media
