import TriFusion.Media.WorkerHandle

namespace TriFusion.Media

open Foundation Hardware Device Library

/-- What the calls that do not set the encoder up or release it leave as it is. -/
structure MediaIo.Passive {ω : Type} (io : MediaIo ω) (K : ω → Prop) : Prop where
  startCamera : ∀ id w, K w → K (io.startCamera id w).2
  stopCamera : ∀ id w, K w → K (io.stopCamera id w).2
  readFrame : ∀ id timeoutMs w, K w → K (io.readFrame id timeoutMs w).2
  decoderInit : ∀ codec w, K w → K (io.decoderInit codec w).2
  decode : ∀ packet w, K w → K (io.decode packet w).2
  decoderRelease : ∀ w, K w → K (io.decoderRelease w)
  encodeNv12 : ∀ data ptsMs w, K w → K (io.encodeNv12 data ptsMs w).2
  imcvtcolor : ∀ src dst w, K w → K (io.imcvtcolor src dst w).2
  nowMs : ∀ w, K w → K (io.nowMs w).2

section Passive

variable {ω α : Type} {io : MediaIo ω} {K : ω → Prop} {w : ω}

theorem Shared.call_keeps {f : ω → α × ω} {s s' : Shared ω} {a : α} (h : s.call f = (a, s'))
    (hf : K s.outside → K (f s.outside).2) (hs : K s.outside) : K s'.outside := by
  have hf := hf hs
  rw [Shared.call_eq h] at hf
  exact hf

theorem CaptureNode.start_keeps (h : io.Passive K) (n : CaptureNode) (hw : K w) :
    K (n.start io w).2 := by
  unfold CaptureNode.start
  split
  · exact hw
  · exact h.startCamera _ _ hw

theorem CaptureNode.stop_keeps (h : io.Passive K) (n : CaptureNode) (hw : K w) :
    K (n.stop io w).2 := by
  unfold CaptureNode.stop
  split
  · exact hw
  · exact h.stopCamera _ _ hw

theorem CaptureNode.capture_keeps (h : io.Passive K) (timeoutMs : Int32) (n : CaptureNode)
    (hw : K w) : K (n.capture io timeoutMs w).2 := by
  unfold CaptureNode.capture
  split
  · exact hw
  · split
    · exact hw
    · have hr := h.readFrame n.cameraId timeoutMs w hw
      split <;> rename_i hx <;> rw [hx] at hr <;> exact hr

theorem Decoder.init_keeps (h : io.Passive K) (d : Decoder) (hw : K w) : K (d.init io w).2 := by
  unfold Decoder.init
  split
  · exact hw
  · split
    · exact hw
    · exact h.decoderInit _ _ hw

theorem Decoder.decode_keeps (h : io.Passive K) (frame : VideoFrame) (d : Decoder) (hw : K w) :
    K (d.decode io frame w).2 := by
  unfold Decoder.decode
  split
  · exact hw
  · split
    · exact hw
    · have hr := h.decode { codec := .mjpeg, data := frame.data, ptsMs := frame.ptsMs } w hw
      split <;> rename_i hx <;> rw [hx] at hr <;> exact hr

theorem Decoder.release_keeps (h : io.Passive K) (d : Decoder) (hw : K w) :
    K (d.release io w) := by
  unfold Decoder.release
  split
  · exact hw
  · split
    · exact h.decoderRelease _ hw
    · exact hw

theorem MppH264Encoder.encode_keeps (h : io.Passive K) (frame : VideoFrame) (n : MppH264Encoder)
    (hw : K w) : K (n.encode io frame w).2.2 := by
  unfold MppH264Encoder.encode
  split
  · exact hw
  · split
    · exact hw
    · split
      · exact hw
      · split
        · exact hw
        · have hr := h.encodeNv12 frame.data frame.ptsMs.toUInt64 w hw
          split <;> rename_i hx <;> rw [hx] at hr <;> exact hr

theorem MppH264Encoder.encode_bound (frame : VideoFrame) (n : MppH264Encoder) :
    (n.encode io frame w).2.1.bound = n.bound := by
  unfold MppH264Encoder.encode
  split
  · rfl
  · split
    · rfl
    · split
      · rfl
      · split
        · rfl
        · split
          · rfl
          · dsimp only
            split <;> rfl

theorem FormatConvertNode.process_keeps (h : io.Passive K) (frame : VideoFrame)
    (n : FormatConvertNode) (hw : K w) : K (n.process io frame w).2 := by
  have hr (src dst : RgaImageDesc) : K (RgaConverter.convert io src dst w).2 := by
    unfold RgaConverter.convert
    split
    · exact hw
    · split
      · exact hw
      · have hc := h.imcvtcolor src dst w hw
        split <;> rename_i hx <;> rw [hx] at hc <;> exact hc
  have hy : K (convertYuyv422ToNv12 io frame w).2 := by
    unfold convertYuyv422ToNv12
    split
    · exact hw
    · split
      · exact hw
      · dsimp only
        split <;> rename_i hx
        · exact (congrArg (fun r ↦ K r.2) hx).mp (hr _ _)
        · exact (congrArg (fun r ↦ K r.2) hx).mp (hr _ _)
  unfold FormatConvertNode.process
  split
  · exact hw
  · split
    · exact hy
    · split <;> exact hw

end Passive

namespace MediaPipeline

variable {ω : Type} {io : MediaIo ω} {K : ω → Prop} {p : MediaPipeline} {s : Shared ω}

def encoderBound (p : MediaPipeline) : Option Bool := p.encoder.map MppH264Encoder.bound

def Leaves (K : ω → Prop) (p p' : MediaPipeline) (s s' : Shared ω) : Prop :=
  p'.encoderBound = p.encoderBound ∧ (K s.outside → K s'.outside)

theorem Leaves.trans {p₁ p₂ : MediaPipeline} {s₁ s₂ : Shared ω} (h : Leaves K p p₁ s s₁)
    (h' : Leaves K p₁ p₂ s₁ s₂) : Leaves K p p₂ s s₂ :=
  ⟨h'.1.trans h.1, h'.2 ∘ h.2⟩

theorem Leaves.of_outside {p' : MediaPipeline} {s' : Shared ω}
    (hp : p'.encoderBound = p.encoderBound) (hs : s'.outside = s.outside) : Leaves K p p' s s' :=
  ⟨hp, fun h ↦ hs ▸ h⟩

@[simp] theorem publishEvent_outside (type : EventType) (name : Text) :
    (p.publishEvent type name s).outside = s.outside := by
  unfold publishEvent
  split <;> rfl

theorem startNode_keeps (h : io.Passive K) (node : Option CaptureNode) (hs : K s.outside) :
    K (startNode io node s).2.outside := by
  cases node with
  | none => exact hs
  | some node => exact node.start_keeps h hs

theorem stopNode_keeps (h : io.Passive K) (node : Option CaptureNode) (hs : K s.outside) :
    K (stopNode io node s).outside := by
  cases node with
  | none => exact hs
  | some node => exact node.stop_keeps h hs

theorem startCaptureNodes_keeps (h : io.Passive K) (hs : K s.outside) :
    K (p.startCaptureNodes io s).2.outside := by
  have hv := startNode_keeps h p.visibleCapture hs
  unfold startCaptureNodes
  split <;> rename_i hx <;> rw [hx] at hv
  · exact hv
  · have hc := startNode_keeps h p.compositeCapture hv
    split <;> rename_i hy <;> rw [hy] at hc
    · exact stopNode_keeps h _ hc
    · exact hc

variable (s) in
theorem start_leaves (h : io.Passive K) : Leaves K p (p.start io s).2.1 s (p.start io s).2.2 := by
  have hc : K s.outside → K (p.startCaptureNodes io s).2.outside := startCaptureNodes_keeps h
  unfold start
  split
  · exact .of_outside rfl rfl
  · split <;> rename_i hx <;> rw [hx] at hc
    · exact ⟨rfl, hc⟩
    · split
      · exact ⟨rfl, hc⟩
      · dsimp only
        split
        · exact ⟨rfl, hc⟩
        · refine ⟨rfl, fun hs ↦ ?_⟩
          rw [publishEvent_outside]
          exact hc hs

variable (p s) in
theorem initDecoder_leaves (h : io.Passive K) :
    Leaves K p (p.initDecoder io s).2.1 s (p.initDecoder io s).2.2 := by
  unfold initDecoder
  split
  · exact .of_outside rfl rfl
  · dsimp only
    split <;> rename_i hx <;> have hd := Shared.call_keeps hx (Decoder.init_keeps h _) <;>
      exact ⟨rfl, hd⟩

theorem stopCaptureNodes_keeps (h : io.Passive K) (hs : K s.outside) :
    K (p.stopCaptureNodes io s).outside :=
  stopNode_keeps h _ (stopNode_keeps h _ hs)

theorem prepareFrameForEncoder_keeps (h : io.Passive K) (frame : VideoFrame) (hs : K s.outside) :
    K (p.prepareFrameForEncoder io frame s).2.outside := by
  unfold prepareFrameForEncoder
  split
  · exact hs
  · split
    · exact hs
    · split <;> rename_i hx
      · exact Shared.call_keeps hx (FormatConvertNode.process_keeps h _ _) hs
      · have hk := Shared.call_keeps hx (FormatConvertNode.process_keeps h _ _) hs
        exact hk

theorem prepareRaw_keeps (h : io.Passive K) (frame : VideoFrame) (hs : K s.outside) :
    K (p.prepareRaw io frame s).2.outside := by
  unfold prepareRaw
  split
  · exact prepareFrameForEncoder_keeps h frame hs
  · exact hs

variable (p s) in
theorem prepareFrameForPipeline_leaves (h : io.Passive K) (frame : VideoFrame) :
    Leaves K p (p.prepareFrameForPipeline io frame s).2.1 s
      (p.prepareFrameForPipeline io frame s).2.2 := by
  unfold prepareFrameForPipeline
  split
  · exact .of_outside rfl rfl
  · split
    · split
      · split <;> rename_i hx <;>
          have hd := Shared.call_keeps hx (Decoder.decode_keeps h frame _)
        · exact ⟨rfl, hd⟩
        · exact ⟨rfl, fun hs ↦ prepareRaw_keeps h _ (hd hs)⟩
      · split <;> exact .of_outside rfl rfl
    · exact ⟨rfl, prepareRaw_keeps h frame⟩

theorem pushEncoded_leaves (encoded : EncodedFrame) :
    Leaves K p (pushEncoded encoded p s).2.1 s (pushEncoded encoded p s).2.2 := by
  unfold pushEncoded
  dsimp only
  split <;> exact .of_outside rfl rfl

variable (p s) in
theorem publishFrame_leaves (h : io.Passive K) (frame : VideoFrame) :
    Leaves K p (p.publishFrame io frame s).2.1 s (p.publishFrame io frame s).2.2 := by
  unfold publishFrame
  split
  · rename_i encoder he
    have h₁ : Leaves K p { p with encoder := some (encoder.encode io frame s.outside).2.1 } s
        { s with outside := (encoder.encode io frame s.outside).2.2 } := by
      refine ⟨?_, MppH264Encoder.encode_keeps h frame encoder⟩
      unfold encoderBound
      rw [he]
      exact congrArg some (MppH264Encoder.encode_bound frame encoder)
    dsimp only
    split
    · exact h₁
    · exact h₁.trans (pushEncoded_leaves _)
  · split
    · exact .of_outside rfl rfl
    · split
      · exact .of_outside rfl rfl
      · dsimp only
        split
        · exact Leaves.trans ⟨rfl, h.nowMs s.outside⟩ (pushEncoded_leaves _)
        · exact pushEncoded_leaves _

variable (p s) in
theorem processOneFrame_leaves (h : io.Passive K) :
    Leaves K p (p.processOneFrame io s).2.1 s (p.processOneFrame io s).2.2 := by
  unfold processOneFrame
  split
  · exact .of_outside rfl rfl
  · split <;> rename_i hx <;> have hc := Shared.call_keeps hx (CaptureNode.capture_keeps h _ _)
    · exact ⟨rfl, hc⟩
    · rename_i frame s₁
      dsimp only
      generalize hp : ({ p with stats.capturedFrames := p.stats.capturedFrames + 1 } :
        MediaPipeline) = p₁
      have h₁ : Leaves K p p₁ s (s₁.record (.captured frame)) := ⟨hp ▸ rfl, hc⟩
      have h₂ := h₁.trans (prepareFrameForPipeline_leaves p₁ _ h frame)
      split <;> rename_i hy <;> rw [hy] at h₂
      · exact h₂
      · exact h₂.trans (publishFrame_leaves _ _ h _)

variable (p s) in
theorem runLoopTurn_leaves (h : io.Passive K) :
    Leaves K p (p.runLoopTurn io s).1 s (p.runLoopTurn io s).2 := by
  have hp := p.processOneFrame_leaves s h
  unfold runLoopTurn
  split <;> rename_i hx <;> rw [hx] at hp <;> exact hp

end MediaPipeline

structure EncoderWorld (ω : Type) where
  initialized : Bool := false
  outside : ω

namespace MppEncoder

variable {ω α : Type} (io : MediaIo ω)

def release (w : EncoderWorld ω) : EncoderWorld ω where
  initialized := false
  outside := io.encoderRelease w.outside

def init (config : MppEncoderConfig) (w : EncoderWorld ω) : Result Unit × EncoderWorld ω :=
  match io.encoderInit config (release io w).outside with
  | (.error e, outside) => (.error e, { initialized := false, outside := outside })
  | (.ok (), outside) => (.ok (), { initialized := true, outside := outside })

def encodeNv12 (data : List UInt8) (ptsMs : UInt64) (w : EncoderWorld ω) :
    Result MppEncodedPacket × EncoderWorld ω :=
  if !w.initialized then (.fail .notInitialized "MPP encoder not initialized", w)
  else ((io.encodeNv12 data ptsMs w.outside).1,
    { w with outside := (io.encodeNv12 data ptsMs w.outside).2 })

def beside (f : ω → α × ω) (w : EncoderWorld ω) : α × EncoderWorld ω :=
  ((f w.outside).1, { w with outside := (f w.outside).2 })

end MppEncoder

variable {ω : Type}

def MediaIo.withEncoder (io : MediaIo ω) : MediaIo (EncoderWorld ω) where
  startCamera id := MppEncoder.beside (io.startCamera id)
  stopCamera id := MppEncoder.beside (io.stopCamera id)
  readFrame id timeoutMs := MppEncoder.beside (io.readFrame id timeoutMs)
  decoderInit codec := MppEncoder.beside (io.decoderInit codec)
  decode packet := MppEncoder.beside (io.decode packet)
  decoderRelease w := { w with outside := io.decoderRelease w.outside }
  encoderInit := MppEncoder.init io
  encodeNv12 := MppEncoder.encodeNv12 io
  encoderRelease := MppEncoder.release io
  imcvtcolor src dst := MppEncoder.beside (io.imcvtcolor src dst)
  nowMs := MppEncoder.beside io.nowMs

theorem MediaIo.withEncoder_passive (io : MediaIo ω) (b : Bool) :
    io.withEncoder.Passive fun w ↦ w.initialized = b where
  startCamera _ _ h := h
  stopCamera _ _ h := h
  readFrame _ _ _ h := h
  decoderInit _ _ h := h
  decode _ _ h := h
  decoderRelease _ h := h
  encodeNv12 data ptsMs w h := by
    change (MppEncoder.encodeNv12 io data ptsMs w).2.initialized = b
    unfold MppEncoder.encodeNv12
    split <;> exact h
  imcvtcolor _ _ _ h := h
  nowMs _ h := h

namespace MediaPipeline

variable {io : MediaIo ω} {p p' : MediaPipeline} {s s' : Shared (EncoderWorld ω)}

def SameEncoder (p p' : MediaPipeline) (s s' : Shared (EncoderWorld ω)) : Prop :=
  p'.encoderBound = p.encoderBound ∧ s'.outside.initialized = s.outside.initialized

theorem Leaves.same (h : ∀ b, Leaves (fun w : EncoderWorld ω ↦ w.initialized = b) p p' s s') :
    SameEncoder p p' s s' :=
  ⟨(h true).1, (h s.outside.initialized).2 rfl⟩

variable (io p s) in
theorem start_encoder : SameEncoder p (p.start io.withEncoder s).2.1 s
    (p.start io.withEncoder s).2.2 :=
  Leaves.same fun b ↦ start_leaves s (io.withEncoder_passive b)

theorem runLoopTurn_encoder : SameEncoder p (p.runLoopTurn io.withEncoder s).1 s
    (p.runLoopTurn io.withEncoder s).2 :=
  Leaves.same fun b ↦ runLoopTurn_leaves p s (io.withEncoder_passive b)

theorem initVisible_encoder : p.initVisible.2.encoderBound = p.encoderBound := by
  unfold initVisible
  split
  · rfl
  · dsimp only
    split <;> rfl

theorem initComposite_encoder : p.initComposite.2.encoderBound = p.encoderBound := by
  unfold initComposite
  split
  · rfl
  · dsimp only
    split <;> rfl

theorem initFormatConvert_encoder : p.initFormatConvert.encoderBound = p.encoderBound := by
  unfold initFormatConvert
  split <;> rfl

variable (io p s) in
theorem initDecoder_encoder : SameEncoder p (p.initDecoder io.withEncoder s).2.1 s
    (p.initDecoder io.withEncoder s).2.2 :=
  Leaves.same fun b ↦ initDecoder_leaves p s (io.withEncoder_passive b)

theorem validateContext_encoder (h : p.validateContext = .ok ())
    (hu : p.config.useEncoder = true) : p.context.encoder = true := by
  unfold validateContext at h
  split at h
  · exact nomatch h
  · split at h
    · exact nomatch h
    · split at h
      · exact nomatch h
      · split at h
        · exact nomatch h
        · split at h
          · exact nomatch h
          · rename_i he
            simpa [hu] using he

theorem initEncoder_encoder (hi : ∀ config w, (io.encoderInit config w).1 = .ok ())
    (hc : p.config.useEncoder = true → p.context.encoder = true) :
    (p.initEncoder io.withEncoder s).1 = .ok () ∧
      (if p.config.useEncoder then
        (p.initEncoder io.withEncoder s).2.1.encoderBound = some true ∧
          (p.initEncoder io.withEncoder s).2.2.outside.initialized = true
      else SameEncoder p (p.initEncoder io.withEncoder s).2.1 s
        (p.initEncoder io.withEncoder s).2.2) := by
  unfold initEncoder
  by_cases hu : p.config.useEncoder = true
  · have hinit (config : MppEncoderConfig) (w : EncoderWorld ω) :
        (MppEncoder.init io config w).1 = .ok () ∧
          (MppEncoder.init io config w).2.initialized = true := by
      have h := hi config (MppEncoder.release io w).outside
      unfold MppEncoder.init
      split <;> rename_i hx <;> rw [hx] at h
      · exact nomatch h
      · exact ⟨rfl, rfl⟩
    rw [if_pos hu, if_pos hu]
    dsimp only
    split <;> rename_i hx <;> have he := Shared.call_eq hx <;> unfold MppH264Encoder.init at he <;>
      rw [hc hu] at he
    · exact nomatch (congrArg Prod.fst he).symm.trans (hinit _ _).1
    · refine ⟨rfl, congrArg some (hc hu), ?_⟩
      exact (congrArg (fun r ↦ r.2.initialized) he).symm.trans (hinit _ _).2
  · rw [if_neg hu, if_neg hu]
    split <;> exact ⟨rfl, rfl, rfl⟩

def SetsUp (ret : Result Unit) (config : PipelineConfig) (p p' : MediaPipeline)
    (s s' : Shared (EncoderWorld ω)) : Prop :=
  ((ret = .ok () ∧ config.useEncoder = true) ∧ p'.encoderBound = some true ∧
      s'.outside.initialized = true) ∨
    (¬(ret = .ok () ∧ config.useEncoder = true) ∧ SameEncoder p p' s s')

theorem SetsUp.of_error {e : Status} {config : PipelineConfig} (h : SameEncoder p p' s s') :
    SetsUp (.error e) config p p' s s' :=
  .inr ⟨(nomatch ·.1), h⟩

theorem initNodes_encoder (hi : ∀ config w, (io.encoderInit config w).1 = .ok ())
    (hc : p.config.useEncoder = true → p.context.encoder = true) :
    SetsUp (p.initNodes io.withEncoder s).1 p.config p (p.initNodes io.withEncoder s).2.1 s
      (p.initNodes io.withEncoder s).2.2 := by
  have hv := initVisible_encoder (p := p)
  have hvs := initVisible_setup (p := p)
  unfold initNodes
  split <;> rename_i p₁ hx <;> rw [hx] at hv hvs
  · exact .of_error ⟨hv, rfl⟩
  · have hcm := (initComposite_encoder (p := p₁)).trans hv
    have hcs := hvs.trans (initComposite_setup (p := p₁))
    split <;> rename_i p₂ hx <;> rw [hx] at hcm hcs
    · exact .of_error ⟨hcm, rfl⟩
    · have hd := initDecoder_encoder io p₂ s
      have hds := hcs.trans (p₂.initDecoder_kept io.withEncoder s).1
      split <;> rename_i p₃ s₃ hx <;> rw [hx] at hd hds
      · exact .of_error ⟨hd.1.trans hcm, hd.2⟩
      · have hf := hds.trans (initFormatConvert_setup (p := p₃))
        have hb := initFormatConvert_encoder.trans (hd.1.trans hcm)
        have he := initEncoder_encoder (p := p₃.initFormatConvert) (s := s₃) hi
          (by rw [hf.1, hf.2]; exact hc)
        rw [hf.1] at he
        split <;> rename_i hx <;> rw [hx] at he
        · exact nomatch he.1
        · by_cases hu : p.config.useEncoder = true
          · rw [if_pos hu] at he
            exact .inl ⟨⟨rfl, hu⟩, he.2⟩
          · rw [if_neg hu] at he
            exact .inr ⟨fun h ↦ hu h.2, he.2.1.trans hb, he.2.2.trans hd.2⟩

theorem init_encoder (hi : ∀ config w, (io.encoderInit config w).1 = .ok ())
    (config : PipelineConfig) (context : PipelineContext) :
    SetsUp (p.init io.withEncoder config context s).1 config p
      (p.init io.withEncoder config context s).2.1 s
      (p.init io.withEncoder config context s).2.2 := by
  unfold init
  split
  · exact .of_error ⟨rfl, rfl⟩
  · dsimp only
    split <;> rename_i hv
    · exact .of_error ⟨rfl, rfl⟩
    · exact initNodes_encoder
        (p := { p with config := config, context := context, stats := {}, graph := [] }) hi
        (validateContext_encoder hv)

variable (io) in
theorem stop_encoder (hb : s.outside.initialized = true → p.encoderBound = some true) :
    (p.stop io.withEncoder s).1.encoderBound = p.encoderBound ∧
      (p.stop io.withEncoder s).2.outside.initialized = false := by
  refine ⟨rfl, ?_⟩
  have hr (q : MediaPipeline) (hq : q.encoderBound = p.encoderBound) :
      (q.releaseNodes io.withEncoder s).outside.initialized = false := by
    have hp := io.withEncoder_passive s.outside.initialized
    have hc : (q.stopCaptureNodes io.withEncoder s).outside.initialized = s.outside.initialized :=
      stopCaptureNodes_keeps hp rfl
    unfold releaseNodes
    extract_lets s₁ s₂
    have hd : s₂.outside.initialized = s.outside.initialized := by
      unfold s₂
      split
      · exact hc
      · rename_i decoder _
        exact decoder.release_keeps hp hc
    cases he : q.encoder with
    | none =>
      have hn : p.encoderBound = none := hq.symm.trans (congrArg (Option.map _) he)
      refine hd.trans (Bool.eq_false_iff.mpr fun h ↦ ?_)
      exact nomatch hn.symm.trans (hb h)
    | some encoder =>
      dsimp only
      unfold MppH264Encoder.release
      split
      · rfl
      · rename_i hnb
        refine hd.trans (Bool.eq_false_iff.mpr fun h ↦ hnb ?_)
        have hs : p.encoderBound = some encoder.bound := hq.symm.trans (congrArg (Option.map _) he)
        exact Option.some.inj (hs.symm.trans (hb h))
  unfold stop
  extract_lets p₁ s₁ s₂ s₃
  have h₁ : s₁.outside.initialized = false := hr p₁ rfl
  have h₂ : s₂.outside.initialized = false := by
    unfold s₂
    split <;> exact h₁
  change s₃.outside.initialized = false
  unfold s₃
  split
  · rw [publishEvent_outside]
    exact h₂
  · exact h₂

end MediaPipeline

/-- A pipeline on an encoder; `armed` says that an `init` with the encoder has succeeded
since the last `stop`. -/
structure EncoderRun (ω : Type) where
  system : PipelineSystem (EncoderWorld ω)
  armed : Bool := false

namespace EncoderRun

open MediaPipeline

variable {io : MediaIo ω} {y : EncoderRun ω} {call : PipelineCall}

def armedBy (io : MediaIo ω) (y : EncoderRun ω) : PipelineCall → Bool
  | .init config context =>
    if (y.system.1.init io.withEncoder config context y.system.2).1 = .ok () ∧
        config.useEncoder = true then true
    else y.armed
  | .stop => false
  | .start => y.armed
  | .work => y.armed

def step (io : MediaIo ω) (y : EncoderRun ω) (call : PipelineCall) : EncoderRun ω :=
  if y.system.2.crashed then y
  else
    { system := PipelineSystem.step io.withEncoder y.system call
      armed := armedBy io y call }

def run (io : MediaIo ω) (y : EncoderRun ω) (calls : List PipelineCall) : EncoderRun ω :=
  Runs.exec (step io) y calls

def fresh (mainStream : MainStream) (events : List Event) (outside : ω) : EncoderRun ω where
  system := .fresh mainStream events { outside := outside }

/-- A running pipeline that is to encode has an encoder that is set up. -/
def Ready (y : EncoderRun ω) : Prop :=
  y.system.1.state = .running → y.system.1.config.useEncoder = true →
    y.system.2.outside.initialized = true

/-- A `start` that succeeds, of a pipeline that is to encode, comes after an `init` with the
encoder and before the next `stop`. -/
def Prepared (io : MediaIo ω) (y : EncoderRun ω) (call : PipelineCall) : Prop :=
  call = .start → y.system.2.crashed = false →
    (y.system.1.start io.withEncoder y.system.2).1 = .ok () →
    (y.system.1.start io.withEncoder y.system.2).2.2.crashed = false →
    y.system.1.config.useEncoder = true → y.armed = true

structure Linked (y : EncoderRun ω) : Prop where
  armed : y.system.2.outside.initialized = y.armed
  bound : y.system.2.outside.initialized = true → y.system.1.encoderBound = some true

theorem step_eq (hc : y.system.2.crashed = false) : step io y call =
    { system := PipelineSystem.step io.withEncoder y.system call, armed := armedBy io y call } := by
  unfold step
  rw [hc]
  rfl

theorem Linked.step (hi : ∀ config w, (io.encoderInit config w).1 = .ok ()) (h : y.Linked) :
    (step io y call).Linked := by
  by_cases hc : y.system.2.crashed = true
  · unfold EncoderRun.step
    rw [if_pos hc]
    exact h
  have hc : y.system.2.crashed = false := Bool.eq_false_iff.mpr hc
  rw [step_eq hc]
  obtain ⟨⟨p, s⟩, armed⟩ := y
  have hsame {p' : MediaPipeline} {s' : Shared (EncoderWorld ω)} (hs : SameEncoder p p' s s') :
      Linked ⟨(p', s'), armed⟩ :=
    ⟨hs.2.trans h.armed, fun hf ↦ hs.1.trans (h.bound (hs.2.symm.trans hf))⟩
  unfold PipelineSystem.step
  dsimp only at hc
  simp only [hc, Bool.false_eq_true, if_false]
  cases call with
  | init config context =>
    rcases init_encoder (p := p) (s := s) hi config context with ⟨hok, hb, hf⟩ | ⟨hn, hs⟩
    · refine ⟨hf.trans (if_pos hok).symm, fun _ ↦ hb⟩
    · have ha : armedBy io ⟨(p, s), armed⟩ (.init config context) = armed := if_neg hn
      rw [ha]
      exact hsame hs
  | start => exact hsame (start_encoder io p s)
  | stop =>
    obtain ⟨hb, hf⟩ := stop_encoder io h.bound
    exact ⟨hf, fun ht ↦ nomatch hf.symm.trans ht⟩
  | work =>
    dsimp only
    split
    · exact hsame runLoopTurn_encoder
    · exact h

theorem Ready.step (hl : y.Linked) (h : y.Ready) (hp : y.Prepared io call) :
    (step io y call).Ready := by
  by_cases hc : y.system.2.crashed = true
  · unfold EncoderRun.step
    rw [if_pos hc]
    exact h
  have hc : y.system.2.crashed = false := Bool.eq_false_iff.mpr hc
  rw [step_eq hc]
  obtain ⟨⟨p, s⟩, armed⟩ := y
  unfold PipelineSystem.step
  dsimp only at hc
  simp only [hc, Bool.false_eq_true, if_false]
  intro hr hu
  cases call with
  | init config context =>
    rcases init_handle io.withEncoder p s config context with ⟨e, -, hs⟩ | ⟨-, hs, -⟩
    · have hr : p.state = .running := hs.1.symm.trans hr
      dsimp only at hu ⊢
      rw [init_running hr] at hu ⊢
      exact h hr hu
    · exact nomatch hs.symm.trans hr
  | start =>
    dsimp only at hr hu ⊢
    have hset := p.start_setup io.withEncoder s
    have hu : p.config.useEncoder = true := hset.1 ▸ hu
    rw [(start_encoder io p s).2]
    rcases start_cases io.withEncoder p s with
      ⟨e, -, hsame, -⟩ | ⟨-, -, ⟨-, hsame, -, -⟩ | ⟨-, -, hok, -, hcrash⟩⟩
    · rw [hsame] at hr
      exact h hr hu
    · rw [hsame] at hr
      exact h hr hu
    · exact hl.armed.trans (hp rfl hc hok (hcrash.trans hc) hu)
  | stop => exact nomatch hr
  | work =>
    dsimp only at hr hu ⊢
    split at hr <;> rename_i hw
    · rw [if_pos hw] at hu ⊢
      rw [runLoopTurn_encoder.2]
      have hset : p.SameSetup (p.runLoopTurn io.withEncoder s).1 := runLoopTurn_setup
      obtain ⟨-, -, ⟨-, hs⟩ | ⟨-, hs⟩⟩ := runLoopTurn_cases io.withEncoder p s
      · exact h (hs.symm.trans hr) (hset.1 ▸ hu)
      · exact nomatch hs.symm.trans hr
    · rw [if_neg hw] at hu ⊢
      exact h hr hu

theorem step_unprepared (hl : y.Linked) (hn : ¬y.Prepared io call) : ¬(step io y call).Ready := by
  unfold Prepared at hn
  push Not at hn
  obtain ⟨rfl, hc, hok, hcrash, hu, ha⟩ := hn
  rw [step_eq hc]
  obtain ⟨⟨p, s⟩, armed⟩ := y
  unfold PipelineSystem.step
  dsimp only at hc hok hcrash hu ha
  simp only [hc, Bool.false_eq_true, if_false]
  intro hr
  have hs := start_encoder io p s
  have hset := p.start_setup io.withEncoder s
  rcases start_cases io.withEncoder p s with
    ⟨e, he, -⟩ | ⟨-, -, ⟨-, -, -, hterm⟩ | ⟨-, -, -, hsame, -⟩⟩
  · exact nomatch he.symm.trans hok
  · exact nomatch hterm.symm.trans hcrash
  · have hrun : (p.start io.withEncoder s).2.1.state = .running := by rw [hsame]
    have hf := hr hrun (hset.1.symm ▸ hu)
    exact ha (hl.armed.symm.trans (hs.2.symm.trans hf))

theorem fresh_linked (mainStream : MainStream) (events : List Event) (outside : ω) :
    (fresh mainStream events outside).Linked :=
  ⟨rfl, fun h ↦ nomatch h⟩

/-- With an encoder that can always be set up: it is set up whenever the pipeline runs and is
to encode, exactly when each `start` that succeeds comes after an `init` with the encoder
and before the next `stop`. -/
theorem ready_iff (io : MediaIo ω) (hi : ∀ config w, (io.encoderInit config w).1 = .ok ())
    (mainStream : MainStream) (events : List Event) (outside : ω) (calls : List PipelineCall) :
    (∀ reached, reached <+: calls → (run io (fresh mainStream events outside) reached).Ready) ↔
      Runs.Along (step io) (fun y call ↦ y.Prepared io call) (fresh mainStream events outside)
        calls := by
  constructor
  · intro h
    refine (Runs.along_iff _ _).mpr fun before call after he ↦ ?_
    by_contra hn
    have hl : (run io (fresh mainStream events outside) before).Linked :=
      Runs.exec_invariant (fun y call hy ↦ Linked.step hi hy) (fresh_linked _ _ _) before
    refine step_unprepared hl hn ?_
    have hr := h (before ++ [call]) ⟨after, by rw [he, List.append_assoc]; rfl⟩
    unfold run at hr
    rw [Runs.exec_append] at hr
    exact hr
  · rintro h reached ⟨rest, rfl⟩
    have hboth := ((Runs.along_append _ _ _).mp h).1.invariant
      (I := fun y : EncoderRun ω ↦ y.Linked ∧ y.Ready)
      (fun y call hy hp ↦ ⟨hy.1.step hi, hy.2.step hy.1 hp⟩)
      ⟨fresh_linked mainStream events outside, fun h ↦ nomatch h⟩
    exact hboth.2

def wholeContext : PipelineContext where
  cameraManager := some {}
  mainStream := true
  encoder := true

theorem ready_iff_once :
    (∀ reached, reached <+: [.init { useEncoder := true } wholeContext, .start, .work] →
        (run PipelineSystem.unplugged (fresh {} [] ()) reached).Ready) ∧
      (run PipelineSystem.unplugged (fresh {} [] ())
        [.init { useEncoder := true } wholeContext, .start]).system.1.state = .running := by
  refine ⟨(ready_iff PipelineSystem.unplugged (fun _ _ ↦ rfl) {} [] () _).mpr ?_,
    by decide +kernel⟩
  refine ⟨fun h ↦ (nomatch h), fun _ _ _ _ _ ↦ ?_, fun h ↦ (nomatch h), trivial⟩
  decide +kernel

/-- Started again after a `stop`, the pipeline runs on an encoder that has been released. -/
theorem restarted_unready :
    let y := run PipelineSystem.unplugged (fresh {} [] ())
      [.init { useEncoder := true } wholeContext, .start, .stop, .start]
    y.system.1.state = .running ∧ y.system.1.config.useEncoder = true ∧
      y.system.2.outside.initialized = false := by
  decide +kernel

end EncoderRun

end TriFusion.Media
