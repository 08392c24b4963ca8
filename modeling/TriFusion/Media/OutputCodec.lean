import TriFusion.Media.EncoderReady
import TriFusion.Media.StreamLabels
import TriFusion.Media.StreamSteps

namespace TriFusion.Media

open Foundation Hardware Device Library.Traces

variable {ω : Type} {io : MediaIo ω}

def Coded (codec : MppCodec) (_history : List FrameStep) : FrameStep → Prop
  | .pushed frame => frame.codec = codec
  | _ => True

theorem coded_onPushes (codec : MppCodec) : OnPushes (Coded codec) := by
  intro history step h
  cases step with
  | pushed frame => exact absurd rfl (h frame)
  | _ => trivial

theorem Coded.of_mem {codec : MppCodec} {history : List FrameStep}
    (h : Lawful (Coded codec) history) {frame : EncodedFrame}
    (hf : .pushed frame ∈ history) : frame.codec = codec := by
  obtain ⟨before, after, he⟩ := List.append_of_mem hf
  exact h before _ after he

variable (io) in
theorem MediaIo.passive_true : io.Passive fun _ ↦ True := by
  constructor <;> intros <;> trivial

namespace MediaPipeline

variable {p : MediaPipeline} {s : Shared ω}

def outputCodec (p : MediaPipeline) : MppCodec := if p.encoder.isSome then .h264 else .mjpeg

theorem outputCodec_congr {q : MediaPipeline} (h : q.encoderBound = p.encoderBound) :
    q.outputCodec = p.outputCodec := by
  have hs : q.encoder.isSome = p.encoder.isSome := by
    have hb := congrArg Option.isSome h
    simpa only [encoderBound, Option.isSome_map] using hb
  unfold outputCodec
  rw [hs]

theorem publishFrame_coded {frame : VideoFrame}
    (hs : Lawful (Coded p.outputCodec) s.history) :
    Lawful (Coded p.outputCodec) (p.publishFrame io frame s).2.2.history := by
  unfold publishFrame
  cases he : p.encoder with
  | some encoder =>
    have hc : p.outputCodec = .h264 := by simp [outputCodec, he]
    cases hx : encoder.encode io frame s.outside with
    | mk ret rest =>
      obtain ⟨encoder', w⟩ := rest
      cases ret with
      | error e =>
        simp only [hx]
        exact hs
      | ok encoded =>
        simp only [hx]
        refine pushEncoded_lawful ((lawful_concat _ _).mpr ⟨hs, trivial⟩) ?_
        exact (MppH264Encoder.encode_ok hx).2.trans hc.symm
  | none =>
    have hc : p.outputCodec = .mjpeg := by simp [outputCodec, he]
    dsimp only
    split
    · exact hs
    · split
      · exact hs
      · split <;> exact pushEncoded_lawful hs hc.symm

variable (io p s) in
theorem runLoopTurn_coded (hs : Lawful (Coded p.outputCodec) s.history) :
    Lawful (Coded p.outputCodec) (p.runLoopTurn io s).2.history := by
  have hl := p.processOneFrame_lawful io (coded_onPushes _) hs fun q t frame hq ht _ ↦ by
    have hc : q.outputCodec = p.outputCodec := outputCodec_congr (by rw [encoderBound, hq]; rfl)
    rw [← hc] at ht ⊢
    exact publishFrame_coded ht
  unfold runLoopTurn
  split <;> rename_i hx <;> rw [hx] at hl <;> exact hl

variable (io p s) in
theorem initEncoder_isSome (hn : p.encoderBound = none) :
    (p.initEncoder io s).2.1.encoder.isSome = p.config.useEncoder := by
  have hn : p.encoder = none := Option.map_eq_none_iff.mp hn
  unfold initEncoder
  cases hu : p.config.useEncoder with
  | true =>
    rw [if_pos rfl]
    dsimp only
    split <;> rfl
  | false =>
    rw [if_neg Bool.false_ne_true]
    split <;> exact congrArg Option.isSome hn

theorem initNodes_isSome {p' : MediaPipeline} {s' : Shared ω} (hn : p.encoderBound = none)
    (h : p.initNodes io s = (.ok (), p', s')) : p'.encoder.isSome = p.config.useEncoder := by
  have hv := initVisible_setup (p := p)
  have hv' := initVisible_encoder (p := p)
  unfold initNodes at h
  split at h <;> rename_i p₁ hx <;> rw [hx] at hv hv'
  · cases (Prod.mk.inj h).1
  · have hc := hv.trans (initComposite_setup (p := p₁))
    have hc' := (initComposite_encoder (p := p₁)).trans hv'
    split at h <;> rename_i p₂ hx <;> rw [hx] at hc hc'
    · cases (Prod.mk.inj h).1
    · have hd := hc.trans (p₂.initDecoder_kept io s).1
      have hd' := (initDecoder_leaves p₂ s io.passive_true).1.trans hc'
      split at h <;> rename_i p₃ s₃ hx <;> rw [hx] at hd hd'
      · cases (Prod.mk.inj h).1
      · have hf := hd.trans (initFormatConvert_setup (p := p₃))
        have hf' := (initFormatConvert_encoder (p := p₃)).trans hd'
        have he := p₃.initFormatConvert.initEncoder_isSome io s₃ (hf'.trans hn)
        split at h <;> rename_i hx <;> rw [hx] at he
        · cases (Prod.mk.inj h).1
        · obtain ⟨rfl, -⟩ := Prod.mk.inj (Prod.mk.inj h).2
          rw [← hf.1, ← he]
          rfl

end MediaPipeline

namespace PipelineBuilder

theorem build_outputCodec {config : PipelineConfig} {context : PipelineContext}
    {s s' : Shared ω} {pipeline : MediaPipeline}
    (h : build io config context s = (.ok pipeline, s')) :
    pipeline.outputCodec = (if config.useEncoder then .h264 else .mjpeg) ∧ s.OnlyOutside s' := by
  have ho := MediaPipeline.init_outside io {} s config context
  unfold build at h
  split at h <;> rename_i hi <;> rw [hi] at ho
  · cases (Prod.mk.inj h).1
  · obtain ⟨hp, rfl⟩ := Prod.mk.inj h
    obtain rfl := Except.ok.inj hp
    refine ⟨?_, ho⟩
    unfold MediaPipeline.init at hi
    rw [if_neg (by decide)] at hi
    dsimp only at hi
    split at hi
    · cases (Prod.mk.inj hi).1
    · rw [MediaPipeline.outputCodec, MediaPipeline.initNodes_isSome rfl hi]

end PipelineBuilder

namespace PipelineSystem

structure InCodec (codec : MppCodec) (profile : StreamProfile) (system : PipelineSystem ω) :
    Prop where
  output : system.1.outputCodec = codec
  history : Lawful (Coded codec) system.2.history
  profile : system.2.mainStream.profile = profile

variable {codec : MppCodec} {profile : StreamProfile}

theorem step_inCodec {system : PipelineSystem ω} {call : PipelineCall}
    (hcall : ∀ config context, call ≠ .init config context)
    (h : InCodec codec profile system) : InCodec codec profile (step io system call) := by
  obtain ⟨p, s⟩ := system
  obtain ⟨rfl, hl, rfl⟩ := h
  unfold step
  dsimp only
  split
  · exact ⟨rfl, hl, rfl⟩
  · cases call with
    | init config context => exact absurd rfl (hcall config context)
    | start =>
      have he := (MediaPipeline.start_leaves (p := p) s io.passive_true).1
      refine ⟨MediaPipeline.outputCodec_congr he, p.start_history.symm ▸ hl, ?_⟩
      dsimp only
      rw [MediaPipeline.start_stream io p s]
    | stop =>
      refine ⟨rfl, p.stop_history.symm ▸ hl, ?_⟩
      dsimp only
      rw [MediaPipeline.stop_stream io p s]
    | work =>
      dsimp only
      split
      · have he := (MediaPipeline.runLoopTurn_leaves p s io.passive_true).1
        refine ⟨MediaPipeline.outputCodec_congr he, p.runLoopTurn_coded io s hl, ?_⟩
        obtain hm | ⟨f, hm⟩ : (p.runLoopTurn io s).2.mainStream = s.mainStream ∨
            ∃ f, (p.runLoopTurn io s).2.mainStream = (s.mainStream.push f).2 :=
          MediaPipeline.runLoopTurn_stream io p s
        · rw [hm]
        · rw [hm]
          unfold MainStream.push
          split <;> rfl
      · exact ⟨rfl, hl, rfl⟩

variable (io) in
theorem run_inCodec {system : PipelineSystem ω} (calls : List PipelineCall)
    (hc : ∀ config context, PipelineCall.init config context ∉ calls)
    (h : InCodec codec profile system) : InCodec codec profile (run io system calls) := by
  induction calls generalizing system with
  | nil => exact h
  | cons call calls ih =>
    refine ih (fun config context hm ↦ hc config context (List.mem_cons_of_mem _ hm))
      (step_inCodec (fun config context he ↦ ?_) h)
    exact hc config context (he ▸ List.mem_cons_self)

end PipelineSystem

end TriFusion.Media
