import TriFusion.Library.Traces
import TriFusion.Media.PipelineSteps

namespace TriFusion.Media

open Foundation Hardware Device Library.Traces

variable {ω α : Type} {io : MediaIo ω}

/-- The frame was read from a camera just now; a decoder may have passed it on as it is. -/
def Untouched (history : List FrameStep) (frame : VideoFrame) : Prop :=
  ∃ earlier, history = earlier ++ [.captured frame] ∨
    history = earlier ++ [.captured frame, .decoded frame frame]

def FromEncoder (history : List FrameStep) (frame : EncodedFrame) : Prop :=
  frame.codec = .h264 ∧
    ∃ earlier input, history = earlier ++ [.encoded input frame] ∧ input.format = .nv12

def PassedThrough (history : List FrameStep) (frame : EncodedFrame) : Prop :=
  frame.codec = .mjpeg ∧
    ∃ input, Untouched history input ∧ input.format = .mjpeg ∧ frame.data = input.data

/-- A frame is pushed under the codec that its bytes are really in. -/
def Labelled (history : List FrameStep) : FrameStep → Prop
  | .pushed frame => FromEncoder history frame ∨ PassedThrough history frame
  | _ => True

def OnPushes (P : List FrameStep → FrameStep → Prop) : Prop :=
  ∀ history step, (∀ frame, step ≠ .pushed frame) → P history step

theorem labelled_onPushes : OnPushes Labelled := by
  intro history step h
  cases step with
  | pushed frame => exact absurd rfl (h frame)
  | _ => trivial

namespace Shared

@[simp] theorem record_history (a : FrameStep) (s : Shared ω) :
    (s.record a).history = s.history ++ [a] := rfl

@[simp] theorem push_history (frame : EncodedFrame) (s : Shared ω) :
    (s.push frame).2.history = s.history ++ [.pushed frame] := rfl

end Shared

theorem Decoder.decode_mjpeg {frame out : VideoFrame} {d : Decoder} {w w' : ω}
    (h : d.decode io frame w = (.ok out, w')) (hf : out.format = .mjpeg) : out = frame := by
  cases d with
  | mjpeg =>
    obtain ⟨hr, -⟩ := Prod.mk.inj h
    exact (Except.ok.inj hr).symm
  | mppMjpeg bound =>
    simp only [Decoder.decode] at h
    split at h
    · exact nomatch (Prod.mk.inj h).1
    · split at h
      · exact nomatch (Prod.mk.inj h).1
      · rename_i mpp w₁ _
        obtain ⟨hr, -⟩ := Prod.mk.inj h
        rw [← Except.ok.inj hr] at hf
        cases hm : mpp.format <;> simp [fromMppFrame, VideoPixelFormat.ofMpp, hm] at hf

theorem MppH264Encoder.encode_ok {frame : VideoFrame} {out : EncodedFrame}
    {n n' : MppH264Encoder} {w w' : ω} (h : n.encode io frame w = (.ok out, n', w')) :
    frame.format = .nv12 ∧ out.codec = .h264 := by
  unfold MppH264Encoder.encode at h
  split at h
  · exact nomatch (Prod.mk.inj h).1
  · split at h
    · exact nomatch (Prod.mk.inj h).1
    · rename_i hn
      refine ⟨not_not.mp hn, ?_⟩
      split at h
      · exact nomatch (Prod.mk.inj h).1
      · split at h
        · exact nomatch (Prod.mk.inj h).1
        · split at h
          · exact nomatch (Prod.mk.inj h).1
          · obtain ⟨hr, -⟩ := Prod.mk.inj h
            rw [← Except.ok.inj hr]

namespace MediaPipeline

variable {p : MediaPipeline} {s : Shared ω} {P : List FrameStep → FrameStep → Prop}

theorem prepareFrameForEncoder_lawful (hP : OnPushes P) (frame : VideoFrame)
    (hs : Lawful P s.history) : Lawful P (p.prepareFrameForEncoder io frame s).2.history := by
  unfold prepareFrameForEncoder
  split
  · exact hs
  · split
    · exact hs
    · cases hx : s.call (FormatConvertNode.process io frame _) with
      | mk ret s₁ =>
        have h₁ : s₁.history = s.history := (Shared.outside_of_call hx).history
        cases ret with
        | error e => exact h₁ ▸ hs
        | ok converted =>
          refine (lawful_concat _ _).mpr ⟨h₁ ▸ hs, hP _ _ ?_⟩
          rintro _ ⟨⟩

theorem prepareRaw_lawful (hP : OnPushes P) (frame : VideoFrame) (hs : Lawful P s.history) :
    Lawful P (p.prepareRaw io frame s).2.history := by
  unfold prepareRaw
  split
  · exact prepareFrameForEncoder_lawful hP frame hs
  · exact hs

theorem prepareRaw_plain {frame : VideoFrame} (he : p.encoder = none) :
    p.prepareRaw io frame s = (.ok frame, s) := by
  simp only [prepareRaw, he, Option.isSome_none, Bool.false_eq_true, if_false]

variable (io p) in
theorem prepareFrameForPipeline_lawful (hP : OnPushes P) (frame : VideoFrame)
    (hs : Lawful P s.history) :
    Lawful P (p.prepareFrameForPipeline io frame s).2.2.history := by
  unfold prepareFrameForPipeline
  split
  · exact hs
  · split
    · cases hd : p.decoder with
      | none =>
        dsimp only
        split <;> exact hs
      | some decoder =>
        dsimp only
        cases hx : s.call (decoder.decode io frame) with
        | mk ret s₁ =>
          have h₁ : s₁.history = s.history := (Shared.outside_of_call hx).history
          cases ret with
          | error e => exact h₁ ▸ hs
          | ok decoded =>
            refine prepareRaw_lawful hP decoded ?_
            refine (lawful_concat _ _).mpr ⟨h₁ ▸ hs, hP _ _ ?_⟩
            rintro _ ⟨⟩
    · exact prepareRaw_lawful hP frame hs

variable (io p s) in
theorem prepareFrameForPipeline_encoder (frame : VideoFrame) :
    (p.prepareFrameForPipeline io frame s).2.1.encoder = p.encoder := by
  unfold prepareFrameForPipeline
  split
  · rfl
  · split
    · split
      · dsimp only
        split <;> rfl
      · split <;> rfl
    · rfl

theorem prepareFrameForPipeline_untouched {frame out : VideoFrame} {p' : MediaPipeline}
    {s' : Shared ω} {earlier : List FrameStep} (he : p.encoder = none)
    (hs : s.history = earlier ++ [.captured frame])
    (h : p.prepareFrameForPipeline io frame s = (.ok out, p', s')) (hf : out.format = .mjpeg) :
    Untouched s'.history out := by
  unfold prepareFrameForPipeline at h
  split at h
  · exact nomatch (Prod.mk.inj h).1
  · split at h
    · cases hd : p.decoder with
      | none =>
        simp only [hd, he, Option.isSome_none, Bool.false_eq_true, if_false] at h
        obtain ⟨hr, hp⟩ := Prod.mk.inj h
        obtain ⟨-, rfl⟩ := Prod.mk.inj hp
        exact ⟨earlier, .inl (Except.ok.inj hr ▸ hs)⟩
      | some decoder =>
        simp only [hd] at h
        cases hx : s.call (decoder.decode io frame) with
        | mk ret s₁ =>
          have h₁ : s₁.history = s.history := (Shared.outside_of_call hx).history
          rw [hx] at h
          cases ret with
          | error e => exact nomatch (Prod.mk.inj h).1
          | ok decoded =>
            dsimp only at h
            rw [prepareRaw_plain (by exact he)] at h
            obtain ⟨hr, hp⟩ := Prod.mk.inj h
            obtain ⟨-, rfl⟩ := Prod.mk.inj hp
            obtain rfl : decoded = out := Except.ok.inj hr
            obtain rfl : decoded = frame := Decoder.decode_mjpeg (Shared.call_eq hx) hf
            refine ⟨earlier, .inr ?_⟩
            rw [Shared.record_history, h₁, hs, List.append_assoc]
            rfl
    · rw [prepareRaw_plain he] at h
      obtain ⟨hr, hp⟩ := Prod.mk.inj h
      obtain ⟨-, rfl⟩ := Prod.mk.inj hp
      exact ⟨earlier, .inl (Except.ok.inj hr ▸ hs)⟩

theorem pushEncoded_lawful {encoded : EncodedFrame} (hs : Lawful P s.history)
    (h : P s.history (.pushed encoded)) :
    Lawful P (pushEncoded encoded p s).2.2.history := by
  unfold pushEncoded
  dsimp only
  split
  · exact hs
  · exact (lawful_concat _ _).mpr ⟨hs, h⟩

theorem publishFrame_lawful {frame : VideoFrame} (hs : Lawful Labelled s.history)
    (hm : p.encoder = none → frame.format = .mjpeg → Untouched s.history frame) :
    Lawful Labelled (p.publishFrame io frame s).2.2.history := by
  unfold publishFrame
  cases he : p.encoder with
  | some encoder =>
    cases hx : encoder.encode io frame s.outside with
    | mk ret rest =>
      obtain ⟨encoder', w⟩ := rest
      cases ret with
      | error e =>
        simp only [hx]
        exact hs
      | ok encoded =>
        obtain ⟨hf, hc⟩ := MppH264Encoder.encode_ok hx
        simp only [hx]
        refine pushEncoded_lawful ((lawful_concat _ _).mpr ⟨hs, trivial⟩) (.inl ⟨hc, ?_⟩)
        exact ⟨s.history, frame, rfl, hf⟩
  | none =>
    dsimp only
    split
    · exact hs
    · split
      · exact hs
      · rename_i hf
        have hf : frame.format = .mjpeg := not_not.mp hf
        split
        · exact pushEncoded_lawful hs (.inr ⟨rfl, frame, hm he hf, hf, rfl⟩)
        · exact pushEncoded_lawful hs (.inr ⟨rfl, frame, hm he hf, hf, rfl⟩)

variable (io p) in
theorem processOneFrame_lawful (hP : OnPushes P) (hs : Lawful P s.history)
    (hpublish : ∀ (q : MediaPipeline) (t : Shared ω) (frame : VideoFrame),
      q.encoder = p.encoder → Lawful P t.history →
      (q.encoder = none → frame.format = .mjpeg → Untouched t.history frame) →
      Lawful P (q.publishFrame io frame t).2.2.history) :
    Lawful P (p.processOneFrame io s).2.2.history := by
  unfold processOneFrame
  cases hn : p.captureNode with
  | none => exact hs
  | some node =>
    dsimp only
    cases hx : s.call (node.capture io p.config.captureTimeoutMs) with
    | mk ret s₁ =>
      have h₁ : s₁.history = s.history := (Shared.outside_of_call hx).history
      cases ret with
      | error e => exact h₁ ▸ hs
      | ok frame =>
        dsimp only
        generalize hp : ({ p with stats.capturedFrames := p.stats.capturedFrames + 1 } :
          MediaPipeline) = p₁
        have hpe : p₁.encoder = p.encoder := by rw [← hp]
        have hs₂ : Lawful P (s₁.record (.captured frame)).history := by
          refine (lawful_concat _ _).mpr ⟨h₁ ▸ hs, hP _ _ ?_⟩
          rintro _ ⟨⟩
        have hl := p₁.prepareFrameForPipeline_lawful io hP frame hs₂
        have he := p₁.prepareFrameForPipeline_encoder io (s₁.record (.captured frame)) frame
        cases hy : p₁.prepareFrameForPipeline io frame (s₁.record (.captured frame)) with
        | mk prepared rest =>
          obtain ⟨p₂, s₂⟩ := rest
          rw [hy] at hl he
          cases prepared with
          | error e => exact hl
          | ok out =>
            refine hpublish p₂ s₂ out (he.trans hpe) hl fun hn hf ↦ ?_
            exact prepareFrameForPipeline_untouched (he.symm.trans hn)
              (Shared.record_history _ _) hy hf

theorem runLoopTurn_lawful (hs : Lawful Labelled s.history) :
    Lawful Labelled (p.runLoopTurn io s).2.history := by
  have h := p.processOneFrame_lawful io labelled_onPushes hs
    fun _ _ _ _ hl hm ↦ publishFrame_lawful hl hm
  unfold runLoopTurn
  split <;> rename_i hx <;> rw [hx] at h <;> exact h

end MediaPipeline

namespace PipelineSystem

theorem step_lawful (system : PipelineSystem ω) (call : PipelineCall)
    (h : Lawful Labelled system.2.history) : Lawful Labelled (step io system call).2.history := by
  obtain ⟨p, s⟩ := system
  unfold step
  dsimp only
  split
  · exact h
  · cases call with
    | init config context => exact (p.init_outside io s config context).history.symm ▸ h
    | start => exact p.start_history.symm ▸ h
    | stop => exact p.stop_history.symm ▸ h
    | work =>
      dsimp only
      split
      · exact MediaPipeline.runLoopTurn_lawful h
      · exact h

/-- Whatever the configuration, the cameras and the codecs do, and in whatever
order the pipeline is used, each frame it pushes is the encoder's output for an
NV12 frame, or a captured MJPEG frame as it was captured. -/
theorem pushed_frames_labelled (io : MediaIo ω) (mainStream : MainStream) (events : List Event)
    (outside : ω) (calls : List PipelineCall) :
    Lawful Labelled (run io (fresh mainStream events outside) calls).2.history :=
  Library.Runs.exec_invariant
    (I := fun system : PipelineSystem ω ↦ Lawful Labelled system.2.history)
    step_lawful lawful_nil calls

end PipelineSystem

end TriFusion.Media
