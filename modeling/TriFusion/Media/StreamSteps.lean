import Mathlib.Data.List.DropRight
import TriFusion.Media.PipelineSteps
import TriFusion.Media.StreamAccounting

namespace TriFusion.Media

open Foundation Hardware Device Library

variable {ω : Type} {io : MediaIo ω}

namespace MainStream

variable {s s' s₁ : MainStream}

def SameButState (s s' : MainStream) : Prop := s' = { s with state := s'.state }

theorem SameButState.refl (s : MainStream) : s.SameButState s := rfl

theorem SameButState.of_eq (h : s' = s) : s.SameButState s' := h ▸ .refl s'

theorem SameButState.trans (h : s.SameButState s₁) (h' : s₁.SameButState s') :
    s.SameButState s' := by
  unfold SameButState at *
  rw [h', h]

theorem SameButState.frames (h : s.SameButState s') : s'.frames = s.frames := by rw [h]

theorem SameButState.framesIn (h : s.SameButState s') :
    s'.stats.framesIn = s.stats.framesIn := by rw [h]

/-- The frames a stream has accepted between two moments are the last it holds. -/
def acceptedBetween (s s' : MainStream) : List EncodedFrame :=
  s'.frames.rtake (s'.stats.framesIn - s.stats.framesIn).toNat

theorem SameButState.acceptedBetween (h : s.SameButState s') : s.acceptedBetween s' = [] := by
  unfold MainStream.acceptedBetween
  rw [h.framesIn, UInt64.sub_self, UInt64.toNat_zero, List.rtake_zero]

theorem push_cases (s : MainStream) (frame : EncodedFrame) :
    (s.push frame).2 = s ∨
      ∃ n, (s.push frame).2.frames = s.frames.drop n ++ [frame] ∧
        s.acceptedBetween (s.push frame).2 = [frame] := by
  by_cases hr : s.state = .running
  · obtain ⟨n, -, he⟩ := makeRoom_eq s.capacity s.frames s.stats.framesDropped
    have hf : (s.push frame).2.frames = s.frames.drop n ++ [frame] := by
      simp only [push, hr, ne_eq, not_true_eq_false, ↓reduceIte, he]
    have hi : (s.push frame).2.stats.framesIn = s.stats.framesIn + 1 := by
      simp only [push, hr, ne_eq, not_true_eq_false, ↓reduceIte]
    refine .inr ⟨n, hf, ?_⟩
    unfold acceptedBetween
    rw [hi, hf, UInt64.add_comm, UInt64.add_sub_cancel, UInt64.toNat_one, List.rtake_concat_succ,
      List.rtake_zero]
    rfl
  · exact .inl (congrArg Prod.snd (push_refused hr frame))

end MainStream

namespace MediaPipeline

variable {p : MediaPipeline} {s s' : Shared ω}

variable (io p s) in
theorem start_stream : s.mainStream.SameButState (p.start io s).2.2.mainStream := by
  have hc := (p.startCaptureNodes_outside io s).mainStream
  unfold start
  split
  · exact .refl _
  · split <;> rename_i hx <;> rw [hx] at hc
    · exact .of_eq hc
    · split
      · exact .of_eq hc
      · dsimp only
        have hs := (MainStream.SameButState.of_eq hc).trans
          (show MainStream.SameButState _ (MainStream.start _) from rfl)
        split
        · exact hs
        · rw [publishEvent_mainStream]
          exact hs

variable (io p s) in
theorem stop_stream : s.mainStream.SameButState (p.stop io s).2.mainStream := by
  rw [stop_mainStream]
  split
  · exact rfl
  · exact .refl _

theorem pushEncoded_stream (encoded : EncodedFrame) :
    (pushEncoded encoded p s).2.2.mainStream = s.mainStream ∨
      ∃ frame, (pushEncoded encoded p s).2.2.mainStream = (s.mainStream.push frame).2 := by
  unfold pushEncoded
  dsimp only
  split
  · exact .inl rfl
  · exact .inr ⟨encoded, rfl⟩

variable (io s) in
theorem publishFrame_stream (frame : VideoFrame) :
    (p.publishFrame io frame s).2.2.mainStream = s.mainStream ∨
      ∃ frame', (p.publishFrame io frame s).2.2.mainStream = (s.mainStream.push frame').2 := by
  unfold publishFrame
  split
  · dsimp only
    split
    · exact .inl rfl
    · exact pushEncoded_stream _
  · split
    · exact .inl rfl
    · split
      · exact .inl rfl
      · dsimp only
        split <;> exact pushEncoded_stream _

variable (io p s) in
theorem prepareFrameForPipeline_stream (frame : VideoFrame) :
    (p.prepareFrameForPipeline io frame s).2.2.mainStream = s.mainStream := by
  have hraw (q : MediaPipeline) (t : Shared ω) (f : VideoFrame) :
      (q.prepareRaw io f t).2.mainStream = t.mainStream := by
    unfold prepareRaw prepareFrameForEncoder
    split
    · split
      · rfl
      · split
        · rfl
        · split <;> rename_i hx <;> exact (Shared.outside_of_call hx).mainStream
    · rfl
  unfold prepareFrameForPipeline
  split
  · rfl
  · split
    · split
      · split <;> rename_i hx
        · exact (Shared.outside_of_call hx).mainStream
        · exact (hraw _ _ _).trans (Shared.outside_of_call hx).mainStream
      · split <;> rfl
    · exact hraw _ _ _

variable (io p s) in
theorem processOneFrame_stream :
    (p.processOneFrame io s).2.2.mainStream = s.mainStream ∨
      ∃ frame, (p.processOneFrame io s).2.2.mainStream = (s.mainStream.push frame).2 := by
  unfold processOneFrame
  split
  · exact .inl rfl
  · split <;> rename_i hx <;> have hs := (Shared.outside_of_call hx).mainStream
    · exact .inl hs
    · rename_i frame s₁
      dsimp only
      have hp := prepareFrameForPipeline_stream io
        { p with stats.capturedFrames := p.stats.capturedFrames + 1 }
        (s₁.record (.captured frame)) frame
      split <;> rename_i hy <;> rw [hy] at hp <;> have hp := hp.trans hs
      · exact .inl hp
      · rw [← hp]
        exact publishFrame_stream io _ _

variable (io p s) in
theorem runLoopTurn_stream :
    (p.runLoopTurn io s).2.mainStream = s.mainStream ∨
      ∃ frame, (p.runLoopTurn io s).2.mainStream = (s.mainStream.push frame).2 := by
  have h := p.processOneFrame_stream io s
  unfold runLoopTurn
  split <;> rename_i hx <;> rw [hx] at h <;> exact h

end MediaPipeline

namespace PipelineBuilder

variable (io : MediaIo ω) in
theorem build_stream (config : PipelineConfig) (context : PipelineContext) (s : Shared ω) :
    s.mainStream.SameButState (build io config context s).2.mainStream := by
  have hm := (MediaPipeline.init_outside io {} s config context).mainStream
  unfold build
  split <;> rename_i hi <;> rw [hi] at hm
  · exact (MainStream.SameButState.of_eq hm).trans (MediaPipeline.stop_stream io _ _)
  · exact .of_eq hm

end PipelineBuilder

end TriFusion.Media
