import TriFusion.Media.WorkerHandle

namespace TriFusion.Media

open Foundation Hardware Device

variable {ω : Type} {io : MediaIo ω} {frame out : VideoFrame}

def SameIdentity (frame out : VideoFrame) : Prop :=
  out.source = frame.source ∧ out.sequence = frame.sequence ∧ out.ptsMs = frame.ptsMs ∧
    out.metadata = frame.metadata

theorem SameIdentity.refl (frame : VideoFrame) : SameIdentity frame frame := ⟨rfl, rfl, rfl, rfl⟩

def Unlabelled (frame : VideoFrame) : Prop := frame.source = .visible ∧ frame.metadata = []

theorem Decoder.decode_ok {decoder : Decoder} {w w' : ω}
    (h : decoder.decode io frame w = (.ok out, w')) :
    SameIdentity frame out ∧ (frame.format = .mjpeg → out.format ≠ .yuyv422) := by
  cases decoder with
  | mjpeg =>
    cases h
    refine ⟨.refl frame, fun hf ↦ ?_⟩
    rw [hf]
    decide
  | mppMjpeg bound =>
    dsimp only [decode] at h
    split at h
    · cases h
    · split at h
      · cases h
      · rename_i decoded _ _
        cases h
        refine ⟨⟨rfl, rfl, rfl, rfl⟩, fun _ ↦ ?_⟩
        change VideoPixelFormat.ofMpp decoded.format ≠ .yuyv422
        cases decoded.format <;> decide

namespace FormatConvertNode

/-- The checks of the conversion, and of the RGA below it, let the frame through. -/
def Convertible (frame : VideoFrame) : Prop :=
  frame.width ≠ 0 ∧ frame.height ≠ 0 ∧ frame.data ≠ [] ∧
    (yuyvBytes frame.width frame.height).toNat ≤ frame.data.length ∧
    MppH264Encoder.nv12Bytes frame.width frame.height ≠ 0

theorem convertYuyv422ToNv12_ok {w w' : ω}
    (h : convertYuyv422ToNv12 io frame w = (.ok out, w')) :
    Convertible frame ∧ out.source = .visible ∧ out.sequence = frame.sequence ∧
      out.ptsMs = frame.ptsMs ∧ out.metadata = [] := by
  unfold convertYuyv422ToNv12 at h
  split at h
  · cases h
  · rename_i hsize
    split at h
    · cases h
    · rename_i hroom
      dsimp only at h
      split at h
      · cases h
      · rename_i bytes _ hrga
        cases h
        refine ⟨?_, rfl, rfl, rfl, rfl⟩
        unfold RgaConverter.convert at hrga
        split at hrga
        · cases hrga
        · rename_i hnull
          obtain ⟨hsrc, hdst⟩ := not_or.mp hnull
          obtain ⟨hw, hh⟩ := not_or.mp hsize
          refine ⟨hw, hh, hsrc, not_lt.mp hroom, fun hz ↦ hdst ?_⟩
          change List.replicate _ _ = []
          rw [hz]
          rfl

theorem process_ok {node : FormatConvertNode} {w w' : ω}
    (h : node.process io frame w = (.ok out, w')) :
    out = frame ∨ node.target = .nv12 ∧ frame.format = .yuyv422 ∧ Convertible frame ∧
      out.source = .visible ∧ out.sequence = frame.sequence ∧ out.ptsMs = frame.ptsMs ∧
      out.metadata = [] := by
  unfold process at h
  split at h
  · cases h
    exact .inl rfl
  · split at h
    · rename_i hc
      exact .inr ⟨hc.1, hc.2, convertYuyv422ToNv12_ok h⟩
    · split at h <;> cases h

theorem process_yuyv (hf : frame.format = .yuyv422) (w : ω) :
    process io frame ⟨.nv12⟩ w = convertYuyv422ToNv12 io frame w := by
  unfold process
  rw [hf, if_neg (by decide), if_pos ⟨rfl, rfl⟩]

end FormatConvertNode

namespace MediaPipeline

def Converts (p : MediaPipeline) (frame : VideoFrame) : Prop :=
  frame.format = .yuyv422 ∧ p.encoder.isSome = true ∧ p.formatConvert = some ⟨.nv12⟩ ∧
    p.config.encoderInputFormat ≠ .yuyv422 ∧ FormatConvertNode.Convertible frame

/-- Whatever the decoder and the converter do, a frame that is prepared keeps its identity. -/
def KeepsIdentity (p : MediaPipeline) (frame : VideoFrame) : Prop :=
  ∀ (ω : Type) (io : MediaIo ω) (s : Shared ω) (out : VideoFrame),
    (p.prepareFrameForPipeline io frame s).1 = .ok out → SameIdentity frame out

variable {p : MediaPipeline} {s : Shared ω}

theorem prepareRaw_ok (h : (p.prepareRaw io frame s).1 = .ok out) :
    out = frame ∨ p.Converts frame ∧ out.source = .visible ∧ out.sequence = frame.sequence ∧
      out.ptsMs = frame.ptsMs ∧ out.metadata = [] := by
  unfold prepareRaw at h
  split at h
  · rename_i henc
    unfold prepareFrameForEncoder at h
    split at h
    · cases h
      exact .inl rfl
    · rename_i hformat
      split at h
      · cases h
      · rename_i node hnode
        split at h
        · cases h
        · rename_i converted s' hx
          cases h
          rcases FormatConvertNode.process_ok (Shared.call_eq hx) with
            heq | ⟨htarget, hyuyv, hconv, hid⟩
          · exact .inl heq
          · refine .inr ⟨⟨hyuyv, henc, ?_, ?_, hconv⟩, hid⟩
            · rw [hnode, ← htarget]
            · rw [← hyuyv]
              exact Ne.symm hformat
  · cases h
    exact .inl rfl

theorem prepareFrameForPipeline_identity (hk : p.Converts frame → Unlabelled frame)
    (h : (p.prepareFrameForPipeline io frame s).1 = .ok out) : SameIdentity frame out := by
  unfold prepareFrameForPipeline at h
  split at h
  · cases h
  · split at h
    · rename_i hmjpeg
      split at h
      · split at h
        · cases h
        · rename_i decoded s' hx
          obtain ⟨hid, hformat⟩ := Decoder.decode_ok (Shared.call_eq hx)
          rcases prepareRaw_ok h with rfl | ⟨hc, -⟩
          · exact hid
          · exact absurd hc.1 (hformat hmjpeg)
      · split at h
        · cases h
        · cases h
          exact .refl frame
    · rcases prepareRaw_ok h with rfl | ⟨hc, hsource, hseq, hpts, hmeta⟩
      · exact .refl out
      · obtain ⟨hv, hm⟩ := hk hc
        exact ⟨hsource.trans hv.symm, hseq, hpts, hmeta.trans hm.symm⟩

def converting : MediaIo Unit :=
  { PipelineSystem.unplugged with imcvtcolor := fun _ dst w ↦ (.ok dst.data, w) }

theorem convert_converting (h : FormatConvertNode.Convertible frame) :
    ∃ out, FormatConvertNode.convertYuyv422ToNv12 converting frame () = (.ok out, ()) := by
  obtain ⟨hw, hh, hsrc, hroom, hdst⟩ := h
  have hsize : ¬(frame.width = 0 ∨ frame.height = 0) := not_or.mpr ⟨hw, hh⟩
  have hbytes : List.replicate (MppH264Encoder.nv12Bytes frame.width frame.height).toNat
      (0 : UInt8) ≠ [] := by
    rw [Ne, List.replicate_eq_nil_iff]
    exact fun hz ↦ hdst (UInt64.toNat.inj hz)
  unfold FormatConvertNode.convertYuyv422ToNv12 RgaConverter.convert
  rw [if_neg hsize, if_neg (not_lt.mpr hroom)]
  dsimp only
  rw [if_neg (not_or.mpr ⟨hsrc, hbytes⟩), if_neg (by tauto)]
  exact ⟨_, rfl⟩

theorem prepareFrameForPipeline_converting (h : p.Converts frame) :
    ∃ out, (p.prepareFrameForPipeline converting frame { outside := () }).1 = .ok out ∧
      out.source = .visible ∧ out.metadata = [] := by
  obtain ⟨hyuyv, henc, hnode, hinput, hconv⟩ := h
  obtain ⟨out, hout⟩ := convert_converting hconv
  obtain ⟨-, hsource, -, -, hmeta⟩ := FormatConvertNode.convertYuyv422ToNv12_ok hout
  refine ⟨out, ?_, hsource, hmeta⟩
  have hcall : Shared.call (FormatConvertNode.process converting frame ⟨.nv12⟩) { outside := () } =
      (.ok out, { outside := () }) := by
    unfold Shared.call
    rw [FormatConvertNode.process_yuyv hyuyv, hout]
  unfold prepareFrameForPipeline prepareRaw prepareFrameForEncoder
  rw [if_neg (by simp [hyuyv]), if_neg (by simp [hyuyv]), if_pos henc,
    if_neg (by simp [hyuyv, Ne.symm hinput]), hnode]
  dsimp only
  rw [hcall]

/-- Identity survives the preparation when the frame is not converted from YUYV,
or has no label to lose. -/
theorem keepsIdentity_iff (p : MediaPipeline) (frame : VideoFrame) :
    p.KeepsIdentity frame ↔ ¬p.Converts frame ∨ Unlabelled frame := by
  constructor
  · intro h
    refine or_iff_not_imp_left.mpr fun hc ↦ ?_
    obtain ⟨out, hout, hsource, hmeta⟩ := prepareFrameForPipeline_converting (not_not.mp hc)
    obtain ⟨hs, -, -, hm⟩ := h Unit converting { outside := () } out hout
    exact ⟨hs.symm.trans hsource, hm.symm.trans hmeta⟩
  · intro h ω io s out hout
    refine prepareFrameForPipeline_identity (fun hc ↦ ?_) hout
    exact h.resolve_left (not_not_intro hc)

theorem keepsIdentity_thermal :
    let p := (MediaPipeline.init PipelineSystem.unplugged
      { useEncoder := true, useFormatConvert := true }
      { cameraManager := some {}, mainStream := true, encoder := true } {}
      { outside := () }).2.1
    p.state = .initialized ∧ ¬p.KeepsIdentity
      { source := .compositeLowThermal, sequence := 7, width := 2, height := 2,
        format := .yuyv422, data := List.replicate 8 128, ptsMs := 40, metadata := [1] } := by
  refine ⟨by decide, fun h ↦ ?_⟩
  have hout := h Unit converting { outside := () }
    { source := .visible, sequence := 7, width := 2, height := 2, format := .nv12,
      data := List.replicate 6 0, ptsMs := 40 } (by decide)
  exact absurd hout.1 (by decide)

end MediaPipeline

end TriFusion.Media
