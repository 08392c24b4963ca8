import TriFusion.Hardware.MppEncoder
import TriFusion.Media.WorkerHandle

namespace TriFusion.Media

open Foundation Hardware Device
open Hardware.Mpp (MppSdk)

variable {ω α : Type}

abbrev WithMpp (ω : Type) := Mpp.MppEncoder × ω

def besideMpp (f : ω → α × ω) (w : WithMpp ω) : α × WithMpp ω :=
  ((f w.2).1, w.1, (f w.2).2)

/-- The calls of a pipeline whose encoder is a `MppEncoder` over the library `sdk`. -/
def MediaIo.onMpp (io : MediaIo ω) (sdk : MppSdk ω) : MediaIo (WithMpp ω) where
  startCamera id := besideMpp (io.startCamera id)
  stopCamera id := besideMpp (io.stopCamera id)
  readFrame id timeoutMs := besideMpp (io.readFrame id timeoutMs)
  decoderInit codec := besideMpp (io.decoderInit codec)
  decode packet := besideMpp (io.decode packet)
  decoderRelease w := (w.1, io.decoderRelease w.2)
  encoderInit config w := Mpp.MppEncoder.init sdk config w.1 w.2
  encodeNv12 data ptsMs w :=
    ((Mpp.MppEncoder.encodeNv12 sdk data ptsMs w.1 w.2).1, w.1,
      (Mpp.MppEncoder.encodeNv12 sdk data ptsMs w.1 w.2).2)
  encoderRelease w := Mpp.MppEncoder.release sdk w.1 w.2
  imcvtcolor src dst := besideMpp (io.imcvtcolor src dst)
  nowMs := besideMpp io.nowMs

namespace MppH264Encoder

def mppConfig (profile : StreamProfile) : MppEncoderConfig where
  codec := .h264
  inputFormat := .nv12
  width := profile.width
  height := profile.height
  horStride := profile.width
  verStride := profile.height
  fps := profile.fps
  bitrateKbps := profile.bitrateKbps
  gop := profile.gop
  lowLatency := true

def OwnGeometry (profile : StreamProfile) (frame : VideoFrame) : Prop :=
  frame.format = .nv12 ∧ frame.width = profile.width ∧ frame.height = profile.height

/-- One of the two size checks, or a check on the frame alone, stops the frame. -/
def Refuses (profile : StreamProfile) (frame : VideoFrame) : Prop :=
  frame.format ≠ .nv12 ∨ frame.width = 0 ∨ frame.height = 0 ∨ frame.data = [] ∨
    frame.data.length < (nv12Bytes frame.width frame.height).toNat ∨
    frame.data.length < (nv12Bytes profile.width profile.height).toNat

/-- After an `init` for the profile that succeeded, and whatever the object and
the hardware have been through since, the frame is encoded only if it has the
geometry of the profile. -/
def OnlyOwnGeometry (profile : StreamProfile) (frame : VideoFrame) : Prop :=
  ∀ (ω : Type) (io : MediaIo ω) (sdk : MppSdk ω) (n n' : MppH264Encoder) (w w' : WithMpp ω)
    (outside : ω) (out : EncodedFrame),
    n.init (io.onMpp sdk) profile w = (.ok (), w') →
    (n'.encode (io.onMpp sdk) frame (w'.1, outside)).1 = .ok out → OwnGeometry profile frame

variable {io : MediaIo ω} {sdk : MppSdk ω} {n : MppH264Encoder} {w w' : WithMpp ω}
  {profile : StreamProfile} {frame : VideoFrame}

theorem init_mppConfig (h : n.init (io.onMpp sdk) profile w = (.ok (), w')) :
    w'.1.config = mppConfig profile := by
  unfold init at h
  split at h
  · cases h
  · exact Mpp.MppEncoder.init_config sdk h

theorem encode_checks {out : EncodedFrame} (hw : w.1.config = mppConfig profile)
    (h : (n.encode (io.onMpp sdk) frame w).1 = .ok out) : ¬Refuses profile frame := by
  unfold encode at h
  split at h
  · cases h
  · split at h
    · cases h
    · rename_i hformat
      split at h
      · cases h
      · rename_i hframe
        split at h
        · cases h
        · rename_i hown
          split at h
          · cases h
          · rename_i packet _ hp
            have hroom := Mpp.MppEncoder.encodeNv12_room sdk (congrArg Prod.fst hp)
            rw [hw, Mpp.MppEncoder.horStride_of_eq rfl, Mpp.MppEncoder.verStride_of_eq rfl] at hroom
            intro hr
            rcases hr with hr | hr | hr | hr | hr | hr
            · exact hformat hr
            · exact hframe (.inl hr)
            · exact hframe (.inr (.inl hr))
            · exact hframe (.inr (.inr hr))
            · exact hown hr
            · exact not_lt.mpr hroom hr

theorem encode_steady (io : MediaIo Unit) {w : WithMpp Unit}
    (hw : w.1.config = mppConfig profile) (hready : w.1.initialized = true)
    (hctx : w.1.ctx = some 0) (hf : ¬Refuses profile frame) :
    ∃ out, (encode (io.onMpp (.steady [] [])) frame { bound := true } w).1 = .ok out := by
  unfold Refuses at hf
  push Not at hf
  obtain ⟨hformat, hwidth, hheight, hdata, hown, hroom⟩ := hf
  have hroom' : (nv12Bytes (Mpp.MppEncoder.horStride w.1.config)
      (Mpp.MppEncoder.verStride w.1.config)).toNat ≤ frame.data.length := by
    rw [hw, Mpp.MppEncoder.horStride_of_eq rfl, Mpp.MppEncoder.verStride_of_eq rfl]
    exact hroom
  have hp := Mpp.MppEncoder.encodeNv12_steady frame.ptsMs.toUInt64 [] [] hready hctx hdata hroom'
  unfold encode
  rw [if_neg (by decide), if_neg (not_not_intro hformat), if_neg (by simp [hwidth, hheight, hdata]),
    if_neg (not_lt.mpr hown)]
  dsimp only [MediaIo.onMpp]
  rw [hp]
  exact ⟨_, rfl⟩

/-- Only frames of the profile's geometry are encoded when the frame has that
geometry, or when a check stops it. -/
theorem onlyOwnGeometry_iff (profile : StreamProfile) (frame : VideoFrame) :
    OnlyOwnGeometry profile frame ↔ OwnGeometry profile frame ∨ Refuses profile frame := by
  constructor
  · intro h
    refine or_iff_not_imp_right.mpr fun hf ↦ ?_
    obtain ⟨e, hinit, hready, hctx⟩ :=
      Mpp.MppEncoder.init_steady [] [] (mppConfig profile) {}
    have hn : MppH264Encoder.init (PipelineSystem.unplugged.onMpp (.steady [] [])) profile
        { bound := true } ({}, ()) = (.ok (), e, ()) := by
      unfold init
      rw [if_neg (by decide)]
      exact hinit
    obtain ⟨out, hout⟩ := encode_steady PipelineSystem.unplugged (init_mppConfig hn) hready hctx hf
    exact h Unit PipelineSystem.unplugged (.steady [] []) _ _ _ _ () out hn hout
  · intro h ω io sdk n n' w w' outside out hinit hencode
    have hkept := init_mppConfig hinit
    exact h.resolve_right (encode_checks (w := (w'.1, outside)) hkept hencode)

theorem onlyOwnGeometry_upright :
    ¬OnlyOwnGeometry { width := 4, height := 2 }
      { width := 2, height := 4, format := .nv12, data := List.replicate 12 128 } := by
  intro h
  have hinit : MppH264Encoder.init (PipelineSystem.unplugged.onMpp (.steady [] []))
      { width := 4, height := 2 } { bound := true } ({}, ()) =
      (.ok (), { config := mppConfig { width := 4, height := 2 }, ctx := some 0,
                 initialized := true }, ()) := by decide
  have hout := h Unit PipelineSystem.unplugged (.steady [] []) _ { bound := true } _ _ ()
    { sequence := 1 } hinit (by decide)
  exact absurd hout.2.1 (by decide)

end MppH264Encoder

end TriFusion.Media
