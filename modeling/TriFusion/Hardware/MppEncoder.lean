import TriFusion.Hardware.NalUnits
import TriFusion.Media.Codec

namespace TriFusion.Hardware.Mpp

open Foundation Device Media

inductive MppCodingType
  | avc
  | hevc
  | unused
  deriving DecidableEq, Repr

def toMppCoding : MppCodec → MppCodingType
  | .h264 => .avc
  | .h265 => .hevc
  | .mjpeg => .unused

/-- A value of the encoder configuration: a number, or one the SDK headers name. -/
inductive CfgValue
  | s32 (value : Int32)
  | yuv420sp
  | cbr
  | coding (type : MppCodingType)
  deriving DecidableEq

structure EncoderInput where
  width : UInt32
  height : UInt32
  horStride : UInt32
  verStride : UInt32
  ptsMs : Int64
  buffer : List UInt8
  deriving DecidableEq

/-- The MPP library. A `Bool` says that a call answers `MPP_OK`, an `Option` is
`none` where it does not or hands out a null pointer; a context is known by a
number. The calls that free a buffer, a frame, a packet or a configuration at the
end of the function that got it answer nothing and are left out. -/
structure MppSdk (ω : Type) where
  create : ω → Option ℕ × ω
  init : ℕ → MppCodingType → ω → Bool × ω
  destroy : ℕ → ω → ω
  encCfgInit : ω → Bool × ω
  setCfg : ℕ → List (Text × CfgValue) → ω → Bool × ω
  getExtraInfo : ℕ → ω → Option (List UInt8) × ω
  bufferGet : UInt64 → ω → Bool × ω
  frameInit : ω → Bool × ω
  encodePutFrame : ℕ → EncoderInput → ω → Bool × ω
  encodeGetPacket : ℕ → ω → Bool × Option (List UInt8) × ω

def MppSdk.steady (extra bytes : List UInt8) : MppSdk Unit where
  create w := (some 0, w)
  init _ _ w := (true, w)
  destroy _ := id
  encCfgInit w := (true, w)
  setCfg _ _ w := (true, w)
  getExtraInfo _ w := (some extra, w)
  bufferGet _ w := (true, w)
  frameInit w := (true, w)
  encodePutFrame _ _ w := (true, w)
  encodeGetPacket _ w := (true, some bytes, w)

/-- `ctx` stands for `ctx_` and `mpi_`, which are set and reset together. -/
structure MppEncoder where
  config : MppEncoderConfig := {}
  ctx : Option ℕ := none
  initialized : Bool := false
  h264ExtraInfo : List UInt8 := []
  prependExtraInfoOnKeyFrame : Bool := true
  deriving DecidableEq

namespace MppEncoder

variable {ω : Type} (sdk : MppSdk ω)

def horStride (config : MppEncoderConfig) : UInt32 :=
  if config.horStride = 0 then config.width else config.horStride

def verStride (config : MppEncoderConfig) : UInt32 :=
  if config.verStride = 0 then config.height else config.verStride

def encCfg (config : MppEncoderConfig) : List (Text × CfgValue) :=
  let fps := if config.fps = 0 then 30 else config.fps
  let gop := if config.gop = 0 then fps else config.gop
  let bitrateKbps := if config.bitrateKbps = 0 then 2048 else config.bitrateKbps
  let bitrateKbps := if bitrateKbps < 256 then 256 else bitrateKbps
  let bitrateKbps := if 8192 < bitrateKbps then 8192 else bitrateKbps
  let bitrate := bitrateKbps * 1000
  let common : List (Text × CfgValue) :=
    [("prep:width", .s32 config.width.toInt32),
      ("prep:height", .s32 config.height.toInt32),
      ("prep:hor_stride", .s32 (horStride config).toInt32),
      ("prep:ver_stride", .s32 (verStride config).toInt32),
      ("prep:format", .yuv420sp),
      ("rc:mode", .cbr),
      ("rc:bps_target", .s32 bitrate.toInt32),
      ("rc:bps_max", .s32 (bitrate * 11 / 10).toInt32),
      ("rc:bps_min", .s32 (bitrate * 9 / 10).toInt32),
      ("rc:fps_in_flex", .s32 0),
      ("rc:fps_in_num", .s32 fps.toInt32),
      ("rc:fps_in_denorm", .s32 1),
      ("rc:fps_out_flex", .s32 0),
      ("rc:fps_out_num", .s32 fps.toInt32),
      ("rc:fps_out_denorm", .s32 1),
      ("rc:gop", .s32 gop.toInt32),
      ("codec:type", .coding (toMppCoding config.codec))]
  let h264 : List (Text × CfgValue) :=
    [("h264:profile", .s32 100),
      ("h264:level", .s32 40),
      ("h264:qp_init", .s32 30),
      ("h264:qp_max", .s32 44),
      ("h264:qp_min", .s32 24),
      ("h264:qp_max_i", .s32 42),
      ("h264:qp_min_i", .s32 22)]
  if config.codec = .h264 then common ++ h264 else common

def release (e : MppEncoder) (w : ω) : MppEncoder × ω :=
  ({ e with ctx := none, initialized := false },
    match e.ctx with
    | none => w
    | some ctx => sdk.destroy ctx w)

/-- The header of an H264 stream; a packet without bytes leaves it empty. -/
def readExtraInfo (config : MppEncoderConfig) (ctx : ℕ) (w : ω) : List UInt8 × ω :=
  if config.codec = .h264 then
    let (extra, w) := sdk.getExtraInfo ctx w
    (extra.getD [], w)
  else ([], w)

def init (config : MppEncoderConfig) (e : MppEncoder) (w : ω) : Result Unit × MppEncoder × ω :=
  let (e, w) := e.release sdk w
  let e := { e with config := config }
  match sdk.create w with
  | (none, w) => (.fail .ioError "mpp_create encoder failed", e, w)
  | (some ctx, w) =>
    match sdk.init ctx (toMppCoding config.codec) w with
    | (false, w) => (.fail .ioError "mpp_init encoder failed", e, sdk.destroy ctx w)
    | (true, w) =>
      match sdk.encCfgInit w with
      | (false, w) => (.fail .ioError "mpp_enc_cfg_init failed", e, sdk.destroy ctx w)
      | (true, w) =>
        match sdk.setCfg ctx (encCfg config) w with
        | (false, w) => (.fail .ioError "MPP_ENC_SET_CFG failed", e, sdk.destroy ctx w)
        | (true, w) =>
          let (extra, w) := readExtraInfo sdk config ctx w
          (.ok (), { e with ctx := some ctx, h264ExtraInfo := extra, initialized := true }, w)

def emit (data : List UInt8) (ptsMs : UInt64) (e : MppEncoder) : MppEncodedPacket :=
  let keyFrame := decide (e.config.codec = .h264) && hasH264Idr data
  { codec := e.config.codec
    ptsMs := ptsMs
    keyFrame := keyFrame
    data :=
      if e.config.codec = .h264 ∧ e.prependExtraInfoOnKeyFrame = true ∧ keyFrame = true ∧
          e.h264ExtraInfo ≠ [] ∧ hasSpsNal data = false then
        e.h264ExtraInfo ++ data
      else data }

def encoderInput (data : List UInt8) (ptsMs : UInt64) (e : MppEncoder) : EncoderInput where
  width := e.config.width
  height := e.config.height
  horStride := horStride e.config
  verStride := verStride e.config
  ptsMs := ptsMs.toInt64
  buffer :=
    data.take (MppH264Encoder.nv12Bytes (horStride e.config) (verStride e.config)).toNat

/-- Data without bytes has a null address. -/
def encodeNv12 (data : List UInt8) (ptsMs : UInt64) (e : MppEncoder) (w : ω) :
    Result MppEncodedPacket × ω :=
  match e.initialized, e.ctx with
  | true, some ctx =>
    let expected := MppH264Encoder.nv12Bytes (horStride e.config) (verStride e.config)
    if data = [] ∨ data.length < expected.toNat then
      (.fail .invalidArgument "NV12 input too small", w)
    else
      match sdk.bufferGet expected w with
      | (false, w) => (.fail .ioError "mpp_buffer_get failed", w)
      | (true, w) =>
        match sdk.frameInit w with
        | (false, w) => (.fail .ioError "mpp_frame_init failed", w)
        | (true, w) =>
          match sdk.encodePutFrame ctx (e.encoderInput data ptsMs) w with
          | (false, w) => (.fail .ioError "encode_put_frame failed", w)
          | (true, w) =>
            match sdk.encodeGetPacket ctx w with
            | (false, _, w) => (.fail .ioError "encode_get_packet failed", w)
            | (true, none, w) => (.fail .ioError "encode_get_packet returned null packet", w)
            | (true, some bytes, w) => (.ok (e.emit bytes ptsMs), w)
  | _, _ => (.fail .notInitialized "MPP encoder not initialized", w)

theorem horStride_of_eq {config : MppEncoderConfig}
    (h : config.horStride = config.width) : horStride config = config.width := by
  unfold horStride
  split
  · rfl
  · exact h

theorem verStride_of_eq {config : MppEncoderConfig}
    (h : config.verStride = config.height) : verStride config = config.height := by
  unfold verStride
  split
  · rfl
  · exact h

variable {e : MppEncoder} {data : List UInt8} {ptsMs : UInt64} {w w' : ω}

theorem init_config {config : MppEncoderConfig} {e' : MppEncoder}
    (h : e.init sdk config w = (.ok (), e', w')) : e'.config = config := by
  unfold init at h
  dsimp only at h
  split at h
  · cases h
  · split at h
    · cases h
    · split at h
      · cases h
      · split at h
        · cases h
        · cases h
          rfl

theorem encodeNv12_room {packet : MppEncodedPacket}
    (h : (e.encodeNv12 sdk data ptsMs w).1 = .ok packet) :
    (MppH264Encoder.nv12Bytes (horStride e.config) (verStride e.config)).toNat ≤ data.length := by
  unfold encodeNv12 at h
  split at h
  · dsimp only at h
    split at h
    · cases h
    · rename_i hroom
      exact not_lt.mp fun hlt ↦ hroom (.inr hlt)
  · cases h

theorem init_steady (extra bytes : List UInt8) (config : MppEncoderConfig) (e : MppEncoder) :
    ∃ e', e.init (.steady extra bytes) config () = (.ok (), e', ()) ∧ e'.initialized = true ∧
      e'.ctx = some 0 := by
  unfold init readExtraInfo
  dsimp only [MppSdk.steady]
  split <;> exact ⟨_, rfl, rfl, rfl⟩

variable (ptsMs) in
theorem encodeNv12_steady (extra bytes : List UInt8) (hready : e.initialized = true)
    (hctx : e.ctx = some 0) (hdata : data ≠ [])
    (hroom : (MppH264Encoder.nv12Bytes (horStride e.config) (verStride e.config)).toNat ≤
      data.length) :
    e.encodeNv12 (.steady extra bytes) data ptsMs () = (.ok (e.emit bytes ptsMs), ()) := by
  unfold encodeNv12
  rw [hready, hctx]
  dsimp only [MppSdk.steady]
  rw [if_neg]
  intro h
  rcases h with h | h
  · exact hdata h
  · exact not_lt.mpr hroom h

theorem encodeNv12_ok {packet : MppEncodedPacket}
    (h : e.encodeNv12 sdk data ptsMs w = (.ok packet, w')) :
    ∃ ctx w₁ bytes, e.ctx = some ctx ∧ sdk.encodeGetPacket ctx w₁ = (true, some bytes, w') ∧
      packet = e.emit bytes ptsMs := by
  unfold encodeNv12 at h
  split at h
  · rename_i ctx _ hctx
    dsimp only at h
    split at h
    · cases h
    · split at h
      · cases h
      · split at h
        · cases h
        · split at h
          · cases h
          · split at h
            · cases h
            · cases h
            · rename_i w₁ bytes w₂ hget
              cases h
              exact ⟨ctx, _, bytes, hctx, hget, rfl⟩
  · cases h

theorem emit_keyFrame_sps (hextra : hasSpsNal e.h264ExtraInfo = true)
    (hprepend : e.prependExtraInfoOnKeyFrame = true) (hcodec : e.config.codec = .h264)
    (bytes : List UInt8) (hk : (e.emit bytes ptsMs).keyFrame = true) :
    hasSpsNal (e.emit bytes ptsMs).data = true ∧
      ((e.emit bytes ptsMs).data = bytes ∨
        (e.emit bytes ptsMs).data = e.h264ExtraInfo ++ bytes) := by
  have hne : e.h264ExtraInfo ≠ [] := by
    intro hnil
    rw [hnil] at hextra
    cases hextra
  cases hs : hasSpsNal bytes with
  | true =>
    have hd : (e.emit bytes ptsMs).data = bytes := if_neg fun hc ↦ by simp [hs] at hc
    rw [hd]
    exact ⟨hs, .inl rfl⟩
  | false =>
    have hd : (e.emit bytes ptsMs).data = e.h264ExtraInfo ++ bytes :=
      if_pos ⟨hcodec, hprepend, hk, hne, hs⟩
    rw [hd]
    exact ⟨hasSpsNal_append bytes hextra, .inr rfl⟩

theorem emit_data_of_not_keyFrame (bytes : List UInt8)
    (hk : (e.emit bytes ptsMs).keyFrame = false) : (e.emit bytes ptsMs).data = bytes := by
  refine if_neg fun hc ↦ ?_
  exact absurd (hk.symm.trans hc.2.2.1) Bool.false_ne_true

/-- A key frame can be decoded on its own, and no other packet is touched. -/
theorem keyFrame_selfContained (hcodec : e.config.codec = .h264)
    (hprepend : e.prependExtraInfoOnKeyFrame = true)
    (hextra : hasSpsNal e.h264ExtraInfo = true) {packet : MppEncodedPacket}
    (h : e.encodeNv12 sdk data ptsMs w = (.ok packet, w')) :
    ∃ ctx w₁ bytes, e.ctx = some ctx ∧ sdk.encodeGetPacket ctx w₁ = (true, some bytes, w') ∧
      (packet.keyFrame = true → hasSpsNal packet.data = true ∧
        (packet.data = bytes ∨ packet.data = e.h264ExtraInfo ++ bytes)) ∧
      (packet.keyFrame = false → packet.data = bytes) := by
  obtain ⟨ctx, w₁, bytes, hctx, hget, rfl⟩ := encodeNv12_ok sdk h
  refine ⟨ctx, w₁, bytes, hctx, hget, ?_, ?_⟩
  · exact emit_keyFrame_sps hextra hprepend hcodec bytes
  · exact emit_data_of_not_keyFrame bytes

theorem keyFrame_selfContained_idr :
    ∃ ctx w₁ bytes, some 0 = some ctx ∧
      (MppSdk.steady [] [0, 0, 0, 1, 0x65, 0x88]).encodeGetPacket ctx w₁ = (true, some bytes, ()) ∧
      (true = true → hasSpsNal [0, 0, 0, 1, 0x67, 0, 0, 0, 1, 0x65, 0x88] = true ∧
        ([0, 0, 0, 1, 0x67, 0, 0, 0, 1, 0x65, 0x88] = bytes ∨
          [0, 0, 0, 1, 0x67, 0, 0, 0, 1, 0x65, 0x88] = [0, 0, 0, 1, 0x67] ++ bytes)) ∧
      (true = false → [0, 0, 0, 1, 0x67, 0, 0, 0, 1, 0x65, 0x88] = bytes) := by
  have h : encodeNv12 (MppSdk.steady [] [0, 0, 0, 1, 0x65, 0x88]) [16, 16, 16, 16, 128, 128] 40
      { config := { width := 2, height := 2, horStride := 2, verStride := 2 },
        ctx := some 0, initialized := true, h264ExtraInfo := [0, 0, 0, 1, 0x67] } () =
      (.ok ⟨.h264, [0, 0, 0, 1, 0x67, 0, 0, 0, 1, 0x65, 0x88], 40, true⟩, ()) := by decide
  exact keyFrame_selfContained _ rfl rfl (by decide) h

end MppEncoder

end TriFusion.Hardware.Mpp
