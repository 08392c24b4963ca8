import TriFusion.Media.MainStream

namespace TriFusion.Media

open Foundation Hardware Device

structure MppEncoderConfig where
  codec : MppCodec := .h264
  inputFormat : MppPixelFormat := .nv12
  width : UInt32 := 800
  height : UInt32 := 600
  horStride : UInt32 := 800
  verStride : UInt32 := 600
  fps : UInt32 := 30
  gop : UInt32 := 30
  bitrateKbps : UInt32 := 2000
  lowLatency : Bool := true
  deriving DecidableEq

structure MppEncodedPacket where
  codec : MppCodec := .h264
  data : List UInt8 := []
  ptsMs : UInt64 := 0
  keyFrame : Bool := false
  deriving DecidableEq

inductive RgaPixelFormat
  | unknown
  | yuyv422
  | nv12
  | rgb888
  | bgr888
  | rgba8888
  deriving DecidableEq, Repr

/-- `data` is the memory behind `virAddr`; its length is `sizeBytes`. -/
structure RgaImageDesc where
  data : List UInt8
  width : UInt32
  height : UInt32
  horStride : UInt32
  verStride : UInt32
  format : RgaPixelFormat
  deriving DecidableEq

/-- What the nodes of a pipeline call out to: the cameras behind the camera
manager, the MPP decoder and encoder, the colour conversion of the RGA (which
answers with the bytes of the destination) and the clock. -/
structure MediaIo (ω : Type) where
  startCamera : CameraId → ω → Result Unit × ω
  stopCamera : CameraId → ω → Result Unit × ω
  readFrame : CameraId → Int32 → ω → Result CameraFrame × ω
  decoderInit : MppCodec → ω → Result Unit × ω
  decode : MppPacket → ω → Result MppFrame × ω
  decoderRelease : ω → ω
  encoderInit : MppEncoderConfig → ω → Result Unit × ω
  encodeNv12 : List UInt8 → UInt64 → ω → Result MppEncodedPacket × ω
  encoderRelease : ω → ω
  imcvtcolor : RgaImageDesc → RgaImageDesc → ω → Except Text (List UInt8) × ω
  nowMs : ω → Int64 × ω

variable {ω : Type} (io : MediaIo ω)

/-- The two classes behind `DecoderFactory`; `bound` says that the MPP decoder is not null. -/
inductive Decoder
  | mjpeg
  | mppMjpeg (bound : Bool)
  deriving DecidableEq, Repr

namespace Decoder

def init : Decoder → ω → Result Unit × ω
  | .mjpeg, w => (.ok (), w)
  | .mppMjpeg bound, w =>
    if !bound then
      (.fail .unsupported "MppMjpegDecoder requires a concrete hardware::mpp::MppDecoder", w)
    else io.decoderInit .mjpeg w

def decode (encoded : VideoFrame) : Decoder → ω → Result VideoFrame × ω
  | .mjpeg, w => (.ok encoded, w)
  | .mppMjpeg bound, w =>
    if !bound then (.fail .unsupported "MppMjpegDecoder is not bound", w)
    else
      match io.decode { codec := .mjpeg, data := encoded.data, ptsMs := encoded.ptsMs } w with
      | (.error e, w) => (.rethrow e, w)
      | (.ok frame, w) =>
        (.ok { fromMppFrame frame encoded.source encoded.ptsMs with
          sequence := encoded.sequence
          metadata := encoded.metadata }, w)

def release : Decoder → ω → ω
  | .mjpeg, w => w
  | .mppMjpeg bound, w => if bound then io.decoderRelease w else w

end Decoder

structure MppH264Encoder where
  bound : Bool := false
  sequence : UInt64 := 0
  deriving DecidableEq

namespace MppH264Encoder

def init (profile : StreamProfile) (n : MppH264Encoder) (w : ω) : Result Unit × ω :=
  if !n.bound then
    (.fail .unsupported "MppH264Encoder requires hardware::mpp::MppEncoder", w)
  else
    io.encoderInit
      { codec := .h264
        inputFormat := .nv12
        width := profile.width
        height := profile.height
        horStride := profile.width
        verStride := profile.height
        fps := profile.fps
        bitrateKbps := profile.bitrateKbps
        gop := profile.gop
        lowLatency := true } w

def nv12Bytes (width height : UInt32) : UInt64 := width.toUInt64 * height.toUInt64 * 3 / 2

def encode (frame : VideoFrame) (n : MppH264Encoder) (w : ω) :
    Result EncodedFrame × MppH264Encoder × ω :=
  if !n.bound then
    (.fail .unsupported "MppH264Encoder is not bound to hardware::mpp::MppEncoder", n, w)
  else if frame.format ≠ .nv12 then
    (.fail .unsupported
      ("MppH264Encoder requires NV12 input, got ".toList ++ frame.format.toText), n, w)
  else if frame.width = 0 ∨ frame.height = 0 ∨ frame.data = [] then
    (.fail .invalidArgument "MppH264Encoder input frame is invalid", n, w)
  else if frame.data.length < (nv12Bytes frame.width frame.height).toNat then
    (.fail .invalidArgument "MppH264Encoder NV12 frame data is too small", n, w)
  else
    match io.encodeNv12 frame.data frame.ptsMs.toUInt64 w with
    | (.error e, w) => (.rethrow e, n, w)
    | (.ok packet, w) =>
      let n := if frame.sequence ≠ 0 then n else { n with sequence := n.sequence + 1 }
      (.ok
        { codec := .h264
          data := packet.data
          ptsMs := frame.ptsMs
          keyFrame := packet.keyFrame
          sequence := if frame.sequence ≠ 0 then frame.sequence else n.sequence }, n, w)

def release (n : MppH264Encoder) (w : ω) : ω := if n.bound then io.encoderRelease w else w

end MppH264Encoder

/-- `RgaConverter::convert` between two formats the SDK knows; an image without
bytes has a null address. -/
def RgaConverter.convert (src dst : RgaImageDesc) (w : ω) : Result (List UInt8) × ω :=
  if src.data = [] ∨ dst.data = [] then
    (.fail .invalidArgument "RGA convert requires non-null virtual address", w)
  else if src.width = 0 ∨ src.height = 0 ∨ dst.width = 0 ∨ dst.height = 0 then
    (.fail .invalidArgument "RGA convert invalid image size", w)
  else
    match io.imcvtcolor src dst w with
    | (.error status, w) => (.fail .ioError ("RGA imcvtcolor failed: ".toList ++ status), w)
    | (.ok bytes, w) => (.ok bytes, w)

structure FormatConvertNode where
  target : VideoPixelFormat := .nv12
  deriving DecidableEq

namespace FormatConvertNode

def yuyvBytes (width height : UInt32) : UInt64 := width.toUInt64 * height.toUInt64 * 2

def convertYuyv422ToNv12 (frame : VideoFrame) (w : ω) : Result VideoFrame × ω :=
  if frame.width = 0 ∨ frame.height = 0 then
    (.fail .invalidArgument "invalid YUYV frame size", w)
  else if frame.data.length < (yuyvBytes frame.width frame.height).toNat then
    (.fail .invalidArgument "YUYV frame data too small", w)
  else
    let out : VideoFrame :=
      { width := frame.width
        height := frame.height
        ptsMs := frame.ptsMs
        sequence := frame.sequence
        format := .nv12
        data := List.replicate (MppH264Encoder.nv12Bytes frame.width frame.height).toNat 0 }
    let image (data : List UInt8) (format : RgaPixelFormat) : RgaImageDesc :=
      ⟨data, frame.width, frame.height, frame.width, frame.height, format⟩
    match RgaConverter.convert io (image frame.data .yuyv422) (image out.data .nv12) w with
    | (.error e, w) => (.fail e.code e.message, w)
    | (.ok bytes, w) => (.ok { out with data := bytes }, w)

def process (frame : VideoFrame) (n : FormatConvertNode) (w : ω) : Result VideoFrame × ω :=
  if frame.format = n.target then (.ok frame, w)
  else if n.target = .nv12 ∧ frame.format = .yuyv422 then convertYuyv422ToNv12 io frame w
  else if frame.format.isEncodedFormat then
    (.fail .unsupported ("cannot format-convert encoded input ".toList ++ frame.format.toText ++
      "; decode it before FormatConvertNode".toList), w)
  else
    (.fail .unsupported ("unsupported format conversion: ".toList ++ frame.format.toText ++
      " -> ".toList ++ n.target.toText), w)

end FormatConvertNode

end TriFusion.Media
