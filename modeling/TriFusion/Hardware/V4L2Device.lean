import TriFusion.Foundation.Result
import Mathlib.Data.List.Infix

namespace TriFusion.Hardware

open Foundation

variable {ω α : Type}

def V4L2_PIX_FMT_MJPEG : UInt32 := 0x47504A4D

def V4L2_PIX_FMT_YUYV : UInt32 := 0x56595559

def V4L2_PIX_FMT_NV12 : UInt32 := 0x3231564E

structure CaptureFormat where
  width : UInt32 := 0
  height : UInt32 := 0
  pixelformat : UInt32 := V4L2_PIX_FMT_MJPEG
  fps : UInt32 := 30
  deriving DecidableEq

structure V4L2CapabilityInfo where
  driver : Text := []
  card : Text := []
  busInfo : Text := []
  capabilities : UInt32 := 0
  deviceCaps : UInt32 := 0
  deriving DecidableEq

structure V4L2FormatDesc where
  pixelformat : UInt32
  description : Text
  deriving DecidableEq

/-- `mapped` says that `start` is not null. -/
structure MappedBuffer where
  mapped : Bool := false
  length : UInt32 := 0
  deriving DecidableEq

/-- What VIDIOC_DQBUF fills in, with the bytes in use of the buffer it names. -/
structure DequeuedBuffer where
  index : ℕ
  bytes : List UInt8
  timestamp : ℤ
  deriving DecidableEq

/-- `data` holds the `bytesUsed` bytes behind the pointer, or is `none` when it is null. -/
structure V4L2BufferView where
  index : ℕ
  data : Option (List UInt8)
  bytesUsed : ℕ
  length : UInt32
  timestamp : ℤ
  deriving DecidableEq

/-- The kernel calls of one V4L2 node. Failures carry the `strerror` text; EINTR,
which `xioctl` only repeats, is left out. `setFmt` answers with the format the
driver settled on, `reqBufs` with the number of buffers it granted, `queryBuf`
with a buffer's length, `poll` with whether the descriptor became ready. -/
structure V4L2Driver (ω : Type) where
  openNode : Text → Bool → ω → Except Text Unit × ω
  closeNode : ω → ω
  queryCap : ω → Except Text V4L2CapabilityInfo × ω
  enumFmt : ω → Except Text (List V4L2FormatDesc) × ω
  setFmt : CaptureFormat → ω → Except Text CaptureFormat × ω
  setParm : UInt32 → ω → Except Text Unit × ω
  reqBufs : UInt32 → ω → Except Text ℕ × ω
  queryBuf : ℕ → ω → Except Text UInt32 × ω
  mmap : ℕ → ω → Except Text Unit × ω
  qBuf : ℕ → ω → Except Text Unit × ω
  dqBuf : ω → Except Text DequeuedBuffer × ω
  streamOn : ω → Except Text Unit × ω
  streamOff : ω → Except Text Unit × ω
  poll : Int32 → ω → Except Text Bool × ω

def openFailedCodeForPath (path : Text) : ErrorCode :=
  if "video0".toList <:+: path then .compositeCameraOpenFailed else .ioError

def fourccToString (fourcc : UInt32) : Text :=
  let s := [fourcc, fourcc >>> 8, fourcc >>> 16, fourcc >>> 24].map fun w ↦
    Char.ofNat (w &&& 0xff).toNat
  s.takeWhile (· ≠ '\x00')

/-- `fdOpen` is `fd_ >= 0`. -/
structure V4L2Device where
  fdOpen : Bool := false
  path : Text := []
  buffers : List MappedBuffer := []
  streaming : Bool := false
  deriving DecidableEq

namespace V4L2Device

variable (drv : V4L2Driver ω)

def isOpen (d : V4L2Device) : Bool := d.fdOpen

def xioctl (d : V4L2Device) (call : ω → Except Text α × ω) (w : ω) : Result α × ω :=
  if !d.isOpen then (.fail .notInitialized "V4L2 device not open", w)
  else
    match call w with
    | (.error errno, w) => (.fail .ioError ("ioctl failed: ".toList ++ errno), w)
    | (.ok a, w) => (.ok a, w)

def openDevice (path : Text) (nonBlock : Bool) (d : V4L2Device) (w : ω) :
    Result Unit × V4L2Device × ω :=
  if d.isOpen then
    (.fail .alreadyInitialized ("V4L2 device already open: ".toList ++ d.path), d, w)
  else if path = [] then (.fail .invalidArgument "empty V4L2 device path", d, w)
  else
    match drv.openNode path nonBlock w with
    | (.error errno, w) =>
      (.fail (openFailedCodeForPath path) ("open ".toList ++ path ++ ": ".toList ++ errno), d, w)
    | (.ok (), w) => (.ok (), { d with fdOpen := true, path := path }, w)

def stopStream (d : V4L2Device) (w : ω) : Result Unit × V4L2Device × ω :=
  if !d.streaming then (.ok (), d, w)
  else
    let (ret, w) := d.xioctl drv.streamOff w
    (ret, { d with streaming := false }, w)

def closeDevice (d : V4L2Device) (w : ω) : V4L2Device × ω :=
  let (d, w) := if d.streaming then (stopStream drv d w).2 else (d, w)
  ({ d with buffers := [], fdOpen := false, path := [] }, if d.isOpen then drv.closeNode w else w)

def queryCapability (d : V4L2Device) (w : ω) : Result V4L2CapabilityInfo × ω :=
  d.xioctl drv.queryCap w

def enumFormats (d : V4L2Device) (w : ω) : Result (List V4L2FormatDesc) × ω :=
  if !d.isOpen then (.fail .notInitialized "V4L2 device not open", w)
  else
    match drv.enumFmt w with
    | (.error errno, w) => (.fail .ioError ("VIDIOC_ENUM_FMT: ".toList ++ errno), w)
    | (.ok formats, w) => (.ok formats, w)

def setFrameRate (fps : UInt32) (d : V4L2Device) (w : ω) : Result Unit × ω :=
  if fps = 0 then (.fail .invalidArgument "fps is zero", w)
  else d.xioctl (drv.setParm fps) w

def setFormat (fmt : CaptureFormat) (d : V4L2Device) (w : ω) : Result Unit × ω :=
  if fmt.width = 0 ∨ fmt.height = 0 ∨ fmt.fps = 0 then
    (.fail .invalidArgument "invalid V4L2 capture format", w)
  else
    match d.xioctl (drv.setFmt fmt) w with
    | (.error e, w) => (.error e, w)
    | (.ok f, w) =>
      if f.pixelformat ≠ fmt.pixelformat then
        (.fail .unsupported
          ("driver changed pixel format to ".toList ++ fourccToString f.pixelformat), w)
      else setFrameRate drv fmt.fps d w

def enqueueBuffer (index : ℕ) (d : V4L2Device) (w : ω) : Result Unit × ω :=
  if d.buffers.length ≤ index then (.fail .invalidArgument "invalid V4L2 buffer index", w)
  else d.xioctl (drv.qBuf index) w

/-- The loop of `requestBuffers`, from buffer `i` on, with `n` buffers to go. -/
def mapBuffers : ℕ → ℕ → V4L2Device → ω → Result Unit × V4L2Device × ω
  | 0, _, d, w => (.ok (), d, w)
  | n + 1, i, d, w =>
    match d.xioctl (drv.queryBuf i) w with
    | (.error e, w) => (.error e, d, w)
    | (.ok length, w) =>
      match drv.mmap i w with
      | (.error errno, w) => (.fail .ioError ("mmap: ".toList ++ errno), d, w)
      | (.ok (), w) =>
        let d := { d with buffers := d.buffers.set i ⟨true, length⟩ }
        match enqueueBuffer drv i d w with
        | (.error e, w) => (.error e, d, w)
        | (.ok (), w) => mapBuffers n (i + 1) d w

def requestBuffers (count : UInt32) (d : V4L2Device) (w : ω) : Result Unit × V4L2Device × ω :=
  if count < 2 then (.fail .invalidArgument "V4L2 buffer count must be >= 2", d, w)
  else
    match d.xioctl (drv.reqBufs count) w with
    | (.error e, w) => (.error e, d, w)
    | (.ok granted, w) =>
      if granted < 2 then
        (.fail .internalError "insufficient V4L2 buffers returned by driver", d, w)
      else
        let resized := d.buffers.take granted ++
          List.replicate (granted - d.buffers.length) ({} : MappedBuffer)
        mapBuffers drv granted 0 { d with buffers := resized } w

def startStream (d : V4L2Device) (w : ω) : Result Unit × V4L2Device × ω :=
  if d.streaming then (.ok (), d, w)
  else
    match d.xioctl drv.streamOn w with
    | (.error e, w) => (.error e, d, w)
    | (.ok (), w) => (.ok (), { d with streaming := true }, w)

def dequeueBuffer (timeoutMs : Int32) (d : V4L2Device) (w : ω) : Result V4L2BufferView × ω :=
  if !d.streaming then (.fail .notInitialized "V4L2 stream not started", w)
  else
    match drv.poll timeoutMs w with
    | (.error errno, w) => (.fail .ioError ("poll: ".toList ++ errno), w)
    | (.ok false, w) => (.fail .timeout "V4L2 dequeue timeout", w)
    | (.ok true, w) =>
      match drv.dqBuf w with
      | (.error errno, w) => (.fail .ioError ("VIDIOC_DQBUF: ".toList ++ errno), w)
      | (.ok buf, w) =>
        match d.buffers[buf.index]? with
        | none => (.fail .internalError "invalid V4L2 buffer index", w)
        | some b =>
          (.ok ⟨buf.index, if b.mapped then some buf.bytes else none, buf.bytes.length, b.length,
            buf.timestamp⟩, w)

end V4L2Device

end TriFusion.Hardware
