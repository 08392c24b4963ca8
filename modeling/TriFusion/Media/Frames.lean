import TriFusion.Device.CameraDevice

namespace TriFusion.Media

open Foundation Hardware Device

inductive MppCodec
  | mjpeg
  | h264
  | h265
  deriving DecidableEq, Repr

inductive MppPixelFormat
  | unknown
  | nv12
  | rgb888
  deriving DecidableEq, Repr

structure MppFrame where
  width : UInt32 := 0
  height : UInt32 := 0
  format : MppPixelFormat := .unknown
  data : List UInt8 := []
  deriving DecidableEq

structure MppPacket where
  codec : MppCodec := .h264
  data : List UInt8 := []
  ptsMs : Int64 := 0
  keyFrame : Bool := false
  deriving DecidableEq

inductive VideoPixelFormat
  | unknown
  | mjpeg
  | nv12
  | rgb888
  | yuyv422
  deriving DecidableEq, Repr

namespace VideoPixelFormat

/-- `fromV4L2PixelFormat`. -/
def fromV4L2 (fourcc : UInt32) : VideoPixelFormat :=
  if fourcc = V4L2_PIX_FMT_MJPEG then .mjpeg
  else if fourcc = V4L2_PIX_FMT_YUYV then .yuyv422
  else if fourcc = V4L2_PIX_FMT_NV12 then .nv12
  else .unknown

def toText : VideoPixelFormat → Text
  | .mjpeg => "MJPG"
  | .nv12 => "NV12"
  | .rgb888 => "RGB888"
  | .yuyv422 => "YUYV422"
  | .unknown => "UNKNOWN"

def isEncodedFormat (format : VideoPixelFormat) : Bool := format == .mjpeg

def isRawFormat (format : VideoPixelFormat) : Bool :=
  format == .nv12 || format == .rgb888 || format == .yuyv422

def ofMpp : MppPixelFormat → VideoPixelFormat
  | .nv12 => .nv12
  | .rgb888 => .rgb888
  | .unknown => .unknown

end VideoPixelFormat

structure VideoFrame where
  source : CameraId := .visible
  sequence : UInt64 := 0
  width : UInt32 := 0
  height : UInt32 := 0
  format : VideoPixelFormat := .unknown
  v4l2PixelFormat : UInt32 := 0
  data : List UInt8 := []
  ptsMs : Int64 := 0
  metadata : List UInt8 := []
  deriving DecidableEq

def fromCameraFrame (frame : CameraFrame) : VideoFrame where
  source := frame.cameraId
  sequence := frame.sequence
  width := frame.width
  height := frame.height
  v4l2PixelFormat := frame.pixelformat
  format := .fromV4L2 frame.pixelformat
  data := frame.bytes
  ptsMs := .ofInt frame.receiveTimestampMs
  metadata := frame.metadata

def fromMppFrame (frame : MppFrame) (source : CameraId) (ptsMs : Int64) : VideoFrame where
  source := source
  width := frame.width
  height := frame.height
  format := .ofMpp frame.format
  data := frame.data
  ptsMs := ptsMs

structure EncodedFrame where
  codec : MppCodec := .h264
  data : List UInt8 := []
  ptsMs : Int64 := 0
  keyFrame : Bool := false
  sequence : UInt64 := 0
  deriving DecidableEq

theorem effective_pos (capacity : ℕ) : 0 < if capacity = 0 then 1 else capacity := by
  split
  · exact Nat.one_pos
  · rename_i h
    exact Nat.pos_of_ne_zero h

end TriFusion.Media
