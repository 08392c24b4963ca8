import TriFusion.Hardware.V4L2Device

namespace TriFusion.Hardware

open Foundation

variable {ω : Type}

inductive UvcNodeKind
  | unknown
  | videoCapture
  | metadataCapture
  deriving DecidableEq, Repr

structure UvcNodeInfo where
  path : Text
  kind : UvcNodeKind := .unknown
  driver : Text
  card : Text
  busInfo : Text
  capabilities : UInt32
  deviceCaps : UInt32
  deriving DecidableEq

structure UvcMetadataPacket where
  bytes : List UInt8
  timestampMs : ℤ
  deriving DecidableEq

inductive ProbeError
  | openNode (errno : Text)
  | queryCap (errno : Text)
  deriving DecidableEq

structure UvcNodes (ω : Type) where
  probe : Text → ω → Except ProbeError V4L2CapabilityInfo × ω
  openNode : Text → ω → Except Text Unit × ω
  closeNode : ω → ω
  poll : Int32 → ω → Except Text Bool × ω
  read : ℕ → ω → Except Text (List UInt8) × ω
  nowMs : ω → ℤ × ω

namespace UvcDevice

def V4L2_CAP_VIDEO_CAPTURE : UInt32 := 0x00000001

def V4L2_CAP_META_CAPTURE : UInt32 := 0x00800000

def V4L2_CAP_DEVICE_CAPS : UInt32 := 0x80000000

def effectiveCaps (cap : V4L2CapabilityInfo) : UInt32 :=
  if cap.capabilities &&& V4L2_CAP_DEVICE_CAPS ≠ 0 then cap.deviceCaps else cap.capabilities

def inspectNode (uvc : UvcNodes ω) (path : Text) (w : ω) : Result UvcNodeInfo × ω :=
  if path = [] then (.fail .invalidArgument "empty UVC node path", w)
  else
    match uvc.probe path w with
    | (.error (.openNode errno), w) =>
      (.fail .ioError ("open ".toList ++ path ++ ": ".toList ++ errno), w)
    | (.error (.queryCap errno), w) =>
      (.fail .ioError ("VIDIOC_QUERYCAP ".toList ++ path ++ ": ".toList ++ errno), w)
    | (.ok cap, w) =>
      let caps := effectiveCaps cap
      let kind : UvcNodeKind :=
        if caps &&& V4L2_CAP_META_CAPTURE ≠ 0 then .metadataCapture
        else if caps &&& V4L2_CAP_VIDEO_CAPTURE ≠ 0 then .videoCapture
        else .unknown
      (.ok ⟨path, kind, cap.driver, cap.card, cap.busInfo, cap.capabilities, cap.deviceCaps⟩, w)

def isVideoCaptureNode (info : UvcNodeInfo) : Bool := info.kind == .videoCapture

def isMetadataNode (info : UvcNodeInfo) : Bool := info.kind == .metadataCapture

end UvcDevice

/-- `fdOpen` is `fd_ >= 0`. -/
structure UvcMetadataReader where
  fdOpen : Bool := false
  path : Text := []
  deriving DecidableEq

namespace UvcMetadataReader

variable (uvc : UvcNodes ω)

def isOpen (r : UvcMetadataReader) : Bool := r.fdOpen

def openNode (path : Text) (r : UvcMetadataReader) (w : ω) :
    Result Unit × UvcMetadataReader × ω :=
  if r.isOpen then (.fail .alreadyInitialized "metadata node already open", r, w)
  else if path = [] then (.fail .invalidArgument "empty metadata node path", r, w)
  else
    match uvc.openNode path w with
    | (.error errno, w) =>
      (.fail .compositeMetadataOpenFailed
        ("open ".toList ++ path ++ ": ".toList ++ errno), r, w)
    | (.ok (), w) => (.ok (), ⟨true, path⟩, w)

def closeNode (r : UvcMetadataReader) (w : ω) : UvcMetadataReader × ω :=
  ({}, if r.isOpen then uvc.closeNode w else w)

def readPacket (timeoutMs : Int32) (maxBytes : ℕ) (r : UvcMetadataReader) (w : ω) :
    Result UvcMetadataPacket × ω :=
  if !r.isOpen then (.fail .notInitialized "metadata node not open", w)
  else if maxBytes = 0 then (.fail .invalidArgument "maxBytes is zero", w)
  else
    match uvc.poll timeoutMs w with
    | (.error errno, w) => (.fail .ioError ("metadata poll: ".toList ++ errno), w)
    | (.ok false, w) => (.fail .timeout "metadata read timeout", w)
    | (.ok true, w) =>
      match uvc.read maxBytes w with
      | (.error errno, w) => (.fail .ioError ("metadata read: ".toList ++ errno), w)
      | (.ok bytes, w) =>
        let (now, w) := uvc.nowMs w
        (.ok ⟨bytes.take maxBytes, now⟩, w)

end UvcMetadataReader

end TriFusion.Hardware
