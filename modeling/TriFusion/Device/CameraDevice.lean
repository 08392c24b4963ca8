import TriFusion.Foundation.Config
import TriFusion.Hardware.UvcNodes

namespace TriFusion.Device

open Foundation Hardware

variable {ω α : Type}

inductive CameraId
  | visible
  | compositeLowThermal
  deriving DecidableEq, Repr

inductive CameraKind
  | visibleUvc
  | compositeLowThermalUvc
  deriving DecidableEq, Repr

inductive CameraLifecycleState
  | uninitialized
  | initialized
  | opened
  | streaming
  | error
  deriving DecidableEq, Repr

structure CameraFrame where
  cameraId : CameraId := .visible
  sequence : UInt64 := 0
  width : UInt32 := 0
  height : UInt32 := 0
  pixelformat : UInt32 := 0
  bytes : List UInt8 := []
  v4l2Timestamp : ℤ := 0
  receiveTimestampMs : ℤ := 0
  metadata : List UInt8 := []
  metadataTimestampMs : ℤ := 0
  deriving DecidableEq

structure CameraStatus where
  id : CameraId := .visible
  kind : CameraKind := .visibleUvc
  state : CameraLifecycleState := .uninitialized
  enabled : Bool := false
  configured : Bool := false
  opened : Bool := false
  streaming : Bool := false
  online : Bool := false
  metadataAvailable : Bool := false
  framesRead : UInt64 := 0
  metadataPacketsRead : UInt64 := 0
  droppedFrames : UInt64 := 0
  lastErrorCode : ErrorCode := .ok
  lastErrorMessage : Text := []
  deriving DecidableEq

structure CameraCapability where
  name : Text := []
  videoNode : Text := []
  metadataNode : Text := []
  driver : Text := []
  card : Text := []
  busInfo : Text := []
  formats : List V4L2FormatDesc := []
  configuredFormat : CaptureFormat := {}
  hasVideoNode : Bool := false
  hasMetadataNode : Bool := false
  deriving DecidableEq

def makeCaptureFormat (cfg : CameraEndpointConfig) : Result CaptureFormat :=
  if cfg.width ≤ 0 ∨ cfg.height ≤ 0 ∨ cfg.fps ≤ 0 then
    .fail .invalidArgument "invalid camera endpoint width/height/fps"
  else
    let fmt := lower cfg.format
    let format (pix : UInt32) : Result CaptureFormat :=
      .ok ⟨cfg.width.toUInt32, cfg.height.toUInt32, pix, cfg.fps.toUInt32⟩
    if fmt = "mjpeg".toList ∨ fmt = "mjpg".toList then format V4L2_PIX_FMT_MJPEG
    else if fmt = "yuyv".toList ∨ fmt = "yuyv422".toList then format V4L2_PIX_FMT_YUYV
    else if fmt = "nv12".toList then format V4L2_PIX_FMT_NV12
    else .fail .unsupported ("unsupported pixel format from config: ".toList ++ cfg.format)

/-- Where the two camera classes differ; only the composite one has a metadata reader. -/
structure CameraClass where
  id : CameraId
  kind : CameraKind
  word : Text
  hasMetadata : Bool

structure CameraDevice where
  config : CameraEndpointConfig := {}
  captureFormat : CaptureFormat := {}
  v4l2 : V4L2Device := {}
  metadataReader : UvcMetadataReader := {}
  capability : CameraCapability := {}
  status : CameraStatus := {}
  sequence : UInt64 := 0
  deriving DecidableEq

namespace CameraDevice

def setError (code : ErrorCode) (message : Text) (c : CameraDevice) : CameraDevice :=
  { c with
    status.state := .error
    status.lastErrorCode := code
    status.lastErrorMessage := message }

def rememberError (code : ErrorCode) (message : Text) (c : CameraDevice) (w : ω) :
    Result α × CameraDevice × ω :=
  (.fail code message, c.setError code message, w)

def clearError (c : CameraDevice) : CameraDevice :=
  { c with status.lastErrorCode := .ok, status.lastErrorMessage := [] }

variable (k : CameraClass)

def init (config : CameraEndpointConfig) (c : CameraDevice) : Result Unit × CameraDevice :=
  let c : CameraDevice :=
    { c with
      config := config
      status := { id := k.id, kind := k.kind, enabled := config.enable }
      capability :=
        { name := config.name
          videoNode := config.videoNode
          metadataNode := if k.hasMetadata then config.metadataNode else [] } }
  if !config.enable then
    (.ok (), { c with status.state := .initialized, status.configured := true })
  else
    match makeCaptureFormat config with
    | .error e => (.fail e.code e.describe, c.setError e.code e.describe)
    | .ok fmt =>
      (.ok (), clearError { c with
        captureFormat := fmt
        capability.configuredFormat := fmt
        status.configured := true
        status.state := .initialized })

variable (drv : V4L2Driver ω) (uvc : UvcNodes ω)

def tryOpenMetadataNode (c : CameraDevice) (w : ω) : CameraDevice × ω :=
  let c := { c with status.metadataAvailable := false, capability.hasMetadataNode := false }
  if c.config.metadataNode = [] then (c, w)
  else
    match UvcDevice.inspectNode uvc c.config.metadataNode w with
    | (.error _, w) => (c, w)
    | (.ok metaInfo, w) =>
      if !UvcDevice.isMetadataNode metaInfo then (c, w)
      else
        match c.metadataReader.openNode uvc c.config.metadataNode w with
        | (.error _, reader, w) => ({ c with metadataReader := reader }, w)
        | (.ok (), reader, w) =>
          ({ c with
            metadataReader := reader
            status.metadataAvailable := true
            capability.hasMetadataNode := true }, w)

def abandonOpen (e : Status) (c : CameraDevice) (w : ω) : Result Unit × CameraDevice × ω :=
  let (v4l2, w) := c.v4l2.closeDevice drv w
  rememberError e.code e.describe { c with v4l2 := v4l2 } w

/-- The part of `open` that fills in the capability; its failures are ignored. -/
def describeNode (c : CameraDevice) (w : ω) : CameraDevice × ω :=
  let (cap, w) := c.v4l2.queryCapability drv w
  let c :=
    match cap with
    | .ok info =>
      { c with
        capability.driver := info.driver
        capability.card := info.card
        capability.busInfo := info.busInfo }
    | .error _ => c
  let (formats, w) := c.v4l2.enumFormats drv w
  let c :=
    match formats with
    | .ok formats => { c with capability.formats := formats }
    | .error _ => c
  (c, w)

def configureNode (c : CameraDevice) (w : ω) : Result Unit × CameraDevice × ω :=
  let (c, w) := describeNode drv c w
  match c.v4l2.setFormat drv c.captureFormat w with
  | (.error e, w) => abandonOpen drv e c w
  | (.ok (), w) =>
    match c.v4l2.requestBuffers drv 4 w with
    | (.error e, v4l2, w) => abandonOpen drv e { c with v4l2 := v4l2 } w
    | (.ok (), v4l2, w) =>
      let c := clearError { c with
        v4l2 := v4l2
        capability.hasVideoNode := true
        status.opened := true
        status.online := true
        status.state := .opened }
      let (c, w) := if k.hasMetadata then tryOpenMetadataNode uvc c w else (c, w)
      (.ok (), c, w)

def «open» (c : CameraDevice) (w : ω) : Result Unit × CameraDevice × ω :=
  if !c.status.configured then
    rememberError .notInitialized (k.word ++ " camera is not initialized".toList) c w
  else if !c.status.enabled then
    rememberError .invalidArgument (k.word ++ " camera is disabled".toList) c w
  else if c.v4l2.isOpen then (.ok (), c, w)
  else
    match UvcDevice.inspectNode uvc c.config.videoNode w with
    | (.error e, w) => rememberError e.code e.describe c w
    | (.ok nodeInfo, w) =>
      if !UvcDevice.isVideoCaptureNode nodeInfo then
        rememberError .unsupported
          (c.config.videoNode ++ " is not a UVC video capture node".toList) c w
      else
        match c.v4l2.openDevice drv c.config.videoNode false w with
        | (.error e, v4l2, w) => rememberError e.code e.describe { c with v4l2 := v4l2 } w
        | (.ok (), v4l2, w) => configureNode k drv uvc { c with v4l2 := v4l2 } w

def startStreaming (c : CameraDevice) (w : ω) : Result Unit × CameraDevice × ω :=
  match c.v4l2.startStream drv w with
  | (.error e, v4l2, w) => rememberError e.code e.describe { c with v4l2 := v4l2 } w
  | (.ok (), v4l2, w) =>
    (.ok (), clearError
      { c with v4l2 := v4l2, status.streaming := true, status.state := .streaming }, w)

def start (c : CameraDevice) (w : ω) : Result Unit × CameraDevice × ω :=
  if !c.v4l2.isOpen then
    match CameraDevice.open k drv uvc c w with
    | (.error e, c, w) => (.error e, c, w)
    | (.ok (), c, w) => startStreaming drv c w
  else startStreaming drv c w

def tryAttachMetadata (frame : CameraFrame) (c : CameraDevice) (w : ω) :
    CameraFrame × CameraDevice × ω :=
  if !c.status.metadataAvailable || !c.metadataReader.isOpen then (frame, c, w)
  else
    match c.metadataReader.readPacket uvc 1 4096 w with
    | (.error _, w) => (frame, c, w)
    | (.ok pkt, w) =>
      ({ frame with metadata := pkt.bytes, metadataTimestampMs := pkt.timestampMs },
        { c with status.metadataPacketsRead := c.status.metadataPacketsRead + 1 }, w)

def attachMetadata (frame : CameraFrame) (c : CameraDevice) (w : ω) :
    CameraFrame × CameraDevice × ω :=
  if k.hasMetadata then tryAttachMetadata uvc frame c w else (frame, c, w)

/-- The frame filled in from a dequeued buffer; bytes behind a null pointer stay zero. -/
def frameOf (view : V4L2BufferView) (now : ℤ) (c : CameraDevice) : CameraFrame where
  cameraId := k.id
  sequence := c.sequence + 1
  width := c.captureFormat.width
  height := c.captureFormat.height
  pixelformat := c.captureFormat.pixelformat
  bytes := view.data.getD (List.replicate view.bytesUsed 0)
  v4l2Timestamp := view.timestamp
  receiveTimestampMs := now

def readFrame (timeoutMs : Int32) (c : CameraDevice) (w : ω) :
    Result CameraFrame × CameraDevice × ω :=
  if !c.v4l2.streaming then
    (.fail .notInitialized (k.word ++ " camera stream is not started".toList), c, w)
  else
    match c.v4l2.dequeueBuffer drv timeoutMs w with
    | (.error e, w) =>
      (.rethrow e, { c with
        status.droppedFrames := c.status.droppedFrames + 1
        status.lastErrorCode := e.code
        status.lastErrorMessage := e.describe }, w)
    | (.ok view, w) =>
      let (now, w) := uvc.nowMs w
      let frame := frameOf k view now c
      let (frame, c, w) := attachMetadata k uvc frame { c with sequence := c.sequence + 1 } w
      match c.v4l2.enqueueBuffer drv view.index w with
      | (.error e, w) => (.rethrow e, c, w)
      | (.ok (), w) =>
        (.ok frame, clearError { c with status.framesRead := c.status.framesRead + 1 }, w)

def stop (c : CameraDevice) (w : ω) : Result Unit × CameraDevice × ω :=
  if !c.v4l2.isOpen then (.ok (), c, w)
  else
    let (ret, v4l2, w) := c.v4l2.stopStream drv w
    let c := { c with
      v4l2 := v4l2
      status.streaming := false
      status.state := if c.status.opened then .opened else .initialized }
    match ret with
    | .error e => rememberError e.code e.describe c w
    | .ok () => (.ok (), c, w)

def closeMetadata (c : CameraDevice) (w : ω) : CameraDevice × ω :=
  if k.hasMetadata then
    let (reader, w) := c.metadataReader.closeNode uvc w
    ({ c with metadataReader := reader }, w)
  else (c, w)

def closeVideo (c : CameraDevice) (w : ω) : CameraDevice × ω :=
  if c.v4l2.isOpen then
    let (c, w) := (stop drv c w).2
    let (v4l2, w) := c.v4l2.closeDevice drv w
    ({ c with v4l2 := v4l2 }, w)
  else (c, w)

def close (c : CameraDevice) (w : ω) : CameraDevice × ω :=
  let (c, w) := closeMetadata k uvc c w
  let (c, w) := closeVideo drv c w
  ({ c with
    status.opened := false
    status.streaming := false
    status.online := false
    status.metadataAvailable := if k.hasMetadata then false else c.status.metadataAvailable
    status.state := if c.status.configured then .initialized else .uninitialized }, w)

end CameraDevice

def VisibleCameraDevice : CameraClass where
  id := .visible
  kind := .visibleUvc
  word := "visible"
  hasMetadata := false

def CompositeLowThermalCameraDevice : CameraClass where
  id := .compositeLowThermal
  kind := .compositeLowThermalUvc
  word := "composite"
  hasMetadata := true

end TriFusion.Device
