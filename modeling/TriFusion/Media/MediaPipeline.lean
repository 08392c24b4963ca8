import TriFusion.Foundation.Event
import TriFusion.Library.Runs
import TriFusion.Media.Codec

namespace TriFusion.Media

open Foundation Hardware Device

inductive PipelineType
  | visibleOnly
  | compositeOnly
  | visibleCompositeFusion
  deriving DecidableEq, Repr

def PipelineType.toText : PipelineType → Text
  | .visibleOnly => "visible_only"
  | .compositeOnly => "composite_only"
  | .visibleCompositeFusion => "visible_composite_fusion"

inductive PipelineState
  | created
  | initialized
  | running
  | stopped
  | error
  deriving DecidableEq, Repr

def PipelineState.toNat : PipelineState → ℕ
  | .created => 0
  | .initialized => 1
  | .running => 2
  | .stopped => 3
  | .error => 4

structure PipelineConfig where
  type : PipelineType := .compositeOnly
  requireVisible : Bool := false
  requireComposite : Bool := true
  captureTimeoutMs : Int32 := 1000
  frameQueueSize : Int32 := 8
  useDecoder : Bool := false
  useEncoder : Bool := false
  useFormatConvert : Bool := false
  encoderInputFormat : VideoPixelFormat := .nv12
  passthroughEncoded : Bool := false
  media : MediaConfig := {}
  deriving DecidableEq

structure PipelineStats where
  capturedFrames : UInt64 := 0
  decodedFrames : UInt64 := 0
  encodedFrames : UInt64 := 0
  errors : UInt64 := 0
  lastError : Text := []
  deriving DecidableEq

structure CameraManagerRef where
  visibleCamera : Bool := true
  compositeCamera : Bool := true
  deriving DecidableEq

def CameraManagerRef.has (m : CameraManagerRef) : CameraId → Bool
  | .visible => m.visibleCamera
  | .compositeLowThermal => m.compositeCamera

/-- The pointers of the context; a field is `true`, or `some`, when they are not null. -/
structure PipelineContext where
  cameraManager : Option CameraManagerRef := none
  mainStream : Bool := false
  eventBus : Bool := false
  mjpegDecoder : Bool := false
  encoder : Bool := false
  deriving DecidableEq

inductive FrameStep
  | captured (frame : VideoFrame)
  | decoded (input output : VideoFrame)
  | converted (input output : VideoFrame)
  | encoded (input : VideoFrame) (output : EncodedFrame)
  | pushed (frame : EncodedFrame)
  deriving DecidableEq

/-- What a pipeline shares with the rest of the program. `history` is kept for
the proofs; `crashed` is set where the process ends, by `std::terminate` or a
null pointer. -/
structure Shared (ω : Type) where
  mainStream : MainStream := {}
  events : List Event := []
  history : List FrameStep := []
  crashed : Bool := false
  outside : ω

variable {ω α : Type}

namespace Shared

def call (f : ω → α × ω) (s : Shared ω) : α × Shared ω :=
  ((f s.outside).1, { s with outside := (f s.outside).2 })

def record (step : FrameStep) (s : Shared ω) : Shared ω :=
  { s with history := s.history ++ [step] }

def push (frame : EncodedFrame) (s : Shared ω) : Result Unit × Shared ω :=
  let (ret, mainStream) := s.mainStream.push frame
  (ret, record (.pushed frame) { s with mainStream := mainStream })

end Shared

/-- `VisibleCaptureNode` and `CompositeCaptureNode` differ in the camera they read. -/
structure CaptureNode where
  cameraId : CameraId
  manager : Option CameraManagerRef := none
  deriving DecidableEq

variable (io : MediaIo ω)

namespace CaptureNode

def word : CameraId → Text
  | .visible => "visible"
  | .compositeLowThermal => "composite"

def offline : CameraId → ErrorCode
  | .visible => .visibleCameraOffline
  | .compositeLowThermal => .compositeCameraOffline

def init (manager : Option CameraManagerRef) (n : CaptureNode) : Result Unit × CaptureNode :=
  if manager = none then (.fail .invalidArgument "camera manager is null", n)
  else (.ok (), { n with manager := manager })

def start (n : CaptureNode) (w : ω) : Result Unit × ω :=
  if n.manager = none then
    (.fail .notInitialized (word n.cameraId ++ " capture node not initialized".toList), w)
  else io.startCamera n.cameraId w

def capture (timeoutMs : Int32) (n : CaptureNode) (w : ω) : Result VideoFrame × ω :=
  match n.manager with
  | none => (.fail .notInitialized (word n.cameraId ++ " capture node not initialized".toList), w)
  | some manager =>
    if !manager.has n.cameraId then
      (.fail (offline n.cameraId) (word n.cameraId ++ " camera is not available".toList), w)
    else
      match io.readFrame n.cameraId timeoutMs w with
      | (.error e, w) => (.rethrow e, w)
      | (.ok frame, w) => (.ok (fromCameraFrame frame), w)

def stop (n : CaptureNode) (w : ω) : Result Unit × ω :=
  if n.manager = none then (.ok (), w) else io.stopCamera n.cameraId w

end CaptureNode

/-- `worker` says that the worker thread is joinable. -/
structure MediaPipeline where
  config : PipelineConfig := {}
  context : PipelineContext := {}
  graph : List Text := []
  stats : PipelineStats := {}
  state : PipelineState := .created
  visibleCapture : Option CaptureNode := none
  compositeCapture : Option CaptureNode := none
  decoder : Option Decoder := none
  encoder : Option MppH264Encoder := none
  formatConvert : Option FormatConvertNode := none
  stopFlag : Bool := false
  worker : Bool := false
  deriving DecidableEq

namespace MediaPipeline

def addNode (name : Text) (p : MediaPipeline) : MediaPipeline :=
  { p with graph := p.graph ++ [name] }

def validateContext (p : MediaPipeline) : Result Unit :=
  match p.context.cameraManager with
  | none => .fail .invalidArgument "pipeline camera manager is null"
  | some manager =>
    if !p.context.mainStream then .fail .invalidArgument "pipeline main stream is null"
    else if p.config.requireVisible && !manager.visibleCamera then
      .fail .visibleCameraOffline "visible camera is not available"
    else if p.config.requireComposite && !manager.compositeCamera then
      .fail .compositeCameraOffline "composite camera is not available"
    else if p.config.useEncoder && !p.context.encoder then
      .fail .encoderInitFailed "encoder is required but not provided"
    else .ok ()

def initVisible (p : MediaPipeline) : Result Unit × MediaPipeline :=
  if !p.config.requireVisible then (.ok (), p)
  else
    let (ret, node) := CaptureNode.init p.context.cameraManager { cameraId := .visible }
    let p := { p with visibleCapture := some node }
    match ret with
    | .error e => (.error e, p)
    | .ok () => (.ok (), p.addNode "VisibleCaptureNode")

def initComposite (p : MediaPipeline) : Result Unit × MediaPipeline :=
  if !p.config.requireComposite then (.ok (), p)
  else
    let (ret, node) :=
      CaptureNode.init p.context.cameraManager { cameraId := .compositeLowThermal }
    let p := { p with compositeCapture := some node }
    match ret with
    | .error e => (.error e, p)
    | .ok () => (.ok (), p.addNode "CompositeCaptureNode")

def initDecoder (p : MediaPipeline) (s : Shared ω) : Result Unit × MediaPipeline × Shared ω :=
  if !p.config.useDecoder then (.ok (), p, s)
  else
    let decoder : Decoder := if p.context.mjpegDecoder then .mppMjpeg true else .mjpeg
    let p := { p with decoder := some decoder }
    match s.call (decoder.init io) with
    | (.error e, s) => (.error e, p, s)
    | (.ok (), s) =>
      let name : Text :=
        if p.context.mjpegDecoder then "MppMjpegDecoder" else "MjpegDecoderPassthrough"
      (.ok (), p.addNode name, s)

def initFormatConvert (p : MediaPipeline) : MediaPipeline :=
  if p.config.useEncoder && p.config.useFormatConvert then
    addNode ("FormatConvertNode(".toList ++ p.config.encoderInputFormat.toText ++ ")".toList)
      { p with formatConvert := some ⟨p.config.encoderInputFormat⟩ }
  else p

def initEncoder (p : MediaPipeline) (s : Shared ω) : Result Unit × MediaPipeline × Shared ω :=
  if p.config.useEncoder then
    let encoder : MppH264Encoder := { bound := p.context.encoder }
    let p := { p with encoder := some encoder }
    match s.call (encoder.init io s.mainStream.profile) with
    | (.error e, s) => (.error e, p, s)
    | (.ok (), s) => (.ok (), p.addNode "MppH264Encoder", s)
  else if p.config.passthroughEncoded then (.ok (), p.addNode "EncodedPassthrough", s)
  else (.ok (), p, s)

/-- The part of `init` that makes the nodes; one that fails leaves those made before it. -/
def initNodes (p : MediaPipeline) (s : Shared ω) : Result Unit × MediaPipeline × Shared ω :=
  match p.initVisible with
  | (.error e, p) => (.error e, p, s)
  | (.ok (), p) =>
    match p.initComposite with
    | (.error e, p) => (.error e, p, s)
    | (.ok (), p) =>
      match p.initDecoder io s with
      | (.error e, p, s) => (.error e, p, s)
      | (.ok (), p, s) =>
        match p.initFormatConvert.initEncoder io s with
        | (.error e, p, s) => (.error e, p, s)
        | (.ok (), p, s) => (.ok (), { p.addNode "MainStream" with state := .initialized }, s)

def init (config : PipelineConfig) (context : PipelineContext) (p : MediaPipeline)
    (s : Shared ω) : Result Unit × MediaPipeline × Shared ω :=
  if p.state = .running then (.fail .busy "pipeline is running", p, s)
  else
    let p := { p with config := config, context := context, stats := {}, graph := [] }
    match p.validateContext with
    | .error e => (.error e, p, s)
    | .ok () => p.initNodes io s

def publishEvent (type : EventType) (name : Text) (p : MediaPipeline) (s : Shared ω) :
    Shared ω :=
  if !p.context.eventBus then s
  else
    { s with events := s.events ++
        [⟨type, name,
          [("pipeline_type", p.config.type.toText), ("state", decimal p.state.toNat)]⟩] }

def startNode (node : Option CaptureNode) (s : Shared ω) : Result Unit × Shared ω :=
  match node with
  | none => (.ok (), s)
  | some node => s.call (node.start io)

/-- A node that is there is stopped; its result is ignored. -/
def stopNode (node : Option CaptureNode) (s : Shared ω) : Shared ω :=
  match node with
  | none => s
  | some node => (s.call (node.stop io)).2

def startCaptureNodes (p : MediaPipeline) (s : Shared ω) : Result Unit × Shared ω :=
  match startNode io p.visibleCapture s with
  | (.error e, s) => (.error e, s)
  | (.ok (), s) =>
    match startNode io p.compositeCapture s with
    | (.error e, s) => (.error e, stopNode io p.visibleCapture s)
    | (.ok (), s) => (.ok (), s)

def stopCaptureNodes (p : MediaPipeline) (s : Shared ω) : Shared ω :=
  stopNode io p.compositeCapture (stopNode io p.visibleCapture s)

/-- Giving `worker_` a new thread while it is joinable ends the process. -/
def start (p : MediaPipeline) (s : Shared ω) : Result Unit × MediaPipeline × Shared ω :=
  if p.state ≠ .initialized ∧ p.state ≠ .stopped then
    (.fail .notInitialized "pipeline is not initialized", p, s)
  else
    match p.startCaptureNodes io s with
    | (.error e, s) => (.error e, p, s)
    | (.ok (), s) =>
      if !p.context.mainStream then (.ok (), p, { s with crashed := true })
      else
        let s := { s with mainStream := s.mainStream.start }
        let p := { p with stopFlag := false }
        if p.worker then (.ok (), p, { s with crashed := true })
        else
          let p := { p with worker := true, state := .running }
          (.ok (), p, p.publishEvent .pipelineStarted "pipeline_started" s)

def releaseNodes (p : MediaPipeline) (s : Shared ω) : Shared ω :=
  let s := p.stopCaptureNodes io s
  let s :=
    match p.decoder with
    | none => s
    | some decoder => { s with outside := decoder.release io s.outside }
  match p.encoder with
  | none => s
  | some encoder => { s with outside := encoder.release io s.outside }

/-- `stop`, from where the worker has been joined. -/
def stop (p : MediaPipeline) (s : Shared ω) : MediaPipeline × Shared ω :=
  let p := { p with stopFlag := true, worker := false }
  let s := p.releaseNodes io s
  let s := if p.context.mainStream then { s with mainStream := s.mainStream.stop } else s
  let s :=
    if p.state = .running ∨ p.state = .initialized then
      p.publishEvent .pipelineStopped "pipeline_stopped" s
    else s
  ({ p with state := .stopped }, s)

def captureNode (p : MediaPipeline) : Option CaptureNode :=
  if p.config.requireComposite && p.compositeCapture.isSome then p.compositeCapture
  else if p.config.requireVisible && p.visibleCapture.isSome then p.visibleCapture
  else none

def prepareFrameForEncoder (frame : VideoFrame) (p : MediaPipeline) (s : Shared ω) :
    Result VideoFrame × Shared ω :=
  if frame.format = p.config.encoderInputFormat then (.ok frame, s)
  else
    match p.formatConvert with
    | none =>
      (.fail .unsupported ("encoder input format mismatch: captured=".toList ++
        frame.format.toText ++ ", required=".toList ++ p.config.encoderInputFormat.toText), s)
    | some node =>
      match s.call (node.process io frame) with
      | (.error e, s) => (.rethrow e, s)
      | (.ok converted, s) => (.ok converted, s.record (.converted frame converted))

def prepareRaw (frame : VideoFrame) (p : MediaPipeline) (s : Shared ω) :
    Result VideoFrame × Shared ω :=
  if p.encoder.isSome then p.prepareFrameForEncoder io frame s else (.ok frame, s)

def prepareFrameForPipeline (frame : VideoFrame) (p : MediaPipeline) (s : Shared ω) :
    Result VideoFrame × MediaPipeline × Shared ω :=
  if frame.format = .unknown then
    (.fail .unsupported "captured frame pixel format is unknown", p, s)
  else if frame.format = .mjpeg then
    match p.decoder with
    | some decoder =>
      match s.call (decoder.decode io frame) with
      | (.error e, s) => (.fail .mjpegDecodeFailed e.describe, p, s)
      | (.ok decoded, s) =>
        let s := s.record (.decoded frame decoded)
        let p := { p with stats.decodedFrames := p.stats.decodedFrames + 1 }
        let (ret, s) := p.prepareRaw io decoded s
        (ret, p, s)
    | none =>
      if p.encoder.isSome then
        (.fail .mjpegDecodeFailed "MJPG input requires decoder before MPP encoder", p, s)
      else (.ok frame, p, s)
  else
    let (ret, s) := p.prepareRaw io frame s
    (ret, p, s)

/-- `mainStream->push`; a null stream ends the process. -/
def pushEncoded (encoded : EncodedFrame) (p : MediaPipeline) (s : Shared ω) :
    Result Unit × MediaPipeline × Shared ω :=
  let p := { p with stats.encodedFrames := p.stats.encodedFrames + 1 }
  if !p.context.mainStream then (.ok (), p, { s with crashed := true })
  else
    let (ret, s) := s.push encoded
    (ret, p, s)

def publishFrame (frame : VideoFrame) (p : MediaPipeline) (s : Shared ω) :
    Result Unit × MediaPipeline × Shared ω :=
  match p.encoder with
  | some encoder =>
    let (ret, encoder, w) := encoder.encode io frame s.outside
    let p := { p with encoder := some encoder }
    let s := { s with outside := w }
    match ret with
    | .error e => (.rethrow e, p, s)
    | .ok encoded => pushEncoded encoded p (s.record (.encoded frame encoded))
  | none =>
    if !p.config.passthroughEncoded then
      (.fail .unsupported "pipeline has no encoder and passthrough is disabled", p, s)
    else if frame.format ≠ .mjpeg then
      (.fail .unsupported ("raw frame ".toList ++ frame.format.toText ++
        " cannot be published as encoded MainStream".toList), p, s)
    else
      let (ptsMs, s) := if frame.ptsMs = 0 then s.call io.nowMs else (frame.ptsMs, s)
      pushEncoded
        { codec := .mjpeg, data := frame.data, ptsMs := ptsMs, sequence := frame.sequence } p s

def processOneFrame (p : MediaPipeline) (s : Shared ω) :
    Result Unit × MediaPipeline × Shared ω :=
  match p.captureNode with
  | none => (.fail .pipelineBuildFailed "pipeline has no capture node", p, s)
  | some node =>
    match s.call (node.capture io p.config.captureTimeoutMs) with
    | (.error e, s) => (.rethrow e, p, s)
    | (.ok frame, s) =>
      let s := s.record (.captured frame)
      let p := { p with stats.capturedFrames := p.stats.capturedFrames + 1 }
      match p.prepareFrameForPipeline io frame s with
      | (.error e, p, s) => (.error e, p, s)
      | (.ok frame, p, s) => p.publishFrame io frame s

def recordError (status : Status) (p : MediaPipeline) : MediaPipeline :=
  { p with
    stats.errors := p.stats.errors + 1
    stats.lastError := status.describe
    state := if status.code ≠ .timeout ∧ status.code ≠ .serialReadTimeout then .error else p.state }

/-- One turn of the loop of `runLoop`, for a worker that has not been told to stop. -/
def runLoopTurn (p : MediaPipeline) (s : Shared ω) : MediaPipeline × Shared ω :=
  match p.processOneFrame io s with
  | (.error e, p, s) => (p.recordError e, s)
  | (.ok (), p, s) => (p, s)

end MediaPipeline

inductive PipelineCall
  | init (config : PipelineConfig) (context : PipelineContext)
  | start
  | stop
  | work
  deriving DecidableEq

abbrev PipelineSystem (ω : Type) := MediaPipeline × Shared ω

namespace PipelineSystem

def step : PipelineSystem ω → PipelineCall → PipelineSystem ω
  | (p, s), call =>
    if s.crashed then (p, s)
    else
      match call with
      | .init config context => (p.init io config context s).2
      | .start => (p.start io s).2
      | .stop => p.stop io s
      | .work => if p.worker && !p.stopFlag then p.runLoopTurn io s else (p, s)

def run (system : PipelineSystem ω) (calls : List PipelineCall) : PipelineSystem ω :=
  Library.Runs.exec (step io) system calls

def fresh (mainStream : MainStream) (events : List Event) (outside : ω) : PipelineSystem ω :=
  ({}, { mainStream := mainStream, events := events, outside := outside })

end PipelineSystem

end TriFusion.Media
