import Mathlib.Data.PNat.Defs
import TriFusion.Foundation.Text

namespace TriFusion.Media

open Foundation

structure GStreamerPipelineConfig where
  gstLaunchPath : Text := "gst-launch-1.0"
  eosOnStop : Bool := true
  verbose : Bool := true
  stopTimeoutMs : Int32 := 2000
  sourceName : Text := "composite"
  device : Text := "/dev/video1"
  ioMode : Text := "mmap"
  inputCodec : Text := "raw"
  rawFormat : Text := "YUY2"
  width : Int32 := 800
  height : Int32 := 600
  fps : Int32 := 30
  encoder : Text := "mpph264enc"
  h264ConfigInterval : Int32 := 1
  muxer : Text := "mpegtsmux"
  udpHost : Text := "192.168.1.153"
  udpPort : Int32 := 5004
  udpSync : Bool := false
  udpAsync : Bool := false
  deriving DecidableEq

namespace GStreamerPipelineBuilder

def jpegNames : List Text := ["mjpeg", "mjpg", "jpeg", "image/jpeg"]

def isMjpegInput (config : GStreamerPipelineConfig) : Bool :=
  lower config.inputCodec ∈ jpegNames || lower config.rawFormat ∈ jpegNames

def normalizeRawFormat (format : Text) : Text :=
  let lowered := lower format
  if lowered ∈ (["yuyv", "yuyv422", "yuy2", "yuyv 4:2:2"] : List Text) then "YUY2"
  else if lowered ∈ (["uyvy", "uyvy422"] : List Text) then "UYVY"
  else if lowered = "nv12".toList then "NV12"
  else if format = [] then "YUY2"
  else format

def boolToGst (value : Bool) : Text := if value then "true" else "false"

def frameCaps (config : GStreamerPipelineConfig) : Text :=
  ",width=".toList ++ signedDecimal config.width.toInt ++ ",height=".toList ++
    signedDecimal config.height.toInt ++ ",framerate=".toList ++ signedDecimal config.fps.toInt ++
    "/1".toList

def sourceArgs (config : GStreamerPipelineConfig) : List Text :=
  if isMjpegInput config then ["image/jpeg".toList ++ frameCaps config, "!", "mppjpegdec"]
  else
    ["video/x-raw,format=".toList ++ normalizeRawFormat config.rawFormat ++ frameCaps config]

def sinkArgs (config : GStreamerPipelineConfig) : List Text :=
  ["!".toList, "udpsink".toList, "host=".toList ++ config.udpHost,
    "port=".toList ++ signedDecimal config.udpPort.toInt,
    "sync=".toList ++ boolToGst config.udpSync, "async=".toList ++ boolToGst config.udpAsync]

def buildUdpMpegTsH264Args (config : GStreamerPipelineConfig) : List Text :=
  [config.gstLaunchPath] ++ (if config.eosOnStop then ["-e".toList] else []) ++
    (if config.verbose then ["-v".toList] else []) ++
    ["v4l2src".toList, "device=".toList ++ config.device, "io-mode=".toList ++ config.ioMode,
      "!".toList] ++
    sourceArgs config ++
    ["!".toList, config.encoder, "!".toList, "h264parse".toList,
      "config-interval=".toList ++ signedDecimal config.h264ConfigInterval.toInt, "!".toList,
      config.muxer] ++ sinkArgs config

end GStreamerPipelineBuilder

/-- How `waitpid` with `WNOHANG` answers. -/
inductive WaitAnswer
  | running
  | exited (code : ℤ)
  | signaled (signal : ℤ)
  | noChild
  | failed
  deriving DecidableEq

inductive StopSignal
  | sigint
  | sigterm
  | sigkill
  deriving DecidableEq, Repr

/-- The calls of `GStreamerProcess` that leave the program. `fork` starts a child on the
arguments and answers with its pid, or with the `strerror` text; `kill` reaches the process
group of a pid; `polls` is how often `waitForExit` asks before its deadline. -/
structure ProcessIo (ω : Type) where
  fork : List Text → ω → Except Text ℕ+ × ω
  waitpid : ℤ → ω → WaitAnswer × ω
  kill : ℤ → StopSignal → ω → ω
  polls : Int32 → ω → ℕ × ω

structure GStreamerProcess where
  pid : ℤ := -1
  exitCode : ℤ := -1
  lastError : Text := []
  deriving DecidableEq

variable {ω : Type} (io : ProcessIo ω)

namespace GStreamerProcess

def isRunning (p : GStreamerProcess) (w : ω) : Bool × GStreamerProcess × ω :=
  if p.pid ≤ 0 then (false, p, w)
  else
    match io.waitpid p.pid w with
    | (.running, w) => (true, p, w)
    | (.exited code, w) => (false, { p with exitCode := code, pid := -1 }, w)
    | (.signaled signal, w) => (false, { p with exitCode := 128 + signal, pid := -1 }, w)
    | (.noChild, w) => (false, { p with pid := -1 }, w)
    | (.failed, w) => (true, p, w)

def start (args : List Text) (p : GStreamerProcess) (w : ω) : Bool × GStreamerProcess × ω :=
  if args = [] then (false, { p with lastError := "empty gstreamer argument list" }, w)
  else
    match p.isRunning io w with
    | (true, p, w) => (false, { p with lastError := "gstreamer process already running" }, w)
    | (false, p, w) =>
      match io.fork args w with
      | (.error errno, w) => (false, { p with lastError := "fork failed: ".toList ++ errno }, w)
      | (.ok child, w) =>
        match isRunning io { pid := child, exitCode := -1, lastError := [] } w with
        | (false, p, w) => (false, { p with lastError := "gst-launch exited immediately" }, w)
        | (true, p, w) => (true, p, w)

/-- The loop of `waitForExit`: whether the child was found gone before the deadline. -/
def pollExit : ℕ → GStreamerProcess → ω → Bool × GStreamerProcess × ω
  | 0, p, w => (false, p, w)
  | n + 1, p, w =>
    match p.isRunning io w with
    | (false, p, w) => (true, p, w)
    | (true, p, w) => pollExit n p w

def waitForExit (timeoutMs : Int32) (p : GStreamerProcess) (w : ω) :
    Bool × GStreamerProcess × ω :=
  let (polls, w) := io.polls timeoutMs w
  match pollExit io polls p w with
  | (true, p, w) => (true, p, w)
  | (false, p, w) =>
    let (running, p, w) := p.isRunning io w
    (!running, p, w)

def askToEnd (signal : StopSignal) (timeoutMs : Int32) (p : GStreamerProcess) (w : ω) :
    Bool × GStreamerProcess × ω :=
  match p.waitForExit io timeoutMs (io.kill p.pid signal w) with
  | (true, p, w) => (true, { p with pid := -1 }, w)
  | (false, p, w) => (false, p, w)

def stop (timeoutMs : Int32) (p : GStreamerProcess) (w : ω) : Bool × GStreamerProcess × ω :=
  if p.pid ≤ 0 then (true, p, w)
  else
    match p.isRunning io w with
    | (false, p, w) => (true, { p with pid := -1 }, w)
    | (true, p, w) =>
      match p.askToEnd io .sigint timeoutMs w with
      | (true, p, w) => (true, p, w)
      | (false, p, w) =>
        match p.askToEnd io .sigterm 500 w with
        | (true, p, w) => (true, p, w)
        | (false, p, w) =>
          match p.askToEnd io .sigkill 500 w with
          | (true, p, w) => (true, p, w)
          | (false, p, w) =>
            (false, { p with lastError := "failed to stop gst-launch process" }, w)

end GStreamerProcess

structure GStreamerPipeline where
  config : GStreamerPipelineConfig
  process : GStreamerProcess := {}
  lastError : Text := []
  deriving DecidableEq

namespace GStreamerPipeline

def setConfig (config : GStreamerPipelineConfig) (p : GStreamerPipeline) : GStreamerPipeline :=
  { p with config := config }

def start (p : GStreamerPipeline) (w : ω) : Bool × GStreamerPipeline × ω :=
  match p.process.start io (GStreamerPipelineBuilder.buildUdpMpegTsH264Args p.config) w with
  | (false, process, w) => (false, { p with process := process, lastError := process.lastError }, w)
  | (true, process, w) => (true, { p with process := process, lastError := [] }, w)

def stop (p : GStreamerPipeline) (w : ω) : Bool × GStreamerPipeline × ω :=
  match p.process.stop io p.config.stopTimeoutMs w with
  | (false, process, w) => (false, { p with process := process, lastError := process.lastError }, w)
  | (true, process, w) => (true, { p with process := process, lastError := [] }, w)

@[simp] theorem setConfig_config (config : GStreamerPipelineConfig) (p : GStreamerPipeline) :
    (p.setConfig config).config = config := rfl

variable (p : GStreamerPipeline) (w : ω)

@[simp] theorem start_config : (p.start io w).2.1.config = p.config := by
  unfold start
  split <;> rfl

@[simp] theorem stop_config : (p.stop io w).2.1.config = p.config := by
  unfold stop
  split <;> rfl

end GStreamerPipeline

end TriFusion.Media
