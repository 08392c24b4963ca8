import TriFusion.Foundation.Result
import TriFusion.Library.ChildTable
import TriFusion.Library.ThreadHandle

namespace TriFusion.Protocol

open Foundation Library Library.ChildTable Library.ThreadHandle

inductive FfmpegPipeInputFormat
  | h264AnnexB
  | mjpeg
  | rawYuyv422
  deriving DecidableEq, Repr

structure UdpMpegTsPublisherConfig where
  udpUrl : Text := "udp://192.168.1.35:5004?pkt_size=1316"
  inputFormat : FfmpegPipeInputFormat := .h264AnnexB
  width : UInt32 := 800
  height : UInt32 := 600
  fps : UInt32 := 30
  encoder : Text := "copy"
  preset : Text := "ultrafast"
  tune : Text := "zerolatency"
  ffmpegPath : Text := "ffmpeg"
  logLevel : Text := "info"
  deriving DecidableEq

structure UdpMpegTsPublisherStats where
  framesPulled : UInt64 := 0
  framesWritten : UInt64 := 0
  bytesWritten : UInt64 := 0
  writeErrors : UInt64 := 0
  deriving DecidableEq

/-- Where the sender thread stands in `senderLoop`; `returned` once the function has returned. -/
inductive SenderPhase
  | check
  | reap
  | frame
  | write (bytes : List UInt8)
  | ending
  | returned
  deriving DecidableEq

/-- `senderThread` is where the thread of a joinable `senderThread_` stands, and `writeFd`
whether `writeFd_` is a descriptor. -/
structure UdpMpegTsPublisher where
  config : UdpMpegTsPublisherConfig := {}
  streamService : Bool := false
  running : Bool := false
  senderThread : Option SenderPhase := none
  writeFd : Bool := false
  childPid : ℤ := -1
  stats : UdpMpegTsPublisherStats := {}
  deriving DecidableEq

structure SpawnIo where
  pipe : Except Text Unit
  fork : List Text → Except Text ℕ+
  ends : ℤ → Option Ending

namespace UdpMpegTsPublisher

def encoderArgs (config : UdpMpegTsPublisherConfig) : List Text :=
  ["-c:v".toList, config.encoder, "-preset".toList, config.preset, "-tune".toList, config.tune,
    "-g".toList, decimal (if 0 < config.fps / 2 then (config.fps / 2).toNat else 15),
    "-bf".toList, "0".toList]

def inputArgs (config : UdpMpegTsPublisherConfig) : List Text :=
  match config.inputFormat with
  | .h264AnnexB =>
    ["-r".toList, decimal config.fps.toNat, "-f".toList, "h264".toList, "-i".toList,
      "pipe:0".toList, "-an".toList, "-c:v".toList, "copy".toList]
  | .rawYuyv422 =>
    ["-f".toList, "rawvideo".toList, "-pixel_format".toList, "yuyv422".toList,
      "-video_size".toList, decimal config.width.toNat ++ ['x'] ++ decimal config.height.toNat,
      "-framerate".toList, decimal config.fps.toNat, "-i".toList, "pipe:0".toList, "-vf".toList,
      "format=yuv420p".toList] ++ encoderArgs config
  | .mjpeg =>
    ["-f".toList, "mjpeg".toList, "-r".toList, decimal config.fps.toNat, "-i".toList,
      "pipe:0".toList, "-vf".toList, "format=yuv420p".toList] ++ encoderArgs config

def buildFfmpegArgs (config : UdpMpegTsPublisherConfig) : List Text :=
  [config.ffmpegPath, "-hide_banner".toList, "-loglevel".toList, config.logLevel,
    "-fflags".toList, "+genpts+nobuffer".toList, "-flags".toList, "low_delay".toList,
    "-use_wallclock_as_timestamps".toList, "1".toList, "-probesize".toList, "32".toList,
    "-analyzeduration".toList, "0".toList] ++ inputArgs config ++
    ["-muxdelay".toList, "0".toList, "-muxpreload".toList, "0".toList, "-flush_packets".toList,
      "1".toList, "-f".toList, "mpegts".toList, config.udpUrl]

def closeWritePipe (p : UdpMpegTsPublisher) : UdpMpegTsPublisher := { p with writeFd := false }

def waitChildIfExited (p : UdpMpegTsPublisher) (table : List Child) :
    UdpMpegTsPublisher × List Child :=
  if p.childPid < 0 then (p, table)
  else
    match wait p.childPid table with
    | (.ended _, table) => (closeWritePipe { p with childPid := -1 }, table)
    | (.running, table) => (p, table)
    | (.noChild, table) => (p, table)

def startFfmpeg (io : SpawnIo) (p : UdpMpegTsPublisher) (table : List Child) :
    Result Unit × UdpMpegTsPublisher × List Child :=
  match io.pipe with
  | .error errno => (.fail .ioError ("pipe failed: ".toList ++ errno), p, table)
  | .ok () =>
    match ChildTable.fork "Resource temporarily unavailable".toList
        (io.fork (buildFfmpegArgs p.config)) table with
    | (.error errno, table) => (.fail .ioError ("fork ffmpeg failed: ".toList ++ errno), p, table)
    | (.ok pid, table) =>
      let p := { p with childPid := pid, writeFd := true }
      match wait pid (expire io.ends table) with
      | (.ended ending, table) =>
        (.fail .ioError ("ffmpeg exited immediately, status=".toList ++
            signedDecimal ending.status ++ ", see /tmp/tri_fusion_ffmpeg_stderr.log".toList),
          { closeWritePipe p with childPid := -1 }, table)
      | (.running, table) => (.ok (), p, table)
      | (.noChild, table) => (.ok (), p, table)

/-- `streamService` says whether the pointer is there. There is no result when the
assignment to `senderThread_` ends the process. -/
def start (config : UdpMpegTsPublisherConfig) (streamService : Bool) (io : SpawnIo)
    (p : UdpMpegTsPublisher) (table : List Child) :
    Option (Result Unit) × UdpMpegTsPublisher × List Child :=
  if p.running then (some (.ok ()), p, table)
  else if !streamService then
    (some (.fail .invalidArgument "UdpMpegTsPublisher streamService is null"), p, table)
  else if config.udpUrl = [] then
    (some (.fail .invalidArgument "UdpMpegTsPublisher udpUrl is empty"), p, table)
  else
    let p := { p with config := config, streamService := true, stats := {} }
    match p.startFfmpeg io table with
    | (.error e, p, table) => (some (.error e), p, table)
    | (.ok (), p, table) =>
      let p := { p with running := true }
      match p.senderThread with
      | some _ => (none, p, table)
      | none => (some (.ok ()), { p with senderThread := some .check }, table)

/-- The next step of `senderLoop`: `frame` is the data `waitFrame` delivers, `written`
whether `writeAll` gets all of it into the pipe. -/
def senderStep (frame : Option (List UInt8)) (written : Bool) (p : UdpMpegTsPublisher)
    (table : List Child) : UdpMpegTsPublisher × List Child :=
  match p.senderThread with
  | none => (p, table)
  | some .check =>
    ({ p with senderThread := some (if p.running then .reap else .ending) }, table)
  | some .reap =>
    if !p.streamService then ({ p with senderThread := some .ending }, table)
    else
      let (p, table) := p.waitChildIfExited table
      if p.childPid < 0 then
        ({ p with
            senderThread := some .ending
            stats.writeErrors := p.stats.writeErrors + 1 }, table)
      else ({ p with senderThread := some .frame }, table)
  | some .frame =>
    match frame with
    | none => ({ p with senderThread := some .check }, table)
    | some bytes =>
      ({ p with
          senderThread := some (if bytes = [] then .check else .write bytes)
          stats.framesPulled := p.stats.framesPulled + 1 }, table)
  | some (.write bytes) =>
    if p.writeFd && written then
      ({ p with
          senderThread := some .check
          stats.framesWritten := p.stats.framesWritten + 1
          stats.bytesWritten := p.stats.bytesWritten + UInt64.ofNat bytes.length }, table)
    else
      ({ p with
          senderThread := some .ending
          stats.writeErrors := p.stats.writeErrors + 1 }, table)
  | some .ending => ({ p with running := false, senderThread := some .returned }, table)
  | some .returned => (p, table)

/-- `stop` up to the join. -/
def stop (p : UdpMpegTsPublisher) : UdpMpegTsPublisher := { p with running := false }

def join (p : UdpMpegTsPublisher) (table : List Child) : UdpMpegTsPublisher × List Child :=
  let p := closeWritePipe { p with senderThread := none }
  let (p, table) := p.waitChildIfExited table
  ({ p with streamService := false }, table)

def threadHandle (p : UdpMpegTsPublisher) : Handle :=
  match p.senderThread with
  | none => .empty
  | some .returned => .returned
  | some _ => .live

end UdpMpegTsPublisher

structure PublisherRun where
  publisher : UdpMpegTsPublisher := {}
  table : List Child := []
  stopping : Bool := false
  crashed : Bool := false
  deriving DecidableEq

inductive PublisherInput
  | start (config : UdpMpegTsPublisherConfig) (streamService : Bool) (io : SpawnIo)
  | stop
  | join
  | sender (frame : Option (List UInt8)) (written : Bool)
  | ends (ends : ℤ → Option Ending)

namespace PublisherRun

open UdpMpegTsPublisher

/-- A `stop` comes to its end with the sender thread returned, or none. -/
def joins (r : PublisherRun) : Bool :=
  r.stopping && (r.publisher.threadHandle == .empty || r.publisher.threadHandle == .returned)

def step (r : PublisherRun) (input : PublisherInput) : PublisherRun :=
  if r.crashed then r
  else
    match input with
    | .start config streamService io =>
      if r.stopping then r
      else
        let (result, publisher, table) := r.publisher.start config streamService io r.table
        { r with publisher := publisher, table := table, crashed := result.isNone }
    | .stop => if r.stopping then r else { r with publisher := r.publisher.stop, stopping := true }
    | .join =>
      if r.joins then
        let (publisher, table) := r.publisher.join r.table
        { r with publisher := publisher, table := table, stopping := false }
      else r
    | .sender frame written =>
      let (publisher, table) := r.publisher.senderStep frame written r.table
      { r with publisher := publisher, table := table }
    | .ends ends => { r with table := expire ends r.table }

end PublisherRun

end TriFusion.Protocol
