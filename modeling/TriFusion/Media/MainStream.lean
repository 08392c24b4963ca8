import TriFusion.Foundation.Config
import TriFusion.Media.Frames

namespace TriFusion.Media

open Foundation

inductive StreamState
  | stopped
  | running
  | error
  deriving DecidableEq, Repr

structure StreamProfile where
  codec : MppCodec := .h264
  width : UInt32 := 0
  height : UInt32 := 0
  fps : UInt32 := 25
  bitrateKbps : UInt32 := 4096
  gop : UInt32 := 25
  lowLatency : Bool := true
  name : Text := "main"
  deriving DecidableEq

structure StreamStats where
  framesIn : UInt64 := 0
  framesDropped : UInt64 := 0
  lastPtsMs : Int64 := 0
  deriving DecidableEq

structure MainStream where
  frames : List EncodedFrame := []
  capacity : ℕ := 30
  profile : StreamProfile := {}
  stats : StreamStats := {}
  state : StreamState := .stopped
  deriving DecidableEq

def codecFromString (codec : Text) : MppCodec :=
  if codec = "h265".toList ∨ codec = "H265".toList ∨ codec = "hevc".toList ∨
      codec = "HEVC".toList then .h265
  else if codec = "mjpeg".toList ∨ codec = "MJPEG".toList then .mjpeg
  else .h264

namespace MainStream

def init (config : MediaConfig) (s : MainStream) : Result Unit × MainStream :=
  let profile : StreamProfile :=
    { codec := codecFromString config.codec
      width := config.width.toUInt32
      height := config.height.toUInt32
      fps := config.fps.toUInt32
      bitrateKbps := config.bitrate.toUInt32
      gop := config.gop.toUInt32
      lowLatency := config.lowLatency
      name := s.profile.name }
  (.ok (),
    { frames := []
      capacity :=
        if profile.lowLatency then 1 else if profile.fps = 0 then 30 else profile.fps.toNat
      profile := profile
      stats := {}
      state := .stopped })

def start (s : MainStream) : MainStream := { s with state := .running }

def stop (s : MainStream) : MainStream := { s with state := .stopped }

def clear (s : MainStream) : MainStream := { s with frames := [] }

/-- The loop of `push` that drops old frames until one more fits; `dropped` counts them. -/
def makeRoom (capacity : ℕ) : List EncodedFrame → UInt64 → List EncodedFrame × UInt64
  | [], dropped => ([], dropped)
  | frame :: rest, dropped =>
    if capacity ≤ rest.length + 1 then makeRoom capacity rest (dropped + 1)
    else (frame :: rest, dropped)

def push (frame : EncodedFrame) (s : MainStream) : Result Unit × MainStream :=
  if s.state ≠ .running then (.fail .mainStreamNotReady "main stream is not running", s)
  else
    let (frames, dropped) := makeRoom s.capacity s.frames s.stats.framesDropped
    (.ok (),
      { s with
        frames := frames ++ [frame]
        stats := ⟨s.stats.framesIn + 1, dropped, frame.ptsMs⟩ })

def wakes (s : MainStream) : Bool := s.state != .running || !s.frames.isEmpty

def takeFrame (s : MainStream) : Option EncodedFrame × MainStream :=
  let s :=
    if s.profile.lowLatency ∧ 1 < s.frames.length then
      { s with
        frames := s.frames.drop (s.frames.length - 1)
        stats.framesDropped := s.stats.framesDropped + UInt64.ofNat (s.frames.length - 1) }
    else s
  match s.frames with
  | [] => (none, s)
  | frame :: rest => (some frame, { s with frames := rest })

/-- `none` while the call waits: without a timeout it waits until the predicate holds. -/
def waitFrame (timeoutMs : Int32) (s : MainStream) : Option (Option EncodedFrame × MainStream) :=
  if timeoutMs < 0 ∧ !s.wakes then none else some s.takeFrame

def latestFrame (s : MainStream) : Option EncodedFrame := s.frames.getLast?

end MainStream

end TriFusion.Media
