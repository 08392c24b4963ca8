import TriFusion.Foundation.SimpleYaml
import TriFusion.Library.Delimited
import TriFusion.Library.Runs
import TriFusion.Protocol.RtspServer

namespace TriFusion.Protocol

open Foundation Media Library

structure RtspServerConfig where
  host : Text := "0.0.0.0"
  port : UInt16 := 8554
  path : Text := "/live/main"
  deriving DecidableEq

namespace RtspServer

def kRtspMaxRequest : ℕ := 8192

def isTrimmed (c : Char) : Bool := c == '\r' || c == '\n' || c == ' ' || c == '\t'

def trim (s : Text) : Text :=
  (s.reverse.dropWhile isTrimmed).reverse.dropWhile fun c ↦ c == ' ' || c == '\t'

def endsRequest (request : Text) : Bool := "\r\n\r\n".toList.isSuffixOf request

/-- The calls of `recv` take what has arrived; `waiting` is a call that blocks. -/
def readRtspRequest (inbox : Text) : Delimited.Reading Char :=
  Delimited.readFrom endsRequest kRtspMaxRequest [] inbox

def getHeader (request name : Text) : Text :=
  let line? := (getlines request).find? fun line ↦
    line.contains ':' && lower (trim (line.takeWhile (· != ':'))) == lower name
  match line? with
  | none => []
  | some line => trim ((line.dropWhile (· != ':')).drop 1)

def getCSeq (request : Text) : Text :=
  let cseq := getHeader request "CSeq"
  if cseq = [] then "1" else cseq

def getMethod (request : Text) : Text :=
  if ' ' ∈ request then request.takeWhile (· != ' ') else []

def makeOptionsResponse (cseq : Text) : Text :=
  "RTSP/1.0 200 OK\r\nCSeq: ".toList ++ cseq ++
    "\r\nPublic: OPTIONS, DESCRIBE, SETUP, PLAY, TEARDOWN\r\n\r\n".toList

def sessionDescription : Text :=
  "v=0\r\no=- 0 0 IN IP4 127.0.0.1\r\ns=TriFusion MainStream\r\nc=IN IP4 0.0.0.0\r\n".toList ++
    "t=0 0\r\na=control:*\r\nm=video 0 RTP/AVP/TCP 26\r\na=control:trackID=0\r\n".toList ++
    "a=framerate:25\r\n".toList

def makeDescribeResponse (cseq baseUrl : Text) : Text :=
  "RTSP/1.0 200 OK\r\nCSeq: ".toList ++ cseq ++ "\r\nContent-Base: ".toList ++ baseUrl ++
    "/\r\nContent-Type: application/sdp\r\nContent-Length: ".toList ++
    decimal sessionDescription.length ++ "\r\n\r\n".toList ++ sessionDescription

def makeSetupResponse (cseq : Text) : Text :=
  "RTSP/1.0 200 OK\r\nCSeq: ".toList ++ cseq ++
    "\r\nTransport: RTP/AVP/TCP;unicast;interleaved=0-1\r\n".toList ++
    "Session: tri-fusion-rtsp\r\n\r\n".toList

def makePlayResponse (config : RtspServerConfig) (cseq : Text) : Text :=
  "RTSP/1.0 200 OK\r\nCSeq: ".toList ++ cseq ++
    "\r\nSession: tri-fusion-rtsp\r\nRTP-Info: url=".toList ++ config.path ++
    "/trackID=0;seq=0;rtptime=0\r\n\r\n".toList

def makeTeardownResponse (cseq : Text) : Text :=
  "RTSP/1.0 200 OK\r\nCSeq: ".toList ++ cseq ++ "\r\nSession: tri-fusion-rtsp\r\n\r\n".toList

def makeErrorResponse (cseq : Text) (code : ℕ) (reason : Text) : Text :=
  "RTSP/1.0 ".toList ++ decimal code ++ ' ' :: reason ++ "\r\nCSeq: ".toList ++ cseq ++
    "\r\n\r\n".toList

def baseUrl (config : RtspServerConfig) (request : Text) : Text :=
  let host := getHeader request "Host"
  "rtsp://".toList ++
      (if host = [] then "127.0.0.1:".toList ++ decimal config.port.toNat else host) ++
    config.path

/-- The text `clientLoop` answers a request with. -/
def response (config : RtspServerConfig) (request : Text) : Text :=
  let method := getMethod request
  let cseq := getCSeq request
  if method = "OPTIONS" then makeOptionsResponse cseq
  else if method = "DESCRIBE" then makeDescribeResponse cseq (baseUrl config request)
  else if method = "SETUP" then makeSetupResponse cseq
  else if method = "PLAY" then makePlayResponse config cseq
  else if method = "TEARDOWN" then makeTeardownResponse cseq
  else makeErrorResponse cseq 405 "Method Not Allowed"

end RtspServer

open RtspServer

/-- Where the thread of a connection stands: at the head of the request loop, in
`readRtspRequest`, at the head of the streaming loop, or done. -/
inductive ClientPhase
  | head
  | receiving
  | streaming
  | closed
  deriving DecidableEq

inductive ClientOutput
  | response (request text : Text)
  | rtp (data : List UInt8)
  deriving DecidableEq

/-- `taken` says how many bytes each next `sendAll` hands over before the socket fails. -/
structure ClientSocket where
  taken : List ℕ := []
  sent : List ClientOutput := []

def ClientSocket.sendAll {α : Type} (output : List α → ClientOutput) (data : List α)
    (w : ClientSocket) : Bool × ClientSocket :=
  let handed := data.take (w.taken.headD 0)
  (decide (data.length ≤ w.taken.headD 0),
    { taken := w.taken.tail
      sent := if handed.isEmpty then w.sent else w.sent ++ [output handed] })

/-- Bytes arrive, the client hangs up, the server is stopped, or the thread goes
through one turn of the loop it is in. -/
inductive ClientEvent
  | deliver (bytes : Text)
  | hangUp
  | stop
  | turn (frame : Option EncodedFrame) (taken : List ℕ)
  deriving DecidableEq

/-- One connection: `delivered` is all that has arrived, `inbox` what is not read yet. -/
structure RtspClient where
  phase : ClientPhase := .head
  running : Bool := true
  hungUp : Bool := false
  delivered : Text := []
  inbox : Text := []
  rtpSeq : UInt16 := 0
  sent : List ClientOutput := []

namespace RtspClient

variable (config : RtspServerConfig)

def afterResponse (method : Text) (sent : Bool) : ClientPhase :=
  if method = "TEARDOWN" then .closed
  else if !sent then .closed
  else if method = "PLAY" then .streaming
  else .head

def readTurn (s : RtspClient) (taken : List ℕ) : RtspClient :=
  match readRtspRequest s.inbox with
  | .waiting => if s.hungUp then { s with phase := .closed } else s
  | .refused => { s with phase := .closed }
  | .complete request rest =>
    let (sent, w) := ClientSocket.sendAll (.response request) (response config request)
      { taken := taken, sent := s.sent }
    { s with phase := afterResponse (getMethod request) sent, inbox := rest, sent := w.sent }

def streamTurn (s : RtspClient) (frame : Option EncodedFrame) (taken : List ℕ) : RtspClient :=
  if s.running then
    let (sent, rtpSeq, w) := streamLoop (ClientSocket.sendAll .rtp) 0x54524653 [frame] s.rtpSeq
      { taken := taken, sent := s.sent }
    { s with phase := if sent then .streaming else .closed, rtpSeq := rtpSeq, sent := w.sent }
  else { s with phase := .closed }

def step (s : RtspClient) : ClientEvent → RtspClient
  | .deliver bytes => { s with delivered := s.delivered ++ bytes, inbox := s.inbox ++ bytes }
  | .hangUp => { s with hungUp := true }
  | .stop => { s with running := false }
  | .turn frame taken =>
    match s.phase with
    | .head => { s with phase := if s.running then .receiving else .closed }
    | .receiving => s.readTurn config taken
    | .streaming => s.streamTurn frame taken
    | .closed => s

def run (s : RtspClient) (events : List ClientEvent) : RtspClient :=
  Runs.exec (step config) s events

end RtspClient

end TriFusion.Protocol
