import TriFusion.Media.Frames
import TriFusion.Protocol.JpegParser

namespace TriFusion.Protocol

open Media Library.Words

variable {ω : Type}

namespace RtspServer

def kRtpVersion : UInt8 := 2

def kRtpPayloadJpeg : UInt8 := 26

def kInterleavedRtpChannel : UInt8 := 0

def rtpTimestampFromPtsMs (ptsMs : Int64) : UInt32 :=
  let ptsMs := if ptsMs < 0 then 0 else ptsMs
  ((ptsMs.toUInt64 * 90000) / 1000).toUInt32

def writeBe16 (v : UInt16) : List UInt8 := [((v >>> 8) &&& 0xff).toUInt8, (v &&& 0xff).toUInt8]

def writeBe24 (v : UInt32) : List UInt8 :=
  [((v >>> 16) &&& 0xff).toUInt8, ((v >>> 8) &&& 0xff).toUInt8, (v &&& 0xff).toUInt8]

def writeBe32 (v : UInt32) : List UInt8 :=
  [((v >>> 24) &&& 0xff).toUInt8, ((v >>> 16) &&& 0xff).toUInt8, ((v >>> 8) &&& 0xff).toUInt8,
    (v &&& 0xff).toUInt8]

structure FrameHeader where
  info : JpegRtpInfo
  timestamp : UInt32
  ssrc : UInt32

def rtpHeader (h : FrameHeader) (marker : Bool) (seq : UInt16) : List UInt8 :=
  [kRtpVersion <<< 6, (if marker then 0x80 else 0x00) ||| kRtpPayloadJpeg] ++ writeBe16 seq ++
    writeBe32 h.timestamp ++ writeBe32 h.ssrc

def jpegHeader (info : JpegRtpInfo) (offset : ℕ) (withQtable : Bool) : List UInt8 :=
  [0x00] ++ writeBe24 (UInt32.ofNat offset) ++
    [info.type, if withQtable then 128 else 75, (info.width / 8).toUInt8, (info.height / 8).toUInt8]

def qtableHeader (info : JpegRtpInfo) (withQtable : Bool) : List UInt8 :=
  if withQtable then
    [0x00, 0x00] ++ writeBe16 (UInt16.ofNat info.quantTables.length) ++ info.quantTables
  else []

def packet (h : FrameHeader) (offset : ℕ) (withQtable marker : Bool) (seq : UInt16)
    (chunk : List UInt8) : List UInt8 :=
  rtpHeader h marker seq ++ jpegHeader h.info offset withQtable ++
    qtableHeader h.info withQtable ++ chunk

def tcpHeader (pkt : List UInt8) : List UInt8 :=
  [0x24, kInterleavedRtpChannel] ++ writeBe16 (UInt16.ofNat pkt.length)

def maxPacket : ℕ := 1400

def withQtable (info : JpegRtpInfo) (firstPacket : Bool) : Bool :=
  firstPacket && !info.quantTables.isEmpty

/-- `fixedLen` of the loop, the length of the headers. -/
def fixedLen (info : JpegRtpInfo) (firstPacket : Bool) : ℕ :=
  12 + 8 + (if withQtable info firstPacket then 4 + info.quantTables.length else 0)

/-- `chunk` of the loop, the number of scan bytes in the next packet. -/
def chunkSize (info : JpegRtpInfo) (firstPacket : Bool) (offset : ℕ) : ℕ :=
  let maxScanPayload := maxPacket - fixedLen info firstPacket
  let remain := info.scan.length - offset
  if maxScanPayload < remain then maxScanPayload else remain

theorem chunkSize_pos {info : JpegRtpInfo} {firstPacket : Bool} {offset : ℕ}
    (hf : fixedLen info firstPacket < maxPacket) (ho : offset < info.scan.length) :
    0 < chunkSize info firstPacket offset := by
  unfold chunkSize
  dsimp only
  split <;> omega

section Sending

variable (sendAll : List UInt8 → ω → Bool × ω)

/-- The loop of `sendMjpegRtpFrame`, over the offset of the next scan byte. -/
def sendLoop (h : FrameHeader) (offset : ℕ) (firstPacket : Bool) (rtpSeq : UInt16) (w : ω) :
    Bool × UInt16 × ω :=
  if offset < h.info.scan.length then
    if maxPacket ≤ fixedLen h.info firstPacket then (false, rtpSeq, w)
    else
      let chunk := chunkSize h.info firstPacket offset
      let marker := decide (h.info.scan.length ≤ offset + chunk)
      let pkt := packet h offset (withQtable h.info firstPacket) marker rtpSeq
        ((h.info.scan.drop offset).take chunk)
      match sendAll (tcpHeader pkt) w with
      | (false, w) => (false, rtpSeq + 1, w)
      | (true, w) =>
        match sendAll pkt w with
        | (false, w) => (false, rtpSeq + 1, w)
        | (true, w) => sendLoop h (offset + chunk) false (rtpSeq + 1) w
  else (true, rtpSeq, w)
termination_by h.info.scan.length - offset
decreasing_by
  have hc := chunkSize_pos (Nat.lt_of_not_le ‹_›) ‹offset < _›
  omega

/-- A frame the parser refuses is left out. -/
def sendMjpegRtpFrame (frame : EncodedFrame) (rtpSeq : UInt16) (ssrc : UInt32) (w : ω) :
    Bool × UInt16 × ω :=
  match parseJpegForRtp frame.data {} with
  | some (some info) =>
    sendLoop sendAll ⟨info, rtpTimestampFromPtsMs frame.ptsMs, ssrc⟩ 0 true rtpSeq w
  | _ => (true, rtpSeq, w)

/-- The loop of `streamMjpegOverTcp` over what `waitFrame` answers while the server runs. -/
def streamLoop (ssrc : UInt32) : List (Option EncodedFrame) → UInt16 → ω → Bool × UInt16 × ω
  | [], rtpSeq, w => (true, rtpSeq, w)
  | none :: waits, rtpSeq, w => streamLoop ssrc waits rtpSeq w
  | some frame :: waits, rtpSeq, w =>
    if frame.data = [] then streamLoop ssrc waits rtpSeq w
    else
      match sendMjpegRtpFrame sendAll frame rtpSeq ssrc w with
      | (false, rtpSeq, w) => (false, rtpSeq, w)
      | (true, rtpSeq, w) => streamLoop ssrc waits rtpSeq w

def streamMjpegOverTcp (waits : List (Option EncodedFrame)) (w : ω) : Bool × ω :=
  let (sent, _, w) := streamLoop sendAll 0x54524653 waits 0 w
  (sent, w)

end Sending

end RtspServer

end TriFusion.Protocol
