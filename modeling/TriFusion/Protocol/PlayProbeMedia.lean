import TriFusion.Foundation.Scalars
import TriFusion.Library.Marks

namespace TriFusion.Protocol

open Foundation Library

variable {ω : Type}

namespace Gb28181PlayProbe

/-! The H.264 and program stream files of the play probe and their way into RTP. -/

def startCode4 : List UInt8 := [0x00, 0x00, 0x00, 0x01]

def startCode3 : List UInt8 := [0x00, 0x00, 0x01]

/-- What a turn of the scan of `splitAnnexBFrames` finds; it stops four bytes before the end. -/
def annexBCodeAt (l : List UInt8) : ℕ :=
  if l.length ≤ 4 then 0
  else if startCode4.isPrefixOf l then 4
  else if startCode3.isPrefixOf l then 3
  else 0

structure FrameBuilder where
  frames : List (List UInt8) := []
  current : List UInt8 := []
  currentHasVcl : Bool := false

def FrameBuilder.turn (data : List UInt8) (b : FrameBuilder) (span : ℕ × ℕ) : FrameBuilder :=
  let (begin, finish) := span
  let nalOffset := if startCode4.isPrefixOf (data.drop begin) then begin + 4 else begin + 3
  if finish ≤ nalOffset then b
  else
    let nalType := data.getD nalOffset 0 &&& 0x1f
    let isVcl := decide (1 ≤ nalType ∧ nalType ≤ 5)
    let b :=
      if isVcl ∧ b.currentHasVcl ∧ b.current ≠ [] then
        { b with frames := b.frames ++ [b.current], current := [], currentHasVcl := false }
      else b
    { b with
      current := b.current ++ Marks.slice data span
      currentHasVcl := isVcl || b.currentHasVcl }

def FrameBuilder.finish (b : FrameBuilder) : List (List UInt8) :=
  if b.current = [] then b.frames else b.frames ++ [b.current]

def append32 (v : UInt32) : List UInt8 :=
  [((v >>> 24) &&& 0xff).toUInt8, ((v >>> 16) &&& 0xff).toUInt8, ((v >>> 8) &&& 0xff).toUInt8,
    (v &&& 0xff).toUInt8]

def append16 (v : UInt16) : List UInt8 := [((v >>> 8) &&& 0xff).toUInt8, (v &&& 0xff).toUInt8]

def to90k (frameIndex : UInt64) (fps : Int32) : UInt64 :=
  frameIndex * 90000 / fps.toInt64.toUInt64

def makeRtpPacket (payload : List UInt8) (seq : UInt16) (timestamp ssrc : UInt32)
    (marker : Bool) : List UInt8 :=
  [0x80, (if marker then 0x80 else 0x00) ||| 96] ++ append16 seq ++ append32 timestamp ++
    append32 ssrc ++ payload

/-- `std::stoul`, none where it throws: a sign is read and wraps around. -/
def stoul (s : Text) : Option UInt64 :=
  let t := s.dropWhile isSpace
  let unsigned := if t.head? = some '-' ∨ t.head? = some '+' then t.drop 1 else t
  let digits := unsigned.takeWhile Char.isDigit
  if digits = [] then none
  else
    let n := Nat.ofDigitChars 10 digits 0
    if n < 2 ^ 64 then
      some (if t.head? = some '-' then -UInt64.ofNat n else UInt64.ofNat n)
    else none

def parseSsrc (text : Text) : UInt32 :=
  if text = [] then 1
  else
    match stoul text with
    | some v => v.toUInt32
    | none => 1

def packStartCode : List UInt8 := [0x00, 0x00, 0x01, 0xBA]

def packCodeAt (l : List UInt8) : ℕ := if packStartCode.isPrefixOf l then 4 else 0

def splitPsPacks (data : List UInt8) : List (List UInt8) :=
  let starts := Marks.scan packCodeAt 0 0 data
  if starts = [] then [data]
  else
    ((Marks.spans starts data.length).filter fun span ↦ span.1 < span.2).map (Marks.slice data)

structure Destination where
  ip : Text
  port : UInt16
deriving DecidableEq

structure RtpSocket (ω : Type) where
  socket : ω → Bool × ω
  inetPton : Text → Bool
  sendto : Destination → List UInt8 → ω → Bool × ω

def maxPayload : ℕ := 1200

section Sending

variable (net : RtpSocket ω) (dst : Destination)

def sendPack (timestamp ssrc : UInt32) (ps : List UInt8) (offset : ℕ) (seq : UInt16) (w : ω) :
    Bool × UInt16 × ω :=
  if offset < ps.length then
    let chunk := min maxPayload (ps.length - offset)
    let marker := decide (ps.length ≤ offset + chunk)
    let rtp := makeRtpPacket ((ps.drop offset).take chunk) seq timestamp ssrc marker
    match net.sendto dst rtp w with
    | (false, w) => (false, seq + 1, w)
    | (true, w) => sendPack timestamp ssrc ps (offset + chunk) (seq + 1) w
  else (true, seq, w)
termination_by ps.length - offset
decreasing_by
  unfold maxPayload
  omega

/-- The loop over the frames or packs of the file; `pack` is what is sent of one. -/
def sendPacks (pack : List UInt8 → UInt64 → List UInt8) (ssrc : UInt32) (fps : Int32) :
    List (List UInt8) → UInt16 → UInt64 → ω → Bool × UInt16 × UInt64 × ω
  | [], seq, frameIndex, w => (true, seq, frameIndex, w)
  | frame :: rest, seq, frameIndex, w =>
    match sendPack net dst (to90k frameIndex fps).toUInt32 ssrc (pack frame frameIndex) 0 seq w with
    | (false, seq, w) => (false, seq, frameIndex, w)
    | (true, seq, w) => sendPacks pack ssrc fps rest seq (frameIndex + 1) w

def sendRounds (pack : List UInt8 → UInt64 → List UInt8) (ssrc : UInt32) (fps : Int32)
    (frames : List (List UInt8)) : ℕ → UInt16 → UInt64 → ω → Bool × ω
  | 0, _, _, w => (true, w)
  | rounds + 1, seq, frameIndex, w =>
    match sendPacks net dst pack ssrc fps frames seq frameIndex w with
    | (false, _, _, w) => (false, w)
    | (true, seq, frameIndex, w) => sendRounds pack ssrc fps frames rounds seq frameIndex w

end Sending

/-- What `streamH264AsGbPsRtp` and `streamPsFileAsRtp` do once the file is cut: no answer where
the division by `fps` is not defined. -/
def streamFrames (net : RtpSocket ω) (pack : List UInt8 → UInt64 → List UInt8)
    (frames : List (List UInt8)) (dstIp : Text) (dstPort : Int32) (ssrcText : Text)
    (fps loopCount : Int32) (w : ω) : Option Bool × ω :=
  match net.socket w with
  | (false, w) => (some false, w)
  | (true, w) =>
    if net.inetPton dstIp then
      if fps = 0 then (none, w)
      else
        let (sent, w) := sendRounds net ⟨dstIp, dstPort.toInt16.toUInt16⟩ pack (parseSsrc ssrcText)
          fps frames loopCount.toInt.toNat 0 0 w
        (some sent, w)
    else (some false, w)

def streamPsFileAsRtp (net : RtpSocket ω) (loadFile : Text → List UInt8) (psPath dstIp : Text)
    (dstPort : Int32) (ssrcText : Text) (fps loopCount : Int32) (w : ω) : Option Bool × ω :=
  let psFile := loadFile psPath
  if psFile = [] then (some false, w)
  else
    let packs := splitPsPacks psFile
    if packs = [] then (some false, w)
    else
      streamFrames net (fun pack _ ↦ pack) packs dstIp dstPort ssrcText fps loopCount w

end Gb28181PlayProbe

end TriFusion.Protocol
