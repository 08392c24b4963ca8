import TriFusion.Library.EndedLines
import TriFusion.Library.Search
import TriFusion.Protocol.ProtocolConfigLoader

namespace TriFusion.Protocol

open Foundation Library

namespace Gb28181PlayProbe

/-! The SIP messages of the play probe. Of MD5 the model knows that it is a function. -/

structure InviteInfo where
  raw : Text := []
  callId : Text := []
  «from» : Text := []
  «to» : Text := []
  via : Text := []
  contact : Text := []
  cseq : Text := []
  mediaIp : Text := []
  mediaPort : Int32 := 0
  ssrc : Text := []
  tcpMode : Bool := false
  deriving DecidableEq

def md5Hex (md5 : Text → List UInt8) (text : Text) : Text :=
  (md5 text).flatMap fun c ↦ [Nat.digitChar (c.toNat / 16), Nat.digitChar (c.toNat % 16)]

/-- A line without the carriage return that `std::getline` leaves. -/
def dropReturn (line : Text) : Text := if line.getLast? = some '\r' then line.dropLast else line

def getHeaderLine (text name : Text) : Text :=
  let lead := name ++ ":"
  match ((getlines text).map dropReturn).find? fun line ↦ (lower lead).isPrefixOf (lower line) with
  | none => []
  | some line => (line.dropWhile (· ≠ ':')).drop 1

def isParamChar (c : Char) : Bool := c != '"' && c != ',' && c != '\r' && c != '\n'

/-- The capture where the pattern of `getHeaderParam` matches at the head of a text. -/
def paramAt (key text : Text) : Option Text :=
  if (lower (key ++ "=".toList)).isPrefixOf (lower text) then
    let rest := text.drop (key.length + 1)
    let value := (if rest.head? = some '"' then rest.tail else rest).takeWhile isParamChar
    if value = [] then none else some value
  else none

def getHeaderParam (text key : Text) : Text := (Search.firstAt (paramAt key) text).getD []

def getXmlValue (xml tag : Text) : Text :=
  match Search.behind ("<".toList ++ tag ++ ">".toList) xml with
  | none => []
  | some rest => ((Search.upTo ("</".toList ++ tag ++ ">".toList) rest).map Str.trim).getD []

def containsStatus (text : Text) (code : ℕ) : Bool :=
  decide ("SIP/2.0 ".toList ++ decimal code <:+: text)

def makeBranch (time : ℤ) : Text := "z9hG4bK-trifusion-" ++ signedDecimal time

def makeCallId (deviceId : Text) (time : ℤ) : Text :=
  deviceId ++ "-" ++ signedDecimal time ++ "@tri-fusion-camera"

def crlf (lines : List Text) : Text := EndedLines.ended '\r' '\n' lines

def sipText (lines : List Text) (body : Text) : Text := crlf lines ++ "\r\n" ++ body

section Building

variable (cfg : Gb28181Config)

def serverUri : Text := "sip:" ++ cfg.server.id ++ "@" ++ cfg.server.domain

def viaLine (branch : Text) : Text :=
  "Via: SIP/2.0/UDP " ++ cfg.local.ip ++ ":" ++ portText cfg.local.port ++ ";branch=" ++ branch ++
    ";rport"

def fromLine (tag : Text) : Text :=
  "From: <sip:" ++ cfg.local.deviceId ++ "@" ++ cfg.local.domain ++ ">;tag=" ++ tag

def contactLine : Text :=
  "Contact: <sip:" ++ cfg.local.deviceId ++ "@" ++ cfg.local.ip ++ ":" ++
    portText cfg.local.port ++ ">"

def userAgentLine : Text := "User-Agent: TriFusionCamera-L8-GB28181-Play-Probe"

/-- What `buildRegisterNoAuth` and `buildRegisterAuth` begin with. -/
def registerLines (cseq : Int32) (branch callId : Text) : List Text :=
  ["REGISTER " ++ serverUri cfg ++ " SIP/2.0",
    viaLine cfg branch,
    fromLine cfg "tri-fusion",
    "To: <sip:" ++ cfg.local.deviceId ++ "@" ++ cfg.local.domain ++ ">",
    "Call-ID: " ++ callId,
    "CSeq: " ++ intText cseq ++ " REGISTER",
    contactLine cfg,
    "Max-Forwards: 70",
    userAgentLine,
    "Expires: " ++ intText cfg.reg.expiresSec]

def buildRegisterNoAuth (cseq : Int32) (branch callId : Text) : Text :=
  sipText (registerLines cfg cseq branch callId ++ ["Content-Length: 0".toList]) []

def devicePassword : Text :=
  if cfg.server.password = [] then cfg.local.password else cfg.server.password

/-- The `response` of `buildRegisterAuth`. -/
def digestResponse (md5 : Text → List UInt8) (realm nonce qop : Text) : Text :=
  let ha1 := md5Hex md5 (cfg.local.deviceId ++ ":" ++ realm ++ ":" ++ devicePassword cfg)
  let ha2 := md5Hex md5 ("REGISTER:" ++ serverUri cfg)
  if qop ≠ [] then
    md5Hex md5 (ha1 ++ ":" ++ nonce ++ ":00000001:tri-fusion-cnonce:" ++ qop ++ ":" ++ ha2)
  else md5Hex md5 (ha1 ++ ":" ++ nonce ++ ":" ++ ha2)

def authExtra (qop : Text) : Text :=
  if qop ≠ [] then ", qop=" ++ qop ++ ", nc=00000001, cnonce=\"tri-fusion-cnonce\"" else []

def authorizationLine (md5 : Text → List UInt8) (realm nonce qop : Text) : Text :=
  "Authorization: Digest username=\"" ++ cfg.local.deviceId ++ "\", realm=\"" ++ realm ++
    "\", nonce=\"" ++ nonce ++ "\", uri=\"" ++ serverUri cfg ++ "\", response=\"" ++
    digestResponse cfg md5 realm nonce qop ++ "\", algorithm=MD5" ++ authExtra qop

def buildRegisterAuth (md5 : Text → List UInt8) (cseq : Int32)
    (branch callId realm nonce qop : Text) : Text :=
  sipText (registerLines cfg cseq branch callId ++
    [authorizationLine cfg md5 realm nonce qop, "Content-Length: 0"]) []

/-- What the two MESSAGE requests share. -/
def messageText (tag : Text) (cseq : Int32) (branch callId xml : Text) : Text :=
  sipText
    ["MESSAGE " ++ serverUri cfg ++ " SIP/2.0",
      viaLine cfg branch,
      fromLine cfg tag,
      "To: <sip:" ++ cfg.server.id ++ "@" ++ cfg.server.domain ++ ">",
      "Call-ID: " ++ callId,
      "CSeq: " ++ intText cseq ++ " MESSAGE",
      "Max-Forwards: 70",
      userAgentLine,
      "Content-Type: Application/MANSCDP+xml",
      "Content-Length: " ++ decimal xml.length] xml

def keepaliveXml (sn : Int32) : Text :=
  crlf
    ["<?xml version=\"1.0\" encoding=\"GB2312\"?>",
      "<Notify>",
      "<CmdType>Keepalive</CmdType>",
      "<SN>" ++ intText sn ++ "</SN>",
      "<DeviceID>" ++ cfg.local.deviceId ++ "</DeviceID>",
      "<Status>OK</Status>",
      "</Notify>"]

def buildKeepaliveMessage (cseq : Int32) (branch callId : Text) (sn : Int32) : Text :=
  messageText cfg "tri-fusion-keepalive" cseq branch callId (keepaliveXml cfg sn)

/-- What the responses to the three queries begin with. -/
def responseHead (cmdType : Text) (sn : Int32) : List Text :=
  ["<?xml version=\"1.0\" encoding=\"GB2312\"?>",
    "<Response>",
    "<CmdType>" ++ cmdType ++ "</CmdType>",
    "<SN>" ++ intText sn ++ "</SN>",
    "<DeviceID>" ++ cfg.local.deviceId ++ "</DeviceID>"]

def buildCatalogResponseXml (sn : Int32) : Text :=
  crlf (responseHead cfg "Catalog" sn ++ (
    ["<SumNum>1</SumNum>",
      "<DeviceList Num=\"1\">",
      "<Item>",
      "<DeviceID>" ++ cfg.channel.id ++ "</DeviceID>",
      "<Name>" ++ cfg.channel.name ++ "</Name>",
      "<Manufacturer>" ++ cfg.local.manufacturer ++ "</Manufacturer>",
      "<Model>" ++ cfg.local.model ++ "</Model>",
      "<Owner>TriFusion</Owner>",
      "<CivilCode>" ++ cfg.local.domain ++ "</CivilCode>",
      "<Address>TriFusion Camera</Address>",
      "<Parental>0</Parental>",
      "<ParentID>" ++ cfg.local.deviceId ++ "</ParentID>",
      "<SafetyWay>0</SafetyWay>",
      "<RegisterWay>1</RegisterWay>",
      "<Secrecy>0</Secrecy>",
      "<Status>ON</Status>",
      "</Item>",
      "</DeviceList>",
      "</Response>"] : List Text))

def buildDeviceInfoResponseXml (sn : Int32) : Text :=
  crlf (responseHead cfg "DeviceInfo" sn ++ (
    ["<DeviceName>" ++ cfg.local.model ++ "</DeviceName>",
      "<Result>OK</Result>",
      "<Manufacturer>" ++ cfg.local.manufacturer ++ "</Manufacturer>",
      "<Model>" ++ cfg.local.model ++ "</Model>",
      "<Firmware>" ++ cfg.local.firmware ++ "</Firmware>",
      "<Channel>1</Channel>",
      "</Response>"] : List Text))

def buildDeviceStatusResponseXml (sn : Int32) : Text :=
  crlf (responseHead cfg "DeviceStatus" sn ++ (
    ["<Result>OK</Result>",
      "<Online>ONLINE</Online>",
      "<Status>OK</Status>",
      "</Response>"] : List Text))

/-- What `sendGbXmlMessage` sends; it reads the time twice. -/
def gbXmlMessage (xml : Text) (cseq : Int32) (branchTime callTime : ℤ) : Text :=
  messageText cfg "tri-fusion-response" cseq (makeBranch branchTime)
    (cfg.local.deviceId ++ "-" ++ signedDecimal callTime ++ "-response@tri-fusion-camera") xml

/-- The 200 of `answerSimpleMessage`. -/
def messageOk (msg : Text) : Text :=
  sipText
    ["SIP/2.0 200 OK",
      "Via:" ++ getHeaderLine msg "Via",
      "From:" ++ getHeaderLine msg "From",
      "To:" ++ getHeaderLine msg "To",
      "Call-ID:" ++ Str.trim (getHeaderLine msg "Call-ID"),
      "CSeq:" ++ getHeaderLine msg "CSeq",
      userAgentLine,
      "Content-Length: 0"] []

def querySn (msg : Text) : Int32 :=
  let snText := getXmlValue msg "SN"
  if snText = [] then 1 else (stoi snText).getD 1

def queryXml (msg : Text) : Option Text :=
  let cmdType := getXmlValue msg "CmdType"
  if cmdType = "Catalog" then some (buildCatalogResponseXml cfg (querySn msg))
  else if cmdType = "DeviceInfo" then some (buildDeviceInfoResponseXml cfg (querySn msg))
  else if cmdType = "DeviceStatus" then some (buildDeviceStatusResponseXml cfg (querySn msg))
  else none

def answerSdp (inv : InviteInfo) (localRtpPort : ℕ) : Text :=
  crlf
    ["v=0",
      "o=" ++ cfg.local.deviceId ++ " 0 0 IN IP4 " ++ cfg.local.ip,
      "s=Play",
      "c=IN IP4 " ++ cfg.local.ip,
      "t=0 0",
      "m=video " ++ decimal localRtpPort ++ " RTP/AVP 96",
      "a=sendonly",
      "a=rtpmap:96 PS/90000",
      "y=" ++ (if inv.ssrc = [] then cfg.media.ssrc else inv.ssrc),
      "f=v/2/30/1/4096a/0/0/0"]

def buildSip200ForInvite (inv : InviteInfo) (localRtpPort : ℕ) : Text :=
  let body := answerSdp cfg inv localRtpPort
  sipText
    ["SIP/2.0 200 OK",
      "Via:" ++ inv.via,
      "From:" ++ inv.«from»,
      "To:" ++ inv.«to» ++ ";tag=tri-fusion-play",
      "Call-ID:" ++ inv.callId,
      "CSeq:" ++ inv.cseq,
      contactLine cfg,
      userAgentLine,
      "Content-Type: application/sdp",
      "Content-Length: " ++ decimal body.length] body

end Building

/-- The run of characters that a pattern of `parseInvite` captures behind its fixed part. -/
def runAt (lead : Text) (p : Char → Bool) (text : Text) : Option Text :=
  if lead.isPrefixOf text then
    let run := (text.drop lead.length).takeWhile p
    if run = [] then none else some run
  else none

def captured (lead : Text) (p : Char → Bool) (msg : Text) : Text :=
  (Search.firstAt (runAt lead p) msg).getD []

/-- What `parseInvite` comes to; `aborted` is the exception of `std::stoi` that nobody catches. -/
inductive InviteReading
  | refused
  | accepted (inv : InviteInfo)
  | aborted
  deriving DecidableEq

def mediaPortOf (msg : Text) : Option Int32 :=
  let digits := captured "m=video " Char.isDigit msg
  if digits = [] then some 0 else stoi digits

/-- The carriage return that the pattern of the SSRC may begin with changes nothing of what it
captures. -/
def parseInvite (msg : Text) : InviteReading :=
  if !Str.startsWith msg "INVITE " then .refused
  else
    match mediaPortOf msg with
    | none => .aborted
    | some mediaPort =>
      let inv : InviteInfo :=
        { raw := msg
          callId := Str.trim (getHeaderLine msg "Call-ID")
          «from» := getHeaderLine msg "From"
          «to» := getHeaderLine msg "To"
          via := getHeaderLine msg "Via"
          cseq := getHeaderLine msg "CSeq"
          contact := getHeaderLine msg "Contact"
          tcpMode := decide ("TCP/RTP".toList <:+: msg) || decide ("RTP/AVP/TCP".toList <:+: msg) ||
            decide ("a=setup:".toList <:+: msg)
          mediaIp := captured "c=IN IP4 " (fun c ↦ c.isDigit || c == '.') msg
          mediaPort := mediaPort
          ssrc := captured "\ny=" Char.isDigit msg }
      if inv.mediaIp = [] ∨ inv.mediaPort ≤ 0 then .refused else .accepted inv

end Gb28181PlayProbe

end TriFusion.Protocol
