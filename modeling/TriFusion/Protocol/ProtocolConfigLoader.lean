import TriFusion.Foundation.SimpleYaml

namespace TriFusion.Protocol

open Foundation

structure Gb28181LocalConfig where
  deviceId : Text := "34020000001320000001"
  domain : Text := "3402000000"
  ip : Text := "0.0.0.0"
  port : UInt16 := 5060
  password : Text := "12345678"
  manufacturer : Text := "TriFusion"
  model : Text := "TriFusion-Camera"
  firmware : Text := "1.0.0"
  deriving DecidableEq

structure Gb28181ChannelConfig where
  id : Text := "34020000001320000001"
  name : Text := "Tri-Fusion MainStream"
  deriving DecidableEq

structure Gb28181ServerConfig where
  id : Text := "41010500002000000001"
  domain : Text := "4101050000"
  ip : Text := "192.168.1.153"
  port : UInt16 := 8118
  password : Text := "12345678"
  deriving DecidableEq

structure Gb28181RegisterConfig where
  expiresSec : Int32 := 3600
  retryIntervalSec : Int32 := 5
  deriving DecidableEq

structure Gb28181KeepaliveConfig where
  intervalSec : Int32 := 60
  timeoutSec : Int32 := 3
  deriving DecidableEq

structure Gb28181MediaConfig where
  rtpLocalPort : UInt16 := 30000
  ssrc : Text := "0000000001"
  transport : Text := "udp"
  deriving DecidableEq

structure Gb28181Config where
  enable : Bool := true
  «local» : Gb28181LocalConfig := {}
  channel : Gb28181ChannelConfig := {}
  server : Gb28181ServerConfig := {}
  reg : Gb28181RegisterConfig := {}
  keepalive : Gb28181KeepaliveConfig := {}
  media : Gb28181MediaConfig := {}
  deriving DecidableEq

structure OnvifConfig where
  enable : Bool := true
  listenIp : Text := "0.0.0.0"
  listenPort : UInt16 := 8080
  authEnable : Bool := false
  username : Text := "admin"
  password : Text := "admin"
  rtspAdvertiseIp : Text := "0.0.0.0"
  rtspPort : UInt16 := 8554
  rtspPath : Text := "/live/main"
  deriving DecidableEq

structure PrivateApiConfig where
  enable : Bool := true
  listenIp : Text := "0.0.0.0"
  listenPort : UInt16 := 18080
  authEnable : Bool := false
  username : Text := "admin"
  password : Text := "admin"
  deriving DecidableEq

structure RtspConfig where
  enable : Bool := true
  bindIp : Text := "0.0.0.0"
  advertiseIp : Text := "0.0.0.0"
  port : UInt16 := 8554
  path : Text := "/live/main"
  authEnable : Bool := false
  username : Text := "admin"
  password : Text := "admin"
  deriving DecidableEq

structure ProtocolEndpointConfigSet where
  gb28181 : Gb28181Config := {}
  onvif : OnvifConfig := {}
  privateApi : PrivateApiConfig := {}
  rtsp : RtspConfig := {}
  deriving DecidableEq

def get (cfg : FlatConfig) (key fallback : Text) : Text :=
  match cfg.lookup key with
  | none => fallback
  | some v => Str.unquote v

def toInt (cfg : FlatConfig) (key : Text) (fallback : Int32) : Int32 :=
  match cfg.lookup key with
  | none => fallback
  | some v => (stoi (Str.unquote v)).getD fallback

def toBool (cfg : FlatConfig) (key : Text) (fallback : Bool) : Bool :=
  let text := lower (get cfg key (if fallback then "true" else "false"))
  if text = "true" ∨ text = "1" ∨ text = "yes" ∨ text = "on" then true
  else if text = "false" ∨ text = "0" ∨ text = "no" ∨ text = "off" then false
  else fallback

def toPort (cfg : FlatConfig) (key : Text) (fallback : UInt16) : UInt16 :=
  let v := toInt cfg key (Int32.ofNat fallback.toNat)
  if isValidPort v.toInt then UInt16.ofNat v.toInt.toNat else fallback

def parseOptionalYaml {ω : Type} (io : FileIo ω) (path : Text) (w : ω) : Result FlatConfig :=
  match parseSimpleYaml io path w with
  | .ok cfg => .ok cfg
  | .error e => if e.code = .notFound ∨ e.code = .ioError then .ok [] else .error e

def checkPort (port : UInt16) (name : Text) : Result Unit :=
  if isValidPort port.toNat then .ok () else .fail .configError (name ++ " is invalid")

def checkNotEmpty (value name : Text) : Result Unit :=
  if Str.trim value = [] then .fail .configError (name ++ " is empty") else .ok ()

def quote (s : Text) : Text := "\"" ++ s ++ "\""

def boolText (b : Bool) : Text := if b then "true" else "false"

def portText (port : UInt16) : Text := decimal port.toNat

def intText (n : Int32) : Text := signedDecimal n.toInt

/-- What a `std::ostringstream` holds after the insertions. -/
def ostream (pieces : List Text) : Text := pieces.flatten

namespace ProtocolConfigLoader

def joinPath (dir file : Text) : Text :=
  if dir = [] ∨ dir = "." then "./" ++ file
  else if dir.getLast? = some '/' then dir ++ file
  else dir ++ "/" ++ file

def validateGb28181 (config : Gb28181Config) : Result Unit :=
  if !config.enable then .ok () else do
    checkNotEmpty config.local.deviceId "gb28181.local.device_id"
    checkNotEmpty config.local.domain "gb28181.local.domain"
    checkNotEmpty config.local.ip "gb28181.local.ip"
    checkPort config.local.port "gb28181.local.port"
    checkNotEmpty config.server.id "gb28181.server.id"
    checkNotEmpty config.server.domain "gb28181.server.domain"
    checkNotEmpty config.server.ip "gb28181.server.ip"
    checkPort config.server.port "gb28181.server.port"
    if config.reg.expiresSec ≤ 0 then
      .fail .configError "gb28181.register.expires_sec must be positive"
    if config.keepalive.intervalSec ≤ 0 then
      .fail .configError "gb28181.keepalive.interval_sec must be positive"
    if config.media.transport ≠ "udp" ∧ config.media.transport ≠ "tcp" then
      .fail .configError "gb28181.media.transport must be udp or tcp"
    .ok ()

def validateOnvif (config : OnvifConfig) : Result Unit :=
  if !config.enable then .ok () else do
    checkNotEmpty config.listenIp "onvif.listen.ip"
    checkPort config.listenPort "onvif.listen.port"
    checkNotEmpty config.rtspPath "onvif.rtsp.path"
    checkPort config.rtspPort "onvif.rtsp.port"

def validatePrivateApi (config : PrivateApiConfig) : Result Unit :=
  if !config.enable then .ok () else do
    checkNotEmpty config.listenIp "private_api.listen.ip"
    checkPort config.listenPort "private_api.listen.port"

def validateRtsp (config : RtspConfig) : Result Unit :=
  if !config.enable then .ok () else do
    checkNotEmpty config.bindIp "rtsp.bind_ip"
    checkNotEmpty config.path "rtsp.path"
    checkPort config.port "rtsp.port"

def readGb28181 (m : FlatConfig) : Gb28181Config :=
  let out : Gb28181Config := {}
  { enable := toBool m "gb28181.enable" out.enable
    «local» :=
      { deviceId := get m "gb28181.local.device_id" out.local.deviceId
        domain := get m "gb28181.local.domain" out.local.domain
        ip := get m "gb28181.local.ip" out.local.ip
        port := toPort m "gb28181.local.port" out.local.port
        password := get m "gb28181.local.password" out.local.password
        manufacturer := get m "gb28181.local.manufacturer" out.local.manufacturer
        model := get m "gb28181.local.model" out.local.model
        firmware := get m "gb28181.local.firmware" out.local.firmware }
    channel :=
      { id := get m "gb28181.channel.id" out.channel.id
        name := get m "gb28181.channel.name" out.channel.name }
    server :=
      { id := get m "gb28181.server.id" out.server.id
        domain := get m "gb28181.server.domain" out.server.domain
        ip := get m "gb28181.server.ip" out.server.ip
        port := toPort m "gb28181.server.port" out.server.port
        password := get m "gb28181.server.password" out.server.password }
    reg :=
      { expiresSec := toInt m "gb28181.register.expires_sec" out.reg.expiresSec
        retryIntervalSec := toInt m "gb28181.register.retry_interval_sec" out.reg.retryIntervalSec }
    keepalive :=
      { intervalSec := toInt m "gb28181.keepalive.interval_sec" out.keepalive.intervalSec
        timeoutSec := toInt m "gb28181.keepalive.timeout_sec" out.keepalive.timeoutSec }
    media :=
      { rtpLocalPort := toPort m "gb28181.media.rtp_local_port" out.media.rtpLocalPort
        ssrc := get m "gb28181.media.ssrc" out.media.ssrc
        transport := lower (get m "gb28181.media.transport" out.media.transport) } }

def readOnvif (m : FlatConfig) : OnvifConfig :=
  let out : OnvifConfig := {}
  { enable := toBool m "onvif.enable" out.enable
    listenIp := get m "onvif.listen.ip" out.listenIp
    listenPort := toPort m "onvif.listen.port" out.listenPort
    authEnable := toBool m "onvif.auth.enable" out.authEnable
    username := get m "onvif.auth.username" out.username
    password := get m "onvif.auth.password" out.password
    rtspAdvertiseIp := get m "onvif.rtsp.advertise_ip" out.rtspAdvertiseIp
    rtspPort := toPort m "onvif.rtsp.port" out.rtspPort
    rtspPath := get m "onvif.rtsp.path" out.rtspPath }

def readPrivateApi (m : FlatConfig) : PrivateApiConfig :=
  let out : PrivateApiConfig := {}
  { enable := toBool m "private_api.enable" out.enable
    listenIp := get m "private_api.listen.ip" out.listenIp
    listenPort := toPort m "private_api.listen.port" out.listenPort
    authEnable := toBool m "private_api.auth.enable" out.authEnable
    username := get m "private_api.auth.username" out.username
    password := get m "private_api.auth.password" out.password }

def readRtsp (m : FlatConfig) : RtspConfig :=
  let out : RtspConfig := {}
  { enable := toBool m "rtsp.enable" out.enable
    bindIp := get m "rtsp.bind_ip" out.bindIp
    advertiseIp := get m "rtsp.advertise_ip" out.advertiseIp
    port := toPort m "rtsp.port" out.port
    path := get m "rtsp.path" out.path
    authEnable := toBool m "rtsp.auth.enable" out.authEnable
    username := get m "rtsp.auth.username" out.username
    password := get m "rtsp.auth.password" out.password }

/-- The frame that the four `load` functions share: parse, read, validate. -/
def load {ω α : Type} (read : FlatConfig → α) (validate : α → Result Unit) (io : FileIo ω)
    (path : Text) (w : ω) : Result α :=
  match parseOptionalYaml io path w with
  | .error e => Result.rethrow e
  | .ok m =>
    match validate (read m) with
    | .error e => Result.rethrow e
    | .ok () => .ok (read m)

variable {ω : Type}

def loadGb28181 (io : FileIo ω) (path : Text) (w : ω) : Result Gb28181Config :=
  load readGb28181 validateGb28181 io path w

def loadOnvif (io : FileIo ω) (path : Text) (w : ω) : Result OnvifConfig :=
  load readOnvif validateOnvif io path w

def loadPrivateApi (io : FileIo ω) (path : Text) (w : ω) : Result PrivateApiConfig :=
  load readPrivateApi validatePrivateApi io path w

def loadRtsp (io : FileIo ω) (path : Text) (w : ω) : Result RtspConfig :=
  load readRtsp validateRtsp io path w

def loadAll (io : FileIo ω) (configDir : Text) (w : ω) : Result ProtocolEndpointConfigSet :=
  match loadGb28181 io (joinPath configDir "gb28181.yaml") w with
  | .error e => Result.rethrow e
  | .ok gb28181 =>
    match loadOnvif io (joinPath configDir "onvif.yaml") w with
    | .error e => Result.rethrow e
    | .ok onvif =>
      match loadPrivateApi io (joinPath configDir "private_api.yaml") w with
      | .error e => Result.rethrow e
      | .ok privateApi =>
        match loadRtsp io (joinPath configDir "rtsp.yaml") w with
        | .error e => Result.rethrow e
        | .ok rtsp => .ok ⟨gb28181, onvif, privateApi, rtsp⟩

def gb28181Text (c : Gb28181Config) : Text :=
  ostream [
    "gb28181:\n",
    "  enable: ", boolText c.enable, "\n\n",
    "  local:\n",
    "    device_id: ", quote c.local.deviceId, "\n",
    "    domain: ", quote c.local.domain, "\n",
    "    ip: ", quote c.local.ip, "\n",
    "    port: ", portText c.local.port, "\n",
    "    password: ", quote c.local.password, "\n",
    "    manufacturer: ", quote c.local.manufacturer, "\n",
    "    model: ", quote c.local.model, "\n",
    "    firmware: ", quote c.local.firmware, "\n\n"] ++
  ostream [
    "  channel:\n",
    "    id: ", quote c.channel.id, "\n",
    "    name: ", quote c.channel.name, "\n\n",
    "  server:\n",
    "    id: ", quote c.server.id, "\n",
    "    domain: ", quote c.server.domain, "\n",
    "    ip: ", quote c.server.ip, "\n",
    "    port: ", portText c.server.port, "\n",
    "    password: ", quote c.server.password, "\n\n"] ++
  ostream [
    "  register:\n",
    "    expires_sec: ", intText c.reg.expiresSec, "\n",
    "    retry_interval_sec: ", intText c.reg.retryIntervalSec, "\n\n",
    "  keepalive:\n",
    "    interval_sec: ", intText c.keepalive.intervalSec, "\n",
    "    timeout_sec: ", intText c.keepalive.timeoutSec, "\n\n",
    "  media:\n",
    "    rtp_local_port: ", portText c.media.rtpLocalPort, "\n",
    "    ssrc: ", quote c.media.ssrc, "\n",
    "    transport: ", quote c.media.transport, "\n"]

def onvifText (c : OnvifConfig) : Text := ostream [
  "onvif:\n",
  "  enable: ", boolText c.enable, "\n",
  "  listen:\n",
  "    ip: ", quote c.listenIp, "\n",
  "    port: ", portText c.listenPort, "\n",
  "  auth:\n",
  "    enable: ", boolText c.authEnable, "\n",
  "    username: ", quote c.username, "\n",
  "    password: ", quote c.password, "\n",
  "  rtsp:\n",
  "    advertise_ip: ", quote c.rtspAdvertiseIp, "\n",
  "    port: ", portText c.rtspPort, "\n",
  "    path: ", quote c.rtspPath, "\n"]

def privateApiText (c : PrivateApiConfig) : Text := ostream [
  "private_api:\n",
  "  enable: ", boolText c.enable, "\n",
  "  listen:\n",
  "    ip: ", quote c.listenIp, "\n",
  "    port: ", portText c.listenPort, "\n",
  "  auth:\n",
  "    enable: ", boolText c.authEnable, "\n",
  "    username: ", quote c.username, "\n",
  "    password: ", quote c.password, "\n"]

def rtspText (c : RtspConfig) : Text := ostream [
  "rtsp:\n",
  "  enable: ", boolText c.enable, "\n",
  "  bind_ip: ", quote c.bindIp, "\n",
  "  advertise_ip: ", quote c.advertiseIp, "\n",
  "  port: ", portText c.port, "\n",
  "  path: ", quote c.path, "\n",
  "  auth:\n",
  "    enable: ", boolText c.authEnable, "\n",
  "    username: ", quote c.username, "\n",
  "    password: ", quote c.password, "\n"]

def save {α : Type} (validate : α → Result Unit) (text : α → Text) (io : FileIo ω) (path : Text)
    (c : α) (w : ω) : Result Unit × ω :=
  match validate c with
  | .error e => (.error e, w)
  | .ok () => io.writeText path (text c) w

def saveGb28181 (io : FileIo ω) (path : Text) (c : Gb28181Config) (w : ω) : Result Unit × ω :=
  save validateGb28181 gb28181Text io path c w

def saveOnvif (io : FileIo ω) (path : Text) (c : OnvifConfig) (w : ω) : Result Unit × ω :=
  save validateOnvif onvifText io path c w

def savePrivateApi (io : FileIo ω) (path : Text) (c : PrivateApiConfig) (w : ω) :
    Result Unit × ω :=
  save validatePrivateApi privateApiText io path c w

def saveRtsp (io : FileIo ω) (path : Text) (c : RtspConfig) (w : ω) : Result Unit × ω :=
  save validateRtsp rtspText io path c w

variable {α : Type} {io : FileIo ω} {path : Text} {w w' : ω}

theorem save_ok {validate : α → Result Unit} {text : α → Text} {c : α}
    (h : save validate text io path c w = (.ok (), w')) :
    validate c = .ok () ∧ io.readText path w' = .ok (text c) := by
  unfold save at h
  split at h
  · exact nomatch (Prod.mk.inj h).1
  · rename_i hv
    exact ⟨hv, FileIo.readText_written h⟩

theorem load_eq_iff {read : FlatConfig → α} {validate : α → Result Unit} {text : Text} {c : α}
    (ht : io.readText path w = .ok text) (hv : validate c = .ok ()) :
    load read validate io path w = .ok c ↔ read (parseYamlText text) = c := by
  have hp : parseOptionalYaml io path w = .ok (parseYamlText text) := by
    simp only [parseOptionalYaml, parseSimpleYaml, ht]
  simp only [load, hp]
  constructor
  · intro h
    split at h
    · exact nomatch h
    · exact Except.ok.inj h
  · rintro rfl
    rw [hv]

end ProtocolConfigLoader

end TriFusion.Protocol
