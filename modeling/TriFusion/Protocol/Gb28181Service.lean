import TriFusion.Protocol.ProtocolCommandAdapter
import TriFusion.Protocol.ProtocolConfigLoader
import TriFusion.Service.StreamService

namespace TriFusion.Protocol

open Foundation Media Commands Service

structure GbDeviceProfile where
  deviceId : Text := "34020000001320000001"
  domain : Text := "3402000000"
  ip : Text := "0.0.0.0"
  port : UInt16 := 5060
  password : Text := "12345678"
  name : Text := "Tri-Fusion Camera"
  manufacturer : Text := "TriFusion"
  model : Text := "TriFusion-Camera"
  firmware : Text := "1.0.0"
  channelId : Text := "34020000001320000001"
  channelName : Text := "Tri-Fusion MainStream"
  serverId : Text := "41010500002000000001"
  serverDomain : Text := "4101050000"
  serverIp : Text := "192.168.1.153"
  serverPort : UInt16 := 8118
  serverPassword : Text := "12345678"
  registerExpiresSec : Int32 := 3600
  registerRetryIntervalSec : Int32 := 5
  keepaliveIntervalSec : Int32 := 60
  keepaliveTimeoutSec : Int32 := 3
  rtpLocalPort : UInt16 := 30000
  ssrc : Text := "0000000001"
  transport : Text := "udp"
  deriving DecidableEq

def makeGbDeviceProfile (config : Gb28181Config) : GbDeviceProfile where
  deviceId := config.local.deviceId
  domain := config.local.domain
  ip := config.local.ip
  port := config.local.port
  password := config.local.password
  name := config.channel.name
  manufacturer := config.local.manufacturer
  model := config.local.model
  firmware := config.local.firmware
  channelId := config.channel.id
  channelName := config.channel.name
  serverId := config.server.id
  serverDomain := config.server.domain
  serverIp := config.server.ip
  serverPort := config.server.port
  serverPassword := config.server.password
  registerExpiresSec := config.reg.expiresSec
  registerRetryIntervalSec := config.reg.retryIntervalSec
  keepaliveIntervalSec := config.keepalive.intervalSec
  keepaliveTimeoutSec := config.keepalive.timeoutSec
  rtpLocalPort := config.media.rtpLocalPort
  ssrc := config.media.ssrc
  transport := config.media.transport

structure GbInviteContext where
  callId : Text := []
  remoteIp : Text := []
  remotePort : UInt16 := 0
  ssrc : Text := []
  deriving DecidableEq

structure SipClient where
  profile : GbDeviceProfile := {}
  configured : Bool := false
  running : Bool := false
  deriving DecidableEq

namespace SipClient

def init (profile : GbDeviceProfile) (c : SipClient) : Result Unit × SipClient :=
  if profile.deviceId = [] then (.fail .invalidArgument "SIP local device id is empty", c)
  else if profile.domain = [] then (.fail .invalidArgument "SIP local domain is empty", c)
  else if profile.ip = [] then (.fail .invalidArgument "SIP local ip is empty", c)
  else if profile.port = 0 then (.fail .invalidArgument "SIP local port is invalid", c)
  else if profile.serverId = [] then (.fail .invalidArgument "SIP server id is empty", c)
  else if profile.serverIp = [] then (.fail .invalidArgument "SIP server ip is empty", c)
  else if profile.serverPort = 0 then (.fail .invalidArgument "SIP server port is invalid", c)
  else (.ok (), { c with profile := profile, configured := true })

def start (c : SipClient) : Result Unit × SipClient :=
  if !c.configured then (.fail .notInitialized "SIP client is not initialized", c)
  else (.ok (), { c with running := true })

def stop (c : SipClient) : SipClient := { c with running := false }

end SipClient

structure GbRegister where
  profile : GbDeviceProfile := {}
  registered : Bool := false
  deriving DecidableEq

namespace GbRegister

def init (profile : GbDeviceProfile) (r : GbRegister) : Result Unit × GbRegister :=
  if profile.deviceId = [] then (.fail .invalidArgument "GB device id is empty", r)
  else if profile.serverId = [] then (.fail .invalidArgument "GB server id is empty", r)
  else if profile.serverIp = [] then (.fail .invalidArgument "GB server ip is empty", r)
  else (.ok (), { r with profile := profile })

def registerDevice (r : GbRegister) : Result Unit × GbRegister :=
  if r.profile.deviceId = [] then (.fail .notInitialized "GB register is not initialized", r)
  else (.ok (), { r with registered := true })

end GbRegister

structure GbKeepalive where
  intervalSeconds : Int32 := 60
  running : Bool := false
  deriving DecidableEq

namespace GbKeepalive

def start (intervalSeconds : Int32) (k : GbKeepalive) : Result Unit × GbKeepalive :=
  if intervalSeconds ≤ 0 then
    (.fail .invalidArgument "keepalive interval must be positive", k)
  else (.ok (), { intervalSeconds := intervalSeconds, running := true })

def stop (k : GbKeepalive) : GbKeepalive := { k with running := false }

end GbKeepalive

structure GbRtpSender where
  streamService : Option StreamService := none
  context : GbInviteContext := {}
  running : Bool := false
  deriving DecidableEq

namespace GbRtpSender

def init (streamService : Option StreamService) (s : GbRtpSender) : Result Unit × GbRtpSender :=
  if streamService = none then (.fail .invalidArgument "stream service is null", s)
  else (.ok (), { s with streamService := streamService })

def start (context : GbInviteContext) (s : GbRtpSender) : Result Unit × GbRtpSender :=
  if s.streamService = none then (.fail .notInitialized "GB RTP sender is not initialized", s)
  else if context.remoteIp = [] ∨ context.remotePort = 0 then
    (.fail .invalidArgument "invalid GB RTP destination", s)
  else (.ok (), { s with context := context, running := true })

def stop (s : GbRtpSender) : GbRtpSender := { s with running := false }

end GbRtpSender

/-- `sender` says that the pointer is not null; the sender itself is passed along. -/
structure GbInviteHandler where
  sender : Bool := false
  deriving DecidableEq

namespace GbInviteHandler

def init (sender : Bool) (h : GbInviteHandler) : Result Unit × GbInviteHandler :=
  if !sender then (.fail .invalidArgument "GB RTP sender is null", h)
  else (.ok (), { sender := true })

def handleInvite (context : GbInviteContext) (h : GbInviteHandler) (s : GbRtpSender) :
    Result Unit × GbRtpSender :=
  if !h.sender then (.fail .notInitialized "GB invite handler is not initialized", s)
  else s.start context

def bye (h : GbInviteHandler) (s : GbRtpSender) : GbRtpSender := if h.sender then s.stop else s

end GbInviteHandler

variable {ω : Type}

structure GbControlAdapter (ω : Type) where
  adapter : ProtocolCommandAdapter ω := {}

def GbControlAdapter.init (bus : Option (CommandBus ω)) (guard : Option ActiveProtocolGuard)
    (c : GbControlAdapter ω) : Result Unit × GbControlAdapter ω :=
  let (ret, adapter) := c.adapter.init .gb28181 bus guard
  (ret, { adapter := adapter })

structure Gb28181Service (ω : Type) where
  profile : GbDeviceProfile := {}
  sip : SipClient := {}
  reg : GbRegister := {}
  keepalive : GbKeepalive := {}
  control : GbControlAdapter ω := {}
  sender : GbRtpSender := {}
  invite : GbInviteHandler := {}
  initialized : Bool := false

namespace Gb28181Service

/-- A component that fails leaves those before it set up. -/
def initProfile (profile : GbDeviceProfile) (bus : Option (CommandBus ω))
    (streamService : Option StreamService) (guard : Option ActiveProtocolGuard)
    (g : Gb28181Service ω) : Result Unit × Gb28181Service ω :=
  if bus.isNone then (.fail .invalidArgument "command bus is null", g)
  else if streamService = none then (.fail .invalidArgument "stream service is null", g)
  else
    let g := { g with profile := profile }
    match g.sip.init profile with
    | (.error e, sip) => (.error e, { g with sip := sip })
    | (.ok (), sip) =>
      let g := { g with sip := sip }
      match g.reg.init profile with
      | (.error e, reg) => (.error e, { g with reg := reg })
      | (.ok (), reg) =>
        let g := { g with reg := reg }
        match g.control.init bus guard with
        | (.error e, control) => (.error e, { g with control := control })
        | (.ok (), control) =>
          let g := { g with control := control }
          match g.sender.init streamService with
          | (.error e, sender) => (.error e, { g with sender := sender })
          | (.ok (), sender) =>
            let g := { g with sender := sender }
            match g.invite.init true with
            | (.error e, invite) => (.error e, { g with invite := invite })
            | (.ok (), invite) => (.ok (), { g with invite := invite, initialized := true })

def init (config : Gb28181Config) (bus : Option (CommandBus ω))
    (streamService : Option StreamService) (guard : Option ActiveProtocolGuard)
    (g : Gb28181Service ω) : Result Unit × Gb28181Service ω :=
  g.initProfile (makeGbDeviceProfile config) bus streamService guard

def start (g : Gb28181Service ω) : Result Unit × Gb28181Service ω :=
  if !g.initialized then (.fail .notInitialized "GB28181 service is not initialized", g)
  else
    match g.sip.start with
    | (.error e, sip) => (.error e, { g with sip := sip })
    | (.ok (), sip) =>
      let g := { g with sip := sip }
      match g.reg.registerDevice with
      | (.error e, reg) => (.error e, { g with reg := reg })
      | (.ok (), reg) =>
        let g := { g with reg := reg }
        let (ret, keepalive) := g.keepalive.start g.profile.keepaliveIntervalSec
        (ret, { g with keepalive := keepalive })

def stop (g : Gb28181Service ω) : Gb28181Service ω :=
  { g with keepalive := g.keepalive.stop, sender := g.invite.bye g.sender, sip := g.sip.stop }

def handleInvite (context : GbInviteContext) (g : Gb28181Service ω) :
    Result Unit × Gb28181Service ω :=
  let context := if context.ssrc = [] then { context with ssrc := g.profile.ssrc } else context
  let (ret, sender) := g.invite.handleInvite context g.sender
  (ret, { g with sender := sender })

end Gb28181Service

end TriFusion.Protocol
