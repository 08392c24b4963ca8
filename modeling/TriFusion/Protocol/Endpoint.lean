import TriFusion.Protocol.ProtocolConfigLoader

namespace TriFusion.Protocol

open Foundation ProtocolConfigLoader

inductive Endpoint
  | gb28181
  | onvif
  | privateApi
  | rtsp
  deriving DecidableEq

namespace Endpoint

def Config : Endpoint → Type
  | gb28181 => Gb28181Config
  | onvif => OnvifConfig
  | privateApi => PrivateApiConfig
  | rtsp => RtspConfig

variable {ω : Type}

def validate : (x : Endpoint) → x.Config → Result Unit
  | gb28181 => validateGb28181
  | onvif => validateOnvif
  | privateApi => validatePrivateApi
  | rtsp => validateRtsp

def text : (x : Endpoint) → x.Config → Text
  | gb28181 => gb28181Text
  | onvif => onvifText
  | privateApi => privateApiText
  | rtsp => rtspText

def save (io : FileIo ω) (path : Text) : (x : Endpoint) → x.Config → ω → Result Unit × ω
  | gb28181 => saveGb28181 io path
  | onvif => saveOnvif io path
  | privateApi => savePrivateApi io path
  | rtsp => saveRtsp io path

def load (io : FileIo ω) (path : Text) (w : ω) : (x : Endpoint) → Result x.Config
  | gb28181 => loadGb28181 io path w
  | onvif => loadOnvif io path w
  | privateApi => loadPrivateApi io path w
  | rtsp => loadRtsp io path w

def filename : Endpoint → Text
  | gb28181 => "gb28181.yaml"
  | onvif => "onvif.yaml"
  | privateApi => "private_api.yaml"
  | rtsp => "rtsp.yaml"

def get (set : ProtocolEndpointConfigSet) : (x : Endpoint) → x.Config
  | gb28181 => set.gb28181
  | onvif => set.onvif
  | privateApi => set.privateApi
  | rtsp => set.rtsp

def put (set : ProtocolEndpointConfigSet) : (x : Endpoint) → x.Config → ProtocolEndpointConfigSet
  | gb28181, c => { set with gb28181 := c }
  | onvif, c => { set with onvif := c }
  | privateApi, c => { set with privateApi := c }
  | rtsp, c => { set with rtsp := c }

@[simp] theorem get_put (set : ProtocolEndpointConfigSet) (x : Endpoint) (c : x.Config) :
    get (put set x c) x = c := by
  cases x <;> rfl

theorem save_eq (io : FileIo ω) (path : Text) (x : Endpoint) (c : x.Config) (w : ω) :
    x.save io path c w = ProtocolConfigLoader.save x.validate x.text io path c w := by
  cases x <;> rfl

def memoryFiles : FileIo (List (Text × Text)) where
  read path files := files.lookup path
  write path text files := some ((path, text) :: files)
  read_write := by
    intro path text files files' h
    obtain rfl := Option.some.inj h
    exact List.lookup_cons_self

end Endpoint

end TriFusion.Protocol
