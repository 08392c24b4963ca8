import TriFusion.Foundation.Config
import TriFusion.Foundation.Result
import TriFusion.Foundation.Scalars

namespace TriFusion.Foundation.ConfigValidator

def validateCamera (config : CameraConfig) : Result Unit :=
  let composite := config.compositeLowThermal
  if composite.enable ∧ composite.videoNode = [] then
    .fail .configError "composite camera video_node is empty"
  else if composite.videoNode = composite.metadataNode then
    .fail .configError "composite video_node and metadata_node must be different"
  else if composite.width ≤ 0 ∨ composite.height ≤ 0 ∨ composite.fps ≤ 0 then
    .fail .configError "invalid composite camera resolution or fps"
  else .ok ()

def validateSerial (config : SerialConfig) : Result Unit :=
  if config.enable ∧ config.dev = [] then .fail .configError "serial dev is empty"
  else if config.baudrate ≤ 0 then .fail .configError "invalid baudrate"
  else if config.timeoutMs ≤ 0 then .fail .configError "invalid serial timeout_ms"
  else .ok ()

def validateMedia (config : MediaConfig) : Result Unit :=
  if config.width ≤ 0 ∨ config.height ≤ 0 ∨ config.fps ≤ 0 then
    .fail .configError "invalid main stream resolution or fps"
  else if config.rtspEnable ∧ !isValidPort config.rtspPort.toInt then
    .fail .configError "invalid rtsp port"
  else .ok ()

def validateProtocol (config : ProtocolConfig) : Result Unit :=
  if config.active = [] then .fail .configError "active protocol is empty"
  else if !config.allowMultiOnline ∧ config.priority = [] then
    .fail .configError "protocol priority is empty"
  else .ok ()

def validate (config : SystemConfig) : Result Unit :=
  match validateCamera config.camera with
  | .error e => .error e
  | .ok () =>
    match validateSerial config.serial with
    | .error e => .error e
    | .ok () =>
      match validateMedia config.media with
      | .error e => .error e
      | .ok () => validateProtocol config.protocol

end TriFusion.Foundation.ConfigValidator
