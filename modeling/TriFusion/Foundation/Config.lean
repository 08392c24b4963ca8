import TriFusion.Foundation.Text

namespace TriFusion.Foundation

structure SerialConfig where
  enable : Bool := false
  dev : Text := []
  baudrate : Int32 := 115200
  databits : Int32 := 8
  stopbits : Int32 := 1
  parity : Text := "none"
  timeoutMs : Int32 := 500
  retryCount : Int32 := 3
  commands : List (Text × Text) := []
  deriving DecidableEq

structure CameraEndpointConfig where
  enable : Bool := false
  name : Text := []
  videoNode : Text := []
  metadataNode : Text := []
  width : Int32 := 0
  height : Int32 := 0
  fps : Int32 := 0
  format : Text := []
  metadataFormat : Text := []
  deriving DecidableEq

structure CameraConfig where
  visible : CameraEndpointConfig := {}
  compositeLowThermal : CameraEndpointConfig := {}
  deriving DecidableEq

structure MediaConfig where
  codec : Text := "h264"
  encoder : Text := "mpp"
  width : Int32 := 1920
  height : Int32 := 1080
  fps : Int32 := 25
  bitrate : Int32 := 4096
  gop : Int32 := 25
  lowLatency : Bool := true
  dropFrame : Bool := true
  rtspEnable : Bool := true
  rtspPort : Int32 := 8554
  rtspPath : Text := "/live/main"
  deriving DecidableEq

/-- The maps are association lists; `find` reads the first entry of a key. -/
structure ModeConfig where
  defaultMode : Text := []
  enabledModes : List (Text × Bool) := []
  compositeOutputs : List (Text × Text) := []
  deriving DecidableEq

structure ProtocolConfig where
  active : Text := "gb28181"
  allowMultiOnline : Bool := false
  priority : List Text := []
  reserveMultiOnlineArchitecture : Bool := true
  deriving DecidableEq

structure SystemConfig where
  camera : CameraConfig := {}
  serial : SerialConfig := {}
  mode : ModeConfig := {}
  media : MediaConfig := {}
  protocol : ProtocolConfig := {}
  deriving DecidableEq

end TriFusion.Foundation
