import TriFusion.Foundation.Config
import TriFusion.Media.GStreamerPipeline

namespace TriFusion.Media

open Foundation

structure GStreamerConfigManagerOptions where
  gstLaunchPath : Text := "gst-launch-1.0"
  udpHost : Text := "192.168.1.153"
  udpPort : Int32 := 5004
  verbose : Bool := true
  eosOnStop : Bool := true
  deriving DecidableEq

/-- What `load` has gathered; `modeSourceMap` is an association list. -/
structure GStreamerPipelineConfigManager where
  options : GStreamerConfigManagerOptions := {}
  visible : CameraEndpointConfig := {}
  compositeLowThermal : CameraEndpointConfig := {}
  modeSourceMap : List (Text × Text) := []
  deriving DecidableEq

namespace GStreamerPipelineConfigManager

def normalizeModeCommand (commandName : Text) : Text :=
  let name := lower (Str.unquote (Str.trim commandName))
  if name = "1".toList ∨ name = "visible_only".toList then "visible"
  else if name = "2".toList ∨ name = "lowlight_only".toList then "lowlight"
  else if name = "3".toList ∨ name = "thermal_only".toList then "thermal"
  else if name = "4".toList ∨ name = "lowlight_thermal_composite".toList then "lowlight_thermal"
  else if name = "5".toList ∨ name = "visible_lowlight_fusion".toList then "visible_lowlight"
  else if name = "6".toList ∨ name = "visible_thermal_fusion".toList then "visible_thermal"
  else if name = "7".toList ∨ name = "visible_composite_fusion".toList then "visible_composite"
  else name

def normalizeSourceName (sourceName : Text) : Text :=
  let name := lower (Str.unquote (Str.trim sourceName))
  if name = "visible_camera".toList ∨ name = "visible_only".toList then "visible"
  else if name = "composite_low_thermal".toList ∨ name = "low_thermal".toList ∨
      name = "compound".toList then "composite"
  else if name = "visible".toList then "visible"
  else "composite"

def normalizeInputCodec (format : Text) : Text :=
  if lower (Str.unquote format) ∈ GStreamerPipelineBuilder.jpegNames then "mjpeg" else "raw"

def normalizeRawFormat (format : Text) : Text :=
  let name := lower (Str.unquote format)
  if name ∈ GStreamerPipelineBuilder.jpegNames then "MJPG"
  else if name ∈ (["yuyv", "yuyv422", "yuy2", "yuyv 4:2:2"] : List Text) then "YUY2"
  else if name ∈ (["uyvy", "uyvy422"] : List Text) then "UYVY"
  else if name = "nv12".toList then "NV12"
  else if format = [] then "YUY2"
  else format

def buildFromEndpoint (sourceName : Text) (endpoint : CameraEndpointConfig)
    (m : GStreamerPipelineConfigManager) : GStreamerPipelineConfig where
  sourceName := sourceName
  gstLaunchPath := m.options.gstLaunchPath
  eosOnStop := m.options.eosOnStop
  verbose := m.options.verbose
  device := endpoint.videoNode
  width :=
    if 0 < endpoint.width then endpoint.width
    else if sourceName = "visible".toList then 1920 else 800
  height :=
    if 0 < endpoint.height then endpoint.height
    else if sourceName = "visible".toList then 1080 else 600
  fps := if 0 < endpoint.fps then endpoint.fps else 30
  inputCodec := normalizeInputCodec endpoint.format
  rawFormat := normalizeRawFormat endpoint.format
  udpHost := m.options.udpHost
  udpPort := m.options.udpPort

def sourceNameForModeCommand (commandName : Text) (m : GStreamerPipelineConfigManager) : Text :=
  match m.modeSourceMap.lookup (normalizeModeCommand commandName) with
  | none => "composite"
  | some source => normalizeSourceName source

def configForModeCommand (commandName : Text) (m : GStreamerPipelineConfigManager) :
    GStreamerPipelineConfig :=
  if m.sourceNameForModeCommand commandName = "visible".toList then
    m.buildFromEndpoint "visible" m.visible
  else m.buildFromEndpoint "composite" m.compositeLowThermal

end GStreamerPipelineConfigManager

end TriFusion.Media
