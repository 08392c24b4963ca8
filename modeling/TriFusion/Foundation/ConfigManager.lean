import TriFusion.Foundation.ConfigValidator
import TriFusion.Foundation.SimpleYaml
import TriFusion.Library.Assignments
import Mathlib.Data.List.Perm.Subperm
import Mathlib.Data.List.Nodup
import Mathlib.Data.List.Range

namespace TriFusion.Foundation

open Library.Assignments

def Str.toBool (s : Text) (fallback : Bool) : Bool :=
  let s := lower (trim s)
  if s = "true" ∨ s = "1" ∨ s = "yes" ∨ s = "on" then true
  else if s = "false" ∨ s = "0" ∨ s = "no" ∨ s = "off" then false
  else fallback

structure ConfigManager where
  config : SystemConfig := {}
  loaded : Bool := false
  deriving DecidableEq

namespace ConfigManager

def toInt (cfg : FlatConfig) (key : Text) (fallback : Int32) : Int32 :=
  match cfg.lookup key with
  | none => fallback
  | some v => if v = [] then fallback else (stoi v).getD fallback

def get (cfg : FlatConfig) (key fallback : Text) : Text :=
  match cfg.lookup key with
  | none => fallback
  | some v => Str.unquote v

def getBool (cfg : FlatConfig) (key : Text) (fallback : Bool) : Bool :=
  match cfg.lookup key with
  | none => fallback
  | some v => Str.toBool v fallback

/-- What `loadCamera` makes of the camera settings; the visible camera keeps its
metadata settings. -/
def cameraFrom (cfg : FlatConfig) (c : CameraConfig) : CameraConfig where
  visible :=
    { c.visible with
      enable := getBool cfg "camera.visible.enable" true
      name := get cfg "camera.visible.name" "visible_camera"
      videoNode := get cfg "camera.visible.video_node" "/dev/tri_visible_video"
      width := toInt cfg "camera.visible.width" 1920
      height := toInt cfg "camera.visible.height" 1080
      fps := toInt cfg "camera.visible.fps" 30
      format := get cfg "camera.visible.format" "mjpeg" }
  compositeLowThermal :=
    { enable := getBool cfg "camera.composite_low_thermal.enable" true
      name := get cfg "camera.composite_low_thermal.name" "composite_low_thermal_camera"
      videoNode := get cfg "camera.composite_low_thermal.video_node" "/dev/tri_composite_video"
      metadataNode := get cfg "camera.composite_low_thermal.metadata_node" "/dev/tri_composite_meta"
      width := toInt cfg "camera.composite_low_thermal.width" 800
      height := toInt cfg "camera.composite_low_thermal.height" 600
      fps := toInt cfg "camera.composite_low_thermal.fps" 30
      format := get cfg "camera.composite_low_thermal.format" "yuyv422"
      metadataFormat := get cfg "camera.composite_low_thermal.metadata_format" "uvch" }

def commandName (key : Text) : Option Text :=
  let sections : Text := "serial.composite_sensor.commands."
  if Str.startsWith key sections then some (key.drop sections.length) else none

def serialFrom (cfg : FlatConfig) (s : SerialConfig) : SerialConfig where
  enable := getBool cfg "serial.composite_sensor.enable" true
  dev := get cfg "serial.composite_sensor.dev" "/dev/tri_composite_serial"
  baudrate := toInt cfg "serial.composite_sensor.baudrate" 115200
  databits := toInt cfg "serial.composite_sensor.databits" 8
  stopbits := toInt cfg "serial.composite_sensor.stopbits" 1
  parity := get cfg "serial.composite_sensor.parity" "none"
  timeoutMs := toInt cfg "serial.composite_sensor.timeout_ms" 500
  retryCount := toInt cfg "serial.composite_sensor.retry_count" 3
  commands := merge commandName Str.unquote cfg s.commands

/-- The mode whose `field` a key sets, which is the key up to the first dot. -/
def modeName (field key : Text) : Option Text :=
  let modes : Text := "mode.modes."
  let rest := key.drop modes.length
  if Str.startsWith key modes ∧ '.' ∈ rest ∧ (rest.dropWhile (· != '.')).drop 1 = field then
    some (rest.takeWhile (· != '.'))
  else none

def modeFrom (cfg : FlatConfig) (m : ModeConfig) : ModeConfig where
  defaultMode := get cfg "mode.default" "LOWLIGHT_THERMAL_COMPOSITE"
  enabledModes := merge (modeName "enable") (Str.toBool · true) cfg m.enabledModes
  compositeOutputs := merge (modeName "composite_output") Str.unquote cfg m.compositeOutputs

def mediaFrom (cfg : FlatConfig) : MediaConfig where
  codec := get cfg "media.main_stream.codec" "h264"
  encoder := get cfg "media.main_stream.encoder" "mpp"
  width := toInt cfg "media.main_stream.width" 1920
  height := toInt cfg "media.main_stream.height" 1080
  fps := toInt cfg "media.main_stream.fps" 25
  bitrate := toInt cfg "media.main_stream.bitrate" 4096
  gop := toInt cfg "media.main_stream.gop" 25
  lowLatency := getBool cfg "media.main_stream.low_latency" true
  dropFrame := getBool cfg "media.main_stream.drop_frame" true
  rtspEnable := getBool cfg "media.rtsp.enable" true
  rtspPort := toInt cfg "media.rtsp.port" 8554
  rtspPath := get cfg "media.rtsp.path" "/live/main"

/-- The loop over `protocol.priority.0`, `protocol.priority.1` and so on. It ends at
the first number without an entry, so that `fuel` entries are enough. -/
def priorityFrom (cfg : FlatConfig) : ℕ → ℕ → List Text
  | 0, _ => []
  | fuel + 1, i =>
    match cfg.lookup ("protocol.priority.".toList ++ decimal i) with
    | none => []
    | some v => Str.unquote v :: priorityFrom cfg fuel (i + 1)

def protocolFrom (cfg : FlatConfig) : ProtocolConfig where
  active := get cfg "protocol.active" "gb28181"
  allowMultiOnline := getBool cfg "protocol.allow_multi_online" false
  reserveMultiOnlineArchitecture := getBool cfg "protocol.reserve_multi_online_architecture" true
  priority :=
    if priorityFrom cfg cfg.length 0 = [] then ["gb28181", "onvif", "private"]
    else priorityFrom cfg cfg.length 0

theorem commandName_eq {key name : Text} (h : commandName key = some name) :
    key = "serial.composite_sensor.commands.".toList ++ name := by
  unfold commandName at h
  dsimp only at h
  split at h
  · rename_i hs
    obtain ⟨rest, rfl⟩ := List.isPrefixOf_iff_prefix.mp hs
    rw [List.drop_left] at h
    rw [Option.some.inj h]
  · cases h

theorem commandName_injective : Injective commandName := by
  intro key key' name h h'
  rw [commandName_eq h, commandName_eq h']

theorem modeName_eq {field key name : Text} (h : modeName field key = some name) :
    key = "mode.modes.".toList ++ name ++ '.' :: field := by
  unfold modeName at h
  dsimp only at h
  split at h
  · rename_i hs
    obtain ⟨hs, hd, hf⟩ := hs
    obtain ⟨rest, rfl⟩ := List.isPrefixOf_iff_prefix.mp hs
    rw [List.drop_left] at h hd hf
    have hw := List.takeWhile_append_dropWhile (p := (· != '.')) (l := rest)
    rw [Option.some.inj h] at hw
    have hn : rest.dropWhile (· != '.') ≠ [] := by
      intro hn
      rw [List.dropWhile_eq_nil_iff] at hn
      exact absurd (hn '.' hd) (by decide)
    obtain ⟨c, tail, hc⟩ := List.exists_cons_of_ne_nil hn
    have hp := List.head_dropWhile_not (· != '.') hn
    simp only [hc, List.head_cons] at hp
    have hdot : c = '.' := by simpa using hp
    rw [hc, List.drop_succ_cons, List.drop_zero] at hf
    rw [List.append_assoc, ← hw, hc, hdot, hf]
  · cases h

theorem modeName_injective (field : Text) : Injective (modeName field) := by
  intro key key' name h h'
  rw [modeName_eq h, modeName_eq h']

variable {ω : Type} (io : FileIo ω)

def load (assign : FlatConfig → SystemConfig → SystemConfig) (path : Text) (w : ω)
    (m : ConfigManager) : Result Unit × ConfigManager :=
  match parseSimpleYaml io path w with
  | .error e => (Result.rethrow e, m)
  | .ok cfg => (.ok (), { m with config := assign cfg m.config })

def loadCamera : Text → ω → ConfigManager → Result Unit × ConfigManager :=
  load io fun cfg c ↦ { c with camera := cameraFrom cfg c.camera }

def loadSerial : Text → ω → ConfigManager → Result Unit × ConfigManager :=
  load io fun cfg c ↦ { c with serial := serialFrom cfg c.serial }

def loadMode : Text → ω → ConfigManager → Result Unit × ConfigManager :=
  load io fun cfg c ↦ { c with mode := modeFrom cfg c.mode }

def loadMedia : Text → ω → ConfigManager → Result Unit × ConfigManager :=
  load io fun cfg c ↦ { c with media := mediaFrom cfg }

def loadProtocol : Text → ω → ConfigManager → Result Unit × ConfigManager :=
  load io fun cfg c ↦ { c with protocol := protocolFrom cfg }

def andThen (r : Result Unit × ConfigManager)
    (next : ConfigManager → Result Unit × ConfigManager) : Result Unit × ConfigManager :=
  match r with
  | (.error e, m) => (.error e, m)
  | (.ok (), m) => next m

def loadAll (configDir : Text) (w : ω) (m : ConfigManager) : Result Unit × ConfigManager :=
  andThen (m.loadCamera io (configDir ++ "/camera.yaml".toList) w) fun m ↦
  andThen (m.loadSerial io (configDir ++ "/serial.yaml".toList) w) fun m ↦
  andThen (m.loadMode io (configDir ++ "/mode.yaml".toList) w) fun m ↦
  andThen (m.loadMedia io (configDir ++ "/media.yaml".toList) w) fun m ↦
  andThen (m.loadProtocol io (configDir ++ "/protocol.yaml".toList) w) fun m ↦
  match ConfigValidator.validate m.config with
  | .error e => (.error e, m)
  | .ok () => (.ok (), { m with loaded := true })

end ConfigManager

end TriFusion.Foundation
