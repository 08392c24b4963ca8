import TriFusion.Protocol.Endpoint
import TriFusion.Protocol.EndpointLayout

namespace TriFusion.Protocol

open Foundation Library Outline YamlLayout EndpointLayout ProtocolConfigLoader

def gb28181Layout (c : Gb28181Config) : EndpointLayout :=
  let d : Gb28181Config := {}
  .node 0 "gb28181"
    (.leaf 2 "enable" { field := .flag c.enable d.enable, gap := true } <|
      .node 2 "local"
        (.leaf 4 "device_id" { field := .text c.local.deviceId d.local.deviceId } <|
          .leaf 4 "domain" { field := .text c.local.domain d.local.domain } <|
          .leaf 4 "ip" { field := .text c.local.ip d.local.ip } <|
          .leaf 4 "port" { field := .port c.local.port d.local.port } <|
          .leaf 4 "password" { field := .text c.local.password d.local.password } <|
          .leaf 4 "manufacturer" { field := .text c.local.manufacturer d.local.manufacturer } <|
          .leaf 4 "model" { field := .text c.local.model d.local.model } <|
          .leaf 4 "firmware" { field := .text c.local.firmware d.local.firmware, gap := true }
            .nil) <|
      .node 2 "channel"
        (.leaf 4 "id" { field := .text c.channel.id d.channel.id } <|
          .leaf 4 "name" { field := .text c.channel.name d.channel.name, gap := true } .nil) <|
      .node 2 "server"
        (.leaf 4 "id" { field := .text c.server.id d.server.id } <|
          .leaf 4 "domain" { field := .text c.server.domain d.server.domain } <|
          .leaf 4 "ip" { field := .text c.server.ip d.server.ip } <|
          .leaf 4 "port" { field := .port c.server.port d.server.port } <|
          .leaf 4 "password" { field := .text c.server.password d.server.password, gap := true }
            .nil) <|
      .node 2 "register"
        (.leaf 4 "expires_sec" { field := .number c.reg.expiresSec d.reg.expiresSec } <|
          .leaf 4 "retry_interval_sec"
            { field := .number c.reg.retryIntervalSec d.reg.retryIntervalSec, gap := true }
            .nil) <|
      .node 2 "keepalive"
        (.leaf 4 "interval_sec"
            { field := .number c.keepalive.intervalSec d.keepalive.intervalSec } <|
          .leaf 4 "timeout_sec"
            { field := .number c.keepalive.timeoutSec d.keepalive.timeoutSec, gap := true }
            .nil) <|
      .node 2 "media"
        (.leaf 4 "rtp_local_port" { field := .port c.media.rtpLocalPort d.media.rtpLocalPort } <|
          .leaf 4 "ssrc" { field := .text c.media.ssrc d.media.ssrc } <|
          .leaf 4 "transport" { field := .lowered c.media.transport d.media.transport } .nil)
        .nil)
    .nil

def onvifLayout (c : OnvifConfig) : EndpointLayout :=
  let d : OnvifConfig := {}
  .node 0 "onvif"
    (.leaf 2 "enable" { field := .flag c.enable d.enable } <|
      .node 2 "listen"
        (.leaf 4 "ip" { field := .text c.listenIp d.listenIp } <|
          .leaf 4 "port" { field := .port c.listenPort d.listenPort } .nil) <|
      .node 2 "auth"
        (.leaf 4 "enable" { field := .flag c.authEnable d.authEnable } <|
          .leaf 4 "username" { field := .text c.username d.username } <|
          .leaf 4 "password" { field := .text c.password d.password } .nil) <|
      .node 2 "rtsp"
        (.leaf 4 "advertise_ip" { field := .text c.rtspAdvertiseIp d.rtspAdvertiseIp } <|
          .leaf 4 "port" { field := .port c.rtspPort d.rtspPort } <|
          .leaf 4 "path" { field := .text c.rtspPath d.rtspPath } .nil)
        .nil)
    .nil

def privateApiLayout (c : PrivateApiConfig) : EndpointLayout :=
  let d : PrivateApiConfig := {}
  .node 0 "private_api"
    (.leaf 2 "enable" { field := .flag c.enable d.enable } <|
      .node 2 "listen"
        (.leaf 4 "ip" { field := .text c.listenIp d.listenIp } <|
          .leaf 4 "port" { field := .port c.listenPort d.listenPort } .nil) <|
      .node 2 "auth"
        (.leaf 4 "enable" { field := .flag c.authEnable d.authEnable } <|
          .leaf 4 "username" { field := .text c.username d.username } <|
          .leaf 4 "password" { field := .text c.password d.password } .nil)
        .nil)
    .nil

def rtspLayout (c : RtspConfig) : EndpointLayout :=
  let d : RtspConfig := {}
  .node 0 "rtsp"
    (.leaf 2 "enable" { field := .flag c.enable d.enable } <|
      .leaf 2 "bind_ip" { field := .text c.bindIp d.bindIp } <|
      .leaf 2 "advertise_ip" { field := .text c.advertiseIp d.advertiseIp } <|
      .leaf 2 "port" { field := .port c.port d.port } <|
      .leaf 2 "path" { field := .text c.path d.path } <|
      .node 2 "auth"
        (.leaf 4 "enable" { field := .flag c.authEnable d.authEnable } <|
          .leaf 4 "username" { field := .text c.username d.username } <|
          .leaf 4 "password" { field := .text c.password d.password } .nil)
        .nil)
    .nil

theorem text_eq_lines (layout : EndpointLayout) :
    layout.text = layout.lines.flatMap fun line ↦
      writtenLine ⟨line.indent, line.key, line.value.map Entry.scalar⟩ := by
  rw [EndpointLayout.text, YamlLayout.text_eq_lines, Forest.lines_map, List.flatMap_map]

set_option maxRecDepth 4000 in
theorem gb28181Text_eq (c : Gb28181Config) : gb28181Text c = (gb28181Layout c).text := by
  rw [text_eq_lines]
  simp only [gb28181Text, ostream, List.flatten_cons, List.flatten_nil, List.append_nil,
    gb28181Layout, Forest.lines, List.flatMap_cons, List.flatMap_nil, writtenLine, lineItem,
    YamlItem.render, YamlItem.body, Option.map_some, Option.map_none, Entry.scalar, Field.written,
    Option.any_some, Option.any_none, List.replicate_succ, List.replicate_zero,
    List.append_assoc, List.cons_append, List.nil_append, Bool.false_eq_true, if_false, if_true]
  repeat rw [String.toList_ofList]
  simp only [List.cons_append, List.nil_append]

theorem onvifText_eq (c : OnvifConfig) : onvifText c = (onvifLayout c).text := by
  rw [text_eq_lines]
  simp only [onvifText, ostream, List.flatten_cons, List.flatten_nil, List.append_nil,
    onvifLayout, Forest.lines, List.flatMap_cons, List.flatMap_nil, writtenLine, lineItem,
    YamlItem.render, YamlItem.body, Option.map_some, Option.map_none, Entry.scalar, Field.written,
    Option.any_some, Option.any_none, List.replicate_succ, List.replicate_zero,
    List.append_assoc, List.cons_append, List.nil_append, Bool.false_eq_true, if_false]
  repeat rw [String.toList_ofList]
  simp only [List.cons_append, List.nil_append]

theorem privateApiText_eq (c : PrivateApiConfig) :
    privateApiText c = (privateApiLayout c).text := by
  rw [text_eq_lines]
  simp only [privateApiText, ostream, List.flatten_cons, List.flatten_nil, List.append_nil,
    privateApiLayout, Forest.lines, List.flatMap_cons, List.flatMap_nil, writtenLine, lineItem,
    YamlItem.render, YamlItem.body, Option.map_some, Option.map_none, Entry.scalar, Field.written,
    Option.any_some, Option.any_none, List.replicate_succ, List.replicate_zero,
    List.append_assoc, List.cons_append, List.nil_append, Bool.false_eq_true, if_false]
  repeat rw [String.toList_ofList]
  simp only [List.cons_append, List.nil_append]

theorem rtspText_eq (c : RtspConfig) : rtspText c = (rtspLayout c).text := by
  rw [text_eq_lines]
  simp only [rtspText, ostream, List.flatten_cons, List.flatten_nil, List.append_nil,
    rtspLayout, Forest.lines, List.flatMap_cons, List.flatMap_nil, writtenLine, lineItem,
    YamlItem.render, YamlItem.body, Option.map_some, Option.map_none, Entry.scalar, Field.written,
    Option.any_some, Option.any_none, List.replicate_succ, List.replicate_zero,
    List.append_assoc, List.cons_append, List.nil_append, Bool.false_eq_true, if_false]
  repeat rw [String.toList_ofList]
  simp only [List.cons_append, List.nil_append]

def AllRestored (layout : EndpointLayout) (m : FlatConfig) : Prop :=
  ∀ leaf ∈ layout.leaves [], leaf.value.field.Restored m (readKey leaf)

theorem readGb28181_eq_iff (m : FlatConfig) (c : Gb28181Config) :
    readGb28181 m = c ↔ AllRestored (gb28181Layout c) m := by
  obtain ⟨enable, ⟨⟩, ⟨⟩, ⟨⟩, ⟨⟩, ⟨⟩, ⟨⟩⟩ := c
  simp only [readGb28181, Gb28181Config.mk.injEq, Gb28181LocalConfig.mk.injEq,
    Gb28181ChannelConfig.mk.injEq, Gb28181ServerConfig.mk.injEq, Gb28181RegisterConfig.mk.injEq,
    Gb28181KeepaliveConfig.mk.injEq, Gb28181MediaConfig.mk.injEq, and_assoc, AllRestored,
    gb28181Layout, Forest.leaves, List.cons_append, List.append_nil, List.nil_append,
    List.forall_mem_cons, List.not_mem_nil, false_implies, implies_true, and_true]
  simp only [Field.Restored, readKey, path, List.map_cons, List.map_nil, joinPath_pair,
    joinPath_triple]
  repeat rw [String.toList_ofList]
  simp only [List.cons_append, List.nil_append]

theorem readOnvif_eq_iff (m : FlatConfig) (c : OnvifConfig) :
    readOnvif m = c ↔ AllRestored (onvifLayout c) m := by
  cases c
  simp only [readOnvif, OnvifConfig.mk.injEq, AllRestored, onvifLayout, Forest.leaves,
    List.cons_append, List.append_nil, List.nil_append, List.forall_mem_cons, List.not_mem_nil,
    false_implies, implies_true, and_true]
  simp only [Field.Restored, readKey, path, List.map_cons, List.map_nil, joinPath_pair,
    joinPath_triple]
  repeat rw [String.toList_ofList]
  simp only [List.cons_append, List.nil_append]

theorem readPrivateApi_eq_iff (m : FlatConfig) (c : PrivateApiConfig) :
    readPrivateApi m = c ↔ AllRestored (privateApiLayout c) m := by
  cases c
  simp only [readPrivateApi, PrivateApiConfig.mk.injEq, AllRestored, privateApiLayout,
    Forest.leaves, List.cons_append, List.append_nil, List.nil_append, List.forall_mem_cons,
    List.not_mem_nil, false_implies, implies_true, and_true]
  simp only [Field.Restored, readKey, path, List.map_cons, List.map_nil, joinPath_pair,
    joinPath_triple]
  repeat rw [String.toList_ofList]
  simp only [List.cons_append, List.nil_append]

theorem readRtsp_eq_iff (m : FlatConfig) (c : RtspConfig) :
    readRtsp m = c ↔ AllRestored (rtspLayout c) m := by
  cases c
  simp only [readRtsp, RtspConfig.mk.injEq, AllRestored, rtspLayout, Forest.leaves,
    List.append_nil, List.forall_mem_cons, List.not_mem_nil, false_implies, implies_true, and_true]
  simp only [Field.Restored, readKey, path, List.map_cons, List.map_nil, joinPath_pair,
    joinPath_triple]
  repeat rw [String.toList_ofList]
  simp only [List.cons_append, List.nil_append]

theorem gb28181Layout_sound (c : Gb28181Config) : (gb28181Layout c).Sound := by
  have h : Sound (gb28181Layout {}) := by constructor <;> decide +kernel
  exact sound_of_forget h

theorem onvifLayout_sound (c : OnvifConfig) : (onvifLayout c).Sound := by
  have h : Sound (onvifLayout {}) := by constructor <;> decide +kernel
  exact sound_of_forget h

theorem privateApiLayout_sound (c : PrivateApiConfig) : (privateApiLayout c).Sound := by
  have h : Sound (privateApiLayout {}) := by constructor <;> decide +kernel
  exact sound_of_forget h

theorem rtspLayout_sound (c : RtspConfig) : (rtspLayout c).Sound := by
  have h : Sound (rtspLayout {}) := by constructor <;> decide +kernel
  exact sound_of_forget h

/-- The file of an endpoint, with the layout that its writer and its reader share. -/
structure EndpointFile (α : Type) where
  validate : α → Result Unit
  text : α → Text
  read : FlatConfig → α
  layout : α → EndpointLayout
  text_eq : ∀ c, text c = (layout c).text
  read_eq_iff : ∀ m c, read m = c ↔ AllRestored (layout c) m
  sound : ∀ c, (layout c).Sound

variable {ω α : Type} {io : FileIo ω} {path : Text} {w w' : ω}

theorem EndpointFile.load_save_iff (F : EndpointFile α) {c : α}
    (h : save F.validate F.text io path c w = (.ok (), w')) :
    load F.read F.validate io path w' = .ok c ↔ ∀ leaf ∈ (F.layout c).leaves [], Survives leaf := by
  obtain ⟨hv, ht⟩ := save_ok h
  rw [load_eq_iff ht hv, F.read_eq_iff, F.text_eq]
  exact (F.sound c).restored_iff

def gb28181File : EndpointFile Gb28181Config :=
  ⟨validateGb28181, gb28181Text, readGb28181, gb28181Layout, gb28181Text_eq, readGb28181_eq_iff,
    gb28181Layout_sound⟩

def onvifFile : EndpointFile OnvifConfig :=
  ⟨validateOnvif, onvifText, readOnvif, onvifLayout, onvifText_eq, readOnvif_eq_iff,
    onvifLayout_sound⟩

def privateApiFile : EndpointFile PrivateApiConfig :=
  ⟨validatePrivateApi, privateApiText, readPrivateApi, privateApiLayout, privateApiText_eq,
    readPrivateApi_eq_iff, privateApiLayout_sound⟩

def rtspFile : EndpointFile RtspConfig :=
  ⟨validateRtsp, rtspText, readRtsp, rtspLayout, rtspText_eq, readRtsp_eq_iff, rtspLayout_sound⟩

namespace Endpoint

def layout : (x : Endpoint) → x.Config → EndpointLayout
  | gb28181 => gb28181Layout
  | onvif => onvifLayout
  | privateApi => privateApiLayout
  | rtsp => rtspLayout

/-- A valid configuration that was saved loads as itself exactly when each of its
values survives: a quoted text without comment sign and line end whose line is seen in
its section, a transport in lower case, a port other than zero. -/
theorem load_saved_iff (x : Endpoint) {c : x.Config} (hv : x.validate c = .ok ())
    (h : x.save io path c w = (.ok (), w')) :
    x.load io path w' = .ok c ↔ ∀ leaf ∈ (x.layout c).leaves [], Survives leaf := by
  cases x with
  | gb28181 => exact gb28181File.load_save_iff h
  | onvif => exact onvifFile.load_save_iff h
  | privateApi => exact privateApiFile.load_save_iff h
  | rtsp => exact rtspFile.load_save_iff h

def quotedPassword : RtspConfig := { password := "it's \"quoted\": - x" }

theorem load_saved_quoted :
    load memoryFiles "rtsp.yaml" (save memoryFiles "rtsp.yaml" .rtsp quotedPassword []).2 .rtsp =
      .ok quotedPassword := by
  have hs : ∀ leaf ∈ (rtspLayout quotedPassword).leaves [], Survives leaf := by decide +kernel
  exact (load_saved_iff .rtsp (c := quotedPassword) rfl rfl).mpr hs

def poundPassword : RtspConfig := { password := "a#b" }

/-- The reader takes what follows the sign for a comment. -/
theorem pound_cut :
    validateRtsp poundPassword = .ok () ∧
      (saveRtsp memoryFiles "rtsp.yaml" poundPassword []).1 = .ok () ∧
      loadRtsp memoryFiles "rtsp.yaml" (saveRtsp memoryFiles "rtsp.yaml" poundPassword []).2 =
        .ok { password := "\"a" } ∧
      loadRtsp memoryFiles "rtsp.yaml" (saveRtsp memoryFiles "rtsp.yaml" poundPassword []).2 ≠
        .ok poundPassword := by
  decide +kernel

end Endpoint

end TriFusion.Protocol
