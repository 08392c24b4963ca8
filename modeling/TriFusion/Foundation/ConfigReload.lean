import TriFusion.Foundation.ConfigManager
import TriFusion.Library.Runs

namespace TriFusion.Foundation

open Library Library.Assignments

/-- The same settings, whatever the order in which the maps were filled. -/
structure SerialConfig.Same (s t : SerialConfig) : Prop where
  settings : { s with commands := [] } = { t with commands := [] }
  commands : SameMap s.commands t.commands

structure ModeConfig.Same (m n : ModeConfig) : Prop where
  defaultMode : m.defaultMode = n.defaultMode
  enabledModes : SameMap m.enabledModes n.enabledModes
  compositeOutputs : SameMap m.compositeOutputs n.compositeOutputs

structure SystemConfig.Same (c d : SystemConfig) : Prop where
  camera : c.camera = d.camera
  serial : c.serial.Same d.serial
  mode : c.mode.Same d.mode
  media : c.media = d.media
  protocol : c.protocol = d.protocol

theorem SerialConfig.Same.refl (s : SerialConfig) : s.Same s := ⟨rfl, .refl _⟩

theorem ModeConfig.Same.refl (m : ModeConfig) : m.Same m := ⟨rfl, .refl _, .refl _⟩

theorem SystemConfig.Same.refl (c : SystemConfig) : c.Same c :=
  ⟨rfl, .refl _, .refl _, rfl, rfl⟩

theorem SystemConfig.same_iff (c d : SystemConfig) :
    c.Same d ↔ c.camera = d.camera ∧ c.serial.Same d.serial ∧ c.mode.Same d.mode ∧
      c.media = d.media ∧ c.protocol = d.protocol :=
  ⟨fun h ↦ ⟨h.camera, h.serial, h.mode, h.media, h.protocol⟩,
    fun ⟨hc, hs, hm, hd, hp⟩ ↦ ⟨hc, hs, hm, hd, hp⟩⟩

namespace ConfigManager

structure SerialRepeats (cfg : FlatConfig) (s : SerialConfig) : Prop where
  settings : { serialFrom cfg s with commands := [] } = { s with commands := [] }
  commands : ∀ key name v, commandName key = some name → cfg.lookup key = some v →
    s.commands.lookup name = some (Str.unquote v)

structure ModeRepeats (cfg : FlatConfig) (m : ModeConfig) : Prop where
  defaultMode : (modeFrom cfg m).defaultMode = m.defaultMode
  enabledModes : ∀ key name v, modeName "enable" key = some name → cfg.lookup key = some v →
    m.enabledModes.lookup name = some (Str.toBool v true)
  compositeOutputs : ∀ key name v, modeName "composite_output" key = some name →
    cfg.lookup key = some v → m.compositeOutputs.lookup name = some (Str.unquote v)

theorem serialFrom_same_iff (cfg : FlatConfig) (s : SerialConfig) :
    (serialFrom cfg s).Same s ↔ SerialRepeats cfg s := by
  have hm := merge_same_iff Str.unquote cfg commandName_injective
    s.commands
  exact ⟨fun h ↦ ⟨h.settings, fun key name ↦ hm.mp h.commands key name⟩,
    fun h ↦ ⟨h.settings, hm.mpr h.commands⟩⟩

theorem modeFrom_same_iff (cfg : FlatConfig) (m : ModeConfig) :
    (modeFrom cfg m).Same m ↔ ModeRepeats cfg m := by
  have he := merge_same_iff (Str.toBool · true) cfg (modeName_injective "enable") m.enabledModes
  have ho := merge_same_iff Str.unquote cfg (modeName_injective "composite_output")
    m.compositeOutputs
  exact ⟨fun h ↦ ⟨h.defaultMode, he.mp h.enabledModes, ho.mp h.compositeOutputs⟩,
    fun h ↦ ⟨h.defaultMode, he.mpr h.enabledModes, ho.mpr h.compositeOutputs⟩⟩

inductive ConfigFile
  | camera
  | serial
  | mode
  | media
  | protocol
  deriving DecidableEq

namespace ConfigFile

def path (configDir : Text) : ConfigFile → Text
  | .camera => configDir ++ "/camera.yaml".toList
  | .serial => configDir ++ "/serial.yaml".toList
  | .mode => configDir ++ "/mode.yaml".toList
  | .media => configDir ++ "/media.yaml".toList
  | .protocol => configDir ++ "/protocol.yaml".toList

def order : List ConfigFile := [.camera, .serial, .mode, .media, .protocol]

/-- The file says what the configuration already is. -/
def Repeats (cfg : FlatConfig) (c : SystemConfig) : ConfigFile → Prop
  | .camera => cameraFrom cfg c.camera = c.camera
  | .serial => SerialRepeats cfg c.serial
  | .mode => ModeRepeats cfg c.mode
  | .media => mediaFrom cfg = c.media
  | .protocol => protocolFrom cfg = c.protocol

end ConfigFile

variable {ω : Type} (io : FileIo ω)

def RepeatedUntilMissing (configDir : Text) (w : ω) (c : SystemConfig) :
    List ConfigFile → Prop
  | [] => True
  | file :: rest =>
    match parseSimpleYaml io (file.path configDir) w with
    | .error _ => True
    | .ok cfg => file.Repeats cfg c ∧ RepeatedUntilMissing configDir w c rest

variable {io} {configDir : Text} {w : ω} {m m' : ConfigManager} {e : Status}

theorem andThen_load_failed {assign : FlatConfig → SystemConfig → SystemConfig} (path : Text)
    {next : ConfigManager → Result Unit × ConfigManager}
    (h : andThen (load io assign path w m) next = (.error e, m')) :
    (∃ e', parseSimpleYaml io path w = .error e' ∧ m' = m) ∨
      ∃ cfg, parseSimpleYaml io path w = .ok cfg ∧
        next { m with config := assign cfg m.config } = (.error e, m') := by
  unfold andThen load at h
  cases hp : parseSimpleYaml io path w with
  | error e' =>
    rw [hp] at h
    exact .inl ⟨e', rfl, (Prod.mk.inj h).2.symm⟩
  | ok cfg =>
    rw [hp] at h
    exact .inr ⟨cfg, rfl, h⟩

theorem andThen_load_ok {assign : FlatConfig → SystemConfig → SystemConfig} (path : Text)
    {next : ConfigManager → Result Unit × ConfigManager}
    (h : andThen (load io assign path w m) next = (.ok (), m')) :
    ∃ cfg, parseSimpleYaml io path w = .ok cfg ∧
      next { m with config := assign cfg m.config } = (.ok (), m') := by
  unfold andThen load at h
  cases hp : parseSimpleYaml io path w with
  | error e' =>
    rw [hp] at h
    cases (Prod.mk.inj h).1
  | ok cfg =>
    rw [hp] at h
    exact ⟨cfg, rfl, h⟩

/-- A load that fails leaves the configuration alone exactly when every file it
read, up to one that it could not read, said what the configuration already was. -/
theorem loadAll_failed_same (h : m.loadAll io configDir w = (.error e, m')) :
    m'.config.Same m.config ↔
      RepeatedUntilMissing io configDir w m.config ConfigFile.order := by
  simp only [ConfigFile.order, RepeatedUntilMissing, ConfigFile.Repeats]
  rcases andThen_load_failed (ConfigFile.camera.path configDir) h with
    ⟨_, hc, rfl⟩ | ⟨camera, hc, h⟩
  · simp [hc, SystemConfig.Same.refl]
  rcases andThen_load_failed (ConfigFile.serial.path configDir) h with
    ⟨_, hs, rfl⟩ | ⟨serial, hs, h⟩
  · simp [hc, hs, SystemConfig.same_iff, SerialConfig.Same.refl, ModeConfig.Same.refl]
  rcases andThen_load_failed (ConfigFile.mode.path configDir) h with
    ⟨_, hm, rfl⟩ | ⟨mode, hm, h⟩
  · simp [hc, hs, hm, SystemConfig.same_iff, serialFrom_same_iff, ModeConfig.Same.refl]
  rcases andThen_load_failed (ConfigFile.media.path configDir) h with
    ⟨_, hd, rfl⟩ | ⟨media, hd, h⟩
  · simp [hc, hs, hm, hd, SystemConfig.same_iff, serialFrom_same_iff, modeFrom_same_iff]
  rcases andThen_load_failed (ConfigFile.protocol.path configDir) h with
    ⟨_, hp, rfl⟩ | ⟨protocol, hp, h⟩
  · simp [hc, hs, hm, hd, hp, SystemConfig.same_iff, serialFrom_same_iff, modeFrom_same_iff]
  split at h
  · obtain ⟨-, rfl⟩ := Prod.mk.inj h
    simp [hc, hs, hm, hd, hp, SystemConfig.same_iff, serialFrom_same_iff, modeFrom_same_iff]
  · cases (Prod.mk.inj h).1

def disk (read : Text → Option Text) : FileIo Unit where
  read path _ := read path
  write _ _ _ := none
  read_write h := by cases h

def settingsDisk : FileIo Unit :=
  disk fun path ↦
    if path = "broken/mode.yaml".toList then none
    else if "/camera.yaml".toList.isSuffixOf path then
      some "camera:\n  visible:\n    width: 1280\n".toList
    else if "/serial.yaml".toList.isSuffixOf path then
      some "serial:\n  composite_sensor:\n    commands:\n      snow: 55AA\n".toList
    else if "/mode.yaml".toList.isSuffixOf path then
      some "mode:\n  modes:\n    visible_only:\n      enable: false\n".toList
    else some []

def settingsManager : ConfigManager := (({} : ConfigManager).loadAll settingsDisk "conf" ()).2

def snowKey : Text := "serial.composite_sensor.commands.snow"

def visibleOnlyKey : Text := "mode.modes.visible_only.enable"

theorem settings_loaded : settingsManager.config =
    { camera := cameraFrom [("camera.visible.width".toList, "1280".toList)] {}
      serial := serialFrom [(snowKey, "55AA")] {}
      mode := modeFrom [(visibleOnlyKey, "false")] {}
      media := mediaFrom []
      protocol := protocolFrom [] } := by
  decide +kernel

theorem loadAll_failed_same_settings :
    let r := settingsManager.loadAll settingsDisk "broken" ()
    r.1.succeeded = false ∧ r.2.config.Same settingsManager.config := by
  have he : (settingsManager.loadAll settingsDisk "broken" ()).1 =
      .fail .ioError "failed to open file: broken/mode.yaml" := by decide +kernel
  have hc : parseSimpleYaml settingsDisk (ConfigFile.camera.path "broken") () =
      .ok [("camera.visible.width".toList, "1280".toList)] := by decide +kernel
  have hs : parseSimpleYaml settingsDisk (ConfigFile.serial.path "broken") () =
      .ok [(snowKey, "55AA")] := by decide +kernel
  have hm : parseSimpleYaml settingsDisk (ConfigFile.mode.path "broken") () =
      .fail .ioError "failed to open file: broken/mode.yaml" := by decide +kernel
  have hcamera : cameraFrom [("camera.visible.width".toList, "1280".toList)]
      settingsManager.config.camera = settingsManager.config.camera := by
    rw [settings_loaded]
    rfl
  have hserial : SerialRepeats [(snowKey, "55AA")] settingsManager.config.serial := by
    rw [settings_loaded]
    refine ⟨rfl, fun key name v hk hv ↦ ?_⟩
    rw [List.lookup_singleton] at hv
    split at hv
    · rename_i hkey
      rw [eq_of_beq hkey, show commandName snowKey = some "snow".toList by decide] at hk
      rw [← Option.some.inj hk, ← Option.some.inj hv]
      decide +kernel
    · cases hv
  have hrepeated : RepeatedUntilMissing settingsDisk "broken" () settingsManager.config
      ConfigFile.order := by
    simp only [ConfigFile.order, RepeatedUntilMissing, hc, hs, hm, Result.fail, and_true]
    exact ⟨hcamera, hserial⟩
  refine ⟨by rw [he]; rfl, ?_⟩
  exact (loadAll_failed_same (m := settingsManager) (Prod.ext he rfl)).mpr hrepeated

/-- The camera settings are in place when the serial file turns out to be missing. -/
theorem partial_load :
    let r := ({} : ConfigManager).loadAll
      (disk fun path ↦ if path = "conf/camera.yaml".toList then some [] else none) "conf" ()
    r.1.succeeded = false ∧ ¬ r.2.config.Same {} := by
  refine ⟨by decide +kernel, fun h ↦ ?_⟩
  exact absurd h.camera (by decide +kernel)

section Reload

/-- The managers that calls of `loadAll` lead to from a new one, on any files. -/
def Reached (io : FileIo ω) (m : ConfigManager) : Prop :=
  ∃ loads : List (Text × ω),
    m = Runs.exec (fun m load ↦ (m.loadAll io load.1 load.2).2) {} loads

theorem load_keeps {P : SystemConfig → Prop} {assign : FlatConfig → SystemConfig → SystemConfig}
    (ha : ∀ cfg c, P c → P (assign cfg c)) (path : Text) (h : P m.config) :
    P (load io assign path w m).2.config := by
  unfold load
  split
  · exact h
  · exact ha _ _ h

theorem andThen_keeps {P : SystemConfig → Prop} {r : Result Unit × ConfigManager}
    {next : ConfigManager → Result Unit × ConfigManager} (h : P r.2.config)
    (hn : ∀ m : ConfigManager, P m.config → P (next m).2.config) :
    P (andThen r next).2.config := by
  unfold andThen
  split
  · exact h
  · exact hn _ h

def NoVisibleMetadata (c : SystemConfig) : Prop :=
  c.camera.visible.metadataNode = [] ∧ c.camera.visible.metadataFormat = []

theorem loadAll_noVisibleMetadata (h : NoVisibleMetadata m.config) :
    NoVisibleMetadata (m.loadAll io configDir w).2.config := by
  unfold loadAll loadCamera loadSerial loadMode loadMedia loadProtocol
  refine andThen_keeps (load_keeps (by exact fun _ _ hc ↦ hc) _ h) fun m h ↦ ?_
  refine andThen_keeps (load_keeps (by exact fun _ _ hc ↦ hc) _ h) fun m h ↦ ?_
  refine andThen_keeps (load_keeps (by exact fun _ _ hc ↦ hc) _ h) fun m h ↦ ?_
  refine andThen_keeps (load_keeps (by exact fun _ _ hc ↦ hc) _ h) fun m h ↦ ?_
  refine andThen_keeps (load_keeps (by exact fun _ _ hc ↦ hc) _ h) fun m h ↦ ?_
  split <;> exact h

theorem Reached.noVisibleMetadata (h : Reached io m) : NoVisibleMetadata m.config := by
  obtain ⟨loads, rfl⟩ := h
  exact Runs.exec_invariant (I := fun m : ConfigManager ↦ NoVisibleMetadata m.config)
    (fun _ _ hm ↦ loadAll_noVisibleMetadata hm) ⟨rfl, rfl⟩ loads

theorem loadAll_ok (h : m.loadAll io configDir w = (.ok (), m')) :
    ∃ camera serial mode media protocol,
      parseSimpleYaml io (ConfigFile.camera.path configDir) w = .ok camera ∧
      parseSimpleYaml io (ConfigFile.serial.path configDir) w = .ok serial ∧
      parseSimpleYaml io (ConfigFile.mode.path configDir) w = .ok mode ∧
      parseSimpleYaml io (ConfigFile.media.path configDir) w = .ok media ∧
      parseSimpleYaml io (ConfigFile.protocol.path configDir) w = .ok protocol ∧
      m'.config = ⟨cameraFrom camera m.config.camera, serialFrom serial m.config.serial,
        modeFrom mode m.config.mode, mediaFrom media, protocolFrom protocol⟩ := by
  obtain ⟨camera, hc, h⟩ := andThen_load_ok (ConfigFile.camera.path configDir) h
  obtain ⟨serial, hs, h⟩ := andThen_load_ok (ConfigFile.serial.path configDir) h
  obtain ⟨mode, hm, h⟩ := andThen_load_ok (ConfigFile.mode.path configDir) h
  obtain ⟨media, hd, h⟩ := andThen_load_ok (ConfigFile.media.path configDir) h
  obtain ⟨protocol, hp, h⟩ := andThen_load_ok (ConfigFile.protocol.path configDir) h
  split at h
  · cases (Prod.mk.inj h).1
  · obtain ⟨-, rfl⟩ := Prod.mk.inj h
    exact ⟨camera, serial, mode, media, protocol, hc, hs, hm, hd, hp, rfl⟩

/-- The maps of two configurations agree on every name that the files of the
directory do not mention. -/
structure AgreeOffFiles (io : FileIo ω) (configDir : Text) (w : ω) (c d : SystemConfig) :
    Prop where
  commands : ∀ cfg, parseSimpleYaml io (ConfigFile.serial.path configDir) w = .ok cfg →
    ∀ name, ¬ Mentions commandName cfg name →
      c.serial.commands.lookup name = d.serial.commands.lookup name
  enabledModes : ∀ cfg, parseSimpleYaml io (ConfigFile.mode.path configDir) w = .ok cfg →
    ∀ name, ¬ Mentions (modeName "enable") cfg name →
      c.mode.enabledModes.lookup name = d.mode.enabledModes.lookup name
  compositeOutputs : ∀ cfg, parseSimpleYaml io (ConfigFile.mode.path configDir) w = .ok cfg →
    ∀ name, ¬ Mentions (modeName "composite_output") cfg name →
      c.mode.compositeOutputs.lookup name = d.mode.compositeOutputs.lookup name

theorem cameraFrom_eq (cfg : FlatConfig) {c d : SystemConfig} (hc : NoVisibleMetadata c)
    (hd : NoVisibleMetadata d) : cameraFrom cfg c.camera = cameraFrom cfg d.camera := by
  simp only [cameraFrom, hc.1, hc.2, hd.1, hd.2]

/-- Two managers load the same files to the same configuration exactly when their
maps agree on every name that the files do not mention. -/
theorem reload_same_iff {m₁ m₂ m₁' m₂' : ConfigManager} (h₁ : Reached io m₁)
    (h₂ : Reached io m₂) (hl₁ : m₁.loadAll io configDir w = (.ok (), m₁'))
    (hl₂ : m₂.loadAll io configDir w = (.ok (), m₂')) :
    m₁'.config.Same m₂'.config ↔ AgreeOffFiles io configDir w m₁.config m₂.config := by
  obtain ⟨camera, serial, mode, media, protocol, hc, hs, hm, hd, hp, hm₁⟩ := loadAll_ok hl₁
  obtain ⟨camera', serial', mode', media', protocol', hc', hs', hm', hd', hp', hm₂⟩ :=
    loadAll_ok hl₂
  obtain rfl := Except.ok.inj (hc.symm.trans hc')
  obtain rfl := Except.ok.inj (hs.symm.trans hs')
  obtain rfl := Except.ok.inj (hm.symm.trans hm')
  obtain rfl := Except.ok.inj (hd.symm.trans hd')
  obtain rfl := Except.ok.inj (hp.symm.trans hp')
  have hcommands := merge_agree_iff Str.unquote serial commandName_injective
    m₁.config.serial.commands m₂.config.serial.commands
  have henabled := merge_agree_iff (Str.toBool · true) mode (modeName_injective "enable")
    m₁.config.mode.enabledModes m₂.config.mode.enabledModes
  have houtputs := merge_agree_iff Str.unquote mode (modeName_injective "composite_output")
    m₁.config.mode.compositeOutputs m₂.config.mode.compositeOutputs
  rw [hm₁, hm₂]
  constructor
  · intro h
    refine ⟨fun cfg hcfg ↦ ?_, fun cfg hcfg ↦ ?_, fun cfg hcfg ↦ ?_⟩
    · obtain rfl := Except.ok.inj (hs.symm.trans hcfg)
      exact hcommands.mp h.serial.commands
    · obtain rfl := Except.ok.inj (hm.symm.trans hcfg)
      exact henabled.mp h.mode.enabledModes
    · obtain rfl := Except.ok.inj (hm.symm.trans hcfg)
      exact houtputs.mp h.mode.compositeOutputs
  · intro h
    refine ⟨cameraFrom_eq camera h₁.noVisibleMetadata h₂.noVisibleMetadata, ⟨rfl, ?_⟩,
      ⟨rfl, ?_, ?_⟩, rfl, rfl⟩
    · exact hcommands.mpr (h.commands serial hs)
    · exact henabled.mpr (h.enabledModes mode hm)
    · exact houtputs.mpr (h.compositeOutputs mode hm)

theorem reload_same_settings :
    (settingsManager.loadAll settingsDisk "new" ()).2.config.Same
      (({} : ConfigManager).loadAll settingsDisk "new" ()).2.config := by
  have hl : (settingsManager.loadAll settingsDisk "new" ()).1 = .ok () := by decide +kernel
  have hl' : (({} : ConfigManager).loadAll settingsDisk "new" ()).1 = .ok () := by decide +kernel
  have hs : parseSimpleYaml settingsDisk (ConfigFile.serial.path "new") () =
      .ok [(snowKey, "55AA")] := by decide +kernel
  have hm : parseSimpleYaml settingsDisk (ConfigFile.mode.path "new") () =
      .ok [(visibleOnlyKey, "false")] := by decide +kernel
  have hcommands : settingsManager.config.serial.commands = [("snow".toList, "55AA".toList)] := by
    rw [settings_loaded]
    decide +kernel
  have henabled : settingsManager.config.mode.enabledModes = [("visible_only".toList, false)] := by
    rw [settings_loaded]
    decide +kernel
  have houtputs : settingsManager.config.mode.compositeOutputs = [] := by
    rw [settings_loaded]
    decide +kernel
  have hagree : AgreeOffFiles settingsDisk "new" () settingsManager.config {} := by
    refine ⟨fun cfg hcfg name hn ↦ ?_, fun cfg hcfg name hn ↦ ?_, fun cfg hcfg name hn ↦ ?_⟩
    · obtain rfl := Except.ok.inj (hs.symm.trans hcfg)
      have hne : ¬(name == "snow".toList) = true := by
        intro he
        rw [eq_of_beq he] at hn
        exact hn ⟨snowKey, "55AA", by decide, List.lookup_cons_self⟩
      rw [hcommands, List.lookup_singleton, if_neg hne]
      rfl
    · obtain rfl := Except.ok.inj (hm.symm.trans hcfg)
      have hne : ¬(name == "visible_only".toList) = true := by
        intro he
        rw [eq_of_beq he] at hn
        exact hn ⟨visibleOnlyKey, "false", by decide, List.lookup_cons_self⟩
      rw [henabled, List.lookup_cons, Bool.eq_false_iff.mpr hne]
    · rw [houtputs]
  exact (reload_same_iff ⟨[("conf", ())], rfl⟩ ⟨[], rfl⟩ (Prod.ext hl rfl) (Prod.ext hl' rfl)).mpr
    hagree

def modeDisk : FileIo Unit :=
  disk fun path ↦
    if path = "old/mode.yaml".toList then
      some "mode:\n  modes:\n    visible_only:\n      enable: false\n".toList
    else some []

def loadedFrom (configDir : Text) : ConfigManager :=
  (({} : ConfigManager).loadAll modeDisk configDir ()).2

/-- A mode that an earlier load turned off stays off. -/
theorem stale_mode :
    let reloaded := (loadedFrom "old").loadAll modeDisk "new" ()
    let loaded := ({} : ConfigManager).loadAll modeDisk "new" ()
    reloaded.1 = .ok () ∧ loaded.1 = .ok () ∧ ¬ reloaded.2.config.Same loaded.2.config := by
  refine ⟨by decide +kernel, by decide +kernel, fun h ↦ ?_⟩
  exact absurd (h.mode.enabledModes "visible_only") (by decide +kernel)

end Reload

end ConfigManager

end TriFusion.Foundation
