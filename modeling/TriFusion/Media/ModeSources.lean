import TriFusion.Foundation.ConfigReload
import TriFusion.Library.Assignments
import TriFusion.Media.GStreamerPipelineConfigManager

namespace TriFusion.Media

open Foundation Library Assignments

namespace GStreamerPipelineConfigManager

def modeSourcePrefix : Text := "camera.mode_source."

/-- The mode sources that `load` sets before it reads the file. -/
def builtinModeSources : List (Text × Text) :=
  [("visible_composite", "composite"), ("visible_thermal", "composite"),
    ("visible_lowlight", "composite"), ("lowlight_thermal", "composite"),
    ("thermal", "composite"), ("lowlight", "composite"), ("visible", "visible")]

/-- The body of the loop of `loadModeSourceMapFromCameraYaml`. -/
def assignModeSource (map : List (Text × Text)) (kv : Text × Text) : List (Text × Text) :=
  if !Str.startsWith kv.1 modeSourcePrefix then map
  else
    let modeName := normalizeModeCommand (kv.1.drop modeSourcePrefix.length)
    let sourceName := normalizeSourceName kv.2
    if modeName ≠ [] then (modeName, sourceName) :: map else map

variable {ω : Type}

/-- `order` is the order in which the standard library goes through an unordered map. -/
def loadModeSourceMapFromCameraYaml (io : FileIo ω) (cameraYamlPath : Text)
    (order : FlatConfig → List (Text × Text)) (w : ω) (m : GStreamerPipelineConfigManager) :
    GStreamerPipelineConfigManager :=
  match parseSimpleYaml io cameraYamlPath w with
  | .error _ => m
  | .ok parsed =>
    { m with modeSourceMap := (order parsed).foldl assignModeSource m.modeSourceMap }

def modeOfKey (key : Text) : Option Text :=
  if !Str.startsWith key modeSourcePrefix then none
  else
    let modeName := normalizeModeCommand (key.drop modeSourcePrefix.length)
    if modeName ≠ [] then some modeName else none

/-- Every two orders of the entries give the same mode sources, and so the
same camera for every mode. -/
def OrderFree (io : FileIo ω) (path : Text) (w : ω) (m : GStreamerPipelineConfigManager) : Prop :=
  ∀ order order' : FlatConfig → List (Text × Text),
    (∀ config, Enumerates (order config) config) →
    (∀ config, Enumerates (order' config) config) →
    let loaded := m.loadModeSourceMapFromCameraYaml io path order w
    let loaded' := m.loadModeSourceMapFromCameraYaml io path order' w
    SameMap loaded.modeSourceMap loaded'.modeSourceMap ∧
      ∀ command, loaded.configForModeCommand command = loaded'.configForModeCommand command

def AliasesAgree (config : FlatConfig) : Prop :=
  Compatible modeOfKey normalizeSourceName config

variable {io : FileIo ω} {path : Text} {w : ω} {m : GStreamerPipelineConfigManager}

theorem assignModeSource_eq (map : List (Text × Text)) (kv : Text × Text) :
    assignModeSource map kv =
      match modeOfKey kv.1 with
      | none => map
      | some mode => (mode, normalizeSourceName kv.2) :: map := by
  unfold assignModeSource modeOfKey
  by_cases hs : Str.startsWith kv.1 modeSourcePrefix = true
  · by_cases hm : normalizeModeCommand (kv.1.drop modeSourcePrefix.length) = []
    · simp [hs, hm]
    · simp [hs, hm]
  · simp [hs]

theorem foldl_assignModeSource (order map : List (Text × Text)) :
    order.foldl assignModeSource map =
      merge modeOfKey normalizeSourceName order.reverse map := by
  rw [merge, List.foldr_reverse]
  congr 1
  funext map kv
  rw [assignModeSource_eq]
  cases modeOfKey kv.1 <;> rfl

theorem loadModeSourceMap_of_ok {config : FlatConfig}
    (hc : parseSimpleYaml io path w = .ok config) (order : FlatConfig → List (Text × Text)) :
    m.loadModeSourceMapFromCameraYaml io path order w =
      { m with modeSourceMap :=
          merge modeOfKey normalizeSourceName (order config).reverse m.modeSourceMap } := by
  simp only [loadModeSourceMapFromCameraYaml, hc, foldl_assignModeSource]

theorem loadModeSourceMap_of_error {e : Status} (he : parseSimpleYaml io path w = .error e)
    (order : FlatConfig → List (Text × Text)) :
    m.loadModeSourceMapFromCameraYaml io path order w = m := by
  simp only [loadModeSourceMapFromCameraYaml, he]

theorem configForModeCommand_same {map map' : List (Text × Text)} (h : SameMap map map')
    (command : Text) :
    ({ m with modeSourceMap := map } : GStreamerPipelineConfigManager).configForModeCommand
        command =
      ({ m with modeSourceMap := map' } : GStreamerPipelineConfigManager).configForModeCommand
        command := by
  simp only [configForModeCommand, sourceNameForModeCommand, h (normalizeModeCommand command)]
  rfl

theorem Enumerates_reverse {order config : List (Text × Text)} (h : Enumerates order config) :
    Enumerates order.reverse config :=
  h.perm order.reverse_perm

/-- The order matters exactly when two entries about one mode disagree. -/
theorem mode_sources_order_free_iff (io : FileIo ω) (path : Text) (w : ω)
    (m : GStreamerPipelineConfigManager) :
    m.OrderFree io path w ↔
      ∀ config, parseSimpleYaml io path w = .ok config → AliasesAgree config := by
  constructor
  · intro h config hc
    refine (merge_order_free_iff config m.modeSourceMap).mp ?_
    intro order order' ho ho'
    have hupdate : ∀ o : List (Text × Text), Enumerates o config →
        ∀ c, Enumerates (Function.update entries config o.reverse c) c := by
      intro o hoc c
      by_cases hcc : c = config
      · subst hcc
        rw [Function.update_self]
        exact Enumerates_reverse hoc
      · rw [Function.update_of_ne hcc]
        exact enumerates_entries c
    have hs := (h _ _ (hupdate order ho) (hupdate order' ho')).1
    simpa only [loadModeSourceMap_of_ok hc, Function.update_self, List.reverse_reverse] using hs
  · intro h order order' ho ho'
    cases hc : parseSimpleYaml io path w with
    | error e =>
      simp only [loadModeSourceMap_of_error hc]
      exact ⟨SameMap.refl _, fun _ ↦ trivial⟩
    | ok config =>
      simp only [loadModeSourceMap_of_ok hc]
      have hs := (merge_order_free_iff config m.modeSourceMap).mpr (h config hc) _ _
        (Enumerates_reverse (ho config)) (Enumerates_reverse (ho' config))
      exact ⟨hs, configForModeCommand_same hs⟩

def twiceNamed : FileIo Unit :=
  ConfigManager.disk fun _ ↦
    some "camera:\n  mode_source:\n    1: composite\n    visible: visible\n".toList

theorem visible_mode_order_bound :
    ¬({ modeSourceMap := builtinModeSources } : GStreamerPipelineConfigManager).OrderFree
      twiceNamed "configs/camera.yaml" () := by
  intro h
  have hc := (h entries (fun config ↦ (entries config).reverse) enumerates_entries
    (fun config ↦ Enumerates_reverse (enumerates_entries config))).2 "1"
  exact absurd (congrArg GStreamerPipelineConfig.sourceName hc) (by decide +kernel)

end GStreamerPipelineConfigManager

end TriFusion.Media
