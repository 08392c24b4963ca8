import TriFusion.Protocol.PrivateControlRoutes

namespace TriFusion.Protocol.PrivateControlServer

open Foundation

def modeNames : PrivateWorkMode → List Text
  | .visibleOnly => ["visible", "1", "VISIBLE_ONLY"]
  | .lowlightOnly => ["lowlight", "2", "LOWLIGHT_ONLY"]
  | .thermalOnly => ["thermal", "3", "THERMAL_ONLY"]
  | .lowlightThermalComposite => ["lowlight_thermal", "4", "LOWLIGHT_THERMAL_COMPOSITE"]
  | .visibleLowlightFusion => ["visible_lowlight", "5", "VISIBLE_LOWLIGHT_FUSION"]
  | .visibleThermalFusion => ["visible_thermal", "6", "VISIBLE_THERMAL_FUSION"]
  | .visibleCompositeFusion => ["visible_composite", "7", "VISIBLE_COMPOSITE_FUSION"]

structure Control where
  kind : PrivateCompositeControlKind
  name : Text
  keys : List Text
  values : List (NamedValue × List Text)

def fusionColorControl : Control where
  kind := .fusionColor
  name := "fusion_color"
  keys := ["fusioncolor", "color"]
  values := [((1, "black_white".toList), ["1", "blackwhite", "bw", "mono", "monochrome"]),
    ((2, "forest".toList), ["2", "forest"]), ((3, "snow".toList), ["3", "snow"]),
    ((4, "ocean".toList), ["4", "ocean", "sea"]), ((5, "city".toList), ["5", "city", "urban"]),
    ((6, "desert".toList), ["6", "desert"]), ((7, "default".toList), ["7", "default", "normal"])]

def contourControl : Control where
  kind := .contourMode
  name := "contour"
  keys := ["contour", "contourmode", "outline", "outlinemode"]
  values := [((0, "off".toList), ["0", "off", "close", "none", "disable", "disabled"]),
    ((1, "red".toList), ["1", "red"]), ((2, "green".toList), ["2", "green"]),
    ((3, "blue".toList), ["3", "blue"]), ((4, "purple".toList), ["4", "purple", "violet"])]

def infraredPolarityControl : Control where
  kind := .infraredPolarity
  name := "infrared_polarity"
  keys := ["infraredpolarity", "irpolarity", "polarity"]
  values := [((0, "white_hot".toList), ["0", "whitehot", "white"]),
    ((1, "black_hot".toList), ["1", "blackhot", "black"])]

def controls : List Control := [fusionColorControl, contourControl, infraredPolarityControl]

/-- What follows the composite prefix names a control and one of its values. -/
inductive NamesControl : Text → PrivateCompositeControlRequest → Prop
  | mk {key text : Text} {control : Control} {v : NamedValue} {names : List Text} :
    control ∈ controls → (v, names) ∈ control.values → '/' ∉ key → '/' ∉ text →
      normalizeLower key ∈ control.keys → normalizeLower text ∈ names →
        NamesControl (key ++ '/' :: text) ⟨control.kind, control.name, v.2, v.1⟩

/-- The paths of the callbacks. -/
inductive Routes : Text → ControlCallback → Prop
  | mode {name : Text} {mode : PrivateWorkMode} : name ∈ modeNames mode →
      Routes (modePrefix ++ name) (.mode mode)
  | composite {subPath : Text} {req : PrivateCompositeControlRequest} : NamesControl subPath req →
      Routes (compositePrefix ++ subPath) (.composite req)
  | config : Routes "/api/v1/composite/config" .configQuery
  | configuration : Routes "/api/v1/composite/configuration" .configQuery

section Tables

variable {α : Type} {s : Text} {a : α} {table : List (α × List Text)}

/-- No name stands for two entries. -/
def Unambiguous (table : List (α × List Text)) : Prop :=
  table.Pairwise fun first second ↦ ∀ name ∈ first.2, name ∉ second.2

instance : Decidable (Unambiguous table) :=
  inferInstanceAs (Decidable (table.Pairwise fun first second ↦ ∀ name ∈ first.2, name ∉ second.2))

def lookupName (s : Text) : List (α × List Text) → Option α
  | [] => none
  | (a, names) :: rest => if s ∈ names then some a else lookupName s rest

theorem lookupName_eq_some_iff (h : Unambiguous table) :
    lookupName s table = some a ↔ ∃ names, (a, names) ∈ table ∧ s ∈ names := by
  induction table with
  | nil => simp [lookupName]
  | cons first rest ih =>
    obtain ⟨a', names⟩ := first
    obtain ⟨hfirst, hrest⟩ := List.pairwise_cons.mp h
    rw [lookupName]
    split
    · rename_i hs
      constructor
      · intro he
        exact ⟨names, Option.some.inj he ▸ List.mem_cons_self, hs⟩
      · intro he
        obtain ⟨names', hm, hs'⟩ := he
        rcases List.mem_cons.mp hm with he | hm
        · rw [(Prod.mk.inj he).1]
        · exact absurd hs' (hfirst (a, names') hm s hs)
    · rename_i hs
      rw [ih hrest]
      constructor
      · intro he
        obtain ⟨names', hm, hs'⟩ := he
        exact ⟨names', List.mem_cons_of_mem _ hm, hs'⟩
      · intro he
        obtain ⟨names', hm, hs'⟩ := he
        rcases List.mem_cons.mp hm with he | hm
        · rw [(Prod.mk.inj he).2] at hs'
          exact absurd hs' hs
        · exact ⟨names', hm, hs'⟩

def controlTable : List (Control × List Text) := controls.map fun control ↦ (control, control.keys)

theorem controlTable_unambiguous : Unambiguous controlTable := by
  decide

theorem controls_unambiguous : ∀ control ∈ controls, Unambiguous control.values := by
  decide

theorem no_empty_key : ∀ control ∈ controls, normalizeLower [] ∉ control.keys := by
  decide

theorem no_empty_name :
    ∀ control ∈ controls, ∀ entry ∈ control.values, normalizeLower [] ∉ entry.2 := by
  decide

theorem mem_controlTable {control : Control} {keys : List Text} :
    (control, keys) ∈ controlTable ↔ control ∈ controls ∧ control.keys = keys := by
  simp [controlTable, eq_comm]

end Tables

section Paths

variable {name subPath : Text} {mode : PrivateWorkMode} {req : PrivateCompositeControlRequest}

theorem fromCommandName_eq_some_iff :
    PrivateWorkMode.fromCommandName name = some mode ↔ name ∈ modeNames mode := by
  constructor
  · intro h
    unfold PrivateWorkMode.fromCommandName at h
    split_ifs at h
    all_goals
      obtain rfl := Option.some.inj h
      rwa [modeNames, List.mem_cons, List.mem_cons, List.mem_singleton]
  · intro h
    have hall : ∀ name ∈ modeNames mode, PrivateWorkMode.fromCommandName name = some mode := by
      cases mode <;> decide
    exact hall name h

theorem splitTwo_slash {a b : Text} (ha : '/' ∉ a) (hb : '/' ∉ b) (hna : a ≠ []) (hnb : b ≠ []) :
    splitTwo (a ++ '/' :: b) = some (a, b) := by
  unfold splitTwo
  dsimp only
  rw [takeWhile_before ha, drop_before, if_neg (by simp [hna, hnb]), if_neg hb]

theorem eq_of_splitTwo {a b : Text} (h : splitTwo subPath = some (a, b)) :
    subPath = a ++ '/' :: b ∧ '/' ∉ a ∧ '/' ∉ b := by
  unfold splitTwo at h
  dsimp only at h
  split_ifs at h with hnone hb
  rw [not_or, not_not] at hnone
  obtain ⟨first, rest, rfl, hf⟩ := List.eq_append_cons_of_mem hnone.1
  rw [takeWhile_before hf, drop_before] at h hb
  obtain ⟨rfl, rfl⟩ := Prod.mk.inj (Option.some.inj h)
  exact ⟨rfl, hf, hb⟩

def requestOf (control : Control) (v : NamedValue) : PrivateCompositeControlRequest :=
  ⟨control.kind, control.name, v.2, v.1⟩

theorem lookupName_controlTable (key : Text) : lookupName key controlTable =
    if key ∈ ["fusioncolor".toList, "color".toList] then some fusionColorControl
    else if key ∈ ["contour".toList, "contourmode".toList, "outline".toList,
      "outlinemode".toList] then some contourControl
    else if key ∈ ["infraredpolarity".toList, "irpolarity".toList, "polarity".toList] then
      some infraredPolarityControl
    else none := rfl

theorem parseCompositeControlPath_eq (subPath : Text) :
    parseCompositeControlPath subPath = (splitTwo subPath).bind fun parts ↦
      (lookupName (normalizeLower parts.1) controlTable).bind fun control ↦
        (lookupName (normalizeLower parts.2) control.values).map (requestOf control) := by
  unfold parseCompositeControlPath
  cases splitTwo subPath with
  | none => rfl
  | some parts =>
    rw [Option.bind_some, lookupName_controlTable]
    dsimp only
    split_ifs <;> rfl

theorem parseCompositeControlPath_eq_some_iff :
    parseCompositeControlPath subPath = some req ↔ NamesControl subPath req := by
  rw [parseCompositeControlPath_eq]
  constructor
  · intro h
    obtain ⟨⟨key, text⟩, hsplit, h⟩ := Option.bind_eq_some_iff.mp h
    obtain ⟨control, hkey, h⟩ := Option.bind_eq_some_iff.mp h
    obtain ⟨v, hv, rfl⟩ := Option.map_eq_some_iff.mp h
    obtain ⟨rfl, hk, ht⟩ := eq_of_splitTwo hsplit
    obtain ⟨keys, hm, hkeys⟩ := (lookupName_eq_some_iff controlTable_unambiguous).mp hkey
    obtain ⟨hc, rfl⟩ := mem_controlTable.mp hm
    obtain ⟨names, hm, hnames⟩ := (lookupName_eq_some_iff (controls_unambiguous control hc)).mp hv
    exact .mk hc hm hk ht hkeys hnames
  · intro h
    cases h with
    | @mk key text control v names hc hm hk ht hkeys hnames =>
      have hkey : lookupName (normalizeLower key) controlTable = some control :=
        (lookupName_eq_some_iff controlTable_unambiguous).mpr
          ⟨control.keys, mem_controlTable.mpr ⟨hc, rfl⟩, hkeys⟩
      have hv : lookupName (normalizeLower text) control.values = some v :=
        (lookupName_eq_some_iff (controls_unambiguous control hc)).mpr ⟨names, hm, hnames⟩
      have hkn : key ≠ [] := by
        intro he
        rw [he] at hkeys
        exact no_empty_key control hc hkeys
      have htn : text ≠ [] := by
        intro he
        rw [he] at hnames
        exact no_empty_name control hc _ hm hnames
      rw [splitTwo_slash hk ht hkn htn, Option.bind_some, hkey, Option.bind_some, hv]
      rfl

theorem NamesControl.slash_mem (h : NamesControl subPath req) : '/' ∈ subPath := by
  cases h with
  | mk => exact List.mem_append_right _ List.mem_cons_self

theorem startsWith_append (pre rest : Text) : Str.startsWith (pre ++ rest) pre = true :=
  List.isPrefixOf_iff_prefix.mpr (List.prefix_append pre rest)

theorem eq_append_of_startsWith {path pre : Text} (h : Str.startsWith path pre = true) :
    path = pre ++ path.drop pre.length := by
  obtain ⟨rest, rfl⟩ := List.isPrefixOf_iff_prefix.mp h
  rw [List.drop_left]

theorem append_ne_of_not_startsWith {path pre : Text} (h : Str.startsWith path pre = false)
    (rest : Text) : pre ++ rest ≠ path := by
  intro he
  rw [← he, startsWith_append] at h
  cases h

variable {request path method : Text} {call : ControlCallback}

theorem Routes.of_callbackOf (h : callbackOf request = some call) :
    passesMethod (parseMethod request) = true ∧ Routes (parsePath request) call := by
  unfold callbackOf at h
  dsimp only at h
  split_ifs at h with hstatus hmode hconfig hcomposite
  · unfold modeCallbackOf at h
    split_ifs at h with hm
    obtain ⟨mode, hn, rfl⟩ := Option.map_eq_some_iff.mp h
    refine ⟨hm, ?_⟩
    rw [eq_append_of_startsWith hmode]
    exact .mode (fromCommandName_eq_some_iff.mp hn)
  · unfold configCallbackOf at h
    split_ifs at h with hm
    obtain rfl := Option.some.inj h
    refine ⟨hm, ?_⟩
    rcases hconfig with hpath | hpath
    · exact hpath ▸ .config
    · exact hpath ▸ .configuration
  · unfold compositeCallbackOf at h
    split_ifs at h with hm
    obtain ⟨req, hn, rfl⟩ := Option.map_eq_some_iff.mp h
    refine ⟨hm, ?_⟩
    rw [eq_append_of_startsWith hcomposite]
    exact .composite (parseCompositeControlPath_eq_some_iff.mp hn)

/-- A request invokes a callback exactly if its method passes and its path is a route of it. -/
theorem callbackOf_eq_some_iff : callbackOf request = some call ↔
    passesMethod (parseMethod request) = true ∧ Routes (parsePath request) call := by
  refine ⟨Routes.of_callbackOf, ?_⟩
  intro h
  obtain ⟨hm, hr⟩ := h
  unfold callbackOf
  dsimp only
  generalize parsePath request = path at hr
  cases hr with
  | @mode name mode hn =>
    have hstatus : modePrefix ++ name ≠ "/api/v1/status".toList :=
      append_ne_of_not_startsWith (by decide) name
    rw [if_neg hstatus, if_pos (startsWith_append modePrefix name), List.drop_left, modeCallbackOf,
      if_pos hm, fromCommandName_eq_some_iff.mpr hn]
    rfl
  | @composite subPath req hn =>
    have hstatus : compositePrefix ++ subPath ≠ "/api/v1/status".toList :=
      append_ne_of_not_startsWith (by decide) subPath
    have hmode : ¬Str.startsWith (compositePrefix ++ subPath) modePrefix = true :=
      Bool.eq_false_iff.mp rfl
    have hconfig : ¬(compositePrefix ++ subPath = "/api/v1/composite/config".toList ∨
        compositePrefix ++ subPath = "/api/v1/composite/configuration".toList) := by
      have hslash := hn.slash_mem
      have hshort : ∀ sub : Text, '/' ∉ sub →
          compositePrefix ++ subPath ≠ compositePrefix ++ sub := by
        intro sub hsub he
        rw [List.append_cancel_left he] at hslash
        exact hsub hslash
      exact not_or.mpr ⟨hshort "config" (by decide), hshort "configuration" (by decide)⟩
    rw [if_neg hstatus, if_neg hmode, if_neg hconfig,
      if_pos (startsWith_append compositePrefix subPath), List.drop_left, compositeCallbackOf,
      if_pos hm, parseCompositeControlPath_eq_some_iff.mpr hn]
    rfl
  | config =>
    rw [if_neg (by decide), if_neg (by decide), if_pos (.inl rfl), configCallbackOf, if_pos hm]
  | configuration =>
    rw [if_neg (by decide), if_neg (by decide), if_pos (.inr rfl), configCallbackOf, if_pos hm]

theorem NamesControl.mem_controls (h : NamesControl subPath req) :
    ∃ control ∈ controls, ∃ entry ∈ control.values, req = requestOf control entry.1 := by
  cases h with
  | @mk key text control v names hc hm => exact ⟨control, hc, (v, names), hm, rfl⟩

end Paths

end TriFusion.Protocol.PrivateControlServer
