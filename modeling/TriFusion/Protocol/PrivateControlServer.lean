import TriFusion.Foundation.Scalars

namespace TriFusion.Protocol

open Foundation

inductive PrivateWorkMode
  | visibleOnly
  | lowlightOnly
  | thermalOnly
  | lowlightThermalComposite
  | visibleLowlightFusion
  | visibleThermalFusion
  | visibleCompositeFusion
  deriving DecidableEq, Repr

namespace PrivateWorkMode

def toText : PrivateWorkMode → Text
  | .visibleOnly => "VISIBLE_ONLY"
  | .lowlightOnly => "LOWLIGHT_ONLY"
  | .thermalOnly => "THERMAL_ONLY"
  | .lowlightThermalComposite => "LOWLIGHT_THERMAL_COMPOSITE"
  | .visibleLowlightFusion => "VISIBLE_LOWLIGHT_FUSION"
  | .visibleThermalFusion => "VISIBLE_THERMAL_FUSION"
  | .visibleCompositeFusion => "VISIBLE_COMPOSITE_FUSION"

def toCommandName : PrivateWorkMode → Text
  | .visibleOnly => "visible"
  | .lowlightOnly => "lowlight"
  | .thermalOnly => "thermal"
  | .lowlightThermalComposite => "lowlight_thermal"
  | .visibleLowlightFusion => "visible_lowlight"
  | .visibleThermalFusion => "visible_thermal"
  | .visibleCompositeFusion => "visible_composite"

/-- `privateWorkModeFromCommandName`. -/
def fromCommandName (name : Text) : Option PrivateWorkMode :=
  if name = "visible".toList ∨ name = "1".toList ∨ name = "VISIBLE_ONLY".toList then
    some .visibleOnly
  else if name = "lowlight".toList ∨ name = "2".toList ∨ name = "LOWLIGHT_ONLY".toList then
    some .lowlightOnly
  else if name = "thermal".toList ∨ name = "3".toList ∨ name = "THERMAL_ONLY".toList then
    some .thermalOnly
  else if name = "lowlight_thermal".toList ∨ name = "4".toList ∨
      name = "LOWLIGHT_THERMAL_COMPOSITE".toList then some .lowlightThermalComposite
  else if name = "visible_lowlight".toList ∨ name = "5".toList ∨
      name = "VISIBLE_LOWLIGHT_FUSION".toList then some .visibleLowlightFusion
  else if name = "visible_thermal".toList ∨ name = "6".toList ∨
      name = "VISIBLE_THERMAL_FUSION".toList then some .visibleThermalFusion
  else if name = "visible_composite".toList ∨ name = "7".toList ∨
      name = "VISIBLE_COMPOSITE_FUSION".toList then some .visibleCompositeFusion
  else none

theorem fromCommandName_toText (mode : PrivateWorkMode) :
    fromCommandName mode.toText = some mode := by
  cases mode <;> decide

theorem toText_injective : Function.Injective toText := by
  intro mode mode' h
  have hs := (fromCommandName_toText mode).symm.trans (h ▸ fromCommandName_toText mode')
  exact Option.some.inj hs

end PrivateWorkMode

structure PrivateControlResult where
  ok : Bool := false
  message : Text := []
  currentMode : Text := []
  deriving DecidableEq

structure PrivateControlServer where
  port : UInt16 := 18080
  currentMode : PrivateWorkMode := .lowlightThermalComposite
  currentFusionColor : Text := "forest"
  currentContourMode : Text := "off"
  currentInfraredPolarity : Text := "white_hot"
  deriving DecidableEq

namespace PrivateControlServer

def jsonEscape (text : Text) : Text :=
  text.flatMap fun c ↦
    if c = '\\' then "\\\\".toList
    else if c = '"' then "\\\"".toList
    else if c = '\n' then "\\n".toList
    else if c = '\r' then "\\r".toList
    else if c = '\t' then "\\t".toList
    else [c]

def httpJson (statusCode : ℕ) (statusText jsonBody : Text) : Text :=
  "HTTP/1.1 ".toList ++ decimal statusCode ++ " ".toList ++ statusText ++
    "\r\nContent-Type: application/json\r\nContent-Length: ".toList ++ decimal jsonBody.length ++
    "\r\nConnection: close\r\nAccess-Control-Allow-Origin: *\r\n\r\n".toList ++ jsonBody

def methodNotAllowed : Text :=
  "\x7b\"ok\":false,\"result\":\"failed\",\"error\":\"method must be POST or GET\"\x7d"

def unsupportedMode : Text :=
  ("\x7b\"ok\":false,\"error\":\"unsupported mode\",\"supported\":[\"visible\",\"lowlight\"," ++
    "\"thermal\",\"lowlight_thermal\",\"visible_lowlight\",\"visible_thermal\"," ++
    "\"visible_composite\"]\x7d" : String)

def modeReply (targetMode : PrivateWorkMode) (result : PrivateControlResult) : Text :=
  httpJson (if result.ok then 200 else 500) (if result.ok then "OK" else "Internal Server Error")
    ("\x7b\"ok\":".toList ++ (if result.ok then "true".toList else "false".toList) ++
      ",\"result\":\"".toList ++ (if result.ok then "succeeded".toList else "failed".toList) ++
      "\",\"mode\":\"".toList ++ jsonEscape targetMode.toText ++ "\",\"command\":\"".toList ++
      jsonEscape targetMode.toCommandName ++ "\",\"message\":\"".toList ++
      jsonEscape result.message ++ "\"\x7d".toList)

variable {σ : Type}

/-- `modeCallback` works on a state of its own; `none` stands for an empty function. -/
def handleModeRequest (modeCallback : Option (PrivateWorkMode → σ → PrivateControlResult × σ))
    (method modeName : Text) (s : PrivateControlServer) (x : σ) :
    Text × PrivateControlServer × σ :=
  if method ≠ "POST".toList ∧ method ≠ "GET".toList then
    (httpJson 405 "Method Not Allowed" methodNotAllowed, s, x)
  else
    match PrivateWorkMode.fromCommandName modeName with
    | none => (httpJson 400 "Bad Request" unsupportedMode, s, x)
    | some targetMode =>
      let (result, x) : PrivateControlResult × σ :=
        match modeCallback with
        | some callback => callback targetMode x
        | none => ({ message := "mode switch callback is not installed" }, x)
      (modeReply targetMode result,
        if result.ok then { s with currentMode := targetMode } else s, x)

section ModeRequest

variable {callback : PrivateWorkMode → σ → PrivateControlResult × σ} {method modeName : Text}
  {s : PrivateControlServer} {x : σ}

theorem handleModeRequest_passed {targetMode : PrivateWorkMode}
    (hm : method = "POST".toList ∨ method = "GET".toList)
    (hn : PrivateWorkMode.fromCommandName modeName = some targetMode) :
    (handleModeRequest (some callback) method modeName s x).2 =
      (if (callback targetMode x).1.ok then { s with currentMode := targetMode } else s,
        (callback targetMode x).2) := by
  unfold handleModeRequest
  rw [if_neg (fun h ↦ hm.elim h.1 h.2), hn]

theorem handleModeRequest_refused
    (h : (method = "POST".toList ∨ method = "GET".toList) →
      PrivateWorkMode.fromCommandName modeName = none) :
    (handleModeRequest (some callback) method modeName s x).2 = (s, x) := by
  unfold handleModeRequest
  split
  · rfl
  · rename_i hm
    rw [h (or_iff_not_and_not.mpr hm)]

end ModeRequest

def statusHead (s : PrivateControlServer) : Text :=
  "\x7b\"ok\":true,\"server\":\"private_control\",\"control_port\":".toList ++
    decimal s.port.toNat ++ ",".toList

def currentModeKey : Text := "\"current_mode\":\""

def statusTail (s : PrivateControlServer) : Text :=
  "\",\"current_composite\":\x7b\"fusion_color\":\"".toList ++ jsonEscape s.currentFusionColor ++
    "\",\"contour\":\"".toList ++ jsonEscape s.currentContourMode ++
    "\",\"infrared_polarity\":\"".toList ++ jsonEscape s.currentInfraredPolarity ++
    ("\"\x7d,\"commands\":\x7b\"1\":\"/api/v1/mode/visible\",\"2\":\"/api/v1/mode/lowlight\"," ++
      "\"3\":\"/api/v1/mode/thermal\",\"4\":\"/api/v1/mode/lowlight_thermal\"," ++
      "\"5\":\"/api/v1/mode/visible_lowlight\",\"6\":\"/api/v1/mode/visible_thermal\"," ++
      "\"7\":\"/api/v1/mode/visible_composite\"\x7d,\"composite_controls\":\x7b" ++
      "\"fusion_color\":\"/api/v1/composite/fusion_color/" ++
      "\x7bblack_white|forest|snow|ocean|city|desert|default\x7d\"," ++
      "\"contour\":\"/api/v1/composite/contour/\x7boff|red|green|blue|purple\x7d\"," ++
      "\"infrared_polarity\":\"/api/v1/composite/infrared_polarity/" ++
      "\x7bwhite_hot|black_hot\x7d\"," ++
      "\"query_config\":\"/api/v1/composite/config\"\x7d\x7d" : String).toList

def handleStatusRequest (s : PrivateControlServer) : Text :=
  httpJson 200 "OK"
    (s.statusHead ++ (currentModeKey ++ (jsonEscape s.currentMode.toText ++ s.statusTail)))

def atKey (text : Text) : Option Text := text.tails.find? (currentModeKey.isPrefixOf ·)

/-- What a reader of a reply takes for the mode: the text after the key, up to the next quote. -/
def reportedMode (reply : Text) : Option Text :=
  (atKey reply).map fun t ↦ (t.drop currentModeKey.length).takeWhile (· ≠ '"')

theorem atKey_skip {before : Text} (h : '"' ∉ before) (t : Text) :
    atKey (before ++ t) = atKey t := by
  induction before with
  | nil => rfl
  | cons c before ih =>
    rw [List.mem_cons, not_or] at h
    obtain ⟨hc, hb⟩ := h
    have hn : currentModeKey.isPrefixOf (c :: (before ++ t)) = false := by
      have he : currentModeKey = '"' :: currentModeKey.tail := by decide
      rw [he, List.isPrefixOf_cons_cons, beq_false_of_ne hc, Bool.false_and]
    unfold atKey at ih ⊢
    rw [List.cons_append, List.tails, List.find?_cons, hn]
    exact ih hb

theorem decimal_no_quote (n : ℕ) : '"' ∉ decimal n := by
  intro hc
  exact absurd (isDigit_of_mem_decimal hc) (by decide)

theorem jsonEscape_mode (mode : PrivateWorkMode) : jsonEscape mode.toText = mode.toText := by
  cases mode <;> decide

theorem mode_no_quote (mode : PrivateWorkMode) : '"' ∉ mode.toText := by
  cases mode <;> decide

theorem atKey_httpJson (body : Text) : atKey (httpJson 200 "OK" body) = atKey body := by
  unfold httpJson
  simp only [List.append_assoc]
  rw [atKey_skip (by decide), atKey_skip (decimal_no_quote 200), atKey_skip (by decide),
    atKey_skip (by decide), atKey_skip (by decide), atKey_skip (decimal_no_quote body.length),
    atKey_skip (by decide)]

theorem atKey_statusHead (s : PrivateControlServer) (t : Text) :
    atKey (s.statusHead ++ t) = atKey t := by
  have hl (t : Text) :
      atKey ("\x7b\"ok\":true,\"server\":\"private_control\",\"control_port\":".toList ++ t) =
        atKey t := rfl
  unfold statusHead
  simp only [List.append_assoc]
  rw [hl, atKey_skip (decimal_no_quote s.port.toNat), atKey_skip (by decide)]

theorem atKey_key (t : Text) : atKey (currentModeKey ++ t) = some (currentModeKey ++ t) := rfl

theorem reportedMode_status (s : PrivateControlServer) :
    reportedMode s.handleStatusRequest = some s.currentMode.toText := by
  have hq : s.statusTail = '"' :: s.statusTail.tail := rfl
  unfold reportedMode handleStatusRequest
  rw [atKey_httpJson, atKey_statusHead, atKey_key, Option.map_some, List.drop_left,
    jsonEscape_mode, hq, takeWhile_before (mode_no_quote s.currentMode)]

end PrivateControlServer

end TriFusion.Protocol
