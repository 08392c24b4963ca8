import TriFusion.Protocol.PrivateControlRoutes

namespace TriFusion.Protocol

open Foundation

structure PrivateCompositeRegisterValue where
  index : Int32 := 0
  name : Text := []
  displayName : Text := []
  address : UInt16 := 0
  rawValue : UInt16 := 0
  value : Int32 := 0
  valueName : Text := []
  deriving DecidableEq

structure PrivateCompositeConfigSnapshot where
  ok : Bool := false
  message : Text := []
  registers : List PrivateCompositeRegisterValue := []
  deriving DecidableEq

/-- The callbacks of a server, over a state of their own; `none` stands for an empty function. -/
structure ControlCallbacks (σ : Type) where
  mode : Option (PrivateWorkMode → σ → PrivateControlResult × σ) := none
  composite : Option (PrivateCompositeControlRequest → σ → PrivateControlResult × σ) := none
  configQuery : Option (σ → PrivateCompositeConfigSnapshot × σ) := none

namespace PrivateControlServer

variable {σ : Type}

def unsupportedComposite : Text :=
  ("\x7b\"ok\":false,\"error\":\"unsupported composite control\",\"supported\":\x7b" ++
    "\"fusion_color\":[\"black_white\",\"forest\",\"snow\",\"ocean\",\"city\",\"desert\"," ++
    "\"default\"],\"contour\":[\"off\",\"red\",\"green\",\"blue\",\"purple\"]," ++
    "\"infrared_polarity\":[\"white_hot\",\"black_hot\"]\x7d\x7d" : String)

/-- The text of the configuration handler, which names the methods the other way round. -/
def configMethodNotAllowed : Text :=
  "\x7b\"ok\":false,\"result\":\"failed\",\"error\":\"method must be GET or POST\"\x7d"

def unknownApi : Text :=
  ("\x7b\"ok\":false,\"error\":\"unknown api\",\"usage\":\"POST /api/v1/mode/\x7bmode\x7d, " ++
    "POST /api/v1/composite/\x7bfusion_color|contour|infrared_polarity\x7d/\x7bvalue\x7d, " ++
    "or GET /api/v1/composite/config\"\x7d" : String)

def replyCode (ok : Bool) : ℕ := if ok then 200 else 500

def replyText (ok : Bool) : Text := if ok then "OK" else "Internal Server Error"

def resultHead (ok : Bool) : Text :=
  "\x7b\"ok\":".toList ++ (if ok then "true".toList else "false".toList) ++
    ",\"result\":\"".toList ++ (if ok then "succeeded".toList else "failed".toList)

def compositeReply (req : PrivateCompositeControlRequest) (result : PrivateControlResult) : Text :=
  httpJson (replyCode result.ok) (replyText result.ok)
    (resultHead result.ok ++ "\",\"control\":\"".toList ++ jsonEscape req.name ++
      "\",\"value_name\":\"".toList ++ jsonEscape req.valueName ++ "\",\"value\":".toList ++
      decimal req.value.toNat ++ ",\"message\":\"".toList ++ jsonEscape result.message ++
      "\"\x7d".toList)

def withComposite (req : PrivateCompositeControlRequest) (s : PrivateControlServer) :
    PrivateControlServer :=
  match req.kind with
  | .fusionColor => { s with currentFusionColor := req.valueName }
  | .contourMode => { s with currentContourMode := req.valueName }
  | .infraredPolarity => { s with currentInfraredPolarity := req.valueName }
  | .unknown => s

def handleCompositeRequest
    (compositeCallback : Option (PrivateCompositeControlRequest → σ → PrivateControlResult × σ))
    (method subPath : Text) (s : PrivateControlServer) (x : σ) :
    Text × PrivateControlServer × σ :=
  if method ≠ "POST".toList ∧ method ≠ "GET".toList then
    (httpJson 405 "Method Not Allowed" methodNotAllowed, s, x)
  else
    match parseCompositeControlPath subPath with
    | none => (httpJson 400 "Bad Request" unsupportedComposite, s, x)
    | some req =>
      let (result, x) : PrivateControlResult × σ :=
        match compositeCallback with
        | some callback => callback req x
        | none => ({ message := "composite control callback is not installed" }, x)
      (compositeReply req result, if result.ok then s.withComposite req else s, x)

def registerJson (item : PrivateCompositeRegisterValue) : Text :=
  "\x7b\"index\":".toList ++ signedDecimal item.index.toInt ++ ",\"name\":\"".toList ++
    jsonEscape item.name ++ "\",\"display_name\":\"".toList ++ jsonEscape item.displayName ++
    "\",\"address\":\"0x".toList ++ upperHex item.address.toNat ++ "\",\"raw_value\":".toList ++
    decimal item.rawValue.toNat ++ ",\"value\":".toList ++ signedDecimal item.value.toInt ++
    ",\"value_name\":\"".toList ++ jsonEscape item.valueName ++ "\"\x7d".toList

def configReply (snapshot : PrivateCompositeConfigSnapshot) : Text :=
  httpJson (replyCode snapshot.ok) (replyText snapshot.ok)
    (resultHead snapshot.ok ++ "\",\"message\":\"".toList ++ jsonEscape snapshot.message ++
      "\",\"registers\":[".toList ++
      List.intercalate ",".toList (snapshot.registers.map registerJson) ++ "]\x7d".toList)

def handleCompositeConfigRequest
    (configQueryCallback : Option (σ → PrivateCompositeConfigSnapshot × σ))
    (method : Text) (x : σ) : Text × σ :=
  if method ≠ "GET".toList ∧ method ≠ "POST".toList then
    (httpJson 405 "Method Not Allowed" configMethodNotAllowed, x)
  else
    let (snapshot, x) : PrivateCompositeConfigSnapshot × σ :=
      match configQueryCallback with
      | some callback => callback x
      | none => ({ message := "composite config query callback is not installed" }, x)
    (configReply snapshot, x)

def isConfigPath (path : Text) : Bool :=
  path = "/api/v1/composite/config".toList || path = "/api/v1/composite/configuration".toList

theorem isConfigPath_iff {path : Text} : isConfigPath path = true ↔
    path = "/api/v1/composite/config".toList ∨ path = "/api/v1/composite/configuration".toList := by
  rw [isConfigPath, Bool.or_eq_true, decide_eq_true_iff, decide_eq_true_iff]

def handleHttpRequest (callbacks : ControlCallbacks σ) (request : Text) (s : PrivateControlServer)
    (x : σ) : Text × PrivateControlServer × σ :=
  let method := parseMethod request
  let path := parsePath request
  if path = "/api/v1/status".toList then (s.handleStatusRequest, s, x)
  else if Str.startsWith path modePrefix then
    handleModeRequest callbacks.mode method (path.drop modePrefix.length) s x
  else if isConfigPath path then
    let (response, x) := handleCompositeConfigRequest callbacks.configQuery method x
    (response, s, x)
  else if Str.startsWith path compositePrefix then
    handleCompositeRequest callbacks.composite method (path.drop compositePrefix.length) s x
  else (httpJson 404 "Not Found" unknownApi, s, x)

def isRoute (path : Text) : Bool :=
  path = "/api/v1/status".toList || Str.startsWith path modePrefix || isConfigPath path ||
    Str.startsWith path compositePrefix

def Found (reply : Text) : Prop :=
  ∃ code text body, code ≠ 404 ∧ reply = httpJson code text body

theorem httpJson_code {code code' : ℕ} {text text' body body' : Text}
    (h : httpJson code text body = httpJson code' text' body') : code = code' := by
  have htake : ∀ (n : ℕ) (rest : Text),
      (decimal n ++ (" ".toList ++ rest)).takeWhile Char.isDigit = decimal n := by
    intro n rest
    rw [List.takeWhile_append_of_pos fun c hc ↦ isDigit_of_mem_decimal hc]
    exact List.append_nil _
  unfold httpJson at h
  simp only [List.append_assoc] at h
  have hs := congrArg (List.takeWhile Char.isDigit) (List.append_cancel_left h)
  rw [htake, htake] at hs
  exact decimal_injective hs

theorem not_found_of_404 (text body : Text) : ¬Found (httpJson 404 text body) := by
  intro h
  obtain ⟨code, text', body', hc, he⟩ := h
  exact hc (httpJson_code he).symm

section Replies

variable {method : Text} {s : PrivateControlServer} {x : σ}

theorem replyCode_ne (ok : Bool) : replyCode ok ≠ 404 := by
  cases ok <;> decide

theorem handleModeRequest_found
    (callback : Option (PrivateWorkMode → σ → PrivateControlResult × σ)) (modeName : Text) :
    Found (handleModeRequest callback method modeName s x).1 := by
  unfold handleModeRequest
  split
  · exact ⟨405, _, _, by decide, rfl⟩
  · split
    · exact ⟨400, _, _, by decide, rfl⟩
    · exact ⟨_, _, _, replyCode_ne _, rfl⟩

theorem handleCompositeRequest_found
    (callback : Option (PrivateCompositeControlRequest → σ → PrivateControlResult × σ))
    (subPath : Text) : Found (handleCompositeRequest callback method subPath s x).1 := by
  unfold handleCompositeRequest
  split
  · exact ⟨405, _, _, by decide, rfl⟩
  · split
    · exact ⟨400, _, _, by decide, rfl⟩
    · exact ⟨_, _, _, replyCode_ne _, rfl⟩

theorem handleCompositeConfigRequest_found
    (callback : Option (σ → PrivateCompositeConfigSnapshot × σ)) :
    Found (handleCompositeConfigRequest callback method x).1 := by
  unfold handleCompositeConfigRequest
  split
  · exact ⟨405, _, _, by decide, rfl⟩
  · exact ⟨_, _, _, replyCode_ne _, rfl⟩

variable (callbacks : ControlCallbacks σ) {request : Text}

theorem handleHttpRequest_unrouted (h : isRoute (parsePath request) = false) :
    handleHttpRequest callbacks request s x = (httpJson 404 "Not Found" unknownApi, s, x) := by
  simp only [isRoute, Bool.or_eq_false_iff, decide_eq_false_iff_not] at h
  obtain ⟨⟨⟨hstatus, hmode⟩, hconfig⟩, hcomposite⟩ := h
  simp only [handleHttpRequest, hstatus, hmode, hconfig, hcomposite, if_false, Bool.false_eq_true]

theorem handleHttpRequest_routed (h : isRoute (parsePath request) = true) :
    Found (handleHttpRequest callbacks request s x).1 := by
  unfold handleHttpRequest
  dsimp only
  split
  · exact ⟨200, _, _, by decide, rfl⟩
  rename_i hstatus
  split
  · exact handleModeRequest_found callbacks.mode _
  rename_i hmode
  split
  · exact handleCompositeConfigRequest_found callbacks.configQuery
  rename_i hconfig
  split
  · exact handleCompositeRequest_found callbacks.composite _
  rename_i hcomposite
  rw [isRoute, Bool.or_eq_true, Bool.or_eq_true, Bool.or_eq_true, decide_eq_true_iff] at h
  rcases h with ((h | h) | h) | h
  · exact absurd h hstatus
  · exact absurd h hmode
  · exact absurd h hconfig
  · exact absurd h hcomposite

end Replies

end PrivateControlServer

end TriFusion.Protocol
