import TriFusion.Protocol.PrivateControlServer

namespace TriFusion.Protocol

open Foundation

inductive PrivateCompositeControlKind
  | unknown
  | fusionColor
  | contourMode
  | infraredPolarity
  deriving DecidableEq, Repr

structure PrivateCompositeControlRequest where
  kind : PrivateCompositeControlKind := .unknown
  name : Text := []
  valueName : Text := []
  value : UInt16 := 0
  deriving DecidableEq

namespace PrivateControlServer

/-- The `normalize` of this file: separators are dropped and letters lowered. -/
def normalizeLower (s : Text) : Text :=
  lower (s.filter fun c ↦ !(isSpace c || c == '_' || c == '-' || c == '.'))

def splitTwo (path : Text) : Option (Text × Text) :=
  let a := path.takeWhile (· ≠ '/')
  let b := path.drop (a.length + 1)
  if '/' ∉ path ∨ a = [] ∨ b = [] then none
  else if '/' ∈ b then none
  else some (a, b)

abbrev NamedValue := UInt16 × Text

def parseFusionColor (text : Text) : Option NamedValue :=
  let s := normalizeLower text
  if s ∈ ["1".toList, "blackwhite".toList, "bw".toList, "mono".toList, "monochrome".toList] then
    some (1, "black_white")
  else if s ∈ ["2".toList, "forest".toList] then some (2, "forest")
  else if s ∈ ["3".toList, "snow".toList] then some (3, "snow")
  else if s ∈ ["4".toList, "ocean".toList, "sea".toList] then some (4, "ocean")
  else if s ∈ ["5".toList, "city".toList, "urban".toList] then some (5, "city")
  else if s ∈ ["6".toList, "desert".toList] then some (6, "desert")
  else if s ∈ ["7".toList, "default".toList, "normal".toList] then some (7, "default")
  else none

def parseContourMode (text : Text) : Option NamedValue :=
  let s := normalizeLower text
  if s ∈ ["0".toList, "off".toList, "close".toList, "none".toList, "disable".toList,
      "disabled".toList] then some (0, "off")
  else if s ∈ ["1".toList, "red".toList] then some (1, "red")
  else if s ∈ ["2".toList, "green".toList] then some (2, "green")
  else if s ∈ ["3".toList, "blue".toList] then some (3, "blue")
  else if s ∈ ["4".toList, "purple".toList, "violet".toList] then some (4, "purple")
  else none

def parseInfraredPolarity (text : Text) : Option NamedValue :=
  let s := normalizeLower text
  if s ∈ ["0".toList, "whitehot".toList, "white".toList] then some (0, "white_hot")
  else if s ∈ ["1".toList, "blackhot".toList, "black".toList] then some (1, "black_hot")
  else none

def parseCompositeControlPath (subPath : Text) : Option PrivateCompositeControlRequest :=
  match splitTwo subPath with
  | none => none
  | some (name, valueText) =>
    let key := normalizeLower name
    if key ∈ ["fusioncolor".toList, "color".toList] then
      (parseFusionColor valueText).map fun (value, canonical) ↦
        ⟨.fusionColor, "fusion_color", canonical, value⟩
    else if key ∈ ["contour".toList, "contourmode".toList, "outline".toList,
        "outlinemode".toList] then
      (parseContourMode valueText).map fun (value, canonical) ↦
        ⟨.contourMode, "contour", canonical, value⟩
    else if key ∈ ["infraredpolarity".toList, "irpolarity".toList, "polarity".toList] then
      (parseInfraredPolarity valueText).map fun (value, canonical) ↦
        ⟨.infraredPolarity, "infrared_polarity", canonical, value⟩
    else none

def parseMethod (request : Text) : Text :=
  if ' ' ∈ request then request.takeWhile (· ≠ ' ') else []

def parsePath (request : Text) : Text :=
  let rest := request.drop ((request.takeWhile (· ≠ ' ')).length + 1)
  if ' ' ∈ request ∧ ' ' ∈ rest then rest.takeWhile (· ≠ ' ') else []

inductive ControlCallback
  | mode (targetMode : PrivateWorkMode)
  | composite (request : PrivateCompositeControlRequest)
  | configQuery
  deriving DecidableEq

def passesMethod (method : Text) : Bool := method = "POST".toList || method = "GET".toList

/-- The call that `handleModeRequest` makes, if it does not answer by itself. -/
def modeCallbackOf (method modeName : Text) : Option ControlCallback :=
  if passesMethod method then (PrivateWorkMode.fromCommandName modeName).map .mode else none

def compositeCallbackOf (method subPath : Text) : Option ControlCallback :=
  if passesMethod method then (parseCompositeControlPath subPath).map .composite else none

def configCallbackOf (method : Text) : Option ControlCallback :=
  if passesMethod method then some .configQuery else none

def modePrefix : Text := "/api/v1/mode/"

def compositePrefix : Text := "/api/v1/composite/"

/-- The call that `handleHttpRequest` makes, with every callback installed. -/
def callbackOf (request : Text) : Option ControlCallback :=
  let method := parseMethod request
  let path := parsePath request
  if path = "/api/v1/status".toList then none
  else if Str.startsWith path modePrefix then
    modeCallbackOf method (path.drop modePrefix.length)
  else if path = "/api/v1/composite/config".toList ∨
      path = "/api/v1/composite/configuration".toList then configCallbackOf method
  else if Str.startsWith path compositePrefix then
    compositeCallbackOf method (path.drop compositePrefix.length)
  else none

theorem passesMethod_iff {method : Text} :
    passesMethod method = true ↔ method = "POST".toList ∨ method = "GET".toList := by
  rw [passesMethod, Bool.or_eq_true, decide_eq_true_iff, decide_eq_true_iff]

end PrivateControlServer

end TriFusion.Protocol
