import TriFusion.Foundation.Result

namespace TriFusion.Algorithm

open Foundation

variable {ω : Type}

inductive FusionMode
  | unknown
  | visibleLowlight
  | visibleThermal
  | visibleComposite
  deriving DecidableEq, Repr

def FusionMode.toText : FusionMode → Text
  | .visibleLowlight => "VISIBLE_LOWLIGHT_FUSION"
  | .visibleThermal => "VISIBLE_THERMAL_FUSION"
  | .visibleComposite => "VISIBLE_COMPOSITE_FUSION"
  | .unknown => "UNKNOWN"

/-- `algorithms` lists the modes that have an algorithm registered. -/
structure FusionEngine where
  currentMode : FusionMode := .unknown
  errors : UInt64 := 0
  lastError : Text := []
  initialized : Bool := false
  algorithms : List FusionMode := []
  deriving DecidableEq

namespace FusionEngine

def init (f : FusionEngine) : Result Unit × FusionEngine :=
  if f.initialized then (.fail .alreadyInitialized "fusion engine already initialized", f)
  else (.ok (), { f with initialized := true, errors := 0, lastError := [] })

def recordError (status : Status) (f : FusionEngine) : FusionEngine :=
  { f with errors := f.errors + 1, lastError := status.describe }

/-- `algorithmInit` is the `init` of the algorithm of a mode. -/
def registerAlgorithm (algorithmInit : FusionMode → ω → Result Unit × ω) (mode : FusionMode)
    (f : FusionEngine) (w : ω) : Result Unit × FusionEngine × ω :=
  if !f.initialized then (.fail .notInitialized "fusion engine is not initialized", f, w)
  else if mode = .unknown then
    (.fail .invalidArgument "cannot register unknown fusion algorithm", f, w)
  else
    match algorithmInit mode w with
    | (.error e, w) => (.error e, f.recordError e, w)
    | (.ok (), w) =>
      (.ok (),
        { f with
          algorithms := if mode ∈ f.algorithms then f.algorithms else f.algorithms ++ [mode]
          currentMode := if f.currentMode = .unknown then mode else f.currentMode }, w)

def registerEach (algorithmInit : FusionMode → ω → Result Unit × ω) :
    List FusionMode → FusionEngine → ω → Result Unit × FusionEngine × ω
  | [], f, w => (.ok (), f, w)
  | mode :: rest, f, w =>
    match f.registerAlgorithm algorithmInit mode w with
    | (.error e, f, w) => (.error e, f, w)
    | (.ok (), f, w) => registerEach algorithmInit rest f w

def registerDefaultAlgorithms (algorithmInit : FusionMode → ω → Result Unit × ω)
    (f : FusionEngine) (w : ω) : Result Unit × FusionEngine × ω :=
  registerEach algorithmInit [.visibleLowlight, .visibleThermal, .visibleComposite] f w

def setMode (mode : FusionMode) (f : FusionEngine) : Result Unit × FusionEngine :=
  if !f.initialized then (.fail .notInitialized "fusion engine is not initialized", f)
  else if mode = .unknown then (.fail .invalidArgument "unknown fusion mode", f)
  else if mode ∉ f.algorithms then
    (.fail .unsupported ("fusion algorithm not registered: ".toList ++ mode.toText), f)
  else (.ok (), { f with currentMode := mode })

end FusionEngine

end TriFusion.Algorithm
