import TriFusion.DeviceControl.RegisterFrames
import TriFusion.Foundation.Config
import TriFusion.Foundation.Event
import TriFusion.Hardware.SerialPort

namespace TriFusion.DeviceControl

open Foundation Hardware CompositeSensorCommandBuilder CompositeSensorCommandParser

variable {ω : Type}

structure CompositeSensorState where
  initialized : Bool := false
  serialOnline : Bool := false
  currentMode : CompositeSensorOutputMode := .unknown
  lastSwitchTimeMs : Int64 := 0
  switchCount : UInt32 := 0
  errorCount : UInt32 := 0
  lastError : Text := []
  deriving DecidableEq

/-- `portOpen` is `serial_.isOpen()`, `builderReady` that `builder_` has its
configuration, and `published` what `eventBus_` was given, if there is one. -/
structure CompositeSensorController where
  config : SerialConfig := {}
  portOpen : Bool := false
  builderReady : Bool := false
  state : CompositeSensorState := {}
  ackRequired : Bool := true
  hasEventBus : Bool := false
  published : List Event := []
  deriving DecidableEq

namespace CompositeSensorController

def isReady (c : CompositeSensorController) : Bool :=
  c.state.initialized && c.state.serialOnline && c.portOpen

def ensureReady (c : CompositeSensorController) : Result Unit :=
  if !c.isReady then .fail .notInitialized "composite sensor controller is not ready" else .ok ()

theorem portOpen_of_isReady {c : CompositeSensorController} (h : c.isReady = true) :
    c.portOpen = true := by
  simp only [isReady, Bool.and_eq_true] at h
  exact h.2

theorem ensureReady_of_isReady {c : CompositeSensorController} (h : c.isReady = true) :
    c.ensureReady = .ok () := by
  simp [ensureReady, h]

theorem ensureReady_of_not_isReady {c : CompositeSensorController} (h : c.isReady = false) :
    c.ensureReady = .fail .notInitialized "composite sensor controller is not ready" := by
  simp [ensureReady, h]

def recordError (status : Status) (c : CompositeSensorController) : CompositeSensorController :=
  { c with
    state.errorCount := c.state.errorCount + 1
    state.lastError := status.describe
    state.serialOnline := c.state.serialOnline &&
      !(status.code == .serialOpenFailed || status.code == .serialReadTimeout ||
        status.code == .serialWriteFailed || status.code == .ioError) }

def clearLastError (c : CompositeSensorController) : CompositeSensorController :=
  { c with state.lastError := [] }

def publishModeChanged (mode : CompositeSensorOutputMode) (c : CompositeSensorController) :
    CompositeSensorController :=
  if !c.hasEventBus then c
  else
    { c with
      published := c.published ++ [⟨.modeChanged, "CompositeSensorOutputModeChanged",
        [("component", "CompositeSensorController"), ("composite_output_mode", mode.toText)]⟩] }

section Attempts

variable (tty : Tty ω)

/-- The loop of `readExact`: `out` is what has arrived, `missing` what is still asked for. -/
def readExactLoop (portOpen : Bool) (timeoutMs : Int32) (missing : ℕ) (out : List UInt8) (w : ω) :
    Result (List UInt8) × ω :=
  if missing = 0 then (.ok out, w)
  else
    match SerialPort.readBytes tty portOpen missing timeoutMs w with
    | (.error e, w) => (.rethrow e, w)
    | (.ok chunk, w) =>
      if chunk = [] then (.fail .serialReadTimeout "serial read returned empty data", w)
      else readExactLoop portOpen timeoutMs (missing - chunk.length) (out ++ chunk) w
termination_by missing
decreasing_by
  have hc : chunk.length ≠ 0 := by simpa using ‹¬ chunk = []›
  omega

def readExact (portOpen : Bool) (expectedBytes : ℕ) (timeoutMs : Int32) (w : ω) :
    Result (List UInt8) × ω :=
  readExactLoop tty portOpen timeoutMs expectedBytes [] w

def sendWriteOnce (c : CompositeSensorController) (command : List UInt8) (w : ω) :
    Result Unit × ω :=
  match SerialPort.writeBytes tty c.portOpen command w with
  | (.error e, w) => (.error e, w)
  | (.ok (), w) =>
    match readExact tty c.portOpen kWriteAckBytes c.config.timeoutMs w with
    | (.error e, w) =>
      if !c.ackRequired && e.code == .serialReadTimeout then (.ok (), w) else (.rethrow e, w)
    | (.ok bytes, w) =>
      match parseWriteRegisterAck bytes with
      | .error e => (.rethrow e, w)
      | .ok _ => (.ok (), w)

def sendReadOnce (c : CompositeSensorController) (command : List UInt8) (w : ω) :
    Result CompositeSensorAck × ω :=
  match SerialPort.writeBytes tty c.portOpen command w with
  | (.error e, w) => (.rethrow e, w)
  | (.ok (), w) =>
    match readExact tty c.portOpen kReadAckBytes c.config.timeoutMs w with
    | (.error e, w) => (.rethrow e, w)
    | (.ok bytes, w) => (parseReadRegisterAck bytes, w)

end Attempts

/-- The loop both retrying functions run: up to `attempts` calls, until one succeeds.
`last` is the failure of the attempt before. -/
def retryLoop {α : Type} (failure : Text) (attempt : ω → Result α × ω) :
    ℕ → Option Status → ω → Result α × ω
  | 0, last, w =>
    (.fail .compositeModeSwitchFailed
      (failure ++ (last.elim (errorMessage .ok) Status.describe)), w)
  | attempts + 1, _, w =>
    match attempt w with
    | (.ok a, w) => (.ok a, w)
    | (.error e, w) => retryLoop failure attempt attempts (some e) w

theorem retryLoop_counted {α : Type} {failure : Text} {attempt : ω → Result α × ω}
    {I : ℕ → ω → Prop} {Q : ℕ → α → ω → Prop}
    (hok : ∀ k w a w', I k w → attempt w = (.ok a, w') → Q k a w')
    (herr : ∀ k w e w', I k w → attempt w = (.error e, w') → I (k + 1) w')
    (n : ℕ) (last : Option Status) {k : ℕ} {w w' : ω} {result : Result α} (hw : I k w)
    (he : retryLoop failure attempt n last w = (result, w')) :
    (∃ t a, t < n ∧ result = .ok a ∧ Q (k + t) a w') ∨
      ∃ e, result = .error e ∧ e.code = .compositeModeSwitchFailed ∧ I (k + n) w' := by
  induction n generalizing last k w with
  | zero =>
    obtain ⟨rfl, rfl⟩ := Prod.mk.inj he
    exact .inr ⟨_, rfl, rfl, hw⟩
  | succ n ih =>
    cases hx : attempt w with
    | mk first w₁ =>
      simp only [retryLoop, hx] at he
      cases first with
      | ok a =>
        obtain ⟨rfl, rfl⟩ := Prod.mk.inj he
        exact .inl ⟨0, a, n.succ_pos, rfl, hok k w a w₁ hw hx⟩
      | error e =>
        rcases ih (some e) (herr k w e w₁ hw hx) he with ⟨t, a, ht, hr, hq⟩ | ⟨e', hr, hc, hi⟩
        · exact .inl ⟨t + 1, a, by omega, hr, by rwa [Nat.add_right_comm] at hq⟩
        · exact .inr ⟨e', hr, hc, by rwa [Nat.add_right_comm] at hi⟩

theorem retryLoop_spec {α : Type} {failure : Text} {attempt : ω → Result α × ω} {I : ω → Prop}
    {Q : α → ω → Prop}
    (hattempt : ∀ w result w', I w → attempt w = (result, w') →
      I w' ∧ ∀ a, result = .ok a → Q a w')
    (n : ℕ) (last : Option Status) {w w' : ω} {result : Result α} (hw : I w)
    (he : retryLoop failure attempt n last w = (result, w')) :
    I w' ∧ ∀ a, result = .ok a → Q a w' := by
  have hok (k : ℕ) (w : ω) (a : α) (w' : ω) (hi : I w) (hx : attempt w = (.ok a, w')) :
      I w' ∧ Q a w' := by
    obtain ⟨hi', hq⟩ := hattempt w _ w' hi hx
    exact ⟨hi', hq a rfl⟩
  have herr (k : ℕ) (w : ω) (e : Status) (w' : ω) (hi : I w) (hx : attempt w = (.error e, w')) :
      I w' := (hattempt w _ w' hi hx).1
  rcases retryLoop_counted (I := fun _ ↦ I) hok herr n last (k := 0) hw he with
    ⟨t, a, -, rfl, hi, hq⟩ | ⟨e, rfl, -, hi⟩
  · refine ⟨hi, fun b hb ↦ ?_⟩
    obtain rfl := Except.ok.inj hb
    exact hq
  · exact ⟨hi, fun a ha ↦ (nomatch ha)⟩

/-- `std::max(1, config_.retryCount + 1)`, in the arithmetic of `int`. -/
def attempts (c : CompositeSensorController) : Int32 := max 1 (c.config.retryCount + 1)

theorem attempts_pos (c : CompositeSensorController) : 0 < c.attempts.toNatClampNeg := by
  have hle : (1 : Int32) ≤ c.attempts := by
    change 1 ≤ if 1 ≤ c.config.retryCount + 1 then c.config.retryCount + 1 else 1
    split_ifs with h
    · exact h
    · exact Int32.le_refl 1
  exact Int32.toNatClampNeg_le hle

variable (tty : Tty ω)

def sendWriteCommandWithRetry (c : CompositeSensorController) (command : List UInt8) (w : ω) :
    Result Unit × ω :=
  retryLoop "composite sensor write command failed after retries: " (sendWriteOnce tty c command)
    c.attempts.toNatClampNeg none w

def sendReadCommandWithRetry (c : CompositeSensorController) (command : List UInt8) (w : ω) :
    Result CompositeSensorAck × ω :=
  retryLoop "composite sensor read command failed after retries: " (sendReadOnce tty c command)
    c.attempts.toNatClampNeg none w

def readRegister (address : UInt16) (c : CompositeSensorController) (w : ω) :
    Result UInt16 × CompositeSensorController × ω :=
  match c.ensureReady with
  | .error e => (.rethrow e, c, w)
  | .ok () =>
    match buildReadRegister c.builderReady address with
    | .error e => (.rethrow e, c.recordError e, w)
    | .ok cmd =>
      match sendReadCommandWithRetry tty c cmd w with
      | (.error e, w) => (.rethrow e, c.recordError e, w)
      | (.ok ack, w) => (.ok ack.data, c.clearLastError, w)

def writeRegister (address value : UInt16) (c : CompositeSensorController) (w : ω) :
    Result Unit × CompositeSensorController × ω :=
  match c.ensureReady with
  | .error e => (.error e, c, w)
  | .ok () =>
    match buildWriteRegister c.builderReady address value with
    | .error e => (.rethrow e, c.recordError e, w)
    | .ok cmd =>
      match sendWriteCommandWithRetry tty c cmd w with
      | (.error e, w) => (.error e, c.recordError e, w)
      | (.ok (), w) => (.ok (), c.clearLastError, w)

def setFusionMode (nowMs : ω → Int64 × ω) (mode : CompositeSensorOutputMode)
    (c : CompositeSensorController) (w : ω) : Result Unit × CompositeSensorController × ω :=
  if mode = .unknown then
    (.fail .invalidArgument "invalid composite sensor output mode", c, w)
  else
    match writeRegister tty CompositeSensorRegister.fusionMode.address mode.registerValue c w with
    | (.error e, c, w) => (.error e, c, w)
    | (.ok (), c, w) =>
      let (now, w) := nowMs w
      let c := { c with
        state.currentMode := mode
        state.lastSwitchTimeMs := now
        state.switchCount := c.state.switchCount + 1
        state.lastError := [] }
      (.ok (), c.publishModeChanged mode, w)

def setOutputMode (nowMs : ω → Int64 × ω) (mode : CompositeSensorOutputMode)
    (c : CompositeSensorController) (w : ω) : Result Unit × CompositeSensorController × ω :=
  setFusionMode tty nowMs mode c w

def waitStable (timeoutMs : Int32) (c : CompositeSensorController) : Result Unit :=
  if timeoutMs < 0 then .fail .invalidArgument "timeoutMs must be >= 0"
  else c.ensureReady

section Recorded

variable {tty : Tty ω} {c : CompositeSensorController} {w : ω}

variable (tty c w) in
theorem writeRegister_currentMode (address value : UInt16) :
    (c.writeRegister tty address value w).2.1.state.currentMode = c.state.currentMode := by
  unfold writeRegister
  split
  · rfl
  · split
    · rfl
    · split <;> rfl

theorem setOutputMode_currentMode (nowMs : ω → Int64 × ω) (mode : CompositeSensorOutputMode) :
    (c.setOutputMode tty nowMs mode w).2.1.state.currentMode =
      if (c.setOutputMode tty nowMs mode w).1.succeeded then mode else c.state.currentMode := by
  unfold setOutputMode setFusionMode
  split
  · rfl
  · have hw := c.writeRegister_currentMode tty w
      CompositeSensorRegister.fusionMode.address mode.registerValue
    split
    · rename_i hx
      rw [hx] at hw
      exact hw
    · dsimp only [publishModeChanged]
      split <;> rfl

end Recorded

end CompositeSensorController

end TriFusion.DeviceControl
