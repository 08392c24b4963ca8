import TriFusion.DeviceControl.Controller
import TriFusion.DeviceControl.SerialLink

namespace TriFusion.DeviceControl

open Foundation Hardware CompositeSensorCommandBuilder

namespace CompositeSensorController

variable {ω α : Type}

def outcomes (attempt : ω → Result α × ω) : ℕ → ω → List (Result Unit)
  | 0, _ => []
  | attempts + 1, w =>
    match attempt w with
    | (.ok _, _) => [.ok ()]
    | (.error e, w) => .error e :: outcomes attempt attempts w

def attemptOutcomes (tty : Tty ω) (c : CompositeSensorController) (command : RegisterCommand)
    (w : ω) : List (Result Unit) :=
  match command with
  | .read address =>
    match buildReadRegister c.builderReady address with
    | .error _ => []
    | .ok cmd => outcomes (sendReadOnce tty c cmd) c.attempts.toNatClampNeg w
  | .write address value =>
    match buildWriteRegister c.builderReady address value with
    | .error _ => []
    | .ok cmd => outcomes (sendWriteOnce tty c cmd) c.attempts.toNatClampNeg w

def statusCall (tty : Tty ω) (c : CompositeSensorController) (command : RegisterCommand) (w : ω) :
    Bool × CompositeSensorController :=
  match command with
  | .read address =>
    let (ret, c, _) := c.readRegister tty address w
    (ret.succeeded, c)
  | .write address value =>
    let (ret, c, _) := c.writeRegister tty address value w
    (ret.succeeded, c)

/-- Attempts were made, and each failed on the line itself. -/
def LineDown (attempts : List (Result Unit)) : Prop :=
  attempts ≠ [] ∧ ∀ outcome ∈ attempts, ∃ e, outcome = .error e ∧
    (e.code = .serialReadTimeout ∨ e.code = .serialWriteFailed ∨ e.code = .ioError)

/-- What the state says of the link after a call with these attempts. -/
structure Truthful (attempts : List (Result Unit)) (succeeded : Bool)
    (before after : CompositeSensorState) : Prop where
  down : LineDown attempts → after.serialOnline = false
  rejected : (∃ e, attempts.getLast? = some (.error e) ∧ e.code = .serialAckInvalid) →
    after.serialOnline = before.serialOnline
  cleared : succeeded = true → after.lastError = []

variable {failure : Text} {attempt : ω → Result α × ω} {tty : Tty ω}
  {c : CompositeSensorController} {command : RegisterCommand} {w : ω}

theorem retryLoop_code {n : ℕ} {last : Option Status} {e : Status} {w' : ω}
    (h : retryLoop failure attempt n last w = (.error e, w')) :
    e.code = .compositeModeSwitchFailed := by
  have hspec := retryLoop_counted (I := fun _ _ ↦ True) (Q := fun _ _ _ ↦ True)
    (fun _ _ _ _ _ _ ↦ trivial) (fun _ _ _ _ _ _ ↦ trivial) n last (k := 0) trivial h
  rcases hspec with ⟨t, a, -, ha, -⟩ | ⟨e', he, hc, -⟩
  · cases ha
  · rw [Except.error.inj he]
    exact hc

theorem buildReadRegister_code {configured : Bool} {address : UInt16} {e : Status}
    (h : buildReadRegister configured address = .error e) : e.code = .notInitialized := by
  cases configured with
  | false =>
    obtain rfl := Except.error.inj h
    rfl
  | true =>
    rw [buildReadRegister_ok] at h
    cases h

theorem buildWriteRegister_code {configured : Bool} {address value : UInt16} {e : Status}
    (h : buildWriteRegister configured address value = .error e) : e.code = .notInitialized := by
  cases configured with
  | false =>
    obtain rfl := Except.error.inj h
    rfl
  | true =>
    rw [buildWriteRegister_ok] at h
    cases h

theorem recordError_online {e : Status} (h : e.code = .compositeModeSwitchFailed ∨
    e.code = .notInitialized) : (c.recordError e).state.serialOnline = c.state.serialOnline := by
  rcases h with h | h <;> simp [recordError, h]

theorem statusCall_cases (tty : Tty ω) (command : RegisterCommand) (w : ω) (h : c.isReady = true) :
    c.statusCall tty command w = (true, c.clearLastError) ∨
      ∃ e : Status, (e.code = .compositeModeSwitchFailed ∨ e.code = .notInitialized) ∧
        c.statusCall tty command w = (false, c.recordError e) := by
  have hr := ensureReady_of_isReady h
  cases command with
  | read address =>
    simp only [statusCall, readRegister, hr]
    cases hb : buildReadRegister c.builderReady address with
    | error e =>
      exact .inr ⟨e, .inr (buildReadRegister_code hb), rfl⟩
    | ok cmd =>
      rcases hs : sendReadCommandWithRetry tty c cmd w with ⟨e | ack, w'⟩
      · simp only [hs]
        exact .inr ⟨e, .inl (retryLoop_code hs), rfl⟩
      · simp only [hs]
        exact .inl rfl
  | write address value =>
    simp only [statusCall, writeRegister, hr]
    cases hb : buildWriteRegister c.builderReady address value with
    | error e =>
      exact .inr ⟨e, .inr (buildWriteRegister_code hb), rfl⟩
    | ok cmd =>
      rcases hs : sendWriteCommandWithRetry tty c cmd w with ⟨e | u, w'⟩
      · simp only [hs]
        exact .inr ⟨e, .inl (retryLoop_code hs), rfl⟩
      · simp only [hs]
        exact .inl rfl

theorem statusCall_online (tty : Tty ω) (command : RegisterCommand) (w : ω) (h : c.isReady = true) :
    (c.statusCall tty command w).2.state.serialOnline = c.state.serialOnline := by
  rcases statusCall_cases tty command w h with hc | ⟨e, hcode, hc⟩
  · rw [hc]
    rfl
  · rw [hc]
    exact recordError_online hcode

/-- The state after a call tells the truth about the link, unless every attempt
failed on the line. -/
theorem link_status_truthful_iff (tty : Tty ω) (c : CompositeSensorController)
    (command : RegisterCommand) (w : ω) (h : c.isReady = true) :
    Truthful (c.attemptOutcomes tty command w) (c.statusCall tty command w).1 c.state
        (c.statusCall tty command w).2.state ↔
      ¬LineDown (c.attemptOutcomes tty command w) := by
  have honline := statusCall_online tty command w h
  constructor
  · intro ht hd
    have hoff := ht.down hd
    rw [honline] at hoff
    rw [isReady, hoff, Bool.and_false, Bool.false_and] at h
    cases h
  · intro hd
    refine ⟨fun hdown ↦ absurd hdown hd, fun _ ↦ honline, fun hok ↦ ?_⟩
    rcases statusCall_cases tty command w h with hc | ⟨e, -, hc⟩
    · rw [hc]
      rfl
    · rw [hc] at hok
      cases hok

section Unplugged

def unplugged : Tty Unit where
  write _ w := (.error "Input/output error", w)
  poll _ w := (.error "Input/output error", w)
  read _ w := (.error "Input/output error", w)

def online : CompositeSensorController where
  portOpen := true
  builderReady := true
  state := { initialized := true, serialOnline := true }

theorem link_status_truthful_iff_online :
    Truthful (online.attemptOutcomes unplugged (.read 0x6500) ())
        (online.statusCall unplugged (.read 0x6500) ()).1 online.state
        (online.statusCall unplugged (.read 0x6500) ()).2.state ↔
      ¬LineDown (online.attemptOutcomes unplugged (.read 0x6500) ()) :=
  link_status_truthful_iff unplugged online (.read 0x6500) () rfl

theorem outcomes_of_fails {e : Status} (h : ∀ w, ∃ w', attempt w = (.error e, w')) (n : ℕ) (w : ω) :
    outcomes attempt n w = List.replicate n (.error e) := by
  induction n generalizing w with
  | zero => rfl
  | succ n ih =>
    obtain ⟨w', hw⟩ := h w
    rw [outcomes, hw, List.replicate_succ]
    exact congrArg _ (ih w')

/-- Every attempt fails to write, and the link still counts as online. -/
theorem unplugged_still_online :
    ¬Truthful (online.attemptOutcomes unplugged (.read 0x6500) ())
      (online.statusCall unplugged (.read 0x6500) ()).1 online.state
      (online.statusCall unplugged (.read 0x6500) ()).2.state := by
  intro ht
  have hattempt : ∀ w, ∃ w', sendReadOnce unplugged online
      (RegisterCommand.frame (.read 0x6500)) w =
        (.error ⟨.serialWriteFailed, "serial write: Input/output error"⟩, w') := by
    intro w
    refine ⟨w, ?_⟩
    rw [sendReadOnce, SerialPort.writeBytes, if_neg (by decide), if_neg (by decide),
      SerialPort.writeLoop, if_neg (by decide)]
    rfl
  have hdown : LineDown (online.attemptOutcomes unplugged (.read 0x6500) ()) := by
    have hb : buildReadRegister online.builderReady 0x6500 =
        .ok (RegisterCommand.frame (.read 0x6500)) := buildReadRegister_ok 0x6500
    have hn : online.attempts.toNatClampNeg = 4 := by decide
    simp only [attemptOutcomes, hb]
    rw [outcomes_of_fails hattempt, hn]
    refine ⟨List.cons_ne_nil _ _, fun outcome ho ↦ ?_⟩
    exact ⟨_, List.eq_of_mem_replicate ho, .inr (.inl rfl)⟩
  have hoff := ht.down hdown
  rw [statusCall_online unplugged (.read 0x6500) () rfl] at hoff
  cases hoff

end Unplugged

end CompositeSensorController

end TriFusion.DeviceControl
