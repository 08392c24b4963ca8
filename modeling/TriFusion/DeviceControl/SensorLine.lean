import TriFusion.DeviceControl.RegisterFile

namespace TriFusion.Hardware

open Foundation

variable {ω π α : Type}

def extend (f : ω → α × ω) (x : ω × π) : α × ω × π := ((f x.1).1, (f x.1).2, x.2)

namespace Tty

variable (tty : Tty ω)

def beside : Tty (ω × π) where
  write bytes := extend (tty.write bytes)
  poll timeoutMs := extend (tty.poll timeoutMs)
  read n := extend (tty.read n)

theorem beside_write (bytes : List UInt8) (w : ω) (p : π) :
    tty.beside.write bytes (w, p) = ((tty.write bytes w).1, (tty.write bytes w).2, p) := rfl

theorem beside_poll (timeoutMs : Int32) (w : ω) (p : π) :
    tty.beside.poll timeoutMs (w, p) = ((tty.poll timeoutMs w).1, (tty.poll timeoutMs w).2, p) :=
  rfl

theorem beside_read (n : ℕ) (w : ω) (p : π) :
    tty.beside.read n (w, p) = ((tty.read n w).1, (tty.read n w).2, p) := rfl

end Tty

namespace SerialPort

variable (tty : Tty ω)

theorem writeLoop_beside (bytes : List UInt8) (x : ω × π) :
    writeLoop tty.beside bytes x = extend (writeLoop tty bytes) x := by
  obtain ⟨w, p⟩ := x
  induction hn : bytes.length using Nat.strong_induction_on generalizing bytes w with
  | _ n ih =>
    by_cases hb : bytes = []
    · rw [writeLoop, extend, writeLoop, if_pos hb, if_pos hb]
    · rw [writeLoop, extend, writeLoop, if_neg hb, if_neg hb, Tty.beside_write]
      rcases tty.write bytes w with ⟨errno | k, w'⟩
      · rfl
      · have hlen : (bytes.drop k).length < bytes.length := by
          have hpos := k.pos
          have hne := List.length_pos_iff.mpr hb
          rw [List.length_drop]
          omega
        exact ih _ (hn ▸ hlen) (bytes.drop k) w' rfl

theorem writeBytes_beside (isOpen : Bool) (bytes : List UInt8) (x : ω × π) :
    writeBytes tty.beside isOpen bytes x = extend (writeBytes tty isOpen bytes) x := by
  have hloop := writeLoop_beside tty bytes x
  unfold extend at hloop ⊢
  unfold writeBytes
  split
  · rfl
  split
  · rfl
  · exact hloop

theorem readBytes_beside (isOpen : Bool) (maxBytes : ℕ) (timeoutMs : Int32) (x : ω × π) :
    readBytes tty.beside isOpen maxBytes timeoutMs x =
      extend (readBytes tty isOpen maxBytes timeoutMs) x := by
  obtain ⟨w, p⟩ := x
  unfold extend readBytes
  split
  · rfl
  split
  · rfl
  · rw [Tty.beside_poll]
    rcases tty.poll timeoutMs w with ⟨errno | ready, w'⟩
    · rfl
    · cases ready with
      | false => rfl
      | true =>
        dsimp only
        rw [Tty.beside_read]
        rcases tty.read maxBytes w' with ⟨errno | out, w''⟩ <;> rfl

end SerialPort

end TriFusion.Hardware

namespace TriFusion.DeviceControl

open Foundation Hardware CompositeSensorCommandBuilder CompositeSensorCommandParser

namespace CompositeSensorController

section Beside

variable {ω π : Type} (tty : Tty ω)

theorem readExactLoop_beside (portOpen : Bool) (timeoutMs : Int32) (missing : ℕ)
    (out : List UInt8) (x : ω × π) :
    readExactLoop tty.beside portOpen timeoutMs missing out x =
      extend (readExactLoop tty portOpen timeoutMs missing out) x := by
  obtain ⟨w, p⟩ := x
  induction missing using Nat.strong_induction_on generalizing out w with
  | _ missing ih =>
    by_cases hz : missing = 0
    · rw [extend, readExactLoop, readExactLoop, if_pos hz, if_pos hz]
    · rw [extend, readExactLoop, readExactLoop, if_neg hz, if_neg hz,
        SerialPort.readBytes_beside, extend]
      rcases SerialPort.readBytes tty portOpen missing timeoutMs w with ⟨e | chunk, w'⟩
      · rfl
      · by_cases hc : chunk = []
        · simp only [if_pos hc]
        · have hpos := List.length_pos_iff.mpr hc
          simp only [if_neg hc]
          exact ih (missing - chunk.length) (by omega) (out ++ chunk) w'

theorem sendReadOnce_beside (c : CompositeSensorController) (command : List UInt8) (x : ω × π) :
    sendReadOnce tty.beside c command x = extend (sendReadOnce tty c command) x := by
  obtain ⟨w, p⟩ := x
  rw [extend, sendReadOnce, sendReadOnce, SerialPort.writeBytes_beside, extend]
  rcases SerialPort.writeBytes tty c.portOpen command w with ⟨e | u, w'⟩
  · rfl
  · simp only [readExact, readExactLoop_beside, extend]
    rcases readExactLoop tty c.portOpen c.config.timeoutMs kReadAckBytes [] w' with ⟨e | bytes, w''⟩
      <;> rfl

theorem sendWriteOnce_beside (c : CompositeSensorController) (command : List UInt8) (x : ω × π) :
    sendWriteOnce tty.beside c command x = extend (sendWriteOnce tty c command) x := by
  obtain ⟨w, p⟩ := x
  rw [extend, sendWriteOnce, sendWriteOnce, SerialPort.writeBytes_beside, extend]
  rcases SerialPort.writeBytes tty c.portOpen command w with ⟨e | u, w'⟩
  · rfl
  · simp only [readExact, readExactLoop_beside, extend]
    rcases readExactLoop tty c.portOpen c.config.timeoutMs kWriteAckBytes [] w' with
      ⟨e | bytes, w''⟩
    · dsimp only
      split <;> rfl
    · dsimp only
      split <;> rfl

theorem retryLoop_beside {α : Type} {failure : Text} {attempt : ω → Result α × ω}
    {attempt' : ω × π → Result α × ω × π} (h : ∀ x, attempt' x = extend attempt x) (n : ℕ)
    (last : Option Status) (x : ω × π) :
    retryLoop failure attempt' n last x = extend (retryLoop failure attempt n last) x := by
  induction n generalizing last x with
  | zero => rfl
  | succ n ih =>
    rw [extend, retryLoop, retryLoop, h, extend]
    rcases attempt x.1 with ⟨e | a, w'⟩
    · exact ih (some e) (w', x.2)
    · rfl

theorem readRegister_beside (address : UInt16) (c : CompositeSensorController) (x : ω × π) :
    readRegister tty.beside address c x =
      ((readRegister tty address c x.1).1, (readRegister tty address c x.1).2.1,
        (readRegister tty address c x.1).2.2, x.2) := by
  unfold readRegister
  split
  · rfl
  split
  · rfl
  · rename_i cmd _
    rw [sendReadCommandWithRetry, retryLoop_beside (sendReadOnce_beside tty c cmd), extend,
      ← sendReadCommandWithRetry]
    rcases sendReadCommandWithRetry tty c cmd x.1 with ⟨e | ack, w⟩ <;> rfl

theorem writeRegister_beside (address value : UInt16) (c : CompositeSensorController)
    (x : ω × π) :
    writeRegister tty.beside address value c x =
      ((writeRegister tty address value c x.1).1, (writeRegister tty address value c x.1).2.1,
        (writeRegister tty address value c x.1).2.2, x.2) := by
  unfold writeRegister
  split
  · rfl
  split
  · rfl
  · rename_i cmd _
    rw [sendWriteCommandWithRetry, retryLoop_beside (sendWriteOnce_beside tty c cmd), extend,
      ← sendWriteCommandWithRetry]
    rcases sendWriteCommandWithRetry tty c cmd x.1 with ⟨e | ack, w⟩ <;> rfl

end Beside

/-- What a call of a usable controller does on a line to a sensor with these registers.
Where the sensor takes every command, `takes`, no call fails. -/
structure SensorLine {ω : Type} (tty : Tty ω) (idle : ω → Prop) (regs : ω → UInt16 → UInt16)
    (takes : Prop) : Prop where
  read : ∀ {address : UInt16} {ctl ctl' : CompositeSensorController} {w w' : ω}
    {result : Result UInt16}, ctl.Operable → idle w →
    readRegister tty address ctl w = (result, ctl', w') →
    ctl'.Operable ∧ idle w' ∧ regs w' = regs w ∧
      (address ≠ CompositeSensorRegister.infraredCorrection.address →
        ∀ v, result = .ok v → v = regs w address) ∧
      (takes → result.succeeded = true)
  write : ∀ {address value : UInt16} {ctl ctl' : CompositeSensorController} {w w' : ω}
    {result : Result Unit}, ctl.Operable → idle w →
    address ≠ CompositeSensorRegister.saveConfig.address →
    writeRegister tty address value ctl w = (result, ctl', w') →
    ctl'.Operable ∧ idle w' ∧
      regs w' =
        (if result.succeeded then RegisterCommand.store (regs w) (.write address value)
        else regs w) ∧
      (takes → result.succeeded = true)

theorem sensorLine_link {δ : Type} {dev : Device δ} {regs : δ → UInt16 → UInt16}
    (hk : dev.KeepsRegisters regs) {delays : ℕ → Delay} (hp : Link.Prompt delays) :
    SensorLine (Link.tty dev delays) Link.Idle (fun l ↦ regs l.device) dev.Executes := by
  refine ⟨?_, ?_⟩
  · intro address ctl ctl' l l' result ho hi he
    obtain ⟨ho', hs⟩ := readRegister_settles hk hp ho address hi he
    have hregs := hs.stored
    rw [RegisterCommand.store, ite_self] at hregs
    refine ⟨ho', hs.idle, hregs, fun hkept v hv ↦ ?_, hs.served⟩
    obtain ⟨d, hd, hacc, rfl⟩ := hs.shown v hv
    rw [hk.data address d hkept hacc, hd]
  · intro address value ctl ctl' l l' result ho hi hplain he
    obtain ⟨ho', hs⟩ := writeRegister_settles hk hp ho address value hplain hi he
    exact ⟨ho', hs.idle, hs.stored, hs.served⟩

theorem SensorLine.beside {ω π : Type} {tty : Tty ω} {idle : ω → Prop}
    {regs : ω → UInt16 → UInt16} {takes : Prop} (h : SensorLine tty idle regs takes) :
    SensorLine tty.beside (fun x : ω × π ↦ idle x.1) (fun x ↦ regs x.1) takes := by
  refine ⟨?_, ?_⟩
  · intro address ctl ctl' x x' result ho hi he
    rw [readRegister_beside] at he
    obtain ⟨rfl, rfl, rfl⟩ : _ ∧ _ ∧ _ := by simpa using he
    exact h.read ho hi rfl
  · intro address value ctl ctl' x x' result ho hi hplain he
    rw [writeRegister_beside] at he
    obtain ⟨rfl, rfl, rfl⟩ : _ ∧ _ ∧ _ := by simpa using he
    exact h.write ho hi hplain rfl

end CompositeSensorController

end TriFusion.DeviceControl
