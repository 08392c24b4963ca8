import TriFusion.DeviceControl.CallAttempts
import TriFusion.DeviceControl.Correlation

namespace TriFusion.DeviceControl

open Foundation Library.Runs CompositeSensorCommandBuilder CompositeSensorCommandParser

namespace CompositeSensorController

open Link

variable {δ : Type} (dev : Device δ) (delays : ℕ → Delay) {l l' : Link δ}

def Operable (ctl : CompositeSensorController) : Prop :=
  ctl.isReady = true ∧ ctl.builderReady = true

theorem recordError_operable {ctl : CompositeSensorController} (h : ctl.Operable) {e : Status}
    (he : e.code = .compositeModeSwitchFailed) : (ctl.recordError e).Operable := by
  obtain ⟨hready, hb⟩ := h
  refine ⟨?_, hb⟩
  simpa [isReady, recordError, he] using hready

theorem sendReadOnce_prompt {delays : ℕ → Delay} (hd : dev.Executes) (hp : Prompt delays)
    {ctl : CompositeSensorController} (ho : ctl.Operable) (address : UInt16)
    (hq : l.toDevice = []) {result : Result CompositeSensorAck}
    (he : sendReadOnce (tty dev delays) ctl (RegisterCommand.read address).frame l =
      (result, l')) :
    Attempted (fun ack bytes ↦ bytes = (RegisterCommand.read address).ack ⟨true, ack.data⟩)
      (.read address) l l' result := by
  have hopen := portOpen_of_isReady ho.1
  obtain ⟨r, l₁, hacc, hr, hx⟩ := readExact_prompt dev hd hp ctl.config.timeoutMs (.read address) hq
  change readExact (tty dev delays) true kReadAckBytes _ _ = _ at hr
  simp only [sendReadOnce, hopen, writeBytes_tty, hr] at he
  obtain ⟨rfl, rfl⟩ := Prod.mk.inj he
  cases hparse : parseReadRegisterAck ((l.unread ++ (RegisterCommand.read address).ack r).take
      (RegisterCommand.read address).ackFormat.width) with
  | ok ack =>
    obtain ⟨data, hbytes, rfl⟩ := parseReadRegisterAck_ok_iff.mp hparse
    exact .taken _ _ hacc hx hbytes
  | error e =>
    refine .refused _ e hacc hx ?_
    rintro ⟨data, hbytes⟩
    rw [parseReadRegisterAck_ok_iff.mpr ⟨data, hbytes, rfl⟩] at hparse
    cases hparse

theorem sendWriteOnce_prompt {delays : ℕ → Delay} (hd : dev.Executes) (hp : Prompt delays)
    {ctl : CompositeSensorController} (ho : ctl.Operable) (address value : UInt16)
    (hq : l.toDevice = []) {result : Result Unit}
    (he : sendWriteOnce (tty dev delays) ctl (RegisterCommand.write address value).frame l =
      (result, l')) :
    Attempted (fun _ bytes ↦ (RegisterCommand.write address value).Accepts bytes)
      (.write address value) l l' result := by
  have hopen := portOpen_of_isReady ho.1
  obtain ⟨r, l₁, hacc, hr, hx⟩ :=
    readExact_prompt dev hd hp ctl.config.timeoutMs (.write address value) hq
  change readExact (tty dev delays) true kWriteAckBytes _ _ = _ at hr
  simp only [sendWriteOnce, hopen, writeBytes_tty, hr] at he
  cases hparse : parseWriteRegisterAck ((l.unread ++ (RegisterCommand.write address value).ack
      r).take (RegisterCommand.write address value).ackFormat.width) with
  | ok ack =>
    simp only [hparse] at he
    obtain ⟨rfl, rfl⟩ := Prod.mk.inj he
    exact .taken _ () hacc hx ⟨0, (parseWriteRegisterAck_ok_iff.mp hparse).1⟩
  | error e =>
    simp only [hparse] at he
    obtain ⟨rfl, rfl⟩ := Prod.mk.inj he
    refine .refused _ _ hacc hx ?_
    rintro ⟨data, hbytes⟩
    rw [parseWriteRegisterAck_ok_iff.mpr ⟨hbytes, rfl⟩] at hparse
    cases hparse

def Returns (s : CompositeSensorController × Link δ) (c : RegisterCommand) : Prop :=
  match c with
  | .read address => ∃ v, (readRegister (tty dev delays) address s.1 s.2).1 = .ok v ∧
      LastRead s.2 (call dev delays s c).2 c ⟨true, v⟩
  | .write address value => (writeRegister (tty dev delays) address value s.1 s.2).1 = .ok () ∧
      ∃ data, LastRead s.2 (call dev delays s c).2 c ⟨true, data⟩

structure CallSpec (s : CompositeSensorController × Link δ) (c : RegisterCommand) : Prop where
  operable : (call dev delays s c).1.Operable
  behind : ∃ replies r, r.accepted = true ∧
    Exchanged c s.2 (replies ++ [r]) (call dev delays s c).2
  returns : Returns dev delays s c ↔ c.Absorbs s.1.attempts.toNatClampNeg s.2.unread

theorem readRegister_operable {ctl : CompositeSensorController} (ho : ctl.Operable)
    {address : UInt16} {sent : Result CompositeSensorAck}
    (hx : sendReadCommandWithRetry (tty dev delays) ctl (RegisterCommand.read address).frame l =
      (sent, l')) :
    readRegister (tty dev delays) address ctl l =
      match sent with
      | .error e => (.rethrow e, ctl.recordError e, l')
      | .ok ack => (.ok ack.data, ctl.clearLastError, l') := by
  have hready := ensureReady_of_isReady ho.1
  simp only [readRegister, hready, ho.2, RegisterCommand.buildReadRegister_frame, hx]
  cases sent <;> rfl

theorem writeRegister_operable {ctl : CompositeSensorController} (ho : ctl.Operable)
    {address value : UInt16} {sent : Result Unit}
    (hx : sendWriteCommandWithRetry (tty dev delays) ctl
      (RegisterCommand.write address value).frame l = (sent, l')) :
    writeRegister (tty dev delays) address value ctl l =
      match sent with
      | .error e => (.error e, ctl.recordError e, l')
      | .ok () => (.ok (), ctl.clearLastError, l') := by
  have hready := ensureReady_of_isReady ho.1
  simp only [writeRegister, hready, ho.2, RegisterCommand.buildWriteRegister_frame, hx]
  cases sent <;> rfl

theorem callSpec_of_called {α : Type} {shows : α → List UInt8 → Prop}
    {s : CompositeSensorController × Link δ} {c : RegisterCommand} {sent : Result α}
    {ctl' : CompositeSensorController} (hs : ∀ a bytes, shows a bytes → c.Accepts bytes)
    (hcalled : Called shows s.1.attempts.toNatClampNeg c s.2 l' sent)
    (hcall : call dev delays s c = (ctl', l')) (ho : ctl'.Operable)
    (hreturns : Returns dev delays s c ↔
      ∃ a, sent = .ok a ∧ ∃ r, shows a (c.ack r) ∧ LastRead s.2 l' c r) :
    CallSpec dev delays s c := by
  have hbehind := hcalled.behind s.1.attempts_pos
  refine ⟨?_, ?_, hreturns.trans (called_iff hs hcalled)⟩
  · rw [hcall]
    exact ho
  · rwa [hcall]

theorem readRegister_spec {delays : ℕ → Delay} (hd : dev.Executes) (hp : Prompt delays)
    {ctl : CompositeSensorController} (ho : ctl.Operable) (hq : l.toDevice = [])
    (address : UInt16) : CallSpec dev delays (ctl, l) (.read address) := by
  cases hx : sendReadCommandWithRetry (tty dev delays) ctl
      (RegisterCommand.read address).frame l with
  | mk sent l' =>
    have hreg := readRegister_operable dev delays ho hx
    obtain ⟨hcalled, hcode⟩ := retryLoop_called
      (fun _ _ _ hq' he ↦ sendReadOnce_prompt dev hd hp ho address hq' he) _ hq hx
    cases sent with
    | error e =>
      apply callSpec_of_called dev delays (s := (ctl, l)) (fun _ _ h ↦ ⟨_, h⟩) hcalled
      · rw [call, hreg]
      · exact recordError_operable ho (hcode e rfl)
      · rw [Returns, call, hreg]
        exact iff_of_false (by rintro ⟨_, ⟨⟩, _⟩) (by rintro ⟨_, ⟨⟩, _⟩)
    | ok ack =>
      apply callSpec_of_called dev delays (s := (ctl, l)) (fun _ _ h ↦ ⟨_, h⟩) hcalled
      · rw [call, hreg]
      · exact ho
      · rw [Returns, call, hreg]
        constructor
        · rintro ⟨v, hv, hlast⟩
          obtain rfl := Except.ok.inj hv
          exact ⟨ack, rfl, _, rfl, hlast⟩
        · rintro ⟨a, ha, r, hr, hlast⟩
          obtain rfl := Except.ok.inj ha
          obtain rfl := RegisterCommand.read_ack_inj hr
          exact ⟨ack.data, rfl, hlast⟩

theorem writeRegister_spec {delays : ℕ → Delay} (hd : dev.Executes) (hp : Prompt delays)
    {ctl : CompositeSensorController} (ho : ctl.Operable) (hq : l.toDevice = [])
    (address value : UInt16) : CallSpec dev delays (ctl, l) (.write address value) := by
  cases hx : sendWriteCommandWithRetry (tty dev delays) ctl
      (RegisterCommand.write address value).frame l with
  | mk sent l' =>
    have hreg := writeRegister_operable dev delays ho hx
    obtain ⟨hcalled, hcode⟩ := retryLoop_called
      (fun _ _ _ hq' he ↦ sendWriteOnce_prompt dev hd hp ho address value hq' he) _ hq hx
    cases sent with
    | error e =>
      apply callSpec_of_called dev delays (s := (ctl, l)) (fun _ _ h ↦ h) hcalled
      · rw [call, hreg]
      · exact recordError_operable ho (hcode e rfl)
      · rw [Returns, call, hreg]
        exact iff_of_false (by rintro ⟨⟨⟩, _⟩) (by rintro ⟨_, ⟨⟩, _⟩)
    | ok u =>
      apply callSpec_of_called dev delays (s := (ctl, l)) (fun _ _ h ↦ h) hcalled
      · rw [call, hreg]
      · exact ho
      · rw [Returns, call, hreg]
        constructor
        · rintro ⟨-, data, hlast⟩
          exact ⟨(), rfl, _, ⟨data, rfl⟩, hlast⟩
        · rintro ⟨-, -, ⟨accepted, data⟩, ⟨_, hr⟩, hlast⟩
          obtain rfl : accepted = true := RegisterCommand.write_ack_inj hr
          exact ⟨rfl, data, hlast⟩

theorem call_spec {delays : ℕ → Delay} (hd : dev.Executes) (hp : Prompt delays)
    {s : CompositeSensorController × Link δ} (ho : s.1.Operable) (hq : s.2.toDevice = [])
    (c : RegisterCommand) : CallSpec dev delays s c := by
  cases c with
  | read address => exact readRegister_spec dev hd hp ho hq address
  | write address value => exact writeRegister_spec dev hd hp ho hq address value

theorem call_inoperable {s : CompositeSensorController × Link δ} (ho : ¬ s.1.Operable)
    (c : RegisterCommand) : ¬ Returns dev delays s c ∧ ¬ (call dev delays s c).1.Operable := by
  obtain ⟨ctl, l⟩ := s
  cases hready : ctl.isReady with
  | false =>
    have he := ensureReady_of_not_isReady hready
    cases c with
    | read address =>
      refine ⟨?_, ?_⟩
      · rw [Returns, readRegister, he]
        rintro ⟨_, ⟨⟩, _⟩
      · rw [call, readRegister, he]
        exact ho
    | write address value =>
      refine ⟨?_, ?_⟩
      · rw [Returns, writeRegister, he]
        rintro ⟨⟨⟩, _⟩
      · rw [call, writeRegister, he]
        exact ho
  | true =>
    have he := ensureReady_of_isReady hready
    have hb : ctl.builderReady = false := by
      cases hb : ctl.builderReady with
      | false => rfl
      | true => exact absurd ⟨hready, hb⟩ ho
    have hkeeps (e : Status) : ¬ (ctl.recordError e).Operable := by
      rintro ⟨-, h⟩
      exact Bool.false_ne_true (hb.symm.trans h)
    cases c with
    | read address =>
      refine ⟨?_, ?_⟩
      · rw [Returns, readRegister, he, buildReadRegister, hb]
        rintro ⟨_, ⟨⟩, _⟩
      · rw [call, readRegister, he, buildReadRegister, hb]
        exact hkeeps _
    | write address value =>
      refine ⟨?_, ?_⟩
      · rw [Returns, writeRegister, he, buildWriteRegister, hb]
        rintro ⟨⟨⟩, _⟩
      · rw [call, writeRegister, he, buildWriteRegister, hb]
        exact hkeeps _

/-- The serial input holds `noise`, and from now on the device takes every
command and promptly answers it with its one ACK. -/
structure Disturbed (noise : List UInt8) (l : Link δ) : Prop where
  executes : dev.Executes
  prompt : Prompt delays
  quiet : l.toDevice = []
  unread : l.unread = noise

/-- One of the next two calls returns the device's answer. -/
def RecoversSoon (ctl : CompositeSensorController) (noise : List UInt8) : Prop :=
  ∀ (δ : Type) (dev : Device δ) (delays : ℕ → Delay) (l : Link δ),
    Disturbed dev delays noise l → ∀ first second : RegisterCommand,
      Returns dev delays (ctl, l) first ∨
        Returns dev delays (call dev delays (ctl, l) first) second

/-- Calls do not fail or misreport for ever. -/
def NeverLost (ctl : CompositeSensorController) (noise : List UInt8) : Prop :=
  ∀ (δ : Type) (dev : Device δ) (delays : ℕ → Delay) (l : Link δ),
    Disturbed dev delays noise l → ∀ (calls : ℕ → RegisterCommand) (n : ℕ),
      ∃ m, n ≤ m ∧ Returns dev delays (after (call dev delays) (ctl, l) calls m) (calls m)

section Runs

variable {dev delays} {ctl : CompositeSensorController} {noise : List UInt8}

structure Running (dev : Device δ) (delays : ℕ → Delay) (count : ℕ)
    (s : CompositeSensorController × Link δ) : Prop where
  executes : dev.Executes
  prompt : Prompt delays
  operable : s.1.Operable
  quiet : s.2.toDevice = []
  unread : s.2.unread.length = count

theorem Disturbed.running (h : Disturbed dev delays noise l) (ho : ctl.Operable) :
    Running dev delays noise.length (ctl, l) :=
  ⟨h.executes, h.prompt, ho, h.quiet, congrArg List.length h.unread⟩

theorem Running.spec {count : ℕ} {s : CompositeSensorController × Link δ}
    (h : Running dev delays count s) (c : RegisterCommand) : CallSpec dev delays s c :=
  call_spec dev h.executes h.prompt h.operable h.quiet c

theorem Running.call {count : ℕ} {s : CompositeSensorController × Link δ}
    (h : Running dev delays count s) (c : RegisterCommand) :
    Running dev delays count (call dev delays s c) := by
  obtain ⟨operable, ⟨replies, r, -, hx⟩, -⟩ := h.spec c
  exact ⟨h.executes, h.prompt, operable, hx.quiet, hx.length_unread.trans h.unread⟩

theorem Running.after {count : ℕ} {s : CompositeSensorController × Link δ}
    (h : Running dev delays count s) (calls : ℕ → RegisterCommand) (n : ℕ) :
    Running dev delays count
      (Library.Runs.after (CompositeSensorController.call dev delays) s calls n) := by
  apply after_invariant (I := Running dev delays count) _ h
  intro s c hs
  exact hs.call c

theorem Running.not_returns {count : ℕ} {s : CompositeSensorController × Link δ}
    (h : Running dev delays count s) (hc : count ≠ 0) (c : RegisterCommand) :
    ¬ Returns dev delays (CompositeSensorController.call dev delays s c) c := by
  have h' := h.call c
  obtain ⟨-, ⟨replies, r, hr, hx⟩, -⟩ := h.spec c
  have hne : (CompositeSensorController.call dev delays s c).2.unread ≠ [] := by
    intro hnil
    apply hc
    rw [← h'.unread, hnil, List.length_nil]
  rw [(h'.spec c).returns]
  exact hx.not_absorbs hr hne _

theorem Running.returns {s : CompositeSensorController × Link δ} (h : Running dev delays 0 s)
    (c : RegisterCommand) : Returns dev delays s c := by
  rw [(h.spec c).returns, List.length_eq_zero_iff.mp h.unread]
  exact c.absorbs_nil s.1.attempts_pos

end Runs

theorem echo_executes : echo.Executes := by
  intro c d
  cases c <;> rfl

theorem prompt_echo (noise : List UInt8) :
    Disturbed echo (fun _ ↦ ⟨1, 12⟩) noise { device := (), arrived := noise } := by
  refine ⟨echo_executes, fun _ ↦ ⟨Nat.one_pos, by decide⟩, rfl, ?_⟩
  exact List.append_nil noise

theorem RecoversSoon.operable {ctl : CompositeSensorController} {noise : List UInt8}
    (h : RecoversSoon ctl noise) : ctl.Operable := by
  by_contra ho
  have hfirst := call_inoperable echo (fun _ ↦ ⟨1, 12⟩)
    (s := (ctl, { device := (), arrived := noise })) ho (.read 0)
  rcases h Unit echo _ _ (prompt_echo noise) (.read 0) (.read 0) with hr | hr
  · exact hfirst.1 hr
  · exact (call_inoperable echo _ hfirst.2 (.read 0)).1 hr

theorem recoversSoon_iff (ctl : CompositeSensorController) (noise : List UInt8) :
    RecoversSoon ctl noise ↔
      ctl.Operable ∧ ∀ c : RegisterCommand, c.Absorbs ctl.attempts.toNatClampNeg noise := by
  constructor
  · intro h
    have ho := h.operable
    refine ⟨ho, fun c ↦ ?_⟩
    have hrun := (prompt_echo noise).running ho
    rcases h Unit echo _ _ (prompt_echo noise) c c with hr | hr
    · rw [(hrun.spec c).returns] at hr
      exact (prompt_echo noise).unread ▸ hr
    · by_cases hz : noise.length = 0
      · rw [List.length_eq_zero_iff.mp hz]
        exact c.absorbs_nil ctl.attempts_pos
      · exact absurd hr (hrun.not_returns hz c)
  · rintro ⟨ho, habs⟩ δ dev delays l hd first second
    left
    rw [((hd.running ho).spec first).returns, hd.unread]
    exact habs first

/-- A call gets past leftover bytes only when they are whole blocks of rubbish for
both commands and few enough, and then it leaves its own ACKs for the calls to
come: one stray byte is too many for register access to work again. -/
theorem recovers_iff (ctl : CompositeSensorController) (noise : List UInt8) :
    (RecoversSoon ctl noise ↔
      ctl.Operable ∧ ∀ c : RegisterCommand, c.Absorbs ctl.attempts.toNatClampNeg noise) ∧
    (RecoversSoon ctl noise ∧ NeverLost ctl noise ↔ ctl.Operable ∧ noise = []) := by
  refine ⟨recoversSoon_iff ctl noise, ?_, ?_⟩
  · rintro ⟨hsoon, hnever⟩
    have ho := hsoon.operable
    refine ⟨ho, ?_⟩
    by_contra hne
    have hrun := (prompt_echo noise).running ho
    obtain ⟨m, hm, hr⟩ := hnever Unit echo _ _ (prompt_echo noise) (fun _ ↦ .read 0) 1
    obtain ⟨k, rfl⟩ := Nat.exists_eq_add_of_le' hm
    rw [after_succ] at hr
    exact (hrun.after _ k).not_returns (fun hz ↦ hne (List.length_eq_zero_iff.mp hz)) (.read 0) hr
  · rintro ⟨ho, rfl⟩
    refine ⟨(recoversSoon_iff ctl []).mpr ⟨ho, fun c ↦ c.absorbs_nil ctl.attempts_pos⟩, ?_⟩
    intro δ dev delays l hd calls n
    exact ⟨n, le_rfl, ((hd.running ho).after calls n).returns (calls n)⟩

def retrying : CompositeSensorController :=
  { opened with config := { enable := true, retryCount := 1 } }

theorem stray_byte_lost :
    retrying.Operable ∧ 1 ≤ retrying.config.retryCount ∧ ¬ RecoversSoon retrying [0x00] := by
  refine ⟨⟨rfl, rfl⟩, by decide, fun h ↦ ?_⟩
  rcases h Unit echo _ _ (prompt_echo [0x00]) (.read 0x6500) (.write 0x6500 3) with
    ⟨v, hv, -⟩ | ⟨hv, -⟩
  · have hfails : (readRegister (tty echo fun _ ↦ ⟨1, 12⟩) 0x6500 retrying
        { device := (), arrived := [0x00] }).1.isOk = false := by decide +kernel
    rw [hv] at hfails
    cases hfails
  · have hfails : (writeRegister (tty echo fun _ ↦ ⟨1, 12⟩) 0x6500 3
        (call echo (fun _ ↦ ⟨1, 12⟩) (retrying, { device := (), arrived := [0x00] })
          (.read 0x6500)).1
        (call echo (fun _ ↦ ⟨1, 12⟩) (retrying, { device := (), arrived := [0x00] })
          (.read 0x6500)).2).1.isOk = false := by decide +kernel
    rw [hv] at hfails
    cases hfails

end CompositeSensorController

end TriFusion.DeviceControl
