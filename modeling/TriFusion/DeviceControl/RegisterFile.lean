import TriFusion.DeviceControl.LinkStatus
import TriFusion.DeviceControl.Resynchronisation

namespace TriFusion.DeviceControl

open Foundation Hardware Library Library.Runs CompositeSensorCommandBuilder
  CompositeSensorCommandParser

namespace RegisterCommand

def Plain : RegisterCommand → Prop
  | .read _ => True
  | .write address _ => address ≠ CompositeSensorRegister.saveConfig.address

instance : DecidablePred Plain
  | .read _ => inferInstanceAs (Decidable True)
  | .write address _ => inferInstanceAs (Decidable (address ≠ _))

/-- What a command that is taken leaves in the words. The correction register falls back by
itself, so that a write to it leaves nothing. -/
def store (words : UInt16 → UInt16) : RegisterCommand → UInt16 → UInt16
  | .read _ => words
  | .write address value =>
    if address = CompositeSensorRegister.infraredCorrection.address then words
    else Function.update words address value

def valueAt (address : UInt16) : RegisterCommand → Option UInt16
  | .read _ => none
  | .write target value =>
    if target = address ∧ target ≠ CompositeSensorRegister.infraredCorrection.address then
      some value
    else none

theorem store_eq (words : UInt16 → UInt16) (c : RegisterCommand) (address : UInt16) :
    store words c address = (c.valueAt address).getD (words address) := by
  cases c with
  | read _ => rfl
  | write target value =>
    rw [store, valueAt]
    by_cases hc : target = CompositeSensorRegister.infraredCorrection.address
    · rw [if_pos hc, if_neg fun h ↦ h.2 hc, Option.getD_none]
    · rw [if_neg hc, Function.update_apply]
      by_cases h : address = target
      · rw [if_pos h, if_pos ⟨h.symm, hc⟩, Option.getD_some]
      · rw [if_neg h, if_neg fun he ↦ h he.1.symm, Option.getD_none]

theorem store_store (words : UInt16 → UInt16) (c : RegisterCommand) :
    store (store words c) c = store words c := by
  funext address
  rw [store_eq, store_eq]
  cases c.valueAt address <;> rfl

theorem exec_store (words : UInt16 → UInt16) (cs : List RegisterCommand) (address : UInt16) :
    exec store words cs address =
      (cs.filterMap (valueAt address)).getLast?.getD (words address) := by
  have hstep (words : UInt16 → UInt16) (c : RegisterCommand) :
      Function.eval address (store words c) =
        (c.valueAt address).getD (Function.eval address words) := store_eq words c address
  exact exec_last hstep words cs

end RegisterCommand

/-- A device that keeps a word under each address, but for the correction register, which it
resets by itself. A command it refuses changes none of them, and what it does on the
save/restore register is its own affair. -/
structure Device.KeepsRegisters {δ : Type} (dev : Device δ) (regs : δ → UInt16 → UInt16) :
    Prop where
  read : ∀ address d, regs (dev.execute (.read address) d).2 = regs d
  data : ∀ address d, address ≠ CompositeSensorRegister.infraredCorrection.address →
    (dev.execute (.read address) d).1.accepted = true →
    (dev.execute (.read address) d).1.data = regs d address
  write : ∀ address value d, address ≠ CompositeSensorRegister.saveConfig.address →
    (dev.execute (.write address value) d).1.accepted = true →
    regs (dev.execute (.write address value) d).2 =
      RegisterCommand.store (regs d) (.write address value)
  refused : ∀ address value d, (dev.execute (.write address value) d).1.accepted = false →
    regs (dev.execute (.write address value) d).2 = regs d

theorem Device.KeepsRegisters.execute {δ : Type} {dev : Device δ} {regs : δ → UInt16 → UInt16}
    (h : dev.KeepsRegisters regs) {c : RegisterCommand} (hc : c.Plain) (d : δ) :
    regs (dev.execute c d).2 =
      if (dev.execute c d).1.accepted then c.store (regs d) else regs d := by
  cases c with
  | read address => rw [h.read, RegisterCommand.store, ite_self]
  | write address value =>
    cases ha : (dev.execute (.write address value) d).1.accepted with
    | false => exact h.refused address value d ha
    | true => exact h.write address value d hc ha

namespace Link

variable {δ : Type} (dev : Device δ) (delays : ℕ → Delay) {l : Link δ}

theorem idle_iff : l.Idle ↔ l.toDevice = [] ∧ l.unread = [] := by
  rw [unread, List.append_eq_nil_iff]
  constructor
  · rintro ⟨hq, hf, ha⟩
    exact ⟨hq, ha, hf⟩
  · rintro ⟨hq, ha, hf⟩
    exact ⟨hq, hf, ha⟩

variable {dev delays} in
theorem readExactLoop_keeps {I : Link δ → Prop} (hwait : ∀ l, I l → I (l.wait dev delays))
    (hreceive : ∀ l n, I l → I (l.receive n)) (portOpen : Bool) (timeoutMs : Int32) (missing : ℕ)
    (out : List UInt8) (hl : I l) :
    I (CompositeSensorController.readExactLoop (tty dev delays) portOpen timeoutMs missing out
      l).2 := by
  induction missing using Nat.strong_induction_on generalizing out l with
  | _ missing ih =>
    rw [CompositeSensorController.readExactLoop]
    by_cases hz : missing = 0
    · rw [if_pos hz]
      exact hl
    · rw [if_neg hz]
      cases portOpen with
      | false => exact hl
      | true =>
        rw [readBytes_tty dev delays timeoutMs hz]
        by_cases ha : (l.wait dev delays).arrived = []
        · rw [if_pos ha]
          exact hwait l hl
        · rw [if_neg ha]
          have hne : (l.wait dev delays).arrived.take missing ≠ [] := by
            rw [Ne, List.take_eq_nil_iff]
            exact fun h ↦ h.elim hz ha
          have hpos := List.length_pos_iff.mpr hne
          simp only [if_neg hne]
          exact ih _ (by omega) _ (hreceive _ missing (hwait l hl))

theorem readExact_device {d : δ} (portOpen : Bool) (n : ℕ) (timeoutMs : Int32)
    (hq : l.toDevice = []) (hd : l.device = d) :
    (CompositeSensorController.readExact (tty dev delays) portOpen n timeoutMs l).2.device = d := by
  let I (l : Link δ) : Prop := l.toDevice = [] ∧ l.device = d
  have hwait (l : Link δ) (h : I l) : I (l.wait dev delays) := by
    obtain ⟨hq, hd⟩ := h
    rw [wait_quiet dev delays hq]
    exact ⟨hq, hd⟩
  have hreceive (l : Link δ) (n : ℕ) (h : I l) : I (l.receive n) := h
  exact (readExactLoop_keeps hwait hreceive portOpen timeoutMs n [] ⟨hq, hd⟩).2

theorem readExact_idle {delays : ℕ → Delay} (hp : Prompt delays) (timeoutMs : Int32)
    (c : RegisterCommand) (hi : l.Idle) :
    ∃ l', CompositeSensorController.readExact (tty dev delays) true c.ackBytes timeoutMs
        (l.send c.frame) = (.ok (c.ack (l.reply dev c)), l') ∧
      l'.Idle ∧ l'.device = (dev.execute c l.device).2 := by
  obtain ⟨hq, hu⟩ := idle_iff.mp hi
  have hz : c.ackBytes ≠ 0 := c.ackFormat.width_pos.ne'
  have ha := answer_eq dev c hq
  have hquiet : (l.answer dev c).toDevice = [] := by rw [ha, hq]
  have hdevice : (l.answer dev c).device = (dev.execute c l.device).2 := by rw [ha]
  have hunread : (l.answer dev c).unread = c.ack (l.reply dev c) := by
    rw [unread] at hu
    rw [ha, unread, ← List.append_assoc, hu, List.nil_append]
  have hlen := c.length_ack (l.reply dev c)
  have hsame : CompositeSensorController.readExact (tty dev delays) true c.ackBytes timeoutMs
        (l.send c.frame) =
      CompositeSensorController.readExact (tty dev delays) true c.ackBytes timeoutMs
        (l.answer dev c) := by
    rw [CompositeSensorController.readExact, CompositeSensorController.readExact,
      CompositeSensorController.readExactLoop, CompositeSensorController.readExactLoop,
      if_neg hz, if_neg hz, readBytes_tty dev delays timeoutMs hz,
      readBytes_tty dev delays timeoutMs hz, wait_send dev hp c hq]
  obtain ⟨l', he, hq', -, hu'⟩ := readExactLoop_prompt dev hp timeoutMs c.ackBytes [] hquiet
    (by rw [hunread, hlen])
  have hd' := readExact_device dev delays true c.ackBytes timeoutMs hquiet hdevice
  rw [hunread, List.nil_append, ← hlen, List.take_length] at he
  rw [hunread, ← hlen, List.drop_length] at hu'
  rw [CompositeSensorController.readExact, ← hlen, he] at hd'
  refine ⟨l', ?_, idle_iff.mpr ⟨hq', hu'⟩, hd'⟩
  rw [hsame, CompositeSensorController.readExact, ← hlen, he]

end Link

namespace CompositeSensorController

open Link

variable {δ : Type} (dev : Device δ) (delays : ℕ → Delay) {l l' : Link δ}

/-- An attempt on an idle line: it returns what the device answers, and fails when the
device refuses. -/
structure Served {α : Type} (value : Reply → α) (c : RegisterCommand) (l l' : Link δ)
    (result : Result α) : Prop where
  idle : l'.Idle
  device : l'.device = (dev.execute c l.device).2
  taken : (l.reply dev c).accepted = true → result = .ok (value (l.reply dev c))
  refused : (l.reply dev c).accepted = false → ∃ e, result = .error e

theorem sendReadOnce_served {delays : ℕ → Delay} (hp : Prompt delays)
    {ctl : CompositeSensorController} (ho : ctl.Operable) (address : UInt16) (hi : l.Idle)
    {result : Result CompositeSensorAck}
    (he : sendReadOnce (tty dev delays) ctl (RegisterCommand.read address).frame l =
      (result, l')) :
    Served dev (fun r ↦ readAck r.data) (.read address) l l' result := by
  have hopen := portOpen_of_isReady ho.1
  obtain ⟨l₁, hr, hidle, hdevice⟩ := readExact_idle dev hp ctl.config.timeoutMs (.read address) hi
  change readExact (tty dev delays) true kReadAckBytes _ _ = _ at hr
  simp only [sendReadOnce, hopen, writeBytes_tty, hr] at he
  obtain ⟨rfl, rfl⟩ := Prod.mk.inj he
  refine ⟨hidle, hdevice, ?_, ?_⟩
  · intro ha
    obtain ⟨data, hbytes⟩ := RegisterCommand.accepts_ack (.read address) ha
    rw [RegisterCommand.read_ack_inj hbytes]
    exact parseReadRegisterAck_ok_iff.mpr ⟨data, rfl, rfl⟩
  · intro ha
    cases hparse : parseReadRegisterAck
        ((RegisterCommand.read address).ack (l.reply dev (.read address))) with
    | error e => exact ⟨e, rfl⟩
    | ok ack =>
      obtain ⟨data, hbytes, -⟩ := parseReadRegisterAck_ok_iff.mp hparse
      rw [RegisterCommand.read_ack_inj hbytes] at ha
      cases ha

theorem sendWriteOnce_served {delays : ℕ → Delay} (hp : Prompt delays)
    {ctl : CompositeSensorController} (ho : ctl.Operable) (address value : UInt16) (hi : l.Idle)
    {result : Result Unit}
    (he : sendWriteOnce (tty dev delays) ctl (RegisterCommand.write address value).frame l =
      (result, l')) :
    Served dev (fun _ ↦ ()) (.write address value) l l' result := by
  have hopen := portOpen_of_isReady ho.1
  obtain ⟨l₁, hr, hidle, hdevice⟩ :=
    readExact_idle dev hp ctl.config.timeoutMs (.write address value) hi
  change readExact (tty dev delays) true kWriteAckBytes _ _ = _ at hr
  simp only [sendWriteOnce, hopen, writeBytes_tty, hr] at he
  cases hparse : parseWriteRegisterAck
      ((RegisterCommand.write address value).ack (l.reply dev (.write address value))) with
  | ok ack =>
    simp only [hparse] at he
    obtain ⟨rfl, rfl⟩ := Prod.mk.inj he
    refine ⟨hidle, hdevice, fun _ ↦ rfl, fun ha ↦ ?_⟩
    have hbytes : _ = (RegisterCommand.write address value).ack ⟨true, 0⟩ :=
      (parseWriteRegisterAck_ok_iff.mp hparse).1
    rw [RegisterCommand.write_ack_inj hbytes] at ha
    cases ha
  | error e =>
    simp only [hparse] at he
    obtain ⟨rfl, rfl⟩ := Prod.mk.inj he
    refine ⟨hidle, hdevice, fun ha ↦ ?_, fun _ ↦ ⟨_, rfl⟩⟩
    obtain ⟨data, hbytes⟩ := RegisterCommand.accepts_ack (.write address value) ha
    rw [parseWriteRegisterAck_ok_iff.mpr ⟨hbytes, rfl⟩] at hparse
    cases hparse

structure Settles {α : Type} (regs : δ → UInt16 → UInt16) (value : Reply → α)
    (c : RegisterCommand) (l l' : Link δ) (result : Result α) : Prop where
  idle : l'.Idle
  stored : regs l'.device = if result.succeeded then c.store (regs l.device) else regs l.device
  shown : ∀ a, result = .ok a → ∃ d, regs d = regs l.device ∧
    (dev.execute c d).1.accepted = true ∧ a = value (dev.execute c d).1
  served : dev.Executes → result.succeeded = true

variable {dev} {regs : δ → UInt16 → UInt16}

theorem retryLoop_settles (hk : dev.KeepsRegisters regs) {α : Type} {value : Reply → α}
    {c : RegisterCommand} (hc : c.Plain) {failure : Text} {attempt : Link δ → Result α × Link δ}
    (hattempt : ∀ l result l', l.Idle → attempt l = (result, l') →
      Served dev value c l l' result)
    {n : ℕ} (hn : 0 < n) (hi : l.Idle) {result : Result α}
    (he : retryLoop failure attempt n none l = (result, l')) :
    Settles dev regs value c l l' result := by
  let I (k : ℕ) (w : Link δ) : Prop :=
    w.Idle ∧ regs w.device = regs l.device ∧ (dev.Executes → k = 0)
  let Q (_ : ℕ) (a : α) (w : Link δ) : Prop :=
    w.Idle ∧ regs w.device = c.store (regs l.device) ∧ ∃ d, regs d = regs l.device ∧
      (dev.execute c d).1.accepted = true ∧ a = value (dev.execute c d).1
  have hok (k : ℕ) (w : Link δ) (a : α) (w' : Link δ) (hw : I k w)
      (hx : attempt w = (.ok a, w')) : Q k a w' := by
    obtain ⟨hidle, hregs, -⟩ := hw
    obtain ⟨hidle', hdevice, htaken, hrefused⟩ := hattempt w _ w' hidle hx
    have hacc : (w.reply dev c).accepted = true := by
      cases hacc : (w.reply dev c).accepted with
      | true => rfl
      | false =>
        obtain ⟨e, he⟩ := hrefused hacc
        cases he
    have hval := Except.ok.inj (htaken hacc)
    rw [reply] at hacc hval
    refine ⟨hidle', ?_, w.device, hregs, hacc, hval⟩
    rw [hdevice, hk.execute hc, if_pos hacc, hregs]
  have herr (k : ℕ) (w : Link δ) (e : Status) (w' : Link δ) (hw : I k w)
      (hx : attempt w = (.error e, w')) : I (k + 1) w' := by
    obtain ⟨hidle, hregs, -⟩ := hw
    obtain ⟨hidle', hdevice, htaken, hrefused⟩ := hattempt w _ w' hidle hx
    have hacc : (w.reply dev c).accepted = false := by
      cases hacc : (w.reply dev c).accepted with
      | false => rfl
      | true => cases htaken hacc
    rw [reply] at hacc
    refine ⟨hidle', ?_, fun hd ↦ ?_⟩
    · rw [hdevice, hk.execute hc, hacc, if_neg Bool.false_ne_true, hregs]
    · rw [hd c w.device] at hacc
      cases hacc
  rcases retryLoop_counted hok herr n none (k := 0) ⟨hi, rfl, fun _ ↦ rfl⟩ he with
    ⟨t, a, -, rfl, hidle, hregs, hshown⟩ | ⟨e, rfl, -, hidle, hregs, hserved⟩
  · refine ⟨hidle, hregs, fun b hb ↦ ?_, fun _ ↦ rfl⟩
    obtain rfl := Except.ok.inj hb
    exact hshown
  · refine ⟨hidle, hregs, ?_, ?_⟩
    · intro b hb
      cases hb
    · intro hd
      have hz := hserved hd
      omega

theorem readRegister_settles (hk : dev.KeepsRegisters regs) {delays : ℕ → Delay}
    (hp : Prompt delays) {ctl ctl' : CompositeSensorController} (ho : ctl.Operable)
    (address : UInt16) (hi : l.Idle) {result : Result UInt16}
    (he : readRegister (tty dev delays) address ctl l = (result, ctl', l')) :
    ctl'.Operable ∧ Settles dev regs Reply.data (.read address) l l' result := by
  cases hx : sendReadCommandWithRetry (tty dev delays) ctl
      (RegisterCommand.read address).frame l with
  | mk sent l'' =>
    rw [readRegister_operable dev delays ho hx] at he
    have hs := retryLoop_settles (c := .read address) hk trivial
      (fun _ _ _ hi hx ↦ sendReadOnce_served dev hp ho address hi hx) ctl.attempts_pos hi hx
    cases sent with
    | error e =>
      obtain ⟨rfl, rfl, rfl⟩ : _ ∧ _ ∧ _ := by simpa using he
      exact ⟨recordError_operable ho (retryLoop_code hx), hs.idle, hs.stored,
        fun a ha ↦ (nomatch ha), hs.served⟩
    | ok ack =>
      obtain ⟨rfl, rfl, rfl⟩ : _ ∧ _ ∧ _ := by simpa using he
      refine ⟨ho, hs.idle, hs.stored, fun v hv ↦ ?_, hs.served⟩
      obtain ⟨d, hd, hacc, hval⟩ := hs.shown ack rfl
      refine ⟨d, hd, hacc, ?_⟩
      rw [← Except.ok.inj hv, hval]
      rfl

theorem writeRegister_settles (hk : dev.KeepsRegisters regs) {delays : ℕ → Delay}
    (hp : Prompt delays) {ctl ctl' : CompositeSensorController} (ho : ctl.Operable)
    (address value : UInt16) (hplain : (RegisterCommand.write address value).Plain) (hi : l.Idle)
    {result : Result Unit}
    (he : writeRegister (tty dev delays) address value ctl l = (result, ctl', l')) :
    ctl'.Operable ∧ Settles dev regs (fun _ ↦ ()) (.write address value) l l' result := by
  cases hx : sendWriteCommandWithRetry (tty dev delays) ctl
      (RegisterCommand.write address value).frame l with
  | mk sent l'' =>
    rw [writeRegister_operable dev delays ho hx] at he
    have hs := retryLoop_settles (c := .write address value) hk hplain
      (fun _ _ _ hi hx ↦ sendWriteOnce_served dev hp ho address value hi hx) ctl.attempts_pos hi hx
    cases sent with
    | error e =>
      obtain ⟨rfl, rfl, rfl⟩ : _ ∧ _ ∧ _ := by simpa using he
      exact ⟨recordError_operable ho (retryLoop_code hx), hs⟩
    | ok u =>
      obtain ⟨rfl, rfl, rfl⟩ : _ ∧ _ ∧ _ := by simpa using he
      exact ⟨ho, hs⟩

variable (dev) in
def confirmed (s : CompositeSensorController × Link δ) : List RegisterCommand → List RegisterCommand
  | [] => []
  | c :: rest =>
    (if (s.1.statusCall (tty dev delays) c s.2).1 then [c] else []) ++
      confirmed (call dev delays s c) rest

theorem call_settles (hk : dev.KeepsRegisters regs) {delays : ℕ → Delay} (hp : Prompt delays)
    {s : CompositeSensorController × Link δ} (ho : s.1.Operable) (hi : s.2.Idle)
    {c : RegisterCommand} (hc : c.Plain) :
    (call dev delays s c).1.Operable ∧ (call dev delays s c).2.Idle ∧
      regs (call dev delays s c).2.device =
        exec RegisterCommand.store (regs s.2.device) (confirmed dev delays s [c]) ∧
      (dev.Executes → confirmed dev delays s [c] = [c]) := by
  obtain ⟨ctl, l⟩ := s
  cases c with
  | read address =>
    rcases hx : readRegister (tty dev delays) address ctl l with ⟨result, ctl', l'⟩
    obtain ⟨ho', hs⟩ := readRegister_settles hk hp ho address hi hx
    simp only [call, confirmed, statusCall, hx, List.append_nil]
    refine ⟨ho', hs.idle, ?_, fun hd ↦ if_pos (hs.served hd)⟩
    rw [hs.stored]
    split <;> rfl
  | write address value =>
    rcases hx : writeRegister (tty dev delays) address value ctl l with ⟨result, ctl', l'⟩
    obtain ⟨ho', hs⟩ := writeRegister_settles hk hp ho address value hc hi hx
    simp only [call, confirmed, statusCall, hx, List.append_nil]
    refine ⟨ho', hs.idle, ?_, fun hd ↦ if_pos (hs.served hd)⟩
    rw [hs.stored]
    split <;> rfl

theorem calls_settle (hk : dev.KeepsRegisters regs) {delays : ℕ → Delay} (hp : Prompt delays)
    {s : CompositeSensorController × Link δ} (ho : s.1.Operable) (hi : s.2.Idle)
    (calls : List RegisterCommand) (hplain : ∀ c ∈ calls, c.Plain) :
    (exec (call dev delays) s calls).1.Operable ∧ (exec (call dev delays) s calls).2.Idle ∧
      regs (exec (call dev delays) s calls).2.device =
        exec RegisterCommand.store (regs s.2.device) (confirmed dev delays s calls) ∧
      (dev.Executes → confirmed dev delays s calls = calls) := by
  induction calls generalizing s with
  | nil => exact ⟨ho, hi, rfl, fun _ ↦ rfl⟩
  | cons c rest ih =>
    obtain ⟨ho₁, hi₁, hregs₁, hall₁⟩ := call_settles hk hp ho hi (hplain c List.mem_cons_self)
    obtain ⟨ho₂, hi₂, hregs₂, hall₂⟩ := ih ho₁ hi₁
      fun b hb ↦ hplain b (List.mem_cons_of_mem c hb)
    have hcons : confirmed dev delays s (c :: rest) =
        confirmed dev delays s [c] ++ confirmed dev delays (call dev delays s c) rest := by
      rw [confirmed, confirmed, confirmed, List.append_nil]
    refine ⟨ho₂, hi₂, ?_, fun hd ↦ ?_⟩
    · rw [exec_cons, hregs₂, hregs₁, hcons, exec_append]
    · rw [hcons, hall₁ hd, hall₂ hd, List.singleton_append]

/-- On a prompt line the device is a store that the controller's calls read and write: a
register other than that of the correction holds the value of the last write to it that was
confirmed, that value is what a read of it returns, a call that fails has changed nothing, and
none fails on a device that takes every command. -/
theorem registers_hold_confirmed (hk : dev.KeepsRegisters regs) {delays : ℕ → Delay}
    (hp : Prompt delays) {ctl : CompositeSensorController} (ho : ctl.Operable) (hi : l.Idle)
    (calls : List RegisterCommand) (hplain : ∀ c ∈ calls, c.Plain) {address : UInt16}
    (hkept : address ≠ CompositeSensorRegister.infraredCorrection.address) :
    let s := exec (call dev delays) (ctl, l) calls
    let held := ((confirmed dev delays (ctl, l) calls).filterMap
      (RegisterCommand.valueAt address)).getLast?.getD (regs l.device address)
    regs s.2.device address = held ∧
      (∀ v, (readRegister (tty dev delays) address s.1 s.2).1 = .ok v → v = held) ∧
      (dev.Executes → confirmed dev delays (ctl, l) calls = calls) := by
  intro s held
  obtain ⟨ho', hi', hregs, hall⟩ := calls_settle hk hp (s := (ctl, l)) ho hi calls hplain
  have hheld : regs s.2.device address = held := by
    rw [hregs, RegisterCommand.exec_store]
  refine ⟨hheld, fun v hv ↦ ?_, hall⟩
  rcases hx : readRegister (tty dev delays) address s.1 s.2 with ⟨result, ctl', l'⟩
  obtain ⟨-, hs⟩ := readRegister_settles hk hp ho' address hi' hx
  rw [hx] at hv
  obtain ⟨d, hd, hacc, rfl⟩ := hs.shown v hv
  rw [hk.data address d hkept hacc, hd]
  exact hheld

section Bank

/-- A device that is nothing but its registers; a correction is over before the next command. -/
def bank : Device (UInt16 → UInt16) where
  execute c words :=
    match c with
    | .read address => (⟨true, words address⟩, words)
    | .write address value => (⟨true, 0⟩, RegisterCommand.store words (.write address value))

theorem bank_keeps : bank.KeepsRegisters id :=
  ⟨fun _ _ ↦ rfl, fun _ _ _ _ ↦ rfl, fun _ _ _ _ _ ↦ rfl, fun _ _ _ h ↦ (nomatch h)⟩

theorem bank_executes : bank.Executes := by
  intro c words
  cases c <;> rfl

def soon : ℕ → Delay := fun _ ↦ ⟨1, 12⟩

theorem soon_prompt : Prompt soon := fun _ ↦ ⟨Nat.one_pos, Nat.succ_pos 11⟩

def fresh : CompositeSensorController × Link (UInt16 → UInt16) :=
  (retrying, { device := fun _ ↦ 0 })

/-- A brightness that was written twice, with a correction in between, is the later one. -/
theorem registers_hold_confirmed_bank :
    (exec (call bank soon) fresh [.write 0x6514 80, .write 0x650C 1, .write 0x6514 35]).2.device
      0x6514 = 35 := by
  have ho : fresh.1.Operable := ⟨rfl, rfl⟩
  have hi : fresh.2.Idle := ⟨rfl, rfl, rfl⟩
  obtain ⟨h, -, hall⟩ := registers_hold_confirmed bank_keeps soon_prompt ho hi
    [.write 0x6514 80, .write 0x650C 1, .write 0x6514 35] (by decide)
    (show (0x6514 : UInt16) ≠ CompositeSensorRegister.infraredCorrection.address by decide)
  rw [hall bank_executes] at h
  exact h

end Bank

end CompositeSensorController

end TriFusion.DeviceControl
