import TriFusion.DeviceControl.RegisterFile
import TriFusion.Library.Repeats

namespace TriFusion.DeviceControl

open Foundation Hardware Library Library.Runs CompositeSensorCommandParser

def Device.run {δ : Type} (dev : Device δ) (d : δ) (cs : List RegisterCommand) : δ :=
  exec (fun d c ↦ (dev.execute c d).2) d cs

theorem Device.KeepsRegisters.run {δ : Type} {dev : Device δ} {regs : δ → UInt16 → UInt16}
    (hk : dev.KeepsRegisters regs) (hd : dev.Executes) (d : δ) (cs : List RegisterCommand)
    (hplain : ∀ c ∈ cs, c.Plain) :
    regs (dev.run d cs) = exec RegisterCommand.store (regs d) cs := by
  induction cs generalizing d with
  | nil => rfl
  | cons c rest ih =>
    have hc := hk.execute (hplain c List.mem_cons_self) d
    rw [hd c d, if_pos rfl] at hc
    rw [Device.run, exec_cons, exec_cons, ← hc]
    exact ih _ fun b hb ↦ hplain b (List.mem_cons_of_mem c hb)

namespace Link

variable {δ : Type} (dev : Device δ) (delays : ℕ → Delay)

/-- The commands `log` were written since `l₀`, and the device has carried out the first
of them, in their order. -/
structure Issued (l₀ : Link δ) (log done pending : List RegisterCommand) (l : Link δ) : Prop where
  split : log = done ++ pending
  line : l.toDevice = pending.flatMap RegisterCommand.frame
  answered : l.answered.map Prod.fst = l₀.answered.map Prod.fst ++ done
  device : l.device = dev.run l₀.device done

def Wrote (l₀ : Link δ) (log : List RegisterCommand) (l : Link δ) : Prop :=
  ∃ done pending, Issued dev l₀ log done pending l

variable {dev delays} {l₀ l : Link δ} {log : List RegisterCommand}

theorem Wrote.refl (hq : l.toDevice = []) : Wrote dev l [] l :=
  ⟨[], [], rfl, hq, (List.append_nil _).symm, rfl⟩

theorem Wrote.send (h : Wrote dev l₀ log l) (c : RegisterCommand) :
    Wrote dev l₀ (log ++ [c]) (l.send c.frame) := by
  obtain ⟨done, pending, hs, hl, ha, hd⟩ := h
  refine ⟨done, pending ++ [c], ?_, ?_, ha, hd⟩
  · rw [hs, List.append_assoc]
  · rw [Link.send, hl, List.flatMap_append, List.flatMap_singleton]

theorem Wrote.executeOne (h : Wrote dev l₀ log l) : Wrote dev l₀ log (l.executeOne dev) := by
  obtain ⟨done, pending, hs, hl, ha, hd⟩ := h
  cases pending with
  | nil =>
    rw [executeOne_quiet dev hl]
    exact ⟨done, [], hs, hl, ha, hd⟩
  | cons c rest =>
    have he : l.executeOne dev =
        { l with
          device := (dev.execute c l.device).2
          toDevice := rest.flatMap RegisterCommand.frame
          inFlight := l.inFlight ++ c.ack (dev.execute c l.device).1
          answered := l.answered ++ [(c, (dev.execute c l.device).1)] } := by
      rw [Link.executeOne, hl, List.flatMap_cons, RegisterCommand.decode_frame]
    rw [he]
    refine ⟨done ++ [c], rest, ?_, rfl, ?_, ?_⟩
    · rw [hs, List.append_assoc, List.singleton_append]
    · rw [List.map_append, ha, List.append_assoc, List.map_singleton]
    · rw [Device.run, exec_append, exec_cons, exec_nil]
      exact congrArg (fun d ↦ (dev.execute c d).2) hd

theorem Wrote.executeMany (h : Wrote dev l₀ log l) (n : ℕ) :
    Wrote dev l₀ log (l.executeMany dev n) := by
  induction n generalizing l with
  | zero => exact h
  | succ n ih => exact ih h.executeOne

theorem Wrote.wait (h : Wrote dev l₀ log l) : Wrote dev l₀ log (l.wait dev delays) := by
  obtain ⟨done, pending, hs, hl, ha, hd⟩ := h.executeMany (delays l.clock).executes
  exact ⟨done, pending, hs, hl, ha, hd⟩

theorem Wrote.receive (h : Wrote dev l₀ log l) (n : ℕ) : Wrote dev l₀ log (l.receive n) := by
  obtain ⟨done, pending, hs, hl, ha, hd⟩ := h
  exact ⟨done, pending, hs, hl, ha, hd⟩

theorem Wrote.readExact (h : Wrote dev l₀ log l) (portOpen : Bool) (n : ℕ) (timeoutMs : Int32) :
    Wrote dev l₀ log
      (CompositeSensorController.readExact (tty dev delays) portOpen n timeoutMs l).2 :=
  readExactLoop_keeps (fun _ h ↦ h.wait) (fun _ n h ↦ h.receive n) portOpen timeoutMs n [] h

end Link

namespace CompositeSensorController

open Link

variable {δ : Type} {dev : Device δ} {delays : ℕ → Delay} {l₀ l l' : Link δ}
  {log : List RegisterCommand} {ctl ctl' : CompositeSensorController}

theorem sendReadOnce_line (ho : ctl.Operable) (address : UInt16) :
    (sendReadOnce (tty dev delays) ctl (RegisterCommand.read address).frame l).2 =
      (readExact (tty dev delays) true kReadAckBytes ctl.config.timeoutMs
        (l.send (RegisterCommand.read address).frame)).2 := by
  have hopen := portOpen_of_isReady ho.1
  simp only [sendReadOnce, hopen, writeBytes_tty]
  rcases readExact (tty dev delays) true kReadAckBytes ctl.config.timeoutMs
    (l.send (RegisterCommand.read address).frame) with ⟨e | bytes, l'⟩ <;> rfl

theorem sendWriteOnce_line (ho : ctl.Operable) (address value : UInt16) :
    (sendWriteOnce (tty dev delays) ctl (RegisterCommand.write address value).frame l).2 =
      (readExact (tty dev delays) true kWriteAckBytes ctl.config.timeoutMs
        (l.send (RegisterCommand.write address value).frame)).2 := by
  have hopen := portOpen_of_isReady ho.1
  simp only [sendWriteOnce, hopen, writeBytes_tty]
  rcases readExact (tty dev delays) true kWriteAckBytes ctl.config.timeoutMs
    (l.send (RegisterCommand.write address value).frame) with ⟨e | bytes, l'⟩
  · dsimp only
    split <;> rfl
  · dsimp only
    split <;> rfl

theorem retryLoop_wrote {α : Type} {c : RegisterCommand} {failure : Text}
    {attempt : Link δ → Result α × Link δ}
    (hattempt : ∀ l log, Wrote dev l₀ log l → Wrote dev l₀ (log ++ [c]) (attempt l).2)
    {n : ℕ} (hn : 0 < n) (h : Wrote dev l₀ log l) {result : Result α}
    (he : retryLoop failure attempt n none l = (result, l')) :
    ∃ k, 0 < k ∧ k ≤ n ∧ Wrote dev l₀ (log ++ List.replicate k c) l' := by
  have hnext (k : ℕ) (w w' : Link δ) (r : Result α)
      (hw : Wrote dev l₀ (log ++ List.replicate k c) w) (hx : attempt w = (r, w')) :
      Wrote dev l₀ (log ++ List.replicate (k + 1) c) w' := by
    have hw' := hattempt w _ hw
    rwa [hx, List.append_assoc, ← List.replicate_succ'] at hw'
  have hstart : Wrote dev l₀ (log ++ List.replicate 0 c) l := by
    rwa [List.replicate_zero, List.append_nil]
  rcases retryLoop_counted (fun k w a w' hw hx ↦ hnext k w w' _ hw hx)
    (fun k w e w' hw hx ↦ hnext k w w' _ hw hx) n none hstart he with
    ⟨t, a, ht, -, hw⟩ | ⟨e, -, -, hw⟩
  · exact ⟨t + 1, t.succ_pos, ht, by rwa [Nat.zero_add] at hw⟩
  · exact ⟨n, hn, le_rfl, by rwa [Nat.zero_add] at hw⟩

structure Issues (l₀ : Link δ) (dev : Device δ) (log : List RegisterCommand)
    (c : RegisterCommand) (ctl ctl' : CompositeSensorController) (l' : Link δ) : Prop where
  operable : ctl'.Operable
  config : ctl'.config = ctl.config
  wrote : ∃ k, 0 < k ∧ k ≤ ctl.attempts.toNatClampNeg ∧
    Wrote dev l₀ (log ++ List.replicate k c) l'

theorem call_issues (delays : ℕ → Delay) (ho : ctl.Operable) (h : Wrote dev l₀ log l)
    (c : RegisterCommand) :
    Issues l₀ dev log c ctl (call dev delays (ctl, l) c).1 (call dev delays (ctl, l) c).2 := by
  cases c with
  | read address =>
    cases hx : sendReadCommandWithRetry (tty dev delays) ctl
        (RegisterCommand.read address).frame l with
    | mk sent l'' =>
      have hw := retryLoop_wrote (c := .read address) (fun l log hw ↦ by
        rw [sendReadOnce_line ho]
        exact (hw.send (.read address)).readExact _ _ _) ctl.attempts_pos h hx
      rw [call, readRegister_operable dev delays ho hx]
      cases sent with
      | error e => exact ⟨recordError_operable ho (retryLoop_code hx), rfl, hw⟩
      | ok ack => exact ⟨ho, rfl, hw⟩
  | write address value =>
    cases hx : sendWriteCommandWithRetry (tty dev delays) ctl
        (RegisterCommand.write address value).frame l with
    | mk sent l'' =>
      have hw := retryLoop_wrote (c := .write address value) (fun l log hw ↦ by
        rw [sendWriteOnce_line ho]
        exact (hw.send (.write address value)).readExact _ _ _) ctl.attempts_pos h hx
      rw [call, writeRegister_operable dev delays ho hx]
      cases sent with
      | error e => exact ⟨recordError_operable ho (retryLoop_code hx), rfl, hw⟩
      | ok u => exact ⟨ho, rfl, hw⟩

theorem calls_issue (delays : ℕ → Delay) (ho : ctl.Operable) (h : Wrote dev l₀ log l)
    (calls : List RegisterCommand) :
    ∃ added, Repeats ctl.attempts.toNatClampNeg calls added ∧
      Wrote dev l₀ (log ++ added) (exec (call dev delays) (ctl, l) calls).2 := by
  induction calls generalizing ctl l log with
  | nil => exact ⟨[], .nil, by rwa [List.append_nil]⟩
  | cons c rest ih =>
    obtain ⟨ho', hconfig, k, hpos, hle, hw⟩ := call_issues delays ho h c
    obtain ⟨added, hr, hw'⟩ := ih ho' hw
    have hattempts : (call dev delays (ctl, l) c).1.attempts = ctl.attempts := by
      rw [attempts, hconfig, ← attempts]
    rw [hattempts] at hr
    refine ⟨List.replicate k c ++ added, .cons c k hpos hle hr, ?_⟩
    rw [← List.append_assoc]
    exact hw'

/-- Whatever the line does to the polls, and whatever the calls report: the device carries
out the commands of the first so many calls, in order, each once at least and never more
often than a call may try; and its registers, if it takes every command, are those that
these calls alone would have left. -/
theorem device_follows_calls (dev : Device δ) (delays : ℕ → Delay) (ho : ctl.Operable)
    (hq : l.toDevice = []) (calls : List RegisterCommand) :
    let after := (exec (call dev delays) (ctl, l) calls).2
    ∃ count ≤ calls.length, ∃ done,
      Repeats ctl.attempts.toNatClampNeg (calls.take count) done ∧
      after.answered.map Prod.fst = l.answered.map Prod.fst ++ done ∧
      after.device = dev.run l.device done ∧
      ∀ regs, dev.KeepsRegisters regs → dev.Executes → (∀ c ∈ calls, c.Plain) →
        regs after.device = exec RegisterCommand.store (regs l.device) (calls.take count) := by
  intro after
  obtain ⟨log, hr, done, pending, hs, -, ha, hd⟩ :=
    calls_issue delays ho (Wrote.refl hq) calls
  rw [List.nil_append] at hs
  obtain ⟨count, hcount, hdone⟩ := hr.of_prefix ⟨pending, hs.symm⟩
  refine ⟨count, hcount, done, hdone, ha, hd, fun regs hk he hplain ↦ ?_⟩
  have hmem : ∀ c ∈ done, c.Plain := by
    intro c hc
    exact hplain c (List.mem_of_mem_take (hdone.mem hc))
  rw [hd, hk.run he _ _ hmem, hdone.exec_eq RegisterCommand.store_store]

/-- On a line whose answers never arrive every call fails, and the registers are still those
of the first so many calls. -/
theorem device_follows_calls_silent :
    ∃ count ≤ 2, (exec (call bank fun _ ↦ ⟨1, 0⟩) fresh
        [.write 0x6514 80, .write 0x6518 35]).2.device =
      exec RegisterCommand.store (fun _ ↦ 0)
        ([.write 0x6514 80, .write 0x6518 35].take count) := by
  have ho : fresh.1.Operable := ⟨rfl, rfl⟩
  have hq : fresh.2.toDevice = [] := rfl
  obtain ⟨count, hcount, -, -, -, -, hregs⟩ := device_follows_calls bank (fun _ ↦ ⟨1, 0⟩) ho hq
    [.write 0x6514 80, .write 0x6518 35]
  exact ⟨count, hcount, hregs id bank_keeps bank_executes (by decide)⟩

end CompositeSensorController

end TriFusion.DeviceControl
