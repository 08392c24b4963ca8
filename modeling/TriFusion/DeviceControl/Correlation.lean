import TriFusion.DeviceControl.AckStream
import TriFusion.Library.Runs

namespace TriFusion.DeviceControl

open Foundation Hardware Library.Runs CompositeSensorCommandBuilder CompositeSensorCommandParser

namespace CompositeSensorController

open Link

variable {δ : Type} (dev : Device δ) (delays : ℕ → Delay) {l₀ l : Link δ}

/-- A call is open on an idle link: only command `c` has been written since. -/
structure Calling (c : RegisterCommand) (l₀ l : Link δ) : Prop where
  written : l₀.written = l₀.answered.length
  consumed : l₀.consumed = l₀.acks.length
  since : Since (· = c) l₀ l

theorem exchange_answers {c : RegisterCommand} {timeoutMs : Int32} {result : Result (List UInt8)}
    {l' : Link δ} (h : Calling c l₀ l)
    (he : readExact (tty dev delays) true c.ackBytes timeoutMs (l.send c.frame) = (result, l')) :
    Calling c l₀ l' ∧ ∀ bytes, result = .ok bytes → c.Accepts bytes →
      ∃ r, bytes = c.ack r ∧ Answers l₀ l' c r := by
  have ht : Taken l.consumed [] (l.send c.frame) := ⟨by simp, rfl⟩
  have hloop := readExactLoop_taken dev delays (h.since.send rfl) ht true timeoutMs c.ackBytes
  rw [← readExact, he] at hloop
  obtain ⟨hs, hb⟩ := hloop
  refine ⟨⟨h.written, h.consumed, hs⟩, fun bytes hr ha ↦ ?_⟩
  obtain ⟨hlen, htb⟩ := hb bytes hr
  have hlen' : bytes.length = c.ackBytes := by simpa using hlen
  obtain ⟨r, hans, hbr⟩ := htb.answers h.written h.consumed hs h.since.consumed_ge hlen' ha
  exact ⟨r, hbr, hans⟩

theorem sendReadOnce_answers {ctl : CompositeSensorController} {address : UInt16}
    {result : Result CompositeSensorAck} {l' : Link δ} (h : Calling (.read address) l₀ l)
    (he : sendReadOnce (tty dev delays) ctl (RegisterCommand.read address).frame l =
      (result, l')) :
    Calling (.read address) l₀ l' ∧
      ∀ ack, result = .ok ack → Answers l₀ l' (.read address) ⟨true, ack.data⟩ := by
  cases hopen : ctl.portOpen with
  | false =>
    simp only [sendReadOnce, SerialPort.writeBytes, hopen, Bool.not_false, ↓reduceIte,
      Result.fail, Prod.mk.injEq] at he
    obtain ⟨rfl, rfl⟩ := he
    exact ⟨h, by rintro ack ⟨⟩⟩
  | true =>
    cases hx : readExact (tty dev delays) true kReadAckBytes ctl.config.timeoutMs
        (l.send (RegisterCommand.read address).frame) with
    | mk received l'' =>
      obtain ⟨hc, hb⟩ := exchange_answers dev delays h hx
      simp only [sendReadOnce, hopen, writeBytes_tty, hx] at he
      cases received with
      | error e =>
        obtain ⟨rfl, rfl⟩ := Prod.mk.inj he
        exact ⟨hc, by rintro ack ⟨⟩⟩
      | ok bytes =>
        obtain ⟨rfl, rfl⟩ := Prod.mk.inj he
        refine ⟨hc, fun ack hr ↦ ?_⟩
        obtain ⟨data, hbytes, rfl⟩ := parseReadRegisterAck_ok_iff.mp hr
        obtain ⟨r, hbr, hans⟩ := hb bytes rfl ⟨data, hbytes⟩
        have hrd : r = ⟨true, data⟩ := RegisterCommand.read_ack_inj (hbr.symm.trans hbytes)
        exact hrd ▸ hans

theorem sendWriteOnce_answers {ctl : CompositeSensorController} {address value : UInt16}
    {result : Result Unit} {l' : Link δ} (hack : ctl.ackRequired = true)
    (h : Calling (.write address value) l₀ l)
    (he : sendWriteOnce (tty dev delays) ctl (RegisterCommand.write address value).frame l =
      (result, l')) :
    Calling (.write address value) l₀ l' ∧
      ∀ u, result = .ok u → ∃ data, Answers l₀ l' (.write address value) ⟨true, data⟩ := by
  cases hopen : ctl.portOpen with
  | false =>
    simp only [sendWriteOnce, SerialPort.writeBytes, hopen, Bool.not_false, ↓reduceIte,
      Result.fail, Prod.mk.injEq] at he
    obtain ⟨rfl, rfl⟩ := he
    exact ⟨h, by rintro u ⟨⟩⟩
  | true =>
    cases hx : readExact (tty dev delays) true kWriteAckBytes ctl.config.timeoutMs
        (l.send (RegisterCommand.write address value).frame) with
    | mk received l'' =>
      obtain ⟨hc, hb⟩ := exchange_answers dev delays h hx
      simp only [sendWriteOnce, hopen, writeBytes_tty, hx, hack, Bool.not_true, Bool.false_and,
        Bool.false_eq_true, ↓reduceIte] at he
      cases received with
      | error e =>
        obtain ⟨rfl, rfl⟩ := Prod.mk.inj he
        exact ⟨hc, by rintro u ⟨⟩⟩
      | ok bytes =>
        cases hp : parseWriteRegisterAck bytes with
        | error e =>
          simp only [hp] at he
          obtain ⟨rfl, rfl⟩ := Prod.mk.inj he
          exact ⟨hc, by rintro u ⟨⟩⟩
        | ok ack =>
          simp only [hp] at he
          obtain ⟨rfl, rfl⟩ := Prod.mk.inj he
          refine ⟨hc, fun u hr ↦ ?_⟩
          have hbytes : bytes = (RegisterCommand.write address value).ack ⟨true, 0⟩ :=
            (parseWriteRegisterAck_ok_iff.mp hp).1
          obtain ⟨⟨accepted, data⟩, hbr, hans⟩ := hb bytes rfl ⟨0, hbytes⟩
          have hrd : accepted = true := RegisterCommand.write_ack_inj (hbr.symm.trans hbytes)
          exact ⟨data, hrd ▸ hans⟩

theorem readRegister_answers {ctl ctl' : CompositeSensorController} {address : UInt16}
    {result : Result UInt16} {l' : Link δ} (h : Calling (.read address) l₀ l)
    (he : readRegister (tty dev delays) address ctl l = (result, ctl', l')) :
    ctl'.ackRequired = ctl.ackRequired ∧ Calling (.read address) l₀ l' ∧
      ∀ v, result = .ok v → Answers l₀ l' (.read address) ⟨true, v⟩ := by
  cases hr : ctl.ensureReady with
  | error e =>
    simp only [readRegister, hr, Prod.mk.injEq] at he
    obtain ⟨rfl, rfl, rfl⟩ := he
    exact ⟨rfl, h, by rintro v ⟨⟩⟩
  | ok u =>
    cases hb : ctl.builderReady with
    | false =>
      simp only [readRegister, hr, buildReadRegister, hb, Bool.not_false, ↓reduceIte, Result.fail,
        Prod.mk.injEq] at he
      obtain ⟨rfl, rfl, rfl⟩ := he
      exact ⟨rfl, h, by rintro v ⟨⟩⟩
    | true =>
      cases hx : sendReadCommandWithRetry (tty dev delays) ctl
          (RegisterCommand.read address).frame l with
      | mk sent l'' =>
        obtain ⟨hc, hans⟩ := retryLoop_spec
          (fun _ _ _ hi hs ↦ sendReadOnce_answers dev delays hi hs) _ _ h hx
        simp only [readRegister, hr, hb, RegisterCommand.buildReadRegister_frame, hx] at he
        cases sent with
        | error e =>
          simp only [Prod.mk.injEq] at he
          obtain ⟨rfl, rfl, rfl⟩ := he
          exact ⟨rfl, hc, by rintro v ⟨⟩⟩
        | ok ack =>
          simp only [Prod.mk.injEq] at he
          obtain ⟨rfl, rfl, rfl⟩ := he
          refine ⟨rfl, hc, fun v hv ↦ ?_⟩
          obtain rfl := Except.ok.inj hv
          exact hans ack rfl

theorem writeRegister_answers {ctl ctl' : CompositeSensorController} {address value : UInt16}
    {result : Result Unit} {l' : Link δ} (hack : ctl.ackRequired = true)
    (h : Calling (.write address value) l₀ l)
    (he : writeRegister (tty dev delays) address value ctl l = (result, ctl', l')) :
    ctl'.ackRequired = ctl.ackRequired ∧ Calling (.write address value) l₀ l' ∧
      (result = .ok () → ∃ data, Answers l₀ l' (.write address value) ⟨true, data⟩) := by
  cases hr : ctl.ensureReady with
  | error e =>
    simp only [writeRegister, hr, Prod.mk.injEq] at he
    obtain ⟨rfl, rfl, rfl⟩ := he
    exact ⟨rfl, h, by rintro ⟨⟩⟩
  | ok u =>
    cases hb : ctl.builderReady with
    | false =>
      simp only [writeRegister, hr, buildWriteRegister, hb, Bool.not_false, ↓reduceIte,
        Result.fail, Prod.mk.injEq] at he
      obtain ⟨rfl, rfl, rfl⟩ := he
      exact ⟨rfl, h, by rintro ⟨⟩⟩
    | true =>
      cases hx : sendWriteCommandWithRetry (tty dev delays) ctl
          (RegisterCommand.write address value).frame l with
      | mk sent l'' =>
        obtain ⟨hc, hans⟩ := retryLoop_spec
          (fun _ _ _ hi hs ↦ sendWriteOnce_answers dev delays hack hi hs) _ _ h hx
        simp only [writeRegister, hr, hb, RegisterCommand.buildWriteRegister_frame, hx] at he
        cases sent with
        | error e =>
          simp only [Prod.mk.injEq] at he
          obtain ⟨rfl, rfl, rfl⟩ := he
          exact ⟨rfl, hc, by rintro ⟨⟩⟩
        | ok u =>
          simp only [Prod.mk.injEq] at he
          obtain ⟨rfl, rfl, rfl⟩ := he
          exact ⟨rfl, hc, fun _ ↦ hans () rfl⟩

def call (s : CompositeSensorController × Link δ) :
    RegisterCommand → CompositeSensorController × Link δ
  | .read address => (readRegister (tty dev delays) address s.1 s.2).2
  | .write address value => (writeRegister (tty dev delays) address value s.1 s.2).2

/-- A call that succeeds returns what the device answered to a command sent in it. -/
def Correlated (s : CompositeSensorController × Link δ) (c : RegisterCommand) : Prop :=
  match c with
  | .read address => ∀ v, (readRegister (tty dev delays) address s.1 s.2).1 = .ok v →
      Answers s.2 (call dev delays s c).2 c ⟨true, v⟩
  | .write address value => (writeRegister (tty dev delays) address value s.1 s.2).1 = .ok () →
      ∃ data, Answers s.2 (call dev delays s c).2 c ⟨true, data⟩

theorem call_correlated {d : δ} {s : CompositeSensorController × Link δ} (c : RegisterCommand)
    (hs : s.1.ackRequired = true ∧ Since (fun _ ↦ True) { device := d } s.2) (hi : s.2.Idle) :
    ((call dev delays s c).1.ackRequired = true ∧
      Since (fun _ ↦ True) { device := d } (call dev delays s c).2) ∧
      Correlated dev delays s c := by
  obtain ⟨ctl, l⟩ := s
  obtain ⟨hack, hs⟩ := hs
  have hcall (c : RegisterCommand) : Calling c l l :=
    ⟨hi.written hs, hi.consumed hs, hi.since hs _⟩
  cases c with
  | read address =>
    rcases hr : readRegister (tty dev delays) address ctl l with ⟨result, ctl', l'⟩
    obtain ⟨ha, hc, hans⟩ := readRegister_answers dev delays (hcall (.read address)) hr
    simp only [Correlated, call, hr]
    exact ⟨⟨ha.trans hack, hs.trans (fun _ _ ↦ trivial) hc.since⟩, hans⟩
  | write address value =>
    rcases hr : writeRegister (tty dev delays) address value ctl l with ⟨result, ctl', l'⟩
    obtain ⟨ha, hc, hans⟩ := writeRegister_answers dev delays hack (hcall (.write address value)) hr
    simp only [Correlated, call, hr]
    exact ⟨⟨ha.trans hack, hs.trans (fun _ _ ↦ trivial) hc.since⟩, hans⟩

theorem since_fresh {C : RegisterCommand → Prop} (d : δ) :
    Since C ({ device := d } : Link δ) { device := d } :=
  ⟨rfl, le_rfl, le_rfl, ⟨[], rfl, rfl, by simp⟩, [], rfl, by simp⟩

theorem calls_correlated (ctl : CompositeSensorController) (hack : ctl.ackRequired = true) (d : δ)
    (calls : List RegisterCommand)
    (hidle : Along (call dev delays) (fun s _ ↦ s.2.Idle) (ctl, { device := d }) calls) :
    Along (call dev delays) (Correlated dev delays) (ctl, { device := d }) calls := by
  have hstep (s : CompositeSensorController × Link δ) (c : RegisterCommand)
      (hs : s.1.ackRequired = true ∧ Since (fun _ ↦ True) { device := d } s.2) (hi : s.2.Idle) :=
    call_correlated dev delays c hs hi
  exact hidle.transfer hstep ⟨hack, since_fresh d⟩

def echo : Device Unit where
  execute c _ :=
    match c with
    | .read address => (⟨true, address⟩, ())
    | .write _ _ => (⟨true, 0⟩, ())

def opened : CompositeSensorController where
  config := { enable := true, retryCount := 0 }
  portOpen := true
  builderReady := true
  state := { initialized := true, serialOnline := true }

theorem calls_correlated_prompt :
    Along (call echo fun _ ↦ ⟨1, 12⟩) (Correlated echo fun _ ↦ ⟨1, 12⟩)
      (opened, { device := () }) [.read 0x6500, .write 0x6500 3, .read 0x6504] := by
  refine calls_correlated echo _ opened rfl () _ ⟨⟨rfl, rfl, rfl⟩, ?_, ?_, trivial⟩
  · exact ⟨by decide +kernel, by decide +kernel, by decide +kernel⟩
  · exact ⟨by decide +kernel, by decide +kernel, by decide +kernel⟩

theorem first_bytes_taken {C : RegisterCommand → Prop} (hs : Since C l₀ l) (timeoutMs : Int32)
    {n : ℕ} (hn : n ≠ 0) (hunread : n ≤ (l.arrived ++ l.inFlight).length)
    (harrive : n ≤ l.arrived.length + (delays l.clock).arrives) :
    readExact (tty dev delays) true n timeoutMs l =
      (.ok ((l.arrived ++ l.inFlight).take n), (l.wait dev delays).receive n) := by
  have hx := hs.refl.executeMany dev (delays l.clock).executes
  have hw := hs.refl.wait dev delays
  obtain ⟨more, hmore⟩ := hw.acks_grow
  have hgrow := hx.acks_grow.length_le
  have hxu := congrArg List.length hx.unread
  have hlu := congrArg List.length hs.unread
  have hle := hs.consumed_le
  simp only [List.length_drop, List.length_append, executeMany_arrived,
    executeMany_consumed] at hxu hlu hunread
  have hlen : n ≤ (l.wait dev delays).arrived.length := by
    simp only [Link.wait, Link.arrive, executeMany_arrived, List.length_append, List.length_take]
    omega
  have hbytes : (l.wait dev delays).arrived.take n = (l.arrived ++ l.inFlight).take n := by
    have hu := hw.unread
    rw [wait_consumed, ← hmore, List.drop_append_of_le_length hle, hs.unread] at hu
    have htake := congrArg (List.take n) hu
    rw [List.take_append_of_le_length hlen, List.take_append_of_le_length] at htake
    · exact htake.symm
    · rw [List.length_append]
      omega
  have hne : (l.wait dev delays).arrived ≠ [] := by
    rintro he
    rw [he] at hlen
    exact hn (Nat.le_zero.mp hlen)
  have htaken : ((l.wait dev delays).arrived.take n).length = n := by
    rw [List.length_take]
    omega
  have hchunk : (l.wait dev delays).arrived.take n ≠ [] := by
    intro he
    rw [he] at htaken
    exact hn htaken.symm
  rw [readExact, readExactLoop, if_neg hn, readBytes_tty dev delays timeoutMs hn, if_neg hne]
  simp only [if_neg hchunk, htaken, Nat.sub_self, List.nil_append]
  rw [readExactLoop, if_pos rfl, hbytes]

theorem readRegister_unread {ctl : CompositeSensorController}
    {address v : UInt16} (hs : Since (fun _ ↦ True) l₀ l) (hready : ctl.isReady = true)
    (hbuilder : ctl.builderReady = true)
    (hstale : (l.arrived ++ l.inFlight).take kReadAckBytes =
      (RegisterCommand.read address).ack ⟨true, v⟩)
    (harrive : kReadAckBytes ≤ l.arrived.length + (delays l.clock).arrives) :
    readRegister (tty dev delays) address ctl l = (.ok v, ctl.clearLastError,
      ((l.send (RegisterCommand.read address).frame).wait dev delays).receive kReadAckBytes) := by
  have hopen := portOpen_of_isReady hready
  have hlen := congrArg List.length hstale
  rw [RegisterCommand.length_ack, List.length_take, RegisterCommand.ackBytes] at hlen
  have hsent : Since (fun _ ↦ True) l₀ (l.send (RegisterCommand.read address).frame) :=
    hs.send trivial
  have hread := first_bytes_taken dev delays hsent ctl.config.timeoutMs
    (by decide : kReadAckBytes ≠ 0) (by simp only [Link.send]; omega) harrive
  have hparse : parseReadRegisterAck ((RegisterCommand.read address).ack ⟨true, v⟩) =
      .ok (readAck v) := parseReadRegisterAck_ok_iff.mpr ⟨v, rfl, rfl⟩
  have hsend : sendReadOnce (tty dev delays) ctl (RegisterCommand.read address).frame l =
      (.ok (readAck v),
        ((l.send (RegisterCommand.read address).frame).wait dev delays).receive kReadAckBytes) := by
    simp only [sendReadOnce, hopen, writeBytes_tty, hread]
    exact congrArg (·, _) ((congrArg parseReadRegisterAck hstale).trans hparse)
  obtain ⟨n, hn⟩ := Nat.exists_eq_add_of_lt ctl.attempts_pos
  rw [Nat.zero_add] at hn
  simp only [readRegister, ensureReady_of_isReady hready, hbuilder,
    RegisterCommand.buildReadRegister_frame, sendReadCommandWithRetry, hn, retryLoop, hsend]
  rfl

/-- An ACK left over by an earlier call is taken for the answer of the current one. -/
theorem unread_ack_taken {ctl : CompositeSensorController}
    {address v : UInt16} (hs : Since (fun _ ↦ True) l₀ l) (hready : ctl.isReady = true)
    (hbuilder : ctl.builderReady = true)
    (hstale : (l.arrived ++ l.inFlight).take kReadAckBytes =
      (RegisterCommand.read address).ack ⟨true, v⟩)
    (harrive : kReadAckBytes ≤ l.arrived.length + (delays l.clock).arrives) :
    ¬ Correlated dev delays (ctl, l) (.read address) := by
  have hcall := readRegister_unread dev delays hs hready hbuilder hstale harrive
  intro hcor
  have hans := hcor v (congrArg Prod.fst hcall)
  rw [call, hcall] at hans
  obtain ⟨k, hk, hget, hconsumed⟩ := hans
  dsimp only at hk hget hconsumed
  have hsent : Since (fun _ ↦ True) l (l.send (RegisterCommand.read address).frame) :=
    hs.refl.send trivial
  obtain ⟨new, hnew, -⟩ := ((hsent.wait dev delays).receive kReadAckBytes).answers
  obtain ⟨cs, -, hw, -⟩ := hs.pending
  have hlen := congrArg List.length hstale
  have hu := congrArg List.length hs.unread
  rw [RegisterCommand.length_ack, List.length_take, RegisterCommand.ackBytes] at hlen
  rw [List.length_drop] at hu
  have hacks : l.acks.length ≤
      ((l.answered ++ new.take (k - l.answered.length)).flatMap fun a ↦ a.1.ack a.2).length := by
    rw [List.flatMap_append, List.length_append]
    exact Nat.le_add_right _ _
  have hle : (((l.send (RegisterCommand.read address).frame).wait dev delays).receive
      kReadAckBytes).consumed ≤ l.consumed + kReadAckBytes := by
    simp only [Link.receive, wait_consumed, Link.send, List.length_take]
    omega
  have hpos : 0 < kReadAckBytes := by decide
  have hk' : l.answered.length ≤ k := by omega
  rw [List.take_add_one, hget, Option.toList_some, hnew, List.take_append,
    List.take_of_length_le hk', List.flatMap_append, List.length_append,
    List.flatMap_singleton, RegisterCommand.length_ack, RegisterCommand.ackBytes] at hconsumed
  omega

def late : ℕ → Delay
  | 0 => ⟨1, 0⟩
  | _ => ⟨0, 12⟩

theorem late_ack_taken :
    ¬ ∀ (δ : Type) (dev : Device δ) (delays : ℕ → Delay) (ctl : CompositeSensorController) (d : δ)
      (calls : List RegisterCommand), ctl.ackRequired = true → ctl.isReady = true →
      Along (call dev delays) (Correlated dev delays) (ctl, { device := d }) calls := by
  intro h
  have hrun := h Unit echo late opened () [.read 0x6500, .read 0x6504] rfl rfl
  have hfresh : opened.ackRequired = true ∧
      Since (fun _ ↦ True) ({ device := () } : Link Unit) { device := () } := ⟨rfl, since_fresh ()⟩
  have hsince := (call_correlated echo late (s := (opened, _)) (.read 0x6500) hfresh
    ⟨rfl, rfl, rfl⟩).1.2
  have hready : (call echo late (opened, { device := () }) (.read 0x6500)).1.isReady = true := by
    decide +kernel
  have hbuilder : (call echo late (opened, { device := () }) (.read 0x6500)).1.builderReady =
      true := by decide +kernel
  have hstale : ((call echo late (opened, { device := () }) (.read 0x6500)).2.arrived ++
      (call echo late (opened, { device := () }) (.read 0x6500)).2.inFlight).take kReadAckBytes =
      (RegisterCommand.read 0x6504).ack ⟨true, 0x6500⟩ := by decide +kernel
  have harrive : kReadAckBytes ≤
      (call echo late (opened, { device := () }) (.read 0x6500)).2.arrived.length +
        (late (call echo late (opened, { device := () }) (.read 0x6500)).2.clock).arrives := by
    decide +kernel
  obtain ⟨-, hsecond, -⟩ := hrun
  generalize call echo late (opened, { device := () }) (.read 0x6500) = s
    at hsince hready hbuilder hstale harrive hsecond
  obtain ⟨ctl, l⟩ := s
  exact unread_ack_taken echo late hsince hready hbuilder hstale harrive hsecond

end CompositeSensorController

end TriFusion.DeviceControl
