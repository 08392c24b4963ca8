import TriFusion.Library.Records
import TriFusion.DeviceControl.Controller

namespace TriFusion.DeviceControl

open Foundation Hardware Library Library.Words CompositeSensorCommandBuilder
  CompositeSensorCommandParser

inductive RegisterCommand
  | read (address : UInt16)
  | write (address value : UInt16)
  deriving DecidableEq, Repr

/-- Whether the device took the command, and the data word of a read. -/
structure Reply where
  accepted : Bool
  data : UInt16
  deriving DecidableEq, Repr

namespace Reply

def status (r : Reply) : UInt16 :=
  if r.accepted then CompositeSensorStatusWord.executableWord
  else CompositeSensorStatusWord.rejectedWord

end Reply

namespace RegisterCommand

def frame : RegisterCommand → List UInt8
  | .read address => line [kHeader, kReadLength, 0x5AF8, address, kReadLength + 0x5AF8 + address]
  | .write address value =>
    line [kHeader, kWriteLength, 0x5AF9, address, value, kWriteLength + 0x5AF9 + address + value]

theorem buildReadRegister_frame (address : UInt16) :
    buildReadRegister true address = .ok (frame (.read address)) := buildReadRegister_ok address

theorem buildWriteRegister_frame (address value : UInt16) :
    buildWriteRegister true address value = .ok (frame (.write address value)) :=
  buildWriteRegister_ok address value

def decode (input : List UInt8) : Option (RegisterCommand × List UInt8) :=
  match words (input.take 10) with
  | [header, length, code, address, checksum] =>
    if header = kHeader ∧ length = kReadLength ∧ code = 0x5AF8 ∧
        checksum = kReadLength + 0x5AF8 + address then
      some (.read address, input.drop 10)
    else
      match words (input.take 12) with
      | [header, length, code, address, value, checksum] =>
        if header = kHeader ∧ length = kWriteLength ∧ code = 0x5AF9 ∧
            checksum = kWriteLength + 0x5AF9 + address + value then
          some (.write address value, input.drop 12)
        else none
      | _ => none
  | _ => none

def ack : RegisterCommand → Reply → List UInt8
  | .read _, r => line (readAckWords r.status r.data)
  | .write _ _, r => line (writeAckWords r.status)

theorem decode_frame (c : RegisterCommand) (rest : List UInt8) :
    decode (c.frame ++ rest) = some (c, rest) := by
  cases c with
  | read address =>
    have hl : (frame (.read address)).length = 10 := length_line _
    have ht : (frame (.read address) ++ rest).take 10 = frame (.read address) := by
      rw [← hl, List.take_left]
    have hd : (frame (.read address) ++ rest).drop 10 = rest := by rw [← hl, List.drop_left]
    unfold decode
    rw [ht, hd]
    simp only [frame, words_line, and_self, ↓reduceIte]
  | write address value =>
    have hl : (frame (.write address value)).length = 12 := length_line _
    have ht : (frame (.write address value) ++ rest).take 12 = frame (.write address value) := by
      rw [← hl, List.take_left]
    have hd : (frame (.write address value) ++ rest).drop 12 = rest := by rw [← hl, List.drop_left]
    have hs : (frame (.write address value) ++ rest).take 10 =
        line [kHeader, kWriteLength, 0x5AF9, address, value] := rfl
    have hne : kWriteLength ≠ kReadLength := by decide
    unfold decode
    rw [ht, hd, hs]
    simp only [frame, words_line, and_self, ↓reduceIte, hne, false_and, and_false]

theorem frame_ne_nil (c : RegisterCommand) : c.frame ≠ [] := by
  cases c with
  | read address => exact List.cons_ne_nil _ _
  | write address value => exact List.cons_ne_nil _ _

def ackBytes : RegisterCommand → ℕ
  | .read _ => kReadAckBytes
  | .write _ _ => kWriteAckBytes

theorem length_ack (c : RegisterCommand) (r : Reply) : (c.ack r).length = c.ackBytes := by
  cases c with
  | read address => exact length_line _
  | write address value => exact length_line _

end RegisterCommand

structure Device (δ : Type) where
  execute : RegisterCommand → δ → Reply × δ

/-- What the wire does before a poll is answered: commands the device carries
out, and bytes of its ACKs that arrive. -/
structure Delay where
  executes : ℕ
  arrives : ℕ
  deriving DecidableEq, Repr

/-- The device and the two byte lines. `written`, `answered` and `consumed` are
history: frames the controller wrote, commands the device answered, and bytes
the controller read. -/
structure Link (δ : Type) where
  device : δ
  toDevice : List UInt8 := []
  inFlight : List UInt8 := []
  arrived : List UInt8 := []
  clock : ℕ := 0
  written : ℕ := 0
  answered : List (RegisterCommand × Reply) := []
  consumed : ℕ := 0

namespace Link

variable {δ : Type} (dev : Device δ) (delays : ℕ → Delay)

def executeOne (l : Link δ) : Link δ :=
  match RegisterCommand.decode l.toDevice with
  | none => l
  | some (c, rest) =>
    let (reply, device) := dev.execute c l.device
    { l with
      device := device
      toDevice := rest
      inFlight := l.inFlight ++ c.ack reply
      answered := l.answered ++ [(c, reply)] }

def executeMany : ℕ → Link δ → Link δ
  | 0, l => l
  | n + 1, l => executeMany n (executeOne dev l)

def arrive (n : ℕ) (l : Link δ) : Link δ :=
  { l with arrived := l.arrived ++ l.inFlight.take n, inFlight := l.inFlight.drop n }

def send (bytes : List UInt8) (l : Link δ) : Link δ :=
  { l with toDevice := l.toDevice ++ bytes, written := l.written + 1 }

def wait (l : Link δ) : Link δ :=
  { arrive (delays l.clock).arrives (executeMany dev (delays l.clock).executes l) with
    clock := l.clock + 1 }

def receive (n : ℕ) (l : Link δ) : Link δ :=
  { l with arrived := l.arrived.drop n, consumed := l.consumed + (l.arrived.take n).length }

/-- The serial port of this link: writes are taken whole, a poll times out when
nothing has arrived, and a read takes what has. -/
def tty : Tty (Link δ) where
  write bytes l := (.ok bytes.length.toPNat', l.send bytes)
  poll _ l := (.ok (!(l.wait dev delays).arrived.isEmpty), l.wait dev delays)
  read n l := (.ok (l.arrived.take n), l.receive n)

@[simp] theorem executeOne_consumed (l : Link δ) :
    (l.executeOne dev).consumed = l.consumed := by
  unfold executeOne
  split <;> rfl

@[simp] theorem executeMany_consumed (n : ℕ) (l : Link δ) :
    (l.executeMany dev n).consumed = l.consumed := by
  induction n generalizing l with
  | zero => rfl
  | succ n ih => rw [executeMany, ih, executeOne_consumed]

@[simp] theorem executeOne_arrived (l : Link δ) : (l.executeOne dev).arrived = l.arrived := by
  unfold executeOne
  split <;> rfl

@[simp] theorem executeMany_arrived (n : ℕ) (l : Link δ) :
    (l.executeMany dev n).arrived = l.arrived := by
  induction n generalizing l with
  | zero => rfl
  | succ n ih => rw [executeMany, ih, executeOne_arrived]

@[simp] theorem wait_consumed (l : Link δ) : (l.wait dev delays).consumed = l.consumed :=
  executeMany_consumed dev _ l

theorem readBytes_tty (timeoutMs : Int32) {n : ℕ} (hn : n ≠ 0) (l : Link δ) :
    SerialPort.readBytes (tty dev delays) true n timeoutMs l =
      if (l.wait dev delays).arrived = [] then
        (.fail .serialReadTimeout "serial read timeout", l.wait dev delays)
      else (.ok ((l.wait dev delays).arrived.take n), (l.wait dev delays).receive n) := by
  have htt : ((l.wait dev delays).arrived.take n).take n = (l.wait dev delays).arrived.take n := by
    rw [List.take_take, Nat.min_self]
  unfold SerialPort.readBytes
  rw [if_neg (by decide), if_neg hn]
  by_cases ha : (l.wait dev delays).arrived = []
  · simp [tty, ha]
  · have he : (l.wait dev delays).arrived.isEmpty = false := by simpa using ha
    simp only [tty, he, Bool.not_false, htt, if_neg ha]

theorem writeBytes_tty (c : RegisterCommand) (l : Link δ) :
    SerialPort.writeBytes (tty dev delays) true c.frame l = (.ok (), l.send c.frame) := by
  have hlen : c.frame.length.toPNat' = c.frame.length := by
    rw [Nat.toPNat'_coe, if_pos (List.length_pos_iff.mpr c.frame_ne_nil)]
  unfold SerialPort.writeBytes
  rw [if_neg (by decide), if_neg c.frame_ne_nil, SerialPort.writeLoop, if_neg c.frame_ne_nil]
  simp only [tty, hlen, List.drop_length]
  rw [SerialPort.writeLoop, if_pos rfl]

def acks (l : Link δ) : List UInt8 := l.answered.flatMap fun a ↦ a.1.ack a.2

/-- The lines lose and reorder nothing, and since `l₀` only commands `C` were sent. -/
structure Since (C : RegisterCommand → Prop) (l₀ l : Link δ) : Prop where
  unread : l.acks.drop l.consumed = l.arrived ++ l.inFlight
  consumed_le : l.consumed ≤ l.acks.length
  consumed_ge : l₀.consumed ≤ l.consumed
  pending : ∃ cs : List RegisterCommand, l.toDevice = cs.flatMap RegisterCommand.frame ∧
    l.written = l.answered.length + cs.length ∧ ∀ c ∈ cs, C c
  answers : ∃ new, l.answered = l₀.answered ++ new ∧ ∀ a ∈ new, C a.1

variable {C : RegisterCommand → Prop} {l₀ l : Link δ}

theorem Since.refl (h : Since C l₀ l) : Since C l l :=
  ⟨h.unread, h.consumed_le, le_rfl, h.pending, [], (List.append_nil _).symm, by simp⟩

theorem Since.trans {D : RegisterCommand → Prop} {l₁ : Link δ} (hCD : ∀ c, C c → D c)
    (h₁ : Since D l₀ l₁) (h : Since C l₁ l) : Since D l₀ l := by
  obtain ⟨cs, hd, hw, hcs⟩ := h.pending
  obtain ⟨first, hf, hfirst⟩ := h₁.answers
  obtain ⟨new, ha, hnew⟩ := h.answers
  refine ⟨h.unread, h.consumed_le, h₁.consumed_ge.trans h.consumed_ge,
    ⟨cs, hd, hw, fun c hc ↦ hCD c (hcs c hc)⟩, first ++ new, ?_, ?_⟩
  · rw [ha, hf, List.append_assoc]
  · intro a hmem
    rcases List.mem_append.mp hmem with hmem | hmem
    · exact hfirst a hmem
    · exact hCD a.1 (hnew a hmem)

theorem Since.acks_grow (h : Since C l₀ l) : l₀.acks <+: l.acks := by
  obtain ⟨new, ha, -⟩ := h.answers
  rw [acks, acks, ha, List.flatMap_append]
  exact List.prefix_append _ _

theorem Since.send (h : Since C l₀ l) {c : RegisterCommand} (hc : C c) :
    Since C l₀ (l.send c.frame) := by
  obtain ⟨cs, hd, hw, hcs⟩ := h.pending
  refine ⟨h.unread, h.consumed_le, h.consumed_ge, ⟨cs ++ [c], ?_, ?_, ?_⟩, h.answers⟩
  · simp [Link.send, hd]
  · simp only [Link.send, hw, List.length_append, List.length_singleton, Nat.add_assoc]
  · intro b hb
    rcases List.mem_append.mp hb with hb | hb
    · exact hcs b hb
    · rw [List.mem_singleton.mp hb]; exact hc

theorem Since.executeOne (h : Since C l₀ l) : Since C l₀ (l.executeOne dev) := by
  obtain ⟨cs, hd, hw, hcs⟩ := h.pending
  cases cs with
  | nil =>
    have he : l.executeOne dev = l := by
      rw [Link.executeOne, hd]
      rfl
    rwa [he]
  | cons c cs =>
    obtain ⟨new, ha, hnew⟩ := h.answers
    have he : l.executeOne dev =
        { l with
          device := (dev.execute c l.device).2
          toDevice := cs.flatMap RegisterCommand.frame
          inFlight := l.inFlight ++ c.ack (dev.execute c l.device).1
          answered := l.answered ++ [(c, (dev.execute c l.device).1)] } := by
      rw [Link.executeOne, hd, List.flatMap_cons, RegisterCommand.decode_frame]
    rw [he]
    refine ⟨?_, ?_, h.consumed_ge, ⟨cs, rfl, ?_, fun b hb ↦ hcs b (List.mem_cons_of_mem c hb)⟩,
      ⟨new ++ [(c, (dev.execute c l.device).1)], ?_, ?_⟩⟩
    · have hu := h.unread
      have hle := h.consumed_le
      simp only [acks] at hu hle
      simp only [acks, List.flatMap_append, List.flatMap_singleton]
      rw [List.drop_append_of_le_length hle, hu, List.append_assoc]
    · have hle := h.consumed_le
      simp only [acks] at hle
      simp only [acks, List.flatMap_append, List.length_append]
      omega
    · simp only [hw, List.length_append, List.length_cons, List.length_nil]
      omega
    · simp only [ha, List.append_assoc]
    · intro a hmem
      rcases List.mem_append.mp hmem with hmem | hmem
      · exact hnew a hmem
      · rw [List.mem_singleton.mp hmem]
        exact hcs c List.mem_cons_self

theorem Since.executeMany (h : Since C l₀ l) (n : ℕ) : Since C l₀ (l.executeMany dev n) := by
  induction n generalizing l with
  | zero => exact h
  | succ n ih => exact ih (h.executeOne dev)

theorem Since.arrive (h : Since C l₀ l) (n : ℕ) : Since C l₀ (l.arrive n) := by
  refine ⟨?_, h.consumed_le, h.consumed_ge, h.pending, h.answers⟩
  have hu := h.unread
  simpa only [Link.arrive, acks, List.append_assoc, List.take_append_drop] using hu

theorem Since.wait (h : Since C l₀ l) : Since C l₀ (l.wait dev delays) := by
  have hw := (h.executeMany dev (delays l.clock).executes).arrive (delays l.clock).arrives
  exact ⟨hw.unread, hw.consumed_le, hw.consumed_ge, hw.pending, hw.answers⟩

theorem Since.receive (h : Since C l₀ l) (n : ℕ) : Since C l₀ (l.receive n) := by
  have hu := h.unread
  have hle := h.consumed_le
  have hge := h.consumed_ge
  have hlen := congrArg List.length hu
  simp only [acks, List.length_drop, List.length_append] at hu hle hlen
  have htake : (l.arrived.take n).length ≤ l.arrived.length := List.length_take_le' n l.arrived
  refine ⟨?_, ?_, ?_, h.pending, h.answers⟩
  · simp only [Link.receive, acks]
    rw [← List.drop_drop, hu, List.drop_append_of_le_length htake, List.length_take]
    congr 1
    rcases Nat.le_total n l.arrived.length with hn | hn
    · rw [Nat.min_eq_left hn]
    · rw [Nat.min_eq_right hn, List.drop_length, List.drop_of_length_le hn]
  · simp only [Link.receive, acks]
    omega
  · simp only [Link.receive]
    omega

end Link

end TriFusion.DeviceControl
