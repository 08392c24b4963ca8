import TriFusion.DeviceControl.SerialLink
import Mathlib.Tactic.IntervalCases

namespace TriFusion.DeviceControl

open Foundation Hardware Library Library.Words CompositeSensorCommandBuilder
  CompositeSensorCommandParser CompositeSensorController

namespace RegisterCommand

def ackFormat (c : RegisterCommand) : Records.Format Reply UInt8 where
  encode := c.ack
  width := c.ackBytes
  width_pos := by cases c <;> exact Nat.succ_pos _
  length_encode := length_ack c

def Accepts (c : RegisterCommand) (bytes : List UInt8) : Prop :=
  ∃ data, bytes = c.ack ⟨true, data⟩

theorem read_ack_bytes (address : UInt16) (r : Reply) :
    ∃ s d₁ d₂ c₁ c₂, (s = 0x58 ∨ s = 0x4B) ∧ ack (.read address) r =
      [0x55, 0xAA, 0x00, 0x08, 0x5A, 0xF8, s, s, d₁, d₂, c₁, c₂] := by
  have hw : line [kHeader, kReadAckLength, 0x5AF8] = [0x55, 0xAA, 0x00, 0x08, 0x5A, 0xF8] := by
    decide
  have hs : wordBytes r.status = [0x58, 0x58] ∨ wordBytes r.status = [0x4B, 0x4B] := by
    have he : wordBytes CompositeSensorStatusWord.executableWord = [0x58, 0x58] := by decide
    have hr : wordBytes CompositeSensorStatusWord.rejectedWord = [0x4B, 0x4B] := by decide
    obtain ⟨accepted, data⟩ := r
    cases accepted with
    | true => exact .inl he
    | false => exact .inr hr
  have ha : ack (.read address) r = line [kHeader, kReadAckLength, 0x5AF8] ++
      (wordBytes r.status ++ line [r.data, kReadAckLength + 0x5AF8 + r.status + r.data]) := rfl
  rcases hs with hs | hs
  · exact ⟨0x58, _, _, _, _, .inl rfl, by rw [ha, hw, hs]; rfl⟩
  · exact ⟨0x4B, _, _, _, _, .inr rfl, by rw [ha, hw, hs]; rfl⟩

theorem write_ack_bytes (address value : UInt16) (r : Reply) :
    ack (.write address value) r =
      if r.accepted then [0x55, 0xAA, 0x00, 0x06, 0x5A, 0xF9, 0x58, 0x58, 0xB3, 0x57]
      else [0x55, 0xAA, 0x00, 0x06, 0x5A, 0xF9, 0x4B, 0x4B, 0xA6, 0x4A] := by
  have he : line (writeAckWords CompositeSensorStatusWord.executableWord) =
      [0x55, 0xAA, 0x00, 0x06, 0x5A, 0xF9, 0x58, 0x58, 0xB3, 0x57] := by decide
  have hr : line (writeAckWords CompositeSensorStatusWord.rejectedWord) =
      [0x55, 0xAA, 0x00, 0x06, 0x5A, 0xF9, 0x4B, 0x4B, 0xA6, 0x4A] := by decide
  obtain ⟨accepted, data⟩ := r
  cases accepted with
  | true => exact he
  | false => exact hr

theorem accepts_synchronises (c : RegisterCommand) : c.ackFormat.Synchronises c.Accepts := by
  rintro a b position hpos hlt ⟨data, he⟩
  simp only [ackFormat] at he hlt
  cases c with
  | read address =>
    have hp : position < 12 := hlt
    obtain ⟨s, d₁, d₂, c₁, c₂, hs, ha⟩ := read_ack_bytes address a
    obtain ⟨s', d₁', d₂', c₁', c₂', hs', hb⟩ := read_ack_bytes address b
    obtain ⟨s'', d₁'', d₂'', c₁'', c₂'', hs'', hx⟩ := read_ack_bytes address ⟨true, data⟩
    rw [ha, hb, hx] at he
    rcases hs with rfl | rfl <;> interval_cases position <;> simp at he
  | write address value =>
    have hp : position < 10 := hlt
    obtain ⟨accepted, d⟩ := a
    rw [write_ack_bytes, write_ack_bytes address value ⟨true, data⟩, write_ack_bytes] at he
    cases accepted <;> interval_cases position <;> simp at he

theorem read_ack_inj {address data : UInt16} {r : Reply}
    (h : ack (.read address) r = ack (.read address) ⟨true, data⟩) : r = ⟨true, data⟩ := by
  obtain ⟨accepted, d⟩ := r
  have hw := congrArg words h
  simp only [ack, words_line, readAckWords, List.cons.injEq, true_and] at hw
  obtain ⟨hs, hd, -⟩ := hw
  cases accepted with
  | true => rw [hd]
  | false => simp [Reply.status, CompositeSensorStatusWord.executableWord,
      CompositeSensorStatusWord.rejectedWord] at hs

theorem write_ack_inj {address value data : UInt16} {r : Reply}
    (h : ack (.write address value) r = ack (.write address value) ⟨true, data⟩) :
    r.accepted = true := by
  obtain ⟨accepted, d⟩ := r
  cases accepted with
  | true => rfl
  | false =>
    rw [write_ack_bytes, write_ack_bytes] at h
    simp at h

end RegisterCommand

namespace Link

variable {δ : Type} (dev : Device δ) (delays : ℕ → Delay) {C : RegisterCommand → Prop}
  {l₀ l : Link δ}

/-- No command of an earlier call is unanswered and no ACK byte of one is unread. -/
structure Idle (l : Link δ) : Prop where
  answered : l.toDevice = []
  arrived : l.inFlight = []
  read : l.arrived = []

/-- The last ACK read is the reply to a command written after `l₀`. -/
def Answers (l₀ l : Link δ) (c : RegisterCommand) (r : Reply) : Prop :=
  ∃ k, l₀.written ≤ k ∧ l.answered[k]? = some (c, r) ∧
    l.consumed = ((l.answered.take (k + 1)).flatMap fun a ↦ a.1.ack a.2).length

theorem Idle.since (hi : l.Idle) (h : Since C l₀ l) (D : RegisterCommand → Prop) :
    Since D l l := by
  obtain ⟨cs, hd, hw, -⟩ := h.pending
  refine ⟨h.unread, h.consumed_le, le_rfl, ⟨[], hi.answered, ?_, by simp⟩, [],
    (List.append_nil _).symm, by simp⟩
  have hcs : cs = [] := by
    cases cs with
    | nil => rfl
    | cons c cs =>
      rw [hi.answered, List.flatMap_cons] at hd
      exact absurd (List.append_eq_nil_iff.mp hd.symm).1 c.frame_ne_nil
  rw [hw, hcs]

theorem Idle.written (hi : l.Idle) (h : Since C l₀ l) : l.written = l.answered.length := by
  obtain ⟨cs, hd, hw, hcs⟩ := (hi.since h fun _ ↦ False).pending
  cases cs with
  | nil => exact hw
  | cons c cs => exact (hcs c List.mem_cons_self).elim

theorem Idle.consumed (hi : l.Idle) (h : Since C l₀ l) : l.consumed = l.acks.length := by
  have hu := congrArg List.length h.unread
  have hle := h.consumed_le
  rw [hi.arrived, hi.read, List.length_drop, List.append_nil, List.length_nil] at hu
  omega

def Taken (start : ℕ) (out : List UInt8) (l : Link δ) : Prop :=
  out = (l.acks.drop start).take out.length ∧ l.consumed = start + out.length

theorem Taken.wait {start : ℕ} {out : List UInt8} (h : Taken start out l) (hs : Since C l₀ l) :
    Taken start out (l.wait dev delays) := by
  obtain ⟨hout, hc⟩ := h
  obtain ⟨more, hm⟩ := ((hs.refl).wait dev delays).acks_grow
  have hle := hs.consumed_le
  refine ⟨?_, (wait_consumed dev delays l).trans hc⟩
  rw [← hm, List.drop_append_of_le_length (by omega), List.take_append_of_le_length, ← hout]
  rw [List.length_drop]
  omega

theorem Taken.receive {start : ℕ} {out : List UInt8} (h : Taken start out l) (hs : Since C l₀ l)
    (n : ℕ) : Taken start (out ++ l.arrived.take n) (l.receive n) := by
  obtain ⟨hout, hc⟩ := h
  have hu := hs.unread
  have hchunk : l.arrived.take n = (l.acks.drop l.consumed).take (l.arrived.take n).length := by
    rw [hu, List.take_append_of_le_length (List.length_take_le' n l.arrived), List.length_take,
      ← List.take_eq_take_min]
  refine ⟨?_, ?_⟩
  · have ha : (l.receive n).acks = l.acks := rfl
    rw [ha, List.length_append, List.take_add, ← hout, List.drop_drop, ← hc, ← hchunk]
  · simp only [Link.receive, List.length_append, hc, Nat.add_assoc]

theorem readExactLoop_taken {start : ℕ} {out : List UInt8} {l : Link δ} (hs : Since C l₀ l)
    (ht : Taken start out l) (isOpen : Bool) (timeoutMs : Int32) (missing : ℕ) :
    Since C l₀ (readExactLoop (tty dev delays) isOpen timeoutMs missing out l).2 ∧
      ∀ bytes, (readExactLoop (tty dev delays) isOpen timeoutMs missing out l).1 = .ok bytes →
        bytes.length = out.length + missing ∧
          Taken start bytes (readExactLoop (tty dev delays) isOpen timeoutMs missing out l).2 := by
  induction missing using Nat.strong_induction_on generalizing out l with
  | _ missing ih =>
    rw [readExactLoop]
    by_cases hz : missing = 0
    · rw [if_pos hz]
      refine ⟨hs, ?_⟩
      rintro bytes ⟨⟩
      exact ⟨by omega, ht⟩
    · rw [if_neg hz]
      cases isOpen with
      | false => exact ⟨hs, fun bytes he ↦ (nomatch he)⟩
      | true =>
        have hw := hs.wait dev delays
        have htw := ht.wait dev delays hs
        rw [readBytes_tty dev delays timeoutMs hz]
        by_cases ha : (l.wait dev delays).arrived = []
        · rw [if_pos ha]
          exact ⟨hw, fun bytes he ↦ (nomatch he)⟩
        · rw [if_neg ha]
          have hne : (l.wait dev delays).arrived.take missing ≠ [] := by
            rw [Ne, List.take_eq_nil_iff]
            exact fun h ↦ h.elim hz ha
          have hpos := List.length_pos_iff.mpr hne
          have hle := List.length_take_le missing (l.wait dev delays).arrived
          simp only [if_neg hne]
          obtain ⟨hs', hb⟩ := ih (missing - ((l.wait dev delays).arrived.take missing).length)
            (by omega) (hw.receive missing) (htw.receive hw missing)
          refine ⟨hs', fun bytes he ↦ ?_⟩
          obtain ⟨hlen, htb⟩ := hb bytes he
          refine ⟨?_, htb⟩
          rw [hlen, List.length_append]
          omega

/-- A whole ACK taken after an idle state answers a command written after it. -/
theorem Taken.answers {c : RegisterCommand} {start : ℕ} {bytes : List UInt8}
    (hw : l₀.written = l₀.answered.length) (hc : l₀.consumed = l₀.acks.length)
    (hs : Since (· = c) l₀ l) (hstart : l₀.consumed ≤ start) (ht : Taken start bytes l)
    (hlen : bytes.length = c.ackBytes) (ha : c.Accepts bytes) :
    ∃ r, Answers l₀ l c r ∧ bytes = c.ack r := by
  obtain ⟨new, hans, hnew⟩ := hs.answers
  obtain ⟨position, rfl⟩ := Nat.exists_eq_add_of_le hstart
  have hstream (as : List (RegisterCommand × Reply)) (h : ∀ a ∈ as, a.1 = c) :
      (as.flatMap fun a ↦ a.1.ack a.2) = c.ackFormat.stream (as.map Prod.snd) := by
    rw [Records.Format.stream, List.flatMap_map]
    exact List.flatMap_congr fun a hmem ↦ by rw [h a hmem]; rfl
  have hacks : l.acks = l₀.acks ++ c.ackFormat.stream (new.map Prod.snd) := by
    rw [acks, hans, List.flatMap_append, hstream new hnew]
    rfl
  have hwindow : c.ackFormat.window (new.map Prod.snd) position = bytes := by
    rw [ht.1, hlen, hacks, hc, List.drop_append, List.drop_of_length_le (by omega)]
    simp only [Nat.add_sub_cancel_left, List.nil_append]
    rfl
  have hle := hs.consumed_le
  have hfit : position + c.ackFormat.width ≤ (c.ackFormat.stream (new.map Prod.snd)).length := by
    have hwidth : c.ackFormat.width = c.ackBytes := rfl
    rw [ht.2, hacks, List.length_append, hlen] at hle
    omega
  obtain ⟨index, r, hr, hp, he⟩ := Records.window_aligned c.ackFormat c.accepts_synchronises _
    position hfit (hwindow ▸ ha)
  rw [List.getElem?_map, Option.map_eq_some_iff] at hr
  obtain ⟨⟨d, r⟩, hd, rfl⟩ := hr
  have hdc : d = c := hnew (d, r) (List.mem_of_getElem? hd)
  subst hdc
  refine ⟨r, ⟨l₀.answered.length + index, by omega, ?_, ?_⟩, hwindow.symm.trans he⟩
  · rw [hans, List.getElem?_append_right (by omega), Nat.add_sub_cancel_left, hd]
  · have htake : (new.take (index + 1)).length = index + 1 := by
      have hlt := (List.getElem?_eq_some_iff.mp hd).1
      rw [List.length_take]
      omega
    rw [hans, List.take_append, List.take_of_length_le (by omega), List.flatMap_append,
      List.length_append, Nat.add_assoc, Nat.add_sub_cancel_left,
      hstream _ (fun a hmem ↦ hnew a (List.mem_of_mem_take hmem)), Records.length_stream,
      List.length_map, htake, ht.2, hlen, hp, hc]
    simp only [acks, Nat.mul_succ, ← Nat.add_assoc]
    rfl

end Link

end TriFusion.DeviceControl
