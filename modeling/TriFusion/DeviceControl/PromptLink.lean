import TriFusion.DeviceControl.AckStream

namespace TriFusion.DeviceControl

open Foundation Hardware Library CompositeSensorCommandBuilder CompositeSensorCommandParser
  CompositeSensorController

/-- A device that takes every command it is sent. -/
def Device.Executes {δ : Type} (dev : Device δ) : Prop :=
  ∀ c d, (dev.execute c d).1.accepted = true

namespace Link

variable {δ : Type} (dev : Device δ) (delays : ℕ → Delay) {l₀ l l' : Link δ}

/-- No poll ends before the device has carried out a command it was sent and a
byte of what it answered has arrived. -/
def Prompt : Prop := ∀ t, 0 < (delays t).executes ∧ 0 < (delays t).arrives

def unread (l : Link δ) : List UInt8 := l.arrived ++ l.inFlight

def answer (c : RegisterCommand) (l : Link δ) : Link δ := (l.send c.frame).executeOne dev

variable (l) in
def reply (c : RegisterCommand) : Reply := (dev.execute c l.device).1

theorem answer_eq (c : RegisterCommand) (hq : l.toDevice = []) :
    l.answer dev c =
      { l with
        device := (dev.execute c l.device).2
        inFlight := l.inFlight ++ c.ack (l.reply dev c)
        written := l.written + 1
        answered := l.answered ++ [(c, l.reply dev c)] } := by
  have hd : RegisterCommand.decode (l.send c.frame).toDevice = some (c, []) := by
    rw [send, hq, List.nil_append]
    exact (congrArg _ (List.append_nil _)).symm.trans (c.decode_frame [])
  rw [answer, executeOne, hd]
  simp only [send, hq, reply]

theorem executeOne_quiet (hq : l.toDevice = []) : l.executeOne dev = l := by
  rw [executeOne, hq]
  rfl

theorem executeMany_quiet (hq : l.toDevice = []) (n : ℕ) : l.executeMany dev n = l := by
  induction n with
  | zero => rfl
  | succ n ih => rw [executeMany, executeOne_quiet dev hq, ih]

theorem wait_quiet (hq : l.toDevice = []) :
    l.wait dev delays = { l.arrive (delays l.clock).arrives with clock := l.clock + 1 } := by
  rw [wait, executeMany_quiet dev hq]

variable (l) in
theorem unread_arrive (n : ℕ) : (l.arrive n).unread = l.unread := by
  rw [unread, unread, arrive, List.append_assoc, List.take_append_drop]

theorem wait_send {delays : ℕ → Delay} (hp : Prompt delays) (c : RegisterCommand)
    (hq : l.toDevice = []) :
    (l.send c.frame).wait dev delays = (l.answer dev c).wait dev delays := by
  have hquiet : (l.answer dev c).toDevice = [] := by rw [answer_eq dev c hq, hq]
  have hclock : (l.answer dev c).clock = l.clock := by rw [answer_eq dev c hq]
  obtain ⟨n, hn⟩ := Nat.exists_eq_add_one_of_ne_zero (hp l.clock).1.ne'
  have hexec : (l.send c.frame).executeMany dev (delays l.clock).executes = l.answer dev c := by
    rw [hn, executeMany]
    exact executeMany_quiet dev hquiet n
  rw [wait_quiet dev delays hquiet, hclock, wait]
  exact congrArg (fun x : Link δ ↦ { x.arrive (delays l.clock).arrives with clock := l.clock + 1 })
    hexec

/-- What one poll on a prompt link delivers of the unread bytes. -/
structure Piece (l : Link δ) (missing : ℕ) (chunk : List UInt8) (l' : Link δ) : Prop where
  ne_nil : chunk ≠ []
  length_le : chunk.length ≤ missing
  taken : chunk = l.unread.take chunk.length
  quiet : l'.toDevice = []
  answered : l'.answered = l.answered
  unread : l'.unread = l.unread.drop chunk.length

theorem wait_piece {delays : ℕ → Delay} (hp : Prompt delays) {missing : ℕ} (hz : missing ≠ 0)
    (hq : l.toDevice = []) (hle : missing ≤ l.unread.length) :
    Piece l missing ((l.wait dev delays).arrived.take missing)
      ((l.wait dev delays).receive missing) := by
  have hw := wait_quiet dev delays hq
  have hunread : (l.wait dev delays).unread = l.unread := by
    rw [hw]
    exact unread_arrive l _
  have hpos : 0 < (l.wait dev delays).arrived.length := by
    have harrive := (hp l.clock).2
    rw [unread, List.length_append] at hle
    simp only [hw, arrive, List.length_append, List.length_take]
    omega
  have hlen : ((l.wait dev delays).arrived.take missing).length =
      min missing (l.wait dev delays).arrived.length := List.length_take
  refine ⟨?_, ?_, ?_, ?_, ?_, ?_⟩
  · rw [Ne, List.take_eq_nil_iff]
    exact fun h ↦ h.elim hz (List.length_pos_iff.mp hpos)
  · omega
  · rw [← hunread, unread, List.take_append_of_le_length (by omega), hlen,
      ← List.take_eq_take_min]
  · rw [hw]
    exact hq
  · rw [hw]
    rfl
  · rw [← hunread, unread, unread, receive, List.drop_append_of_le_length (by omega), hlen]
    rcases Nat.le_total missing (l.wait dev delays).arrived.length with hm | hm
    · rw [Nat.min_eq_left hm]
    · rw [Nat.min_eq_right hm, List.drop_length, List.drop_of_length_le hm]

theorem readExactLoop_prompt {delays : ℕ → Delay} (hp : Prompt delays) (timeoutMs : Int32)
    (missing : ℕ) (out : List UInt8) (hq : l.toDevice = []) (hle : missing ≤ l.unread.length) :
    ∃ l', readExactLoop (tty dev delays) true timeoutMs missing out l =
        (.ok (out ++ l.unread.take missing), l') ∧
      l'.toDevice = [] ∧ l'.answered = l.answered ∧ l'.unread = l.unread.drop missing := by
  induction missing using Nat.strong_induction_on generalizing out l with
  | _ missing ih =>
    rw [readExactLoop]
    by_cases hz : missing = 0
    · subst hz
      refine ⟨l, ?_, hq, rfl, rfl⟩
      rw [if_pos rfl, List.take_zero, List.append_nil]
    · have hpiece := wait_piece dev hp hz hq hle
      rw [if_neg hz, readBytes_tty dev delays timeoutMs hz]
      have hne : (l.wait dev delays).arrived ≠ [] := by
        rintro hnil
        exact hpiece.ne_nil (by rw [hnil, List.take_nil])
      generalize (l.wait dev delays).arrived.take missing = chunk at hpiece ⊢
      generalize (l.wait dev delays).receive missing = next at hpiece ⊢
      have hpos := List.length_pos_iff.mpr hpiece.ne_nil
      have hsplit := Nat.add_sub_of_le hpiece.length_le
      obtain ⟨l', he, hq', ha', hu'⟩ := ih (missing - chunk.length) (by omega) (out ++ chunk)
        hpiece.quiet (by rw [hpiece.unread, List.length_drop]; omega)
      refine ⟨l', ?_, hq', ha'.trans hpiece.answered, ?_⟩
      · have htake : l.unread.take missing =
          chunk ++ next.unread.take (missing - chunk.length) := by
          rw [← hsplit, List.take_add, ← hpiece.taken, Nat.add_sub_cancel_left, hpiece.unread]
        simp only [if_neg hne, if_neg hpiece.ne_nil]
        rw [he, htake, List.append_assoc]
      · rw [hu', hpiece.unread, List.drop_drop, hsplit]

/-- What has happened since `l₀`: the device has answered `c` with `replies`, and as
many ACKs have been read. -/
structure Exchanged (c : RegisterCommand) (l₀ : Link δ) (replies : List Reply) (l : Link δ) :
    Prop where
  quiet : l.toDevice = []
  answered : l.answered = l₀.answered ++ replies.map (c, ·)
  unread : l.unread =
    (l₀.unread ++ c.ackFormat.stream replies).drop (c.ackFormat.width * replies.length)

theorem Exchanged.refl (c : RegisterCommand) (hq : l.toDevice = []) : Exchanged c l [] l := by
  refine ⟨hq, (List.append_nil _).symm, ?_⟩
  rw [Records.stream_nil, List.append_nil, List.length_nil, Nat.mul_zero, List.drop_zero]

theorem Exchanged.length_unread {c : RegisterCommand} {replies : List Reply}
    (h : Exchanged c l₀ replies l) : l.unread.length = l₀.unread.length := by
  rw [h.unread, List.length_drop, List.length_append, Records.length_stream]
  omega

theorem Exchanged.ahead {c : RegisterCommand} {first : List Reply} (h : Exchanged c l₀ first l)
    (second : List Reply) :
    l.unread ++ c.ackFormat.stream second =
      (l₀.unread ++ c.ackFormat.stream (first ++ second)).drop
        (c.ackFormat.width * first.length) := by
  have hle : c.ackFormat.width * first.length ≤
      (l₀.unread ++ c.ackFormat.stream first).length := by
    rw [List.length_append, Records.length_stream]
    exact Nat.le_add_left _ _
  rw [h.unread, Records.stream_append, ← List.append_assoc, List.drop_append_of_le_length hle]

theorem Exchanged.trans {c : RegisterCommand} {first second : List Reply}
    (h₁ : Exchanged c l₀ first l) (h : Exchanged c l second l') :
    Exchanged c l₀ (first ++ second) l' := by
  refine ⟨h.quiet, ?_, ?_⟩
  · rw [h.answered, h₁.answered, List.append_assoc, List.map_append]
  · rw [h.unread, h₁.ahead, List.drop_drop, List.length_append, Nat.mul_add]

theorem Exchanged.block {c : RegisterCommand} {replies : List Reply}
    (h : Exchanged c l₀ replies l) (r : Reply) :
    (l.unread ++ c.ack r).take c.ackFormat.width =
      c.ackFormat.block (l₀.unread ++ c.ackFormat.stream (replies ++ [r])) replies.length := by
  have ha := h.ahead [r]
  rw [Records.stream_singleton] at ha
  exact congrArg (List.take c.ackFormat.width) ha

/-- On a prompt link an attempt reads the oldest unread bytes, and the ACK of its
command comes behind them. -/
theorem readExact_prompt {delays : ℕ → Delay} (hd : dev.Executes) (hp : Prompt delays)
    (timeoutMs : Int32) (c : RegisterCommand) (hq : l.toDevice = []) :
    ∃ r l', r.accepted = true ∧
      readExact (tty dev delays) true c.ackBytes timeoutMs (l.send c.frame) =
        (.ok ((l.unread ++ c.ack r).take c.ackFormat.width), l') ∧
      Exchanged c l [r] l' := by
  have hz : c.ackBytes ≠ 0 := c.ackFormat.width_pos.ne'
  have ha := answer_eq dev c hq
  have hquiet : (l.answer dev c).toDevice = [] := by rw [ha, hq]
  have hunread : (l.answer dev c).unread = l.unread ++ c.ack (l.reply dev c) := by
    rw [ha, unread, unread, List.append_assoc]
  have hle : c.ackBytes ≤ (l.answer dev c).unread.length := by
    rw [hunread, List.length_append, c.length_ack]
    omega
  obtain ⟨l', he, hq', ha', hu'⟩ := readExactLoop_prompt dev hp timeoutMs c.ackBytes [] hquiet hle
  refine ⟨l.reply dev c, l', hd c l.device, ?_, hq', ?_, ?_⟩
  · have hsame : readExactLoop (tty dev delays) true timeoutMs c.ackBytes [] (l.send c.frame) =
        readExactLoop (tty dev delays) true timeoutMs c.ackBytes [] (l.answer dev c) := by
      rw [readExactLoop, readExactLoop, if_neg hz, if_neg hz, readBytes_tty dev delays timeoutMs hz,
        readBytes_tty dev delays timeoutMs hz, wait_send dev hp c hq]
    rw [readExact, hsame, he, hunread]
    rfl
  · rw [ha', ha]
    rfl
  · rw [hu', hunread, Records.stream_singleton, List.length_singleton, Nat.mul_one]
    rfl

end Link

end TriFusion.DeviceControl
