import TriFusion.Library.Simulation
import TriFusion.Media.MainStream

namespace TriFusion.Media

open Foundation Library Library.Runs Library.Simulation

abbrev LowLatencyConfig := { config : MediaConfig // config.lowLatency = true }

inductive StreamOp
  | init (config : LowLatencyConfig)
  | start
  | stop
  | clear
  | push (frame : EncodedFrame)
  | waitFrame (timeoutMs : Int32)
  | latestFrame
  | state
  | profile
  | stats

inductive StreamAnswer
  | done
  | result (r : Result Unit)
  | waiting
  | frame (frame : Option EncodedFrame)
  | state (state : StreamState)
  | profile (profile : StreamProfile)
  | stats (stats : StreamStats)
  deriving DecidableEq

namespace MainStream

def call (s : MainStream) : StreamOp → StreamAnswer × MainStream
  | .init config =>
    let (result, s) := s.init config
    (.result result, s)
  | .start => (.done, s.start)
  | .stop => (.done, s.stop)
  | .clear => (.done, s.clear)
  | .push frame =>
    let (result, s) := s.push frame
    (.result result, s)
  | .waitFrame timeoutMs =>
    match s.waitFrame timeoutMs with
    | none => (.waiting, s)
    | some (frame, s) => (.frame frame, s)
  | .latestFrame => (.frame s.latestFrame, s)
  | .state => (.state s.state, s)
  | .profile => (.profile s.profile, s)
  | .stats => (.stats s.stats, s)

end MainStream

/-- A slot for one frame, in front of a reader that may be late. -/
structure Mailbox where
  content : Option EncodedFrame := none
  profile : StreamProfile
  stats : StreamStats := {}
  state : StreamState := .stopped

namespace Mailbox

def profileOf (config : LowLatencyConfig) (name : Text) : StreamProfile where
  codec := codecFromString config.val.codec
  width := config.val.width.toUInt32
  height := config.val.height.toUInt32
  fps := config.val.fps.toUInt32
  bitrateKbps := config.val.bitrate.toUInt32
  gop := config.val.gop.toUInt32
  lowLatency := true
  name := name

def put (frame : EncodedFrame) (m : Mailbox) : Mailbox :=
  { m with
    content := some frame
    stats.framesIn := m.stats.framesIn + 1
    stats.framesDropped := m.stats.framesDropped + if m.content.isSome then 1 else 0
    stats.lastPtsMs := frame.ptsMs }

def call (m : Mailbox) : StreamOp → StreamAnswer × Mailbox
  | .init config => (.result (.ok ()), { profile := profileOf config m.profile.name })
  | .start => (.done, { m with state := .running })
  | .stop => (.done, { m with state := .stopped })
  | .clear => (.done, { m with content := none })
  | .push frame =>
    if m.state = .running then (.result (.ok ()), m.put frame)
    else (.result (.fail .mainStreamNotReady "main stream is not running"), m)
  | .waitFrame timeoutMs =>
    if timeoutMs < 0 ∧ m.state = .running ∧ m.content = none then (.waiting, m)
    else (.frame m.content, { m with content := none })
  | .latestFrame => (.frame m.content, m)
  | .state => (.state m.state, m)
  | .profile => (.profile m.profile, m)
  | .stats => (.stats m.stats, m)

structure Holds (s : MainStream) (m : Mailbox) : Prop where
  frames : s.frames = m.content.toList
  capacity : s.capacity = 1
  lowLatency : s.profile.lowLatency = true
  profile : s.profile = m.profile
  stats : s.stats = m.stats
  state : s.state = m.state

variable {s : MainStream} {m : Mailbox}

theorem Holds.length_le (h : Holds s m) : s.frames.length ≤ 1 := by
  rw [h.frames]
  cases m.content with
  | none => exact Nat.zero_le _
  | some frame => exact le_rfl

theorem init_holds (s : MainStream) (config : LowLatencyConfig) :
    Holds (s.init config).2 { profile := profileOf config s.profile.name } := by
  have hl := config.property
  refine ⟨rfl, ?_, hl, ?_, rfl, rfl⟩
  · simp only [MainStream.init, hl, ↓reduceIte]
  · simp only [MainStream.init, profileOf, hl]

theorem makeRoom_one (content : Option EncodedFrame) (dropped : UInt64) :
    MainStream.makeRoom 1 content.toList dropped =
      ([], dropped + if content.isSome then 1 else 0) := by
  cases content with
  | none => exact congrArg _ (UInt64.add_zero dropped).symm
  | some frame => rfl

theorem push_holds (h : Holds s m) (hr : m.state = .running) (frame : EncodedFrame) :
    ∃ s', s.push frame = (.ok (), s') ∧ Holds s' (m.put frame) := by
  have hs : s.state = .running := h.state.trans hr
  have hroom : MainStream.makeRoom s.capacity s.frames s.stats.framesDropped =
      ([], m.stats.framesDropped + if m.content.isSome then 1 else 0) := by
    rw [h.capacity, h.frames, h.stats, makeRoom_one]
  have hpush : s.push frame = (.ok (), { s with
      frames := [frame]
      stats := (m.put frame).stats }) := by
    simp only [MainStream.push, hs, ne_eq, not_true_eq_false, ↓reduceIte, hroom, List.nil_append]
    simp only [put, h.stats]
  exact ⟨_, hpush, rfl, h.capacity, h.lowLatency, h.profile, rfl, h.state⟩

theorem push_refused (h : Holds s m) (hr : m.state ≠ .running) (frame : EncodedFrame) :
    s.push frame = (.fail .mainStreamNotReady "main stream is not running", s) := by
  have hs : s.state ≠ .running := fun hs ↦ hr (h.state.symm.trans hs)
  exact if_pos hs

theorem takeFrame_holds (h : Holds s m) :
    ∃ s', s.takeFrame = (m.content, s') ∧ Holds s' { m with content := none } := by
  have hl : ¬(s.profile.lowLatency ∧ 1 < s.frames.length) :=
    fun hl ↦ absurd hl.2 (Nat.not_lt.mpr h.length_le)
  have hf := h.frames
  cases hc : m.content with
  | none =>
    rw [hc] at hf
    refine ⟨s, ?_, ⟨hf, h.capacity, h.lowLatency, h.profile, h.stats, h.state⟩⟩
    simp only [MainStream.takeFrame, hl, ↓reduceIte]
    rw [hf]
    rfl
  | some frame =>
    rw [hc] at hf
    refine ⟨{ s with frames := [] }, ?_,
      ⟨rfl, h.capacity, h.lowLatency, h.profile, h.stats, h.state⟩⟩
    simp only [MainStream.takeFrame, hl, ↓reduceIte]
    rw [hf]
    rfl

theorem wakes_iff (h : Holds s m) : s.wakes = false ↔ m.state = .running ∧ m.content = none := by
  rw [MainStream.wakes, h.state, h.frames]
  cases m.content <;> simp

theorem latestFrame_eq (h : Holds s m) : s.latestFrame = m.content := by
  rw [MainStream.latestFrame, h.frames]
  cases m.content <;> rfl

theorem waits_iff (h : Holds s m) (timeoutMs : Int32) :
    (timeoutMs < 0 ∧ !s.wakes) ↔ timeoutMs < 0 ∧ m.state = .running ∧ m.content = none := by
  rw [Bool.not_eq_true', wakes_iff h]

theorem call_holds (h : Holds s m) (op : StreamOp) :
    (s.call op).1 = (m.call op).1 ∧ Holds (s.call op).2 (m.call op).2 := by
  cases op with
  | init config =>
    have hi := init_holds s config
    rw [h.profile] at hi
    exact ⟨rfl, hi⟩
  | start => exact ⟨rfl, h.frames, h.capacity, h.lowLatency, h.profile, h.stats, rfl⟩
  | stop => exact ⟨rfl, h.frames, h.capacity, h.lowLatency, h.profile, h.stats, rfl⟩
  | clear => exact ⟨rfl, rfl, h.capacity, h.lowLatency, h.profile, h.stats, h.state⟩
  | push frame =>
    by_cases hr : m.state = .running
    · obtain ⟨s', he, hs'⟩ := push_holds h hr frame
      simp only [MainStream.call, call, he, hr, ↓reduceIte]
      exact ⟨trivial, hs'⟩
    · simp only [MainStream.call, call, push_refused h hr frame, hr, ↓reduceIte]
      exact ⟨trivial, h⟩
  | waitFrame timeoutMs =>
    by_cases hw : timeoutMs < 0 ∧ m.state = .running ∧ m.content = none
    · have hn : s.waitFrame timeoutMs = none := if_pos ((waits_iff h timeoutMs).mpr hw)
      simp only [MainStream.call, call, hn, if_pos hw]
      exact ⟨trivial, h⟩
    · obtain ⟨s', he, hs'⟩ := takeFrame_holds h
      have hn : s.waitFrame timeoutMs = some (m.content, s') := by
        rw [MainStream.waitFrame, if_neg (fun hc ↦ hw ((waits_iff h timeoutMs).mp hc)), he]
      simp only [MainStream.call, call, hn, if_neg hw]
      exact ⟨trivial, hs'⟩
  | latestFrame => exact ⟨congrArg StreamAnswer.frame (latestFrame_eq h), h⟩
  | state => exact ⟨congrArg StreamAnswer.state h.state, h⟩
  | profile => exact ⟨congrArg StreamAnswer.profile h.profile, h⟩
  | stats => exact ⟨congrArg StreamAnswer.stats h.stats, h⟩

theorem mailbox_simulates : Simulates Holds MainStream.call Mailbox.call where
  answer _ _ op h := (call_holds h op).1
  related _ _ op h := (call_holds h op).2

end Mailbox

/-- From a low-latency `init` on, the stream answers as a mailbox does, and no wait
finds frames to skip. -/
theorem low_latency_mailbox (s : MainStream) (config : LowLatencyConfig) (ops : List StreamOp) :
    answers MainStream.call s (.init config :: ops) =
      answers Mailbox.call { profile := s.profile } (.init config :: ops) ∧
    let s' := exec (next MainStream.call) s (.init config :: ops)
    ¬(s'.profile.lowLatency ∧ 1 < s'.frames.length) := by
  have hi := Mailbox.init_holds s config
  constructor
  · exact congrArg _ (Mailbox.mailbox_simulates.answers_eq hi ops)
  · have hr := Mailbox.mailbox_simulates.exec_related hi ops
    exact fun hl ↦ absurd hl.2 (Nat.not_lt.mpr hr.length_le)

end TriFusion.Media
