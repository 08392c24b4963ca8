import TriFusion.Media.MainStream
import TriFusion.Library.Ledger
import TriFusion.Library.Runs

namespace TriFusion.Media

open Foundation Library Library.Runs

namespace MainStream

theorem makeRoom_eq (capacity : ℕ) (frames : List EncodedFrame) (dropped : UInt64) :
    ∃ n ≤ frames.length,
      makeRoom capacity frames dropped = (frames.drop n, dropped + UInt64.ofNat n) := by
  induction frames generalizing dropped with
  | nil => exact ⟨0, le_rfl, congrArg _ (UInt64.add_zero dropped).symm⟩
  | cons frame rest ih =>
    by_cases hc : capacity ≤ rest.length + 1
    · obtain ⟨n, hn, he⟩ := ih (dropped + 1)
      refine ⟨n + 1, Nat.succ_le_succ hn, ?_⟩
      rw [makeRoom, if_pos hc, he, List.drop_succ_cons, Nat.add_comm n 1, UInt64.ofNat_add,
        ← UInt64.add_assoc]
      rfl
    · refine ⟨0, Nat.zero_le _, ?_⟩
      rw [makeRoom, if_neg hc]
      exact congrArg _ (UInt64.add_zero dropped).symm

theorem makeRoom_lt {capacity : ℕ} (h : 0 < capacity) (frames : List EncodedFrame)
    (dropped : UInt64) : (makeRoom capacity frames dropped).1.length < capacity := by
  induction frames generalizing dropped with
  | nil => exact h
  | cons frame rest ih =>
    by_cases hc : capacity ≤ rest.length + 1
    · rw [makeRoom, if_pos hc]
      exact ih (dropped + 1)
    · rw [makeRoom, if_neg hc]
      exact Nat.not_le.mp hc

theorem takeFrame_eq (s : MainStream) :
    ∃ n, (n = 0 ∨ n < s.frames.length) ∧ s.takeFrame = ((s.frames.drop n).head?,
      { s with
        frames := (s.frames.drop n).tail
        stats.framesDropped := s.stats.framesDropped + UInt64.ofNat n }) := by
  by_cases hl : s.profile.lowLatency ∧ 1 < s.frames.length
  · refine ⟨s.frames.length - 1, .inr (by omega), ?_⟩
    simp only [takeFrame, hl, and_self, ↓reduceIte]
    cases s.frames.drop (s.frames.length - 1) <;> rfl
  · refine ⟨0, .inl rfl, ?_⟩
    obtain ⟨frames, capacity, profile, stats, state⟩ := s
    have hzero : stats.framesDropped + UInt64.ofNat 0 = stats.framesDropped := UInt64.add_zero _
    simp only [takeFrame, hl, ↓reduceIte, List.drop_zero, hzero]
    cases frames <;> rfl

theorem push_refused {s : MainStream} (h : s.state ≠ .running) (frame : EncodedFrame) :
    s.push frame = (.fail .mainStreamNotReady "main stream is not running", s) := if_pos h

end MainStream

inductive StreamCall
  | init (config : MediaConfig)
  | start
  | stop
  | clear
  | push (frame : EncodedFrame)
  | waitFrame (timeoutMs : Int32)
  deriving DecidableEq

/-- The stream with its history: over the whole run, and since the last `init`, where
`dropped` counts the frames that made way for others and `cleared` what `clear` took. -/
structure StreamRun where
  stream : MainStream := {}
  whole : Ledger EncodedFrame := {}
  since : Ledger EncodedFrame := {}
  dropped : ℕ := 0
  cleared : ℕ := 0

namespace StreamRun

open MainStream

def discard (n : ℕ) (r : StreamRun) : StreamRun :=
  { r with whole := r.whole.discard n, since := r.since.discard n }

def accept (frame : EncodedFrame) (r : StreamRun) : StreamRun :=
  { r with whole := r.whole.accept frame, since := r.since.accept frame }

def deliver (frame : EncodedFrame) (r : StreamRun) : StreamRun :=
  { r with whole := r.whole.deliver frame, since := r.since.deliver frame }

def drop (n : ℕ) (r : StreamRun) : StreamRun :=
  { r.discard n with dropped := r.dropped + n }

def step (r : StreamRun) : StreamCall → StreamRun
  | .init config =>
    { stream := (r.stream.init config).2
      whole := r.whole.discard r.stream.frames.length }
  | .start => { r with stream := r.stream.start }
  | .stop => { r with stream := r.stream.stop }
  | .clear =>
    { r.discard r.stream.frames.length with
      stream := r.stream.clear
      cleared := r.cleared + r.stream.frames.length }
  | .push frame =>
    match r.stream.push frame with
    | (.ok (), s) =>
      { (r.drop (r.stream.frames.length + 1 - s.frames.length)).accept frame with stream := s }
    | (.error _, s) => { r with stream := s }
  | .waitFrame timeoutMs =>
    match r.stream.waitFrame timeoutMs with
    | none => r
    | some (none, s) => { r with stream := s }
    | some (some frame, s) =>
      { (r.drop (r.stream.frames.length - (s.frames.length + 1))).deliver frame with stream := s }

structure Accounted (r : StreamRun) : Prop where
  positive : 0 < r.stream.capacity
  bounded : r.stream.frames.length ≤ r.stream.capacity
  whole : r.whole.Balanced r.stream.frames
  since : r.since.Balanced r.stream.frames
  framesIn : r.stream.stats.framesIn = UInt64.ofNat r.since.accepted.length
  framesDropped : r.stream.stats.framesDropped = UInt64.ofNat r.dropped
  discarded : r.dropped + r.cleared = r.since.discarded

theorem init_accounted {r : StreamRun} (h : Accounted r) (config : MediaConfig) :
    Accounted (r.step (.init config)) := by
  refine ⟨?_, Nat.zero_le _, ?_, Ledger.balanced_empty, rfl, rfl, rfl⟩
  · simp only [step, MainStream.init]
    split_ifs with hl hf
    · exact Nat.one_pos
    · exact Nat.succ_pos 29
    · exact Nat.pos_of_ne_zero fun hz ↦ hf (UInt32.toNat_inj.mp hz)
  · have hd := h.whole.discard le_rfl
    rwa [List.drop_length] at hd

theorem clear_accounted {r : StreamRun} (h : Accounted r) : Accounted (r.step .clear) := by
  have hw := h.whole.discard le_rfl
  have hs := h.since.discard le_rfl
  rw [List.drop_length] at hw hs
  refine ⟨h.positive, Nat.zero_le _, hw, hs, h.framesIn, h.framesDropped, ?_⟩
  have hd := h.discarded
  simp only [step, discard, MainStream.clear, Ledger.discard]
  omega

theorem push_accounted {r : StreamRun} (h : Accounted r) (frame : EncodedFrame) :
    Accounted (r.step (.push frame)) := by
  by_cases hr : r.stream.state = .running
  · obtain ⟨n, hn, he⟩ := makeRoom_eq r.stream.capacity r.stream.frames r.stream.stats.framesDropped
    have hlt := makeRoom_lt h.positive r.stream.frames r.stream.stats.framesDropped
    rw [he] at hlt
    have hlost : r.stream.frames.length + 1 - (r.stream.frames.drop n ++ [frame]).length = n := by
      rw [List.length_append, List.length_drop, List.length_singleton]
      omega
    have hstep : r.step (.push frame) = { (r.drop n).accept frame with
        stream := { r.stream with
          frames := r.stream.frames.drop n ++ [frame]
          stats := ⟨r.stream.stats.framesIn + 1, r.stream.stats.framesDropped + UInt64.ofNat n,
            frame.ptsMs⟩ } } := by
      simp only [step, MainStream.push, hr, ne_eq, not_true_eq_false, ↓reduceIte, he, hlost]
    rw [hstep]
    have hd := h.discarded
    refine ⟨h.positive, ?_, (h.whole.discard hn).accept frame, (h.since.discard hn).accept frame,
      ?_, ?_, ?_⟩
    · rw [List.length_append, List.length_singleton]
      exact hlt
    · simp only [accept, drop, discard, Ledger.accept, Ledger.discard, List.length_append,
        List.length_singleton, h.framesIn, UInt64.ofNat_add]
      rfl
    · simp only [accept, drop, discard, h.framesDropped, UInt64.ofNat_add]
    · simp only [accept, drop, discard, Ledger.accept, Ledger.discard]
      omega
  · have hstep : r.step (.push frame) = r := by
      simp only [step, push_refused hr]
      rfl
    rwa [hstep]

theorem waitFrame_accounted {r : StreamRun} (h : Accounted r) (timeoutMs : Int32) :
    Accounted (r.step (.waitFrame timeoutMs)) := by
  by_cases hw : timeoutMs < 0 ∧ !r.stream.wakes
  · have hstep : r.step (.waitFrame timeoutMs) = r := by
      simp only [step, MainStream.waitFrame, hw, and_self, ↓reduceIte]
    rwa [hstep]
  · obtain ⟨n, hn, he⟩ := takeFrame_eq r.stream
    have hle : n ≤ r.stream.frames.length := by omega
    have hd := h.discarded
    cases hq : r.stream.frames.drop n with
    | nil =>
      have hlen := List.drop_eq_nil_iff.mp hq
      obtain rfl : n = 0 := by omega
      have hf : r.stream.frames = [] := hq
      have hzero : r.stream.stats.framesDropped + UInt64.ofNat 0 = r.stream.stats.framesDropped :=
        UInt64.add_zero _
      have hstep : r.step (.waitFrame timeoutMs) = { r with
          stream := { r.stream with frames := [] } } := by
        simp only [step, MainStream.waitFrame, hw, ↓reduceIte, he, hf, List.drop_zero,
          List.head?_nil, List.tail_nil, hzero]
      have hwhole := h.whole
      have hsince := h.since
      rw [hf] at hwhole hsince
      rw [hstep]
      exact ⟨h.positive, Nat.zero_le _, hwhole, hsince, h.framesIn, h.framesDropped, hd⟩
    | cons frame rest =>
      have hlen := congrArg List.length hq
      rw [List.length_drop, List.length_cons] at hlen
      have hlost : r.stream.frames.length - (rest.length + 1) = n := by omega
      have hstep : r.step (.waitFrame timeoutMs) = { (r.drop n).deliver frame with
          stream := { r.stream with
            frames := rest
            stats.framesDropped := r.stream.stats.framesDropped + UInt64.ofNat n } } := by
        simp only [step, MainStream.waitFrame, hw, ↓reduceIte, he, hq, List.head?_cons,
          List.tail_cons, hlost]
      have hbound := h.bounded
      rw [hstep]
      refine ⟨h.positive, ?_, (hq ▸ h.whole.discard hle).deliver,
        (hq ▸ h.since.discard hle).deliver, h.framesIn, ?_, ?_⟩
      · dsimp only
        omega
      · simp only [deliver, drop, discard, h.framesDropped, UInt64.ofNat_add]
      · simp only [deliver, drop, discard, Ledger.deliver, Ledger.discard]
        omega

theorem step_accounted (r : StreamRun) (c : StreamCall) (h : Accounted r) :
    Accounted (r.step c) := by
  cases c with
  | init config => exact init_accounted h config
  | start => exact ⟨h.positive, h.bounded, h.whole, h.since, h.framesIn, h.framesDropped,
    h.discarded⟩
  | stop => exact ⟨h.positive, h.bounded, h.whole, h.since, h.framesIn, h.framesDropped,
    h.discarded⟩
  | clear => exact clear_accounted h
  | push frame => exact push_accounted h frame
  | waitFrame timeoutMs => exact waitFrame_accounted h timeoutMs

theorem run_accounted (calls : List StreamCall) : Accounted (exec step {} calls) :=
  exec_invariant step_accounted
    ⟨by decide, by decide, Ledger.balanced_empty, Ledger.balanced_empty, rfl, rfl, rfl⟩ calls

/-- In every run: the bound, the order of what is delivered, the balance since the last
`init`, which the 64-bit counters follow modulo 2^64, and pushes outside Running that change
nothing. -/
theorem frames_accounted (calls : List StreamCall) :
    let r := exec step {} calls
    (r.stream.frames.length ≤ r.stream.capacity ∧ 1 ≤ r.stream.capacity) ∧
      r.whole.delivered.Sublist r.whole.accepted ∧
      (r.since.accepted.length =
          r.dropped + r.since.delivered.length + r.cleared + r.stream.frames.length ∧
        r.stream.stats.framesIn = UInt64.ofNat r.since.accepted.length ∧
        r.stream.stats.framesDropped = UInt64.ofNat r.dropped ∧
        r.stream.stats.framesIn = r.stream.stats.framesDropped +
          UInt64.ofNat (r.since.delivered.length + r.cleared + r.stream.frames.length)) ∧
      (r.stream.state ≠ .running → ∀ frame, ∃ e, r.stream.push frame = (.error e, r.stream)) := by
  intro r
  have h : Accounted r := run_accounted calls
  have hbalance : r.since.accepted.length =
      r.dropped + r.since.delivered.length + r.cleared + r.stream.frames.length := by
    have hcount := h.since.count
    have hdiscarded := h.discarded
    omega
  refine ⟨⟨h.bounded, h.positive⟩, h.whole.delivered_sublist,
    ⟨hbalance, h.framesIn, h.framesDropped, ?_⟩, fun hr frame ↦ ⟨_, push_refused hr frame⟩⟩
  rw [h.framesIn, h.framesDropped, hbalance, ← UInt64.ofNat_add]
  congr 1
  omega

end StreamRun

end TriFusion.Media
