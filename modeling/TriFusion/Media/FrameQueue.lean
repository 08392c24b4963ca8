import TriFusion.Library.Ledger
import TriFusion.Library.Runs
import TriFusion.Media.Frames

namespace TriFusion.Media

open Foundation Library Library.Runs

structure FrameQueue where
  capacity : ℕ := 8
  queue : List VideoFrame := []
  closed : Bool := false
  dropped : UInt64 := 0
  positive : 0 < capacity := by decide

namespace FrameQueue

def ofCapacity (capacity : ℕ) : FrameQueue where
  capacity := if capacity = 0 then 1 else capacity
  positive := effective_pos capacity

def push (frame : VideoFrame) (q : FrameQueue) : Result Unit × FrameQueue :=
  if q.closed then (.fail .busy "frame queue is closed", q)
  else
    let q :=
      if q.capacity ≤ q.queue.length then
        { q with queue := q.queue.tail, dropped := q.dropped + 1 }
      else q
    (.ok (), { q with queue := q.queue ++ [frame] })

def wakes (q : FrameQueue) : Bool := q.closed || !q.queue.isEmpty

/-- `none` while the call waits: without a timeout it waits until the predicate holds. -/
def pop (timeoutMs : Int32) (q : FrameQueue) : Option (Option VideoFrame × FrameQueue) :=
  if timeoutMs < 0 ∧ !q.wakes then none
  else
    match q.queue with
    | [] => some (none, q)
    | frame :: rest => some (some frame, { q with queue := rest })

def close (q : FrameQueue) : FrameQueue := { q with closed := true }

def clear (q : FrameQueue) : FrameQueue := { q with queue := [] }

def size (q : FrameQueue) : ℕ := q.queue.length

theorem push_closed {q : FrameQueue} (h : q.closed = true) (frame : VideoFrame) :
    q.push frame = (.fail .busy "frame queue is closed", q) := if_pos h

theorem push_open {q : FrameQueue} (h : q.closed = false) (hq : q.queue.length ≤ q.capacity)
    (frame : VideoFrame) :
    ∃ n ≤ q.queue.length, q.queue.length - n < q.capacity ∧ q.push frame = (.ok (),
      { q with queue := q.queue.drop n ++ [frame], dropped := q.dropped + UInt64.ofNat n }) := by
  have hpos := q.positive
  by_cases hf : q.capacity ≤ q.queue.length
  · refine ⟨1, by omega, by omega, ?_⟩
    simp only [push, h, hf, Bool.false_eq_true, ↓reduceIte, List.drop_one]
    rfl
  · have hzero : q.dropped + UInt64.ofNat 0 = q.dropped := UInt64.add_zero _
    refine ⟨0, Nat.zero_le _, by omega, ?_⟩
    simp only [push, h, hf, Bool.false_eq_true, ↓reduceIte, List.drop_zero, hzero]

theorem pop_cons {q : FrameQueue} {frame : VideoFrame} {rest : List VideoFrame}
    (h : q.queue = frame :: rest) (timeoutMs : Int32) :
    q.pop timeoutMs = some (some frame, { q with queue := rest }) := by
  have hw : q.wakes = true := by simp [wakes, h]
  simp [pop, hw, h]

theorem pop_nil {q : FrameQueue} (h : q.queue = []) (timeoutMs : Int32) :
    q.pop timeoutMs = none ∨ q.pop timeoutMs = some (none, q) := by
  by_cases hw : timeoutMs < 0 ∧ !q.wakes
  · exact .inl (if_pos hw)
  · simp only [pop, if_neg hw, h, or_true]

theorem pop_nil_closed {q : FrameQueue} (hc : q.closed = true) (h : q.queue = [])
    (timeoutMs : Int32) : q.pop timeoutMs = some (none, q) := by
  have hw : q.wakes = true := by simp [wakes, hc]
  simp [pop, hw, h]

end FrameQueue

inductive QueueCall
  | push (frame : VideoFrame)
  | pop (timeoutMs : Int32)
  | clear
  | close
  deriving DecidableEq

/-- The queue with its history, where `overwritten` counts the frames that made way for
others and `cleared` what `clear` took. -/
structure QueueRun where
  queue : FrameQueue
  ledger : Ledger VideoFrame := {}
  overwritten : ℕ := 0
  cleared : ℕ := 0

namespace QueueRun

def ofCapacity (capacity : ℕ) : QueueRun := { queue := .ofCapacity capacity }

def step (r : QueueRun) : QueueCall → QueueRun
  | .push frame =>
    match r.queue.push frame with
    | (.ok (), q) =>
      let lost := r.queue.size + 1 - q.size
      { r with
        queue := q
        ledger := (r.ledger.discard lost).accept frame
        overwritten := r.overwritten + lost }
    | (.error _, q) => { r with queue := q }
  | .pop timeoutMs =>
    match r.queue.pop timeoutMs with
    | none => r
    | some (none, q) => { r with queue := q }
    | some (some frame, q) => { r with queue := q, ledger := r.ledger.deliver frame }
  | .clear =>
    { r with
      queue := r.queue.clear
      ledger := r.ledger.discard r.queue.size
      cleared := r.cleared + r.queue.size }
  | .close => { r with queue := r.queue.close }

theorem step_push_closed {r : QueueRun} (h : r.queue.closed = true) (frame : VideoFrame) :
    r.step (.push frame) = r := by
  simp only [step, FrameQueue.push_closed h]
  rfl

theorem step_pop_nil {r : QueueRun} (h : r.queue.queue = []) (timeoutMs : Int32) :
    r.step (.pop timeoutMs) = r := by
  rcases FrameQueue.pop_nil h timeoutMs with he | he
  · simp only [step, he]
  · simp only [step, he]

theorem step_pop_cons {r : QueueRun} {frame : VideoFrame} {rest : List VideoFrame}
    (h : r.queue.queue = frame :: rest) (timeoutMs : Int32) :
    r.step (.pop timeoutMs) = { r with
      queue := { r.queue with queue := rest }
      ledger := r.ledger.deliver frame } := by
  simp only [step, FrameQueue.pop_cons h]

structure Accounted (capacity : ℕ) (r : QueueRun) : Prop where
  capacity : r.queue.capacity = if capacity = 0 then 1 else capacity
  bounded : r.queue.size ≤ r.queue.capacity
  ledger : r.ledger.Balanced r.queue.queue
  dropped : r.queue.dropped = UInt64.ofNat r.overwritten
  discarded : r.overwritten + r.cleared = r.ledger.discarded

variable {capacity : ℕ}

theorem push_accounted {r : QueueRun} (h : Accounted capacity r) (frame : VideoFrame) :
    Accounted capacity (r.step (.push frame)) := by
  cases hc : r.queue.closed with
  | true =>
    rw [step_push_closed hc]
    exact h
  | false =>
    obtain ⟨n, hn, hlt, he⟩ := FrameQueue.push_open hc h.bounded frame
    have hd := h.discarded
    have hlost : r.queue.queue.length + 1 - (r.queue.queue.drop n ++ [frame]).length = n := by
      rw [List.length_append, List.length_drop, List.length_singleton]
      omega
    have hstep : r.step (.push frame) = { r with
        queue := { r.queue with
          queue := r.queue.queue.drop n ++ [frame]
          dropped := r.queue.dropped + UInt64.ofNat n }
        ledger := (r.ledger.discard n).accept frame
        overwritten := r.overwritten + n } := by
      simp only [step, he, FrameQueue.size, hlost]
    rw [hstep]
    refine ⟨h.capacity, ?_, (h.ledger.discard hn).accept frame, ?_, ?_⟩
    · simp only [FrameQueue.size, List.length_append, List.length_drop, List.length_singleton]
      omega
    · simp only [h.dropped, UInt64.ofNat_add]
    · simp only [Ledger.accept, Ledger.discard]
      omega

theorem pop_accounted {r : QueueRun} (h : Accounted capacity r) (timeoutMs : Int32) :
    Accounted capacity (r.step (.pop timeoutMs)) := by
  cases hq : r.queue.queue with
  | nil =>
    rw [step_pop_nil hq]
    exact h
  | cons frame rest =>
    have hb := h.bounded
    have hl := h.ledger
    rw [FrameQueue.size, hq, List.length_cons] at hb
    rw [hq] at hl
    rw [step_pop_cons hq]
    refine ⟨h.capacity, ?_, hl.deliver, h.dropped, h.discarded⟩
    simp only [FrameQueue.size]
    omega

theorem clear_accounted {r : QueueRun} (h : Accounted capacity r) :
    Accounted capacity (r.step .clear) := by
  have hl := h.ledger.discard le_rfl
  have hd := h.discarded
  rw [List.drop_length] at hl
  refine ⟨h.capacity, Nat.zero_le _, hl, h.dropped, ?_⟩
  simp only [step, FrameQueue.clear, Ledger.discard]
  omega

theorem step_accounted (r : QueueRun) (c : QueueCall) (h : Accounted capacity r) :
    Accounted capacity (r.step c) := by
  cases c with
  | push frame => exact push_accounted h frame
  | pop timeoutMs => exact pop_accounted h timeoutMs
  | clear => exact clear_accounted h
  | close => exact ⟨h.capacity, h.bounded, h.ledger, h.dropped, h.discarded⟩

theorem run_accounted (capacity : ℕ) (calls : List QueueCall) :
    Accounted capacity (exec step (ofCapacity capacity) calls) :=
  exec_invariant step_accounted ⟨rfl, Nat.zero_le _, Ledger.balanced_empty, rfl, rfl⟩ calls

/-- A closed queue that held `queued` when `base` had been delivered: what has been
popped since is a beginning of `queued`, and unless `clear` took it the rest is there. -/
structure Draining (queued base : List VideoFrame) (intact : Prop) (r : QueueRun) : Prop where
  closed : r.queue.closed = true
  popped : ∃ popped, r.ledger.delivered = base ++ popped ∧ popped ++ r.queue.queue <+: queued ∧
    (intact → popped ++ r.queue.queue = queued)

variable {queued base : List VideoFrame} {intact : Prop}

theorem clear_draining {r : QueueRun} (h : Draining queued base intact r) (hi : ¬intact) :
    Draining queued base intact (r.step .clear) := by
  obtain ⟨popped, hd, hp, -⟩ := h.popped
  refine ⟨h.closed, popped, hd, ?_, fun hc ↦ absurd hc hi⟩
  rw [step, FrameQueue.clear, List.append_nil]
  exact (List.prefix_append popped _).trans hp

theorem pop_draining {r : QueueRun} (h : Draining queued base intact r) (timeoutMs : Int32) :
    Draining queued base intact (r.step (.pop timeoutMs)) := by
  cases hq : r.queue.queue with
  | nil =>
    rw [step_pop_nil hq]
    exact h
  | cons frame rest =>
    obtain ⟨popped, hd, hp, hall⟩ := h.popped
    have happ : (popped ++ [frame]) ++ rest = popped ++ r.queue.queue := by
      rw [hq, List.append_assoc, List.singleton_append]
    rw [step_pop_cons hq]
    refine ⟨h.closed, popped ++ [frame], ?_, ?_, ?_⟩
    · rw [Ledger.deliver, hd, List.append_assoc]
    · rw [happ]
      exact hp
    · rw [happ]
      exact hall

theorem step_draining (r : QueueRun) (c : QueueCall) (h : Draining queued base intact r)
    (hc : intact → c ≠ .clear) : Draining queued base intact (r.step c) := by
  cases c with
  | push frame =>
    rw [step_push_closed h.closed]
    exact h
  | pop timeoutMs => exact pop_draining h timeoutMs
  | clear => exact clear_draining h fun hi ↦ hc hi rfl
  | close => exact ⟨rfl, h.popped⟩

theorem close_draining (r : QueueRun) (calls : List QueueCall) :
    Draining r.queue.queue r.ledger.delivered (.clear ∉ calls)
      (exec step (r.step .close) calls) := by
  have halong : Along step (fun _ c ↦ .clear ∉ calls → c ≠ .clear) (r.step .close) calls := by
    rw [along_iff]
    rintro before c after rfl hi rfl
    exact hi (List.mem_append_right before (List.mem_cons_self ..))
  refine halong.invariant step_draining ⟨rfl, [], (List.append_nil _).symm, ?_, fun _ ↦ rfl⟩
  exact List.prefix_refl _

/-- In every run: the bound, the order of what is popped, the balance, which the 64-bit
counter of dropped frames follows modulo 2^64; and after `close` no push has an effect and the
queued frames come out in order. -/
theorem queue_accounted (capacity : ℕ) (calls : List QueueCall) :
    let r := exec step (ofCapacity capacity) calls
    (r.queue.size ≤ (if capacity = 0 then 1 else capacity) ∧
      r.ledger.delivered.Sublist r.ledger.accepted ∧
      r.ledger.accepted.length =
        r.ledger.delivered.length + r.overwritten + r.cleared + r.queue.size ∧
      r.queue.dropped = UInt64.ofNat r.overwritten ∧
      UInt64.ofNat r.ledger.accepted.length = r.queue.dropped +
        UInt64.ofNat (r.ledger.delivered.length + r.cleared + r.queue.size)) ∧
    ∀ later : List QueueCall,
      let s := exec step (r.step .close) later
      (∀ frame, s.queue.push frame = (.fail .busy "frame queue is closed", s.queue) ∧
        s.step (.push frame) = s) ∧
      (∀ timeoutMs, ∃ q, s.queue.pop timeoutMs = some (s.queue.queue.head?, q)) ∧
      ∃ popped, s.ledger.delivered = r.ledger.delivered ++ popped ∧ popped <+: r.queue.queue ∧
        (.clear ∉ later → popped ++ s.queue.queue = r.queue.queue) := by
  intro r
  have h : Accounted capacity r := run_accounted capacity calls
  have hbalance : r.ledger.accepted.length =
      r.ledger.delivered.length + r.overwritten + r.cleared + r.queue.size := by
    have hcount := h.ledger.count
    have hdiscarded := h.discarded
    rw [FrameQueue.size]
    omega
  refine ⟨⟨h.capacity ▸ h.bounded, h.ledger.delivered_sublist, hbalance, h.dropped, ?_⟩,
    fun later ↦ ?_⟩
  · rw [h.dropped, hbalance, ← UInt64.ofNat_add]
    congr 1
    omega
  intro s
  have hs : Draining r.queue.queue r.ledger.delivered (.clear ∉ later) s := close_draining r later
  obtain ⟨popped, hd, hp, hall⟩ := hs.popped
  refine ⟨fun frame ↦ ⟨FrameQueue.push_closed hs.closed frame, step_push_closed hs.closed frame⟩,
    fun timeoutMs ↦ ?_, popped, hd, (List.prefix_append popped _).trans hp, hall⟩
  cases hq : s.queue.queue with
  | nil => exact ⟨_, FrameQueue.pop_nil_closed hs.closed hq timeoutMs⟩
  | cons frame rest => exact ⟨_, FrameQueue.pop_cons hq timeoutMs⟩

end QueueRun

end TriFusion.Media
