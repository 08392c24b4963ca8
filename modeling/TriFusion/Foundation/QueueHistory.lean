import TriFusion.Foundation.ThreadPool
import TriFusion.Library.Runs
import TriFusion.Library.Traces
import Mathlib.Logic.Function.Basic

namespace TriFusion.Foundation.BlockingQueue

open Library.Runs Library.Traces

variable {α : Type}

/-- A call, where `tryPop` comes with what the caller's variable holds. -/
inductive Call (α : Type)
  | push (value : α)
  | pop
  | tryPop (value : α)
  | close

inductive Return (α : Type)
  | push (value : α) (accepted : Bool)
  | pop (value : Option α)
  | tryPop (found : Bool) (value : α)
  | close

namespace Return

def accepted : Return α → Option α
  | .push value true => some value
  | .push _ false => none
  | .pop _ => none
  | .tryPop _ _ => none
  | .close => none

def returned : Return α → Option α
  | .push _ _ => none
  | .pop value => value
  | .tryPop found value => if found then some value else none
  | .close => none

end Return

/-- The critical section of a call, `none` while its wait predicate is false. -/
def perform (q : BlockingQueue α) : Call α → Option (Return α × BlockingQueue α)
  | .push value => (q.push value).map fun q' ↦ (.push value !q.closed, q')
  | .pop => q.pop.map fun r ↦ (.pop r.1, r.2)
  | .tryPop value =>
    let r := q.tryPop value
    some (.tryPop r.1 r.2.1, r.2.2)
  | .close => some (.close, q.close)

variable {q q' : BlockingQueue α} {r : Return α} {call : Call α}

theorem push_cases {value : α} (h : q.push value = some q') :
    (q.closed = true ∧ q' = q) ∨
      (q.closed = false ∧ (0 < q.capacity → q.queue.length < q.capacity) ∧
        q' = { q with queue := q.queue ++ [value] }) := by
  unfold push at h
  cases hc : q.closed with
  | true =>
    rw [hc] at h
    exact .inl ⟨rfl, (Option.some.inj h).symm⟩
  | false =>
    rw [hc] at h
    split at h
    · rename_i hroom
      refine .inr ⟨rfl, ?_, ?_⟩
      · intro hpos
        simp only [Bool.false_or, Bool.or_eq_true, beq_iff_eq, decide_eq_true_eq] at hroom
        omega
      · simpa using h.symm
    · simp at h

theorem pop_cases {value : Option α} (h : q.pop = some (value, q')) :
    (value = none ∧ q.closed = true ∧ q.queue = [] ∧ q' = q) ∨
      ∃ front rest, value = some front ∧ q.queue = front :: rest ∧
        q' = { q with queue := rest } := by
  unfold pop at h
  split at h
  · rename_i hq
    split at h
    · rename_i hc
      simp only [Option.some.injEq, Prod.mk.injEq] at h
      exact .inl ⟨h.1.symm, hc, hq, h.2.symm⟩
    · simp at h
  · rename_i front rest hq
    simp only [Option.some.injEq, Prod.mk.injEq] at h
    exact .inr ⟨front, rest, h.1.symm, hq, h.2.symm⟩

theorem tryPop_cases (q : BlockingQueue α) (value : α) :
    (q.queue = [] ∧ q.tryPop value = (false, value, q)) ∨
      ∃ front rest, q.queue = front :: rest ∧
        q.tryPop value = (true, front, { q with queue := rest }) := by
  unfold tryPop
  cases hq : q.queue with
  | nil => exact .inl ⟨rfl, rfl⟩
  | cons front rest => exact .inr ⟨front, rest, rfl, rfl⟩

/-- The predicate that a call waits for: a push for room, a pop for an element, both for the end. -/
def Ready (q : BlockingQueue α) : Call α → Prop
  | .push _ => q.closed = true ∨ q.capacity = 0 ∨ q.queue.length < q.capacity
  | .pop => q.closed = true ∨ q.queue ≠ []
  | .tryPop _ | .close => True

theorem perform_eq_none_iff : q.perform call = none ↔ ¬q.Ready call := by
  cases call with
  | push value =>
    simp only [perform, push, Option.map_eq_none_iff, Ready]
    cases q.closed with
    | false => simp
    | true => simp
  | pop =>
    simp only [perform, pop, Option.map_eq_none_iff, Ready]
    cases q.queue with
    | nil => cases q.closed <;> simp
    | cons front rest => simp
  | tryPop value => simp [perform, Ready]
  | close => simp [perform, Ready]

structure Section (q : BlockingQueue α) (r : Return α) (q' : BlockingQueue α) : Prop where
  capacity : q'.capacity = q.capacity
  balance : q.queue ++ r.accepted.toList = r.returned.toList ++ q'.queue
  room : 0 < q.capacity → q.queue.length ≤ q.capacity → q'.queue.length ≤ q.capacity
  open_ : q.closed = true → r.accepted = none
  closed : q'.closed = true ↔ q.closed = true ∨ r = .close
  empty : r = .pop none → q.closed = true ∧ q.queue = []

theorem push_section {value : α} (h : q.push value = some q') :
    Section q (.push value !q.closed) q' := by
  rcases push_cases h with ⟨hc, rfl⟩ | ⟨hc, hroom, rfl⟩
  · rw [hc]
    constructor <;> simp [Return.accepted, Return.returned, hc]
  · rw [hc]
    constructor <;> simp [Return.accepted, Return.returned, hc]
    omega

theorem pop_section {value : Option α} (h : q.pop = some (value, q')) :
    Section q (.pop value) q' := by
  rcases pop_cases h with ⟨rfl, hc, hq, rfl⟩ | ⟨front, rest, rfl, hq, rfl⟩
  · constructor <;> simp [Return.accepted, Return.returned, hc, hq]
  · constructor <;> simp [Return.accepted, Return.returned, hq]
    omega

theorem tryPop_section (q : BlockingQueue α) (value : α) :
    Section q (.tryPop (q.tryPop value).1 (q.tryPop value).2.1) (q.tryPop value).2.2 := by
  rcases tryPop_cases q value with ⟨hq, he⟩ | ⟨front, rest, hq, he⟩
  · rw [he]
    constructor <;> simp [Return.accepted, Return.returned, hq]
  · rw [he]
    constructor <;> simp [Return.accepted, Return.returned, hq]
    omega

theorem close_section (q : BlockingQueue α) : Section q .close q.close := by
  constructor <;> simp [Return.accepted, Return.returned, close]

theorem perform_section (h : q.perform call = some (r, q')) : Section q r q' := by
  cases call with
  | push value =>
    simp only [perform, Option.map_eq_some_iff, Prod.mk.injEq] at h
    obtain ⟨q₁, h, rfl, rfl⟩ := h
    exact push_section h
  | pop =>
    simp only [perform, Option.map_eq_some_iff, Prod.mk.injEq] at h
    obtain ⟨⟨value, q₁⟩, h, rfl, rfl⟩ := h
    exact pop_section h
  | tryPop value =>
    simp only [perform, Option.some.injEq, Prod.mk.injEq] at h
    obtain ⟨rfl, rfl⟩ := h
    exact tryPop_section q value
  | close =>
    simp only [perform, Option.some.injEq, Prod.mk.injEq] at h
    obtain ⟨rfl, rfl⟩ := h
    exact close_section q

structure Threads (α : Type) where
  queue : BlockingQueue α
  calls : ℕ → Option (Call α) := fun _ ↦ none
  history : List (Return α) := []

inductive Move (α : Type)
  | enter (thread : ℕ) (call : Call α)
  | perform (thread : ℕ)

namespace Threads

def ofCapacity (capacity : ℕ) : Threads α := { queue := { capacity := capacity } }

def step (t : Threads α) : Move α → Threads α
  | .enter thread call =>
    match t.calls thread with
    | none => { t with calls := Function.update t.calls thread (some call) }
    | some _ => t
  | .perform thread =>
    match t.calls thread with
    | none => t
    | some call =>
      match t.queue.perform call with
      | none => t
      | some (r, q) =>
        { queue := q
          calls := Function.update t.calls thread none
          history := t.history ++ [r] }

def accepted (t : Threads α) : List α := t.history.filterMap Return.accepted

def returned (t : Threads α) : List α := t.history.filterMap Return.returned

variable {t t' : Threads α}

theorem step_cases (t : Threads α) (m : Move α) :
    ((t.step m).queue = t.queue ∧ (t.step m).history = t.history) ∨
      ∃ r, Section t.queue r (t.step m).queue ∧ (t.step m).history = t.history ++ [r] := by
  cases m with
  | enter thread call =>
    left
    simp only [step]
    split <;> exact ⟨rfl, rfl⟩
  | perform thread =>
    simp only [step]
    split
    · exact .inl ⟨rfl, rfl⟩
    · split
      · exact .inl ⟨rfl, rfl⟩
      · rename_i r q h
        exact .inr ⟨r, perform_section h, rfl⟩

structure Linear (capacity : ℕ) (t : Threads α) : Prop where
  limit : t.queue.capacity = capacity
  bounded : 0 < capacity → t.queue.queue.length ≤ capacity
  fifo : t.returned ++ t.queue.queue = t.accepted
  closed : Return.close ∈ t.history → t.queue.closed = true
  silent : Lawful (fun before r ↦ Return.close ∈ before → r.accepted = none) t.history

variable {capacity : ℕ}

theorem linear_ofCapacity (capacity : ℕ) : Linear capacity (ofCapacity (α := α) capacity) := by
  constructor <;> simp [ofCapacity, returned, accepted]

theorem Linear.of_eq (h : Linear capacity t) (hq : t'.queue = t.queue)
    (hh : t'.history = t.history) : Linear capacity t' := by
  have ha : t'.accepted = t.accepted := congrArg (List.filterMap Return.accepted) hh
  have hr : t'.returned = t.returned := congrArg (List.filterMap Return.returned) hh
  refine ⟨?_, ?_, ?_, ?_, ?_⟩
  · rw [hq]
    exact h.limit
  · rw [hq]
    exact h.bounded
  · rw [hr, ha, hq]
    exact h.fifo
  · rw [hh, hq]
    exact h.closed
  · rw [hh]
    exact h.silent

theorem Linear.performed (h : Linear capacity t) {r : Return α}
    (hs : Section t.queue r t'.queue) (hh : t'.history = t.history ++ [r]) :
    Linear capacity t' := by
  have hc := h.limit
  refine ⟨hs.capacity.trans hc, ?_, ?_, ?_, ?_⟩
  · intro hpos
    rw [← hc]
    exact hs.room (hc ▸ hpos) (hc ▸ h.bounded hpos)
  · have ha : t'.accepted = t.accepted ++ r.accepted.toList := by
      rw [accepted, hh, List.filterMap_append]
      cases hr : r.accepted <;> simp [accepted, hr]
    have hr : t'.returned = t.returned ++ r.returned.toList := by
      rw [returned, hh, List.filterMap_append]
      cases hr : r.returned <;> simp [returned, hr]
    calc t'.returned ++ t'.queue.queue
        = t.returned ++ (r.returned.toList ++ t'.queue.queue) := by rw [hr, List.append_assoc]
      _ = t.returned ++ t.queue.queue ++ r.accepted.toList := by
          rw [← hs.balance, List.append_assoc]
      _ = t'.accepted := by rw [h.fifo, ha]
  · intro hm
    rw [hh, List.mem_append, List.mem_singleton] at hm
    rcases hm with hm | hm
    · exact hs.closed.mpr (.inl (h.closed hm))
    · exact hs.closed.mpr (.inr hm.symm)
  · rw [hh]
    exact (lawful_concat _ r).mpr ⟨h.silent, fun hm ↦ hs.open_ (h.closed hm)⟩

theorem Linear.step (h : Linear capacity t) (m : Move α) : Linear capacity (t.step m) := by
  rcases step_cases t m with ⟨hq, hh⟩ | ⟨r, hs, hh⟩
  · exact h.of_eq hq hh
  · exact h.performed hs hh

theorem step_pop_none {m : Move α} (h : (t.step m).history = t.history ++ [.pop none]) :
    t.queue.closed = true ∧ t.queue.queue = [] := by
  rcases step_cases t m with ⟨-, hh⟩ | ⟨r, hs, hh⟩
  · rw [hh] at h
    simp at h
  · apply hs.empty
    simpa using hh.symm.trans h

theorem performed_iff {thread : ℕ} {call : Call α} (h : t.calls thread = some call) :
    (t.step (.perform thread)).calls thread = none ↔ t.queue.Ready call := by
  rw [← not_iff_not, ← perform_eq_none_iff, step, h]
  dsimp only
  cases hp : t.queue.perform call with
  | none => simp [h]
  | some rq => simp

/-- The threads take the queue for one list that is filled at the back and emptied at
the front. -/
theorem threads_linear_fifo (capacity : ℕ) (moves : List (Move α)) :
    (exec step (ofCapacity capacity) moves).returned ++
        (exec step (ofCapacity capacity) moves).queue.queue =
      (exec step (ofCapacity capacity) moves).accepted ∧
    (0 < capacity →
      (exec step (ofCapacity capacity) moves).queue.queue.length ≤ capacity) ∧
    (∀ before r after, (exec step (ofCapacity capacity) moves).history = before ++ r :: after →
      .close ∈ before → r.accepted = none) ∧
    (∀ m : Move α, (step (exec step (ofCapacity capacity) moves) m).history =
        (exec step (ofCapacity capacity) moves).history ++ [.pop none] →
      (exec step (ofCapacity capacity) moves).queue.closed = true ∧
        (exec step (ofCapacity capacity) moves).queue.queue = []) ∧
    ∀ thread call, (exec step (ofCapacity capacity) moves).calls thread = some call →
      ((step (exec step (ofCapacity capacity) moves) (.perform thread)).calls thread = none ↔
        (exec step (ofCapacity capacity) moves).queue.Ready call) := by
  have h : Linear capacity (exec step (ofCapacity (α := α) capacity) moves) :=
    exec_invariant (fun _ m h ↦ h.step m) (linear_ofCapacity capacity) moves
  exact ⟨h.fifo, h.bounded, h.silent, fun m ↦ step_pop_none, fun thread call ↦ performed_iff⟩

end Threads

end TriFusion.Foundation.BlockingQueue
