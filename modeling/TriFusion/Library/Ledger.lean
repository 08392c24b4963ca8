import Mathlib.Data.List.Basic

namespace TriFusion.Library

variable {α : Type*}

/-- The history of a queue that is filled at the back and emptied at the front. -/
structure Ledger (α : Type*) where
  accepted : List α := []
  delivered : List α := []
  discarded : ℕ := 0

namespace Ledger

def accept (a : α) (l : Ledger α) : Ledger α := { l with accepted := l.accepted ++ [a] }

def deliver (a : α) (l : Ledger α) : Ledger α := { l with delivered := l.delivered ++ [a] }

def discard (n : ℕ) (l : Ledger α) : Ledger α := { l with discarded := l.discarded + n }

/-- What was accepted either is still queued or has left in order, read or discarded. -/
def Balanced (l : Ledger α) (queue : List α) : Prop :=
  ∃ past, l.accepted = past ++ queue ∧ l.delivered.Sublist past ∧
    past.length = l.discarded + l.delivered.length

variable {l : Ledger α} {queue : List α} {a : α}

theorem balanced_empty : Balanced ({} : Ledger α) [] := ⟨[], rfl, List.Sublist.refl [], rfl⟩

theorem Balanced.accept (h : Balanced l queue) (a : α) : Balanced (l.accept a) (queue ++ [a]) := by
  obtain ⟨past, ha, hd, hc⟩ := h
  refine ⟨past, ?_, hd, hc⟩
  simp only [Ledger.accept, ha, List.append_assoc]

theorem Balanced.deliver (h : Balanced l (a :: queue)) : Balanced (l.deliver a) queue := by
  obtain ⟨past, ha, hd, hc⟩ := h
  refine ⟨past ++ [a], ?_, hd.append_right [a], ?_⟩
  · simp only [Ledger.deliver, ha, List.append_assoc, List.singleton_append]
  · simp only [Ledger.deliver, List.length_append, hc, Nat.add_assoc]

theorem Balanced.discard (h : Balanced l queue) {n : ℕ} (hn : n ≤ queue.length) :
    Balanced (l.discard n) (queue.drop n) := by
  obtain ⟨past, ha, hd, hc⟩ := h
  refine ⟨past ++ queue.take n, ?_, ?_, ?_⟩
  · simp only [Ledger.discard, ha, List.append_assoc, List.take_append_drop]
  · exact hd.trans (List.sublist_append_left past _)
  · simp only [Ledger.discard, List.length_append, List.length_take, Nat.min_eq_left hn, hc]
    omega

theorem Balanced.delivered_sublist (h : Balanced l queue) : l.delivered.Sublist l.accepted := by
  obtain ⟨past, ha, hd, -⟩ := h
  rw [ha]
  exact hd.trans (List.sublist_append_left past queue)

theorem Balanced.count (h : Balanced l queue) :
    l.accepted.length = l.discarded + l.delivered.length + queue.length := by
  obtain ⟨past, ha, -, hc⟩ := h
  rw [ha, List.length_append, hc]

end Ledger

end TriFusion.Library
