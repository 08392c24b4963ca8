import Mathlib.Data.List.Basic

namespace TriFusion.Library.Backlog

variable {α : Type*}

/-- Entry `i` of the log is queued no more. -/
def Left (log queue : List α) (i : ℕ) : Prop := i + queue.length < log.length

def lastLeft (log queue : List α) : ℕ := log.length - queue.length - 1

variable {log queue queue' : List α} {i k : ℕ} {a : α}

theorem Left.push (h : Left log queue i) (hq : queue'.length ≤ queue.length + 1) (a : α) :
    Left (log ++ [a]) queue' i := by
  rw [Left, List.length_append, List.length_singleton]
  rw [Left] at h
  omega

theorem Left.shrink (h : Left log queue i) (hq : queue'.length ≤ queue.length) :
    Left log queue' i := by
  rw [Left] at h ⊢
  omega

theorem Left.lt_lastLeft (h : Left log queue i) (hk : k < queue.length) :
    i < lastLeft log (queue.drop (k + 1)) := by
  rw [Left] at h
  rw [lastLeft, List.length_drop]
  omega

theorem lastLeft_drop (h : queue <:+ log) (hk : k < queue.length) :
    lastLeft log (queue.drop (k + 1)) = log.length - queue.length + k := by
  have hlen := h.length_le
  rw [lastLeft, List.length_drop]
  omega

theorem left_lastLeft (h : queue <:+ log) (hk : k < queue.length) :
    Left log (queue.drop (k + 1)) (lastLeft log (queue.drop (k + 1))) := by
  have hlen := h.length_le
  rw [lastLeft_drop h hk, Left, List.length_drop]
  omega

theorem entry_lastLeft (h : queue <:+ log) (hk : queue[k]? = some a) :
    log[lastLeft log (queue.drop (k + 1))]? = some a := by
  obtain ⟨hlt, hget⟩ := List.getElem?_eq_some_iff.mp hk
  obtain ⟨past, rfl⟩ := h
  rw [lastLeft_drop (List.suffix_append past queue) hlt, List.length_append, Nat.add_sub_cancel,
    List.getElem?_append_right (Nat.le_add_right _ _), Nat.add_sub_cancel_left]
  exact hk

end TriFusion.Library.Backlog
