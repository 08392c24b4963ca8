import TriFusion.Library.Runs

namespace TriFusion.Library

open Runs

variable {α σ : Type*}

/-- A log of inputs in which each stands once or more, in their order, as a sender that
tries again leaves it: at most `limit` times each. -/
inductive Repeats (limit : ℕ) : List α → List α → Prop
  | nil : Repeats limit [] []
  | cons (a : α) (n : ℕ) {inputs log : List α} (positive : 0 < n) (bounded : n ≤ limit)
      (rest : Repeats limit inputs log) : Repeats limit (a :: inputs) (List.replicate n a ++ log)

namespace Repeats

variable {limit : ℕ} {inputs log : List α}

theorem mem (h : Repeats limit inputs log) {a : α} (ha : a ∈ log) : a ∈ inputs := by
  induction h with
  | nil => exact ha
  | cons b n _ _ _ ih =>
    rcases List.mem_append.mp ha with ha | ha
    · rw [(List.mem_replicate.mp ha).2]
      exact List.mem_cons_self
    · exact List.mem_cons_of_mem b (ih ha)

theorem take (h : Repeats limit inputs log) (m : ℕ) :
    ∃ k ≤ inputs.length, Repeats limit (inputs.take k) (log.take m) := by
  induction h generalizing m with
  | nil =>
    refine ⟨0, Nat.le_refl _, ?_⟩
    rw [List.take_nil, List.take_nil]
    exact .nil
  | @cons a n inputs log positive bounded rest ih =>
    rcases Nat.lt_or_ge m n with hm | hm
    · have htake : (List.replicate n a ++ log).take m = List.replicate m a := by
        rw [List.take_append_of_le_length (by rw [List.length_replicate]; omega),
          List.take_replicate, Nat.min_eq_left (Nat.le_of_lt hm)]
      rw [htake]
      rcases Nat.eq_zero_or_pos m with rfl | hpos
      · exact ⟨0, Nat.zero_le _, .nil⟩
      · refine ⟨1, by rw [List.length_cons]; omega, ?_⟩
        have hone := Repeats.cons a m hpos (by omega : m ≤ limit) .nil
        rwa [List.append_nil] at hone
    · obtain ⟨k, hk, hr⟩ := ih (m - n)
      refine ⟨k + 1, by rw [List.length_cons]; omega, ?_⟩
      have hall : (List.replicate n a).take m = List.replicate n a := by
        rw [List.take_replicate, Nat.min_eq_right hm]
      rw [List.take_append, List.length_replicate, hall, List.take_succ_cons]
      exact .cons a n positive bounded hr

theorem of_prefix (h : Repeats limit inputs log) {log' : List α} (hp : log' <+: log) :
    ∃ k ≤ inputs.length, Repeats limit (inputs.take k) log' := by
  rw [List.prefix_iff_eq_take.mp hp]
  exact h.take log'.length

theorem exec_replicate {step : σ → α → σ} (hidem : ∀ s a, step (step s a) a = step s a) (s : σ)
    (a : α) {n : ℕ} (h : 0 < n) : exec step s (List.replicate n a) = step s a := by
  induction n with
  | zero => exact absurd h (Nat.lt_irrefl 0)
  | succ n ih =>
    rcases Nat.eq_zero_or_pos n with rfl | hn
    · rfl
    · rw [List.replicate_succ', exec_append, ih hn, exec_cons, exec_nil, hidem]

theorem exec_eq {step : σ → α → σ} (hidem : ∀ s a, step (step s a) a = step s a)
    (h : Repeats limit inputs log) (s : σ) : exec step s log = exec step s inputs := by
  induction h generalizing s with
  | nil => rfl
  | cons a n positive _ _ ih =>
    rw [exec_append, exec_replicate hidem s a positive, ih, exec_cons]

end Repeats

end TriFusion.Library
