import Mathlib.Data.Nat.ModEq
import Mathlib.Tactic.Ring

namespace TriFusion.Library.PairSum

/-- Digits summed as words of two; a last digit alone is the upper one of its word. -/
def pairSum (base : ℕ) : List ℕ → ℕ
  | [] => 0
  | [hi] => hi * base
  | hi :: lo :: rest => hi * base + lo + pairSum base rest

def weight (base : ℕ) : ℕ → ℕ
  | 0 => base
  | 1 => 1
  | i + 2 => weight base i

variable {base : ℕ}

theorem weight_cases (base i : ℕ) : weight base i = base ∨ weight base i = 1 := by
  induction i using weight.induct with
  | case1 => exact .inl rfl
  | case2 => exact .inr rfl
  | case3 i ih => exact ih

theorem pairSum_set (digits : List ℕ) (d : ℕ) {i : ℕ} (hi : i < digits.length) :
    pairSum base (digits.set i d) + digits[i] * weight base i =
      pairSum base digits + d * weight base i := by
  induction i using weight.induct generalizing digits with
  | case1 =>
    rcases digits with _ | ⟨a, _ | ⟨b, rest⟩⟩
    · simp at hi
    · simp only [List.set_cons_zero, pairSum, List.getElem_cons_zero, weight]
      ring
    · simp only [List.set_cons_zero, pairSum, List.getElem_cons_zero, weight]
      ring
  | case2 =>
    rcases digits with _ | ⟨a, _ | ⟨b, rest⟩⟩
    · simp at hi
    · simp at hi
    · simp only [List.set_cons_succ, List.set_cons_zero, pairSum, List.getElem_cons_succ,
        List.getElem_cons_zero, weight]
      ring
  | case3 i ih =>
    rcases digits with _ | ⟨a, _ | ⟨b, rest⟩⟩
    · simp at hi
    · simp at hi
    · have hlt : i < rest.length := by simpa using hi
      have hr := ih rest hlt
      simp only [List.set_cons_succ, pairSum, List.getElem_cons_succ, weight]
      calc a * base + b + pairSum base (rest.set i d) + rest[i] * weight base i
          = a * base + b + (pairSum base (rest.set i d) + rest[i] * weight base i) := by ring
        _ = a * base + b + pairSum base rest + d * weight base i := by rw [hr]; ring

/-- The sum modulo the number of words sees every change of a single digit. -/
theorem pairSum_set_modEq (hpos : 0 < base) (digits : List ℕ) {i d : ℕ} (hi : i < digits.length)
    (hold : digits[i] < base) (hnew : d < base)
    (h : pairSum base (digits.set i d) ≡ pairSum base digits [MOD base * base]) :
    d = digits[i] := by
  have hs := @pairSum_set base digits d i hi
  have hm : digits[i] * weight base i ≡ d * weight base i [MOD base * base] := by
    apply Nat.ModEq.add_left_cancel h
    rw [hs]
  have hle : weight base i ≤ base := by
    rcases weight_cases base i with hw | hw
    · exact hw.le
    · rw [hw]
      exact hpos
  have hw : 0 < weight base i := by
    rcases weight_cases base i with hw | hw
    · rw [hw]
      exact hpos
    · rw [hw]
      exact Nat.one_pos
  have hlt : ∀ {a : ℕ}, a < base → a * weight base i < base * base := by
    intro a ha
    calc a * weight base i ≤ a * base := Nat.mul_le_mul_left a hle
      _ < base * base := Nat.mul_lt_mul_of_pos_right ha hpos
  exact (Nat.eq_of_mul_eq_mul_right hw (hm.eq_of_lt_of_lt (hlt hold) (hlt hnew))).symm

end TriFusion.Library.PairSum
