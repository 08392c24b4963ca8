import Mathlib.Data.List.Basic

namespace TriFusion.Library.Fragments

variable {α : Type*}

/-- One piece of a list that is sent in pieces. -/
structure Fragment (α : Type*) where
  offset : ℕ
  first : Bool
  last : Bool
  data : List α

/-- A list cut into pieces that are not empty and fit their room: the first
piece may have less room than the others. -/
inductive Cut (room : Bool → ℕ) : Bool → ℕ → List α → List (Fragment α) → Prop
  | done (first : Bool) (offset : ℕ) : Cut room first offset [] []
  | piece {first : Bool} {offset : ℕ} {chunk rest : List α} {fragments : List (Fragment α)}
      (nonempty : chunk ≠ []) (fits : chunk.length ≤ room first)
      (tail : Cut room false (offset + chunk.length) rest fragments) :
      Cut room first offset (chunk ++ rest) (⟨offset, first, rest.isEmpty, chunk⟩ :: fragments)

namespace Cut

variable {room : Bool → ℕ} {first : Bool} {offset : ℕ} {data : List α}
  {fragments : List (Fragment α)}

theorem flatten (h : Cut room first offset data fragments) :
    (fragments.map Fragment.data).flatten = data := by
  induction h with
  | done => rfl
  | piece nonempty fits tail ih => rw [List.map_cons, List.flatten_cons, ih]

theorem isEmpty (h : Cut room first offset data fragments) :
    data.isEmpty = fragments.isEmpty := by
  cases h with
  | done => rfl
  | piece nonempty fits tail =>
    cases hd : (_ ++ _ : List α) with
    | nil => exact absurd (List.append_eq_nil_iff.mp hd).1 nonempty
    | cons => rfl

theorem fits (h : Cut room first offset data fragments) {f : Fragment α} (hf : f ∈ fragments) :
    f.data ≠ [] ∧ f.data.length ≤ room f.first := by
  induction h with
  | done => exact absurd hf List.not_mem_nil
  | piece nonempty fits tail ih =>
    rcases List.mem_cons.mp hf with rfl | hf
    · exact ⟨nonempty, fits⟩
    · exact ih hf

theorem offset_eq (h : Cut room first offset data fragments) {k : ℕ} (hk : k < fragments.length) :
    fragments[k].offset = offset + ((fragments.take k).map Fragment.data).flatten.length := by
  induction h generalizing k with
  | done => exact absurd hk (Nat.not_lt_zero k)
  | piece nonempty fits tail ih =>
    cases k with
    | zero => rfl
    | succ k =>
      simp only [List.getElem_cons_succ, List.take_succ_cons, List.map_cons, List.flatten_cons,
        List.length_append, ih (Nat.lt_of_succ_lt_succ hk), Nat.add_assoc]

theorem first_eq (h : Cut room first offset data fragments) {k : ℕ} (hk : k < fragments.length) :
    fragments[k].first = (decide (k = 0) && first) := by
  induction h generalizing k with
  | done => exact absurd hk (Nat.not_lt_zero k)
  | piece nonempty fits tail ih =>
    cases k with
    | zero => rfl
    | succ k => simpa using ih (Nat.lt_of_succ_lt_succ hk)

theorem last_eq (h : Cut room first offset data fragments) {k : ℕ} (hk : k < fragments.length) :
    fragments[k].last = decide (k + 1 = fragments.length) := by
  induction h generalizing k with
  | done => exact absurd hk (Nat.not_lt_zero k)
  | @piece first offset chunk rest fragments nonempty fits tail ih =>
    cases k with
    | zero =>
      rw [List.getElem_cons_zero, tail.isEmpty]
      cases fragments <;> simp
    | succ k => simpa using ih (Nat.lt_of_succ_lt_succ hk)

end Cut

end TriFusion.Library.Fragments
