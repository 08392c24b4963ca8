import Mathlib.Data.List.Basic

namespace TriFusion.Library.EndedLines

variable {α : Type*} [DecidableEq α] (cr lf : α)

/-- A text cut at each `cr` that an `lf` follows. -/
def split : List α → List (List α)
  | [] => [[]]
  | [x] => [[x]]
  | x :: y :: rest =>
    if x = cr ∧ y = lf then [] :: split rest else (split (y :: rest)).modifyHead (x :: ·)

/-- What stands before the first `cr lf cr lf` of a text. -/
def head : List α → List α
  | [] => []
  | x :: rest => if [cr, lf, cr, lf].isPrefixOf (x :: rest) then [] else x :: head rest

def ended (lines : List (List α)) : List α := lines.flatMap (· ++ [cr, lf])

variable {cr lf} {x : α} {line text : List α}

theorem split_cons (h : ∀ rest, text ≠ lf :: rest) :
    split cr lf (x :: text) = (split cr lf text).modifyHead (x :: ·) := by
  cases text with
  | nil => rfl
  | cons y rest =>
    rw [split, if_neg]
    intro he
    exact h rest (by rw [he.2])

theorem head_cons (h : ∀ rest, text ≠ lf :: rest) :
    head cr lf (x :: text) = x :: head cr lf text := by
  rw [head, if_neg]
  intro he
  cases text with
  | nil => simp at he
  | cons y rest =>
    have hy : lf = y := by
      simp only [List.isPrefixOf, Bool.and_eq_true, beq_iff_eq] at he
      exact he.2.1
    exact h rest (by rw [hy])

omit [DecidableEq α] in
theorem append_ne (hne : cr ≠ lf) (hl : lf ∉ line) (rest tail : List α) :
    line ++ cr :: tail ≠ lf :: rest := by
  intro h
  cases line with
  | nil => exact hne (List.cons.inj h).1
  | cons y line => exact hl (by rw [(List.cons.inj h).1]; exact List.mem_cons_self)

theorem split_of_not_mem (hl : lf ∉ line) : split cr lf line = [line] := by
  induction line with
  | nil => rfl
  | cons x line ih =>
    have hrest : lf ∉ line := fun hm ↦ hl (List.mem_cons_of_mem _ hm)
    rw [split_cons, ih hrest]
    · rfl
    · intro rest he
      rw [he] at hrest
      exact hrest List.mem_cons_self

theorem split_append (hne : cr ≠ lf) (hl : lf ∉ line) (text : List α) :
    split cr lf (line ++ cr :: lf :: text) = line :: split cr lf text := by
  induction line with
  | nil => simp [split]
  | cons x line ih =>
    have hrest : lf ∉ line := fun hm ↦ hl (List.mem_cons_of_mem _ hm)
    rw [List.cons_append, split_cons (fun rest ↦ append_ne hne hrest rest _), ih hrest]
    rfl

theorem head_append (hne : cr ≠ lf) (hl : lf ∉ line) (text : List α) :
    head cr lf (line ++ cr :: text) = line ++ head cr lf (cr :: text) := by
  induction line with
  | nil => rfl
  | cons x line ih =>
    have hrest : lf ∉ line := fun hm ↦ hl (List.mem_cons_of_mem _ hm)
    rw [List.cons_append, head_cons (fun rest ↦ append_ne hne hrest rest _), ih hrest]
    rfl

theorem head_end (hne : cr ≠ lf) (h : ∀ rest, text ≠ cr :: lf :: rest) :
    head cr lf (cr :: lf :: text) = cr :: lf :: head cr lf text := by
  rw [head, if_neg, head, if_neg]
  · simp [List.isPrefixOf, hne]
  · intro he
    simp only [List.isPrefixOf, beq_self_eq_true, Bool.true_and] at he
    rcases text with _ | ⟨y, _ | ⟨z, rest⟩⟩
    · simp at he
    · simp at he
    · simp only [List.isPrefixOf, Bool.and_true, Bool.and_eq_true, beq_iff_eq] at he
      exact h rest (by rw [he.1, he.2])

omit [DecidableEq α] in
theorem ended_cons_append (line : List α) (lines : List (List α)) (tail : List α) :
    ended cr lf (line :: lines) ++ tail = line ++ cr :: lf :: (ended cr lf lines ++ tail) := by
  simp [ended]

omit [DecidableEq α] in
theorem ended_eq {lines : List (List α)} (hlines : lines ≠ []) :
    ended cr lf lines = List.intercalate [cr, lf] lines ++ [cr, lf] := by
  induction lines with
  | nil => exact absurd rfl hlines
  | cons line lines ih =>
    cases lines with
    | nil => simp [ended]
    | cons next lines =>
      have hrest := ih (List.cons_ne_nil next lines)
      rw [ended] at hrest ⊢
      rw [List.flatMap_cons, hrest, List.intercalate_cons_cons]
      simp only [List.append_assoc]

theorem head_ended (hne : cr ≠ lf) {lines : List (List α)} (hlines : lines ≠ [])
    (h : ∀ line ∈ lines, line ≠ [] ∧ lf ∉ line) (body : List α) :
    head cr lf (ended cr lf lines ++ cr :: lf :: body) = List.intercalate [cr, lf] lines := by
  induction lines with
  | nil => exact absurd rfl hlines
  | cons line lines ih =>
    obtain ⟨-, hl⟩ := h line List.mem_cons_self
    have hrest : ∀ line ∈ lines, line ≠ [] ∧ lf ∉ line :=
      fun line hm ↦ h line (List.mem_cons_of_mem _ hm)
    rw [ended_cons_append, head_append hne hl]
    cases lines with
    | nil =>
      have hend : head cr lf (cr :: lf :: (ended cr lf [] ++ cr :: lf :: body)) = [] := by
        simp [ended, head]
      rw [hend, List.append_nil, List.intercalate_singleton]
    | cons next lines =>
      obtain ⟨hn, hnl⟩ := hrest next List.mem_cons_self
      have hnext : ∀ rest, ended cr lf (next :: lines) ++ cr :: lf :: body ≠ cr :: lf :: rest := by
        intro rest he
        obtain ⟨y, next, rfl⟩ := List.exists_cons_of_ne_nil hn
        have hn' : lf ∉ next := fun hm ↦ hnl (List.mem_cons_of_mem _ hm)
        rw [ended_cons_append] at he
        exact append_ne hne hn' rest _ (List.cons.inj he).2
      rw [head_end hne hnext, ih (List.cons_ne_nil _ _) hrest, List.intercalate_cons_cons,
        List.append_assoc]
      rfl

theorem split_intercalate (hne : cr ≠ lf) {lines : List (List α)} (hlines : lines ≠ [])
    (h : ∀ line ∈ lines, lf ∉ line) : split cr lf (List.intercalate [cr, lf] lines) = lines := by
  induction lines with
  | nil => exact absurd rfl hlines
  | cons line lines ih =>
    have hl := h line List.mem_cons_self
    cases lines with
    | nil => rw [List.intercalate_singleton, split_of_not_mem hl]
    | cons next lines =>
      have hrest := ih (List.cons_ne_nil next lines) fun line hm ↦
        h line (List.mem_cons_of_mem _ hm)
      rw [List.intercalate_cons_cons, List.append_assoc]
      exact (split_append hne hl _).trans (congrArg (line :: ·) hrest)

theorem split_head (hne : cr ≠ lf) {lines : List (List α)} (hlines : lines ≠ [])
    (h : ∀ line ∈ lines, line ≠ [] ∧ lf ∉ line) (body : List α) :
    split cr lf (head cr lf (ended cr lf lines ++ cr :: lf :: body)) = lines := by
  rw [head_ended hne hlines h]
  exact split_intercalate hne hlines fun line hl ↦ (h line hl).2

theorem drop_head (hne : cr ≠ lf) {lines : List (List α)} (hlines : lines ≠ [])
    (h : ∀ line ∈ lines, line ≠ [] ∧ lf ∉ line) (body : List α) :
    (ended cr lf lines ++ cr :: lf :: body).drop
      ((head cr lf (ended cr lf lines ++ cr :: lf :: body)).length + 4) = body := by
  rw [head_ended hne hlines h, ended_eq hlines, ← List.drop_drop, List.append_assoc, List.drop_left]
  rfl

end TriFusion.Library.EndedLines
