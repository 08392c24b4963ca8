import Mathlib.Data.List.Basic
import Mathlib.Data.List.Induction

namespace TriFusion.Library.Delimited

variable {α : Type*} (ends : List α → Bool)

/-- The pieces of a stream. A piece is complete as soon as what has been read of
it satisfies `ends`; `piece` is what has been read of the first one. -/
def piecesFrom (piece : List α) : List α → List (List α)
  | [] => []
  | a :: rest =>
    if ends (piece ++ [a]) then (piece ++ [a]) :: piecesFrom [] rest
    else piecesFrom (piece ++ [a]) rest

def pieces (stream : List α) : List (List α) := piecesFrom ends [] stream

inductive Reading (α : Type*)
  | complete (piece rest : List α)
  | refused
  | waiting

/-- A reader that gives up on a piece once it holds `limit` elements. -/
def readFrom (limit : ℕ) (piece : List α) : List α → Reading α
  | [] => if piece.length < limit then .waiting else .refused
  | a :: rest =>
    if piece.length < limit then
      if ends (piece ++ [a]) then .complete (piece ++ [a]) rest
      else readFrom limit (piece ++ [a]) rest
    else .refused

structure FirstEnd (piece : List α) : Prop where
  complete : ends piece = true
  first : ∀ before, before <+: piece → before ≠ piece → ends before = false

variable {ends} {limit : ℕ} {piece : List α}

theorem piecesFrom_split (hpiece : ∀ before, before <+: piece → ends before = false)
    (hnil : ends [] = false) (stream : List α) :
    ∃ rest, piece ++ stream = (piecesFrom ends piece stream).flatten ++ rest ∧
      (∀ p ∈ piecesFrom ends piece stream, FirstEnd ends p) ∧
        ∀ before, before <+: rest → ends before = false := by
  induction stream generalizing piece with
  | nil =>
    refine ⟨piece, List.append_nil _, ?_, hpiece⟩
    intro p hp
    exact absurd hp List.not_mem_nil
  | cons a stream ih =>
    rw [piecesFrom, List.append_cons piece a stream]
    split
    · rename_i hends
      have hempty : ∀ before, before <+: [] → ends before = false := by
        intro before hb
        rw [List.prefix_nil.mp hb]
        exact hnil
      obtain ⟨rest, he, hfirst, hrest⟩ := ih hempty
      refine ⟨rest, ?_, ?_, hrest⟩
      · rw [List.flatten_cons, List.append_assoc (piece ++ [a]), ← he, List.nil_append]
      · intro p hp
        rcases List.mem_cons.mp hp with rfl | hp
        · refine ⟨hends, fun before hb hne ↦ ?_⟩
          rcases List.prefix_concat_iff.mp hb with he | hb
          · exact absurd he hne
          · exact hpiece before hb
        · exact hfirst p hp
    · rename_i hends
      refine ih fun before hb ↦ ?_
      rcases List.prefix_concat_iff.mp hb with rfl | hb
      · simpa using hends
      · exact hpiece before hb

/-- The stream is its pieces, each up to its first end, and a rest without an end. -/
theorem pieces_split (hnil : ends [] = false) (stream : List α) :
    ∃ rest, stream = (pieces ends stream).flatten ++ rest ∧
      (∀ p ∈ pieces ends stream, FirstEnd ends p) ∧
        ∀ before, before <+: rest → ends before = false := by
  have hempty : ∀ before, before <+: [] → ends before = false := by
    intro before hb
    rw [List.prefix_nil.mp hb]
    exact hnil
  exact piecesFrom_split hempty hnil stream

theorem piecesFrom_append {next : List α} (h : FirstEnd ends (piece ++ next)) (hne : next ≠ [])
    (stream : List α) :
    piecesFrom ends piece (next ++ stream) = (piece ++ next) :: pieces ends stream := by
  induction next generalizing piece with
  | nil => exact absurd rfl hne
  | cons a next ih =>
    rw [List.append_cons] at h ⊢
    rw [List.cons_append, piecesFrom]
    cases next with
    | nil =>
      rw [List.append_nil] at h ⊢
      rw [if_pos h.complete]
      rfl
    | cons b next =>
      have hends : ends (piece ++ [a]) = false := by
        refine h.first _ (List.prefix_append _ _) ?_
        intro he
        exact List.cons_ne_nil b next (List.self_eq_append_right.mp he)
      rw [hends, if_neg Bool.false_ne_true]
      exact ih h (List.cons_ne_nil b next)

theorem pieces_flatten (hnil : ends [] = false) {l : List (List α)} (h : ∀ p ∈ l, FirstEnd ends p) :
    pieces ends l.flatten = l := by
  induction l with
  | nil => rfl
  | cons p l ih =>
    have hp : FirstEnd ends ([] ++ p) := h p List.mem_cons_self
    have hne : p ≠ [] := by
      rintro rfl
      exact Bool.false_ne_true (hnil.symm.trans hp.complete)
    rw [List.flatten_cons, pieces, piecesFrom_append hp hne]
    exact congrArg (p :: ·) (ih fun q hq ↦ h q (List.mem_cons_of_mem p hq))

theorem firstEnd_of_marked {marked : α → Bool} {p : List α} (hne : p ≠ [])
    (hm : ∀ k (hk : k < p.length), marked p[k] = decide (k + 1 = p.length)) :
    FirstEnd (fun piece ↦ piece.getLast?.any marked) p := by
  have hpos := List.length_pos_of_ne_nil hne
  constructor
  case complete =>
    rw [List.getLast?_eq_getElem?, List.getElem?_eq_getElem (Nat.sub_lt hpos Nat.one_pos),
      Option.any_some, hm]
    exact decide_eq_true (Nat.sub_add_cancel hpos)
  case first =>
    intro before hb hbne
    have hlt : before.length < p.length :=
      Nat.lt_of_le_of_ne hb.length_le fun h ↦ hbne (hb.eq_of_length h)
    cases before using List.reverseRecOn with
    | nil => rfl
    | append_singleton before a =>
      obtain ⟨after, rfl⟩ := hb
      have hk : before.length < (before ++ [a] ++ after).length := by
        simp only [List.length_append, List.length_singleton]
        omega
      have ha := hm before.length hk
      have hget : (before ++ [a] ++ after)[before.length] = a := by simp
      rw [hget] at ha
      rw [List.getLast?_concat, Option.any_some, ha]
      refine decide_eq_false ?_
      rw [List.length_append, List.length_singleton] at hlt
      exact Nat.ne_of_lt hlt

theorem piecesFrom_mono (piece first second : List α) :
    piecesFrom ends piece first <+: piecesFrom ends piece (first ++ second) := by
  induction first generalizing piece with
  | nil => exact List.nil_prefix
  | cons a rest ih =>
    simp only [List.cons_append, piecesFrom]
    split
    · exact (List.prefix_cons_inj _).mpr (ih [])
    · exact ih _

theorem length_lt_of_piecesFrom {stream next : List α} {others : List (List α)}
    (h : piecesFrom ends piece stream = next :: others) : piece.length < next.length := by
  induction stream generalizing piece with
  | nil => cases h
  | cons a rest ih =>
    rw [piecesFrom] at h
    split at h
    · obtain ⟨rfl, -⟩ := List.cons.inj h
      simp
    · have hlt := ih h
      simp only [List.length_append, List.length_singleton] at hlt
      exact Nat.lt_of_succ_lt hlt

/-- A complete piece is the first one of the stream, however the stream goes on. -/
theorem readFrom_complete {stream next rest : List α}
    (h : readFrom ends limit piece stream = .complete next rest) (more : List α) :
    next.length ≤ limit ∧
      piecesFrom ends piece (stream ++ more) = next :: pieces ends (rest ++ more) := by
  induction stream generalizing piece with
  | nil =>
    rw [readFrom] at h
    split at h <;> cases h
  | cons a stream ih =>
    rw [readFrom] at h
    rw [List.cons_append, piecesFrom]
    split at h
    · rename_i hlt
      split at h
      · rename_i hends
        cases h
        refine ⟨?_, if_pos hends⟩
        simp only [List.length_append, List.length_singleton]
        exact hlt
      · rename_i hends
        rw [if_neg hends]
        exact ih h
    · cases h

theorem readFrom_of_piecesFrom {stream next : List α} {others : List (List α)}
    (h : piecesFrom ends piece stream = next :: others) (hl : next.length ≤ limit) :
    ∃ rest, readFrom ends limit piece stream = .complete next rest ∧ pieces ends rest = others := by
  induction stream generalizing piece with
  | nil => cases h
  | cons a rest ih =>
    have hlt : piece.length < limit := Nat.lt_of_lt_of_le (length_lt_of_piecesFrom h) hl
    rw [piecesFrom] at h
    rw [readFrom, if_pos hlt]
    split at h
    · rename_i hends
      obtain ⟨rfl, rfl⟩ := List.cons.inj h
      exact ⟨rest, if_pos hends, rfl⟩
    · rename_i hends
      rw [if_neg hends]
      exact ih h

theorem piecesFrom_of_waiting {stream : List α}
    (h : readFrom ends limit piece stream = .waiting) : piecesFrom ends piece stream = [] := by
  induction stream generalizing piece with
  | nil => rfl
  | cons a rest ih =>
    rw [readFrom] at h
    rw [piecesFrom]
    split at h
    · split at h
      · cases h
      · rename_i hends
        rw [if_neg hends]
        exact ih h
    · cases h

/-- A reader that has given up has given up for good. -/
theorem readFrom_refused {stream : List α} (h : readFrom ends limit piece stream = .refused)
    (more : List α) : readFrom ends limit piece (stream ++ more) = .refused := by
  induction stream generalizing piece with
  | nil =>
    have hl : ¬piece.length < limit := by
      intro hl
      rw [readFrom, if_pos hl] at h
      cases h
    rw [List.nil_append]
    cases more <;> rw [readFrom, if_neg hl]
  | cons a rest ih =>
    rw [readFrom] at h
    rw [List.cons_append, readFrom]
    split at h
    · rename_i hl
      split at h
      · cases h
      · rename_i hends
        rw [if_pos hl, if_neg hends]
        exact ih h
    · rename_i hl
      rw [if_neg hl]

theorem limit_lt_of_refused {stream more next : List α} {others : List (List α)}
    (h : readFrom ends limit piece stream = .refused)
    (hp : piecesFrom ends piece (stream ++ more) = next :: others) : limit < next.length := by
  refine Nat.lt_of_not_le fun hl ↦ ?_
  obtain ⟨rest, hc, -⟩ := readFrom_of_piecesFrom hp hl
  rw [readFrom_refused h more] at hc
  cases hc

end TriFusion.Library.Delimited
