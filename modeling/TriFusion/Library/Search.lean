import Mathlib.Data.List.Basic
import Mathlib.Data.List.Infix

namespace TriFusion.Library.Search

variable {α β γ : Type*}

/-- What a reader makes of a list at the first place where it makes something of it. -/
def firstAt (read : List α → Option β) : List α → Option β
  | [] => read []
  | a :: rest =>
    match read (a :: rest) with
    | some b => some b
    | none => firstAt read rest

def upTo [BEq α] (mark : List α) : List α → Option (List α)
  | [] => if mark.isPrefixOf [] then some [] else none
  | a :: rest => if mark.isPrefixOf (a :: rest) then some [] else (upTo mark rest).map (a :: ·)

def behind [BEq α] (mark : List α) : List α → Option (List α) :=
  firstAt fun l ↦ if mark.isPrefixOf l then some (l.drop mark.length) else none

/-- The reader makes nothing of a list whose image under `f` does not begin with `mark`. -/
def Led (f : α → γ) (mark : List γ) (read : List α → Option β) : Prop :=
  ∀ l, ¬mark <+: l.map f → read l = none

variable {read : List α → Option β} {f : α → γ} {mark : List γ}

theorem firstAt_of_some {l : List α} {b : β} (h : read l = some b) : firstAt read l = some b := by
  cases l with
  | nil => exact h
  | cons a rest => rw [firstAt, h]

theorem exists_of_firstAt {l : List α} {b : β} (h : firstAt read l = some b) :
    ∃ rest, rest <:+ l ∧ read rest = some b := by
  induction l with
  | nil => exact ⟨[], List.suffix_rfl, h⟩
  | cons a rest ih =>
    rw [firstAt] at h
    cases hr : read (a :: rest) with
    | some c =>
      rw [hr] at h
      exact ⟨a :: rest, List.suffix_rfl, hr.trans h⟩
    | none =>
      rw [hr] at h
      obtain ⟨found, hs, hf⟩ := ih h
      exact ⟨found, hs.trans (List.suffix_cons a rest), hf⟩

theorem firstAt_append {before rest : List α}
    (h : ∀ k < before.length, read ((before ++ rest).drop k) = none) :
    firstAt read (before ++ rest) = firstAt read rest := by
  induction before with
  | nil => rfl
  | cons a before ih =>
    have hhead : read (a :: (before ++ rest)) = none := h 0 (Nat.succ_pos _)
    rw [List.cons_append, firstAt, hhead]
    exact ih fun k hk ↦ h (k + 1) (Nat.succ_lt_succ hk)

theorem prefix_of_not_mem {a b : List γ} {c : γ} (hc : c ∉ mark) (h : mark <+: a ++ c :: b) :
    mark <+: a := by
  by_cases hlen : mark.length ≤ a.length
  · exact List.prefix_of_prefix_length_le h (List.prefix_append a _) hlen
  · have ha : a ++ [c] <+: mark := by
      refine List.prefix_of_prefix_length_le ⟨b, ?_⟩ h ?_
      · rw [List.append_assoc]
        rfl
      · rw [List.length_append, List.length_singleton]
        omega
    exact absurd (ha.subset (List.mem_append_right a (List.mem_singleton_self c))) hc

theorem not_infix_append {a b : List γ} {c : γ} (hc : c ∉ mark) (hne : mark ≠ [])
    (ha : ¬mark <:+: a) (hb : ¬mark <:+: b) : ¬mark <:+: a ++ c :: b := by
  induction a with
  | nil =>
    rw [List.nil_append, List.infix_cons_iff]
    rintro (h | h)
    · exact hne (List.prefix_nil.mp (prefix_of_not_mem (a := []) hc h))
    · exact hb h
  | cons x a ih =>
    rw [List.infix_cons_iff] at ha
    rw [List.cons_append, List.infix_cons_iff]
    rintro (h | h)
    · exact ha (.inl (prefix_of_not_mem hc h))
    · exact ih (fun h ↦ ha (.inr h)) h

/-- The reader passes a part in which its mark does not stand, up to an element that the mark
does not hold. -/
theorem Led.firstAt_append (h : Led f mark read) {before : List α}
    (hb : ¬mark <:+: before.map f) {c : α} (hc : f c ∉ mark) (rest : List α) :
    firstAt read (before ++ c :: rest) = firstAt read rest := by
  rw [List.append_cons]
  refine Search.firstAt_append fun k hk ↦ h _ fun hp ↦ ?_
  have hle : k ≤ (before ++ [c]).length := Nat.le_of_lt hk
  rw [List.drop_append_of_le_length hle, List.map_append] at hp
  by_cases hkb : k ≤ before.length
  · rw [List.drop_append_of_le_length hkb, List.map_append, List.append_assoc] at hp
    have hinside : mark <:+: (before.drop k).map f :=
      (prefix_of_not_mem hc hp).isInfix
    exact hb (hinside.trans ((List.drop_suffix k before).isInfix.map f))
  · rw [List.length_append, List.length_singleton] at hk
    omega

theorem Led.firstAt_eq_none (h : Led f mark read) {l : List α} (hl : ¬mark <:+: l.map f) :
    firstAt read l = none := by
  induction l with
  | nil =>
    refine h [] fun hp ↦ ?_
    exact hl hp.isInfix
  | cons a rest ih =>
    rw [List.map_cons, List.infix_cons_iff] at hl
    have hhead : read (a :: rest) = none := h _ fun hp ↦ hl (.inl hp)
    rw [firstAt, hhead]
    exact ih fun hi ↦ hl (.inr hi)

section Marks

variable [BEq α] [LawfulBEq α] {mark : List α}

theorem upTo_append {c : α} (rest : List α) {before : List α} (hc : c ∉ before) :
    upTo (c :: mark) (before ++ c :: (mark ++ rest)) = some before := by
  induction before with
  | nil =>
    rw [List.nil_append, upTo, if_pos]
    exact List.isPrefixOf_iff_prefix.mpr (List.prefix_append (c :: mark) rest)
  | cons a before ih =>
    rw [List.cons_append, upTo, if_neg, ih fun hm ↦ hc (List.mem_cons_of_mem a hm)]
    · rfl
    · rw [List.isPrefixOf_iff_prefix]
      rintro ⟨tail, ht⟩
      exact hc (by rw [← (List.cons.inj ht).1]; exact List.mem_cons_self)

theorem behind_append {before : List α} (hb : ¬mark <:+: before) {c : α} (hc : c ∉ mark)
    (rest : List α) : behind mark (before ++ c :: (mark ++ rest)) = some rest := by
  have hled :
      Led id mark fun l ↦ if mark.isPrefixOf l then some (l.drop mark.length) else none := by
    intro l hl
    rw [List.map_id, ← List.isPrefixOf_iff_prefix] at hl
    exact if_neg hl
  rw [behind, hled.firstAt_append (by rwa [List.map_id]) hc]
  refine firstAt_of_some ?_
  rw [if_pos (List.isPrefixOf_iff_prefix.mpr (List.prefix_append mark rest)), List.drop_left]

end Marks

end TriFusion.Library.Search
