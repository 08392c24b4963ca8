import Mathlib.Data.List.Basic

namespace TriFusion.Library

variable {α β : Type}

/-- A code word, whatever follows it, can be told from the others. -/
def PrefixFree (code : α → List β) : Prop :=
  ∀ a a' t t', code a ++ t = code a' ++ t' → a = a' ∧ t = t'

variable {code : α → List β}

/-- A line of words up to the first that stops it can be read in one way only. -/
theorem PrefixFree.unambiguous (hcode : PrefixFree code) (stop : α → Prop) {as as' : List α}
    {s s' : α} {t t' : List β} (has : ∀ a ∈ as, ¬stop a) (has' : ∀ a ∈ as', ¬stop a)
    (hs : stop s) (hs' : stop s')
    (h : as.flatMap code ++ (code s ++ t) = as'.flatMap code ++ (code s' ++ t')) :
    as = as' ∧ s = s' ∧ t = t' := by
  induction as generalizing as' with
  | nil =>
    cases as' with
    | nil => exact ⟨rfl, hcode s s' t t' h⟩
    | cons a' as' =>
      rw [List.flatMap_cons, List.append_assoc] at h
      obtain ⟨rfl, -⟩ := hcode s a' _ _ h
      exact absurd hs (has' s List.mem_cons_self)
  | cons a as ih =>
    rw [List.flatMap_cons, List.append_assoc] at h
    cases as' with
    | nil =>
      obtain ⟨rfl, -⟩ := hcode a s' _ _ h
      exact absurd hs' (has a List.mem_cons_self)
    | cons a' as' =>
      rw [List.flatMap_cons, List.append_assoc] at h
      obtain ⟨rfl, htail⟩ := hcode a a' _ _ h
      obtain ⟨rfl, hrest⟩ := ih (fun b hb ↦ has b (List.mem_cons_of_mem a hb))
        (fun b hb ↦ has' b (List.mem_cons_of_mem a hb)) htail
      exact ⟨rfl, hrest⟩

end TriFusion.Library
