import Mathlib.Order.Lattice
import Mathlib.Data.List.Basic

namespace TriFusion.Library

variable {α β : Type*} [LinearOrder β]

/-- Position `k` of the list holds `a`, no entry is smaller under `f`, and the ones
before it are larger. -/
structure FirstMin (f : α → β) (l : List α) (k : ℕ) (a : α) : Prop where
  entry : l[k]? = some a
  least : ∀ b ∈ l, f a ≤ f b
  first : ∀ j b, j < k → l[j]? = some b → f a < f b

namespace FirstMin

variable {f : α → β} {l : List α} {k : ℕ} {a b : α}

theorem singleton (f : α → β) (a : α) : FirstMin f [a] 0 a := by
  refine ⟨rfl, ?_, ?_⟩
  · intro b hb
    rw [List.mem_singleton.mp hb]
  · intro j b hj
    omega

theorem lt_length (h : FirstMin f l k a) : k < l.length := (List.getElem?_eq_some_iff.mp h.entry).1

theorem mem (h : FirstMin f l k a) : a ∈ l := List.mem_of_getElem? h.entry

theorem keep (h : FirstMin f l k a) (hb : ¬f b < f a) : FirstMin f (l ++ [b]) k a := by
  have hk := h.lt_length
  refine ⟨?_, ?_, ?_⟩
  · rw [List.getElem?_append_left hk]
    exact h.entry
  · intro c hc
    rcases List.mem_append.mp hc with hc | hc
    · exact h.least c hc
    · rw [List.mem_singleton.mp hc]
      exact not_lt.mp hb
  · intro j c hj hc
    rw [List.getElem?_append_left (Nat.lt_trans hj hk)] at hc
    exact h.first j c hj hc

theorem move (h : FirstMin f l k a) (hb : f b < f a) : FirstMin f (l ++ [b]) l.length b := by
  refine ⟨?_, ?_, ?_⟩
  · rw [List.getElem?_append_right (Nat.le_refl _), Nat.sub_self]
    rfl
  · intro c hc
    rcases List.mem_append.mp hc with hc | hc
    · exact hb.le.trans (h.least c hc)
    · rw [List.mem_singleton.mp hc]
  · intro j c hj hc
    rw [List.getElem?_append_left hj] at hc
    exact hb.trans_le (h.least c (List.mem_of_getElem? hc))

theorem congr {γ : Type*} [LinearOrder γ] {g : α → γ} (h : FirstMin f l k a)
    (hfg : ∀ b ∈ l, ∀ c ∈ l, f b < f c ↔ g b < g c) : FirstMin g l k a := by
  refine ⟨h.entry, ?_, ?_⟩
  · intro b hb
    exact not_lt.mp fun hlt ↦ not_lt.mpr (h.least b hb) ((hfg b hb a h.mem).mpr hlt)
  · intro j b hj hb
    exact (hfg a h.mem b (List.mem_of_getElem? hb)).mp (h.first j b hj hb)

end FirstMin

end TriFusion.Library
