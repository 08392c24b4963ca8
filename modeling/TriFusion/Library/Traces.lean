import Mathlib.Data.List.Basic

namespace TriFusion.Library.Traces

variable {ε : Type*} {ok : List ε → ε → Prop}

/-- Every event of the trace is allowed by the events before it. -/
def Lawful (ok : List ε → ε → Prop) (trace : List ε) : Prop :=
  ∀ before a after, trace = before ++ a :: after → ok before a

@[simp] theorem lawful_nil : Lawful ok [] := by
  intro before a after h
  simp at h

@[simp] theorem lawful_concat (trace : List ε) (a : ε) :
    Lawful ok (trace ++ [a]) ↔ Lawful ok trace ∧ ok trace a := by
  constructor
  · intro h
    refine ⟨fun before b after he ↦ h before b (after ++ [a]) (by rw [he]; simp), ?_⟩
    exact h trace a [] rfl
  · rintro ⟨htrace, ha⟩ before b after he
    rcases List.eq_nil_or_concat after with rfl | ⟨rest, c, rfl⟩
    · obtain ⟨rfl, hb⟩ := List.append_inj' he rfl
      obtain rfl : a = b := by simpa using hb
      exact ha
    · have hr : trace ++ [a] = (before ++ b :: rest) ++ [c] := by simpa using he
      exact htrace before b rest (List.append_inj' hr rfl).1

end TriFusion.Library.Traces
