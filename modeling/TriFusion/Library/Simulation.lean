import TriFusion.Library.Runs

namespace TriFusion.Library.Simulation

open Runs

variable {σ τ α β : Type*}

def next (step : σ → α → β × σ) (s : σ) (a : α) : σ := (step s a).2

def answers (step : σ → α → β × σ) : σ → List α → List β
  | _, [] => []
  | s, a :: rest => (step s a).1 :: answers step (next step s a) rest

/-- Machines in related states give the same answer and stay related. -/
structure Simulates (R : σ → τ → Prop) (step : σ → α → β × σ) (step' : τ → α → β × τ) : Prop where
  answer : ∀ s t a, R s t → (step s a).1 = (step' t a).1
  related : ∀ s t a, R s t → R (next step s a) (next step' t a)

namespace Simulates

variable {R : σ → τ → Prop} {step : σ → α → β × σ} {step' : τ → α → β × τ}

theorem answers_eq (h : Simulates R step step') {s : σ} {t : τ} (hR : R s t) (inputs : List α) :
    answers step s inputs = answers step' t inputs := by
  induction inputs generalizing s t with
  | nil => rfl
  | cons a rest ih => rw [answers, answers, h.answer s t a hR, ih (h.related s t a hR)]

theorem exec_related (h : Simulates R step step') {s : σ} {t : τ} (hR : R s t) (inputs : List α) :
    R (exec (next step) s inputs) (exec (next step') t inputs) := by
  induction inputs generalizing s t with
  | nil => exact hR
  | cons a rest ih => exact ih (h.related s t a hR)

end Simulates

end TriFusion.Library.Simulation
