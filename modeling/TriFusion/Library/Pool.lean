import TriFusion.Library.Runs
import Mathlib.Logic.Function.Basic
import Mathlib.Data.List.Dedup

namespace TriFusion.Library

/-- Threads that work on one shared state, each with a state of its own. -/
structure Pool (ι σ τ : Type*) where
  shared : σ
  locals : ι → τ

namespace Pool

variable {ι σ τ : Type*} [DecidableEq ι] (advance : ι → σ → τ → σ × τ)

def step (p : Pool ι σ τ) (i : ι) : Pool ι σ τ where
  shared := (advance i p.shared (p.locals i)).1
  locals := Function.update p.locals i (advance i p.shared (p.locals i)).2

def run (p : Pool ι σ τ) (schedule : List ι) : Pool ι σ τ := Runs.exec (step advance) p schedule

@[simp] theorem run_nil (p : Pool ι σ τ) : run advance p [] = p := rfl

@[simp] theorem run_cons (p : Pool ι σ τ) (i : ι) (schedule : List ι) :
    run advance p (i :: schedule) = run advance (step advance p i) schedule := rfl

@[simp] theorem step_self (p : Pool ι σ τ) (i : ι) :
    (step advance p i).locals i = (advance i p.shared (p.locals i)).2 :=
  Function.update_self i _ p.locals

theorem step_other (p : Pool ι σ τ) {i j : ι} (h : j ≠ i) :
    (step advance p i).locals j = p.locals j :=
  Function.update_of_ne h _ p.locals

theorem run_other (p : Pool ι σ τ) {j : ι} {schedule : List ι} (h : j ∉ schedule) :
    (run advance p schedule).locals j = p.locals j := by
  induction schedule generalizing p with
  | nil => rfl
  | cons i schedule ih =>
    rw [List.mem_cons, not_or] at h
    rw [run_cons, ih (step advance p i) h.2]
    exact step_other advance p h.1

section Commits

variable {α : Type*} {advance} {view : σ → α} {effect : ι → α → α} {done : τ → Prop}
  {ok : Pool ι σ τ → ι → Prop}

variable (advance view effect done ok) in
/-- Each thread takes effect once, in one of its steps; all other steps leave the
view alone. -/
def Commits : Prop :=
  ∀ p i, ok p i →
    (¬done (p.locals i) ∧ done ((step advance p i).locals i) ∧
      view (step advance p i).shared = effect i (view p.shared)) ∨
    ((done ((step advance p i).locals i) ↔ done (p.locals i)) ∧
      view (step advance p i).shared = view p.shared)

def Serial (view : σ → α) (effect : ι → α → α) (done : τ → Prop) (a : α)
    (p : Pool ι σ τ) : Prop :=
  ∃ order : List ι, order.Nodup ∧ (∀ i, i ∈ order ↔ done (p.locals i)) ∧
    view p.shared = order.foldl (fun a i ↦ effect i a) a

theorem Serial.step {a : α} {p : Pool ι σ τ} (hc : Commits advance view effect done ok)
    (h : Serial view effect done a p) {i : ι} (hi : ok p i) :
    Serial view effect done a (step advance p i) := by
  obtain ⟨order, hnodup, hmem, hview⟩ := h
  have hothers (j : ι) (hj : j ≠ i) :
      done ((Pool.step advance p i).locals j) ↔ done (p.locals j) := by
    rw [step_other advance p hj]
  rcases hc p i hi with ⟨hnot, hdone, hv⟩ | ⟨hsame, hv⟩
  · have hnew : i ∉ order := fun hm ↦ hnot ((hmem i).mp hm)
    refine ⟨order ++ [i], hnodup.append (List.nodup_singleton i) ?_, ?_, ?_⟩
    · intro j hj hji
      rw [List.mem_singleton] at hji
      exact hnew (hji ▸ hj)
    · intro j
      rw [List.mem_append, List.mem_singleton, hmem j]
      by_cases hj : j = i
      · subst hj
        exact ⟨fun _ ↦ hdone, fun _ ↦ .inr rfl⟩
      · rw [hothers j hj]
        exact or_iff_left hj
    · rw [hv, hview, List.foldl_append]
      rfl
  · refine ⟨order, hnodup, fun j ↦ ?_, hv.trans hview⟩
    by_cases hj : j = i
    · subst hj
      exact (hmem j).trans hsame.symm
    · exact (hmem j).trans (hothers j hj).symm

theorem serial_run {p : Pool ι σ τ} (hc : Commits advance view effect done ok)
    (hstart : ∀ i, ¬done (p.locals i)) {schedule : List ι}
    (h : Runs.Along (step advance) ok p schedule) :
    Serial view effect done (view p.shared) (run advance p schedule) :=
  h.invariant (fun _ _ hp hi ↦ hp.step hc hi)
    ⟨[], List.nodup_nil, fun i ↦ iff_of_false List.not_mem_nil (hstart i), rfl⟩

/-- When all threads of the schedule are done, the view is what some order of them
makes of it. -/
theorem exists_perm_of_run {p : Pool ι σ τ} (hc : Commits advance view effect done ok)
    (hstart : ∀ i, ¬done (p.locals i)) {schedule : List ι}
    (h : Runs.Along (step advance) ok p schedule)
    (hdone : ∀ i ∈ schedule, done ((run advance p schedule).locals i)) :
    ∃ order : List ι, order.Perm schedule.dedup ∧
      view (run advance p schedule).shared =
        order.foldl (fun a i ↦ effect i a) (view p.shared) := by
  obtain ⟨order, hnodup, hmem, hview⟩ := serial_run hc hstart h
  refine ⟨order, ?_, hview⟩
  rw [List.perm_ext_iff_of_nodup hnodup (List.nodup_dedup schedule)]
  intro i
  rw [hmem i, List.mem_dedup]
  constructor
  · intro hi
    by_contra hn
    rw [run_other advance p hn] at hi
    exact hstart i hi
  · exact hdone i

end Commits

end Pool

end TriFusion.Library
