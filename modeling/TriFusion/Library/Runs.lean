import Mathlib.Data.List.Induction

namespace TriFusion.Library.Runs

variable {σ α : Type*} (step : σ → α → σ)

def exec (s : σ) (inputs : List α) : σ := inputs.foldl step s

/-- Every step of the run satisfies `P`, read in the state the step starts from. -/
def Along (P : σ → α → Prop) : σ → List α → Prop
  | _, [] => True
  | s, a :: rest => P s a ∧ Along P (step s a) rest

@[simp] theorem exec_nil (s : σ) : exec step s [] = s := rfl

@[simp] theorem exec_cons (s : σ) (a : α) (rest : List α) :
    exec step s (a :: rest) = exec step (step s a) rest := rfl

theorem exec_append (s : σ) (first second : List α) :
    exec step s (first ++ second) = exec step (exec step s first) second :=
  List.foldl_append

def after (s : σ) (inputs : ℕ → α) (n : ℕ) : σ := exec step s ((List.range n).map inputs)

@[simp] theorem after_zero (s : σ) (inputs : ℕ → α) : after step s inputs 0 = s := rfl

@[simp] theorem after_succ (s : σ) (inputs : ℕ → α) (n : ℕ) :
    after step s inputs (n + 1) = step (after step s inputs n) (inputs n) := by
  rw [after, List.range_succ, List.map_append, exec_append]
  rfl

variable {step} {P Q : σ → α → Prop} {I : σ → Prop}

theorem exec_log {β : Type*} {log : σ → List β} {entry : α → Option β}
    (hstep : ∀ s a, log (step s a) = log s ++ (entry a).toList) (s : σ) (inputs : List α) :
    log (exec step s inputs) = log s ++ inputs.filterMap entry := by
  induction inputs generalizing s with
  | nil => rw [exec_nil, List.filterMap_nil, List.append_nil]
  | cons a rest ih =>
    rw [exec_cons, ih, hstep, List.append_assoc]
    cases h : entry a with
    | none => rw [List.filterMap_cons_none h, Option.toList_none, List.nil_append]
    | some b => rw [List.filterMap_cons_some h, Option.toList_some, List.singleton_append]

theorem exec_last {β : Type*} {get : σ → β} {value : α → Option β}
    (hstep : ∀ s a, get (step s a) = (value a).getD (get s)) (s : σ) (inputs : List α) :
    get (exec step s inputs) = (inputs.filterMap value).getLast?.getD (get s) := by
  induction inputs using List.reverseRecOn with
  | nil => rfl
  | append_singleton rest a ih =>
    rw [exec_append, exec_cons, exec_nil, hstep, ih, List.filterMap_append]
    cases h : value a with
    | none => simp [h]
    | some b => simp [h]

theorem after_invariant (hstep : ∀ s a, I s → I (step s a)) {s : σ} (hs : I s)
    (inputs : ℕ → α) (n : ℕ) : I (after step s inputs n) := by
  induction n with
  | zero => exact hs
  | succ n ih =>
    rw [after_succ]
    exact hstep _ _ ih

@[simp] theorem along_nil (s : σ) : Along step P s [] := trivial

@[simp] theorem along_cons (s : σ) (a : α) (rest : List α) :
    Along step P s (a :: rest) ↔ P s a ∧ Along step P (step s a) rest := Iff.rfl

theorem along_append (s : σ) (first second : List α) :
    Along step P s (first ++ second) ↔
      Along step P s first ∧ Along step P (exec step s first) second := by
  induction first generalizing s with
  | nil => simp
  | cons a rest ih => simp only [List.cons_append, along_cons, exec_cons, ih, and_assoc]

/-- A step is in the run exactly when the inputs split around it. -/
theorem along_iff (s : σ) (inputs : List α) :
    Along step P s inputs ↔
      ∀ before a after, inputs = before ++ a :: after → P (exec step s before) a := by
  induction inputs generalizing s with
  | nil => simp
  | cons a rest ih =>
    rw [along_cons, ih]
    constructor
    · rintro ⟨hs, hrest⟩ before b after he
      cases before with
      | nil =>
        have ha : a = b := (List.cons.inj he).1
        exact ha ▸ hs
      | cons c before =>
        have ha : a = c := (List.cons.inj he).1
        have hr : rest = before ++ b :: after := (List.cons.inj he).2
        subst ha
        exact hrest before b after hr
    · intro h
      exact ⟨h [] a rest rfl, fun before b after he ↦ h (a :: before) b after (by rw [he]; rfl)⟩

variable (step) in
theorem along_not_or_last (P : σ → α → Prop) (s : σ) (inputs : List α) :
    Along step (fun s a ↦ ¬P s a) s inputs ∨
      ∃ before a after, inputs = before ++ a :: after ∧ P (exec step s before) a ∧
        Along step (fun s a ↦ ¬P s a) (exec step s (before ++ [a])) after := by
  induction inputs generalizing s with
  | nil => exact .inl trivial
  | cons a rest ih =>
    rcases ih (step s a) with hnone | ⟨before, b, after, rfl, hb, hafter⟩
    · by_cases ha : P s a
      · exact .inr ⟨[], a, rest, rfl, ha, hnone⟩
      · exact .inl ⟨ha, hnone⟩
    · exact .inr ⟨a :: before, b, after, rfl, hb, hafter⟩

theorem exec_invariant (hstep : ∀ s a, I s → I (step s a)) {s : σ} (hs : I s)
    (inputs : List α) : I (exec step s inputs) := by
  induction inputs generalizing s with
  | nil => exact hs
  | cons a rest ih => exact ih (hstep s a hs)

/-- An invariant that only the steps satisfying `P` keep holds at the end of
every run made of such steps. -/
theorem Along.invariant (hstep : ∀ s a, I s → P s a → I (step s a)) {s : σ} {inputs : List α}
    (h : Along step P s inputs) (hs : I s) : I (exec step s inputs) := by
  induction inputs generalizing s with
  | nil => exact hs
  | cons a rest ih => exact ih h.2 (hstep s a hs h.1)

/-- What holds of one step from a state of the invariant holds of every step of a run. -/
theorem Along.transfer (hstep : ∀ s a, I s → P s a → I (step s a) ∧ Q s a) {s : σ}
    {inputs : List α} (h : Along step P s inputs) (hs : I s) : Along step Q s inputs := by
  induction inputs generalizing s with
  | nil => trivial
  | cons a rest ih =>
    obtain ⟨hi, hq⟩ := hstep s a hs h.1
    exact ⟨hq, ih h.2 hi⟩

theorem along_of_invariant (hstep : ∀ s a, I s → I (step s a) ∧ Q s a) {s : σ} (hs : I s)
    (inputs : List α) : Along step Q s inputs := by
  induction inputs generalizing s with
  | nil => trivial
  | cons a rest ih => exact ⟨(hstep s a hs).2, ih (hstep s a hs).1⟩

theorem along_singleton (s : σ) (a : α) : Along step P s [a] ↔ P s a := iff_of_eq (and_true _)

theorem exists_since {H : σ → Prop} {up down : σ → α → Prop}
    (hstep : ∀ s a, I s → H (step s a) → up s a ∨ H s ∧ ¬down s a) {s : σ} (hs : ¬H s)
    (inputs : List α) (hI : Along step (fun s _ ↦ I s) s inputs) (h : H (exec step s inputs)) :
    ∃ before a after, inputs = before ++ a :: after ∧ up (exec step s before) a ∧
      Along step (fun s a ↦ ¬down s a) (exec step s (before ++ [a])) after := by
  induction inputs using List.reverseRecOn with
  | nil => exact absurd h hs
  | append_singleton inputs b ih =>
    rw [along_append, along_singleton] at hI
    rw [exec_append] at h
    rcases hstep _ b hI.2 h with hu | ⟨hkept, hd⟩
    · exact ⟨inputs, b, [], rfl, hu, trivial⟩
    · obtain ⟨before, a, after, he, ha, hafter⟩ := ih hI.1 hkept
      refine ⟨before, a, after ++ [b], by rw [he, List.append_assoc]; rfl, ha, ?_⟩
      rw [along_append, ← exec_append, List.append_assoc, List.singleton_append, ← he]
      exact ⟨hafter, hd, trivial⟩

theorem exec_of_since {H : σ → Prop} {up down : σ → α → Prop}
    (hup : ∀ s a, up s a → H (step s a)) (hkeep : ∀ s a, H s → ¬down s a → H (step s a))
    {s : σ} {before : List α} {a : α} {after : List α} (ha : up (exec step s before) a)
    (hafter : Along step (fun s a ↦ ¬down s a) (exec step s (before ++ [a])) after) :
    H (exec step s (before ++ a :: after)) := by
  rw [← List.singleton_append, ← List.append_assoc, exec_append]
  apply Along.invariant (fun s a hs hd ↦ hkeep s a hs hd) hafter
  rw [exec_append]
  exact hup _ _ ha

/-- What only `up` brings about and only `down` ends holds at the end of a run
exactly when there has been an `up` and no `down` since. -/
theorem exec_iff_since {H : σ → Prop} {up down : σ → α → Prop}
    (hup : ∀ s a, up s a → H (step s a)) (hdown : ∀ s a, down s a → ¬H (step s a))
    (hkeep : ∀ s a, ¬up s a → ¬down s a → (H (step s a) ↔ H s)) {s : σ} (hs : ¬H s)
    (inputs : List α) :
    H (exec step s inputs) ↔ ∃ before a after, inputs = before ++ a :: after ∧
      up (exec step s before) a ∧
        Along step (fun s a ↦ ¬down s a) (exec step s (before ++ [a])) after := by
  constructor
  · intro h
    refine exists_since (I := fun _ ↦ True) ?_ hs inputs ?_ h
    · intro s a _ ha
      have hd : ¬down s a := fun hd ↦ hdown s a hd ha
      by_cases hu : up s a
      · exact .inl hu
      · exact .inr ⟨(hkeep s a hu hd).mp ha, hd⟩
    · exact along_of_invariant (fun _ _ _ ↦ ⟨trivial, trivial⟩) (I := fun _ ↦ True) trivial inputs
  · rintro ⟨before, a, after, rfl, ha, hafter⟩
    refine exec_of_since hup ?_ ha hafter
    intro s a hs hd
    by_cases hu : up s a
    · exact hup s a hu
    · exact (hkeep s a hu hd).mpr hs

variable (step) in
/-- Some `next` step comes after an `up` step with no `down` step between the two. -/
def Follows (up down next : σ → α → Prop) (s : σ) (inputs : List α) : Prop :=
  ∃ before a middle b after, inputs = before ++ a :: middle ++ b :: after ∧
    up (exec step s before) a ∧
    Along step (fun s c ↦ ¬down s c) (exec step s (before ++ [a])) middle ∧
    next (exec step s (before ++ a :: middle)) b

theorem Follows.append {up down next : σ → α → Prop} {s : σ} {inputs : List α}
    (h : Follows step up down next s inputs) (more : List α) :
    Follows step up down next s (inputs ++ more) := by
  obtain ⟨before, a, middle, b, after, rfl, ha, hm, hb⟩ := h
  exact ⟨before, a, middle, b, after ++ more, by simp, ha, hm, hb⟩

end TriFusion.Library.Runs
