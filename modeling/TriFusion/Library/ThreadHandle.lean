import TriFusion.Library.Runs

namespace TriFusion.Library.ThreadHandle

open Runs

/-- A thread object: without a thread, with one whose function is running, or with one
whose function has returned. -/
inductive Handle
  | empty
  | live
  | returned
  deriving DecidableEq

def Handle.joinable : Handle → Bool
  | .empty => false
  | .live => true
  | .returned => true

/-- An owner that starts its thread behind a flag, which the thread itself lowers. -/
structure Owner where
  flag : Bool := false
  handle : Handle := .empty
  stopping : Bool := false
  crashed : Bool := false
  deriving DecidableEq

inductive Event
  | start
  | finish
  | stop (lowers : Bool)
  | join (lowers : Bool)
  deriving DecidableEq

/-- A thread assigned to a joinable object ends the process. -/
def Owner.step (o : Owner) : Event → Owner
  | .start =>
    if o.crashed || o.stopping || o.flag then o
    else if o.handle.joinable then { o with flag := true, crashed := true }
    else { o with flag := true, handle := .live }
  | .finish =>
    if o.crashed = false ∧ o.handle = .live then { o with flag := false, handle := .returned }
    else o
  | .stop lowers =>
    if o.crashed || o.stopping then o else { o with flag := o.flag && !lowers, stopping := true }
  | .join lowers =>
    if o.crashed = false ∧ o.stopping = true ∧ o.handle ≠ .live then
      { o with flag := o.flag && !lowers, handle := .empty, stopping := false }
    else o

def Owner.Left (o : Owner) : Prop := o.handle = .returned ∧ o.stopping = false ∧ o.crashed = false

/-- Between two stops a running thread has its flag up, and a returned one has it down. -/
def Owner.Flagged (o : Owner) : Prop :=
  o.crashed = false → (o.handle = .returned → o.flag = false) ∧
    (o.stopping = false → o.handle = .live → o.flag = true)

variable {o : Owner} {e : Event}

theorem Owner.flagged_step (h : o.Flagged) (e : Event) : (o.step e).Flagged := by
  obtain ⟨flag, handle, stopping, crashed⟩ := o
  cases e <;> cases handle <;> cases flag <;> cases stopping <;> cases crashed <;>
    simp_all [Owner.Flagged, Owner.step, Handle.joinable]

theorem Owner.left_step (h : (o.step e).Left) :
    (e = .finish ∧ o.handle = .live ∧ o.stopping = false ∧ o.crashed = false) ∨
      o.Left ∧ ∀ lowers, e ≠ .stop lowers := by
  obtain ⟨flag, handle, stopping, crashed⟩ := o
  cases e <;> cases handle <;> cases flag <;> cases stopping <;> cases crashed <;>
    simp_all [Owner.Left, Owner.step, Handle.joinable]

theorem Owner.crashed_step (hf : o.Flagged) (h : (o.step e).crashed = true) :
    (e = .start ∧ o.Left) ∨ o.crashed = true := by
  obtain ⟨flag, handle, stopping, crashed⟩ := o
  cases e <;> cases handle <;> cases flag <;> cases stopping <;> cases crashed <;>
    simp_all [Owner.Flagged, Owner.Left, Owner.step, Handle.joinable]

theorem Owner.step_of_crashed (h : o.crashed = true) (e : Event) : (o.step e).crashed = true := by
  cases e <;> simp [Owner.step, h]

theorem Owner.start_of_left (hf : o.Flagged) (h : o.Left) : (o.step .start).crashed = true := by
  obtain ⟨ho, hs, hc⟩ := h
  have hflag := (hf hc).1 ho
  simp [Owner.step, ho, hs, hc, hflag, Handle.joinable]

theorem Owner.left_kept (hf : o.Flagged) (h : o.Left) (he : ∀ lowers, e ≠ .stop lowers) :
    (o.step e).Left ∨ (o.step e).crashed = true := by
  cases e with
  | start => exact .inr (start_of_left hf h)
  | finish => exact .inl (by simpa [Owner.step, h.1] using h)
  | stop lowers => exact absurd rfl (he lowers)
  | join lowers => exact .inl (by simpa [Owner.step, h.2.1] using h)

section Machine

variable {σ α : Type*} {step : σ → α → σ} (abs : σ → Owner) (event : σ → α → Option Event)

def Moves (step : σ → α → σ) (abs : σ → Owner) (event : σ → α → Option Event) : Prop :=
  ∀ s a, abs (step s a) = (event s a).elim (abs s) (abs s).step

def EndsAlone (s : σ) (a : α) : Prop :=
  event s a = some .finish ∧ (abs s).handle = .live ∧ (abs s).stopping = false ∧
    (abs s).crashed = false

def Stops (s : σ) (a : α) : Prop := ∃ lowers, event s a = some (.stop lowers)

def Starts (s : σ) (a : α) : Prop := event s a = some .start

variable {abs event}

theorem Moves.flagged (h : Moves step abs event) {s : σ} (hs : (abs s).Flagged)
    (inputs : List α) : (abs (exec step s inputs)).Flagged := by
  apply exec_invariant (I := fun s ↦ (abs s).Flagged) _ hs inputs
  intro s a hs
  rw [h s a]
  cases event s a with
  | none => exact hs
  | some e => exact Owner.flagged_step hs e

theorem Moves.crashed (h : Moves step abs event) (s : σ) (hs : (abs s).crashed = true)
    (inputs : List α) : (abs (exec step s inputs)).crashed = true := by
  apply exec_invariant (I := fun s ↦ (abs s).crashed = true) _ hs inputs
  intro s a hs
  rw [h s a]
  cases event s a with
  | none => exact hs
  | some e => exact Owner.step_of_crashed hs e

theorem Moves.left_step (h : Moves step abs event) (s : σ) (a : α) (hl : (abs (step s a)).Left) :
    EndsAlone abs event s a ∨ (abs s).Left ∧ ¬Stops event s a := by
  rw [h s a] at hl
  cases hev : event s a with
  | none =>
    rw [hev] at hl
    refine .inr ⟨hl, fun ⟨lowers, hst⟩ ↦ ?_⟩
    rw [hev] at hst
    cases hst
  | some e =>
    rw [hev] at hl
    rcases Owner.left_step hl with ⟨rfl, hlive, hidle, halive⟩ | ⟨hkept, hne⟩
    · exact .inl ⟨hev, hlive, hidle, halive⟩
    · refine .inr ⟨hkept, fun ⟨lowers, hst⟩ ↦ ?_⟩
      rw [hev] at hst
      exact hne lowers (Option.some.inj hst)

theorem Moves.crashed_step (h : Moves step abs event) (s : σ) (a : α) (hf : (abs s).Flagged)
    (hc : (abs (step s a)).crashed = true) :
    (Starts event s a ∧ (abs s).Left) ∨ (abs s).crashed = true ∧ ¬False := by
  rw [h s a] at hc
  cases hev : event s a with
  | none =>
    rw [hev] at hc
    exact .inr ⟨hc, not_false⟩
  | some e =>
    rw [hev] at hc
    rcases Owner.crashed_step hf hc with ⟨rfl, hleft⟩ | hc
    · exact .inl ⟨hev, hleft⟩
    · exact .inr ⟨hc, not_false⟩

theorem Moves.left_kept (h : Moves step abs event) (s : σ) (a : α)
    (hl : (abs s).Flagged ∧ ((abs s).Left ∨ (abs s).crashed = true)) (hs : ¬Stops event s a) :
    (abs (step s a)).Flagged ∧ ((abs (step s a)).Left ∨ (abs (step s a)).crashed = true) := by
  obtain ⟨hf, hl⟩ := hl
  rw [h s a]
  cases hev : event s a with
  | none => exact ⟨hf, hl⟩
  | some e =>
    refine ⟨Owner.flagged_step hf e, ?_⟩
    rcases hl with hl | hc
    · apply Owner.left_kept hf hl
      intro lowers he
      exact hs ⟨lowers, by rw [hev, he]⟩
    · exact .inr (Owner.step_of_crashed hc e)

/-- A machine assigns over a joinable thread exactly in the runs that start again after the
thread has returned by itself, with no stop in between. -/
theorem Moves.crashed_iff (h : Moves step abs event) {s : σ} (hs : abs s = {})
    (inputs : List α) :
    (abs (exec step s inputs)).crashed = true ↔
      Follows step (EndsAlone abs event) (Stops event) (Starts event) s inputs := by
  have hflag : (abs s).Flagged := by
    rw [hs]
    intro _
    exact ⟨fun _ ↦ rfl, fun _ he ↦ by cases he⟩
  constructor
  · intro hc
    have hflags : Along step (fun s _ ↦ (abs s).Flagged) s inputs := by
      rw [along_iff]
      intro before _ _ _
      exact h.flagged hflag before
    have hinitial : ¬(abs s).crashed = true := by simp [hs]
    obtain ⟨first, b, after, he, ⟨hb, hleft⟩, -⟩ :=
      exists_since (H := fun s ↦ (abs s).crashed = true) h.crashed_step hinitial inputs hflags hc
    have hlefts : Along step (fun _ _ ↦ True) s first :=
      along_of_invariant (I := fun _ ↦ True) (fun _ _ _ ↦ ⟨trivial, trivial⟩) trivial first
    have hempty : ¬(abs s).Left := by
      rw [hs]
      intro hl
      cases hl.1
    obtain ⟨before, a, middle, rfl, ha, hm⟩ :=
      exists_since (H := fun s ↦ (abs s).Left) (fun s a _ ↦ h.left_step s a) hempty first hlefts
        hleft
    exact ⟨before, a, middle, b, after, he, ha, hm, hb⟩
  · rintro ⟨before, a, middle, b, after, rfl, ha, hm, hb⟩
    have hended : (abs (exec step s (before ++ [a]))).Left := by
      have hlast : exec step s (before ++ [a]) = step (exec step s before) a :=
        exec_append step s before [a]
      obtain ⟨hev, hlive, hidle, halive⟩ := ha
      rw [hlast, h, hev]
      simp [Owner.step, Owner.Left, hlive, hidle, halive]
    have hkept := Along.invariant (fun s a ↦ h.left_kept s a) hm
      ⟨h.flagged hflag (before ++ [a]), .inl hended⟩
    rw [← exec_append, List.append_assoc, List.singleton_append] at hkept
    have hcrash : (abs (step (exec step s (before ++ a :: middle)) b)).crashed = true := by
      rw [h, hb]
      rcases hkept.2 with hleft | hc
      · exact Owner.start_of_left hkept.1 hleft
      · exact Owner.step_of_crashed hc .start
    rw [exec_append]
    exact h.crashed _ hcrash after

end Machine

end TriFusion.Library.ThreadHandle
