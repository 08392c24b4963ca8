import TriFusion.Mode.SwitchFailure

namespace TriFusion.Mode

open Foundation Algorithm Hardware Device DeviceControl Media

variable {ω : Type} {io : ModeIo ω}

/-- What the calls of a manager have come to, read off their results only. `targets`,
newest first, and `failures` count from the call of `init` that succeeded. -/
structure CallLog where
  initialized : Bool := false
  targets : List WorkMode := []
  failures : ℕ := 0
  switched : Bool := false
  deriving DecidableEq

namespace CallLog

def noteInit (succeeded : Bool) (log : CallLog) : CallLog :=
  if succeeded then { log with initialized := true, targets := [], failures := 0 } else log

def noteSwitch (mode : WorkMode) (succeeded : Bool) (log : CallLog) : CallLog :=
  { log with
    targets := if log.initialized ∧ succeeded then mode :: log.targets else log.targets
    failures := if log.initialized ∧ !succeeded then log.failures + 1 else log.failures
    switched := succeeded }

end CallLog

inductive SwitchOutcome (mode : WorkMode) (s : ModeState) : Bool → ModeState → Prop
  | refused (h : s.initialized = false ∨ s.switching = true) : SwitchOutcome mode s false s
  | failed (beginMs : Int64) (error : Text) (h : s.initialized = true) :
      SwitchOutcome mode s false
        { s with
          switching := false
          stage := .failed
          errorCount := s.errorCount + 1
          lastSwitchBeginMs := beginMs
          lastError := error }
  | switched (beginMs endMs : Int64) (h : s.initialized = true) :
      SwitchOutcome mode s true
        { s with
          switching := false
          currentMode := mode
          previousMode := s.currentMode
          stage := .running
          switchCount := s.switchCount + 1
          lastSwitchBeginMs := beginMs
          lastSwitchEndMs := endMs
          lastError := [] }

variable (io) in
theorem ModeManager.switchTo_outcome (mode : WorkMode) (m : ModeManager) (w : ModeWorld ω) :
    SwitchOutcome mode m.state (m.switchTo io mode w).1.succeeded
      (m.switchTo io mode w).2.1.state := by
  unfold switchTo
  split
  · rename_i hi
    exact .refused (.inl (by simpa using hi))
  · rename_i hi
    have hi : m.state.initialized = true := by simpa using hi
    split
    · rename_i hs
      exact .refused (.inr hs)
    · dsimp only
      split
      · exact .failed _ _ hi
      · rename_i plan _
        split
        · exact .failed _ _ hi
        · unfold succeed
          dsimp only
          split <;> exact .switched _ _ hi

structure Unswitched (s s' : ModeState) : Prop where
  currentMode : s'.currentMode = s.currentMode
  previousMode : s'.previousMode = s.previousMode
  switchCount : s'.switchCount = s.switchCount
  lastSwitchEndMs : s'.lastSwitchEndMs = s.lastSwitchEndMs

theorem SwitchOutcome.unswitched {mode : WorkMode} {s s' : ModeState}
    (h : SwitchOutcome mode s false s') : Unswitched s s' := by
  cases h <;> exact ⟨rfl, rfl, rfl, rfl⟩

/-- What the state of a manager says of its calls so far; the counts are modulo 2^64. -/
structure Bookkept (s : ModeState) (log : CallLog) : Prop where
  initialized : s.initialized = log.initialized
  switching : s.switching = false
  switchCount : s.switchCount = UInt64.ofNat log.targets.length
  errorCount : s.errorCount = UInt64.ofNat log.failures
  currentMode : s.currentMode = log.targets[0]?.getD .unknown
  previousMode : s.previousMode = log.targets[1]?.getD .unknown
  stage : s.stage = .running ↔ log.switched = true
  idle : s.initialized = false → s.stage = .idle

namespace Bookkept

variable {s s' : ModeState} {log : CallLog}

theorem of_outcome {mode : WorkMode} {succeeded : Bool} (h : Bookkept s log)
    (ho : SwitchOutcome mode s succeeded s') : Bookkept s' (log.noteSwitch mode succeeded) := by
  cases ho with
  | refused hr =>
    have hi : s.initialized = false := by
      rcases hr with hi | hs
      · exact hi
      · rw [h.switching] at hs
        cases hs
    have hl : log.initialized = false := h.initialized.symm.trans hi
    have hn : log.noteSwitch mode false = { log with switched := false } := by
      simp [CallLog.noteSwitch, hl]
    rw [hn]
    refine { h with stage := ?_ }
    rw [h.idle hi]
    simp
  | failed beginMs error hi =>
    have hl : log.initialized = true := h.initialized.symm.trans hi
    have hn : log.noteSwitch mode false =
        { log with failures := log.failures + 1, switched := false } := by
      simp [CallLog.noteSwitch, hl]
    rw [hn]
    exact
      { initialized := h.initialized
        switching := rfl
        switchCount := h.switchCount
        errorCount := (congrArg (· + 1) h.errorCount).trans (UInt64.ofNat_add _ 1).symm
        currentMode := h.currentMode
        previousMode := h.previousMode
        stage := by simp
        idle := fun hf ↦ by simp [hi] at hf }
  | switched beginMs endMs hi =>
    have hl : log.initialized = true := h.initialized.symm.trans hi
    have hn : log.noteSwitch mode true =
        { log with targets := mode :: log.targets, switched := true } := by
      simp [CallLog.noteSwitch, hl]
    rw [hn]
    exact
      { initialized := h.initialized
        switching := rfl
        switchCount := (congrArg (· + 1) h.switchCount).trans (UInt64.ofNat_add _ 1).symm
        errorCount := h.errorCount
        currentMode := rfl
        previousMode := h.currentMode
        stage := by simp
        idle := fun hf ↦ by simp [hi] at hf }

theorem stopped (h : Bookkept s log) :
    Bookkept { s with stage := .idle, switching := false } { log with switched := false } :=
  { h with
    switching := rfl
    stage := by simp
    idle := fun _ ↦ rfl }

theorem of_init (h : Bookkept s log) (hi : s.initialized = false) :
    Bookkept { initialized := true } (log.noteInit true) where
  initialized := rfl
  switching := rfl
  switchCount := rfl
  errorCount := rfl
  currentMode := rfl
  previousMode := rfl
  stage := by
    have hs := h.stage
    rw [h.idle hi] at hs
    exact hs
  idle _ := rfl

end Bookkept

namespace ModeSystem

def note (io : ModeIo ω) (s : ModeSystem ω) (log : CallLog) : ModeCall → CallLog
  | .init modeConfig mediaConfig runtime =>
    log.noteInit (s.manager.init modeConfig mediaConfig runtime).1.succeeded
  | .switchTo mode => log.noteSwitch mode (s.manager.switchTo io mode s.world).1.succeeded
  | .stop => { log with switched := false }
  | .work => log

def logged (io : ModeIo ω) (s : ModeSystem ω) (calls : List ModeCall) : ModeSystem ω × CallLog :=
  Library.Runs.exec (fun r call ↦ (step io r.1 call, note io r.1 r.2 call)) (s, {}) calls

theorem logged_fst (s : ModeSystem ω) (calls : List ModeCall) :
    (logged io s calls).1 = run io s calls := by
  have h : ∀ (r : ModeSystem ω × CallLog), (Library.Runs.exec
      (fun r call ↦ (step io r.1 call, note io r.1 r.2 call)) r calls).1 = run io r.1 calls := by
    induction calls with
    | nil => exact fun r ↦ rfl
    | cons call calls ih => exact fun r ↦ ih _
  exact h (s, {})

theorem step_bookkept {s : ModeSystem ω} {log : CallLog} (call : ModeCall)
    (h : Bookkept s.manager.state log) :
    Bookkept (step io s call).manager.state (note io s log call) := by
  cases call with
  | init modeConfig mediaConfig runtime =>
    unfold step note ModeManager.init
    dsimp only
    split
    · exact h
    · rename_i hi
      exact h.of_init (by simpa using hi)
  | switchTo mode => exact h.of_outcome (ModeManager.switchTo_outcome io mode s.manager s.world)
  | stop => exact h.stopped
  | work =>
    unfold step work
    cases s.manager.executor.currentPipeline with
    | none => exact h
    | some pipeline => exact h

structure BooksInOrder (io : ModeIo ω) (s : ModeSystem ω) (log : CallLog) : Prop where
  state : Bookkept s.manager.state log
  failure : ∀ mode, (s.manager.switchTo io mode s.world).1.succeeded = false →
    Unswitched s.manager.state (s.manager.switchTo io mode s.world).2.1.state

theorem fresh_bookkept (shared : Shared ω) (controller : CompositeSensorController)
    (engine : FusionEngine) : Bookkept (fresh shared controller engine).manager.state {} where
  initialized := rfl
  switching := rfl
  switchCount := rfl
  errorCount := rfl
  currentMode := rfl
  previousMode := rfl
  stage := by simp [fresh]
  idle _ := rfl

variable (io) in
theorem logged_bookkept (shared : Shared ω) (controller : CompositeSensorController)
    (engine : FusionEngine) (calls : List ModeCall) :
    Bookkept (logged io (fresh shared controller engine) calls).1.manager.state
      (logged io (fresh shared controller engine) calls).2 :=
  Library.Runs.exec_invariant
    (I := fun r : ModeSystem ω × CallLog ↦ Bookkept r.1.manager.state r.2)
    (fun r call (hr : Bookkept r.1.manager.state r.2) ↦ step_bookkept call hr)
    (fresh_bookkept shared controller engine) calls

/-- After any calls the state of the manager is what the results of the calls say,
and a switch that then fails changes neither the modes nor their count. -/
theorem bookkeeping (io : ModeIo ω) (shared : Shared ω) (controller : CompositeSensorController)
    (engine : FusionEngine) (calls : List ModeCall) :
    BooksInOrder io (run io (fresh shared controller engine) calls)
      (logged io (fresh shared controller engine) calls).2 where
  state := by
    have hb := logged_bookkept io shared controller engine calls
    rwa [logged_fst] at hb
  failure mode hf := by
    have ho := ModeManager.switchTo_outcome io mode
      (run io (fresh shared controller engine) calls).manager
      (run io (fresh shared controller engine) calls).world
    rw [hf] at ho
    exact ho.unswitched

example :
    (logged quietIo (fresh { outside := () } {} {})
      [.switchTo .visibleOnly, .init {} {} fullContext, .switchTo .visibleOnly,
        .switchTo .thermalOnly, .switchTo .visibleOnly, .stop]).2 =
      { initialized := true, targets := [.visibleOnly, .visibleOnly], failures := 1 } := by
  decide +kernel

end ModeSystem

end TriFusion.Mode
