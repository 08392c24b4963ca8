import TriFusion.Library.Runs
import TriFusion.Protocol.PrivateControlRoutes

namespace TriFusion.Protocol

open Foundation Library.Runs PrivateControlServer

/-- Where the main thread stands. The last four are `PrivateControlServer::stop` and what
follows it, `locked` where the loop calls it under the lock. -/
inductive MainAt
  | test
  | locking
  | checking
  | sleeping
  | clearing (locked : Bool)
  | closing (locked : Bool)
  | joining (locked : Bool)
  | leaving (locked : Bool)
  | gone
  deriving DecidableEq

/-- Where the server thread stands; `accept` has been called with `listening` telling
whether the socket was open. -/
inductive ServerAt
  | test
  | accepting (listening : Bool)
  | receiving
  | waiting (call : ControlCallback)
  | calling (call : ControlCallback)
  | replying
  | exited
  deriving DecidableEq

inductive LockHolder
  | main
  | server
  deriving DecidableEq

structure ControlProgram where
  main : MainAt := .test
  server : ServerAt := .test
  pipelineMutex : Option LockHolder := none
  running : Bool := true
  listening : Bool := true
  stopRequested : Bool := false
  deriving DecidableEq

/-- A step of one thread, with what it is answered: whether gst-launch runs, whether
`accept` gives a client and what is received from it. -/
inductive ProgramStep
  | signal
  | main (pipelineRunning : Bool)
  | server (accepted : Bool) (request : Option Text)
  deriving DecidableEq

def MainAt.stopsLocked : MainAt → Bool
  | clearing locked | closing locked | joining locked => locked
  | _ => false

def MainAt.holds : MainAt → Bool
  | checking => true
  | clearing locked | closing locked | joining locked | leaving locked => locked
  | _ => false

def MainAt.serves : MainAt → Bool
  | test | locking | checking | sleeping | clearing _ => true
  | _ => false

def ServerAt.waits : ServerAt → Bool
  | waiting _ => true
  | _ => false

def ServerAt.holds : ServerAt → Bool
  | calling _ => true
  | _ => false

namespace ControlProgram

def mainStep (pipelineRunning : Bool) (s : ControlProgram) : ControlProgram :=
  match s.main with
  | .test => { s with main := if s.stopRequested then .clearing false else .locking }
  | .locking =>
    if s.pipelineMutex = none then { s with main := .checking, pipelineMutex := some .main } else s
  | .checking =>
    if pipelineRunning then { s with main := .sleeping, pipelineMutex := none }
    else { s with main := .clearing true }
  | .sleeping => { s with main := .test }
  | .clearing locked =>
    if s.running then { s with main := .closing locked, running := false }
    else { s with main := .leaving locked }
  | .closing locked => { s with main := .joining locked, listening := false }
  | .joining locked => if s.server = .exited then { s with main := .leaving locked } else s
  | .leaving locked =>
    { s with main := .gone, pipelineMutex := if locked then none else s.pipelineMutex }
  | .gone => s

def serverStep (accepted : Bool) (request : Option Text) (s : ControlProgram) : ControlProgram :=
  match s.server with
  | .test => { s with server := if s.running then .accepting s.listening else .exited }
  | .accepting listening =>
    { s with server := if listening && accepted then .receiving else .test }
  | .receiving =>
    match request with
    | none => { s with server := .test }
    | some text =>
      match callbackOf text with
      | none => { s with server := .replying }
      | some call => { s with server := .waiting call }
  | .waiting call =>
    if s.pipelineMutex = none then
      { s with server := .calling call, pipelineMutex := some .server }
    else s
  | .calling _ => { s with server := .replying, pipelineMutex := none }
  | .replying => { s with server := .test }
  | .exited => s

def step (s : ControlProgram) : ProgramStep → ControlProgram
  | .signal => { s with stopRequested := true }
  | .main pipelineRunning => s.mainStep pipelineRunning
  | .server accepted request => s.serverStep accepted request

/-- The main thread waits for the server thread, holding the lock that it waits for. -/
def Deadlocked (s : ControlProgram) : Prop :=
  (∃ locked, s.main = .joining locked) ∧ s.pipelineMutex = some .main ∧
    ∃ call, s.server = .waiting call

theorem deadlocked_step {s : ControlProgram} (h : Deadlocked s) (a : ProgramStep) :
    Deadlocked (s.step a) := by
  obtain ⟨⟨locked, hm⟩, hl, call, hs⟩ := h
  cases a with
  | signal => exact ⟨⟨locked, hm⟩, hl, call, hs⟩
  | main pipelineRunning =>
    have hstep : s.step (.main pipelineRunning) = s := by
      simp [step, mainStep, hm, hs]
    rw [hstep]
    exact ⟨⟨locked, hm⟩, hl, call, hs⟩
  | server accepted request =>
    have hstep : s.step (.server accepted request) = s := by
      simp [step, serverStep, hs, hl]
    rw [hstep]
    exact ⟨⟨locked, hm⟩, hl, call, hs⟩

/-- The loop finds the pipeline dead while the server thread waits for the lock, or the
server thread receives a request for a callback while the loop stops it under the lock. -/
def Caught (s : ControlProgram) (a : ProgramStep) : Prop :=
  (a = .main false ∧ s.main = .checking ∧ s.server.waits = true) ∨
    ∃ accepted text, a = .server accepted (some text) ∧ s.server = .receiving ∧
      callbackOf text ≠ none ∧ s.main.stopsLocked = true

structure Consistent (s : ControlProgram) : Prop where
  main : s.pipelineMutex = some .main ↔ s.main.holds = true
  server : s.pipelineMutex = some .server ↔ s.server.holds = true
  running : s.main.serves = true → s.running = true

theorem mainStep_consistent {s : ControlProgram} (h : Consistent s) (pipelineRunning : Bool) :
    Consistent (s.mainStep pipelineRunning) := by
  obtain ⟨hmain, hserver, hrunning⟩ := h
  cases hm : s.main with
  | test =>
    simp only [hm, MainAt.holds, MainAt.serves] at hmain hrunning
    simp only [mainStep, hm]
    refine ⟨?_, hserver, fun _ ↦ hrunning trivial⟩
    cases s.stopRequested with
    | false => exact hmain
    | true => exact hmain
  | locking =>
    simp only [hm, MainAt.holds, MainAt.serves] at hmain hrunning
    simp only [mainStep, hm]
    split_ifs with hfree
    · refine ⟨iff_of_true rfl rfl, ?_, fun _ ↦ hrunning trivial⟩
      rw [hfree] at hserver
      simpa using hserver
    · refine ⟨?_, hserver, fun _ ↦ hrunning trivial⟩
      rw [hm]
      exact hmain
  | checking =>
    simp only [hm, MainAt.holds, MainAt.serves] at hmain hrunning
    have hheld := hmain.mpr trivial
    rw [hheld] at hserver
    simp only [mainStep, hm]
    split_ifs with hp
    · refine ⟨by simp [MainAt.holds], by simpa using hserver, fun _ ↦ hrunning trivial⟩
    · exact ⟨iff_of_true hheld rfl, hheld ▸ hserver, fun _ ↦ hrunning trivial⟩
  | sleeping =>
    simp only [hm, MainAt.holds, MainAt.serves] at hmain hrunning
    simp only [mainStep, hm]
    exact ⟨hmain, hserver, fun _ ↦ hrunning trivial⟩
  | clearing locked =>
    simp only [hm, MainAt.holds, MainAt.serves] at hmain hrunning
    simp only [mainStep, hm, hrunning trivial, ↓reduceIte]
    exact ⟨hmain, hserver, fun h ↦ by cases h⟩
  | closing locked =>
    simp only [hm, MainAt.holds] at hmain
    simp only [mainStep, hm]
    exact ⟨hmain, hserver, fun h ↦ by cases h⟩
  | joining locked =>
    simp only [hm, MainAt.holds] at hmain
    simp only [mainStep, hm]
    split_ifs with hs
    · exact ⟨hmain, hserver, fun h ↦ by cases h⟩
    · refine ⟨?_, hserver, hrunning⟩
      rw [hm]
      exact hmain
  | leaving locked =>
    simp only [hm, MainAt.holds] at hmain
    simp only [mainStep, hm]
    cases locked with
    | false => exact ⟨hmain, hserver, fun h ↦ by cases h⟩
    | true =>
      rw [hmain.mpr rfl] at hserver
      exact ⟨by simp [MainAt.holds], by simpa using hserver, fun h ↦ by cases h⟩
  | gone =>
    simp only [mainStep, hm]
    exact ⟨hmain, hserver, hrunning⟩

theorem serverStep_consistent {s : ControlProgram} (h : Consistent s) (accepted : Bool)
    (request : Option Text) : Consistent (s.serverStep accepted request) := by
  obtain ⟨hmain, hserver, hrunning⟩ := h
  cases hs : s.server with
  | test =>
    simp only [hs, ServerAt.holds] at hserver
    simp only [serverStep, hs]
    refine ⟨hmain, ?_, hrunning⟩
    cases s.running with
    | false => exact hserver
    | true => exact hserver
  | accepting listening =>
    simp only [hs, ServerAt.holds] at hserver
    simp only [serverStep, hs]
    refine ⟨hmain, ?_, hrunning⟩
    cases listening && accepted with
    | false => exact hserver
    | true => exact hserver
  | receiving =>
    simp only [hs, ServerAt.holds] at hserver
    simp only [serverStep, hs]
    cases request with
    | none => exact ⟨hmain, hserver, hrunning⟩
    | some text =>
      dsimp only
      cases callbackOf text with
      | none => exact ⟨hmain, hserver, hrunning⟩
      | some call => exact ⟨hmain, hserver, hrunning⟩
  | waiting call =>
    simp only [serverStep, hs]
    split_ifs with hfree
    · rw [hfree] at hmain
      exact ⟨by simpa using hmain, iff_of_true rfl rfl, hrunning⟩
    · exact ⟨hmain, hserver, hrunning⟩
  | calling call =>
    simp only [hs, ServerAt.holds] at hserver
    rw [hserver.mpr trivial] at hmain
    simp only [serverStep, hs]
    exact ⟨by simpa using hmain, by simp [ServerAt.holds], hrunning⟩
  | replying =>
    simp only [hs, ServerAt.holds] at hserver
    simp only [serverStep, hs]
    exact ⟨hmain, hserver, hrunning⟩
  | exited =>
    simp only [serverStep, hs]
    exact ⟨hmain, hserver, hrunning⟩

theorem step_consistent (s : ControlProgram) (a : ProgramStep) (h : Consistent s) :
    Consistent (s.step a) := by
  cases a with
  | signal => exact ⟨h.main, h.server, h.running⟩
  | main pipelineRunning => exact mainStep_consistent h pipelineRunning
  | server accepted request => exact serverStep_consistent h accepted request

theorem run_consistent (steps : List ProgramStep) : Consistent (exec step {} steps) :=
  exec_invariant step_consistent ⟨by simp [MainAt.holds], by simp [ServerAt.holds], fun _ ↦ rfl⟩
    steps

/-- The main thread is on its way into the join and the server thread will not get there. -/
def Doomed (s : ControlProgram) : Prop := s.main.stopsLocked = true ∧ s.server.waits = true

theorem caught_doomed {s : ControlProgram} {a : ProgramStep} (h : Caught s a) :
    Doomed (s.step a) := by
  rcases h with ⟨rfl, hm, hs⟩ | ⟨accepted, text, rfl, hs, hcall, hm⟩
  · simp only [step, mainStep, hm]
    exact ⟨rfl, hs⟩
  · obtain ⟨call, hcall⟩ := Option.ne_none_iff_exists'.mp hcall
    simp only [step, serverStep, hs, hcall]
    exact ⟨hm, rfl⟩

theorem mainStep_server (s : ControlProgram) (pipelineRunning : Bool) :
    (s.mainStep pipelineRunning).server = s.server := by
  unfold mainStep
  split <;> first | rfl | (split_ifs <;> rfl)

theorem serverStep_main (s : ControlProgram) (accepted : Bool) (request : Option Text) :
    (s.serverStep accepted request).main = s.main := by
  unfold serverStep
  split
  case h_3 =>
    split
    · rfl
    · split <;> rfl
  all_goals first | rfl | (split_ifs <;> rfl)

theorem mainStep_stopsLocked {s : ControlProgram} {pipelineRunning : Bool}
    (h : (s.mainStep pipelineRunning).main.stopsLocked = true) :
    s.main.stopsLocked = true ∨ s.main = .checking ∧ pipelineRunning = false := by
  cases hm : s.main with
  | test =>
    simp only [mainStep, hm] at h
    split_ifs at h <;> cases h
  | locking =>
    simp only [mainStep, hm] at h
    split_ifs at h
    · cases h
    · rw [hm] at h
      cases h
  | checking =>
    cases pipelineRunning with
    | false => exact .inr ⟨rfl, rfl⟩
    | true =>
      simp only [mainStep, hm, ↓reduceIte] at h
      cases h
  | sleeping =>
    simp only [mainStep, hm] at h
    cases h
  | clearing locked =>
    simp only [mainStep, hm] at h
    split_ifs at h
    · exact .inl h
    · cases h
  | closing locked =>
    simp only [mainStep, hm] at h
    exact .inl h
  | joining locked =>
    simp only [mainStep, hm] at h
    split_ifs at h
    · cases h
    · rw [hm] at h
      exact .inl h
  | leaving locked =>
    simp only [mainStep, hm] at h
    cases h
  | gone =>
    simp only [mainStep, hm] at h
    cases h

theorem serverStep_waits {s : ControlProgram} {accepted : Bool} {request : Option Text}
    (h : (s.serverStep accepted request).server.waits = true) :
    s.server.waits = true ∨
      s.server = .receiving ∧ ∃ text, request = some text ∧ callbackOf text ≠ none := by
  cases hs : s.server with
  | test =>
    simp only [serverStep, hs] at h
    split_ifs at h <;> cases h
  | accepting listening =>
    simp only [serverStep, hs] at h
    split_ifs at h <;> cases h
  | receiving =>
    cases request with
    | none =>
      simp only [serverStep, hs] at h
      cases h
    | some text =>
      refine .inr ⟨rfl, text, rfl, fun hn ↦ ?_⟩
      simp only [serverStep, hs, hn] at h
      cases h
  | waiting call => exact .inl rfl
  | calling call =>
    simp only [serverStep, hs] at h
    cases h
  | replying =>
    simp only [serverStep, hs] at h
    cases h
  | exited =>
    simp only [serverStep, hs] at h
    cases h

theorem doomed_of_step {s : ControlProgram} {a : ProgramStep} (hn : ¬Caught s a)
    (h : ¬Doomed s) : ¬Doomed (s.step a) := by
  rintro ⟨hm, hs⟩
  cases a with
  | signal => exact h ⟨hm, hs⟩
  | main pipelineRunning =>
    rw [step, mainStep_server] at hs
    rcases mainStep_stopsLocked hm with hstops | ⟨hcheck, rfl⟩
    · exact h ⟨hstops, hs⟩
    · exact hn (.inl ⟨rfl, hcheck, hs⟩)
  | server accepted request =>
    rw [step, serverStep_main] at hm
    rcases serverStep_waits hs with hwaits | ⟨hreceives, text, rfl, hcall⟩
    · exact h ⟨hm, hwaits⟩
    · exact hn (.inr ⟨accepted, text, rfl, hreceives, hcall, hm⟩)

theorem Deadlocked.doomed {s : ControlProgram} (hc : Consistent s) (h : Deadlocked s) :
    Doomed s := by
  obtain ⟨⟨locked, hm⟩, hl, call, hs⟩ := h
  have hholds := hc.main.mp hl
  rw [hm] at hholds
  refine ⟨?_, ?_⟩
  · rw [hm]
    exact hholds
  · rw [hs]
    rfl

theorem waits_iff {at' : ServerAt} : at'.waits = true ↔ ∃ call, at' = .waiting call := by
  cases at' <;> simp [ServerAt.waits]

theorem Doomed.deadlocked {s : ControlProgram} (hc : Consistent s) (h : Doomed s) :
    Deadlocked (exec step s (List.replicate 2 (.main true))) := by
  obtain ⟨hm, hs⟩ := h
  obtain ⟨call, hs⟩ := waits_iff.mp hs
  have hlock : s.main.holds = true → s.pipelineMutex = some .main := hc.main.mpr
  have hrunning := hc.running
  cases hat : s.main with
  | clearing locked =>
    rw [hat] at hm hlock hrunning
    simp only [List.replicate, exec_cons, exec_nil, step, mainStep, hat, hrunning rfl, ↓reduceIte]
    exact ⟨⟨locked, rfl⟩, hlock hm, call, hs⟩
  | closing locked =>
    rw [hat] at hm hlock
    simp only [List.replicate, exec_cons, exec_nil, step, mainStep, hat, hs, reduceCtorEq,
      ↓reduceIte]
    exact ⟨⟨locked, rfl⟩, hlock hm, call, rfl⟩
  | joining locked =>
    rw [hat] at hm hlock
    simp only [List.replicate, exec_cons, exec_nil, step, mainStep, hat, hs, reduceCtorEq,
      ↓reduceIte]
    exact ⟨⟨locked, hat⟩, hlock hm, call, hs⟩
  | test | locking | checking | sleeping | leaving | gone =>
    rw [hat] at hm
    cases hm

theorem not_caught_main {s : ControlProgram} : ¬Caught s (.main true) := by
  rintro (⟨h, -⟩ | ⟨accepted, text, h, -⟩)
  · cases h
  · cases h

theorem not_doomed_start : ¬Doomed ({} : ControlProgram) := fun h ↦ by cases h.1

/-- No state of the run is deadlocked, and none that the main thread goes on to alone,
exactly when no step of the run is caught. -/
theorem deadlock_free_iff (steps : List ProgramStep) :
    (∀ reached, reached <+: steps → ∀ n,
        ¬Deadlocked (exec step {} (reached ++ List.replicate n (.main true)))) ↔
      Along step (fun s a ↦ ¬Caught s a) {} steps := by
  constructor
  · intro h
    rw [along_iff]
    rintro before a after rfl hcaught
    apply h (before ++ [a]) ⟨after, by simp⟩ 2
    have hdoomed := caught_doomed hcaught
    have hafter : exec step {} (before ++ [a]) = step (exec step {} before) a :=
      exec_append step {} before [a]
    rw [exec_append, hafter]
    exact hdoomed.deadlocked (hafter ▸ run_consistent (before ++ [a]))
  · rintro h reached ⟨rest, rfl⟩ n hd
    have hreached := ((along_append _ _ _).mp h).1
    have hmore : Along step (fun s a ↦ ¬Caught s a) (exec step {} reached)
        (List.replicate n (.main true)) := by
      rw [along_iff]
      intro before a after he
      have ha : a ∈ List.replicate n (ProgramStep.main true) := by
        rw [he]
        exact List.mem_append_right _ List.mem_cons_self
      rw [List.eq_of_mem_replicate ha]
      exact not_caught_main
    have halong := (along_append _ _ _).mpr ⟨hreached, hmore⟩
    have hfree := halong.invariant (I := fun s ↦ ¬Doomed s) (fun _ _ hs hn ↦ doomed_of_step hn hs)
      not_doomed_start
    exact hfree (hd.doomed (run_consistent _))

def visibleRequest : Text := "POST /api/v1/mode/visible HTTP/1.1\r\n\r\n"

def fatalSteps : List ProgramStep :=
  [.server false none, .server true none, .main true, .main true,
    .server false (some visibleRequest), .main false, .main false, .main false]

theorem program_deadlocks : ¬∀ steps, ¬Deadlocked (exec step {} steps) := by
  intro h
  apply h fatalSteps
  exact ⟨⟨true, by decide +kernel⟩, by decide +kernel, .mode .visibleOnly, by decide +kernel⟩

end ControlProgram

end TriFusion.Protocol
