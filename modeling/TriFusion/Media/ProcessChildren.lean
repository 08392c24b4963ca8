import TriFusion.Library.ChildTable
import TriFusion.Library.Runs
import TriFusion.Media.GStreamerPipeline

namespace TriFusion.Media

open Foundation Library Library.Runs Library.ChildTable

/-- What the kernel decides at its calls: the answers to `fork`, which children have ended,
and how many polls fit before a deadline. -/
structure ChildOracle where
  forks : ℕ → Except Text ℕ+
  ends : ℕ → ℤ → Option Ending
  polls : ℕ → ℕ

inductive ProcessEvent
  | fork (unreaped : List ℤ)
  | kill (target : ℤ) (signal : StopSignal) (unreaped : List ℤ)
  deriving DecidableEq

structure ChildKernel where
  table : List Child := []
  calls : ℕ := 0
  events : List ProcessEvent := []

variable (o : ChildOracle)

namespace ChildKernel

def tick (w : ChildKernel) : ChildKernel :=
  { w with table := expire (o.ends w.calls) w.table, calls := w.calls + 1 }

def fork (w : ChildKernel) : Except Text ℕ+ × ChildKernel :=
  let w := w.tick o
  let w := { w with events := w.events ++ [ProcessEvent.fork (pids w.table)] }
  let (child, table) :=
    ChildTable.fork "Resource temporarily unavailable".toList (o.forks w.calls) w.table
  (child, { w with table := table })

def waitpid (pid : ℤ) (w : ChildKernel) : WaitAnswer × ChildKernel :=
  let w := w.tick o
  match wait pid w.table with
  | (.running, _) => (.running, w)
  | (.ended (.exited code), table) => (.exited code, { w with table := table })
  | (.ended (.signaled signal _), table) => (.signaled signal, { w with table := table })
  | (.noChild, _) => (.noChild, w)

def kill (pid : ℤ) (signal : StopSignal) (w : ChildKernel) : ChildKernel :=
  let w := w.tick o
  { w with events := w.events ++ [.kill (-pid) signal (pids w.table)] }

end ChildKernel

def childIo : ProcessIo ChildKernel where
  fork _ w := w.fork o
  waitpid pid w := w.waitpid o pid
  kill pid signal w := w.kill o pid signal
  polls _ w := (o.polls w.calls, w.tick o)

namespace GStreamerProcess

def destroy {ω : Type} (io : ProcessIo ω) (p : GStreamerProcess) (w : ω) : GStreamerProcess × ω :=
  match p.isRunning io w with
  | (true, p, w) => (p.stop io 1000 w).2
  | (false, p, w) => (p, w)

inductive Call
  | start (args : List Text)
  | stop (timeoutMs : Int32)
  | isRunning
  | destroy

def call (s : GStreamerProcess × ChildKernel) : Call → GStreamerProcess × ChildKernel
  | .start args => (s.1.start (childIo o) args s.2).2
  | .stop timeoutMs => (s.1.stop (childIo o) timeoutMs s.2).2
  | .isRunning => (s.1.isRunning (childIo o) s.2).2
  | .destroy => s.1.destroy (childIo o) s.2

end GStreamerProcess

/-- A fork while nothing is unreaped, or a signal to the group of the unreaped child. -/
def ProcessEvent.Proper : ProcessEvent → Prop
  | .fork unreaped => unreaped = []
  | .kill target _ unreaped => ∃ pid, 1 < pid ∧ target = -pid ∧ unreaped = [pid]

namespace GStreamerProcess

/-- What holds whenever the process object is not in the middle of a `fork`. -/
structure Held (p : GStreamerProcess) (w : ChildKernel) : Prop where
  unreaped : pids w.table = if 0 < p.pid then [p.pid] else []
  real : 0 < p.pid → 1 < p.pid
  events : ∀ e ∈ w.events, e.Proper

variable {o} {p p' : GStreamerProcess} {w w' : ChildKernel} {b : Bool}

theorem not_pos_neg_one : ¬0 < (-1 : ℤ) := by decide

theorem held_initial : Held {} {} := by
  refine ⟨rfl, fun h ↦ ?_, fun e he ↦ ?_⟩
  · exact absurd h (by decide)
  · simp at he

theorem Held.tick (h : Held p w) : Held p (w.tick o) :=
  ⟨by rw [ChildKernel.tick, pids_expire, h.unreaped], h.real, h.events⟩

theorem Held.of_pid (h : Held p w) (hp : p'.pid = p.pid) : Held p' w :=
  ⟨by rw [hp, h.unreaped], by rw [hp]; exact h.real, h.events⟩

theorem Held.gone (h : Held p w) (hp : ¬0 < p.pid) (hp' : ¬0 < p'.pid) : Held p' w :=
  ⟨by rw [if_neg hp', h.unreaped, if_neg hp], fun h' ↦ absurd h' hp', h.events⟩

theorem waitpid_held (h : Held p w) (hp : 0 < p.pid) :
    ((w.waitpid o p.pid).1 = .running ∧ Held p (w.waitpid o p.pid).2) ∨
      ((∃ code, (w.waitpid o p.pid).1 = .exited code) ∨
          ∃ signal, (w.waitpid o p.pid).1 = .signaled signal) ∧
        ∀ p' : GStreamerProcess, ¬0 < p'.pid → Held p' (w.waitpid o p.pid).2 := by
  have ht : Held p (w.tick o) := h.tick
  have hs : pids (w.tick o).table = [p.pid] := by rw [ht.unreaped, if_pos hp]
  have hgone : ∀ p' : GStreamerProcess, ¬0 < p'.pid →
      Held p' { w.tick o with table := [] } := fun p' hp' ↦
    ⟨by rw [if_neg hp', pids_nil], fun h' ↦ absurd h' hp', ht.events⟩
  rcases wait_single hs with ⟨hr, -⟩ | ⟨⟨ending, he⟩, -⟩
  · left
    simp only [ChildKernel.waitpid, hr]
    exact ⟨trivial, ht⟩
  · right
    cases ending with
    | exited code =>
      simp only [ChildKernel.waitpid, he]
      exact ⟨.inl ⟨code, rfl⟩, hgone⟩
    | signaled signal core =>
      simp only [ChildKernel.waitpid, he]
      exact ⟨.inr ⟨signal, rfl⟩, hgone⟩

theorem isRunning_held (h : Held p w) (hx : p.isRunning (childIo o) w = (b, p', w')) :
    Held p' w' ∧ (b = true → p' = p ∧ 0 < p.pid) ∧ (b = false → ¬0 < p'.pid) := by
  unfold isRunning at hx
  by_cases hp : p.pid ≤ 0
  · rw [if_pos hp] at hx
    obtain ⟨rfl, rfl, rfl⟩ := by simpa only [Prod.mk.injEq] using hx
    exact ⟨h, fun hb ↦ absurd hb (by decide), fun _ ↦ by omega⟩
  · have hpos : 0 < p.pid := by omega
    rw [if_neg hp] at hx
    have hio : (childIo o).waitpid p.pid w = w.waitpid o p.pid := rfl
    rw [hio] at hx
    have hw := waitpid_held (o := o) h hpos
    rcases hq : w.waitpid o p.pid with ⟨answer, w₁⟩
    rw [hq] at hx hw
    rcases hw with ⟨rfl, hh⟩ | ⟨⟨code, rfl⟩ | ⟨signal, rfl⟩, hh⟩
    · obtain ⟨rfl, rfl, rfl⟩ := by simpa only [Prod.mk.injEq] using hx
      exact ⟨hh, fun _ ↦ ⟨rfl, hpos⟩, fun hb ↦ absurd hb (by decide)⟩
    · obtain ⟨rfl, rfl, rfl⟩ := by simpa only [Prod.mk.injEq] using hx
      exact ⟨hh _ not_pos_neg_one, fun hb ↦ absurd hb (by decide), fun _ ↦ not_pos_neg_one⟩
    · obtain ⟨rfl, rfl, rfl⟩ := by simpa only [Prod.mk.injEq] using hx
      exact ⟨hh _ not_pos_neg_one, fun hb ↦ absurd hb (by decide), fun _ ↦ not_pos_neg_one⟩

theorem kill_held (h : Held p w) (hp : 0 < p.pid) (signal : StopSignal) :
    Held p (w.kill o p.pid signal) := by
  have ht : Held p (w.tick o) := h.tick
  refine ⟨ht.unreaped, h.real, ?_⟩
  intro e he
  rcases List.mem_append.mp he with he | he
  · exact h.events e he
  · obtain rfl := List.mem_singleton.mp he
    exact ⟨p.pid, h.real hp, rfl, by rw [ht.unreaped, if_pos hp]⟩

theorem fork_held (h : Held p w) (hp : ¬0 < p.pid) :
    ((∃ errno, (w.fork o).1 = .error errno) ∧ Held p (w.fork o).2) ∨
      ∃ child : ℕ+, (w.fork o).1 = .ok child ∧
        ∀ p' : GStreamerProcess, p'.pid = child → Held p' (w.fork o).2 := by
  have ht : Held p (w.tick o) := h.tick
  have hnone : pids (w.tick o).table = [] := by rw [ht.unreaped, if_neg hp]
  have hevents : ∀ e ∈ (w.tick o).events ++ [.fork (pids (w.tick o).table)], e.Proper := by
    intro e he
    rcases List.mem_append.mp he with he | he
    · exact h.events e he
    · obtain rfl := List.mem_singleton.mp he
      exact hnone
  rcases fork_cases "Resource temporarily unavailable".toList (o.forks (w.tick o).calls)
    (w.tick o).table with ⟨errno, hf⟩ | ⟨child, hf, hone, -⟩
  · left
    simp only [ChildKernel.fork, hf]
    exact ⟨⟨errno, rfl⟩, ht.unreaped, h.real, hevents⟩
  · right
    simp only [ChildKernel.fork, hf]
    refine ⟨child, rfl, fun p' hp' ↦ ⟨?_, fun _ ↦ hp' ▸ hone, hevents⟩⟩
    have hpos : 0 < p'.pid := by omega
    rw [if_pos hpos, hp']
    exact congrArg _ hnone

theorem start_held (h : Held p w) (args : List Text) :
    Held (p.start (childIo o) args w).2.1 (p.start (childIo o) args w).2.2 := by
  unfold start
  split
  · exact h.of_pid rfl
  · split
    · rename_i hx
      exact (isRunning_held h hx).1.of_pid rfl
    · rename_i p₁ w₁ hx
      obtain ⟨h₁, -, hgone⟩ := isRunning_held h hx
      have hf := fork_held (o := o) h₁ (hgone rfl)
      change ((∃ errno, ((childIo o).fork args w₁).1 = .error errno) ∧
          Held p₁ ((childIo o).fork args w₁).2) ∨
        ∃ child : ℕ+, ((childIo o).fork args w₁).1 = .ok child ∧
          ∀ p' : GStreamerProcess, p'.pid = child → Held p' ((childIo o).fork args w₁).2 at hf
      split
      · rename_i errno w₂ hq
        rw [hq] at hf
        rcases hf with ⟨-, hh⟩ | ⟨child, he, -⟩
        · exact hh.of_pid rfl
        · cases he
      · rename_i child w₂ hq
        rw [hq] at hf
        rcases hf with ⟨⟨errno, he⟩, -⟩ | ⟨child', he, hh⟩
        · cases he
        · obtain rfl := Except.ok.inj he
          have h₂ := hh { pid := child, exitCode := -1, lastError := [] } rfl
          split
          · rename_i hr
            exact (isRunning_held h₂ hr).1.of_pid rfl
          · rename_i hr
            exact (isRunning_held h₂ hr).1

theorem pollExit_held (n : ℕ) (h : Held p w) (hx : pollExit (childIo o) n p w = (b, p', w')) :
    Held p' w' ∧ (b = true → ¬0 < p'.pid) := by
  induction n generalizing p w with
  | zero =>
    obtain ⟨rfl, rfl, rfl⟩ := by simpa only [pollExit, Prod.mk.injEq] using hx
    exact ⟨h, fun hb ↦ absurd hb (by decide)⟩
  | succ n ih =>
    rw [pollExit] at hx
    rcases hr : p.isRunning (childIo o) w with ⟨running, p₁, w₁⟩
    obtain ⟨h₁, -, hgone⟩ := isRunning_held h hr
    rw [hr] at hx
    cases running with
    | false =>
      obtain ⟨rfl, rfl, rfl⟩ := by simpa only [Prod.mk.injEq] using hx
      exact ⟨h₁, fun _ ↦ hgone rfl⟩
    | true => exact ih h₁ hx

theorem waitForExit_held {timeoutMs : Int32} (h : Held p w)
    (hx : p.waitForExit (childIo o) timeoutMs w = (b, p', w')) :
    Held p' w' ∧ (b = true → ¬0 < p'.pid) ∧ (b = false → 0 < p'.pid) := by
  unfold waitForExit at hx
  dsimp only [childIo] at hx
  rcases hr : pollExit (childIo o) (o.polls w.calls) p (w.tick o) with ⟨found, p₁, w₁⟩
  obtain ⟨h₁, hgone⟩ := pollExit_held _ h.tick hr
  dsimp only [childIo] at hr
  rw [hr] at hx
  cases found with
  | true =>
    obtain ⟨rfl, rfl, rfl⟩ := by simpa only [Prod.mk.injEq] using hx
    exact ⟨h₁, fun _ ↦ hgone rfl, fun hb ↦ absurd hb (by decide)⟩
  | false =>
    rcases hq : p₁.isRunning (childIo o) w₁ with ⟨running, p₂, w₂⟩
    obtain ⟨h₂, hrun, hstop⟩ := isRunning_held h₁ hq
    dsimp only [childIo] at hq
    simp only [hq] at hx
    obtain ⟨rfl, rfl, rfl⟩ := by simpa only [Prod.mk.injEq] using hx
    refine ⟨h₂, fun hb ↦ hstop (by simpa using hb), fun hb ↦ ?_⟩
    obtain ⟨rfl, hpos⟩ := hrun (by simpa using hb)
    exact hpos

theorem askToEnd_held {signal : StopSignal} {timeoutMs : Int32} (h : Held p w) (hp : 0 < p.pid)
    (hx : p.askToEnd (childIo o) signal timeoutMs w = (b, p', w')) :
    Held p' w' ∧ (b = false → 0 < p'.pid) := by
  unfold askToEnd at hx
  have hk : Held p ((childIo o).kill p.pid signal w) := kill_held h hp signal
  rcases hr : p.waitForExit (childIo o) timeoutMs ((childIo o).kill p.pid signal w) with
    ⟨found, p₁, w₁⟩
  obtain ⟨h₁, hgone, hleft⟩ := waitForExit_held hk hr
  rw [hr] at hx
  cases found with
  | true =>
    obtain ⟨rfl, rfl, rfl⟩ := by simpa only [Prod.mk.injEq] using hx
    exact ⟨h₁.gone (hgone rfl) not_pos_neg_one, fun hb ↦ absurd hb (by decide)⟩
  | false =>
    obtain ⟨rfl, rfl, rfl⟩ := by simpa only [Prod.mk.injEq] using hx
    exact ⟨h₁, fun _ ↦ hleft rfl⟩

theorem stop_held (h : Held p w) (timeoutMs : Int32) :
    Held (p.stop (childIo o) timeoutMs w).2.1 (p.stop (childIo o) timeoutMs w).2.2 := by
  unfold stop
  split
  · exact h
  · split
    · rename_i hx
      obtain ⟨h₁, -, hgone⟩ := isRunning_held h hx
      exact h₁.gone (hgone rfl) not_pos_neg_one
    · rename_i hx
      obtain ⟨h₁, hrun, -⟩ := isRunning_held h hx
      obtain ⟨rfl, hpos⟩ := hrun rfl
      split
      · rename_i hi
        exact (askToEnd_held h₁ hpos hi).1
      · rename_i hi
        obtain ⟨h₂, hleft₂⟩ := askToEnd_held h₁ hpos hi
        split
        · rename_i ht
          exact (askToEnd_held h₂ (hleft₂ rfl) ht).1
        · rename_i ht
          obtain ⟨h₃, hleft₃⟩ := askToEnd_held h₂ (hleft₂ rfl) ht
          split
          · rename_i hk
            exact (askToEnd_held h₃ (hleft₃ rfl) hk).1
          · rename_i hk
            exact (askToEnd_held h₃ (hleft₃ rfl) hk).1.of_pid rfl

theorem call_held {s : GStreamerProcess × ChildKernel} (h : Held s.1 s.2) (c : Call) :
    Held (call o s c).1 (call o s c).2 := by
  cases c with
  | start args => exact start_held h args
  | stop timeoutMs => exact stop_held h timeoutMs
  | isRunning => exact (isRunning_held h rfl).1
  | destroy =>
    simp only [call, destroy]
    split
    · rename_i hx
      exact stop_held (isRunning_held h hx).1 1000
    · rename_i hx
      exact (isRunning_held h hx).1

/-- The pid the object holds is that of the one unreaped child, at every fork and kill too. -/
theorem children_tracked (o : ChildOracle) (calls : List Call) :
    let s := exec (call o) ({}, {}) calls
    pids s.2.table = (if 0 < s.1.pid then [s.1.pid] else []) ∧ ∀ e ∈ s.2.events, e.Proper := by
  have h : Held (exec (call o) ({}, {}) calls).1 (exec (call o) ({}, {}) calls).2 := by
    apply exec_invariant (I := fun s : GStreamerProcess × ChildKernel ↦ Held s.1 s.2)
    · intro s c hs
      exact call_held hs c
    · exact held_initial
  exact ⟨h.unreaped, h.events⟩

end GStreamerProcess

end TriFusion.Media
