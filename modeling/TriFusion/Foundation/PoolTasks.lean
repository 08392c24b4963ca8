import TriFusion.Foundation.ThreadPool
import TriFusion.Library.Runs
import Mathlib.Data.List.Count

namespace TriFusion.Foundation

open Library

inductive PoolEvent
  | start (workerCount : ℕ)
  | submit
  | stop
  | caller
  | worker (i : ℕ)
  deriving DecidableEq

/-- A pool with the history of its tasks, which are numbered in the order of their
submission: `batch` has those submitted since the last successful start while the
pool ran, `executed` the finished runs. -/
structure PoolRun where
  pool : ThreadPool ℕ := {}
  submitted : ℕ := 0
  batch : List ℕ := []
  executed : List ℕ := []
  deriving DecidableEq

namespace PoolRun

/-- The calls follow one another: none starts while `stop` has not returned. -/
def step (s : PoolRun) : PoolEvent → PoolRun
  | .start workerCount =>
    if s.pool.caller ≠ .idle then s
    else
      match s.pool.start workerCount with
      | (.ok (), pool) => { s with pool := pool, batch := [] }
      | (.error _, pool) => { s with pool := pool }
  | .submit =>
    if s.pool.caller ≠ .idle then s
    else
      match s.pool.submit s.submitted with
      | none => s
      | some pool =>
        { s with
          pool := pool
          submitted := s.submitted + 1
          batch := if s.pool.running then s.batch ++ [s.submitted] else s.batch }
  | .stop => if s.pool.caller ≠ .idle then s else { s with pool := s.pool.stop }
  | .caller => { s with pool := s.pool.stopStep }
  | .worker i =>
    match s.pool.workerStep i with
    | (none, pool) => { s with pool := pool }
    | (some task, pool) => { s with pool := pool, executed := s.executed ++ [task] }

def run (s : PoolRun) (events : List PoolEvent) : PoolRun := Runs.exec step s events

/-- A call of `stop` that had something to stop returns with this step. -/
def StopReturns (s : PoolRun) (event : PoolEvent) : Prop :=
  s.pool.caller = .joining ∧ (s.step event).pool.caller = .idle

def ExecutedOnce (s : PoolRun) (event : PoolEvent) : Prop :=
  StopReturns s event → ∀ task ∈ s.batch, (s.step event).executed.count task = 1

def inPop (s : PoolRun) : ℕ := s.pool.workers.count .pop

/-- No task is submitted to a running pool whose queue is closed, and `stop` is
called when only tasks before the batch, or as many as workers are in `pop`, are
still queued. -/
def Drainable (s : PoolRun) : PoolEvent → Prop
  | .submit => s.pool.caller = .idle → s.pool.running = true → s.pool.tasks.closed = false
  | .stop => s.pool.caller = .idle → s.pool.running = true →
      ∀ task ∈ s.pool.tasks.queue.drop s.inPop, task ∉ s.batch
  | _ => True

/-- All starts of the run have been followed by a stop, which has returned. -/
def Settled (s : PoolRun) : Prop := s.pool.running = false ∧ s.pool.caller = .idle

def held (s : PoolRun) (task : ℕ) : ℕ :=
  s.pool.tasks.queue.count task + s.pool.workers.count (.run task) + s.executed.count task

def leftover (s : PoolRun) : List ℕ := s.pool.tasks.queue.drop s.inPop

theorem count_set {α : Type} [DecidableEq α] {l : List α} {i : ℕ} {a : α} (h : l[i]? = some a)
    (b c : α) :
    (l.set i b).count c + (if a = c then 1 else 0) = l.count c + (if b = c then 1 else 0) := by
  induction l generalizing i with
  | nil => simp at h
  | cons x l ih =>
    cases i with
    | zero =>
      obtain rfl : x = a := by simpa using h
      simp only [List.set_cons_zero, List.count_cons, beq_iff_eq]
      omega
    | succ i =>
      have hi := ih (by simpa using h)
      simp only [List.set_cons_succ, List.count_cons]
      omega

variable {s : PoolRun} {event : PoolEvent}

theorem count_of_all_exited {workers : List (WorkerPhase ℕ)} (h : workers.all (· == .exited) = true)
    {phase : WorkerPhase ℕ} (hp : phase ≠ .exited) : workers.count phase = 0 := by
  rw [List.count_eq_zero]
  intro hm
  exact hp (eq_of_beq (List.all_eq_true.mp h phase hm))

theorem step_submit (hcap : s.pool.tasks.capacity = 0) (hc : s.pool.caller = .idle) :
    s.step .submit =
      { s with
        pool :=
          { s.pool with
            tasks :=
              if s.pool.tasks.closed then s.pool.tasks
              else { s.pool.tasks with queue := s.pool.tasks.queue ++ [s.submitted] } }
        submitted := s.submitted + 1
        batch := if s.pool.running then s.batch ++ [s.submitted] else s.batch } := by
  simp only [step, hc, ThreadPool.submit, BlockingQueue.push_unbounded hcap, Option.map_some,
    ne_eq, not_true_eq_false, if_false]

theorem step_submit_waits (hc : s.pool.caller ≠ .idle) : s.step .submit = s := if_pos hc

inductive Outcome (s : PoolRun) : PoolEvent → PoolRun → Prop
  | waits (event : PoolEvent) : Outcome s event s
  | started (workerCount : ℕ) (hc : s.pool.caller = .idle) (hr : s.pool.running = false) :
      Outcome s (.start workerCount)
        { s with
          pool :=
            { s.pool with
              running := true
              workers := s.pool.workers ++ List.replicate workerCount .check }
          batch := [] }
  | submitted (tasks : BlockingQueue ℕ) (hc : s.pool.caller = .idle)
      (hp : s.pool.tasks.push s.submitted = some tasks) :
      Outcome s .submit
        { s with
          pool := { s.pool with tasks := tasks }
          submitted := s.submitted + 1
          batch := if s.pool.running then s.batch ++ [s.submitted] else s.batch }
  | stopping (hc : s.pool.caller = .idle) (hr : s.pool.running = true) :
      Outcome s .stop { s with pool := { s.pool with running := false, caller := .closing } }
  | closed (hc : s.pool.caller = .closing) :
      Outcome s .caller
        { s with pool := { s.pool with tasks := s.pool.tasks.close, caller := .joining } }
  | joined (hc : s.pool.caller = .joining) (ha : s.pool.workers.all (· == .exited) = true) :
      Outcome s .caller { s with pool := { s.pool with workers := [], caller := .idle } }
  | checked (i : ℕ) (hw : s.pool.workers[i]? = some .check) :
      Outcome s (.worker i)
        { s with
          pool :=
            { s.pool with
              workers := s.pool.workers.set i (if s.pool.running then .pop else .exited) } }
  | left (i : ℕ) (hw : s.pool.workers[i]? = some .pop) (hq : s.pool.tasks.queue = []) :
      Outcome s (.worker i)
        { s with pool := { s.pool with workers := s.pool.workers.set i .exited } }
  | took (i first : ℕ) (rest : List ℕ) (hw : s.pool.workers[i]? = some .pop)
      (hq : s.pool.tasks.queue = first :: rest) :
      Outcome s (.worker i)
        { s with
          pool :=
            { s.pool with
              workers := s.pool.workers.set i (.run first)
              tasks := { s.pool.tasks with queue := rest } } }
  | finished (i task : ℕ) (hw : s.pool.workers[i]? = some (.run task)) :
      Outcome s (.worker i)
        { s with
          pool := { s.pool with workers := s.pool.workers.set i .check }
          executed := s.executed ++ [task] }

theorem start_outcome (s : PoolRun) (workerCount : ℕ) :
    Outcome s (.start workerCount) (s.step (.start workerCount)) := by
  by_cases hc : s.pool.caller = .idle
  · rw [step, if_neg (not_not_intro hc), ThreadPool.start]
    cases hr : s.pool.running with
    | true => exact .waits _
    | false =>
      by_cases hn : workerCount = 0
      · simp only [hn, Bool.false_eq_true, if_false, if_true]
        exact .waits _
      · simp only [hn, Bool.false_eq_true, if_false]
        exact .started workerCount hc hr
  · rw [step, if_pos hc]
    exact .waits _

theorem submit_outcome (s : PoolRun) : Outcome s .submit (s.step .submit) := by
  by_cases hc : s.pool.caller = .idle
  · rw [step, if_neg (not_not_intro hc), ThreadPool.submit]
    cases hp : s.pool.tasks.push s.submitted with
    | none => exact .waits _
    | some tasks => exact .submitted tasks hc hp
  · rw [step_submit_waits hc]
    exact .waits _

theorem stop_outcome (s : PoolRun) : Outcome s .stop (s.step .stop) := by
  by_cases hc : s.pool.caller = .idle
  · rw [step, if_neg (not_not_intro hc), ThreadPool.stop]
    cases hr : s.pool.running with
    | true => exact .stopping hc hr
    | false => exact .waits _
  · rw [step, if_pos hc]
    exact .waits _

theorem caller_outcome (s : PoolRun) : Outcome s .caller (s.step .caller) := by
  simp only [step, ThreadPool.stopStep]
  cases hc : s.pool.caller with
  | idle => exact .waits _
  | closing => exact .closed hc
  | joining =>
    by_cases ha : s.pool.workers.all (· == .exited) = true
    · simp only [ha, if_true]
      exact .joined hc ha
    · simp only [ha, Bool.false_eq_true, if_false]
      exact .waits _

theorem worker_outcome (s : PoolRun) (i : ℕ) : Outcome s (.worker i) (s.step (.worker i)) := by
  simp only [step, ThreadPool.workerStep]
  cases hw : s.pool.workers[i]? with
  | none => exact .waits _
  | some phase =>
    cases phase with
    | check => exact .checked i hw
    | pop =>
      simp only [BlockingQueue.pop]
      cases hq : s.pool.tasks.queue with
      | nil =>
        cases s.pool.tasks.closed with
        | true => exact .left i hw hq
        | false => exact .waits _
      | cons first rest => exact .took i first rest hw hq
    | run task => exact .finished i task hw
    | exited => exact .waits _

theorem step_outcome (s : PoolRun) (event : PoolEvent) : Outcome s event (s.step event) := by
  cases event with
  | start workerCount => exact start_outcome s workerCount
  | submit => exact submit_outcome s
  | stop => exact stop_outcome s
  | caller => exact caller_outcome s
  | worker i => exact worker_outcome s i

theorem step_stop (hc : s.pool.caller = .idle) (hr : s.pool.running = true) :
    s.step .stop = { s with pool := { s.pool with running := false, caller := .closing } } := by
  simp [step, hc, ThreadPool.stop, hr]

theorem stopReturns_iff : StopReturns s event ↔
    event = .caller ∧ s.pool.caller = .joining ∧ s.pool.workers.all (· == .exited) = true := by
  constructor
  · rintro ⟨hj, hi⟩
    have ho := step_outcome s event
    generalize s.step event = t at ho hi
    cases ho with
    | started _ hc => cases hj.symm.trans hc
    | submitted _ hc => cases hj.symm.trans hc
    | joined hc ha => exact ⟨rfl, hc, ha⟩
    | stopping => cases hi
    | closed => cases hi
    | _ => cases hj.symm.trans hi
  · rintro ⟨rfl, hj, ha⟩
    refine ⟨hj, ?_⟩
    simp [step, ThreadPool.stopStep, hj, ha]

/-- What holds of every run: a task is in one place, and only submitted tasks are in any. -/
structure WellFormed (s : PoolRun) : Prop where
  unbounded : s.pool.tasks.capacity = 0
  cleared : s.pool.caller ≠ .idle → s.pool.running = false
  once : ∀ task, s.held task ≤ 1
  fresh : ∀ task, s.submitted ≤ task → s.held task = 0
  batch : ∀ task ∈ s.batch, task < s.submitted

theorem start_wellFormed : WellFormed {} := ⟨rfl, by simp, by simp [held], by simp [held], by simp⟩

theorem step_held (h : event ≠ .submit) (task : ℕ) : (s.step event).held task = s.held task := by
  have ho := step_outcome s event
  generalize s.step event = t at ho
  unfold held
  cases ho with
  | waits => rfl
  | started => simp [List.count_replicate]
  | submitted => exact absurd rfl h
  | stopping => rfl
  | closed => rfl
  | joined _ ha => simp [count_of_all_exited ha]
  | checked i hw =>
    have hc := count_set hw (if s.pool.running then .pop else .exited) (.run task)
    have hne : (if s.pool.running then WorkerPhase.pop else .exited) ≠ .run task := by
      split <;> simp
    simp only [reduceCtorEq, if_false, if_neg hne] at hc
    dsimp only
    omega
  | left i hw =>
    have hc := count_set hw .exited (.run task)
    simp only [reduceCtorEq, if_false] at hc
    dsimp only
    omega
  | took i first rest hw hq =>
    have hc := count_set hw (.run first) (.run task)
    simp only [reduceCtorEq, if_false, WorkerPhase.run.injEq] at hc
    simp only [hq, List.count_cons, beq_iff_eq]
    omega
  | finished i done hw =>
    have hc := count_set hw .check (.run task)
    simp only [reduceCtorEq, if_false, WorkerPhase.run.injEq] at hc
    simp only [List.count_append, List.count_singleton, beq_iff_eq]
    omega

theorem submit_held (hcap : s.pool.tasks.capacity = 0) (hc : s.pool.caller = .idle) (task : ℕ) :
    (s.step .submit).held task =
      s.held task + (if s.pool.tasks.closed = false ∧ s.submitted = task then 1 else 0) := by
  rw [step_submit hcap hc]
  unfold held
  cases s.pool.tasks.closed with
  | true => simp
  | false =>
    simp only [Bool.false_eq_true, if_false, List.count_append, List.count_singleton, beq_iff_eq,
      true_and]
    omega

theorem step_frame (h : event ≠ .submit) :
    (s.step event).submitted = s.submitted ∧ (s.step event).batch ⊆ s.batch ∧
      (s.step event).pool.tasks.capacity = s.pool.tasks.capacity := by
  have ho := step_outcome s event
  generalize s.step event = t at ho
  cases ho with
  | started => exact ⟨rfl, List.nil_subset _, rfl⟩
  | submitted => exact absurd rfl h
  | _ => exact ⟨rfl, List.Subset.refl _, rfl⟩

theorem step_cleared (h : s.pool.caller ≠ .idle → s.pool.running = false)
    (hne : (s.step event).pool.caller ≠ .idle) : (s.step event).pool.running = false := by
  have ho := step_outcome s event
  generalize s.step event = t at ho hne
  cases ho with
  | started _ hc => exact absurd hc hne
  | stopping => rfl
  | closed hc => exact h (by simp [hc])
  | joined => exact absurd rfl hne
  | _ => exact h hne

theorem step_wellFormed (h : WellFormed s) (event : PoolEvent) : WellFormed (s.step event) := by
  obtain ⟨hcap, hcleared, honce, hfresh, hbatch⟩ := h
  by_cases hs : event = .submit
  · subst hs
    by_cases hc : s.pool.caller = .idle
    · have hheld := submit_held hcap hc
      refine ⟨?_, step_cleared hcleared, ?_, ?_, ?_⟩
      · rw [step_submit hcap hc]
        dsimp only
        split <;> exact hcap
      · intro task
        rw [hheld]
        split
        · rename_i hs
          rw [hfresh task (Nat.le_of_eq hs.2)]
        · exact honce task
      · intro task hle
        rw [step_submit hcap hc] at hle
        have hlt : s.submitted < task := hle
        rw [hheld, hfresh task (Nat.le_of_lt hlt), if_neg fun hs ↦ Nat.ne_of_lt hlt hs.2]
      · intro task hm
        rw [step_submit hcap hc] at hm ⊢
        dsimp only at hm ⊢
        split at hm
        · rcases List.mem_append.mp hm with hm | hm
          · exact Nat.lt_succ_of_lt (hbatch task hm)
          · rw [List.mem_singleton.mp hm]
            exact Nat.lt_succ_self _
        · exact Nat.lt_succ_of_lt (hbatch task hm)
    · rw [step_submit_waits hc]
      exact ⟨hcap, hcleared, honce, hfresh, hbatch⟩
  · obtain ⟨hsub, hb, hc⟩ := step_frame (s := s) hs
    refine ⟨hc.trans hcap, step_cleared hcleared, ?_, ?_, ?_⟩
    · intro task
      rw [step_held hs]
      exact honce task
    · intro task hle
      rw [hsub] at hle
      rw [step_held hs]
      exact hfresh task hle
    · intro task hm
      rw [hsub]
      exact hbatch task (hb hm)

/-- No task of the batch is lost: each has a place, and once `running_` is cleared
none of them is left over. -/
structure Kept (s : PoolRun) : Prop where
  held : ∀ task ∈ s.batch, s.held task = 1
  taken : s.pool.caller ≠ .idle → ∀ task ∈ s.leftover, task ∉ s.batch

theorem start_kept : Kept {} := ⟨by simp, by simp⟩

/-- While `stop` waits, what is left over stays: the workers take no more than what
they were about to. -/
theorem step_leftover (hw : WellFormed s) (hc : s.pool.caller ≠ .idle) :
    (s.step event).leftover = s.leftover := by
  have ho := step_outcome s event
  generalize s.step event = t at ho
  unfold leftover inPop
  cases ho with
  | waits => rfl
  | started _ hi => exact absurd hi hc
  | submitted _ hi => exact absurd hi hc
  | stopping hi => exact absurd hi hc
  | closed => rfl
  | joined _ ha => simp [count_of_all_exited ha]
  | checked i hi =>
    have hcount := count_set hi .exited .pop
    simp only [reduceCtorEq, if_false, Nat.add_zero] at hcount
    simp [hw.cleared hc, hcount]
  | left i hi hq => simp [hq]
  | took i first rest hi hq =>
    have hcount := count_set hi (.run first) .pop
    simp only [reduceCtorEq, if_false, if_true, Nat.add_zero] at hcount
    simp [hq, ← hcount]
  | finished i task hi =>
    have hcount := count_set hi .check .pop
    simp only [reduceCtorEq, if_false, Nat.add_zero] at hcount
    simp [hcount]

theorem submit_kept (hw : WellFormed s) (hk : Kept s) (hc : s.pool.caller = .idle)
    (hd : Drainable s .submit) : Kept (s.step .submit) := by
  have hheld := submit_held hw.unbounded hc
  have hidle : (s.step .submit).pool.caller = .idle := by rw [step_submit hw.unbounded hc, hc]
  refine ⟨fun task hm ↦ ?_, fun hne ↦ absurd hidle hne⟩
  rw [hheld]
  rw [step_submit hw.unbounded hc] at hm
  dsimp only at hm
  have hold : task ∈ s.batch → s.held task + (if s.pool.tasks.closed = false ∧ s.submitted = task
      then 1 else 0) = 1 := by
    intro hm
    rw [hk.held task hm, if_neg fun h ↦ Nat.ne_of_gt (hw.batch task hm) h.2]
  cases hr : s.pool.running with
  | false =>
    rw [hr] at hm
    exact hold hm
  | true =>
    rw [hr] at hm
    rcases List.mem_append.mp hm with hm | hm
    · exact hold hm
    · obtain rfl := List.mem_singleton.mp hm
      rw [hw.fresh s.submitted le_rfl, if_pos ⟨hd hc hr, rfl⟩]

theorem step_kept (hw : WellFormed s) (hk : Kept s) (hd : Drainable s event) :
    Kept (s.step event) := by
  by_cases hs : event = .submit
  · subst hs
    by_cases hc : s.pool.caller = .idle
    · exact submit_kept hw hk hc hd
    · rwa [step_submit_waits hc]
  have hb := (step_frame (s := s) hs).2.1
  refine ⟨fun task hm ↦ ?_, fun hne task hm hin ↦ ?_⟩
  · rw [step_held hs]
    exact hk.held task (hb hm)
  by_cases hc : s.pool.caller = .idle
  · -- `stop` has just been called: every other step leaves the caller where it is.
    have ho := step_outcome s event
    generalize s.step event = t at ho hne hm hin hb
    cases ho with
    | stopping _ hr => exact hd hc hr task hm hin
    | closed hi => cases hc.symm.trans hi
    | joined => exact hne rfl
    | submitted => exact hs rfl
    | _ => exact hne hc
  · rw [step_leftover hw hc] at hm
    exact hk.taken hc task hm (hb hin)

theorem stopReturns_held (h : StopReturns s event) (task : ℕ) :
    s.leftover = s.pool.tasks.queue ∧ (s.step event).executed = s.executed ∧
      s.held task = s.pool.tasks.queue.count task + s.executed.count task := by
  obtain ⟨rfl, -, ha⟩ := stopReturns_iff.mp h
  refine ⟨?_, rfl, ?_⟩
  · unfold leftover inPop
    rw [count_of_all_exited ha (by simp), List.drop_zero]
  · unfold held
    rw [count_of_all_exited ha (by simp), Nat.add_zero]

theorem executedOnce_of_kept (hk : Kept s) : ExecutedOnce s event := by
  intro hr task hm
  obtain ⟨hleft, hexec, hheld⟩ := stopReturns_held hr task
  have hc : s.pool.caller ≠ .idle := by simp [hr.1]
  have hnot : task ∉ s.pool.tasks.queue := fun hq ↦ hk.taken hc task (hleft ▸ hq) hm
  rw [hexec]
  have hone := hk.held task hm
  rw [hheld, List.count_eq_zero.mpr hnot, Nat.zero_add] at hone
  exact hone

/-- A task of the batch will not have been executed when `stop` returns: it has no
place, or it is left over. -/
def Doomed (s : PoolRun) : Prop :=
  (s.pool.running = true ∨ s.pool.caller ≠ .idle) ∧ ∃ task ∈ s.batch,
    s.held task = 0 ∨ s.pool.caller ≠ .idle ∧ task ∈ s.leftover

theorem doomed_of_not_drainable (hw : WellFormed s) (hd : ¬Drainable s event) :
    Doomed (s.step event) := by
  cases event with
  | submit =>
    simp only [Drainable, Classical.not_imp, Bool.not_eq_false] at hd
    obtain ⟨hc, hr, hclosed⟩ := hd
    refine ⟨.inl ?_, s.submitted, ?_, .inl ?_⟩
    · rw [step_submit hw.unbounded hc]
      exact hr
    · rw [step_submit hw.unbounded hc]
      simp [hr]
    · rw [submit_held hw.unbounded hc, hw.fresh s.submitted le_rfl]
      simp [hclosed]
  | stop =>
    simp only [Drainable, Classical.not_imp, not_forall, not_not] at hd
    obtain ⟨hc, hr, task, hq, hb⟩ := hd
    rw [step_stop hc hr]
    exact ⟨.inr (by simp), task, hb, .inr ⟨by simp, hq⟩⟩
  | start workerCount => exact absurd trivial hd
  | caller => exact absurd trivial hd
  | worker i => exact absurd trivial hd

theorem not_executedOnce_of_doomed (hw : WellFormed s) (h : Doomed s) (hr : StopReturns s event) :
    ¬ExecutedOnce s event := by
  intro hall
  obtain ⟨-, task, hb, hlost⟩ := h
  obtain ⟨hleft, hexec, hheld⟩ := stopReturns_held hr task
  have hone := hall hr task hb
  rw [hexec] at hone
  rcases hlost with hzero | ⟨-, hq⟩
  · omega
  · have hcount : 0 < s.pool.tasks.queue.count task := List.count_pos_iff.mpr (hleft ▸ hq)
    have hle := hw.once task
    omega

theorem step_active (h : s.pool.running = true ∨ s.pool.caller ≠ .idle)
    (hr : ¬StopReturns s event) :
    s.batch ⊆ (s.step event).batch ∧ (s.pool.caller ≠ .idle → (s.step event).pool.caller ≠ .idle) ∧
      ((s.step event).pool.running = true ∨ (s.step event).pool.caller ≠ .idle) := by
  have ho := step_outcome s event
  have hend : StopReturns s event ↔ _ := stopReturns_iff
  generalize s.step event = t at ho
  cases ho with
  | started _ hc hn => simp [hc, hn] at h
  | submitted _ hc =>
    refine ⟨?_, id, h⟩
    dsimp only
    split
    · exact List.subset_append_left _ _
    · exact List.Subset.refl _
  | stopping => exact ⟨List.Subset.refl _, by simp, by simp⟩
  | closed => exact ⟨List.Subset.refl _, by simp, by simp⟩
  | joined hc ha => exact absurd (hend.mpr ⟨rfl, hc, ha⟩) hr
  | _ => exact ⟨List.Subset.refl _, id, h⟩

theorem step_doomed (hw : WellFormed s) (h : Doomed s) (hr : ¬StopReturns s event) :
    Doomed (s.step event) := by
  obtain ⟨hactive, task, hb, hlost⟩ := h
  obtain ⟨hbatch, hstay, hactive'⟩ := step_active hactive hr
  refine ⟨hactive', task, hbatch hb, ?_⟩
  rcases hlost with hzero | ⟨hc, hq⟩
  · left
    by_cases hs : event = .submit
    · subst hs
      by_cases hc : s.pool.caller = .idle
      · rw [submit_held hw.unbounded hc, hzero,
          if_neg fun hs ↦ Nat.ne_of_gt (hw.batch task hb) hs.2]
      · rwa [step_submit_waits hc]
    · rwa [step_held hs]
  · exact .inr ⟨hstay hc, by rwa [step_leftover hw hc]⟩

theorem not_along_of_doomed (hw : WellFormed s) (h : Doomed s) {events : List PoolEvent}
    (hend : Settled (s.run events)) : ¬Runs.Along step ExecutedOnce s events := by
  induction events generalizing s with
  | nil =>
    obtain ⟨hr | hc, -⟩ := h
    · exact absurd (hend.1.symm.trans hr) (by simp)
    · exact absurd hend.2 hc
  | cons event events ih =>
    rintro ⟨hfirst, hrest⟩
    by_cases hr : StopReturns s event
    · exact not_executedOnce_of_doomed hw h hr hfirst
    · exact ih (step_wellFormed hw event) (step_doomed hw h hr) hend hrest

theorem along_drainable (hw : WellFormed s) {events : List PoolEvent}
    (hend : Settled (s.run events)) (h : Runs.Along step ExecutedOnce s events) :
    Runs.Along step Drainable s events := by
  induction events generalizing s with
  | nil => trivial
  | cons event events ih =>
    have hw' := step_wellFormed hw event
    refine ⟨?_, ih hw' hend h.2⟩
    by_contra hd
    exact not_along_of_doomed hw' (doomed_of_not_drainable hw hd) hend h.2

theorem along_executedOnce {events : List PoolEvent} (h : Runs.Along step Drainable {} events) :
    Runs.Along step ExecutedOnce {} events :=
  h.transfer (I := fun s ↦ WellFormed s ∧ Kept s)
    (fun _ event hs hd ↦ ⟨⟨step_wellFormed hs.1 event, step_kept hs.1 hs.2 hd⟩,
      executedOnce_of_kept hs.2⟩) ⟨start_wellFormed, start_kept⟩

/-- In every run whose steps are drainable each task is executed once, and a run at
whose end the pool is stopped has no other way to that. -/
theorem executed_once_iff (events : List PoolEvent) :
    (Runs.Along step Drainable {} events → Runs.Along step ExecutedOnce {} events) ∧
      (Settled (run {} events) →
        (Runs.Along step ExecutedOnce {} events ↔ Runs.Along step Drainable {} events)) :=
  ⟨along_executedOnce, fun hend ↦ ⟨along_drainable start_wellFormed hend, along_executedOnce⟩⟩

theorem executed_once_one :
    Runs.Along step ExecutedOnce {} [.start 1, .submit, .worker 0, .stop, .worker 0, .worker 0,
      .worker 0, .caller, .caller] :=
  (executed_once_iff _).1 ⟨trivial, fun _ _ ↦ rfl, trivial, fun _ _ ↦ by decide, trivial, trivial,
    trivial, trivial, trivial, trivial⟩

/-- A worker that finds `running_` cleared leaves the second task in the queue, and
the task of a pool that is started again is not taken into the closed queue. -/
theorem tasks_lost :
    let first := [.start 1, .submit, .submit, .worker 0, .stop, .worker 0, .worker 0, .worker 0,
      .caller]
    let second := [.start 1, .stop, .worker 0, .caller, .caller, .start 1, .submit, .worker 0,
      .worker 0, .stop, .caller]
    ¬Runs.Along step ExecutedOnce {} (first ++ [.caller]) ∧
      (run {} (first ++ [.caller])).batch = [0, 1] ∧
      (run {} (first ++ [.caller])).executed = [0] ∧
      ¬Runs.Along step ExecutedOnce {} (second ++ [.caller]) ∧
      (run {} (second ++ [.caller])).batch = [0] ∧
      (run {} (second ++ [.caller])).executed = [] := by
  intro first second
  refine ⟨fun h ↦ ?_, by decide, by decide, fun h ↦ ?_, by decide, by decide⟩
  · have hlast := (Runs.along_iff _ _).mp h first .caller [] rfl
    exact absurd (hlast ⟨by decide, by decide⟩ 1 (by decide)) (by decide)
  · have hlast := (Runs.along_iff _ _).mp h second .caller [] rfl
    exact absurd (hlast ⟨by decide, by decide⟩ 0 (by decide)) (by decide)

end PoolRun

end TriFusion.Foundation
