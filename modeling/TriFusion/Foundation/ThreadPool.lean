import TriFusion.Foundation.Result

namespace TriFusion.Foundation

variable {α : Type}

/-- A capacity of zero is no bound. -/
structure BlockingQueue (α : Type) where
  capacity : ℕ := 0
  queue : List α := []
  closed : Bool := false
  deriving DecidableEq

namespace BlockingQueue

/-- `none` while the call waits for room. -/
def push (value : α) (q : BlockingQueue α) : Option (BlockingQueue α) :=
  if q.closed || q.capacity == 0 || decide (q.queue.length < q.capacity) then
    if q.closed then some q else some { q with queue := q.queue ++ [value] }
  else none

def pop (q : BlockingQueue α) : Option (Option α × BlockingQueue α) :=
  match q.queue with
  | [] => if q.closed then some (none, q) else none
  | value :: rest => some (some value, { q with queue := rest })

/-- The result, what `value` holds afterwards, and the queue: the call never waits. -/
def tryPop (value : α) (q : BlockingQueue α) : Bool × α × BlockingQueue α :=
  match q.queue with
  | [] => (false, value, q)
  | front :: rest => (true, front, { q with queue := rest })

def close (q : BlockingQueue α) : BlockingQueue α := { q with closed := true }

theorem push_unbounded {q : BlockingQueue α} (h : q.capacity = 0) (value : α) :
    q.push value = some (if q.closed then q else { q with queue := q.queue ++ [value] }) := by
  simp only [push, h, beq_self_eq_true, Bool.or_true, Bool.true_or, if_true]
  cases q.closed <;> rfl

end BlockingQueue

/-- Where a worker stands in its loop: at the test of `running_`, in `pop`, or in a
task. -/
inductive WorkerPhase (α : Type)
  | check
  | pop
  | run (task : α)
  | exited
  deriving DecidableEq

/-- Where the caller stands: between two calls, or in `stop` once `running_` is
cleared. -/
inductive CallerPhase
  | idle
  | closing
  | joining
  deriving DecidableEq

structure ThreadPool (α : Type) where
  running : Bool := false
  tasks : BlockingQueue α := {}
  workers : List (WorkerPhase α) := []
  caller : CallerPhase := .idle
  deriving DecidableEq

namespace ThreadPool

def start (workerCount : ℕ) (p : ThreadPool α) : Result Unit × ThreadPool α :=
  if p.running then (.fail .busy "thread pool already running", p)
  else if workerCount = 0 then (.fail .invalidArgument "worker count is zero", p)
  else
    (.ok (), { p with running := true, workers := p.workers ++ List.replicate workerCount .check })

def submit (task : α) (p : ThreadPool α) : Option (ThreadPool α) :=
  (p.tasks.push task).map fun tasks ↦ { p with tasks := tasks }

/-- The call up to `running_ = false`. -/
def stop (p : ThreadPool α) : ThreadPool α :=
  if !p.running then p else { p with running := false, caller := .closing }

/-- The caller goes on in `stop`: it closes the queue, then joins the workers. -/
def stopStep [DecidableEq α] (p : ThreadPool α) : ThreadPool α :=
  match p.caller with
  | .idle => p
  | .closing => { p with tasks := p.tasks.close, caller := .joining }
  | .joining =>
    if p.workers.all (· == .exited) then { p with workers := [], caller := .idle } else p

def workerStep (p : ThreadPool α) (i : ℕ) : Option α × ThreadPool α :=
  match p.workers[i]? with
  | some .check =>
    (none, { p with workers := p.workers.set i (if p.running then .pop else .exited) })
  | some .pop =>
    match p.tasks.pop with
    | none => (none, p)
    | some (none, tasks) => (none, { p with workers := p.workers.set i .exited, tasks := tasks })
    | some (some task, tasks) =>
      (none, { p with workers := p.workers.set i (.run task), tasks := tasks })
  | some (.run task) => (some task, { p with workers := p.workers.set i .check })
  | some .exited => (none, p)
  | none => (none, p)

end ThreadPool

end TriFusion.Foundation
