import TriFusion.Foundation.Result
import TriFusion.Library.ThreadHandle

namespace TriFusion.Foundation

open Library Library.Runs Library.ThreadHandle

/-- `thread` is the object `thread_`, with what its function does. -/
structure Worker where
  name : Text := []
  running : Bool := false
  stopFlag : Bool := false
  thread : Handle := .empty
  deriving DecidableEq

namespace Worker

/-- `task` says whether the function is callable. There is no result when the assignment to
`thread_` ends the process. -/
def start (name : Text) (task : Bool) (w : Worker) : Option (Result Unit) × Worker :=
  if w.running then (some (.fail .busy "worker already running"), w)
  else if !task then (some (.fail .invalidArgument "worker task is empty"), w)
  else
    let w := { w with name := name, stopFlag := false, running := true }
    if w.thread.joinable then (none, w) else (some (.ok ()), { w with thread := .live })

def finish (w : Worker) : Worker :=
  if w.thread = .live then { w with running := false, thread := .returned } else w

/-- `stop` up to the join. -/
def stop (w : Worker) : Worker := { w with stopFlag := true }

/-- `stop` from the join on, once the thread has returned. -/
def join (w : Worker) : Worker := { w with thread := .empty, running := false }

end Worker

structure WorkerRun where
  worker : Worker := {}
  stopping : Bool := false
  crashed : Bool := false
  deriving DecidableEq

inductive WorkerInput
  | start (name : Text) (task : Bool)
  | finish
  | stop
  | join
  deriving DecidableEq

namespace WorkerRun

def step (r : WorkerRun) (input : WorkerInput) : WorkerRun :=
  if r.crashed then r
  else
    match input with
    | .start name task =>
      if r.stopping then r
      else
        let (result, worker) := r.worker.start name task
        { r with worker := worker, crashed := result.isNone }
    | .finish => { r with worker := r.worker.finish }
    | .stop => if r.stopping then r else { r with worker := r.worker.stop, stopping := true }
    | .join =>
      if r.stopping ∧ r.worker.thread ≠ .live then
        { r with worker := r.worker.join, stopping := false }
      else r

def owner (r : WorkerRun) : Owner where
  flag := r.worker.running
  handle := r.worker.thread
  stopping := r.stopping
  crashed := r.crashed

def event : WorkerRun → WorkerInput → Option ThreadHandle.Event
  | _, .start _ task => if task then some .start else none
  | _, .finish => some .finish
  | _, .stop => some (.stop false)
  | _, .join => some (.join true)

theorem owner_moves : Moves step owner event := by
  rintro ⟨⟨name, running, stopFlag, thread⟩, stopping, crashed⟩ input
  cases crashed with
  | true =>
    cases input with
    | start _ task => cases task <;> simp [step, event, owner, Owner.step]
    | finish => simp [step, event, owner, Owner.step]
    | stop => simp [step, event, owner, Owner.step]
    | join => simp [step, event, owner, Owner.step]
  | false =>
    cases input with
    | start _ task =>
      cases task <;> cases stopping <;> cases running <;> cases thread <;>
        simp [step, event, owner, Owner.step, Worker.start, Handle.joinable]
    | finish => cases thread <;> simp [step, event, owner, Owner.step, Worker.finish]
    | stop => cases stopping <;> simp [step, event, owner, Owner.step, Worker.stop]
    | join =>
      cases stopping <;> cases thread <;> simp [step, event, owner, Owner.step, Worker.join]

end WorkerRun

end TriFusion.Foundation
