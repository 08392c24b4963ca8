import TriFusion.Foundation.Event
import TriFusion.Foundation.ThreadPool
import TriFusion.Library.Runs
import Mathlib.Data.List.Count

namespace TriFusion.Foundation

open Library

variable {κ : Type}

structure Subscriber (κ : Type) where
  id : UInt64
  callback : κ
  deriving DecidableEq

/-- One turn of the loop of `publish`: the callback that gets the event. The number of the call
of `publish` and the subscription are kept beside it. -/
structure Delivery (κ : Type) where
  call : ℕ
  subscriber : Subscriber κ
  event : Event
  deriving DecidableEq

structure EventBus (κ : Type) where
  nextId : UInt64 := 1
  async : Bool := false
  initialized : Bool := false
  pool : ThreadPool (Delivery κ) := {}
  subscribers : EventType → List (Subscriber κ) := fun _ ↦ []

namespace EventBus

def init (async : Bool) (workers : ℕ) (b : EventBus κ) : Result Unit × EventBus κ :=
  if b.initialized then (.fail .busy "event bus already initialized", b)
  else
    let b := { b with async := async }
    if async then
      match b.pool.start workers with
      | (.ok (), pool) => (.ok (), { b with pool := pool, initialized := true })
      | (.error status, pool) => (.error status, { b with pool := pool })
    else (.ok (), { b with initialized := true })

/-- The critical section of `shutdown`; the pool is stopped behind it. -/
def clear (b : EventBus κ) : EventBus κ :=
  { b with subscribers := fun _ ↦ [], initialized := false }

def subscribe (type : EventType) (callback : κ) (b : EventBus κ) : UInt64 × EventBus κ :=
  (b.nextId,
    { b with
      nextId := b.nextId + 1
      subscribers := Function.update b.subscribers type
        (b.subscribers type ++ [⟨b.nextId, callback⟩]) })

def unsubscribe (id : UInt64) (b : EventBus κ) : EventBus κ :=
  { b with subscribers := fun type ↦ (b.subscribers type).filter fun s ↦ s.id ≠ id }

def callbacks (event : Event) (b : EventBus κ) : List (Subscriber κ) := b.subscribers event.type

end EventBus

/-- The critical sections of the calls, in the order in which they took the lock. -/
inductive BusCommit (κ : Type)
  | subscribed (type : EventType) (subscriber : Subscriber κ)
  | unsubscribed (id : UInt64)
  | cleared
  | published (call : ℕ) (event : Event)
  deriving DecidableEq

/-- A call of `publish` behind its critical section: what it copied, and what is left of it. -/
structure Publication (κ : Type) where
  event : Event
  callbacks : List (Subscriber κ)
  rest : List (Subscriber κ)

/-- A bus among the threads that call it. `handed` has the turns of the loops of `publish`, `ran`
the callbacks that were called. -/
structure BusRun (κ : Type) where
  bus : EventBus κ := {}
  publications : List (Publication κ) := []
  history : List (BusCommit κ) := []
  handed : List (Delivery κ) := []
  ran : List (Delivery κ) := []

/-- A critical section, the next turn of a call of `publish`, or a step of the pool. A callback
may call the bus again: its calls are moves like those of any other thread. -/
inductive BusMove (κ : Type)
  | init (async : Bool) (workers : ℕ)
  | subscribe (type : EventType) (callback : κ)
  | unsubscribe (id : UInt64)
  | publish (event : Event)
  | turn (call : ℕ)
  | clear
  | stop
  | caller
  | worker (i : ℕ)
  deriving DecidableEq

namespace BusRun

def turn (s : BusRun κ) (call : ℕ) : BusRun κ :=
  match s.publications[call]? with
  | none => s
  | some p =>
    match p.rest with
    | [] => s
    | subscriber :: rest =>
      let d : Delivery κ := ⟨call, subscriber, p.event⟩
      let publications := s.publications.set call { p with rest := rest }
      if s.bus.async then
        match s.bus.pool.submit d with
        | none => s
        | some pool =>
          { s with
            bus := { s.bus with pool := pool }
            publications := publications
            handed := s.handed ++ [d] }
      else { s with publications := publications, handed := s.handed ++ [d], ran := s.ran ++ [d] }

variable [DecidableEq κ]

def step (s : BusRun κ) : BusMove κ → BusRun κ
  | .init async workers => { s with bus := (s.bus.init async workers).2 }
  | .subscribe type callback =>
    { s with
      bus := (s.bus.subscribe type callback).2
      history := s.history ++ [.subscribed type ⟨(s.bus.subscribe type callback).1, callback⟩] }
  | .unsubscribe id =>
    { s with bus := s.bus.unsubscribe id, history := s.history ++ [.unsubscribed id] }
  | .publish event =>
    { s with
      publications := s.publications ++ [⟨event, s.bus.callbacks event, s.bus.callbacks event⟩]
      history := s.history ++ [.published s.publications.length event] }
  | .turn call => s.turn call
  | .clear => { s with bus := s.bus.clear, history := s.history ++ [.cleared] }
  | .stop =>
    if s.bus.pool.caller ≠ .idle then s
    else { s with bus := { s.bus with pool := s.bus.pool.stop } }
  | .caller => { s with bus := { s.bus with pool := s.bus.pool.stopStep } }
  | .worker i =>
    match s.bus.pool.workerStep i with
    | (none, pool) => { s with bus := { s.bus with pool := pool } }
    | (some d, pool) => { s with bus := { s.bus with pool := pool }, ran := s.ran ++ [d] }

def run (moves : List (BusMove κ)) : BusRun κ := Runs.exec step {} moves

end BusRun

namespace BusCommit

def ends (id : UInt64) : BusCommit κ → Bool
  | .unsubscribed id' => id' == id
  | .cleared => true
  | _ => false

/-- Who is subscribed to a type after these sections: those that have subscribed to it with no
later section that ends it, in the order of their subscription. -/
def live (type : EventType) : List (BusCommit κ) → List (Subscriber κ)
  | [] => []
  | .subscribed type' s :: later =>
    if type' = type ∧ later.all (fun c ↦ !c.ends s.id) then s :: live type later
    else live type later
  | _ :: later => live type later

def newId : BusCommit κ → Option UInt64
  | .subscribed _ s => some s.id
  | _ => none

theorem live_append_subscribed (type type' : EventType) (s : Subscriber κ)
    (history : List (BusCommit κ)) : live type (history ++ [.subscribed type' s]) =
      live type history ++ if type' = type then [s] else [] := by
  induction history with
  | nil => simp [live]
  | cons c history ih =>
    cases c with
    | subscribed type'' s'' =>
      rw [List.cons_append, live, live, ih, List.all_append]
      have hnew :
          ([.subscribed type' s] : List (BusCommit κ)).all (fun c ↦ !c.ends s''.id) = true := rfl
      rw [hnew, Bool.and_true]
      split
      · rw [List.cons_append]
      · rfl
    | unsubscribed id => exact ih
    | cleared => exact ih
    | published call event => exact ih

theorem live_append_unsubscribed (type : EventType) (id : UInt64)
    (history : List (BusCommit κ)) : live type (history ++ [.unsubscribed id]) =
      (live type history).filter fun s ↦ s.id ≠ id := by
  induction history with
  | nil => rfl
  | cons c history ih =>
    cases c with
    | subscribed type' s =>
      have hlast : ([.unsubscribed id] : List (BusCommit κ)).all (fun c ↦ !c.ends s.id) =
          decide (s.id ≠ id) := by
        by_cases h : s.id = id
        · simp [ends, h]
        · simp [ends, h, Ne.symm h]
      rw [List.cons_append, live, live, ih, List.all_append, hlast]
      by_cases hid : s.id = id
      · rw [if_neg (by simp [hid])]
        split
        · rw [List.filter_cons_of_neg (by simp [hid])]
        · rfl
      · simp only [ne_eq, hid, not_false_eq_true, decide_true, Bool.and_true]
        split
        · rw [List.filter_cons_of_pos (by simp [hid])]
        · rfl
    | unsubscribed id' => exact ih
    | cleared => exact ih
    | published call event => exact ih

theorem live_append_cleared (type : EventType) (history : List (BusCommit κ)) :
    live type (history ++ [.cleared]) = [] := by
  induction history with
  | nil => rfl
  | cons c history ih =>
    cases c with
    | subscribed type' s =>
      rw [List.cons_append, live, ih, if_neg]
      simp [ends]
    | unsubscribed id => exact ih
    | cleared => exact ih
    | published call event => exact ih

theorem live_append_published (type : EventType) (call : ℕ) (event : Event)
    (history : List (BusCommit κ)) :
    live type (history ++ [.published call event]) = live type history := by
  induction history with
  | nil => rfl
  | cons c history ih =>
    cases c with
    | subscribed type' s =>
      have hlast : ([.published call event] : List (BusCommit κ)).all (fun c ↦ !c.ends s.id) =
        true := rfl
      rw [List.cons_append, live, live, ih, List.all_append, hlast, Bool.and_true]
    | unsubscribed id => exact ih
    | cleared => exact ih
    | published call' event' => exact ih

theorem live_sublist (type : EventType) (history : List (BusCommit κ)) :
    List.Sublist ((live type history).map Subscriber.id)
      (history.filterMap newId) := by
  induction history with
  | nil => exact List.Sublist.refl _
  | cons c history ih =>
    cases c with
    | subscribed type' subscriber =>
      have hid : newId (.subscribed type' subscriber) = some subscriber.id := rfl
      rw [live, List.filterMap_cons_some hid]
      split
      · rw [List.map_cons]
        exact ih.cons_cons _
      · exact ih.cons _
    | unsubscribed id => exact ih
    | cleared => exact ih
    | published call event => exact ih

end BusCommit

end TriFusion.Foundation
