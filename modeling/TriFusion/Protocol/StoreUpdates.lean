import TriFusion.Library.Pool
import TriFusion.Protocol.ProtocolConfigStore
import Mathlib.Data.List.Permutation

namespace TriFusion.Protocol

open Foundation Library

inductive StoreCall
  | update (x : Endpoint) (c : x.Config) (persist : Bool)
  | updateGb28181Server (server : Gb28181ServerConfig) (persist : Bool)

inductive UpdatePhase
  | entering
  | merged (next : Gb28181Config)
  | saving (x : Endpoint) (c : x.Config)
  | returned (ret : Result Unit)

namespace UpdatePhase

/-- The call has written the memory of the store, or was refused. -/
def Committed : UpdatePhase → Prop
  | .saving _ _ | .returned _ => True
  | .entering | .merged _ => False

end UpdatePhase

namespace StoreCall

variable {ω : Type} (io : FileIo ω)

def perform (shared : ProtocolConfigStore × ω) : StoreCall → ProtocolConfigStore × ω
  | .update x c persist => (ProtocolConfigStore.update io x c persist shared.1 shared.2).2
  | .updateGb28181Server server persist =>
    (ProtocolConfigStore.updateGb28181Server io server persist shared.1 shared.2).2

def performAll (shared : ProtocolConfigStore × ω) (calls : List StoreCall) :
    ProtocolConfigStore × ω :=
  calls.foldl (perform io) shared

def commit (x : Endpoint) (c : x.Config) (persist : Bool) (shared : ProtocolConfigStore × ω) :
    (ProtocolConfigStore × ω) × UpdatePhase :=
  match x.validate c with
  | .error e => (shared, .returned (.error e))
  | .ok () =>
    ((shared.1.write x c, shared.2), if persist then .saving x c else .returned (.ok ()))

/-- One critical section, or one file write, a step. -/
def advance (call : StoreCall) (shared : ProtocolConfigStore × ω) :
    UpdatePhase → (ProtocolConfigStore × ω) × UpdatePhase
  | .entering =>
    match call with
    | .update x c persist => commit x c persist shared
    | .updateGb28181Server server _ =>
      (shared, .merged { shared.1.config.gb28181 with server := server })
  | .merged next =>
    match call with
    | .update _ _ persist | .updateGb28181Server _ persist =>
      commit Endpoint.gb28181 next persist shared
  | .saving x c =>
    let (ret, w) := x.save io (shared.1.pathOf x.filename) c shared.2
    ((shared.1, w), .returned ret)
  | .returned ret => (shared, .returned ret)

def effect (call : StoreCall) (s : ProtocolConfigStore) : ProtocolConfigStore :=
  match call with
  | .update x c _ => if x.validate c = .ok () then s.write x c else s
  | .updateGb28181Server server _ =>
    let next : Gb28181Config := { s.config.gb28181 with server := server }
    if Endpoint.gb28181.validate next = .ok () then s.write .gb28181 next else s

variable {io} {x : Endpoint} {c : x.Config} {persist : Bool} {call : StoreCall}
  {shared : ProtocolConfigStore × ω} {phase : UpdatePhase}

theorem perform_store : (call.perform io shared).1 = call.effect shared.1 := by
  cases call with
  | update x c persist => exact ProtocolConfigStore.update_store
  | updateGb28181Server server persist => exact ProtocolConfigStore.update_store

theorem commit_alone (x : Endpoint) (c : x.Config) (persist : Bool) :
    (call.advance io (commit x c persist shared).1 (commit x c persist shared).2).1 =
      (ProtocolConfigStore.update io x c persist shared.1 shared.2).2 := by
  unfold commit ProtocolConfigStore.update
  cases x.validate c with
  | error e => rfl
  | ok u => cases persist <;> rfl

theorem commit_ne_merged (next : Gb28181Config) : (commit x c persist shared).2 ≠ .merged next := by
  unfold commit
  cases hv : x.validate c with
  | error e => exact fun h ↦ nomatch h
  | ok u => cases persist <;> exact fun h ↦ nomatch h

theorem advance_alone :
    let step := fun p : (ProtocolConfigStore × ω) × UpdatePhase ↦ call.advance io p.1 p.2
    (step (step (step (shared, .entering)))).1 = call.perform io shared := by
  intro step
  have hdone (p : (ProtocolConfigStore × ω) × UpdatePhase) (ret : Result Unit)
      (h : p.2 = .returned ret) : step p = p := by
    obtain ⟨shared', phase⟩ := p
    obtain rfl : phase = .returned ret := h
    rfl
  have hcommit (x : Endpoint) (c : x.Config) (persist : Bool) (shared : ProtocolConfigStore × ω) :
      ∃ ret, (step (commit x c persist shared)).2 = .returned ret := by
    simp only [step, commit]
    cases x.validate c with
    | error e => exact ⟨_, rfl⟩
    | ok u => cases persist <;> exact ⟨_, rfl⟩
  cases call with
  | update x c persist =>
    obtain ⟨ret, hret⟩ := hcommit x c persist shared
    have h : step (step (commit x c persist shared)) = step (commit x c persist shared) :=
      hdone _ ret hret
    exact (congrArg Prod.fst h).trans (commit_alone x c persist)
  | updateGb28181Server server persist => exact commit_alone .gb28181 _ persist

theorem performAll_store (calls : List StoreCall) :
    (performAll io shared calls).1 = calls.foldl (fun s call ↦ effect call s) shared.1 := by
  induction calls generalizing shared with
  | nil => rfl
  | cons call calls ih =>
    have hcall : (call.perform io shared).1 = call.effect shared.1 := perform_store
    rw [List.foldl_cons, ← hcall]
    exact ih

theorem commit_store :
    (commit x c persist shared).1.1 =
      if x.validate c = .ok () then shared.1.write x c else shared.1 := by
  unfold commit
  cases hv : x.validate c with
  | error e => simp only [reduceCtorEq, if_false]
  | ok u => simp only [if_true]

theorem commit_committed : (commit x c persist shared).2.Committed := by
  unfold commit
  cases hv : x.validate c with
  | error e => trivial
  | ok u => cases persist <;> trivial

/-- Only the update of the server merges, and with the server it was given. -/
def Merges (call : StoreCall) (phase : UpdatePhase) : Prop :=
  ∀ next, phase = .merged next → ∃ server persist,
    call = .updateGb28181Server server persist ∧ next.server = server

theorem Merges.advance (h : call.Merges phase) : call.Merges (call.advance io shared phase).2 := by
  intro next hnext
  cases phase with
  | returned ret => exact nomatch hnext
  | saving x c => exact nomatch hnext
  | entering =>
    cases call with
    | update x c persist => exact absurd hnext (commit_ne_merged next)
    | updateGb28181Server server persist =>
      obtain rfl := UpdatePhase.merged.inj hnext
      exact ⟨server, persist, rfl, rfl⟩
  | merged next' =>
    obtain ⟨server, persist, rfl, -⟩ := h next' rfl
    exact absurd hnext (commit_ne_merged next)

theorem Merges.commits (hphase : call.Merges phase)
    (h : ∀ next, phase = .merged next →
      { shared.1.config.gb28181 with server := next.server } = next) :
    (¬phase.Committed ∧ (call.advance io shared phase).2.Committed ∧
      (call.advance io shared phase).1.1 = call.effect shared.1) ∨
    (((call.advance io shared phase).2.Committed ↔ phase.Committed) ∧
      (call.advance io shared phase).1.1 = shared.1) := by
  cases phase with
  | returned ret => exact .inr ⟨Iff.rfl, rfl⟩
  | saving x c => exact .inr ⟨Iff.rfl, rfl⟩
  | entering =>
    cases call with
    | update x c persist => exact .inl ⟨id, commit_committed, commit_store⟩
    | updateGb28181Server server persist => exact .inr ⟨Iff.rfl, rfl⟩
  | merged next =>
    obtain ⟨server, persist, rfl, hs⟩ := hphase next rfl
    refine .inl ⟨id, commit_committed, ?_⟩
    have hnext : { shared.1.config.gb28181 with server := server } = next := hs ▸ h next rfl
    simp only [effect, hnext]
    exact commit_store

end StoreCall

abbrev StorePool (ι ω : Type) := Pool ι (ProtocolConfigStore × ω) UpdatePhase

namespace StorePool

variable {ι ω : Type} [DecidableEq ι] (io : FileIo ω) (calls : ι → StoreCall)

def start (ι : Type) (s : ProtocolConfigStore) (w : ω) : StorePool ι ω :=
  ⟨(s, w), fun _ ↦ .entering⟩

def step (p : StorePool ι ω) (i : ι) : StorePool ι ω :=
  Pool.step (fun i ↦ (calls i).advance io) p i

def run (p : StorePool ι ω) (schedule : List ι) : StorePool ι ω :=
  Runs.exec (step io calls) p schedule

/-- A merged configuration that is about to be written differs from the one in memory
in its server at most. -/
def Undisturbed (p : StorePool ι ω) (i : ι) : Prop :=
  ∀ next, p.locals i = .merged next →
    { p.shared.1.config.gb28181 with server := next.server } = next

variable {io calls} {p : StorePool ι ω} {i : ι} {s : ProtocolConfigStore} {w : ω}
  {schedule : List ι}

def Merging (calls : ι → StoreCall) (p : StorePool ι ω) : Prop :=
  ∀ i, (calls i).Merges (p.locals i)

theorem Merging.step (h : Merging calls p) (i : ι) : Merging calls (step io calls p i) := by
  intro j
  by_cases hj : j = i
  · subst hj
    rw [StorePool.step, Pool.step_self]
    exact (h j).advance
  · rw [StorePool.step, Pool.step_other _ p hj]
    exact h j

omit [DecidableEq ι] in
theorem merging_start : Merging calls (start ι s w) := by
  intro i next h
  exact nomatch h

theorem commits : Pool.Commits (fun i ↦ (calls i).advance io) Prod.fst (fun i ↦ (calls i).effect)
    UpdatePhase.Committed (fun p i ↦ Merging calls p ∧ Undisturbed p i) := by
  intro p i hp
  rw [Pool.step_self]
  exact (hp.1 i).commits hp.2

/-- When no update of the server writes back what another call has changed since it read,
the store ends up as if its calls had been made one after the other. -/
theorem updates_serial
    (h : Runs.Along (step io calls) Undisturbed (start ι s w) schedule)
    (hdone : ∀ i ∈ schedule,
      ∃ ret, (run io calls (start ι s w) schedule).locals i = .returned ret) :
    ∃ order : List ι, order.Perm schedule.dedup ∧
      (run io calls (start ι s w) schedule).shared.1 =
        (StoreCall.performAll io (s, w) (order.map calls)).1 := by
  have hok : Runs.Along (step io calls) (fun p i ↦ Merging calls p ∧ Undisturbed p i)
      (start ι s w) schedule :=
    h.transfer (fun p i hp hu ↦ ⟨hp.step i, hp, hu⟩) merging_start
  have hcommitted (i : ι) (hi : i ∈ schedule) :
      ((run io calls (start ι s w) schedule).locals i).Committed := by
    obtain ⟨ret, hret⟩ := hdone i hi
    rw [hret]
    trivial
  obtain ⟨order, hperm, hview⟩ :=
    Pool.exists_perm_of_run commits (fun _ ↦ id) hok hcommitted
  refine ⟨order, hperm, ?_⟩
  rw [StoreCall.performAll_store, List.foldl_map]
  exact hview

def apartCalls : ℕ → StoreCall
  | 0 => .updateGb28181Server { id := "1" } false
  | _ => .update .onvif { username := "root" } false

theorem updates_serial_apart :
    ∃ order : List ℕ, order.Perm ([0, 1, 0] : List ℕ).dedup ∧
      (run Endpoint.memoryFiles apartCalls (start ℕ {} []) [0, 1, 0]).shared.1 =
        (StoreCall.performAll Endpoint.memoryFiles ({}, []) (order.map apartCalls)).1 := by
  refine updates_serial ⟨?_, ?_, ?_, trivial⟩ ?_
  · exact fun next h ↦ nomatch h
  · exact fun next h ↦ nomatch h
  · intro next h
    obtain rfl := UpdatePhase.merged.inj h
    rfl
  · intro i hi
    obtain rfl | rfl : i = 0 ∨ i = 1 := by
      simp only [List.mem_cons, List.not_mem_nil, or_false] at hi
      omega
    · exact ⟨.ok (), rfl⟩
    · exact ⟨.ok (), rfl⟩

def crossingCalls : ℕ → StoreCall
  | 0 => .updateGb28181Server { id := "1" } false
  | _ => .update .gb28181 { «local» := { password := "secret" } } false

/-- The new password is gone, which no order of the two calls leads to. -/
theorem update_lost :
    let p := run Endpoint.memoryFiles crossingCalls (start ℕ {} []) [0, 1, 0]
    (p.locals 0 = .returned (.ok ()) ∧ p.locals 1 = .returned (.ok ())) ∧
      ∀ order : List ℕ, order.Perm [0, 1] → p.shared.1.config ≠
        (StoreCall.performAll Endpoint.memoryFiles ({}, [])
          (order.map crossingCalls)).1.config := by
  intro p
  refine ⟨⟨rfl, rfl⟩, ?_⟩
  intro order horder
  rcases List.perm_pair.mp horder with rfl | rfl
  · decide +kernel
  · decide +kernel

end StorePool

end TriFusion.Protocol
