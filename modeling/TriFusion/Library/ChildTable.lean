import Mathlib.Data.Int.Basic
import Mathlib.Data.List.Basic
import Mathlib.Data.PNat.Defs

namespace TriFusion.Library.ChildTable

inductive Ending
  | exited (code : ℤ)
  | signaled (signal : ℤ) (core : Bool)
  deriving DecidableEq

def Ending.status : Ending → ℤ
  | .exited code => code * 256
  | .signaled signal core => signal + if core then 128 else 0

structure Child where
  pid : ℤ
  ending : Option Ending := none
  deriving DecidableEq

/-- How a wait that does not block is answered. -/
inductive Answer
  | running
  | ended (ending : Ending)
  | noChild
  deriving DecidableEq

def pids (table : List Child) : List ℤ := table.map Child.pid

/-- A fork gets no pid that is taken: the first process has 1. -/
def fork {ε : Type*} (busy : ε) (answer : Except ε ℕ+) (table : List Child) :
    Except ε ℕ+ × List Child :=
  match answer with
  | .error e => (.error e, table)
  | .ok pid =>
    if (pid : ℤ) = 1 ∨ (pid : ℤ) ∈ pids table then (.error busy, table)
    else (.ok pid, { pid := pid } :: table)

def expire (ends : ℤ → Option Ending) (table : List Child) : List Child :=
  table.map fun c ↦ { c with ending := c.ending.or (ends c.pid) }

/-- The wait that finds a child ended takes it from the table. -/
def wait (pid : ℤ) (table : List Child) : Answer × List Child :=
  match table.find? (·.pid == pid) with
  | none => (.noChild, table)
  | some c =>
    match c.ending with
    | none => (.running, table)
    | some ending => (.ended ending, table.filter (·.pid != pid))

variable {table : List Child} {pid : ℤ}

@[simp] theorem pids_nil : pids [] = [] := rfl

@[simp] theorem pids_expire (ends : ℤ → Option Ending) : pids (expire ends table) = pids table := by
  simp [pids, expire]

@[simp] theorem pids_eq_nil : pids table = [] ↔ table = [] := List.map_eq_nil_iff

theorem fork_cases {ε : Type*} (busy : ε) (answer : Except ε ℕ+) (table : List Child) :
    (∃ e, fork busy answer table = (.error e, table)) ∨
      ∃ child : ℕ+, fork busy answer table = (.ok child, { pid := child } :: table) ∧
        1 < (child : ℤ) ∧ (child : ℤ) ∉ pids table := by
  cases answer with
  | error e => exact .inl ⟨e, rfl⟩
  | ok child =>
    by_cases htaken : (child : ℤ) = 1 ∨ (child : ℤ) ∈ pids table
    · exact .inl ⟨busy, if_pos htaken⟩
    · rw [not_or] at htaken
      have hpos : 0 < (child : ℤ) := by exact_mod_cast child.pos
      refine .inr ⟨child, if_neg (not_or.mpr htaken), ?_, htaken.2⟩
      have hone := htaken.1
      omega

theorem wait_cases (pid : ℤ) (table : List Child) :
    (wait pid table = (.noChild, table) ∧ pid ∉ pids table) ∨
      (wait pid table = (.running, table) ∧ pid ∈ pids table) ∨
        ∃ ending, wait pid table = (.ended ending, table.filter (·.pid != pid)) ∧
          pid ∈ pids table := by
  cases hf : table.find? (·.pid == pid) with
  | none =>
    refine .inl ⟨by simp only [wait, hf], ?_⟩
    intro hm
    obtain ⟨c, hc, he⟩ := List.mem_map.mp hm
    exact absurd he (by simpa using List.find?_eq_none.mp hf c hc)
  | some c =>
    have hp : c.pid = pid := by simpa using List.find?_some hf
    have hm : pid ∈ pids table := List.mem_map.mpr ⟨c, List.mem_of_find?_eq_some hf, hp⟩
    cases he : c.ending with
    | none => exact .inr (.inl ⟨by simp only [wait, hf, he], hm⟩)
    | some ending => exact .inr (.inr ⟨ending, by simp only [wait, hf, he], hm⟩)

theorem pids_filter (pid : ℤ) (table : List Child) :
    pids (table.filter (·.pid != pid)) = (pids table).filter (· != pid) := by
  rw [pids, pids, List.filter_map]
  rfl

theorem wait_single (h : pids table = [pid]) :
    (wait pid table = (.running, table) ∧ ∃ c ∈ table, c.ending = none) ∨
      (∃ ending, wait pid table = (.ended ending, [])) ∧ ∀ c ∈ table, c.ending ≠ none := by
  obtain ⟨c, rfl, hp⟩ := List.map_eq_singleton_iff.mp h
  cases he : c.ending with
  | none => exact .inl ⟨by simp [wait, hp, he], c, List.mem_singleton_self c, he⟩
  | some ending => exact .inr ⟨⟨ending, by simp [wait, hp, he]⟩, by simp [he]⟩

theorem pids_of_forall (hn : (pids table).Nodup) (h : ∀ q ∈ pids table, q = pid) :
    pids table = [] ∨ pids table = [pid] := by
  cases ht : pids table with
  | nil => exact .inl rfl
  | cons q rest =>
    rw [ht] at h hn
    have hq : q = pid := h q List.mem_cons_self
    cases rest with
    | nil => exact .inr (by rw [hq])
    | cons q' rest =>
      have hq' : q' = pid := h q' (by simp)
      simp [hq, hq'] at hn

end TriFusion.Library.ChildTable
