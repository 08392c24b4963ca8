import Mathlib.Data.List.Basic
import Mathlib.Data.List.Nodup
import Mathlib.Order.Lattice

namespace TriFusion.Library.Outline

variable {ι κ ν : Type*}

/-- A line of an indented outline. Without a value it opens a section. -/
structure Line (ι κ ν : Type*) where
  indent : ι
  key : κ
  value : Option ν

/-- The open sections, innermost first, and the values read, newest first, each
under its key and the sections around it. -/
structure State (ι κ ν : Type*) where
  stack : List (ι × κ)
  entries : List (List κ × ν)

def start : State ι κ ν := ⟨[], []⟩

def path (stack : List (ι × κ)) (key : κ) : List κ := key :: stack.map Prod.snd

structure Leaf (ι κ ν : Type*) where
  sections : List (ι × κ)
  indent : ι
  key : κ
  value : ν

def Leaf.entry (leaf : Leaf ι κ ν) : List κ × ν := (path leaf.sections leaf.key, leaf.value)

/-- The siblings of one level, each with what is nested in it. -/
inductive Forest (ι κ ν : Type*)
  | nil
  | leaf (indent : ι) (key : κ) (value : ν) (rest : Forest ι κ ν)
  | node (indent : ι) (key : κ) (inner rest : Forest ι κ ν)

namespace Forest

def lines : Forest ι κ ν → List (Line ι κ ν)
  | nil => []
  | leaf indent key value rest => ⟨indent, key, some value⟩ :: lines rest
  | node indent key inner rest => ⟨indent, key, none⟩ :: (lines inner ++ lines rest)

def leaves (sections : List (ι × κ)) : Forest ι κ ν → List (Leaf ι κ ν)
  | nil => []
  | leaf indent key value rest => ⟨sections, indent, key, value⟩ :: leaves sections rest
  | node indent key inner rest => leaves ((indent, key) :: sections) inner ++ leaves sections rest

variable {ν' : Type*} (f : ν → ν')

def map : Forest ι κ ν → Forest ι κ ν'
  | nil => nil
  | leaf indent key value rest => leaf indent key (f value) (map rest)
  | node indent key inner rest => node indent key (map inner) (map rest)

theorem lines_map (forest : Forest ι κ ν) :
    (forest.map f).lines =
      forest.lines.map fun line ↦ ⟨line.indent, line.key, line.value.map f⟩ := by
  induction forest with
  | nil => rfl
  | leaf indent key value rest ih =>
    rw [map, lines, ih]
    rfl
  | node indent key inner rest ihi ihr =>
    rw [map, lines, ihi, ihr, lines, List.map_cons, List.map_append]
    rfl

theorem leaves_map (forest : Forest ι κ ν) (sections : List (ι × κ)) :
    (forest.map f).leaves sections =
      (forest.leaves sections).map fun leaf ↦
        ⟨leaf.sections, leaf.indent, leaf.key, f leaf.value⟩ := by
  induction forest generalizing sections with
  | nil => rfl
  | leaf indent key value rest ih =>
    rw [map, leaves, ih]
    rfl
  | node indent key inner rest ihi ihr => rw [map, leaves, ihi, ihr, leaves, List.map_append]

end Forest

variable [LinearOrder ι]

/-- The sections a line of this indentation is inside of. -/
def close (indent : ι) (stack : List (ι × κ)) : List (ι × κ) :=
  stack.dropWhile fun frame ↦ decide (indent ≤ frame.1)

def step (s : State ι κ ν) (line : Line ι κ ν) : State ι κ ν :=
  match line.value with
  | none => { s with stack := (line.indent, line.key) :: close line.indent s.stack }
  | some v =>
    ⟨close line.indent s.stack,
      (path (close line.indent s.stack) line.key, v) :: s.entries⟩

def run (s : State ι κ ν) (lines : List (Line ι κ ν)) : State ι κ ν := lines.foldl step s

@[simp] theorem run_nil (s : State ι κ ν) : run s [] = s := rfl

@[simp] theorem run_cons (s : State ι κ ν) (line : Line ι κ ν) (lines : List (Line ι κ ν)) :
    run s (line :: lines) = run (step s line) lines := rfl

theorem run_append (s : State ι κ ν) (first second : List (Line ι κ ν)) :
    run s (first ++ second) = run (run s first) second := List.foldl_append

theorem close_subset (indent : ι) (stack : List (ι × κ)) : close indent stack ⊆ stack :=
  (List.dropWhile_sublist _).subset

theorem close_head_lt {indent : ι} {stack : List (ι × κ)} {frame : ι × κ}
    {rest : List (ι × κ)} (h : close indent stack = frame :: rest) : frame.1 < indent := by
  induction stack with
  | nil => simp [close] at h
  | cons top stack ih =>
    by_cases ht : indent ≤ top.1
    · rw [close, List.dropWhile_cons_of_pos (by simpa using ht)] at h
      exact ih h
    · rw [close, List.dropWhile_cons_of_neg (by simpa using ht)] at h
      obtain ⟨rfl, -⟩ := List.cons.inj h
      exact not_le.mp ht

def Written (lines : List (Line ι κ ν)) (key outer : κ) (v : ν) : Prop :=
  ∃ line ∈ lines, line.key = key ∧ line.value = some v ∧
    ∃ head ∈ lines, head.value = none ∧ head.key = outer ∧ head.indent < line.indent

structure Sourced (lines : List (Line ι κ ν)) (s : State ι κ ν) : Prop where
  stack : ∀ frame ∈ s.stack, ∃ head ∈ lines,
    head.value = none ∧ head.key = frame.2 ∧ head.indent = frame.1
  entries : ∀ key outer names v, (key :: outer :: names, v) ∈ s.entries →
    Written lines key outer v

theorem sourced_step {lines : List (Line ι κ ν)} {s : State ι κ ν} (h : Sourced lines s)
    {line : Line ι κ ν} (hl : line ∈ lines) : Sourced lines (step s line) := by
  have hc : ∀ frame ∈ close line.indent s.stack, ∃ head ∈ lines,
      head.value = none ∧ head.key = frame.2 ∧ head.indent = frame.1 :=
    fun frame hf ↦ h.stack frame (close_subset _ _ hf)
  cases hv : line.value with
  | none =>
    simp only [step, hv]
    refine ⟨?_, h.entries⟩
    intro frame hf
    rcases List.mem_cons.mp hf with rfl | hf
    · exact ⟨line, hl, hv, rfl, rfl⟩
    · exact hc frame hf
  | some value =>
    simp only [step, hv]
    refine ⟨hc, ?_⟩
    intro key outer names v hm
    rcases List.mem_cons.mp hm with he | hm
    · obtain ⟨hp, rfl⟩ := Prod.mk.inj he
      obtain ⟨rfl, hs⟩ := List.cons.inj hp
      cases hst : close line.indent s.stack with
      | nil => simp [hst] at hs
      | cons frame rest =>
        rw [hst, List.map_cons] at hs
        obtain ⟨rfl, -⟩ := List.cons.inj hs
        obtain ⟨head, hm, hn, hk, hi⟩ := hc frame (by simp [hst])
        exact ⟨line, hl, rfl, hv, head, hm, hn, hk, hi ▸ close_head_lt hst⟩
    · exact h.entries key outer names v hm

theorem sourced_run {lines : List (Line ι κ ν)} {s : State ι κ ν} (h : Sourced lines s)
    (part : List (Line ι κ ν)) (hp : part ⊆ lines) : Sourced lines (run s part) := by
  induction part generalizing s with
  | nil => exact h
  | cons line part ih =>
    rw [List.cons_subset] at hp
    exact ih (sourced_step h hp.1) hp.2

theorem written_of_mem {lines : List (Line ι κ ν)} {key outer : κ} {names : List κ} {v : ν}
    (h : (key :: outer :: names, v) ∈ (run start lines).entries) :
    Written lines key outer v := by
  have hs : Sourced lines (start : State ι κ ν) := ⟨by simp [start], by simp [start]⟩
  exact (sourced_run hs lines (List.Subset.refl lines)).entries key outer names v h

/-- Sections of this level start at `level`, its values anywhere right of `outer`
up to there. -/
def Forest.Nested : ι → ι → Forest ι κ ν → Prop
  | _, _, .nil => True
  | outer, level, .leaf indent _ _ rest => outer < indent ∧ indent ≤ level ∧ Nested outer level rest
  | outer, level, .node indent _ inner rest =>
    indent = level ∧ outer < level ∧ (∃ deeper, level ≤ deeper ∧ Nested level deeper inner) ∧
      Nested outer level rest

theorem close_open {outer indent level : ι} {closed base : List (ι × κ)}
    (hc : ∀ frame ∈ closed, level ≤ frame.1) (hb : ∀ frame ∈ base, frame.1 ≤ outer)
    (ho : outer < indent) (hi : indent ≤ level) : close indent (closed ++ base) = base := by
  induction closed with
  | nil =>
    cases base with
    | nil => rfl
    | cons frame base =>
      have hf := hb frame List.mem_cons_self
      exact List.dropWhile_cons_of_neg (by simpa using hf.trans_lt ho)
  | cons frame closed ih =>
    have hf := hc frame List.mem_cons_self
    rw [close, List.cons_append, List.dropWhile_cons_of_pos (by simpa using hi.trans hf)]
    exact ih fun other ho ↦ hc other (List.mem_cons_of_mem _ ho)

/-- Reading a nested outline gives its values, each under the sections it is nested in. -/
theorem run_forest {forest : Forest ι κ ν} {outer level : ι} (hn : forest.Nested outer level)
    (closed base : List (ι × κ)) (entries : List (List κ × ν))
    (hc : ∀ frame ∈ closed, level ≤ frame.1) (hb : ∀ frame ∈ base, frame.1 ≤ outer) :
    ∃ left : List (ι × κ), (∀ frame ∈ left, level ≤ frame.1) ∧
      run ⟨closed ++ base, entries⟩ forest.lines =
        ⟨left ++ base, ((forest.leaves base).map Leaf.entry).reverse ++ entries⟩ := by
  induction forest generalizing outer level closed base entries with
  | nil => exact ⟨closed, hc, rfl⟩
  | leaf indent key value rest ih =>
    obtain ⟨ho, hi, hr⟩ := hn
    obtain ⟨left, hl, he⟩ := ih hr [] base ((path base key, value) :: entries) (by simp) hb
    refine ⟨left, hl, ?_⟩
    rw [List.nil_append] at he
    rw [Forest.lines, run_cons, step, close_open hc hb ho hi, he, Forest.leaves, List.map_cons,
      List.reverse_cons, List.append_assoc]
    rfl
  | node indent key inner rest ihi ihr =>
    obtain ⟨rfl, ho, ⟨deeper, hd, hin⟩, hr⟩ := hn
    have hb' : ∀ frame ∈ (indent, key) :: base, frame.1 ≤ indent := by
      intro frame hf
      rcases List.mem_cons.mp hf with rfl | hf
      · exact le_rfl
      · exact (hb frame hf).trans ho.le
    obtain ⟨inside, hli, hei⟩ := ihi hin [] ((indent, key) :: base) entries (by simp) hb'
    have hc' : ∀ frame ∈ inside ++ [(indent, key)], indent ≤ frame.1 := by
      intro frame hf
      rcases List.mem_append.mp hf with hf | hf
      · exact hd.trans (hli frame hf)
      · rw [List.mem_singleton.mp hf]
    obtain ⟨left, hl, he⟩ := ihr hr (inside ++ [(indent, key)]) base
      (((inner.leaves ((indent, key) :: base)).map Leaf.entry).reverse ++ entries) hc' hb
    refine ⟨left, hl, ?_⟩
    rw [List.nil_append] at hei
    rw [List.append_assoc, List.singleton_append] at he
    rw [Forest.lines, run_cons, run_append, step]
    dsimp only
    rw [close_open hc hb ho le_rfl, hei, he, Forest.leaves, List.map_append, List.reverse_append,
      List.append_assoc]

theorem run_start_forest {forest : Forest ι κ ν} {outer level : ι}
    (hn : forest.Nested outer level) :
    (run start forest.lines).entries = ((forest.leaves []).map Leaf.entry).reverse := by
  obtain ⟨left, -, he⟩ := run_forest hn [] [] [] (by simp) (by simp)
  rw [List.nil_append] at he
  rw [start, he]
  exact List.append_nil _

theorem lookup_of_mem {α β : Type*} [BEq α] [LawfulBEq α] {entries : List (α × β)} {key : α}
    {value : β} (hd : (entries.map Prod.fst).Nodup) (h : (key, value) ∈ entries) :
    entries.lookup key = some value := by
  induction entries with
  | nil => exact absurd h List.not_mem_nil
  | cons entry entries ih =>
    obtain ⟨other, v⟩ := entry
    rw [List.map_cons, List.nodup_cons] at hd
    rcases List.mem_cons.mp h with he | hm
    · obtain ⟨rfl, rfl⟩ := Prod.mk.inj he
      exact List.lookup_cons_self
    · have hk : key ≠ other := by
        rintro rfl
        exact hd.1 (List.mem_map.mpr ⟨_, hm, rfl⟩)
      rw [List.lookup_cons, beq_eq_false_iff_ne.mpr hk]
      exact ih hd.2 hm

end TriFusion.Library.Outline
