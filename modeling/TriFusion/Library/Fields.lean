import TriFusion.Library.EndedLines
import Mathlib.Data.List.TakeWhile

namespace TriFusion.Library.Fields

variable {α : Type*}

structure Message (α : Type*) where
  start : List α
  fields : List (List α × List α)
  body : List α

structure Attribute (α : Type*) where
  name : List α
  quoted : Bool
  value : List α

section Cutting

variable [DecidableEq α] {x : α} {before : List α}

theorem takeWhile_ne (h : x ∉ before) (rest : List α) :
    (before ++ x :: rest).takeWhile (· ≠ x) = before := by
  rw [List.takeWhile_append_of_pos fun y hy ↦ decide_eq_true (ne_of_mem_of_not_mem hy h),
    List.takeWhile_cons_of_neg (by simp), List.append_nil]

theorem dropWhile_ne (h : x ∉ before) (rest : List α) :
    (before ++ x :: rest).dropWhile (· ≠ x) = x :: rest := by
  rw [List.dropWhile_append_of_pos fun y hy ↦ decide_eq_true (ne_of_mem_of_not_mem hy h),
    List.dropWhile_cons_of_neg (by simp)]

end Cutting

namespace Message

variable (cr lf colon : α)

def line (field : List α × List α) : List α := field.1 ++ colon :: field.2

def lines (m : Message α) : List (List α) := m.start :: m.fields.map (line colon)

def print (m : Message α) : List α :=
  EndedLines.ended cr lf (m.lines colon) ++ cr :: lf :: m.body

/-- Nothing of the message is taken for the end of a line or of a name. -/
structure Printable (m : Message α) : Prop where
  start : m.start ≠ [] ∧ lf ∉ m.start
  fields : ∀ field ∈ m.fields, colon ∉ field.1 ∧ lf ∉ field.1 ∧ lf ∉ field.2

variable [DecidableEq α]

def cutField (line : List α) : List α × List α :=
  (line.takeWhile (· ≠ colon), (line.dropWhile (· ≠ colon)).drop 1)

def read (text : List α) : Message α :=
  let lines := EndedLines.split cr lf (EndedLines.head cr lf text)
  { start := lines.headD []
    fields := lines.tail.map (cutField colon)
    body := text.drop ((EndedLines.head cr lf text).length + 4) }

variable {cr lf colon}

theorem cutField_line {field : List α × List α} (h : colon ∉ field.1) :
    cutField colon (line colon field) = field := by
  rw [cutField, line, takeWhile_ne h, dropWhile_ne h]
  rfl

omit [DecidableEq α] in
theorem Printable.lines {m : Message α} (h : m.Printable lf colon) (hcolon : colon ≠ lf) :
    ∀ l ∈ m.lines colon, l ≠ [] ∧ lf ∉ l := by
  intro l hl
  rcases List.mem_cons.mp hl with rfl | hl
  · exact h.start
  · obtain ⟨field, hf, rfl⟩ := List.mem_map.mp hl
    obtain ⟨-, hname, hvalue⟩ := h.fields field hf
    refine ⟨List.append_ne_nil_of_right_ne_nil _ (List.cons_ne_nil _ _), ?_⟩
    intro hm
    rcases List.mem_append.mp hm with hm | hm
    · exact hname hm
    · rcases List.mem_cons.mp hm with he | hm
      · exact hcolon he.symm
      · exact hvalue hm

theorem read_print (hne : cr ≠ lf) (hcolon : colon ≠ lf) {m : Message α}
    (h : m.Printable lf colon) : read cr lf colon (m.print cr lf colon) = m := by
  have hlines := h.lines hcolon
  have hnil : m.lines colon ≠ [] := List.cons_ne_nil _ _
  have hsplit := EndedLines.split_head hne hnil hlines m.body
  have hbody := EndedLines.drop_head hne hnil hlines m.body
  have hfields : (m.fields.map (line colon)).map (cutField colon) = m.fields := by
    rw [List.map_map, ← List.map_id m.fields, List.map_map]
    refine List.map_congr_left ?_
    intro field hf
    exact cutField_line (h.fields field hf).1
  unfold read print
  rw [hsplit, hbody]
  dsimp only [lines, List.headD_cons, List.tail_cons]
  rw [hfields]

end Message

namespace Attribute

variable (eq quote comma space : α)

def print (a : Attribute α) : List α :=
  a.name ++ eq :: (if a.quoted then quote :: (a.value ++ [quote]) else a.value)

def printAll (attributes : List (Attribute α)) : List α :=
  List.intercalate [comma, space] (attributes.map (print eq quote))

structure Printable (a : Attribute α) : Prop where
  name : eq ∉ a.name
  quoted : a.quoted = true → quote ∉ a.value
  bare : a.quoted = false → comma ∉ a.value ∧ a.value.head? ≠ some quote

variable [DecidableEq α]

/-- The attribute that a list begins with, and what stands behind it. -/
def read (l : List α) : Option ((List α × List α) × List α) :=
  match l.dropWhile (· ≠ eq) with
  | [] => none
  | _ :: value =>
    if value.head? = some quote then
      match value.tail.dropWhile (· ≠ quote) with
      | [] => none
      | _ :: rest => some ((l.takeWhile (· ≠ eq), value.tail.takeWhile (· ≠ quote)), rest)
    else some ((l.takeWhile (· ≠ eq), value.takeWhile (· ≠ comma)), value.dropWhile (· ≠ comma))

def readAll (l : List α) : ℕ → Option (List (List α × List α))
  | 0 => none
  | count + 1 =>
    match read eq quote comma l with
    | none => none
    | some (a, []) => some [a]
    | some (a, c :: rest) =>
      if c = comma ∧ rest.head? = some space then (readAll rest.tail count).map (a :: ·) else none

variable {eq quote comma space}

theorem read_print (hcq : comma ≠ quote) {a : Attribute α} (h : a.Printable eq quote comma)
    {rest : List α} (hrest : rest = [] ∨ ∃ tail, rest = comma :: tail) :
    read eq quote comma (a.print eq quote ++ rest) = some ((a.name, a.value), rest) := by
  rw [print, List.append_assoc, List.cons_append, read, dropWhile_ne h.name, takeWhile_ne h.name]
  cases hq : a.quoted with
  | true =>
    have hvalue := h.quoted hq
    dsimp only
    rw [if_pos rfl, List.cons_append, List.head?_cons, if_pos rfl, List.tail_cons,
      List.append_assoc, List.singleton_append, dropWhile_ne hvalue, takeWhile_ne hvalue]
  | false =>
    obtain ⟨hcomma, hquote⟩ := h.bare hq
    dsimp only
    rw [if_neg Bool.false_ne_true]
    rcases hrest with rfl | ⟨tail, rfl⟩
    · have hall : ∀ x ∈ a.value, decide (x ≠ comma) = true :=
        fun x hx ↦ decide_eq_true (ne_of_mem_of_not_mem hx hcomma)
      rw [List.append_nil, if_neg hquote, List.takeWhile_eq_self_iff.mpr hall,
        List.dropWhile_eq_nil_iff.mpr hall]
    · have hhead : (a.value ++ comma :: tail).head? ≠ some quote := by
        cases hv : a.value with
        | nil => exact fun he ↦ hcq (Option.some_inj.mp he)
        | cons x value =>
          rw [hv] at hquote
          exact hquote
      rw [if_neg hhead, takeWhile_ne hcomma, dropWhile_ne hcomma]

theorem readAll_printAll (hcq : comma ≠ quote) {attributes : List (Attribute α)}
    (hne : attributes ≠ []) (h : ∀ a ∈ attributes, a.Printable eq quote comma) {count : ℕ}
    (hcount : attributes.length ≤ count) :
    readAll eq quote comma space (printAll eq quote comma space attributes) count =
      some (attributes.map fun a ↦ (a.name, a.value)) := by
  induction attributes generalizing count with
  | nil => exact absurd rfl hne
  | cons a rest ih =>
    have ha := h a List.mem_cons_self
    cases count with
    | zero => exact absurd hcount (Nat.not_succ_le_zero _)
    | succ count =>
      cases rest with
      | nil =>
        have hread := read_print hcq ha (.inl rfl)
        rw [List.append_nil] at hread
        rw [printAll, List.map_singleton, List.intercalate_singleton, readAll, hread]
        rfl
      | cons b rest =>
        have hrest := ih (List.cons_ne_nil b rest)
          (fun c hc ↦ h c (List.mem_cons_of_mem a hc)) (Nat.le_of_succ_le_succ hcount)
        have hprint : printAll eq quote comma space (a :: b :: rest) =
            a.print eq quote ++ comma :: space :: printAll eq quote comma space (b :: rest) := by
          rw [printAll, List.map_cons, List.map_cons, List.intercalate_cons_cons, List.append_assoc]
          rfl
        have hread := read_print hcq ha
          (.inr ⟨space :: printAll eq quote comma space (b :: rest), rfl⟩)
        rw [hprint, readAll, hread]
        dsimp only
        rw [if_pos ⟨rfl, rfl⟩, List.tail_cons, hrest]
        rfl

end Attribute

end TriFusion.Library.Fields
