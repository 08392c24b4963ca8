import Mathlib.Data.List.Induction
import TriFusion.Protocol.PlayProbeMedia

namespace TriFusion.Protocol

open Library

namespace Gb28181PlayProbe

/-! How `splitAnnexBFrames` puts NAL units together. -/

def nalBody (nal : List UInt8) : List UInt8 :=
  nal.drop (if startCode4.isPrefixOf nal then 4 else 3)

/-- A unit of a coded slice. -/
def isVcl (nal : List UInt8) : Bool :=
  decide (1 ≤ (nalBody nal).getD 0 0 &&& 0x1f ∧ (nalBody nal).getD 0 0 &&& 0x1f ≤ 5)

/-- Units in groups: at most one coded slice in each and exactly one in all but the last, and
every group but the first one begins with its slice. -/
structure Grouped (units : List (List UInt8)) (groups : List (List (List UInt8))) : Prop where
  flatten : groups.flatten = units
  slice : ∀ g ∈ groups, (g.filter isVcl).length ≤ 1
  exact : ∀ g ∈ groups.dropLast, (g.filter isVcl).length = 1
  first : ∀ g ∈ groups.tail, g.head?.any isVcl = true

def FrameBuilder.add (b : FrameBuilder) (nal : List UInt8) : FrameBuilder :=
  if nalBody nal = [] then b
  else
    let b :=
      if isVcl nal ∧ b.currentHasVcl ∧ b.current ≠ [] then
        { b with frames := b.frames ++ [b.current], current := [], currentHasVcl := false }
      else b
    { b with
      current := b.current ++ nal
      currentHasVcl := isVcl nal || b.currentHasVcl }

/-- What the loop has made of the units so far: groups that are done, and the current one. -/
structure FrameBuilder.Holds (b : FrameBuilder) (units : List (List UInt8))
    (done : List (List (List UInt8))) (group : List (List UInt8)) : Prop where
  frames : b.frames = done.map List.flatten
  current : b.current = group.flatten
  hasVcl : b.currentHasVcl = group.any isVcl
  flatten : done.flatten ++ group = units
  exact : ∀ g ∈ done, (g.filter isVcl).length = 1
  slice : (group.filter isVcl).length ≤ 1
  first : ∀ g ∈ (done ++ [group]).tail, g.head?.any isVcl = true

theorem isVcl_nil : isVcl [] = false := by
  decide

theorem flatten_ne_nil_of_any {group : List (List UInt8)} (h : group.any isVcl = true) :
    group.flatten ≠ [] := by
  obtain ⟨nal, hmem, hvcl⟩ := List.any_eq_true.mp h
  intro hnil
  have hempty := List.flatten_eq_nil_iff.mp hnil nal hmem
  rw [hempty, isVcl_nil] at hvcl
  exact Bool.false_ne_true hvcl

theorem length_filter_pos {group : List (List UInt8)} :
    0 < (group.filter isVcl).length ↔ group.any isVcl = true := by
  rw [List.length_pos_iff, ne_eq, List.filter_eq_nil_iff, List.any_eq_true]
  push Not
  rfl

section Turn

variable {b : FrameBuilder} {units group : List (List UInt8)} {done : List (List (List UInt8))}
  {nal : List UInt8}

theorem FrameBuilder.Holds.add_second (h : b.Holds units done group) (hbody : nalBody nal ≠ [])
    (hnal : isVcl nal = true) (hgroup : group.any isVcl = true) :
    (b.add nal).Holds (units ++ [nal]) (done ++ [group]) [nal] := by
  have hadd : b.add nal = ⟨b.frames ++ [b.current], nal, true⟩ := by
    have hcond : isVcl nal ∧ b.currentHasVcl ∧ b.current ≠ [] := by
      refine ⟨hnal, ?_, ?_⟩
      · rw [h.hasVcl, hgroup]
      · rw [h.current]
        exact flatten_ne_nil_of_any hgroup
    rw [FrameBuilder.add, if_neg hbody, if_pos hcond]
    simp [hnal]
  rw [hadd]
  constructor
  case frames => rw [h.frames, h.current, List.map_append, List.map_singleton]
  case current => rw [List.flatten_singleton]
  case hasVcl => simp [hnal]
  case flatten => rw [← h.flatten, List.flatten_append, List.flatten_singleton]
  case exact =>
    intro g hg
    rcases List.mem_append.mp hg with hg | hg
    · exact h.exact g hg
    · rw [List.mem_singleton.mp hg]
      exact Nat.le_antisymm h.slice (length_filter_pos.mpr hgroup)
  case slice => exact List.length_filter_le isVcl [nal]
  case first =>
    intro g hg
    rw [List.tail_append_of_ne_nil (by simp)] at hg
    rcases List.mem_append.mp hg with hg | hg
    · exact h.first g hg
    · rw [List.mem_singleton.mp hg]
      exact hnal

theorem FrameBuilder.Holds.add_same (h : b.Holds units done group) (hbody : nalBody nal ≠ [])
    (hsame : isVcl nal = false ∨ group.any isVcl = false) :
    (b.add nal).Holds (units ++ [nal]) done (group ++ [nal]) := by
  have hadd : b.add nal = ⟨b.frames, b.current ++ nal, isVcl nal || b.currentHasVcl⟩ := by
    have hcond : ¬(isVcl nal ∧ b.currentHasVcl ∧ b.current ≠ []) := by
      rw [h.hasVcl]
      rcases hsame with hs | hs <;> simp [hs]
    rw [FrameBuilder.add, if_neg hbody, if_neg hcond]
  rw [hadd]
  constructor
  case frames => exact h.frames
  case current => rw [h.current, List.flatten_append, List.flatten_singleton]
  case hasVcl => rw [h.hasVcl, List.any_append, Bool.or_comm]; simp
  case flatten => rw [← h.flatten, List.append_assoc]
  case exact => exact h.exact
  case slice =>
    rw [List.filter_append, List.length_append]
    rcases hsame with hs | hs
    · have hnone : [nal].filter isVcl = [] := List.filter_cons_of_neg (by simp [hs])
      rw [hnone]
      exact h.slice
    · have hone := List.length_filter_le isVcl [nal]
      have hzero : ¬0 < (group.filter isVcl).length := by
        rw [length_filter_pos, hs]
        exact Bool.false_ne_true
      rw [List.length_singleton] at hone
      omega
  case first =>
    intro g hg
    have hfirst := h.first
    cases done with
    | nil => exact absurd hg List.not_mem_nil
    | cons d done =>
      rw [List.cons_append, List.tail_cons] at hg hfirst
      rcases List.mem_append.mp hg with hg | hg
      · exact hfirst g (List.mem_append_left _ hg)
      · have hgroup := hfirst group (List.mem_append_right _ (List.mem_singleton_self group))
        rw [List.mem_singleton.mp hg]
        cases group with
        | nil => exact absurd hgroup Bool.false_ne_true
        | cons u group => exact hgroup

theorem FrameBuilder.Holds.add (h : b.Holds units done group) (hbody : nalBody nal ≠ []) :
    ∃ done' group', (b.add nal).Holds (units ++ [nal]) done' group' := by
  cases hnal : isVcl nal with
  | false => exact ⟨_, _, h.add_same hbody (.inl hnal)⟩
  | true =>
    cases hgroup : group.any isVcl with
    | false => exact ⟨_, _, h.add_same hbody (.inr hgroup)⟩
    | true => exact ⟨_, _, h.add_second hbody hnal hgroup⟩

end Turn

def filled (pieces : List (List UInt8)) : List (List UInt8) :=
  pieces.filter fun nal ↦ decide (nalBody nal ≠ [])

/-- The frames of a file: the file itself when it has no start code, and else its units in
groups. What stands before the first start code belongs to none of them. -/
inductive Framed : List UInt8 → List (List UInt8) → Prop
  | whole {file : List UInt8} (h : Marks.Quiet annexBCodeAt file []) : Framed file [file]
  | units {before : List UInt8} {pieces : List (List UInt8)} {groups : List (List (List UInt8))}
      (hne : pieces ≠ []) (quiet : Marks.Quiet annexBCodeAt before pieces.flatten)
      (marked : Marks.Marked annexBCodeAt pieces) (grouped : Grouped (filled pieces) groups)
      (filled : ∀ g ∈ groups, g ≠ []) :
      Framed (before ++ pieces.flatten) (groups.map List.flatten)

end Gb28181PlayProbe

end TriFusion.Protocol
