import TriFusion.Protocol.PlayProbeMedia

namespace TriFusion.Protocol

open Library

namespace Gb28181PlayProbe

def Pack (pack : List UInt8) : Prop :=
  ∃ body, pack = packStartCode ++ body ∧ ¬packStartCode <:+: body

/-- The packs of a file. What stands before the first start code belongs to none of them, and a
file without a start code counts as one pack. -/
inductive Packed : List UInt8 → List (List UInt8) → Prop
  | whole {file : List UInt8} (h : ¬packStartCode <:+: file) : Packed file [file]
  | packs {before : List UInt8} {packs : List (List UInt8)} (hbefore : ¬packStartCode <:+: before)
      (hne : packs ≠ []) (hpacks : ∀ p ∈ packs, Pack p) : Packed (before ++ packs.flatten) packs

theorem packStartCode_ne_nil : packStartCode ≠ [] := List.cons_ne_nil _ _

theorem packStartCode_borderless : Marks.Borderless packStartCode := by
  unfold Marks.Borderless
  decide

theorem packCodeAt_eq : packCodeAt = Marks.prefixAt packStartCode := rfl

theorem flatten_packs {packs : List (List UInt8)} (h : ∀ p ∈ packs, Pack p) :
    packs.flatten = [] ∨ packStartCode <+: packs.flatten := by
  cases packs with
  | nil => exact .inl rfl
  | cons p rest =>
    obtain ⟨body, rfl, -⟩ := h p List.mem_cons_self
    rw [List.flatten_cons, List.append_assoc]
    exact .inr (List.prefix_append _ _)

theorem marked_packs {packs : List (List UInt8)} (h : ∀ p ∈ packs, Pack p) :
    Marks.Marked packCodeAt packs := by
  induction packs with
  | nil => exact .nil
  | cons p rest ih =>
    obtain ⟨body, rfl, hbody⟩ := h p List.mem_cons_self
    have hrest : ∀ p ∈ rest, Pack p := fun q hq ↦ h q (List.mem_cons_of_mem _ hq)
    refine .cons packStartCode_ne_nil ?_ ?_ (ih hrest)
    · exact Marks.prefixAt_append _ _
    · exact Marks.quiet_of_not_infix packStartCode_borderless packStartCode_ne_nil hbody
        (flatten_packs hrest)

theorem packs_of_marked {packs : List (List UInt8)} (h : Marks.Marked packCodeAt packs) :
    ∀ p ∈ packs, Pack p := by
  induction h with
  | nil =>
    intro p hp
    exact absurd hp List.not_mem_nil
  | @cons code body rest nonempty mark quiet tail ih =>
    intro p hp
    rcases List.mem_cons.mp hp with rfl | hp
    · have hpre : packStartCode <+: code ++ (body ++ rest.flatten) := by
        by_contra hnot
        rw [packCodeAt_eq, (Marks.prefixAt_eq_zero packStartCode_ne_nil).mpr hnot] at mark
        exact nonempty (List.length_eq_zero_iff.mp mark.symm)
      have hlen : packStartCode.length = code.length := by
        rw [← mark, packCodeAt_eq, Marks.prefixAt, if_pos (List.isPrefixOf_iff_prefix.mpr hpre)]
      have hcode : packStartCode = code := by
        rw [List.prefix_iff_eq_take.mp hpre, hlen, List.take_left]
      refine ⟨body, by rw [hcode], ?_⟩
      exact Marks.not_infix_of_quiet packStartCode_ne_nil quiet
    · exact ih p hp

theorem splitPsPacks_whole {file : List UInt8} (h : ¬packStartCode <:+: file) :
    splitPsPacks file = [file] := by
  have hquiet : Marks.Quiet packCodeAt file [] :=
    Marks.quiet_of_not_infix packStartCode_borderless packStartCode_ne_nil h (.inl rfl)
  have hscan := Marks.scan_quiet 0 hquiet
  rw [List.append_nil, Marks.scan] at hscan
  simp only [splitPsPacks, hscan, if_true]

theorem splitPsPacks_packs {before : List UInt8} {packs : List (List UInt8)}
    (hbefore : ¬packStartCode <:+: before) (hne : packs ≠ []) (hpacks : ∀ p ∈ packs, Pack p) :
    splitPsPacks (before ++ packs.flatten) = packs := by
  have hmarked := marked_packs hpacks
  have hquiet : Marks.Quiet packCodeAt before packs.flatten :=
    Marks.quiet_of_not_infix packStartCode_borderless packStartCode_ne_nil hbefore
      (flatten_packs hpacks)
  have hscan : Marks.scan packCodeAt 0 0 (before ++ packs.flatten) =
      Marks.offsets before.length packs := by
    rw [Marks.scan_quiet 0 hquiet, Nat.zero_add, Marks.scan_marked _ hmarked]
  have hsome : Marks.offsets before.length packs ≠ [] := by
    cases packs with
    | nil => exact absurd rfl hne
    | cons p rest => exact List.cons_ne_nil _ _
  have hall : (Marks.spans (Marks.offsets before.length packs)
      (before ++ packs.flatten).length).filter (fun span ↦ decide (span.1 < span.2)) =
      Marks.spans (Marks.offsets before.length packs) (before ++ packs.flatten).length := by
    rw [List.filter_eq_self]
    intro span hspan
    refine decide_eq_true (Marks.lt_of_mem_spans (fun p hp ↦ hmarked.ne_nil hp) ?_ hspan)
    exact List.length_append.symm
  simp only [splitPsPacks, hscan, hsome, if_false, hall]
  exact Marks.slices_offsets before packs

/-- The file is cut at its start codes, and nowhere else. -/
theorem splitPsPacks_iff {file : List UInt8} {packs : List (List UInt8)} :
    splitPsPacks file = packs ↔ Packed file packs := by
  have hcut {packs : List (List UInt8)} (h : Packed file packs) : splitPsPacks file = packs := by
    cases h with
    | whole h => exact splitPsPacks_whole h
    | packs hbefore hne hpacks => exact splitPsPacks_packs hbefore hne hpacks
  refine ⟨?_, hcut⟩
  rintro rfl
  obtain ⟨before, pieces, he, hquiet, hmarked⟩ :=
    Marks.exists_marked (Marks.prefixAt_le packStartCode) file
  have hbefore := Marks.not_infix_of_quiet packStartCode_ne_nil hquiet
  have hpacked : ∃ packs, Packed file packs := by
    by_cases hp : pieces = []
    · rw [hp, List.flatten_nil, List.append_nil] at he
      exact ⟨[file], .whole (he ▸ hbefore)⟩
    · exact ⟨pieces, he ▸ .packs hbefore hp (packs_of_marked hmarked)⟩
  obtain ⟨packs, hpacked⟩ := hpacked
  rw [hcut hpacked]
  exact hpacked

theorem Packed.ne_nil {file : List UInt8} {packs : List (List UInt8)} (h : Packed file packs) :
    packs ≠ [] := by
  cases h with
  | whole => exact List.cons_ne_nil _ _
  | packs hbefore hne hpacks => exact hne

theorem Packed.pack_ne_nil {file : List UInt8} {packs : List (List UInt8)} (h : Packed file packs)
    (hfile : file ≠ []) {p : List UInt8} (hp : p ∈ packs) : p ≠ [] := by
  cases h with
  | whole =>
    rw [List.mem_singleton.mp hp]
    exact hfile
  | packs hbefore hne hpacks =>
    obtain ⟨body, rfl, -⟩ := hpacks p hp
    exact List.cons_ne_nil _ _

end Gb28181PlayProbe

end TriFusion.Protocol
