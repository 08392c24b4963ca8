import Mathlib.Data.List.Basic

namespace TriFusion.Library.Marks

variable {α : Type*}

/-- The places at which a scan finds a mark. `codeAt` is the length of the mark a
list begins with, zero for none; the scan goes on behind the mark, of which
`skip` elements are still to come. -/
def scan (codeAt : List α → ℕ) (i skip : ℕ) : List α → List ℕ
  | [] => []
  | a :: rest =>
    if 0 < skip then scan codeAt (i + 1) (skip - 1) rest
    else if 0 < codeAt (a :: rest) then i :: scan codeAt (i + 1) (codeAt (a :: rest) - 1) rest
    else scan codeAt (i + 1) 0 rest

def spans (places : List ℕ) (size : ℕ) : List (ℕ × ℕ) := places.zip (places.tail ++ [size])

def slice (data : List α) (span : ℕ × ℕ) : List α := (data.drop span.1).take (span.2 - span.1)

/-- No mark begins in `l` when `rest` follows it. -/
def Quiet (codeAt : List α → ℕ) (l rest : List α) : Prop :=
  ∀ k < l.length, codeAt ((l ++ rest).drop k) = 0

/-- Pieces that begin with a mark each and hold no other one. -/
inductive Marked (codeAt : List α → ℕ) : List (List α) → Prop
  | nil : Marked codeAt []
  | cons {code body : List α} {rest : List (List α)} (nonempty : code ≠ [])
      (mark : codeAt (code ++ (body ++ rest.flatten)) = code.length)
      (quiet : Quiet codeAt body rest.flatten) (tail : Marked codeAt rest) :
      Marked codeAt ((code ++ body) :: rest)

def offsets (i : ℕ) : List (List α) → List ℕ
  | [] => []
  | p :: rest => i :: offsets (i + p.length) rest

variable {codeAt : List α → ℕ}

theorem scan_skip (i : ℕ) {l : List α} {skip : ℕ} (hs : skip ≤ l.length) :
    scan codeAt i skip l = scan codeAt (i + skip) 0 (l.drop skip) := by
  induction l generalizing i skip with
  | nil =>
    rw [List.drop_nil, scan, scan]
  | cons a rest ih =>
    cases skip with
    | zero => rw [Nat.add_zero, List.drop_zero]
    | succ skip =>
      rw [scan, if_pos (Nat.succ_pos skip), Nat.add_sub_cancel,
        ih (i + 1) (Nat.le_of_succ_le_succ hs), List.drop_succ_cons, Nat.add_assoc, Nat.add_comm 1]

theorem scan_quiet (i : ℕ) {l rest : List α} (h : Quiet codeAt l rest) :
    scan codeAt i 0 (l ++ rest) = scan codeAt (i + l.length) 0 rest := by
  induction l generalizing i with
  | nil => rfl
  | cons a l ih =>
    have hhead : codeAt (a :: (l ++ rest)) = 0 := h 0 (Nat.succ_pos _)
    have htail : Quiet codeAt l rest := by
      intro k hk
      exact h (k + 1) (Nat.succ_lt_succ hk)
    rw [List.cons_append, scan, if_neg (Nat.lt_irrefl 0), hhead, if_neg (Nat.lt_irrefl 0),
      ih (i + 1) htail, List.length_cons, Nat.add_assoc, Nat.add_comm 1]

theorem scan_mark (i : ℕ) {code rest : List α} (hne : code ≠ [])
    (hmark : codeAt (code ++ rest) = code.length) :
    scan codeAt i 0 (code ++ rest) = i :: scan codeAt (i + code.length) 0 rest := by
  cases code with
  | nil => exact absurd rfl hne
  | cons a code =>
    rw [List.cons_append] at hmark ⊢
    have hlen : code.length ≤ (code ++ rest).length := by
      rw [List.length_append]
      exact Nat.le_add_right _ _
    rw [scan, if_neg (Nat.lt_irrefl 0), hmark, List.length_cons, if_pos (Nat.succ_pos _),
      Nat.add_sub_cancel, scan_skip (i + 1) hlen, List.drop_left, Nat.add_assoc, Nat.add_comm 1]

/-- The scan of marked pieces finds where each of them begins. -/
theorem scan_marked (i : ℕ) {pieces : List (List α)} (h : Marked codeAt pieces) :
    scan codeAt i 0 pieces.flatten = offsets i pieces := by
  induction h generalizing i with
  | nil => rfl
  | @cons code body rest nonempty mark quiet tail ih =>
    rw [List.flatten_cons, List.append_assoc, scan_mark i nonempty mark, scan_quiet _ quiet, ih,
      offsets, List.length_append, Nat.add_assoc]

theorem exists_marked (hlen : ∀ l, codeAt l ≤ l.length) (data : List α) :
    ∃ before pieces, data = before ++ pieces.flatten ∧ Quiet codeAt before pieces.flatten ∧
      Marked codeAt pieces := by
  induction hn : data.length using Nat.strongRecOn generalizing data with
  | ind n ih =>
    cases data with
    | nil =>
      refine ⟨[], [], rfl, ?_, .nil⟩
      intro k hk
      exact absurd hk (Nat.not_lt_zero k)
    | cons a rest =>
      rw [List.length_cons] at hn
      by_cases hc : codeAt (a :: rest) = 0
      · obtain ⟨before, pieces, he, hq, hm⟩ := ih rest.length (by omega) rest rfl
        refine ⟨a :: before, pieces, by rw [he, List.cons_append], ?_, hm⟩
        intro k hk
        cases k with
        | zero => rw [List.drop_zero, List.cons_append, ← he, hc]
        | succ k => exact hq k (Nat.lt_of_succ_lt_succ hk)
      · generalize hcode : (a :: rest).take (codeAt (a :: rest)) = code
        generalize hafter : (a :: rest).drop (codeAt (a :: rest)) = after
        have hsplit : a :: rest = code ++ after := by
          rw [← hcode, ← hafter, List.take_append_drop]
        have hcl : code.length = codeAt (a :: rest) := by
          rw [← hcode, List.length_take, Nat.min_eq_left (hlen _)]
        have hal : after.length < n := by
          have h := hlen (a :: rest)
          rw [← hafter, List.length_drop, List.length_cons]
          rw [List.length_cons] at h
          omega
        obtain ⟨body, pieces, he, hq, hm⟩ := ih after.length hal after rfl
        refine ⟨[], (code ++ body) :: pieces, ?_, ?_, ?_⟩
        · rw [hsplit, he, List.nil_append, List.flatten_cons, List.append_assoc]
        · intro k hk
          exact absurd hk (Nat.not_lt_zero k)
        · refine .cons ?_ ?_ hq hm
          · rintro rfl
            exact hc hcl.symm
          · rw [← he, ← hsplit, hcl]

theorem Marked.ne_nil {pieces : List (List α)} (h : Marked codeAt pieces) {p : List α}
    (hp : p ∈ pieces) : p ≠ [] := by
  induction h with
  | nil => exact absurd hp List.not_mem_nil
  | cons nonempty mark quiet tail ih =>
    rcases List.mem_cons.mp hp with rfl | hp
    · intro he
      exact nonempty (List.append_eq_nil_iff.mp he).1
    · exact ih hp

theorem slices_offsets (before : List α) (pieces : List (List α)) :
    (spans (offsets before.length pieces) (before ++ pieces.flatten).length).map
      (slice (before ++ pieces.flatten)) = pieces := by
  induction pieces generalizing before with
  | nil => rfl
  | cons p rest ih =>
    have hslice (e : ℕ) (he : e = before.length + p.length) :
        slice (before ++ (p ++ rest.flatten)) (before.length, e) = p := by
      rw [slice, List.drop_left, he, Nat.add_sub_cancel_left, List.take_left]
    have hlen : (before ++ p).length = before.length + p.length := List.length_append
    have hih := ih (before ++ p)
    rw [hlen, List.append_assoc] at hih
    rw [List.flatten_cons, offsets]
    cases rest with
    | nil =>
      have hsize : (before ++ (p ++ ([] : List (List α)).flatten)).length =
          before.length + p.length := by
        rw [List.flatten_nil, List.append_nil, List.length_append]
      rw [offsets, spans, List.tail_cons, List.nil_append, List.zip_cons_cons, List.zip_nil_left,
        List.map_cons, List.map_nil, hslice _ hsize]
    | cons q rest =>
      rw [offsets] at hih ⊢
      rw [spans, List.tail_cons, List.cons_append, List.zip_cons_cons, List.map_cons,
        hslice _ rfl]
      exact congrArg (p :: ·) hih

theorem lt_of_mem_spans {i size : ℕ} {pieces : List (List α)} (hne : ∀ p ∈ pieces, p ≠ [])
    (hsize : i + pieces.flatten.length = size) {span : ℕ × ℕ}
    (hs : span ∈ spans (offsets i pieces) size) : span.1 < span.2 := by
  induction pieces generalizing i with
  | nil => exact absurd hs List.not_mem_nil
  | cons p rest ih =>
    have hp : 0 < p.length := List.length_pos_of_ne_nil (hne p List.mem_cons_self)
    rw [List.flatten_cons, List.length_append] at hsize
    cases rest with
    | nil =>
      rw [List.flatten_nil, List.length_nil] at hsize
      rcases List.mem_cons.mp hs with rfl | hs
      · dsimp only
        omega
      · exact absurd hs List.not_mem_nil
    | cons q rest =>
      rcases List.mem_cons.mp hs with rfl | hs
      · exact Nat.lt_add_of_pos_right hp
      · refine ih (fun r hr ↦ hne r (List.mem_cons_of_mem p hr)) ?_ hs
        omega

def prefixAt [BEq α] (code l : List α) : ℕ := if code.isPrefixOf l then code.length else 0

/-- No end of the list is also its beginning. -/
def Borderless (code : List α) : Prop :=
  ∀ n < code.length, 0 < n → ¬code.drop n <+: code

section Prefix

variable [BEq α] [LawfulBEq α] {code : List α}

theorem prefixAt_le (code l : List α) : prefixAt code l ≤ l.length := by
  unfold prefixAt
  split
  · rename_i h
    exact (List.isPrefixOf_iff_prefix.mp h).length_le
  · exact Nat.zero_le _

theorem prefixAt_append (code rest : List α) : prefixAt code (code ++ rest) = code.length := by
  rw [prefixAt, if_pos (List.isPrefixOf_iff_prefix.mpr (List.prefix_append code rest))]

theorem prefixAt_eq_zero (hne : code ≠ []) {l : List α} : prefixAt code l = 0 ↔ ¬code <+: l := by
  rw [prefixAt, ← List.isPrefixOf_iff_prefix]
  have hpos := List.length_pos_of_ne_nil hne
  cases code.isPrefixOf l with
  | false => simp
  | true => simpa using hne

theorem not_infix_of_quiet (hne : code ≠ []) {l rest : List α}
    (h : Quiet (prefixAt code) l rest) : ¬code <:+: l := by
  rintro ⟨s, t, rfl⟩
  have hlen : s.length < (s ++ code ++ t).length := by
    have hpos := List.length_pos_of_ne_nil hne
    simp only [List.length_append]
    omega
  refine (prefixAt_eq_zero hne).mp (h s.length hlen) ?_
  rw [List.append_assoc, List.append_assoc, List.drop_left]
  exact List.prefix_append code (t ++ rest)

/-- A mark without borders that is not in `l` does not begin in `l` either, when it is a mark
that follows. -/
theorem quiet_of_not_infix (hb : Borderless code) (hne : code ≠ []) {l rest : List α}
    (h : ¬code <:+: l) (hrest : rest = [] ∨ code <+: rest) : Quiet (prefixAt code) l rest := by
  intro k hk
  rw [prefixAt_eq_zero hne, List.drop_append_of_le_length (Nat.le_of_lt hk)]
  intro hp
  by_cases hlen : code.length ≤ (l.drop k).length
  · exact h ((List.prefix_of_prefix_length_le hp (List.prefix_append _ _) hlen).isInfix.trans
      (List.drop_suffix k l).isInfix)
  · generalize hd : l.drop k = before at hp hlen
    have hpos : 0 < before.length := by
      rw [← hd, List.length_drop]
      omega
    obtain ⟨tail, rfl⟩ : ∃ tail, code = before ++ tail := by
      have hbefore : before <+: code :=
        List.prefix_of_prefix_length_le (List.prefix_append _ _) hp (by omega)
      obtain ⟨tail, ht⟩ := hbefore
      exact ⟨tail, ht.symm⟩
    rw [List.prefix_append_right_inj] at hp
    rcases hrest with rfl | hrest
    · rw [List.prefix_nil.mp hp, List.append_nil] at hlen
      exact hlen (Nat.le_refl _)
    · refine hb before.length (by omega) hpos ?_
      rw [List.drop_left]
      refine List.prefix_of_prefix_length_le hp hrest ?_
      rw [List.length_append]
      omega

end Prefix

end TriFusion.Library.Marks
