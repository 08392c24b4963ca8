import TriFusion.Library.Fragments

namespace TriFusion.Library.Sending

open Fragments

variable {α ω : Type*}

/-- One after the other is sent, up to the first that is not taken. -/
def sendEach (send : α → ω → Bool × ω) : List α → ω → Bool × ω
  | [], w => (true, w)
  | a :: rest, w =>
    match send a w with
    | (false, w) => (false, w)
    | (true, w) => sendEach send rest w

def taken (send : α → ω → Bool × ω) (a : α) (w : ω × List α) : Bool × ω × List α :=
  match send a w.1 with
  | (false, outside) => (false, outside, w.2)
  | (true, outside) => (true, outside, w.2 ++ [a])

theorem sendEach_append (send : α → ω → Bool × ω) (first second : List α) (w : ω) :
    sendEach send (first ++ second) w =
      match sendEach send first w with
      | (false, w) => (false, w)
      | (true, w) => sendEach send second w := by
  induction first generalizing w with
  | nil => rfl
  | cons a first ih =>
    rw [List.cons_append, sendEach, sendEach]
    cases h : send a w with
    | mk sent w =>
      cases sent with
      | false => rfl
      | true => exact ih w

/-- The line takes a part from the front, and all of it exactly when the sending comes to
its end. -/
theorem sendEach_taken (send : α → ω → Bool × ω) (l : List α) (w : ω) (log : List α) :
    ∃ sent, sent <+: l ∧ (sendEach (taken send) l (w, log)).2.2 = log ++ sent ∧
      ((sendEach (taken send) l (w, log)).1 = true ↔ sent = l) := by
  induction l generalizing w log with
  | nil =>
    refine ⟨[], List.nil_prefix, ?_, ?_⟩
    · rw [sendEach, List.append_nil]
    · exact iff_of_true rfl rfl
  | cons a l ih =>
    rw [sendEach, taken]
    cases h : send a w with
    | mk ok outside =>
      cases ok with
      | false =>
        refine ⟨[], List.nil_prefix, ?_, ?_⟩
        · exact (List.append_nil log).symm
        · refine iff_of_false ?_ ?_
          · exact Bool.false_ne_true
          · exact (List.cons_ne_nil a l).symm
      | true =>
        obtain ⟨sent, hsent, hlog, hend⟩ := ih outside (log ++ [a])
        refine ⟨a :: sent, ?_, ?_, ?_⟩
        · exact List.cons_prefix_cons.mpr ⟨rfl, hsent⟩
        · rw [hlog, List.append_assoc, List.singleton_append]
        · rw [hend, List.cons.injEq]
          exact (and_iff_right rfl).symm

def cut (size : ℕ) (first : Bool) (offset : ℕ) (data : List α) : List (Fragment α) :=
  if data = [] ∨ size = 0 then []
  else
    ⟨offset, first, (data.drop size).isEmpty, data.take size⟩ ::
      cut size false (offset + (data.take size).length) (data.drop size)
termination_by data.length
decreasing_by
  rename_i h
  rw [not_or] at h
  have hpos := List.length_pos_of_ne_nil h.1
  rw [List.length_drop]
  omega

theorem cut_nil (size : ℕ) (first : Bool) (offset : ℕ) :
    cut size first offset ([] : List α) = [] := by
  rw [cut, if_pos (Or.inl rfl)]

theorem cut_of_ne_nil {size : ℕ} (hsize : 0 < size) (first : Bool) (offset : ℕ) {data : List α}
    (hd : data ≠ []) : cut size first offset data =
      ⟨offset, first, (data.drop size).isEmpty, data.take size⟩ ::
        cut size false (offset + (data.take size).length) (data.drop size) := by
  rw [cut, if_neg]
  rintro (h | h)
  · exact hd h
  · omega

theorem cut_cut {size : ℕ} (hsize : 0 < size) (first : Bool) (offset : ℕ) (data : List α) :
    Cut (fun _ ↦ size) first offset data (cut size first offset data) := by
  induction hn : data.length using Nat.strongRecOn generalizing first offset data with
  | ind n ih =>
    by_cases hd : data = []
    · rw [hd, cut_nil]
      exact .done first offset
    · have hpos := List.length_pos_of_ne_nil hd
      have hlen : (data.drop size).length < n := by
        rw [List.length_drop]
        omega
      have htail := ih _ hlen false (offset + (data.take size).length) (data.drop size) rfl
      have hne : data.take size ≠ [] := by
        intro h
        rcases List.take_eq_nil_iff.mp h with h | h
        · omega
        · exact hd h
      have hpiece : Cut (fun _ ↦ size) first offset (data.take size ++ data.drop size)
          (⟨offset, first, (data.drop size).isEmpty, data.take size⟩ ::
            cut size false (offset + (data.take size).length) (data.drop size)) :=
        .piece hne (List.length_take_le size data) htail
      rw [List.take_append_drop] at hpiece
      rw [cut_of_ne_nil hsize first offset hd]
      exact hpiece

end TriFusion.Library.Sending
