import Mathlib.Data.List.Basic

namespace TriFusion.Library.Records

variable {α β : Type*}

/-- Records of one width, sent one after the other. -/
structure Format (α β : Type*) where
  encode : α → List β
  width : ℕ
  width_pos : 0 < width
  length_encode : ∀ a, (encode a).length = width

variable (F : Format α β)

def Format.stream (records : List α) : List β := records.flatMap F.encode

@[simp] theorem stream_nil : F.stream [] = [] := rfl

@[simp] theorem stream_cons (a : α) (records : List α) :
    F.stream (a :: records) = F.encode a ++ F.stream records := by simp [Format.stream]

theorem stream_singleton (a : α) : F.stream [a] = F.encode a := by
  rw [stream_cons, stream_nil, List.append_nil]

theorem stream_append (first second : List α) :
    F.stream (first ++ second) = F.stream first ++ F.stream second := by
  simp [Format.stream, List.flatMap_append]

@[simp] theorem length_stream (records : List α) :
    (F.stream records).length = F.width * records.length := by
  induction records with
  | nil => rfl
  | cons a records ih =>
    rw [stream_cons, List.length_append, ih, F.length_encode, List.length_cons, Nat.mul_succ,
      Nat.add_comm]

/-- What a reader that is given `width` consecutive items sees. -/
def Format.window (records : List α) (position : ℕ) : List β :=
  ((F.stream records).drop position).take F.width

theorem window_zero (a : α) (records : List α) : F.window (a :: records) 0 = F.encode a := by
  rw [Format.window, stream_cons, List.drop_zero, ← F.length_encode a, List.take_left]

theorem window_skip (a : α) (records : List α) (position : ℕ) :
    F.window (a :: records) (F.width + position) = F.window records position := by
  have ha : (F.encode a).drop (F.width + position) = [] := by
    apply List.drop_of_length_le
    rw [F.length_encode]
    omega
  rw [Format.window, Format.window, stream_cons, List.drop_append, ha, F.length_encode,
    Nat.add_sub_cancel_left, List.nil_append]

theorem window_straddle (a b : α) (records : List α) {position : ℕ} (h : position ≤ F.width) :
    F.window (a :: b :: records) position =
      (F.encode a).drop position ++ (F.encode b).take position := by
  have ha : position - (F.encode a).length = 0 := by rw [F.length_encode]; omega
  have hd : F.width - ((F.encode a).drop position).length = position := by
    rw [List.length_drop, F.length_encode]; omega
  have hb : position - (F.encode b).length = 0 := by rw [F.length_encode]; omega
  have ht : ((F.encode a).drop position).take F.width = (F.encode a).drop position := by
    apply List.take_of_length_le
    rw [List.length_drop, F.length_encode]
    omega
  rw [Format.window, stream_cons, stream_cons, List.drop_append, ha, List.drop_zero,
    List.take_append, hd, ht, List.take_append, hb, List.take_zero, List.append_nil]

def Format.block (items : List β) (index : ℕ) : List β :=
  (items.drop (F.width * index)).take F.width

theorem block_append_left {front : List β} {index : ℕ}
    (h : F.width * (index + 1) ≤ front.length) (items : List β) :
    F.block (front ++ items) index = F.block front index := by
  rw [Nat.mul_succ] at h
  rw [Format.block, Format.block, List.drop_append_of_le_length (by omega),
    List.take_append_of_le_length]
  rw [List.length_drop]
  omega

theorem block_append_right {front : List β} {count : ℕ} (h : front.length = F.width * count)
    (items : List β) (index : ℕ) :
    F.block (front ++ items) (count + index) = F.block items index := by
  have hd : front.drop (F.width * (count + index)) = [] := by
    apply List.drop_of_length_le
    rw [h, Nat.mul_add]
    exact Nat.le_add_right _ _
  rw [Format.block, Format.block, List.drop_append, hd, List.nil_append, h, Nat.mul_add,
    Nat.add_sub_cancel_left]

theorem block_encode (a : α) (items : List β) : F.block (F.encode a ++ items) 0 = F.encode a := by
  rw [Format.block, Nat.mul_zero, List.drop_zero, ← F.length_encode a, List.take_left]

/-- A test that no window across two records passes. -/
def Format.Synchronises (accepts : List β → Prop) : Prop :=
  ∀ a b position, 0 < position → position < F.width →
    ¬ accepts ((F.encode a).drop position ++ (F.encode b).take position)

/-- A window that passes a synchronising test is one whole record. -/
theorem window_aligned {accepts : List β → Prop} (hs : F.Synchronises accepts)
    (records : List α) (position : ℕ) (hfit : position + F.width ≤ (F.stream records).length)
    (ha : accepts (F.window records position)) :
    ∃ index, ∃ a, records[index]? = some a ∧ position = F.width * index ∧
      F.window records position = F.encode a := by
  induction records generalizing position with
  | nil =>
    have hp := F.width_pos
    simp only [stream_nil, List.length_nil] at hfit
    omega
  | cons a records ih =>
    rw [stream_cons, List.length_append, F.length_encode] at hfit
    by_cases hz : position = 0
    · subst hz
      exact ⟨0, a, rfl, rfl, window_zero F a records⟩
    · by_cases hlt : position < F.width
      · cases records with
        | nil => simp only [stream_nil, List.length_nil] at hfit; omega
        | cons b records =>
          rw [window_straddle F a b records (Nat.le_of_lt hlt)] at ha
          exact absurd ha (hs a b position (Nat.pos_of_ne_zero hz) hlt)
      · obtain ⟨rest, rfl⟩ := Nat.exists_eq_add_of_le (Nat.le_of_not_lt hlt)
        rw [window_skip] at ha
        obtain ⟨index, c, hc, hp, hw⟩ := ih rest (by omega) ha
        refine ⟨index + 1, c, ?_, ?_, ?_⟩
        · simpa only [List.getElem?_cons_succ] using hc
        · rw [hp, Nat.mul_succ, Nat.add_comm]
        · rw [window_skip, hw]

end TriFusion.Library.Records
