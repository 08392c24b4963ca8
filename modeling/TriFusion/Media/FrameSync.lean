import Mathlib.Algebra.Order.Group.Abs
import Mathlib.Algebra.Order.Group.Int
import TriFusion.Library.FirstMin
import TriFusion.Media.Frames

namespace TriFusion.Media

open Library

structure SyncedFrameGroup where
  visible : VideoFrame
  composite : VideoFrame
  deltaMs : Int64 := 0
  deriving DecidableEq

structure FrameSync where
  maxDeltaMs : Int64 := 40
  capacity : ℕ := 8
  visible : List VideoFrame := []
  composite : List VideoFrame := []
  positive : 0 < capacity := by decide

/-- `std::llabs`; the least value, which has no positive counterpart, stays as it is. -/
def llabs (x : Int64) : Int64 := if x < 0 then -x else x

def distance (v c : VideoFrame) : Int64 := llabs (v.ptsMs - c.ptsMs)

namespace FrameSync

def ofCapacity (maxDeltaMs : Int64) (capacity : ℕ) : FrameSync where
  maxDeltaMs := maxDeltaMs
  capacity := if capacity = 0 then 1 else capacity
  positive := effective_pos capacity

def trim (capacity : ℕ) : List VideoFrame → List VideoFrame
  | [] => []
  | frame :: rest => if capacity < rest.length + 1 then trim capacity rest else frame :: rest

def pushVisible (frame : VideoFrame) (s : FrameSync) : FrameSync :=
  { s with visible := trim s.capacity (s.visible ++ [frame]) }

def pushComposite (frame : VideoFrame) (s : FrameSync) : FrameSync :=
  { s with composite := trim s.capacity (s.composite ++ [frame]) }

/-- The loop of `trySync` from index `i` on. -/
def closest (v : VideoFrame) :
    List VideoFrame → (i bestIndex : ℕ) → (bestDelta : Int64) → ℕ × Int64
  | [], _, bestIndex, bestDelta => (bestIndex, bestDelta)
  | c :: rest, i, bestIndex, bestDelta =>
    if distance v c < bestDelta then closest v rest (i + 1) i (distance v c)
    else closest v rest (i + 1) bestIndex bestDelta

def trySync (s : FrameSync) : Option SyncedFrameGroup × FrameSync :=
  match s.visible, s.composite with
  | v :: visible, c :: composite =>
    let (bestIndex, bestDelta) := closest v composite 1 0 (distance v c)
    if s.maxDeltaMs < bestDelta then
      if v.ptsMs < c.ptsMs then (none, { s with visible := visible })
      else (none, { s with composite := composite })
    else
      (some ⟨v, s.composite.getD bestIndex {}, bestDelta⟩,
        { s with
          visible := visible
          composite := s.composite.drop (bestIndex + 1) })
  | _, _ => (none, s)

def clear (s : FrameSync) : FrameSync := { s with visible := [], composite := [] }

theorem trim_suffix (capacity : ℕ) (frames : List VideoFrame) :
    trim capacity frames <:+ frames := by
  induction frames with
  | nil => exact List.suffix_refl _
  | cons frame rest ih =>
    rw [trim]
    split_ifs with h
    · exact ih.trans (List.suffix_cons frame rest)
    · exact List.suffix_refl _

theorem length_trim_le (capacity : ℕ) (frames : List VideoFrame) :
    (trim capacity frames).length ≤ capacity := by
  induction frames with
  | nil => exact Nat.zero_le _
  | cons frame rest ih =>
    rw [trim]
    split_ifs with h
    · exact ih
    · exact Nat.not_lt.mp h

theorem closest_firstMin {v a : VideoFrame} {seen : List VideoFrame} {k : ℕ}
    (h : FirstMin (fun c ↦ (distance v c).toInt) seen k a) (rest : List VideoFrame) :
    ∃ k' a', closest v rest seen.length k (distance v a) = (k', distance v a') ∧
      FirstMin (fun c ↦ (distance v c).toInt) (seen ++ rest) k' a' := by
  induction rest generalizing seen k a with
  | nil =>
    refine ⟨k, a, rfl, ?_⟩
    rw [List.append_nil]
    exact h
  | cons c rest ih =>
    have hlen : (seen ++ [c]).length = seen.length + 1 := by simp
    have happ : seen ++ c :: rest = (seen ++ [c]) ++ rest := by simp
    rw [closest, happ, ← hlen]
    split_ifs with hc
    · exact ih (h.move (Int64.lt_iff_toInt_lt.mp hc))
    · exact ih (h.keep fun hlt ↦ hc (Int64.lt_iff_toInt_lt.mpr hlt))

inductive Outcome (s : FrameSync) : Option SyncedFrameGroup × FrameSync → Prop
  | idle (h : s.visible = [] ∨ s.composite = []) : Outcome s (none, s)
  | visibleDropped {v c b : VideoFrame} {vs cs : List VideoFrame} {k : ℕ}
      (hv : s.visible = v :: vs) (hc : s.composite = c :: cs)
      (hb : FirstMin (fun c ↦ (distance v c).toInt) s.composite k b)
      (hd : s.maxDeltaMs < distance v b) (hlt : v.ptsMs < c.ptsMs) :
      Outcome s (none, { s with visible := vs })
  | compositeDropped {v c b : VideoFrame} {vs cs : List VideoFrame} {k : ℕ}
      (hv : s.visible = v :: vs) (hc : s.composite = c :: cs)
      (hb : FirstMin (fun c ↦ (distance v c).toInt) s.composite k b)
      (hd : s.maxDeltaMs < distance v b) (hlt : ¬v.ptsMs < c.ptsMs) :
      Outcome s (none, { s with composite := cs })
  | matched {v b : VideoFrame} {vs : List VideoFrame} {k : ℕ} (hv : s.visible = v :: vs)
      (hb : FirstMin (fun c ↦ (distance v c).toInt) s.composite k b)
      (hd : ¬s.maxDeltaMs < distance v b) :
      Outcome s (some ⟨v, b, distance v b⟩,
        { s with visible := vs, composite := s.composite.drop (k + 1) })

theorem trySync_outcome (s : FrameSync) : Outcome s s.trySync := by
  cases hv : s.visible with
  | nil =>
    simp only [trySync, hv]
    exact .idle (.inl hv)
  | cons v vs =>
    cases hc : s.composite with
    | nil =>
      simp only [trySync, hv, hc]
      exact .idle (.inr hc)
    | cons c cs =>
      obtain ⟨k, b, he, hb⟩ :=
        closest_firstMin (FirstMin.singleton (fun c ↦ (distance v c).toInt) c) cs
      have hb' : FirstMin (fun c ↦ (distance v c).toInt) s.composite k b := by
        rw [hc]
        exact hb
      have hget : (c :: cs).getD k {} = b := by
        rw [List.getD_eq_getElem?_getD, ← hc, hb'.entry]
        rfl
      have he' : closest v cs 1 0 (distance v c) = (k, distance v b) := he
      simp only [trySync, hv, hc, he', hget]
      split_ifs with hd hlt
      · rw [← hc]
        exact .visibleDropped hv hc hb' hd hlt
      · rw [← hv]
        exact .compositeDropped hv hc hb' hd hlt
      · rw [← hc]
        exact .matched hv hb' hd

end FrameSync

/-- The difference that has no absolute value in 64 bits is its own distance. -/
theorem distance_lowest {v c : VideoFrame} (h : v.ptsMs.toInt - c.ptsMs.toInt = -2 ^ 63) :
    (distance v c).toInt = -2 ^ 63 := by
  have hsub : v.ptsMs - c.ptsMs = Int64.minValue := by
    apply Int64.toInt_inj.mp
    rw [Int64.toInt_sub, Int.bmod_eq_of_le (by omega) (by omega), h]
    rfl
  rw [distance, hsub]
  rfl

theorem distance_toInt {v c : VideoFrame}
    (h : |v.ptsMs.toInt - c.ptsMs.toInt| < 2 ^ 63) :
    (distance v c).toInt = |v.ptsMs.toInt - c.ptsMs.toInt| := by
  obtain ⟨hlo, hhi⟩ := abs_lt.mp h
  have hsub : (v.ptsMs - c.ptsMs).toInt = v.ptsMs.toInt - c.ptsMs.toInt := by
    rw [Int64.toInt_sub, Int.bmod_eq_of_le (by omega) (by omega)]
  have hzero : (0 : Int64).toInt = 0 := rfl
  rw [distance, llabs]
  split_ifs with hneg
  · have hneg' : v.ptsMs.toInt - c.ptsMs.toInt < 0 := by
      rw [← hsub, ← hzero]
      exact Int64.lt_iff_toInt_lt.mp hneg
    rw [Int64.toInt_neg, hsub, Int.bmod_eq_of_le (by omega) (by omega), abs_of_neg hneg']
  · have hpos : 0 ≤ v.ptsMs.toInt - c.ptsMs.toInt := by
      rw [← hsub, ← hzero]
      exact not_lt.mp fun hlt ↦ hneg (Int64.lt_iff_toInt_lt.mpr hlt)
    rw [hsub, abs_of_nonneg hpos]

end TriFusion.Media
