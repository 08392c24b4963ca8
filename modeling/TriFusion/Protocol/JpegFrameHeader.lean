import TriFusion.Protocol.JpegParser

namespace TriFusion.Protocol

open Library.Words

/-! The frame header of a JPEG, as a decoder reads it, beside what the parser keeps of it. -/

namespace JpegParser

/-- The marker and the place and length of the data of the segment that a turn reads. -/
def segmentAt (jpeg : List UInt8) (pos : ℕ) : Option (UInt8 × ℕ × ℕ) := do
  let b ← jpeg[pos]?
  if b ≠ 0xff then none
  let pos ← skipFill jpeg pos
  let marker ← jpeg[pos]?
  let segLen ← readWord jpeg (pos + 1)
  return (marker, pos + 3, segLen.toNat - 2)

def meet (jpeg : List UInt8) (pos : ℕ) (found : Option (ℕ × ℕ)) : Option (ℕ × ℕ) :=
  match segmentAt jpeg pos with
  | some (marker, segment) => if marker = 0xc0 then some segment else found
  | none => found

def sof0Loop (jpeg : List UInt8) (pos : ℕ) (info : JpegRtpInfo) (found : Option (ℕ × ℕ)) :
    Option (ℕ × ℕ) :=
  if pos + 4 ≤ jpeg.length then
    match h : turn jpeg pos info with
    | some (.again pos' info') =>
      have := turn_lt h
      sof0Loop jpeg pos' info' (meet jpeg pos found)
    | _ => meet jpeg pos found
  else found
termination_by jpeg.length - pos

def sof0 (jpeg : List UInt8) : Option (ℕ × ℕ) := sof0Loop jpeg 2 {} none

/-- The sampling factors of the first component of a segment with at least three. -/
def samplingOf (jpeg : List UInt8) (segData segDataLen : ℕ) : Option (UInt8 × UInt8) := do
  let components ← jpeg[segData + 5]?
  if 3 ≤ components ∧ 15 ≤ segDataLen then
    let ySampling ← jpeg[segData + 7]?
    some ((ySampling >>> 4) &&& 0x0f, ySampling &&& 0x0f)
  else none

def lumaSampling (jpeg : List UInt8) : Option (UInt8 × UInt8) := do
  let (segData, segDataLen) ← sof0 jpeg
  samplingOf jpeg segData segDataLen

def dimensions (jpeg : List UInt8) : Option (UInt16 × UInt16) := do
  let (segData, _) ← sof0 jpeg
  let height ← readWord jpeg (segData + 1)
  let width ← readWord jpeg (segData + 3)
  return (width, height)

def Turn.info : Turn → Option JpegRtpInfo
  | .again _ info | .finish info _ _ => some info
  | .reject => none

structure Keeps (jpeg : List UInt8) (found : Option (ℕ × ℕ)) (info : JpegRtpInfo) : Prop where
  type : info.type = 0 ∨ info.type = 1
  read : ∀ segData segDataLen, found = some (segData, segDataLen) →
    readWord jpeg (segData + 1) = some info.height ∧
      readWord jpeg (segData + 3) = some info.width ∧
      ∀ h v, samplingOf jpeg segData segDataLen = some (h, v) →
        info.type = if h = 2 ∧ v = 2 then 0 else 1

variable {jpeg : List UInt8} {found : Option (ℕ × ℕ)} {info info' : JpegRtpInfo} {pos : ℕ}

theorem keeps_start (jpeg : List UInt8) : Keeps jpeg none {} :=
  ⟨.inr rfl, fun _ _ h ↦ nomatch h⟩

theorem Keeps.of_eq (h : Keeps jpeg found info) (hw : info'.width = info.width)
    (hh : info'.height = info.height) (ht : info'.type = info.type) : Keeps jpeg found info' := by
  obtain ⟨htype, hread⟩ := h
  refine ⟨ht ▸ htype, fun segData segDataLen hf ↦ ?_⟩
  rw [hw, hh, ht]
  exact hread segData segDataLen hf

theorem parseFrameHeader_keeps {segData segDataLen : ℕ} (hi : info.type = 0 ∨ info.type = 1)
    (h : parseFrameHeader jpeg segData segDataLen info = some (some info')) :
    Keeps jpeg (some (segData, segDataLen)) info' := by
  unfold parseFrameHeader at h
  split at h
  · exact nomatch h
  · obtain ⟨precision, -, h⟩ := Option.bind_eq_some_iff.mp h
    split at h
    · exact nomatch h
    · obtain ⟨height, hheight, h⟩ := Option.bind_eq_some_iff.mp h
      obtain ⟨width, hwidth, h⟩ := Option.bind_eq_some_iff.mp h
      obtain ⟨components, hcomp, h⟩ := Option.bind_eq_some_iff.mp h
      have hs : samplingOf jpeg segData segDataLen =
          if 3 ≤ components ∧ 15 ≤ segDataLen then
            jpeg[segData + 7]?.bind fun y ↦ some ((y >>> 4) &&& 0x0f, y &&& 0x0f)
          else none := by
        rw [samplingOf, hcomp]
        rfl
      split at h <;> rename_i hc
      · obtain ⟨y, hy, h⟩ := Option.bind_eq_some_iff.mp h
        obtain rfl := Option.some.inj (Option.some.inj h)
        rw [if_pos hc, hy] at hs
        refine ⟨?_, ?_⟩
        · dsimp only
          split
          · exact .inl rfl
          · exact .inr rfl
        · intro d n hd
          obtain ⟨rfl, rfl⟩ := Prod.mk.inj (Option.some.inj hd)
          refine ⟨hheight, hwidth, fun a b hab ↦ ?_⟩
          rw [hs] at hab
          obtain ⟨rfl, rfl⟩ := Prod.mk.inj (Option.some.inj hab)
          rfl
      · obtain rfl := Option.some.inj (Option.some.inj h)
        rw [if_neg hc] at hs
        refine ⟨hi, fun d n hd ↦ ?_⟩
        obtain ⟨rfl, rfl⟩ := Prod.mk.inj (Option.some.inj hd)
        refine ⟨hheight, hwidth, fun a b hab ↦ ?_⟩
        rw [hs] at hab
        exact nomatch hab

theorem parseSegment_keeps {marker : UInt8} {segData segDataLen : ℕ} (hk : Keeps jpeg found info)
    (h : parseSegment jpeg marker segData segDataLen info = some (some info')) :
    Keeps jpeg (if marker = 0xc0 then some (segData, segDataLen) else found) info' := by
  unfold parseSegment at h
  split at h <;> rename_i hdqt
  · have hsof : marker ≠ 0xc0 := by
      rw [hdqt]
      decide
    rw [if_neg hsof]
    split at h
    · exact nomatch h
    · exact nomatch h
    · obtain rfl := Option.some.inj (Option.some.inj h)
      exact hk.of_eq rfl rfl rfl
  · split at h <;> rename_i hsof
    · rw [if_pos hsof]
      exact parseFrameHeader_keeps hk.type h
    · obtain rfl := Option.some.inj (Option.some.inj h)
      rw [if_neg hsof]
      exact hk

theorem segmentTurn_keeps {marker : UInt8} {t : Turn} (hk : Keeps jpeg found info)
    (h : segmentTurn jpeg marker pos info = some t) (ht : t.info = some info') :
    ∃ segLen, readWord jpeg pos = some segLen ∧
      Keeps jpeg (if marker = 0xc0 then some (pos + 2, segLen.toNat - 2) else found) info' := by
  unfold segmentTurn at h
  split at h
  · obtain rfl := Option.some.inj h
    exact nomatch ht
  · obtain ⟨segLen, hlen, h⟩ := Option.bind_eq_some_iff.mp h
    refine ⟨segLen, hlen, ?_⟩
    split at h
    · obtain rfl := Option.some.inj h
      exact nomatch ht
    · obtain ⟨parsed, hp, h⟩ := Option.bind_eq_some_iff.mp h
      cases parsed with
      | none =>
        obtain rfl := Option.some.inj h
        exact nomatch ht
      | some parsed =>
        have hparsed := parseSegment_keeps hk hp
        dsimp only at h
        split at h
        · obtain ⟨scanEnd, -, h⟩ := Option.bind_eq_some_iff.mp h
          obtain rfl := Option.some.inj h
          obtain rfl := Option.some.inj ht
          exact hparsed
        · obtain rfl := Option.some.inj h
          obtain rfl := Option.some.inj ht
          exact hparsed

theorem turn_keeps {t : Turn} (hk : Keeps jpeg found info) (h : turn jpeg pos info = some t)
    (ht : t.info = some info') : Keeps jpeg (meet jpeg pos found) info' := by
  unfold turn at h
  obtain ⟨b, hb, h⟩ := Option.bind_eq_some_iff.mp h
  have hseg : segmentAt jpeg pos =
      if b ≠ 0xff then none
      else (skipFill jpeg pos).bind fun pos ↦ jpeg[pos]?.bind fun marker ↦
        (readWord jpeg (pos + 1)).bind fun segLen ↦
          some (marker, pos + 3, segLen.toNat - 2) := by
    rw [segmentAt, hb]
    rfl
  rw [meet]
  split at h <;> rename_i hff
  · rw [if_pos hff] at hseg
    rw [hseg]
    obtain rfl := Option.some.inj h
    obtain rfl := Option.some.inj ht
    exact hk
  · rw [if_neg hff] at hseg
    obtain ⟨after, hs, h⟩ := Option.bind_eq_some_iff.mp h
    rw [hs, Option.bind_some] at hseg
    split at h <;> rename_i hend
    · rw [List.getElem?_eq_none hend, Option.bind_none] at hseg
      rw [hseg]
      obtain rfl := Option.some.inj h
      obtain rfl := Option.some.inj ht
      exact hk
    · obtain ⟨marker, hm, h⟩ := Option.bind_eq_some_iff.mp h
      rw [hm, Option.bind_some] at hseg
      have hother (hne : marker ≠ 0xc0) : meet jpeg pos found = found := by
        rw [meet, hseg]
        cases readWord jpeg (after + 1) with
        | none => rfl
        | some segLen => exact if_neg hne
      rw [← meet]
      dsimp only at h
      split at h <;> rename_i heoi
      · rw [hother (by rw [heoi]; decide)]
        obtain rfl := Option.some.inj h
        obtain rfl := Option.some.inj ht
        exact hk
      · split at h <;> rename_i hrst
        · have hne : marker ≠ 0xc0 := by
            rintro rfl
            exact absurd hrst (by decide)
          rw [hother hne]
          obtain rfl := Option.some.inj h
          obtain rfl := Option.some.inj ht
          exact hk
        · obtain ⟨segLen, hlen, hkeeps⟩ := segmentTurn_keeps hk h ht
          rw [meet, hseg, hlen]
          exact hkeeps

/-- The loop keeps of the frame header what a decoder reads in it. -/
theorem markerLoop_keeps {scanStart scanEnd : ℕ} (hk : Keeps jpeg found info)
    (h : markerLoop jpeg pos info = some (some (info', scanStart, scanEnd))) :
    Keeps jpeg (sof0Loop jpeg pos info found) info' := by
  fun_induction markerLoop jpeg pos info generalizing found with
  | case1 => exact nomatch h
  | case2 => exact nomatch h
  | case3 pos info hpos info₁ s e hturn =>
    obtain ⟨rfl, -⟩ := Prod.mk.inj (Option.some.inj (Option.some.inj h))
    have hmeet := turn_keeps hk hturn rfl
    rw [sof0Loop, if_pos hpos]
    split
    · rename_i hagain
      exact nomatch hturn.symm.trans hagain
    · exact hmeet
  | case4 pos info hpos pos₁ info₁ hturn hlt ih =>
    have hmeet := turn_keeps hk hturn rfl
    rw [sof0Loop, if_pos hpos]
    split
    · rename_i hagain
      obtain ⟨rfl, rfl⟩ := Turn.again.inj (Option.some.inj (hturn.symm.trans hagain))
      exact ih hmeet h
    · rename_i hnot
      exact absurd hturn (hnot pos₁ info₁)
  | case5 pos info hpos =>
    obtain ⟨rfl, -⟩ := Prod.mk.inj (Option.some.inj (Option.some.inj h))
    rw [sof0Loop, if_neg hpos]
    exact hk

end JpegParser

end TriFusion.Protocol
