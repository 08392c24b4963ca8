import Mathlib.Order.RelClasses
import TriFusion.Protocol.JpegParser

namespace TriFusion.Protocol

open Library.Words

namespace JpegParser

variable {jpeg : List UInt8}

theorem readWord_total {i : ℕ} (h : i + 1 < jpeg.length) : ∃ w, readWord jpeg i = some w := by
  refine ⟨wordOf jpeg[i] jpeg[i + 1], ?_⟩
  rw [readWord, List.getElem?_eq_getElem (Nat.lt_of_succ_lt h), List.getElem?_eq_getElem h]
  rfl

theorem readRange_total {i n : ℕ} (h : i + n ≤ jpeg.length) :
    readRange jpeg i n = some ((jpeg.drop i).take n) := if_pos h

theorem skipFill_total (jpeg : List UInt8) (pos : ℕ) : ∃ after, skipFill jpeg pos = some after := by
  fun_induction skipFill jpeg pos with
  | case1 pos hpos hnone =>
    rw [List.getElem?_eq_getElem hpos] at hnone
    cases hnone
  | case2 pos hpos hb ih => exact ih
  | case3 pos hpos b hb hne => exact ⟨pos, rfl⟩
  | case4 pos hpos => exact ⟨pos, rfl⟩

theorem parseTables_total {qend : ℕ} (hend : qend ≤ jpeg.length) (qpos : ℕ) (tables : List UInt8) :
    ∃ r, parseTables jpeg qpos qend tables = some r := by
  fun_induction parseTables jpeg qpos qend tables with
  | case1 qpos tables hq hnone =>
    rw [List.getElem?_eq_getElem (hq.trans_le hend)] at hnone
    cases hnone
  | case2 qpos tables hq pqTq hb hprec => exact ⟨none, rfl⟩
  | case3 qpos tables hq pqTq hb hprec hshort => exact ⟨none, rfl⟩
  | case4 qpos tables hq pqTq hb hprec hroom hnone =>
    rw [readRange_total (by omega)] at hnone
    cases hnone
  | case5 qpos tables hq pqTq hb hprec hroom table hread ih => exact ih
  | case6 qpos tables hq => exact ⟨some tables, rfl⟩

theorem parseFrameHeader_total {segData segDataLen : ℕ} (h : segData + segDataLen ≤ jpeg.length)
    (info : JpegRtpInfo) : ∃ r, parseFrameHeader jpeg segData segDataLen info = some r := by
  unfold parseFrameHeader
  split
  · exact ⟨none, rfl⟩
  · rename_i hlen
    have hh : segData + 1 + 1 < jpeg.length := by omega
    have hw : segData + 3 + 1 < jpeg.length := by omega
    obtain ⟨height, hheight⟩ := readWord_total hh
    obtain ⟨width, hwidth⟩ := readWord_total hw
    have hp : segData < jpeg.length := by omega
    have hc : segData + 5 < jpeg.length := by omega
    have hy : segData + 7 < jpeg.length := by omega
    rw [List.getElem?_eq_getElem hp, List.getElem?_eq_getElem hc, List.getElem?_eq_getElem hy,
      hheight, hwidth]
    simp only [Option.bind_eq_bind, Option.bind_some]
    split
    · exact ⟨none, rfl⟩
    · split
      · exact ⟨_, rfl⟩
      · exact ⟨_, rfl⟩

theorem findEoi_total (jpeg : List UInt8) (i : ℕ) :
    ∃ scanEnd, findEoi jpeg i = some scanEnd ∧ scanEnd ≤ jpeg.length := by
  fun_induction findEoi jpeg i with
  | case1 i hi a b ha hb heoi => exact ⟨i, rfl, by omega⟩
  | case2 i hi a b ha hb heoi ih => exact ih
  | case3 i hi hnone =>
    exact (hnone _ _ (List.getElem?_eq_getElem (Nat.lt_of_succ_lt hi))
      (List.getElem?_eq_getElem hi)).elim
  | case4 i hi => exact ⟨jpeg.length, rfl, le_rfl⟩

theorem parseSegment_total (marker : UInt8) {segData segDataLen : ℕ}
    (h : segData + segDataLen ≤ jpeg.length) (info : JpegRtpInfo) :
    ∃ r, parseSegment jpeg marker segData segDataLen info = some r := by
  unfold parseSegment
  split
  · obtain ⟨tables, ht⟩ := parseTables_total h segData info.quantTables
    rw [ht]
    cases tables with
    | none => exact ⟨none, rfl⟩
    | some tables => exact ⟨_, rfl⟩
  · split
    · exact parseFrameHeader_total h info
    · exact ⟨some info, rfl⟩

def Turn.Inside (jpeg : List UInt8) : Turn → Prop
  | .finish _ _ scanEnd => scanEnd ≤ jpeg.length
  | _ => True

theorem segmentTurn_total (jpeg : List UInt8) (marker : UInt8) (pos : ℕ) (info : JpegRtpInfo) :
    ∃ t, segmentTurn jpeg marker pos info = some t ∧ t.Inside jpeg := by
  unfold segmentTurn
  split
  · exact ⟨.reject, rfl, trivial⟩
  · rename_i hpos
    have hword : pos + 1 < jpeg.length := by omega
    obtain ⟨segLen, hlen⟩ := readWord_total hword
    rw [hlen]
    simp only [Option.bind_eq_bind, Option.bind_some]
    split
    · exact ⟨.reject, rfl, trivial⟩
    · rename_i hbad
      obtain ⟨hmin, hfit⟩ := not_or.mp hbad
      have hmin : 2 ≤ segLen.toNat := UInt16.not_lt.mp hmin
      have hdata : pos + 2 + (segLen.toNat - 2) ≤ jpeg.length := by omega
      obtain ⟨parsed, hp⟩ := parseSegment_total marker hdata info
      rw [hp, Option.bind_some]
      cases parsed with
      | none => exact ⟨.reject, rfl, trivial⟩
      | some parsed =>
        dsimp only
        split
        · obtain ⟨scanEnd, he, hle⟩ := findEoi_total jpeg (pos + segLen.toNat)
          rw [he]
          exact ⟨_, rfl, hle⟩
        · exact ⟨_, rfl, trivial⟩

theorem turn_total {pos : ℕ} (hpos : pos + 4 ≤ jpeg.length) (info : JpegRtpInfo) :
    ∃ t, turn jpeg pos info = some t ∧ t.Inside jpeg := by
  have hlt : pos < jpeg.length := by omega
  unfold turn
  rw [List.getElem?_eq_getElem hlt]
  simp only [Option.bind_eq_bind, Option.bind_some]
  split
  · exact ⟨_, rfl, trivial⟩
  · obtain ⟨after, ha⟩ := skipFill_total jpeg pos
    rw [ha, Option.bind_some]
    split
    · exact ⟨_, rfl, le_refl jpeg.length⟩
    · rename_i hend
      rw [List.getElem?_eq_getElem (not_le.mp hend), Option.bind_some]
      split
      · exact ⟨_, rfl, le_refl jpeg.length⟩
      · split
        · exact ⟨_, rfl, trivial⟩
        · exact segmentTurn_total jpeg _ _ info

theorem markerLoop_total (jpeg : List UInt8) (pos : ℕ) (info : JpegRtpInfo) :
    ∃ r, markerLoop jpeg pos info = some r ∧
      ∀ info' scanStart scanEnd, r = some (info', scanStart, scanEnd) →
        scanEnd ≤ jpeg.length := by
  fun_induction markerLoop jpeg pos info with
  | case1 pos info hpos hnone =>
    obtain ⟨t, ht, -⟩ := turn_total hpos info
    cases ht.symm.trans hnone
  | case2 pos info hpos hreject =>
    refine ⟨none, rfl, fun _ _ _ h ↦ ?_⟩
    cases h
  | case3 pos info hpos info₁ scanStart scanEnd hfinish =>
    obtain ⟨t, ht, hin⟩ := turn_total hpos info
    obtain rfl := Option.some.inj (ht.symm.trans hfinish)
    refine ⟨_, rfl, fun _ _ _ h ↦ ?_⟩
    cases h
    exact hin
  | case4 pos info hpos pos₁ info₁ hturn hlt ih => exact ih
  | case5 pos info hpos =>
    refine ⟨_, rfl, fun _ _ _ h ↦ ?_⟩
    cases h
    exact le_rfl

theorem parse_total (jpeg : List UInt8) (info : JpegRtpInfo) :
    ∃ r, parseJpegForRtp jpeg info = some r := by
  unfold parseJpegForRtp
  split
  · exact ⟨none, rfl⟩
  · rename_i hlen
    have h0 : 0 < jpeg.length := by omega
    have h1 : 1 < jpeg.length := by omega
    rw [List.getElem?_eq_getElem h0, List.getElem?_eq_getElem h1]
    simp only [Option.bind_eq_bind, Option.bind_some]
    split
    · exact ⟨none, rfl⟩
    · obtain ⟨r, hr, hin⟩ := markerLoop_total jpeg 2 { info with quantTables := [], scan := [] }
      rw [hr, Option.bind_some]
      cases r with
      | none => exact ⟨none, rfl⟩
      | some r =>
        obtain ⟨found, scanStart, scanEnd⟩ := r
        have hle := hin found scanStart scanEnd rfl
        dsimp only
        split
        · exact ⟨none, rfl⟩
        · split
          · exact ⟨none, rfl⟩
          · rw [readRange_total (by omega)]
            exact ⟨_, rfl⟩

/-- The loop goes from a state to the next by `step`, and cannot do so forever. -/
structure Terminates {σ ρ : Type} (loop : σ → ρ) (step : σ → σ → Prop) : Prop where
  unroll : ∀ s s', step s s' → loop s = loop s'
  wellFounded : WellFounded fun s' s ↦ step s s'

theorem Terminates.of_measure {σ ρ : Type} {loop : σ → ρ} {step : σ → σ → Prop} (f : σ → ℕ)
    (unroll : ∀ s s', step s s' → loop s = loop s') (lt : ∀ s s', step s s' → f s' < f s) :
    Terminates loop step :=
  ⟨unroll, Subrelation.wf (fun h ↦ lt _ _ h) (measure f).wf⟩

def fillStep (jpeg : List UInt8) (pos pos' : ℕ) : Prop :=
  pos < jpeg.length ∧ jpeg[pos]? = some 0xff ∧ pos' = pos + 1

def tableStep (jpeg : List UInt8) (qend : ℕ) (s s' : ℕ × List UInt8) : Prop :=
  s.1 < qend ∧ ∃ pqTq table, jpeg[s.1]? = some pqTq ∧ (pqTq >>> 4) &&& 0x0f = 0 ∧
    s.1 + 1 + 64 ≤ qend ∧ readRange jpeg (s.1 + 1) 64 = some table ∧
      s' = (s.1 + 1 + 64, s.2 ++ table)

def eoiStep (jpeg : List UInt8) (i i' : ℕ) : Prop :=
  i + 1 < jpeg.length ∧
    (∃ a b, jpeg[i]? = some a ∧ jpeg[i + 1]? = some b ∧ ¬(a = 0xff ∧ b = 0xd9)) ∧ i' = i + 1

def markerStep (jpeg : List UInt8) (s s' : ℕ × JpegRtpInfo) : Prop :=
  s.1 + 4 ≤ jpeg.length ∧ turn jpeg s.1 s.2 = some (.again s'.1 s'.2)

theorem skipFill_terminates (jpeg : List UInt8) : Terminates (skipFill jpeg) (fillStep jpeg) := by
  refine .of_measure (fun pos ↦ jpeg.length - pos) ?_ ?_
  · rintro pos _ ⟨hpos, hb, rfl⟩
    rw [skipFill, if_pos hpos, hb]
    exact if_pos rfl
  · rintro pos _ ⟨hpos, -, rfl⟩
    omega

theorem parseTables_terminates (jpeg : List UInt8) (qend : ℕ) :
    Terminates (fun s ↦ parseTables jpeg s.1 qend s.2) (tableStep jpeg qend) := by
  refine .of_measure (fun s ↦ qend - s.1) ?_ ?_
  · rintro ⟨qpos, tables⟩ _ ⟨hq, pqTq, table, hb, hprec, hroom, hread, rfl⟩
    dsimp only at hq hb hroom hread ⊢
    rw [parseTables, if_pos hq, hb]
    simp only [hprec, hread, ne_eq, not_true_eq_false, if_false, if_neg (not_lt.mpr hroom)]
  · rintro ⟨qpos, tables⟩ _ ⟨hq, pqTq, table, hb, hprec, hroom, hread, rfl⟩
    dsimp only at hq hroom ⊢
    omega

theorem findEoi_terminates (jpeg : List UInt8) : Terminates (findEoi jpeg) (eoiStep jpeg) := by
  refine .of_measure (fun i ↦ jpeg.length - i) ?_ ?_
  · rintro i _ ⟨hi, ⟨a, b, ha, hb, hne⟩, rfl⟩
    rw [findEoi, if_pos hi, ha, hb]
    exact if_neg hne
  · rintro i _ ⟨hi, -, rfl⟩
    omega

theorem markerLoop_terminates (jpeg : List UInt8) :
    Terminates (fun s ↦ markerLoop jpeg s.1 s.2) (markerStep jpeg) := by
  refine .of_measure (fun s ↦ jpeg.length - s.1) ?_ ?_
  · rintro ⟨pos, info⟩ ⟨pos', info'⟩ ⟨hpos, hturn⟩
    dsimp only at hpos hturn ⊢
    rw [markerLoop, if_pos hpos]
    split
    · rename_i h
      cases hturn.symm.trans h
    · rename_i h
      cases hturn.symm.trans h
    · rename_i h
      cases hturn.symm.trans h
    · rename_i h
      cases hturn.symm.trans h
      rfl
  · rintro ⟨pos, info⟩ ⟨pos', info'⟩ ⟨hpos, hturn⟩
    dsimp only at hpos hturn ⊢
    have := turn_lt hturn
    omega

/-- No byte vector makes the parser read outside of it or loop forever. -/
theorem parse_safe (jpeg : List UInt8) :
    (∀ info, parseJpegForRtp jpeg info ≠ none) ∧
      Terminates (fun s ↦ markerLoop jpeg s.1 s.2) (markerStep jpeg) ∧
      Terminates (skipFill jpeg) (fillStep jpeg) ∧
      (∀ qend, Terminates (fun s ↦ parseTables jpeg s.1 qend s.2) (tableStep jpeg qend)) ∧
      Terminates (findEoi jpeg) (eoiStep jpeg) := by
  refine ⟨fun info hnone ↦ ?_, markerLoop_terminates jpeg, skipFill_terminates jpeg,
    parseTables_terminates jpeg, findEoi_terminates jpeg⟩
  obtain ⟨r, hr⟩ := parse_total jpeg info
  cases hr.symm.trans hnone

end JpegParser

end TriFusion.Protocol
