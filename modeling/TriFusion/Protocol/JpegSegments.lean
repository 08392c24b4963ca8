import TriFusion.Protocol.JpegReading

namespace TriFusion.Protocol

open Library Library.Words JpegParser

/-! What the segments of a header say. -/

namespace Jpeg

/-- A table of 8-bit entries: the high half of `pqTq`, its precision, is zero. -/
structure QuantTable where
  pqTq : UInt8
  body : List UInt8
  precision : (pqTq >>> 4) &&& 0x0f = 0
  length_body : body.length = 64

def QuantTable.bytes (table : QuantTable) : List UInt8 := table.pqTq :: table.body

variable {data acc r : List UInt8} {pos : ℕ}

theorem parseTables_tables (tables : List QuantTable)
    (h : data.drop pos = tables.flatMap QuantTable.bytes) (acc : List UInt8) :
    parseTables data pos data.length acc =
      some (some (acc ++ tables.flatMap QuantTable.body)) := by
  induction tables generalizing pos acc with
  | nil =>
    have hend : data.length ≤ pos := List.drop_eq_nil_iff.mp h
    rw [parseTables, if_neg (not_lt.mpr hend), List.flatMap_nil, List.append_nil]
  | cons table tables ih =>
    rw [List.flatMap_cons, QuantTable.bytes, List.cons_append] at h
    obtain ⟨hlt, hb, hrest⟩ := drop_cons h
    have hlen := length_of_drop hrest
    have hbody := table.length_body
    have hread : readRange data (pos + 1) 64 = some table.body := by
      rw [readRange_total (by omega), hrest, ← hbody, List.take_left]
    rw [parseTables, if_pos hlt, hb]
    dsimp only
    rw [if_neg (not_not_intro table.precision), if_neg (by omega), hread]
    dsimp only
    rw [ih (drop_append_right hrest hbody.symm), List.flatMap_cons, List.append_assoc]

theorem tables_of_parseTables (hpos : pos ≤ data.length)
    (h : parseTables data pos data.length acc = some (some r)) :
    ∃ tables : List QuantTable, data.drop pos = tables.flatMap QuantTable.bytes ∧
      r = acc ++ tables.flatMap QuantTable.body := by
  fun_induction parseTables data pos data.length acc with
  | case1 => cases h
  | case2 => cases h
  | case3 => cases h
  | case4 => cases h
  | case5 pos acc hq pqTq hb hprec hroom table hread ih =>
    obtain ⟨tables, htail, rfl⟩ := ih (not_lt.mp hroom) h
    rw [readRange_total (not_lt.mp hroom)] at hread
    obtain rfl := Option.some.inj hread
    have hlen : ((data.drop (pos + 1)).take 64).length = 64 := by
      rw [List.length_take, List.length_drop]
      omega
    have hsplit : data.drop (pos + 1) =
        (data.drop (pos + 1)).take 64 ++ data.drop (pos + 1 + 64) := by
      rw [← List.drop_drop (i := 64), List.take_append_drop]
    refine ⟨⟨pqTq, _, Classical.not_not.mp hprec, hlen⟩ :: tables, ?_, ?_⟩
    · rw [drop_of_getElem? hb, List.flatMap_cons, ← htail, QuantTable.bytes, List.cons_append]
      exact congrArg (pqTq :: ·) hsplit
    · rw [List.flatMap_cons, List.append_assoc]
  | case6 pos acc hq =>
    obtain rfl := Option.some.inj (Option.some.inj h)
    refine ⟨[], ?_, (List.append_nil _).symm⟩
    exact List.drop_eq_nil_of_le (not_lt.mp hq)

theorem readWord_wordAt {i : ℕ} (h : i + 1 < data.length) :
    readWord data i = some (wordAt data i) := by
  rw [readWord, wordAt, List.getD_eq_getElem?_getD, List.getD_eq_getElem?_getD,
    List.getElem?_eq_getElem h, List.getElem?_eq_getElem (Nat.lt_of_succ_lt h)]
  rfl

variable {s : Segment} {info info' : JpegRtpInfo}

def Segment.Tables (s : Segment) (tables : List QuantTable) : Prop :=
  s.marker = 0xdb ∧ s.data = tables.flatMap QuantTable.bytes

theorem read_tables {tables : List QuantTable} (h : s.Tables tables) (info : JpegRtpInfo) :
    s.read info =
      some { info with quantTables := info.quantTables ++ tables.flatMap QuantTable.body } := by
  obtain ⟨hm, hdata⟩ := h
  have hdrop : s.data.drop 0 = tables.flatMap QuantTable.bytes := hdata
  rw [Segment.read, parseSegment, if_pos hm, Nat.zero_add, parseTables_tables tables hdrop]
  rfl

theorem tables_of_read (hm : s.marker = 0xdb) (h : s.read info = some info') :
    ∃ tables, s.Tables tables := by
  rw [Segment.read, parseSegment, if_pos hm, Nat.zero_add] at h
  cases hp : parseTables s.data 0 s.data.length info.quantTables with
  | none =>
    rw [hp] at h
    cases h
  | some r =>
    cases r with
    | none =>
      rw [hp] at h
      cases h
    | some r =>
      obtain ⟨tables, htables, -⟩ := tables_of_parseTables (Nat.zero_le _) hp
      exact ⟨tables, hm, htables⟩

theorem read_other (hdqt : s.marker ≠ 0xdb) (hsof : s.marker ≠ 0xc0) (info : JpegRtpInfo) :
    s.read info = some info := by
  rw [Segment.read, parseSegment, if_neg hdqt, if_neg hsof]
  rfl

def Segment.dims (s : Segment) : UInt16 × UInt16 := (wordAt s.data 3, wordAt s.data 1)

theorem read_frame (hm : s.marker = 0xc0) (hlen : 8 ≤ s.data.length)
    (hprec : s.data[0]? = some 8) (info : JpegRtpInfo) :
    ∃ type, s.read info =
      some { info with width := s.dims.1, height := s.dims.2, type := type } := by
  have hdqt : s.marker ≠ 0xdb := by
    rw [hm]
    decide
  have h5 : 5 < s.data.length := by omega
  have h7 : 7 < s.data.length := by omega
  rw [Segment.read, parseSegment, if_neg hdqt, if_pos hm, parseFrameHeader,
    if_neg (not_lt.mpr hlen), hprec, readWord_wordAt (by omega), readWord_wordAt (by omega)]
  simp only [Nat.zero_add, List.getElem?_eq_getElem h5, List.getElem?_eq_getElem h7,
    Option.bind_eq_bind, Option.bind_some, ne_eq, not_true_eq_false, if_false]
  split
  · exact ⟨_, rfl⟩
  · exact ⟨info.type, rfl⟩

theorem frame_of_read (hm : s.marker = 0xc0) (h : s.read info = some info') :
    8 ≤ s.data.length ∧ s.data[0]? = some 8 := by
  have hdqt : s.marker ≠ 0xdb := by
    rw [hm]
    decide
  rw [Segment.read, parseSegment, if_neg hdqt, if_pos hm, parseFrameHeader] at h
  split at h
  · cases h
  · rename_i hlen
    refine ⟨not_lt.mp hlen, ?_⟩
    have h0 : 0 < s.data.length := by omega
    rw [List.getElem?_eq_getElem h0] at h ⊢
    simp only [Option.bind_eq_bind, Option.bind_some] at h
    split at h
    · cases h
    · rename_i hprec
      rw [Classical.not_not.mp hprec]

end Jpeg

end TriFusion.Protocol
