import TriFusion.Protocol.JpegGrammar

namespace TriFusion.Protocol

open Library Library.Words JpegParser

/-! How the parser goes over the bytes of a header. -/

namespace Jpeg

variable {jpeg data t : List UInt8} {pos : ℕ}

section Window

theorem drop_append_right {n : ℕ} (h : jpeg.drop pos = data ++ t) (hn : n = data.length) :
    jpeg.drop (pos + n) = t := by
  rw [← List.drop_drop, h, hn, List.drop_left]

theorem getElem?_window (h : jpeg.drop pos = data ++ t) {i : ℕ} (hi : i < data.length) :
    jpeg[pos + i]? = data[i]? := by
  rw [← List.getElem?_drop, h, List.getElem?_append_left hi]

theorem length_of_drop (h : jpeg.drop pos = data ++ t) :
    jpeg.length - pos = data.length + t.length := by
  rw [← List.length_drop, h, List.length_append]

theorem readWord_window (h : jpeg.drop pos = data ++ t) {i : ℕ} (hi : i + 1 < data.length) :
    readWord jpeg (pos + i) = readWord data i := by
  rw [readWord, readWord, Nat.add_assoc, getElem?_window h hi,
    getElem?_window h (Nat.lt_of_succ_lt hi)]

theorem readRange_window (h : jpeg.drop pos = data ++ t) {i n : ℕ} (hi : i < data.length)
    (hn : i + n ≤ data.length) : readRange jpeg (pos + i) n = readRange data i n := by
  have hlen := length_of_drop h
  have hdrop : jpeg.drop (pos + i) = data.drop i ++ t := by
    rw [← List.drop_drop, h, List.drop_append_of_le_length hi.le]
  have htake : n ≤ (data.drop i).length := by
    rw [List.length_drop]
    omega
  have hj : pos + i + n ≤ jpeg.length := by omega
  rw [readRange_total hj, readRange_total hn, hdrop, List.take_append_of_le_length htake]

theorem parseTables_window (h : jpeg.drop pos = data ++ t) {qend : ℕ} (hend : qend ≤ data.length)
    (qpos : ℕ) (tables : List UInt8) :
    parseTables jpeg (pos + qpos) (pos + qend) tables = parseTables data qpos qend tables := by
  fun_induction parseTables data qpos qend tables with
  | case1 qpos tables hq hnone =>
    rw [List.getElem?_eq_getElem (hq.trans_le hend)] at hnone
    cases hnone
  | case2 qpos tables hq pqTq hb hprec =>
    rw [parseTables, if_pos (Nat.add_lt_add_left hq pos), getElem?_window h (hq.trans_le hend), hb]
    exact if_pos hprec
  | case3 qpos tables hq pqTq hb hprec hshort =>
    rw [parseTables, if_pos (Nat.add_lt_add_left hq pos), getElem?_window h (hq.trans_le hend), hb]
    dsimp only
    rw [if_neg hprec, if_pos (by omega)]
  | case4 qpos tables hq pqTq hb hprec hroom hnone =>
    rw [readRange_total (by omega)] at hnone
    cases hnone
  | case5 qpos tables hq pqTq hb hprec hroom table hread ih =>
    have hw : readRange jpeg (pos + qpos + 1) 64 = some table := by
      rw [Nat.add_assoc, readRange_window h (by omega) (by omega), hread]
    rw [parseTables, if_pos (Nat.add_lt_add_left hq pos), getElem?_window h (hq.trans_le hend), hb]
    dsimp only
    rw [if_neg hprec, if_neg (by omega), hw]
    exact ih
  | case6 qpos tables hq =>
    rw [parseTables, if_neg (by omega)]

theorem parseFrameHeader_window (h : jpeg.drop pos = data ++ t) (info : JpegRtpInfo) :
    parseFrameHeader jpeg pos data.length info = parseFrameHeader data 0 data.length info := by
  unfold parseFrameHeader
  split
  · rfl
  · rename_i hlen
    have hb {i : ℕ} (hi : i < 8) : jpeg[pos + i]? = data[0 + i]? := by
      rw [Nat.zero_add]
      exact getElem?_window h (by omega)
    have hword {i : ℕ} (hi : i < 7) : readWord jpeg (pos + i) = readWord data (0 + i) := by
      rw [Nat.zero_add]
      exact readWord_window h (by omega)
    have h0 : jpeg[pos]? = data[0]? := hb (by decide : 0 < 8)
    rw [h0, hb (by decide : 5 < 8), hb (by decide : 7 < 8), hword (by decide : 1 < 7),
      hword (by decide : 3 < 7)]

end Window

def Segment.read (s : Segment) (info : JpegRtpInfo) : Option JpegRtpInfo :=
  (parseSegment s.data s.marker 0 s.data.length info).join

def Item.read (item : Item) (info : JpegRtpInfo) : Option JpegRtpInfo :=
  match item with
  | .segment s => s.read info
  | _ => some info

def readAll (items : List Item) (info : JpegRtpInfo) : Option JpegRtpInfo :=
  items.foldlM (fun info item ↦ item.read info) info

theorem parseSegment_window {s : Segment} (h : jpeg.drop pos = s.data ++ t) (info : JpegRtpInfo) :
    parseSegment jpeg s.marker pos s.data.length info = some (s.read info) := by
  have hsame : parseSegment jpeg s.marker pos s.data.length info =
      parseSegment s.data s.marker 0 s.data.length info := by
    unfold parseSegment
    rw [parseFrameHeader_window h, Nat.zero_add]
    have htables := parseTables_window h le_rfl 0 info.quantTables
    rw [Nat.add_zero] at htables
    rw [htables]
  have hdata : 0 + s.data.length ≤ s.data.length := (Nat.zero_add _).le
  obtain ⟨r, hr⟩ := parseSegment_total s.marker hdata info
  rw [hsame, Segment.read, hr]
  rfl

theorem read_sos {s : Segment} (hs : s.marker = 0xda) (info : JpegRtpInfo) :
    s.read info = some info := by
  rw [Segment.read, hs]
  rfl

section Turn

variable {marker : UInt8}

theorem drop_cons {b : UInt8} (h : jpeg.drop pos = b :: t) :
    pos < jpeg.length ∧ jpeg[pos]? = some b ∧ jpeg.drop (pos + 1) = t := by
  have hone : jpeg.drop pos = [b] ++ t := h
  have hlen := length_of_drop hone
  rw [List.length_singleton] at hlen
  exact ⟨by omega, getElem?_window hone Nat.zero_lt_one, drop_append_right hone rfl⟩

theorem skipFill_replicate {n : ℕ} (hm : marker ≠ 0xff)
    (h : jpeg.drop pos = List.replicate n 0xff ++ marker :: t) :
    skipFill jpeg pos = some (pos + n) := by
  induction n generalizing pos with
  | zero =>
    obtain ⟨hpos, hb, -⟩ := drop_cons h
    rw [skipFill, if_pos hpos, hb]
    exact if_neg hm
  | succ n ih =>
    obtain ⟨hpos, hb, htail⟩ := drop_cons h
    rw [skipFill, if_pos hpos, hb]
    dsimp only
    rw [if_pos rfl, ih htail, Nat.add_right_comm, Nat.add_assoc]

theorem turn_stray {b : UInt8} (h : jpeg.drop pos = b :: t) (hb : b ≠ 0xff) (info : JpegRtpInfo) :
    turn jpeg pos info = some (.again (pos + 1) info) := by
  obtain ⟨-, hget, -⟩ := drop_cons h
  rw [turn, hget]
  exact if_pos hb

theorem turn_filled {fill : ℕ} (h : jpeg.drop pos = filled fill marker ++ t)
    (hm : marker ≠ 0xff) (info : JpegRtpInfo) :
    turn jpeg pos info =
      if marker = 0xd9 then some (.finish info 0 jpeg.length)
      else if Standalone marker then some (.again (pos + (fill + 2)) info)
      else segmentTurn jpeg marker (pos + (fill + 2)) info := by
  rw [filled_append] at h
  obtain ⟨-, hb, -⟩ := drop_cons h
  have hfill : jpeg.drop pos = List.replicate (fill + 1) 0xff ++ marker :: t := h
  obtain ⟨hlt, hmarker, -⟩ :=
    drop_cons (drop_append_right hfill (List.length_replicate).symm)
  rw [turn, hb]
  simp only [Option.bind_eq_bind, Option.bind_some, ne_eq, not_true_eq_false, if_false,
    skipFill_replicate hm hfill, if_neg (not_le.mpr hlt), hmarker]
  rfl

theorem readWord_wordBytes {w : UInt16} (h : jpeg.drop pos = wordBytes w ++ t) :
    readWord jpeg pos = some w := by
  rw [wordBytes_eq] at h
  obtain ⟨-, hhi, htail⟩ := drop_cons h
  obtain ⟨-, hlo, -⟩ := drop_cons htail
  rw [readWord, hhi, hlo]
  exact congrArg some (wordOf_wordBytes w)

theorem segmentTurn_segment {s : Segment}
    (h : jpeg.drop pos = wordBytes (UInt16.ofNat (s.data.length + 2)) ++ (s.data ++ t))
    (info : JpegRtpInfo) :
    segmentTurn jpeg s.marker pos info =
      match s.read info with
      | none => some .reject
      | some info =>
        if s.marker = 0xda then
          (findEoi jpeg (pos + (s.data.length + 2))).map
            (.finish info (pos + (s.data.length + 2)))
        else some (.again (pos + (s.data.length + 2)) info) := by
  have hlen := length_of_drop h
  rw [length_wordBytes, List.length_append] at hlen
  have hdata : jpeg.drop (pos + 2) = s.data ++ t := drop_append_right h rfl
  have hmin : ¬UInt16.ofNat (s.data.length + 2) < 2 := by
    rw [UInt16.not_lt, UInt16.le_iff_toNat_le, toNat_segLen]
    exact Nat.le_add_left 2 _
  have hn : (UInt16.ofNat (s.data.length + 2)).toNat - 2 = s.data.length := by
    rw [toNat_segLen, Nat.add_sub_cancel]
  rw [segmentTurn, if_neg (by omega), readWord_wordBytes h]
  simp only [Option.bind_eq_bind, Option.bind_some]
  rw [if_neg (not_or.mpr ⟨hmin, by rw [toNat_segLen]; omega⟩), hn, toNat_segLen,
    parseSegment_window hdata, Option.bind_some]
  cases s.read info with
  | none => rfl
  | some info =>
    dsimp only
    split
    · cases findEoi jpeg (pos + (s.data.length + 2)) with
      | none => rfl
      | some scanEnd => rfl
    · rfl

theorem turn_segment {s : Segment} (h : jpeg.drop pos = s.bytes ++ t) (info : JpegRtpInfo) :
    turn jpeg pos info = segmentTurn jpeg s.marker (pos + (s.fill + 2)) info ∧
      jpeg.drop (pos + (s.fill + 2)) =
        wordBytes (UInt16.ofNat (s.data.length + 2)) ++ (s.data ++ t) := by
  rw [Segment.bytes, List.append_assoc, List.append_assoc] at h
  refine ⟨?_, drop_append_right h (length_filled _ _).symm⟩
  rw [turn_filled h s.ne_fill, if_neg s.ne_eoi, if_neg s.not_standalone]

theorem turn_item {item : Item} (h : jpeg.drop pos = item.bytes ++ t)
    (hne : item.marker? ≠ some 0xda) (info : JpegRtpInfo) :
    turn jpeg pos info =
      some ((item.read info).elim .reject (.again (pos + item.bytes.length))) := by
  cases item with
  | stray b hb => exact turn_stray h hb info
  | standalone fill marker halone =>
    have heoi : marker ≠ 0xd9 := by
      rintro rfl
      exact absurd halone (by decide)
    rw [turn_filled h halone.ne_fill, if_neg heoi, if_pos halone, Item.bytes, length_filled]
    rfl
  | segment s =>
    obtain ⟨hturn, hdrop⟩ := turn_segment h info
    have hsos : s.marker ≠ 0xda := fun hs ↦ hne (congrArg some hs)
    rw [hturn, segmentTurn_segment hdrop, Item.bytes, length_bytes, Item.read]
    cases s.read info with
    | none => rfl
    | some info =>
      dsimp only
      rw [if_neg hsos, Option.elim_some, Nat.add_assoc, Nat.add_assoc]

theorem scanOf_of_short {l : List UInt8} (h : l.length ≤ 1) : scanOf l = l := by
  cases l with
  | nil => rfl
  | cons a l =>
    obtain rfl := List.length_eq_zero_iff.mp (Nat.le_zero.mp (Nat.le_of_succ_le_succ h))
    rfl

theorem drop_of_getElem? {i : ℕ} {b : UInt8} (h : jpeg[i]? = some b) :
    jpeg.drop i = b :: jpeg.drop (i + 1) := by
  obtain ⟨hi, rfl⟩ := List.getElem?_eq_some_iff.mp h
  exact List.drop_eq_getElem_cons hi

theorem findEoi_drop (jpeg : List UInt8) {i : ℕ} (hi : i ≤ jpeg.length) :
    findEoi jpeg i = some (i + (scanOf (jpeg.drop i)).length) := by
  fun_induction findEoi jpeg i with
  | case1 i hlt a b ha hb heoi =>
    rw [drop_of_getElem? hb, drop_of_getElem? ha, scanOf, if_pos heoi, List.length_nil,
      Nat.add_zero]
  | case2 i hlt a b ha hb heoi ih =>
    rw [ih hlt.le, drop_of_getElem? hb, drop_of_getElem? ha, scanOf, if_neg heoi,
      List.length_cons, Nat.add_right_comm, Nat.add_assoc]
  | case3 i hlt hnone =>
    exact (hnone _ _ (List.getElem?_eq_getElem (Nat.lt_of_succ_lt hlt))
      (List.getElem?_eq_getElem hlt)).elim
  | case4 i hlt =>
    have hshort : (jpeg.drop i).length ≤ 1 := by
      rw [List.length_drop]
      omega
    rw [scanOf_of_short hshort, List.length_drop]
    exact congrArg some (by omega)

theorem turn_sos {s : Segment} (h : jpeg.drop pos = s.bytes ++ t) (hs : s.marker = 0xda)
    (info : JpegRtpInfo) :
    turn jpeg pos info =
      some (.finish info (pos + s.bytes.length) (pos + s.bytes.length + (scanOf t).length)) := by
  obtain ⟨hturn, hdrop⟩ := turn_segment h info
  have hlen := length_of_drop h
  have hpos : 0 < s.bytes.length := by
    rw [length_bytes]
    omega
  have hsum : pos + (s.fill + 2) + (s.data.length + 2) = pos + s.bytes.length := by
    rw [length_bytes]
    omega
  rw [hturn, segmentTurn_segment hdrop, read_sos hs]
  dsimp only
  rw [if_pos hs, hsum, findEoi_drop jpeg (by omega), drop_append_right h rfl]
  rfl

end Turn

def outcome (jpeg : List UInt8) : Turn → Option (Option (JpegRtpInfo × ℕ × ℕ))
  | .reject => some none
  | .finish info scanStart scanEnd => some (some (info, scanStart, scanEnd))
  | .again pos info => markerLoop jpeg pos info

theorem markerLoop_turn {info : JpegRtpInfo} (hpos : pos + 4 ≤ jpeg.length) {turned : Turn}
    (h : turn jpeg pos info = some turned) :
    markerLoop jpeg pos info = outcome jpeg turned := by
  rw [markerLoop, if_pos hpos]
  split
  · rename_i hturn
    cases h.symm.trans hturn
  · rename_i hturn
    cases h.symm.trans hturn
    rfl
  · rename_i hturn
    cases h.symm.trans hturn
    rfl
  · rename_i hturn
    cases h.symm.trans hturn
    rfl

/-- The loop reads a header item by item and stops behind its SOS segment. -/
theorem markerLoop_header (items : List Item) {s : Segment}
    (hno : ∀ item ∈ items, item.marker? ≠ some 0xda) (hs : s.marker = 0xda) (info : JpegRtpInfo)
    (h : jpeg.drop pos = items.flatMap Item.bytes ++ (s.bytes ++ t)) :
    markerLoop jpeg pos info =
      some ((readAll items info).map fun found ↦
        (found, jpeg.length - t.length, jpeg.length - t.length + (scanOf t).length)) := by
  induction items generalizing pos info with
  | nil =>
    have hdrop : jpeg.drop pos = s.bytes ++ t := h
    have hlen := length_of_drop hdrop
    have hbytes := length_bytes s
    have hend : pos + s.bytes.length = jpeg.length - t.length := by omega
    rw [markerLoop_turn (by omega) (turn_sos hdrop hs info), hend]
    rfl
  | cons item items ih =>
    rw [List.flatMap_cons, List.append_assoc] at h
    have hlen := length_of_drop h
    rw [List.length_append, List.length_append, length_bytes] at hlen
    rw [markerLoop_turn (by omega) (turn_item h (hno item List.mem_cons_self) info),
      readAll, List.foldlM_cons]
    cases hread : item.read info with
    | none => rfl
    | some found =>
      exact ih (fun item' hi ↦ hno item' (List.mem_cons_of_mem item hi)) found
        (drop_append_right h rfl)

end Jpeg

end TriFusion.Protocol
