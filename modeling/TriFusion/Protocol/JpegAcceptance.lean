import TriFusion.Protocol.JpegReading

namespace TriFusion.Protocol

open Library Library.Words JpegParser

/-! The byte vectors that the parser accepts. -/

namespace Jpeg

variable {jpeg t : List UInt8} {pos : ℕ}

def Headed (jpeg : List UInt8) (h : Header) (rest : List UInt8) : Prop :=
  jpeg = 0xff :: 0xd8 :: (h.bytes ++ rest)

theorem scanOf_prefix (l : List UInt8) : scanOf l <+: l := by
  fun_induction scanOf l with
  | case1 a b rest heoi => exact List.nil_prefix
  | case2 a b rest heoi ih => exact List.cons_prefix_cons.mpr ⟨rfl, ih⟩
  | case3 rest => exact List.prefix_rfl

theorem parse_headed {h : Header} {rest : List UInt8} (hj : Headed jpeg h rest)
    (hlen : 16 ≤ jpeg.length) (info : JpegRtpInfo) :
    parseJpegForRtp jpeg info =
      some ((readAll h.items { info with quantTables := [], scan := [] }).bind fun found ↦
        if scanOf rest = [] ∨ found.width = 0 ∨ found.height = 0 then none
        else some { found with scan := scanOf rest }) := by
  have hdrop : jpeg.drop 2 = h.items.flatMap Item.bytes ++ (h.sos.bytes ++ rest) := by
    rw [hj, ← List.append_assoc]
    rfl
  have h0 : jpeg[0]? = some 0xff := by
    rw [hj]
    rfl
  have h1 : jpeg[1]? = some 0xd8 := by
    rw [hj]
    rfl
  have hrest := length_of_drop hdrop
  rw [List.length_append, length_bytes] at hrest
  have hend : jpeg.drop (jpeg.length - rest.length) = rest := by
    refine (List.suffix_iff_eq_drop.mp ⟨0xff :: 0xd8 :: h.bytes, ?_⟩).symm
    rw [hj]
    rfl
  rw [parseJpegForRtp, if_neg (by omega), h0, h1]
  simp only [Option.bind_eq_bind, Option.bind_some, ne_eq, not_true_eq_false, or_self, if_false,
    markerLoop_header h.items h.no_sos h.is_sos _ hdrop]
  cases hread : readAll h.items { info with quantTables := [], scan := [] } with
  | none => rfl
  | some found =>
    have hprefix := scanOf_prefix rest
    have hle := hprefix.length_le
    simp only [Option.map_some, Option.bind_some]
    by_cases hscan : scanOf rest = []
    · have hempty : (scanOf rest).length = 0 := by rw [hscan, List.length_nil]
      rw [if_pos (.inr (.inr (by omega))), if_pos (.inl hscan)]
      rfl
    · have hsome : 0 < (scanOf rest).length := List.length_pos_iff.mpr hscan
      have hrange : readRange jpeg (jpeg.length - rest.length)
          (jpeg.length - rest.length + (scanOf rest).length - (jpeg.length - rest.length)) =
            some (scanOf rest) := by
        rw [readRange_total (by omega), hend, Nat.add_sub_cancel_left]
        exact congrArg some (List.prefix_iff_eq_take.mp hprefix).symm
      rw [if_neg (by omega), hrange, Option.bind_some, if_neg hscan]
      by_cases hdims : found.width = 0 ∨ found.height = 0
      · rw [if_pos hdims, if_pos (.inr hdims)]
        rfl
      · rw [if_neg hdims, if_neg (not_or.mpr ⟨hscan, hdims⟩)]
        rfl

theorem exists_fill (l : List UInt8) :
    (∃ n, l = List.replicate n 0xff) ∨
      ∃ n marker t, marker ≠ 0xff ∧ l = List.replicate n 0xff ++ marker :: t := by
  induction l with
  | nil => exact .inl ⟨0, rfl⟩
  | cons b l ih =>
    by_cases hb : b = 0xff
    · rcases ih with ⟨n, rfl⟩ | ⟨n, marker, t, hm, rfl⟩
      · exact .inl ⟨n + 1, by rw [hb, List.replicate_succ]⟩
      · exact .inr ⟨n + 1, marker, t, hm, by rw [hb, List.replicate_succ, List.cons_append]⟩
    · exact .inr ⟨0, b, l, hb, rfl⟩

theorem skipFill_all {n : ℕ} (h : jpeg.drop pos = List.replicate n 0xff) :
    skipFill jpeg pos = some (pos + n) := by
  induction n generalizing pos with
  | zero =>
    have hlen := congrArg List.length h
    rw [List.length_drop, List.length_replicate] at hlen
    rw [skipFill, if_neg (by omega)]
    rfl
  | succ n ih =>
    obtain ⟨hpos, hb, htail⟩ := drop_cons h
    rw [skipFill, if_pos hpos, hb]
    dsimp only
    rw [if_pos rfl, ih htail, Nat.add_right_comm, Nat.add_assoc]

theorem segmentTurn_cases (marker : UInt8) (h : jpeg.drop pos = t) (info : JpegRtpInfo) :
    segmentTurn jpeg marker pos info = some .reject ∨
      ∃ data t', data.length + 2 < 2 ^ 16 ∧
        t = wordBytes (UInt16.ofNat (data.length + 2)) ++ (data ++ t') := by
  have hlen := congrArg List.length h
  rw [List.length_drop] at hlen
  by_cases hshort : jpeg.length < pos + 2
  · exact .inl (if_pos hshort)
  · obtain ⟨hi, t₁, rfl⟩ : ∃ hi t₁, t = hi :: t₁ :=
      List.exists_cons_of_length_pos (by omega)
    obtain ⟨lo, t₂, rfl⟩ : ∃ lo t₂, t₁ = lo :: t₂ :=
      List.exists_cons_of_length_pos (by rw [List.length_cons] at hlen; omega)
    have hword : jpeg.drop pos = wordBytes (wordOf hi lo) ++ t₂ := by
      rw [h, wordBytes_wordOf]
      rfl
    rw [List.length_cons, List.length_cons] at hlen
    by_cases hbad : wordOf hi lo < 2 ∨ jpeg.length < pos + (wordOf hi lo).toNat
    · refine .inl ?_
      rw [segmentTurn, if_neg hshort, readWord_wordBytes hword]
      exact if_pos hbad
    · obtain ⟨hmin, hfit⟩ := not_or.mp hbad
      have hmin : 2 ≤ (wordOf hi lo).toNat := UInt16.not_lt.mp hmin
      have hdata : (t₂.take ((wordOf hi lo).toNat - 2)).length + 2 = (wordOf hi lo).toNat := by
        rw [List.length_take]
        omega
      refine .inr ⟨t₂.take ((wordOf hi lo).toNat - 2), t₂.drop ((wordOf hi lo).toNat - 2), ?_, ?_⟩
      · rw [hdata]
        exact (wordOf hi lo).toNat_lt
      · rw [hdata, UInt16.ofNat_toNat, wordBytes_wordOf, List.take_append_drop]
        rfl

theorem next_item (hpos : pos + 4 ≤ jpeg.length) (info : JpegRtpInfo) :
    (∃ item t, item.marker? ≠ some 0xda ∧ jpeg.drop pos = Item.bytes item ++ t) ∨
      (∃ s t, s.marker = 0xda ∧ jpeg.drop pos = Segment.bytes s ++ t) ∨
      turn jpeg pos info = some .reject ∨
      turn jpeg pos info = some (.finish info 0 jpeg.length) := by
  have hlt : pos < jpeg.length := by omega
  have hhead := List.drop_eq_getElem_cons hlt
  by_cases hb : jpeg[pos] = 0xff
  · rw [hb] at hhead
    rcases exists_fill (jpeg.drop (pos + 1)) with ⟨n, hn⟩ | ⟨fill, marker, t, hm, ht⟩
    · rw [hn, ← List.replicate_succ] at hhead
      have hlen := congrArg List.length hhead
      rw [List.length_drop, List.length_replicate] at hlen
      refine .inr (.inr (.inr ?_))
      rw [turn, List.getElem?_eq_getElem hlt, hb]
      simp only [Option.bind_eq_bind, Option.bind_some, ne_eq, not_true_eq_false, if_false,
        skipFill_all hhead]
      exact if_pos (by omega)
    · have hfilled : jpeg.drop pos = filled fill marker ++ t := by
        rw [hhead, ht, filled_append]
      have hturn := turn_filled hfilled hm info
      by_cases heoi : marker = 0xd9
      · rw [if_pos heoi] at hturn
        exact .inr (.inr (.inr hturn))
      · rw [if_neg heoi] at hturn
        by_cases halone : Standalone marker
        · exact .inl ⟨.standalone fill marker halone, t, (Option.some_ne_none _).symm, hfilled⟩
        · rw [if_neg halone] at hturn
          rcases segmentTurn_cases marker (drop_append_right hfilled (length_filled _ _).symm) info
            with hreject | ⟨data, t', hfits, rfl⟩
          · exact .inr (.inr (.inl (hturn.trans hreject)))
          · let s : Segment := ⟨fill, marker, data, hm, heoi, halone, hfits⟩
            have hs : jpeg.drop pos = s.bytes ++ t' := by
              rw [hfilled, Segment.bytes, List.append_assoc, List.append_assoc]
            by_cases hsos : marker = 0xda
            · exact .inr (.inl ⟨s, t', hsos, hs⟩)
            · exact .inl ⟨.segment s, t', fun h ↦ hsos (Option.some.inj h), hs⟩
  · exact .inl ⟨.stray jpeg[pos] hb, _, (Option.some_ne_none _).symm, hhead⟩

theorem turned_item {item : Item} {info : JpegRtpInfo} {turned : Turn}
    (h : jpeg.drop pos = item.bytes ++ t) (hne : item.marker? ≠ some 0xda)
    (hturn : turn jpeg pos info = some turned) :
    turned = .reject ∨ ∃ info', turned = .again (pos + item.bytes.length) info' := by
  obtain rfl := Option.some.inj ((turn_item h hne info).symm.trans hturn)
  cases item.read info with
  | none => exact .inl rfl
  | some info' => exact .inr ⟨info', rfl⟩

theorem exists_header {info found : JpegRtpInfo} {scanStart scanEnd : ℕ}
    (h : markerLoop jpeg pos info = some (some (found, scanStart, scanEnd)))
    (hscan : scanStart ≠ 0) :
    ∃ (header : Header) (rest : List UInt8), jpeg.drop pos = header.bytes ++ rest := by
  fun_induction markerLoop jpeg pos info with
  | case1 => cases h
  | case2 => cases h
  | case3 pos info hpos info₁ s e hturn =>
    cases h
    rcases next_item hpos info with ⟨item, t, hne, hdrop⟩ | ⟨sos, t, hsos, hdrop⟩ | hstop | hstop
    · rcases turned_item hdrop hne hturn with hreject | ⟨info₂, hagain⟩
      · cases hreject
      · cases hagain
    · exact ⟨⟨[], sos, fun _ h ↦ absurd h List.not_mem_nil, hsos⟩, t, hdrop⟩
    · cases hturn.symm.trans hstop
    · cases hturn.symm.trans hstop
      exact absurd rfl hscan
  | case4 pos info hpos pos₁ info₁ hturn hlt ih =>
    rcases next_item hpos info with ⟨item, t, hne, hdrop⟩ | ⟨sos, t, hsos, hdrop⟩ | hstop | hstop
    · rcases turned_item hdrop hne hturn with hreject | ⟨info₂, hagain⟩
      · cases hreject
      · cases hagain
        obtain ⟨header, rest, hrest⟩ := ih h
        rw [drop_append_right hdrop rfl] at hrest
        refine ⟨⟨item :: header.items, header.sos, ?_, header.is_sos⟩, rest, ?_⟩
        · exact List.forall_mem_cons.mpr ⟨hne, header.no_sos⟩
        · rw [hdrop, hrest, Header.bytes, Header.bytes, List.flatMap_cons, List.append_assoc,
            List.append_assoc, List.append_assoc]
    · cases hturn.symm.trans (turn_sos hdrop hsos info)
    · cases hturn.symm.trans hstop
    · cases hturn.symm.trans hstop
  | case5 pos info hpos =>
    cases h
    exact absurd rfl hscan

theorem headed_of_parse {info info' : JpegRtpInfo}
    (h : parseJpegForRtp jpeg info = some (some info')) :
    16 ≤ jpeg.length ∧ ∃ header rest, Headed jpeg header rest := by
  obtain ⟨hlen, h0, h1, found, scanStart, scanEnd, scan, hloop, hscan, -, -⟩ :=
    parseJpegForRtp_some h
  obtain ⟨header, rest, hdrop⟩ := exists_header hloop hscan
  refine ⟨hlen, header, rest, ?_⟩
  rw [Headed, ← hdrop, ← drop_of_getElem? h1, ← drop_of_getElem? h0]
  rfl

end Jpeg

end TriFusion.Protocol
