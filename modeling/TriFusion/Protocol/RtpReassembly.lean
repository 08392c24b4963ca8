import TriFusion.Protocol.RtpPackets

namespace TriFusion.Protocol

open Media Library Library.Fragments

variable {ω : Type}

namespace RtspServer

open RtpPacket

def logged (sendAll : List UInt8 → ω → Bool × ω) (data : List UInt8)
    (w : ω × List (List UInt8)) : Bool × ω × List (List UInt8) :=
  let (sent, outside) := sendAll data w.1
  (sent, outside, w.2 ++ [data])

def framed (p : List UInt8) : List (List UInt8) := [tcpHeader p, p]

def room (info : JpegRtpInfo) (firstPacket : Bool) : ℕ := maxPacket - fixedLen info firstPacket

def packets (h : FrameHeader) : UInt16 → List (Fragment UInt8) → List (List UInt8)
  | _, [] => []
  | seq, f :: rest =>
    packet h f.offset (withQtable h.info f.first) f.last seq f.data :: packets h (seq + 1) rest

theorem seq_succ (seq : UInt16) (n : ℕ) :
    seq + 1 + UInt16.ofNat n = seq + UInt16.ofNat (n + 1) := by
  rw [UInt16.ofNat_add, UInt16.add_assoc, UInt16.add_comm 1]
  rfl

@[simp] theorem length_packets (h : FrameHeader) (seq : UInt16)
    (fragments : List (Fragment UInt8)) :
    (packets h seq fragments).length = fragments.length := by
  induction fragments generalizing seq with
  | nil => rfl
  | cons f rest ih => rw [packets, List.length_cons, ih, List.length_cons]

theorem getElem_packets (h : FrameHeader) (seq : UInt16) (fragments : List (Fragment UInt8)) (k : ℕ)
    (hk : k < (packets h seq fragments).length) :
    ∃ hk' : k < fragments.length, (packets h seq fragments)[k] =
      packet h fragments[k].offset (withQtable h.info fragments[k].first) fragments[k].last
        (seq + UInt16.ofNat k) fragments[k].data := by
  induction fragments generalizing seq k with
  | nil => exact absurd hk (Nat.not_lt_zero k)
  | cons f rest ih =>
    cases k with
    | zero => exact ⟨Nat.zero_lt_succ _, by simp [packets]⟩
    | succ k =>
      obtain ⟨hk', he⟩ := ih (seq + 1) k (Nat.lt_of_succ_lt_succ hk)
      refine ⟨Nat.succ_lt_succ hk', ?_⟩
      simp only [packets, List.getElem_cons_succ, he, seq_succ]

theorem map_scanPayload_packets (h : FrameHeader) (seq : UInt16)
    (hq : h.info.quantTables.length < 2 ^ 16) (fragments : List (Fragment UInt8)) :
    (packets h seq fragments).map scanPayload = fragments.map Fragment.data := by
  induction fragments generalizing seq with
  | nil => rfl
  | cons f rest ih =>
    rw [packets, List.map_cons, List.map_cons, ih, scanPayload_packet _ _ _ _ _ _ hq]

theorem chunkSize_le (info : JpegRtpInfo) (firstPacket : Bool) (offset : ℕ) :
    chunkSize info firstPacket offset ≤ room info firstPacket ∧
      chunkSize info firstPacket offset ≤ info.scan.length - offset := by
  unfold chunkSize room
  dsimp only
  split <;> omega

theorem sendLoop_turn {sendAll : List UInt8 → ω → Bool × ω} {h : FrameHeader} {offset : ℕ}
    {firstPacket : Bool} (hf : fixedLen h.info firstPacket < maxPacket)
    (ho : offset < h.info.scan.length) (seq : UInt16) (w : ω) (log : List (List UInt8)) :
    (¬(∀ data w, (sendAll data w).1 = true) ∧
      (sendLoop (logged sendAll) h offset firstPacket seq (w, log)).1 = false) ∨
    ∃ w', sendLoop (logged sendAll) h offset firstPacket seq (w, log) =
      sendLoop (logged sendAll) h (offset + chunkSize h.info firstPacket offset) false (seq + 1)
        (w', log ++ framed (packet h offset (withQtable h.info firstPacket)
          (decide (h.info.scan.length ≤ offset + chunkSize h.info firstPacket offset)) seq
          ((h.info.scan.drop offset).take (chunkSize h.info firstPacket offset)))) := by
  rw [sendLoop, if_pos ho, if_neg (Nat.not_le_of_lt hf)]
  extract_lets chunk mark pkt
  have hl (data : List UInt8) (w : ω) (log : List (List UInt8)) :
      logged sendAll data (w, log) = ((sendAll data w).1, (sendAll data w).2, log ++ [data]) := rfl
  cases hhead : (sendAll (tcpHeader pkt) w).1 with
  | false =>
    refine .inl ⟨fun hs ↦ ?_, ?_⟩
    · exact nomatch (hs _ _).symm.trans hhead
    · simp only [hl, hhead]
  | true =>
    cases hbody : (sendAll pkt (sendAll (tcpHeader pkt) w).2).1 with
    | false =>
      refine .inl ⟨fun hs ↦ ?_, ?_⟩
      · exact nomatch (hs _ _).symm.trans hbody
      · simp only [hl, hhead, hbody]
    | true =>
      refine .inr ⟨(sendAll pkt (sendAll (tcpHeader pkt) w).2).2, ?_⟩
      simp only [hl, hhead, hbody, List.append_assoc]
      rfl

theorem sendLoop_succeeds {sendAll : List UInt8 → ω → Bool × ω}
    (hs : ∀ data w, (sendAll data w).1 = true) {h : FrameHeader}
    (hf : ∀ firstPacket, fixedLen h.info firstPacket < maxPacket) (offset : ℕ)
    (firstPacket : Bool) (seq : UInt16) (w : ω) (log : List (List UInt8)) :
    (sendLoop (logged sendAll) h offset firstPacket seq (w, log)).1 = true := by
  induction hn : h.info.scan.length - offset using Nat.strong_induction_on
    generalizing offset firstPacket seq w log with
  | h n ih =>
    by_cases ho : offset < h.info.scan.length
    · rcases sendLoop_turn (hf firstPacket) ho seq w log with ⟨hn, -⟩ | ⟨w₁, hturn⟩
      · exact absurd hs hn
      · have hpos := chunkSize_pos (hf firstPacket) ho
        rw [hturn]
        exact ih _ (by omega) _ _ _ _ _ rfl
    · rw [sendLoop, if_neg ho]

theorem sendLoop_cut {sendAll : List UInt8 → ω → Bool × ω} {h : FrameHeader} {offset : ℕ}
    {firstPacket : Bool} {seq : UInt16} {w : ω} {log : List (List UInt8)}
    (hsent : (sendLoop (logged sendAll) h offset firstPacket seq (w, log)).1 = true) :
    ∃ fragments w', Cut (room h.info) firstPacket offset (h.info.scan.drop offset) fragments ∧
      sendLoop (logged sendAll) h offset firstPacket seq (w, log) =
        (true, seq + UInt16.ofNat fragments.length, w',
          log ++ (packets h seq fragments).flatMap framed) := by
  induction hn : h.info.scan.length - offset using Nat.strong_induction_on
    generalizing offset firstPacket seq w log with
  | h n ih =>
    by_cases ho : offset < h.info.scan.length
    · have hf : fixedLen h.info firstPacket < maxPacket := by
        by_contra hle
        rw [sendLoop, if_pos ho, if_pos (Nat.le_of_not_lt hle)] at hsent
        exact nomatch hsent
      rcases sendLoop_turn hf ho seq w log with ⟨-, hfail⟩ | ⟨w₁, hturn⟩
      · exact nomatch hsent.symm.trans hfail
      obtain ⟨hroom, hrest⟩ := chunkSize_le h.info firstPacket offset
      have hpos := chunkSize_pos hf ho
      generalize hc : chunkSize h.info firstPacket offset = chunk at hturn hroom hrest hpos
      generalize hp : (h.info.scan.drop offset).take chunk = piece at hturn
      generalize hr : h.info.scan.drop (offset + chunk) = rest
      have hsplit : h.info.scan.drop offset = piece ++ rest := by
        rw [← hp, ← hr, ← List.drop_drop, List.take_append_drop]
      have hlen : piece.length = chunk := by
        rw [← hp, List.length_take, List.length_drop]
        exact Nat.min_eq_left hrest
      have hlast : decide (h.info.scan.length ≤ offset + chunk) = rest.isEmpty := by
        rw [← hr, Bool.eq_iff_iff, decide_eq_true_iff, List.isEmpty_iff, List.drop_eq_nil_iff]
      rw [hturn] at hsent ⊢
      obtain ⟨fragments, w', hcut, hloop⟩ :=
        ih (h.info.scan.length - (offset + chunk)) (by omega) hsent rfl
      have hne : piece ≠ [] := by
        intro hnil
        rw [hnil, List.length_nil] at hlen
        omega
      refine ⟨⟨offset, firstPacket, rest.isEmpty, piece⟩ :: fragments, w', ?_, ?_⟩
      · rw [hsplit]
        rw [hr, ← hlen] at hcut
        exact .piece hne (hlen ▸ hroom) hcut
      · rw [hloop, hlast, seq_succ, packets, List.flatMap_cons, List.append_assoc,
          List.length_cons]
    · refine ⟨[], w, ?_, ?_⟩
      · rw [List.drop_eq_nil_of_le (Nat.le_of_not_lt ho)]
        exact .done firstPacket offset
      · rw [sendLoop, if_neg ho]
        simp [packets]

/-- The packets of one frame bring its scan over, in order and complete. -/
structure Carries (info : JpegRtpInfo) (ts : UInt32) (group : List (List UInt8)) : Prop where
  scan : (group.map scanPayload).flatten = info.scan
  offset : ∀ k (hk : k < group.length),
    fragmentOffset group[k] = ((group.take k).map scanPayload).flatten.length % 2 ^ 24
  hasTables : ∀ k (hk : k < group.length),
    hasTables group[k] = (decide (k = 0) && !info.quantTables.isEmpty)
  tables : ∀ k (hk : k < group.length), RtpPacket.hasTables group[k] = true →
    tables group[k] = info.quantTables
  marker : ∀ k (hk : k < group.length), marker group[k] = decide (k + 1 = group.length)
  timestamp : ∀ p ∈ group, timestamp p = ts.toNat
  ssrc : ∀ p ∈ group, ssrc p = 0x54524653
  size : ∀ p ∈ group, p.length ≤ 1400

theorem packets_carry {info : JpegRtpInfo} {ts : UInt32}
    (hq : 12 + 8 + 4 + info.quantTables.length < 1400)
    (seq : UInt16) {fragments : List (Fragment UInt8)}
    (hc : Cut (room info) true 0 info.scan fragments) :
    Carries info ts (packets ⟨info, ts, 0x54524653⟩ seq fragments) := by
  have hq' : info.quantTables.length < 2 ^ 16 := by omega
  have hmem : ∀ p ∈ packets ⟨info, ts, 0x54524653⟩ seq fragments,
      ∃ k, ∃ hk : k < (packets ⟨info, ts, 0x54524653⟩ seq fragments).length,
        (packets ⟨info, ts, 0x54524653⟩ seq fragments)[k] = p := fun p hp ↦ List.getElem_of_mem hp
  constructor
  case scan => rw [map_scanPayload_packets _ _ hq', hc.flatten]
  case offset =>
    intro k hk
    obtain ⟨hk', he⟩ := getElem_packets _ _ _ k hk
    rw [he, fragmentOffset_packet, hc.offset_eq hk', Nat.zero_add, List.map_take,
      List.map_take, map_scanPayload_packets _ _ hq']
  case hasTables =>
    intro k hk
    obtain ⟨hk', he⟩ := getElem_packets _ _ _ k hk
    rw [he, hasTables_packet, hc.first_eq hk', Bool.and_true]
    rfl
  case tables =>
    intro k hk ht
    obtain ⟨hk', he⟩ := getElem_packets _ _ _ k hk
    rw [he, hasTables_packet] at ht
    rw [he, ht, tables_packet _ _ _ _ _ hq']
  case marker =>
    intro k hk
    obtain ⟨hk', he⟩ := getElem_packets _ _ _ k hk
    rw [he, marker_packet, hc.last_eq hk', length_packets]
  case timestamp =>
    intro p hp
    obtain ⟨k, hk, rfl⟩ := hmem p hp
    obtain ⟨hk', he⟩ := getElem_packets _ _ _ k hk
    rw [he, timestamp_packet]
  case ssrc =>
    intro p hp
    obtain ⟨k, hk, rfl⟩ := hmem p hp
    obtain ⟨hk', he⟩ := getElem_packets _ _ _ k hk
    rw [he, ssrc_packet]
    rfl
  case size =>
    intro p hp
    obtain ⟨k, hk, rfl⟩ := hmem p hp
    obtain ⟨hk', he⟩ := getElem_packets _ _ _ k hk
    have hroom := (hc.fits (List.getElem_mem hk')).2
    rw [he, length_packet]
    unfold room fixedLen maxPacket at hroom
    split at hroom <;> rename_i hw <;> simp only [hw] <;> simp <;> omega

def Reassembles (frame : EncodedFrame) (group : List (List UInt8)) : Prop :=
  ∃ info, parseJpegForRtp frame.data {} = some (some info) ∧
    Carries info (rtpTimestampFromPtsMs frame.ptsMs) group

theorem size_of_reassembles {frames : List EncodedFrame} {groups : List (List (List UInt8))}
    (h : List.Forall₂ Reassembles frames groups) : ∀ p ∈ groups.flatten, p.length ≤ 1400 := by
  induction h with
  | nil => exact fun p hp ↦ absurd hp List.not_mem_nil
  | cons hg _ ih =>
    intro p hp
    obtain ⟨info, -, hc⟩ := hg
    rcases List.mem_append.mp hp with hp | hp
    · exact hc.size p hp
    · exact ih p hp

theorem value_tcpHeader {p : List UInt8} (h : p.length ≤ 1400) :
    BigEndian.value ((tcpHeader p).drop 2) = p.length := by
  have hv : (tcpHeader p).drop 2 = writeBe16 (UInt16.ofNat p.length) := rfl
  rw [hv, writeBe16_eq, BigEndian.value_bytes, UInt16.toNat_ofNat']
  omega

/-- A frame the parser accepts, with tables that leave room in the first packet. -/
def Sendable (frame : EncodedFrame) : Prop :=
  ∃ info, parseJpegForRtp frame.data {} = some (some info) ∧
    12 + 8 + 4 + info.quantTables.length < 1400

theorem Sendable.data_ne_nil {frame : EncodedFrame} (h : Sendable frame) : frame.data ≠ [] := by
  obtain ⟨info, hp, -⟩ := h
  intro hn
  have hnil : parseJpegForRtp [] {} = some none := rfl
  rw [hn, hnil] at hp
  exact nomatch hp

def Counts (seq : UInt16) (ps : List (List UInt8)) : Prop :=
  ∀ k (hk : k < ps.length), sequenceNumber ps[k] = (seq.toNat + k) % 2 ^ 16

theorem packets_counts (h : FrameHeader) (seq : UInt16) (fragments : List (Fragment UInt8)) :
    Counts seq (packets h seq fragments) := by
  intro k hk
  obtain ⟨hk', he⟩ := getElem_packets h seq fragments k hk
  rw [he, sequenceNumber_packet, UInt16.toNat_add, UInt16.toNat_ofNat']
  omega

theorem Counts.append {seq : UInt16} {ps qs : List (List UInt8)} (hp : Counts seq ps)
    (hq : Counts (seq + UInt16.ofNat ps.length) qs) : Counts seq (ps ++ qs) := by
  intro k hk
  by_cases hlt : k < ps.length
  · rw [List.getElem_append_left hlt]
    exact hp k hlt
  · have hle : ps.length ≤ k := Nat.le_of_not_lt hlt
    rw [List.getElem_append_right hle, hq, UInt16.toNat_add, UInt16.toNat_ofNat']
    omega

theorem sendMjpegRtpFrame_reassembles {sendAll : List UInt8 → ω → Bool × ω}
    (hs : ∀ data w, (sendAll data w).1 = true) {frame : EncodedFrame} (hf : Sendable frame)
    (seq : UInt16) (w : ω) (log : List (List UInt8)) :
    ∃ group w', sendMjpegRtpFrame (logged sendAll) frame seq 0x54524653 (w, log) =
        (true, seq + UInt16.ofNat group.length, w', log ++ group.flatMap framed) ∧
      Reassembles frame group ∧ Counts seq group := by
  obtain ⟨info, hp, hq⟩ := hf
  have hfix (firstPacket : Bool) : fixedLen info firstPacket < maxPacket := by
    unfold fixedLen maxPacket
    split <;> omega
  obtain ⟨fragments, w', hcut, hloop⟩ := sendLoop_cut (sendLoop_succeeds hs
    (h := ⟨info, rtpTimestampFromPtsMs frame.ptsMs, 0x54524653⟩) hfix 0 true seq w log)
  refine ⟨packets ⟨info, rtpTimestampFromPtsMs frame.ptsMs, 0x54524653⟩ seq fragments, w', ?_,
    ⟨info, hp, packets_carry hq seq hcut⟩, packets_counts _ _ _⟩
  simp only [sendMjpegRtpFrame, hp]
  rw [hloop, length_packets]

theorem streamLoop_reassembles {sendAll : List UInt8 → ω → Bool × ω}
    (hs : ∀ data w, (sendAll data w).1 = true) {waits : List (Option EncodedFrame)}
    (hf : ∀ frame, some frame ∈ waits → Sendable frame) (seq : UInt16) (w : ω)
    (log : List (List UInt8)) :
    ∃ (groups : List (List (List UInt8))) (w' : ω),
      streamLoop (logged sendAll) 0x54524653 waits seq (w, log) =
        (true, seq + UInt16.ofNat groups.flatten.length, w',
          log ++ groups.flatten.flatMap framed) ∧
      List.Forall₂ Reassembles waits.reduceOption groups ∧ Counts seq groups.flatten := by
  induction waits generalizing seq w log with
  | nil =>
    refine ⟨[], w, ?_, .nil, fun k hk ↦ absurd hk (Nat.not_lt_zero k)⟩
    simp [streamLoop]
  | cons wait waits ih =>
    have hrest : ∀ frame, some frame ∈ waits → Sendable frame :=
      fun frame hm ↦ hf frame (List.mem_cons_of_mem _ hm)
    cases wait with
    | none => exact ih hrest seq w log
    | some frame =>
      have hframe : Sendable frame := hf frame List.mem_cons_self
      obtain ⟨group, w₁, hsend, hg, hc⟩ := sendMjpegRtpFrame_reassembles hs hframe seq w log
      obtain ⟨groups, w', hloop, hgs, hcs⟩ := ih hrest (seq + UInt16.ofNat group.length) w₁
        (log ++ group.flatMap framed)
      refine ⟨group :: groups, w', ?_, .cons hg hgs, hc.append hcs⟩
      rw [streamLoop, if_neg hframe.data_ne_nil, hsend]
      dsimp only
      rw [hloop, List.flatten_cons, List.length_append, UInt16.ofNat_add, UInt16.add_assoc,
        List.flatMap_append, List.append_assoc]

/-- Every accepted frame whose tables fit reaches the client complete: each
packet is announced by its size, the packets of a frame carry it, and the
sequence numbers count through all of them. -/
theorem stream_reassembles (sendAll : List UInt8 → ω → Bool × ω)
    (hs : ∀ data w, (sendAll data w).1 = true) (waits : List (Option EncodedFrame))
    (hf : ∀ frame, some frame ∈ waits → Sendable frame) (w : ω) :
    ∃ (groups : List (List (List UInt8))) (w' : ω),
      streamMjpegOverTcp (logged sendAll) waits (w, []) =
        (true, w', groups.flatten.flatMap fun p ↦ [tcpHeader p, p]) ∧
      List.Forall₂ Reassembles waits.reduceOption groups ∧
      (∀ k (hk : k < groups.flatten.length),
        sequenceNumber groups.flatten[k] = k % 2 ^ 16) ∧
      ∀ p ∈ groups.flatten, (tcpHeader p).take 2 = [0x24, 0] ∧
        BigEndian.value ((tcpHeader p).drop 2) = p.length := by
  obtain ⟨groups, w', hloop, hgs, hc⟩ := streamLoop_reassembles hs hf 0 w []
  refine ⟨groups, w', ?_, hgs, fun k hk ↦ ?_,
    fun p hp ↦ ⟨rfl, value_tcpHeader (size_of_reassembles hgs p hp)⟩⟩
  · rw [streamMjpegOverTcp, hloop]
    rfl
  · have hk := hc k hk
    rwa [show (0 : UInt16).toNat = 0 from rfl, Nat.zero_add] at hk

/-- Twenty-one tables, and a scan that does not fit beside them. -/
def tabledJpeg : EncodedFrame where
  codec := .mjpeg
  data := [0xff, 0xd8, 0xff, 0xdb] ++ writeBe16 1367 ++ List.replicate 1365 0 ++
    [0xff, 0xda, 0x00, 0x02] ++ List.replicate 33 0

theorem parse_tabledJpeg : parseJpegForRtp tabledJpeg.data {} =
    some (some { scan := List.replicate 33 0, quantTables := List.replicate 1344 0 }) := by
  decide +kernel

theorem tabled_sendable : Sendable tabledJpeg :=
  ⟨_, parse_tabledJpeg, by rw [List.length_replicate]; decide⟩

theorem stream_reassembles_tabled :
    ∃ (groups : List (List (List UInt8))) (w' : Unit),
      streamMjpegOverTcp (logged fun _ w ↦ (true, w)) [some tabledJpeg, none, some tabledJpeg]
          ((), []) = (true, w', groups.flatten.flatMap fun p ↦ [tcpHeader p, p]) ∧
      List.Forall₂ Reassembles [tabledJpeg, tabledJpeg] groups ∧ groups.flatten.length = 4 := by
  have hall : ∀ frame, some frame ∈ [some tabledJpeg, none, some tabledJpeg] → Sendable frame := by
    intro frame hm
    obtain rfl : frame = tabledJpeg := by simpa using hm
    exact tabled_sendable
  have hlog : (streamMjpegOverTcp (logged fun _ w ↦ (true, w))
      [some tabledJpeg, none, some tabledJpeg] ((), [])).2.2.length = 8 := by
    simp only [streamMjpegOverTcp, streamLoop, sendMjpegRtpFrame, parse_tabledJpeg]
    decide +kernel
  obtain ⟨groups, w', hrun, hgs, -⟩ :=
    stream_reassembles (fun _ w ↦ (true, w)) (fun _ _ ↦ rfl) _ hall ()
  refine ⟨groups, w', hrun, hgs, ?_⟩
  simp only [hrun, List.length_flatMap, List.length_cons, List.length_nil, List.map_const',
    List.sum_replicate_nat] at hlog
  omega

def tablelessJpeg : EncodedFrame where
  codec := .mjpeg
  data := [0xff, 0xd8, 0xff, 0xda, 0x00, 0x02, 1, 2, 3, 4, 5, 6, 7, 8, 0xff, 0xd9]

/-- The first packet of a frame without tables has no table header. -/
theorem tableless_packet_sent :
    let log := (streamMjpegOverTcp (logged fun _ w ↦ (true, w)) [some tablelessJpeg] ((), [])).2.2
    parseJpegForRtp tablelessJpeg.data {} = some (some { scan := [1, 2, 3, 4, 5, 6, 7, 8] }) ∧
      log.length = 2 ∧ hasTables (log.getD 1 []) = false := by
  decide +kernel

end RtspServer

end TriFusion.Protocol
