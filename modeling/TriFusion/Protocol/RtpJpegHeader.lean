import TriFusion.Protocol.JpegFrameHeader
import TriFusion.Protocol.RtpReassembly

namespace TriFusion.Protocol

open Media Library Library.Fragments

/-! What a receiver reads in the payload header of a packet. -/

namespace RtpPacket

def typeSpecific (p : List UInt8) : UInt8 := p.getD 12 0

def type (p : List UInt8) : UInt8 := p.getD 16 0

def q (p : List UInt8) : UInt8 := p.getD 17 0

/-- In units of eight pixels. -/
def width (p : List UInt8) : UInt8 := p.getD 18 0

/-- In units of eight pixels. -/
def height (p : List UInt8) : UInt8 := p.getD 19 0

end RtpPacket

namespace RtspServer

open RtpPacket

variable {ω : Type} {sendAll : List UInt8 → ω → Bool × ω} {frame : EncodedFrame} {seq : UInt16}
  {sourceId : UInt32} {w : ω}

def sentPackets : List (List UInt8) → List (List UInt8)
  | _ :: p :: log => p :: sentPackets log
  | _ => []

@[simp] theorem sentPackets_framed (group : List (List UInt8)) :
    sentPackets (group.flatMap framed) = group := by
  induction group with
  | nil => rfl
  | cons p group ih => exact congrArg (p :: ·) ih

variable (sendAll frame seq sourceId w) in
def framePackets : List (List UInt8) :=
  sentPackets (sendMjpegRtpFrame (logged sendAll) frame seq sourceId (w, [])).2.2.2

variable (sendAll frame seq sourceId w) in
def Sent : Prop := (sendMjpegRtpFrame (logged sendAll) frame seq sourceId (w, [])).1 = true

section Header

variable (h : FrameHeader) (offset : ℕ) (withQtable mark : Bool) (chunk : List UInt8)

theorem typeSpecific_packet :
    typeSpecific (packet h offset withQtable mark seq chunk) = 0 := by
  cases withQtable <;> rfl

theorem type_packet : type (packet h offset withQtable mark seq chunk) = h.info.type := by
  cases withQtable <;> rfl

theorem q_packet :
    q (packet h offset withQtable mark seq chunk) = if withQtable then 128 else 75 := by
  cases withQtable <;> rfl

theorem width_packet :
    width (packet h offset withQtable mark seq chunk) = (h.info.width / 8).toUInt8 := by
  cases withQtable <;> rfl

theorem height_packet :
    height (packet h offset withQtable mark seq chunk) = (h.info.height / 8).toUInt8 := by
  cases withQtable <;> rfl

end Header

theorem framePackets_of_none
    (h : ∀ info, parseJpegForRtp frame.data {} ≠ some (some info)) :
    framePackets sendAll frame seq sourceId w = [] := by
  unfold framePackets sendMjpegRtpFrame
  split
  · rename_i info hp
    exact absurd hp (h info)
  · rfl

theorem framePackets_cut (hsent : Sent sendAll frame seq sourceId w) {info : JpegRtpInfo}
    (hp : parseJpegForRtp frame.data {} = some (some info)) :
    ∃ fragments, Cut (room info) true 0 info.scan fragments ∧
      framePackets sendAll frame seq sourceId w =
        packets ⟨info, rtpTimestampFromPtsMs frame.ptsMs, sourceId⟩ seq fragments := by
  unfold Sent at hsent
  unfold framePackets
  simp only [sendMjpegRtpFrame, hp] at hsent ⊢
  obtain ⟨fragments, w', hcut, hloop⟩ := sendLoop_cut hsent
  refine ⟨fragments, hcut, ?_⟩
  rw [hloop]
  exact sentPackets_framed _

theorem framePackets_single (hsent : Sent sendAll frame seq sourceId w) {info : JpegRtpInfo}
    (hp : parseJpegForRtp frame.data {} = some (some info)) (hne : info.scan ≠ [])
    (hroom : info.scan.length ≤ room info true) :
    ∃ p, framePackets sendAll frame seq sourceId w = [p] := by
  unfold Sent at hsent
  unfold framePackets
  simp only [sendMjpegRtpFrame, hp] at hsent ⊢
  have hpos : 0 < info.scan.length := List.length_pos_iff.mpr hne
  have hf : fixedLen info true < maxPacket := by
    unfold room at hroom
    omega
  have hchunk : 0 + chunkSize info true 0 = info.scan.length := by
    unfold room at hroom
    unfold chunkSize
    dsimp only
    split <;> omega
  rcases sendLoop_turn (h := ⟨info, rtpTimestampFromPtsMs frame.ptsMs, sourceId⟩) hf hpos seq w []
    with ⟨-, hfail⟩ | ⟨w', hturn⟩
  · cases hsent.symm.trans hfail
  · have hend : ¬0 + chunkSize info true 0 < info.scan.length := by omega
    rw [hturn, sendLoop, if_neg hend]
    exact ⟨_, rfl⟩

/-- The fields that RFC 2435 wants the same in all packets of a frame. -/
def headerFields (p : List UInt8) : UInt8 × UInt8 × UInt8 × UInt8 × UInt8 :=
  (typeSpecific p, type p, q p, width p, height p)

def Constant (group : List (List UInt8)) : Prop :=
  ∀ p ∈ group, ∀ p' ∈ group, headerFields p = headerFields p'

theorem headerFields_packet (h : FrameHeader) (offset : ℕ) (withQtable mark : Bool)
    (chunk : List UInt8) :
    headerFields (packet h offset withQtable mark seq chunk) =
      (0, h.info.type, if withQtable then 128 else 75, (h.info.width / 8).toUInt8,
        (h.info.height / 8).toUInt8) := by
  rw [headerFields, typeSpecific_packet, type_packet, q_packet, width_packet, height_packet]

theorem mem_packets {h : FrameHeader} {fragments : List (Fragment UInt8)} {p : List UInt8}
    (hp : p ∈ packets h seq fragments) :
    ∃ f ∈ fragments, ∃ seq',
      p = packet h f.offset (withQtable h.info f.first) f.last seq' f.data := by
  obtain ⟨k, hk, rfl⟩ := List.getElem_of_mem hp
  obtain ⟨hk', he⟩ := getElem_packets h seq fragments k hk
  exact ⟨fragments[k], List.getElem_mem hk', _, he⟩

theorem constant_of_no_tables {info : JpegRtpInfo} (ht : info.quantTables = []) {ts : UInt32}
    (fragments : List (Fragment UInt8)) :
    Constant (packets ⟨info, ts, sourceId⟩ seq fragments) := by
  have hw (firstPacket : Bool) : withQtable info firstPacket = false := by
    rw [withQtable, ht, List.isEmpty_nil, Bool.not_true, Bool.and_false]
  intro p hp p' hp'
  obtain ⟨f, -, seq₁, rfl⟩ := mem_packets hp
  obtain ⟨f', -, seq₂, rfl⟩ := mem_packets hp'
  rw [headerFields_packet, headerFields_packet, hw, hw]

theorem room_of_tables {info : JpegRtpInfo} (ht : info.quantTables ≠ []) :
    room info true = 1400 - (12 + 8 + 4 + info.quantTables.length) := by
  have hw : withQtable info true = true := by
    rw [withQtable, Bool.true_and, Bool.not_eq_true', Bool.eq_false_iff, ne_eq, List.isEmpty_iff]
    exact ht
  rw [room, fixedLen, if_pos hw, maxPacket]
  omega

theorem le_room (info : JpegRtpInfo) :
    1400 - (12 + 8 + 4 + info.quantTables.length) ≤ room info true := by
  rw [room, fixedLen, maxPacket]
  split <;> omega

/-- Tables travel in the first packet alone, and with them another Q. -/
theorem not_constant {info : JpegRtpInfo} (ht : info.quantTables ≠ []) {ts : UInt32}
    {fragments : List (Fragment UInt8)} (hcut : Cut (room info) true 0 info.scan fragments)
    (hlen : room info true < info.scan.length) :
    ¬Constant (packets ⟨info, ts, sourceId⟩ seq fragments) := by
  intro hc
  have htable : info.quantTables.isEmpty = false := by
    rw [Bool.eq_false_iff, ne_eq, List.isEmpty_iff]
    exact ht
  generalize info.scan = scan at hcut hlen
  cases hcut with
  | done => exact absurd hlen (Nat.not_lt_zero _)
  | @piece _ _ chunk rest fragments nonempty fits tail =>
    cases tail with
    | done =>
      rw [List.append_nil] at hlen
      omega
    | piece nonempty' fits' tail' =>
      have hq := hc _ List.mem_cons_self _ (List.mem_cons_of_mem _ List.mem_cons_self)
      rw [headerFields_packet, headerFields_packet, withQtable, withQtable, htable] at hq
      exact absurd hq (by simp)

/-- The packets of a frame that was sent agree in these fields exactly when the frame has
no tables of its own or fits in one packet. -/
theorem constant_iff (hsent : Sent sendAll frame seq sourceId w) :
    Constant (framePackets sendAll frame seq sourceId w) ↔
      ∀ info, parseJpegForRtp frame.data {} = some (some info) →
        info.quantTables = [] ∨
          info.scan.length ≤ 1400 - (12 + 8 + 4 + info.quantTables.length) := by
  constructor
  · intro hc info hp
    by_contra hn
    rw [not_or, not_le] at hn
    obtain ⟨fragments, hcut, hpackets⟩ := framePackets_cut hsent hp
    rw [hpackets] at hc
    refine not_constant hn.1 hcut ?_ hc
    rw [room_of_tables hn.1]
    exact hn.2
  · intro h
    by_cases hp : ∃ info, parseJpegForRtp frame.data {} = some (some info)
    · obtain ⟨info, hp⟩ := hp
      rcases h info hp with ht | hlen
      · obtain ⟨fragments, -, hpackets⟩ := framePackets_cut hsent hp
        rw [hpackets]
        exact constant_of_no_tables ht fragments
      · obtain ⟨p, hone⟩ := framePackets_single hsent hp (JpegParser.scan_ne_nil hp)
          (hlen.trans (le_room info))
        rw [hone]
        intro p₁ h₁ p₂ h₂
        rw [List.mem_singleton.mp h₁, List.mem_singleton.mp h₂]
    · rw [framePackets_of_none fun info hi ↦ hp ⟨info, hi⟩]
      intro p hp
      exact absurd hp List.not_mem_nil

theorem tabled_sent : Sent (fun _ w ↦ (true, w)) tabledJpeg 0 0 () := by
  unfold Sent sendMjpegRtpFrame
  rw [parse_tabledJpeg]
  decide +kernel

theorem constant_iff_tabled :
    Constant (framePackets (fun _ w ↦ (true, w)) tabledJpeg 0 0 ()) ↔
      ∀ info, parseJpegForRtp tabledJpeg.data {} = some (some info) →
        info.quantTables = [] ∨
          info.scan.length ≤ 1400 - (12 + 8 + 4 + info.quantTables.length) :=
  constant_iff tabled_sent

theorem q_changes :
    (framePackets (fun _ w ↦ (true, w)) tabledJpeg 0 0 ()).map q = [128, 75] ∧
      ¬Constant (framePackets (fun _ w ↦ (true, w)) tabledJpeg 0 0 ()) := by
  have hq : (framePackets (fun _ w ↦ (true, w)) tabledJpeg 0 0 ()).map q = [128, 75] := by
    unfold framePackets sendMjpegRtpFrame
    rw [parse_tabledJpeg]
    decide +kernel
  refine ⟨hq, fun hc ↦ ?_⟩
  generalize framePackets (fun _ w ↦ (true, w)) tabledJpeg 0 0 () = group at hq hc
  obtain ⟨p, hp, hp128⟩ : ∃ p ∈ group, q p = 128 := by
    rw [← List.mem_map, hq]
    exact List.mem_cons_self
  obtain ⟨p', hp', hp75⟩ : ∃ p ∈ group, q p = 75 := by
    rw [← List.mem_map, hq]
    exact List.mem_cons_of_mem _ List.mem_cons_self
  have he : q p = q p' := congrArg (fun fields ↦ fields.2.2.1) (hc p hp p' hp')
  rw [hp128, hp75] at he
  exact absurd he (by decide)

section Truth

open JpegParser

theorem parse_keeps {jpeg : List UInt8} {info : JpegRtpInfo}
    (hp : parseJpegForRtp jpeg {} = some (some info)) : Keeps jpeg (sof0 jpeg) info := by
  obtain ⟨-, -, -, found, scanStart, scanEnd, scan, hloop, -, -, rfl⟩ := parseJpegForRtp_some hp
  exact (markerLoop_keeps (keeps_start jpeg) hloop).of_eq rfl rfl rfl

/-- The header fields of the packet tell a receiver what the frame header says. -/
structure Truthful (jpeg : List UInt8) (p : List UInt8) : Prop where
  type_zero : type p = 0 ↔ lumaSampling jpeg = some (2, 1)
  type_one : type p = 1 ↔ lumaSampling jpeg = some (2, 2)
  dimensions : ∃ w h, dimensions jpeg = some (w, h) ∧ (width p).toNat * 8 = w.toNat ∧
    (height p).toNat * 8 = h.toNat

def Representable (jpeg : List UInt8) : Prop :=
  (lumaSampling jpeg = some (2, 1) ∨ lumaSampling jpeg = some (2, 2)) ∧
    ∃ w h, dimensions jpeg = some (w, h) ∧ (w.toNat % 8 = 0 ∧ w.toNat ≤ 2040) ∧
      (h.toNat % 8 = 0 ∧ h.toNat ≤ 2040)

theorem units_mul_eight (n : UInt16) :
    (n / 8).toUInt8.toNat * 8 = n.toNat ↔ n.toNat % 8 = 0 ∧ n.toNat ≤ 2040 := by
  have hn := n.toNat_lt
  rw [UInt16.toNat_toUInt8, UInt16.toNat_div]
  have h8 : (8 : UInt16).toNat = 8 := rfl
  rw [h8]
  omega

/-- The type byte of the parser is never the one of the sampling it has read. -/
theorem type_untruthful {jpeg : List UInt8} {info : JpegRtpInfo}
    (hk : Keeps jpeg (sof0 jpeg) info) (h₀ : info.type = 0 ↔ lumaSampling jpeg = some (2, 1))
    (h₁ : info.type = 1 ↔ lumaSampling jpeg = some (2, 2)) : False := by
  have hread (a b : UInt8) (hs : lumaSampling jpeg = some (a, b)) :
      info.type = if a = 2 ∧ b = 2 then 0 else 1 := by
    obtain ⟨⟨segData, segDataLen⟩, hf, hs⟩ := Option.bind_eq_some_iff.mp hs
    exact (hk.read segData segDataLen hf).2.2 a b hs
  rcases hk.type with ht | ht
  · have hs := hread 2 1 (h₀.mp ht)
    rw [ht] at hs
    exact absurd hs (by decide)
  · have hs := hread 2 2 (h₁.mp ht)
    rw [ht] at hs
    exact absurd hs (by decide)

theorem dimensions_of_parse {jpeg : List UInt8} {info : JpegRtpInfo}
    (hk : Keeps jpeg (sof0 jpeg) info) {w h : UInt16} (hd : dimensions jpeg = some (w, h)) :
    info.width = w ∧ info.height = h := by
  obtain ⟨⟨segData, segDataLen⟩, hf, hd⟩ := Option.bind_eq_some_iff.mp hd
  obtain ⟨height, hh, hd⟩ := Option.bind_eq_some_iff.mp hd
  obtain ⟨width, hw, hd⟩ := Option.bind_eq_some_iff.mp hd
  obtain ⟨rfl, rfl⟩ := Prod.mk.inj (Option.some.inj hd)
  obtain ⟨hheight, hwidth, -⟩ := hk.read segData segDataLen hf
  exact ⟨Option.some.inj (hwidth.symm.trans hw), Option.some.inj (hheight.symm.trans hh)⟩

theorem mem_framePackets (hsent : Sent sendAll frame seq sourceId w) {p : List UInt8}
    (hp : p ∈ framePackets sendAll frame seq sourceId w) :
    ∃ info, parseJpegForRtp frame.data {} = some (some info) ∧ type p = info.type ∧
      width p = (info.width / 8).toUInt8 ∧ height p = (info.height / 8).toUInt8 := by
  by_cases hparse : ∃ info, parseJpegForRtp frame.data {} = some (some info)
  · obtain ⟨info, hparse⟩ := hparse
    obtain ⟨fragments, -, hpackets⟩ := framePackets_cut hsent hparse
    rw [hpackets] at hp
    obtain ⟨f, -, seq', rfl⟩ := mem_packets hp
    exact ⟨info, hparse, type_packet _ _ _ _ _, width_packet _ _ _ _ _, height_packet _ _ _ _ _⟩
  · rw [framePackets_of_none fun info hi ↦ hparse ⟨info, hi⟩] at hp
    exact absurd hp List.not_mem_nil

theorem framePackets_ne_nil (hsent : Sent sendAll frame seq sourceId w) {info : JpegRtpInfo}
    (hp : parseJpegForRtp frame.data {} = some (some info)) :
    framePackets sendAll frame seq sourceId w ≠ [] := by
  obtain ⟨fragments, hcut, hpackets⟩ := framePackets_cut hsent hp
  have hne := scan_ne_nil hp
  intro hnil
  rw [hpackets, ← List.length_eq_zero_iff, length_packets, List.length_eq_zero_iff] at hnil
  have hempty := hcut.isEmpty
  rw [hnil, List.isEmpty_nil, List.isEmpty_iff] at hempty
  exact hne hempty

/-- A sent frame has truthful packets, and is refused when it has none to offer, exactly
when the parser refuses it. Of the dimensions alone the packets tell the truth when these
are multiples of eight up to 2040. -/
theorem truthful_iff (hsent : Sent sendAll frame seq sourceId w) :
    ((∀ p ∈ framePackets sendAll frame seq sourceId w, Truthful frame.data p) ∧
        (¬Representable frame.data → framePackets sendAll frame seq sourceId w = []) ↔
      ∀ info, parseJpegForRtp frame.data {} ≠ some (some info)) ∧
    ∀ p ∈ framePackets sendAll frame seq sourceId w, ∀ a b,
      dimensions frame.data = some (a, b) →
        ((width p).toNat * 8 = a.toNat ∧ (height p).toNat * 8 = b.toNat ↔
          (a.toNat % 8 = 0 ∧ a.toNat ≤ 2040) ∧ (b.toNat % 8 = 0 ∧ b.toNat ≤ 2040)) := by
  refine ⟨⟨?_, ?_⟩, ?_⟩
  · rintro ⟨htrue, -⟩ info hp
    obtain ⟨p, hmem⟩ := List.exists_mem_of_ne_nil _ (framePackets_ne_nil hsent hp)
    obtain ⟨info', hp', htype, -, -⟩ := mem_framePackets hsent hmem
    obtain ⟨h₀, h₁, -⟩ := htrue p hmem
    rw [htype] at h₀ h₁
    exact type_untruthful (parse_keeps hp') h₀ h₁
  · intro hnone
    rw [framePackets_of_none hnone]
    exact ⟨fun p hp ↦ absurd hp List.not_mem_nil, fun _ ↦ rfl⟩
  · intro p hp a b hd
    obtain ⟨info, hparse, -, hw, hh⟩ := mem_framePackets hsent hp
    obtain ⟨rfl, rfl⟩ := dimensions_of_parse (parse_keeps hparse) hd
    rw [hw, hh, units_mul_eight, units_mul_eight]

def subsampledJpeg : EncodedFrame where
  codec := .mjpeg
  data := [0xff, 0xd8, 0xff, 0xc0, 0x00, 0x11, 0x08, 0x00, 0x10, 0x00, 0x10, 0x03, 0x01, 0x22, 0x00,
    0x02, 0x11, 0x01, 0x03, 0x11, 0x01, 0xff, 0xda, 0x00, 0x02, 0x2a, 0xff, 0xd9]

theorem subsampled_sent : Sent (fun _ w ↦ (true, w)) subsampledJpeg 0 0 () := by
  unfold Sent
  decide +kernel

theorem truthful_iff_subsampled :
    ((∀ p ∈ framePackets (fun _ w ↦ (true, w)) subsampledJpeg 0 0 (),
          Truthful subsampledJpeg.data p) ∧
        (¬Representable subsampledJpeg.data →
          framePackets (fun _ w ↦ (true, w)) subsampledJpeg 0 0 () = []) ↔
      ∀ info, parseJpegForRtp subsampledJpeg.data {} ≠ some (some info)) ∧
    ∀ p ∈ framePackets (fun _ w ↦ (true, w)) subsampledJpeg 0 0 (), ∀ a b,
      dimensions subsampledJpeg.data = some (a, b) →
        ((width p).toNat * 8 = a.toNat ∧ (height p).toNat * 8 = b.toNat ↔
          (a.toNat % 8 = 0 ∧ a.toNat ≤ 2040) ∧ (b.toNat % 8 = 0 ∧ b.toNat ≤ 2040)) :=
  truthful_iff subsampled_sent

/-- Type 0 announces two by one luma samples. -/
theorem type_swapped :
    lumaSampling subsampledJpeg.data = some (2, 2) ∧
      dimensions subsampledJpeg.data = some (16, 16) ∧
      (framePackets (fun _ w ↦ (true, w)) subsampledJpeg 0 0 ()).map type = [0] ∧
      ¬∀ p ∈ framePackets (fun _ w ↦ (true, w)) subsampledJpeg 0 0 (),
        Truthful subsampledJpeg.data p := by
  have hs : lumaSampling subsampledJpeg.data = some (2, 2) := by decide +kernel
  have hd : dimensions subsampledJpeg.data = some (16, 16) := by decide +kernel
  have ht : (framePackets (fun _ w ↦ (true, w)) subsampledJpeg 0 0 ()).map type = [0] := by
    decide +kernel
  refine ⟨hs, hd, ht, fun htrue ↦ ?_⟩
  obtain ⟨p, hp, hzero⟩ : ∃ p ∈ framePackets (fun _ w ↦ (true, w)) subsampledJpeg 0 0 (),
      type p = 0 := by
    rw [← List.mem_map, ht]
    exact List.mem_singleton_self 0
  have hfalse := (htrue p hp).type_zero.mp hzero
  rw [hs] at hfalse
  exact absurd hfalse (by decide)

end Truth

end RtspServer

end TriFusion.Protocol
