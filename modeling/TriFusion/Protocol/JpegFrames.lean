import TriFusion.Protocol.JpegAcceptance
import TriFusion.Protocol.JpegSegments

namespace TriFusion.Protocol

open Library Library.Words JpegParser

/-! Where the dimensions of an accepted JPEG come from. -/

namespace Jpeg

def Item.frame? : Item → Option (UInt16 × UInt16)
  | .segment s => if s.marker = 0xc0 then some s.dims else none
  | _ => none

def Header.lastFrame (h : Header) : Option (UInt16 × UInt16) :=
  (h.items.filterMap Item.frame?).getLast?

/-- A fresh `JpegRtpInfo` is filled from a frame header, or the vector is not accepted. -/
def FrameRequired (jpeg : List UInt8) : Prop :=
  ∀ info, parseJpegForRtp jpeg {} = some (some info) →
    ∃ h rest, Headed jpeg h rest ∧ h.lastFrame = some (info.width, info.height)

def Header.Frameless (h : Header) : Prop :=
  ∀ s, .segment s ∈ h.items →
    s.marker ≠ 0xc0 ∧ (s.marker = 0xdb → ∃ tables, s.Tables tables)

/-- The vector has a scan, but no SOF0 segment before it. -/
def Frameless (jpeg : List UInt8) : Prop :=
  16 ≤ jpeg.length ∧ ∃ h rest, Headed jpeg h rest ∧ h.Frameless ∧ rest ≠ [] ∧
    ¬[0xff, 0xd9] <+: rest

variable {jpeg : List UInt8} {info info' : JpegRtpInfo}

theorem Headed.unique {h h' : Header} {rest rest' : List UInt8} (hj : Headed jpeg h rest)
    (hj' : Headed jpeg h' rest') : h = h' ∧ rest = rest' := by
  rw [Headed] at hj hj'
  have he := hj.symm.trans hj'
  exact Header.unambiguous (List.cons.inj (List.cons.inj he).2).2

theorem scanOf_eq_nil {rest : List UInt8} :
    scanOf rest = [] ↔ rest = [] ∨ [0xff, 0xd9] <+: rest := by
  rcases rest with - | ⟨a, - | ⟨b, rest⟩⟩
  · exact iff_of_true rfl (.inl rfl)
  · simp [scanOf]
  · have hpre : [0xff, 0xd9] <+: a :: b :: rest ↔ a = 0xff ∧ b = 0xd9 := by
      rw [List.cons_prefix_cons, List.cons_prefix_cons, and_iff_left List.nil_prefix]
      exact and_congr eq_comm eq_comm
    rw [scanOf, hpre]
    split <;> simp [*]

theorem read_dims {item : Item} (h : item.read info = some info') :
    (info'.width, info'.height) = item.frame?.getD (info.width, info.height) := by
  cases item with
  | stray b hb =>
    obtain rfl := Option.some.inj h
    rfl
  | standalone fill marker halone =>
    obtain rfl := Option.some.inj h
    rfl
  | segment s =>
    rw [Item.read] at h
    rw [Item.frame?]
    by_cases hsof : s.marker = 0xc0
    · obtain ⟨hlen, hprec⟩ := frame_of_read hsof h
      obtain ⟨type, hread⟩ := read_frame hsof hlen hprec info
      obtain rfl := Option.some.inj (h.symm.trans hread)
      rw [if_pos hsof]
      rfl
    · rw [if_neg hsof]
      by_cases hdqt : s.marker = 0xdb
      · obtain ⟨tables, htables⟩ := tables_of_read hdqt h
        obtain rfl := Option.some.inj (h.symm.trans (read_tables htables info))
        rfl
      · obtain rfl := Option.some.inj (h.symm.trans (read_other hdqt hsof info))
        rfl

theorem readAll_dims {items : List Item} (h : readAll items info = some info') :
    (info'.width, info'.height) =
      ((items.filterMap Item.frame?).getLast?).getD (info.width, info.height) := by
  induction items generalizing info with
  | nil =>
    obtain rfl := Option.some.inj h
    rfl
  | cons item items ih =>
    rw [readAll, List.foldlM_cons] at h
    obtain ⟨info₁, hread, h⟩ := Option.bind_eq_some_iff.mp h
    rw [ih h, read_dims hread]
    cases hf : item.frame? with
    | none => rw [List.filterMap_cons_none hf, Option.getD_none]
    | some dims => rw [List.filterMap_cons_some hf, List.getLast?_cons, Option.getD_some,
        Option.getD_some]

theorem read_of_mem {items : List Item} {item : Item} (h : readAll items info = some info')
    (hitem : item ∈ items) : ∃ i i', item.read i = some i' := by
  induction items generalizing info with
  | nil => cases hitem
  | cons first items ih =>
    rw [readAll, List.foldlM_cons] at h
    obtain ⟨info₁, hread, h⟩ := Option.bind_eq_some_iff.mp h
    rcases List.mem_cons.mp hitem with rfl | hrest
    · exact ⟨info, info₁, hread⟩
    · exact ih h hrest

theorem readAll_frameless {items : List Item}
    (h : ∀ s, .segment s ∈ items →
      s.marker ≠ 0xc0 ∧ (s.marker = 0xdb → ∃ tables, s.Tables tables)) (info : JpegRtpInfo) :
    ∃ found, readAll items info = some found := by
  induction items generalizing info with
  | nil => exact ⟨info, rfl⟩
  | cons item items ih =>
    have hrest := ih fun s hs ↦ h s (List.mem_cons_of_mem item hs)
    have hread : ∃ info₁, item.read info = some info₁ := by
      cases item with
      | stray b hb => exact ⟨info, rfl⟩
      | standalone fill marker halone => exact ⟨info, rfl⟩
      | segment s =>
        obtain ⟨hsof, htables⟩ := h s List.mem_cons_self
        by_cases hdqt : s.marker = 0xdb
        · obtain ⟨tables, ht⟩ := htables hdqt
          exact ⟨_, read_tables ht info⟩
        · exact ⟨_, read_other hdqt hsof info⟩
    obtain ⟨info₁, hread⟩ := hread
    obtain ⟨found, hfound⟩ := hrest info₁
    refine ⟨found, ?_⟩
    rw [readAll, List.foldlM_cons, hread]
    exact hfound

theorem lastFrame_eq_none {h : Header} :
    h.lastFrame = none ↔ ∀ s, .segment s ∈ h.items → s.marker ≠ 0xc0 := by
  rw [Header.lastFrame, List.getLast?_eq_none_iff, List.filterMap_eq_nil_iff]
  constructor
  · intro hnone s hs hsof
    have := hnone _ hs
    rw [Item.frame?, if_pos hsof] at this
    cases this
  · intro hno item hitem
    cases item with
    | stray b hb => rfl
    | standalone fill marker halone => rfl
    | segment s => exact if_neg (hno s hitem)

theorem parse_frameless (hfl : Frameless jpeg) (info : JpegRtpInfo) (hw : info.width ≠ 0)
    (hh : info.height ≠ 0) :
    ∃ info', parseJpegForRtp jpeg info = some (some info') ∧
      info'.width = info.width ∧ info'.height = info.height := by
  obtain ⟨hlen, h, rest, hj, hframeless, hrest⟩ := hfl
  obtain ⟨found, hfound⟩ := readAll_frameless hframeless { info with quantTables := [], scan := [] }
  have hnone : h.lastFrame = none :=
    lastFrame_eq_none.mpr fun s hs ↦ (hframeless s hs).1
  have hdims := readAll_dims hfound
  rw [← Header.lastFrame, hnone, Option.getD_none, Prod.mk.injEq] at hdims
  have hscan : scanOf rest ≠ [] := by
    rw [ne_eq, scanOf_eq_nil, not_or]
    exact hrest
  refine ⟨{ found with scan := scanOf rest }, ?_, hdims⟩
  rw [parse_headed hj hlen, hfound, Option.bind_some, hdims.1, hdims.2,
    if_neg (not_or.mpr ⟨hscan, not_or.mpr ⟨hw, hh⟩⟩)]

theorem not_frameRequired (hfl : Frameless jpeg) : ¬FrameRequired jpeg := by
  intro hreq
  obtain ⟨info, hparse, -⟩ := parse_frameless hfl {} (by decide) (by decide)
  obtain ⟨h', rest', hj', hlast⟩ := hreq info hparse
  obtain ⟨-, h, rest, hj, hframeless, -⟩ := hfl
  obtain ⟨rfl, -⟩ := hj.unique hj'
  rw [lastFrame_eq_none.mpr fun s hs ↦ (hframeless s hs).1] at hlast
  cases hlast

/-- The parser accepts no dimensions but those of a frame header exactly when the vector
has a frame header before its scan, or no scan to send. -/
theorem frameRequired_iff (jpeg : List UInt8) : FrameRequired jpeg ↔ ¬Frameless jpeg := by
  refine ⟨fun hreq hfl ↦ not_frameRequired hfl hreq, fun hno info hparse ↦ ?_⟩
  obtain ⟨hlen, h, rest, hj⟩ := headed_of_parse hparse
  refine ⟨h, rest, hj, ?_⟩
  rw [parse_headed hj hlen] at hparse
  obtain ⟨found, hfound, hparse⟩ := Option.bind_eq_some_iff.mp (Option.some.inj hparse)
  split at hparse
  · cases hparse
  · rename_i hgood
    cases hparse
    obtain ⟨hscan, -⟩ := not_or.mp hgood
    have hdims := readAll_dims hfound
    rw [← Header.lastFrame] at hdims
    cases hlast : h.lastFrame with
    | some dims =>
      rw [hlast, Option.getD_some] at hdims
      exact congrArg some hdims.symm
    | none =>
      rw [scanOf_eq_nil, not_or] at hscan
      refine absurd ⟨hlen, h, rest, hj, fun s hs ↦ ⟨lastFrame_eq_none.mp hlast s hs, ?_⟩, hscan⟩ hno
      intro hdqt
      obtain ⟨i, i', hread⟩ := read_of_mem hfound hs
      exact tables_of_read hdqt hread

/-- A progressive JPEG of 16 by 16: SOF2 stands where SOF0 would. -/
def progressive : List UInt8 :=
  [0xff, 0xd8,
    0xff, 0xc2, 0x00, 0x0b, 0x08, 0x00, 0x10, 0x00, 0x10, 0x01, 0x01, 0x11, 0x00,
    0xff, 0xda, 0x00, 0x08, 0x01, 0x01, 0x00, 0x00, 0x00, 0x00,
    0x2a, 0xff, 0xd9]

def progressiveHeader : Header where
  items := [.segment ⟨0, 0xc2, [0x08, 0x00, 0x10, 0x00, 0x10, 0x01, 0x01, 0x11, 0x00],
    by decide, by decide, by decide, by decide⟩]
  sos := ⟨0, 0xda, [0x01, 0x01, 0x00, 0x00, 0x00, 0x00], by decide, by decide, by decide,
    by decide⟩
  no_sos := by
    intro item hitem
    obtain rfl := List.mem_singleton.mp hitem
    decide
  is_sos := rfl

theorem progressive_frameless : Frameless progressive := by
  refine ⟨by decide, progressiveHeader, [0x2a, 0xff, 0xd9], rfl, fun s hs ↦ ?_, by decide,
    by decide⟩
  obtain rfl := Item.segment.inj (List.mem_singleton.mp hs)
  exact ⟨by decide, fun h ↦ absurd h (by decide)⟩

theorem progressive_accepted :
    (∃ info, parseJpegForRtp progressive {} = some (some info) ∧ info.width = 800 ∧
      info.height = 600) ∧ ¬FrameRequired progressive :=
  ⟨parse_frameless progressive_frameless {} (by decide) (by decide),
    not_frameRequired progressive_frameless⟩

end Jpeg

end TriFusion.Protocol
