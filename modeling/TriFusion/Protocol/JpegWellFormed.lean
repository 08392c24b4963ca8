import TriFusion.Protocol.JpegAcceptance
import TriFusion.Protocol.JpegSegments

namespace TriFusion.Protocol

open Library Library.Words JpegParser

/-! The baseline JPEGs that the server is meant for. -/

namespace Jpeg

/-- A segment beside SOF0 and SOS: 8-bit tables, or one the parser has no use for. -/
inductive Part
  | tables (segment : Segment) (held : List QuantTable) (holds : segment.Tables held)
  | other (segment : Segment)
      (plain : segment.marker ≠ 0xdb ∧ segment.marker ≠ 0xc0 ∧ segment.marker ≠ 0xda ∧
        segment.marker ≠ 0xd8)

def Part.segment : Part → Segment
  | .tables segment _ _ => segment
  | .other segment _ => segment

def Part.quantTables : Part → List QuantTable
  | .tables _ held _ => held
  | .other _ _ => []

structure Frame where
  segment : Segment
  is_sof0 : segment.marker = 0xc0
  long : 8 ≤ segment.data.length
  precision : segment.data[0]? = some 8
  width_ne : segment.dims.1 ≠ 0
  height_ne : segment.dims.2 ≠ 0

structure Baseline where
  before : List Part
  frame : Frame
  after : List Part
  sos : Segment
  scan : List UInt8
  trailing : List UInt8
  is_sos : sos.marker = 0xda
  scan_ne : scan ≠ []
  no_eoi : ¬[0xff, 0xd9] <:+: scan

namespace Baseline

variable (j : Baseline)

def segments : List Segment :=
  j.before.map Part.segment ++ j.frame.segment :: j.after.map Part.segment

def bytes : List UInt8 :=
  [0xff, 0xd8] ++ j.segments.flatMap Segment.bytes ++ j.sos.bytes ++ j.scan ++ [0xff, 0xd9] ++
    j.trailing

def quantTables : List QuantTable := (j.before ++ j.after).flatMap Part.quantTables

end Baseline

theorem Part.ne_sos (part : Part) : part.segment.marker ≠ 0xda := by
  cases part with
  | tables segment held holds =>
    rw [Part.segment, holds.1]
    decide
  | other segment plain => exact plain.2.2.1

theorem Part.read (part : Part) (info : JpegRtpInfo) :
    part.segment.read info =
      some { info with
        quantTables := info.quantTables ++ part.quantTables.flatMap QuantTable.body } := by
  cases part with
  | tables segment held holds => exact read_tables holds info
  | other segment plain =>
    rw [Part.segment, read_other plain.1 plain.2.1, Part.quantTables, List.flatMap_nil,
      List.append_nil]

theorem readAll_parts (parts : List Part) (info : JpegRtpInfo) :
    readAll (parts.map fun part ↦ .segment part.segment) info =
      some { info with
        quantTables := info.quantTables ++
          (parts.flatMap Part.quantTables).flatMap QuantTable.body } := by
  induction parts generalizing info with
  | nil =>
    rw [List.flatMap_nil, List.flatMap_nil, List.append_nil]
    rfl
  | cons part parts ih =>
    rw [List.map_cons, readAll, List.foldlM_cons, Item.read, part.read, List.flatMap_cons,
      List.flatMap_append, ← List.append_assoc]
    exact ih _

theorem scanOf_append {scan : List UInt8} (h : ¬[0xff, 0xd9] <:+: scan) (trailing : List UInt8) :
    scanOf (scan ++ 0xff :: 0xd9 :: trailing) = scan := by
  induction scan with
  | nil => rfl
  | cons a scan ih =>
    have htail : ¬[0xff, 0xd9] <:+: scan := fun hin ↦
      h (hin.trans (List.suffix_cons a scan).isInfix)
    cases scan with
    | nil =>
      have hne : ¬(a = 0xff ∧ (0xff : UInt8) = 0xd9) := fun hc ↦ absurd hc.2 (by decide)
      exact (if_neg hne).trans (congrArg (a :: ·) (ih htail))
    | cons b scan =>
      have hne : ¬(a = 0xff ∧ b = 0xd9) := by
        rintro ⟨rfl, rfl⟩
        exact h ⟨[], scan, rfl⟩
      exact (if_neg hne).trans (congrArg (a :: ·) (ih htail))

namespace Baseline

variable (j : Baseline)

theorem segment_ne_sos {s : Segment} (hs : s ∈ j.segments) : s.marker ≠ 0xda := by
  rw [segments, List.mem_append, List.mem_cons, List.mem_map, List.mem_map] at hs
  rcases hs with ⟨part, -, rfl⟩ | rfl | ⟨part, -, rfl⟩
  · exact part.ne_sos
  · rw [j.frame.is_sof0]
    decide
  · exact part.ne_sos

def header : Header where
  items := j.segments.map .segment
  sos := j.sos
  no_sos := by
    intro item hitem
    obtain ⟨s, hs, rfl⟩ := List.mem_map.mp hitem
    exact fun h ↦ j.segment_ne_sos hs (Option.some.inj h)
  is_sos := j.is_sos

theorem headed : Headed j.bytes j.header (j.scan ++ 0xff :: 0xd9 :: j.trailing) := by
  have hitems : j.header.items.flatMap Item.bytes = j.segments.flatMap Segment.bytes :=
    List.flatMap_map ..
  rw [Headed, bytes, Header.bytes, hitems]
  simp [header]

theorem length_le : 16 ≤ j.bytes.length := by
  have hframe := length_bytes j.frame.segment
  have hsos := length_bytes j.sos
  have hlong := j.frame.long
  simp only [bytes, segments, List.flatMap_append, List.flatMap_cons, List.length_append,
    List.length_cons]
  omega

theorem readAll_header (info : JpegRtpInfo) :
    ∃ type, readAll j.header.items info =
      some { info with
        width := j.frame.segment.dims.1, height := j.frame.segment.dims.2, type := type,
        quantTables := info.quantTables ++ j.quantTables.flatMap QuantTable.body } := by
  have hitems : j.header.items = (j.before.map fun part ↦ .segment part.segment) ++
      .segment j.frame.segment :: j.after.map fun part ↦ .segment part.segment := by
    simp only [header, segments, List.map_append, List.map_cons, List.map_map]
    rfl
  obtain ⟨type, hframe⟩ := read_frame j.frame.is_sof0 j.frame.long j.frame.precision
    { info with
      quantTables := info.quantTables ++
        (j.before.flatMap Part.quantTables).flatMap QuantTable.body }
  refine ⟨type, ?_⟩
  have hbefore := readAll_parts j.before info
  rw [readAll] at hbefore
  rw [hitems, readAll, List.foldlM_append, hbefore, Option.bind_eq_bind, Option.bind_some,
    List.foldlM_cons, Item.read, hframe, Option.bind_eq_bind, Option.bind_some]
  refine (readAll_parts j.after _).trans ?_
  rw [quantTables, List.flatMap_append, List.flatMap_append, List.append_assoc]

end Baseline

/-- The parser finds the dimensions, the tables and the scan of a baseline JPEG. -/
theorem parse_baseline (j : Baseline) (info : JpegRtpInfo) :
    ∃ type, parseJpegForRtp j.bytes info =
      some (some
        { width := j.frame.segment.dims.1
          height := j.frame.segment.dims.2
          type := type
          quantTables := j.quantTables.flatMap QuantTable.body
          scan := j.scan }) := by
  obtain ⟨type, hread⟩ := j.readAll_header { info with quantTables := [], scan := [] }
  refine ⟨type, ?_⟩
  have hgood : ¬(j.scan = [] ∨ j.frame.segment.dims.1 = 0 ∨ j.frame.segment.dims.2 = 0) := by
    rintro (h | h | h)
    · exact j.scan_ne h
    · exact j.frame.width_ne h
    · exact j.frame.height_ne h
  rw [parse_headed j.headed j.length_le, hread, Option.bind_some, scanOf_append j.no_eoi,
    if_neg hgood, List.nil_append]

example : Nonempty Baseline :=
  ⟨{ before := []
     frame := ⟨⟨0, 0xc0, [0x08, 0x00, 0x10, 0x00, 0x10, 0x01, 0x01, 0x11, 0x00], by decide,
       by decide, by decide, by decide⟩, rfl, by decide, rfl, by decide, by decide⟩
     after := []
     sos := ⟨0, 0xda, [], by decide, by decide, by decide, by decide⟩
     scan := [0x2a]
     trailing := []
     is_sos := rfl
     scan_ne := by decide
     no_eoi := by decide }⟩

end Jpeg

end TriFusion.Protocol
