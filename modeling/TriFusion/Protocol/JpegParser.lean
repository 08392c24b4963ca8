import Mathlib.Data.List.Infix
import TriFusion.Library.Words

namespace TriFusion.Protocol

open Library.Words

/-- `scan` holds the `scanSize` bytes behind `scanData`. -/
structure JpegRtpInfo where
  width : UInt16 := 800
  height : UInt16 := 600
  type : UInt8 := 1
  quantTables : List UInt8 := []
  scan : List UInt8 := []
  deriving DecidableEq, Repr

/-! A result `none` is a read outside of the vector; `some none` is `return false`. -/

namespace JpegParser

def readWord (jpeg : List UInt8) (i : ℕ) : Option UInt16 := do
  let hi ← jpeg[i]?
  let lo ← jpeg[i + 1]?
  return wordOf hi lo

def readRange (jpeg : List UInt8) (i n : ℕ) : Option (List UInt8) :=
  if i + n ≤ jpeg.length then some ((jpeg.drop i).take n) else none

def skipFill (jpeg : List UInt8) (pos : ℕ) : Option ℕ :=
  if pos < jpeg.length then
    match jpeg[pos]? with
    | none => none
    | some b => if b = 0xff then skipFill jpeg (pos + 1) else some pos
  else some pos
termination_by jpeg.length - pos

def parseTables (jpeg : List UInt8) (qpos qend : ℕ) (tables : List UInt8) :
    Option (Option (List UInt8)) :=
  if qpos < qend then
    match jpeg[qpos]? with
    | none => none
    | some pqTq =>
      if (pqTq >>> 4) &&& 0x0f ≠ 0 then some none
      else if qend < qpos + 1 + 64 then some none
      else
        match readRange jpeg (qpos + 1) 64 with
        | none => none
        | some table => parseTables jpeg (qpos + 1 + 64) qend (tables ++ table)
  else some (some tables)
termination_by qend - qpos

def parseFrameHeader (jpeg : List UInt8) (segData segDataLen : ℕ) (info : JpegRtpInfo) :
    Option (Option JpegRtpInfo) :=
  if segDataLen < 8 then some none
  else do
    let precision ← jpeg[segData]?
    if precision ≠ 8 then return none
    let height ← readWord jpeg (segData + 1)
    let width ← readWord jpeg (segData + 3)
    let info := { info with height := height, width := width }
    let components ← jpeg[segData + 5]?
    if 3 ≤ components ∧ 15 ≤ segDataLen then
      let ySampling ← jpeg[segData + 7]?
      let h := (ySampling >>> 4) &&& 0x0f
      let v := ySampling &&& 0x0f
      return some { info with type := if h = 2 ∧ v = 2 then 0 else 1 }
    return some info

/-- The loop that looks for the EOI marker; without one the scan ends with the vector. -/
def findEoi (jpeg : List UInt8) (i : ℕ) : Option ℕ :=
  if i + 1 < jpeg.length then
    match jpeg[i]?, jpeg[i + 1]? with
    | some a, some b => if a = 0xff ∧ b = 0xd9 then some i else findEoi jpeg (i + 1)
    | _, _ => none
  else some jpeg.length
termination_by jpeg.length - i

def parseSegment (jpeg : List UInt8) (marker : UInt8) (segData segDataLen : ℕ)
    (info : JpegRtpInfo) : Option (Option JpegRtpInfo) :=
  if marker = 0xdb then
    match parseTables jpeg segData (segData + segDataLen) info.quantTables with
    | none => none
    | some none => some none
    | some (some tables) => some (some { info with quantTables := tables })
  else if marker = 0xc0 then parseFrameHeader jpeg segData segDataLen info
  else some (some info)

inductive Turn
  | again (pos : ℕ) (info : JpegRtpInfo)
  | reject
  | finish (info : JpegRtpInfo) (scanStart scanEnd : ℕ)

/-- The part of a turn from a marker that has a length. -/
def segmentTurn (jpeg : List UInt8) (marker : UInt8) (pos : ℕ) (info : JpegRtpInfo) :
    Option Turn :=
  if jpeg.length < pos + 2 then some .reject
  else do
    let segLen ← readWord jpeg pos
    if segLen < 2 ∨ jpeg.length < pos + segLen.toNat then return .reject
    match ← parseSegment jpeg marker (pos + 2) (segLen.toNat - 2) info with
    | none => return .reject
    | some info =>
      if marker = 0xda then
        let scanEnd ← findEoi jpeg (pos + segLen.toNat)
        return .finish info (pos + segLen.toNat) scanEnd
      else return .again (pos + segLen.toNat) info

/-- One turn of the loop over the markers, at a position with four bytes left. -/
def turn (jpeg : List UInt8) (pos : ℕ) (info : JpegRtpInfo) : Option Turn := do
  let b ← jpeg[pos]?
  if b ≠ 0xff then return .again (pos + 1) info
  let pos ← skipFill jpeg pos
  if jpeg.length ≤ pos then return .finish info 0 jpeg.length
  let marker ← jpeg[pos]?
  let pos := pos + 1
  if marker = 0xd9 then return .finish info 0 jpeg.length
  if marker = 0x01 ∨ (0xd0 ≤ marker ∧ marker ≤ 0xd7) then return .again pos info
  segmentTurn jpeg marker pos info

theorem skipFill_le {jpeg : List UInt8} {pos pos' : ℕ} (h : skipFill jpeg pos = some pos') :
    pos ≤ pos' := by
  fun_induction skipFill jpeg pos with
  | case1 => exact nomatch h
  | case2 pos hp hb ih => exact (Nat.le_succ pos).trans (ih h)
  | case3 => exact (Option.some.inj h).le
  | case4 => exact (Option.some.inj h).le

theorem segmentTurn_lt {jpeg : List UInt8} {marker : UInt8} {pos pos' : ℕ}
    {info info' : JpegRtpInfo} (h : segmentTurn jpeg marker pos info = some (.again pos' info')) :
    pos < pos' := by
  unfold segmentTurn at h
  split at h
  · exact nomatch h
  · obtain ⟨segLen, -, h⟩ := Option.bind_eq_some_iff.mp h
    split at h
    · exact nomatch h
    · rename_i hl
      have hlen : 2 ≤ segLen.toNat := by
        have hn : ¬ segLen < 2 := fun hlt ↦ hl (.inl hlt)
        exact UInt16.not_lt.mp hn
      obtain ⟨parsed, -, h⟩ := Option.bind_eq_some_iff.mp h
      cases parsed with
      | none => exact nomatch h
      | some parsed =>
        dsimp only at h
        split at h
        · obtain ⟨scanEnd, -, h⟩ := Option.bind_eq_some_iff.mp h
          exact nomatch h
        · obtain ⟨rfl, -⟩ := Turn.again.inj (Option.some.inj h)
          omega

theorem turn_lt {jpeg : List UInt8} {pos pos' : ℕ} {info info' : JpegRtpInfo}
    (h : turn jpeg pos info = some (.again pos' info')) : pos < pos' := by
  unfold turn at h
  obtain ⟨b, -, h⟩ := Option.bind_eq_some_iff.mp h
  split at h
  · obtain ⟨rfl, -⟩ := Turn.again.inj (Option.some.inj h)
    exact Nat.lt_succ_self pos
  · obtain ⟨after, hs, h⟩ := Option.bind_eq_some_iff.mp h
    have hle := skipFill_le hs
    split at h
    · exact nomatch h
    · obtain ⟨marker, -, h⟩ := Option.bind_eq_some_iff.mp h
      dsimp only at h
      split at h
      · exact nomatch h
      · split at h
        · obtain ⟨rfl, -⟩ := Turn.again.inj (Option.some.inj h)
          omega
        · exact lt_of_le_of_lt hle (Nat.lt_of_succ_lt (segmentTurn_lt h))

/-- The loop over the markers: what it leaves in `info`, `scanStart` and `scanEnd`. -/
def markerLoop (jpeg : List UInt8) (pos : ℕ) (info : JpegRtpInfo) :
    Option (Option (JpegRtpInfo × ℕ × ℕ)) :=
  if pos + 4 ≤ jpeg.length then
    match h : turn jpeg pos info with
    | none => none
    | some .reject => some none
    | some (.finish info scanStart scanEnd) => some (some (info, scanStart, scanEnd))
    | some (.again pos' info') =>
      have := turn_lt h
      markerLoop jpeg pos' info'
  else some (some (info, 0, jpeg.length))
termination_by jpeg.length - pos

end JpegParser

open JpegParser in
def parseJpegForRtp (jpeg : List UInt8) (info : JpegRtpInfo) : Option (Option JpegRtpInfo) := do
  if jpeg.length < 16 then return none
  let b₀ ← jpeg[0]?
  let b₁ ← jpeg[1]?
  if b₀ ≠ 0xff ∨ b₁ ≠ 0xd8 then return none
  match ← markerLoop jpeg 2 { info with quantTables := [], scan := [] } with
  | none => return none
  | some (info, scanStart, scanEnd) =>
    if scanStart = 0 ∨ jpeg.length ≤ scanStart ∨ scanEnd ≤ scanStart then return none
    if info.width = 0 ∨ info.height = 0 then return none
    let scan ← readRange jpeg scanStart (scanEnd - scanStart)
    return if scan = [] then none else some { info with scan := scan }

namespace JpegParser

theorem parseJpegForRtp_some {jpeg : List UInt8} {info info' : JpegRtpInfo}
    (h : parseJpegForRtp jpeg info = some (some info')) :
    16 ≤ jpeg.length ∧ jpeg[0]? = some 0xff ∧ jpeg[1]? = some 0xd8 ∧
      ∃ found scanStart scanEnd scan,
        markerLoop jpeg 2 { info with quantTables := [], scan := [] } =
            some (some (found, scanStart, scanEnd)) ∧
          scanStart ≠ 0 ∧ scan ≠ [] ∧ info' = { found with scan := scan } := by
  unfold parseJpegForRtp at h
  split at h
  · cases h
  · rename_i hlen
    obtain ⟨b₀, h0, h⟩ := Option.bind_eq_some_iff.mp h
    obtain ⟨b₁, h1, h⟩ := Option.bind_eq_some_iff.mp h
    split at h
    · cases h
    · rename_i hsoi
      obtain ⟨hff, hd8⟩ := not_or.mp hsoi
      rw [Classical.not_not.mp hff] at h0
      rw [Classical.not_not.mp hd8] at h1
      refine ⟨not_lt.mp hlen, h0, h1, ?_⟩
      obtain ⟨looped, hloop, h⟩ := Option.bind_eq_some_iff.mp h
      cases looped with
      | none => cases h
      | some r =>
        obtain ⟨found, scanStart, scanEnd⟩ := r
        dsimp only at h
        split at h
        · cases h
        · rename_i hscan
          split at h
          · cases h
          · obtain ⟨scan, -, h⟩ := Option.bind_eq_some_iff.mp h
            have h := Option.some.inj h
            by_cases hs : scan = []
            · rw [if_pos hs] at h
              cases h
            · rw [if_neg hs] at h
              obtain rfl := Option.some.inj h
              exact ⟨found, scanStart, scanEnd, scan, hloop, fun hzero ↦ hscan (.inl hzero), hs,
                rfl⟩

theorem scan_ne_nil {jpeg : List UInt8} {info info' : JpegRtpInfo}
    (h : parseJpegForRtp jpeg info = some (some info')) : info'.scan ≠ [] := by
  obtain ⟨-, -, -, found, scanStart, scanEnd, scan, -, -, hscan, rfl⟩ := parseJpegForRtp_some h
  exact hscan

end JpegParser

end TriFusion.Protocol
