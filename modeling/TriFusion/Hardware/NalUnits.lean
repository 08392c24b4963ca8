import Mathlib.Data.List.Basic

namespace TriFusion.Hardware.Mpp

/-! The searches of `MppEncoder.cpp` for a NAL unit of a given type. -/

/-- What a turn of either search reads at position `i`: the type in the header
byte behind the start code there. -/
def nalTypeAt (data : List UInt8) (i : ℕ) : Option UInt8 :=
  if data[i]? = some 0x00 ∧ data[i + 1]? = some 0x00 ∧
      data[i + 2]? = some 0x00 ∧ data[i + 3]? = some 0x01 then
    data[i + 4]?.map (· &&& 0x1f)
  else if data[i]? = some 0x00 ∧ data[i + 1]? = some 0x00 ∧ data[i + 2]? = some 0x01 then
    data[i + 3]?.map (· &&& 0x1f)
  else none

/-- The loop of both searches; they differ in how far from the end it stops. -/
def nalSearch (margin : ℕ) (data : List UInt8) (targetType : UInt8) : Bool :=
  (List.range (data.length - margin)).any fun i ↦ nalTypeAt data i == some targetType

def hasNalType (data : List UInt8) (targetType : UInt8) : Bool := nalSearch 5 data targetType

def hasH264Sps (data : List UInt8) : Bool := hasNalType data 7

def hasH264Idr (data : List UInt8) : Bool := hasNalType data 5

def hasSpsNal (data : List UInt8) : Bool := nalSearch 4 data 7

inductive StartCode : List UInt8 → Prop
  | three : StartCode [0x00, 0x00, 0x01]
  | four : StartCode [0x00, 0x00, 0x00, 0x01]

/-- A start code begins at position `i`, and the byte behind it is the header of
a NAL unit of type `t`. -/
def NalUnit (data : List UInt8) (i : ℕ) (t : UInt8) : Prop :=
  ∃ code header rest, StartCode code ∧ data.drop i = code ++ header :: rest ∧ header &&& 0x1f = t

variable {data : List UInt8} {i : ℕ} {t : UInt8}

theorem nalTypeAt_drop (data : List UInt8) (i : ℕ) :
    nalTypeAt data i = nalTypeAt (data.drop i) 0 := by
  simp only [nalTypeAt, List.getElem?_drop, Nat.zero_add, Nat.add_zero]

theorem nalTypeAt_four (header : UInt8) (rest : List UInt8) :
    nalTypeAt (0x00 :: 0x00 :: 0x00 :: 0x01 :: header :: rest) 0 = some (header &&& 0x1f) := by
  rfl

theorem nalTypeAt_three (header : UInt8) (rest : List UInt8) :
    nalTypeAt (0x00 :: 0x00 :: 0x01 :: header :: rest) 0 = some (header &&& 0x1f) := by
  rfl

theorem nalUnit_of_nalTypeAt_zero {l : List UInt8} (h : nalTypeAt l 0 = some t) :
    ∃ code header rest, StartCode code ∧ l = code ++ header :: rest ∧ header &&& 0x1f = t := by
  unfold nalTypeAt at h
  split at h
  · rename_i hcode
    obtain ⟨h₀, h₁, h₂, h₃⟩ := hcode
    obtain ⟨header, h₄, ht⟩ := Option.map_eq_some_iff.mp h
    refine ⟨_, header, l.drop 5, .four, ?_, ht⟩
    rcases l with _ | ⟨a, _ | ⟨b, _ | ⟨c, _ | ⟨d, _ | ⟨e, l⟩⟩⟩⟩⟩ <;> simp_all
  · split at h
    · rename_i hcode
      obtain ⟨h₀, h₁, h₂⟩ := hcode
      obtain ⟨header, h₃, ht⟩ := Option.map_eq_some_iff.mp h
      refine ⟨_, header, l.drop 4, .three, ?_, ht⟩
      rcases l with _ | ⟨a, _ | ⟨b, _ | ⟨c, _ | ⟨d, l⟩⟩⟩⟩ <;> simp_all
    · cases h

theorem nalTypeAt_eq_some : nalTypeAt data i = some t ↔ NalUnit data i t := by
  rw [nalTypeAt_drop]
  constructor
  · exact nalUnit_of_nalTypeAt_zero
  · intro h
    obtain ⟨code, header, rest, hcode, hdrop, rfl⟩ := h
    rw [hdrop]
    cases hcode with
    | three => exact nalTypeAt_three header rest
    | four => exact nalTypeAt_four header rest

theorem nalSearch_iff {margin : ℕ} :
    nalSearch margin data t = true ↔ ∃ i, i + margin < data.length ∧ NalUnit data i t := by
  simp only [nalSearch, List.any_eq_true, List.mem_range, beq_iff_eq, nalTypeAt_eq_some]
  constructor <;>
  · intro h
    obtain ⟨i, hi, hn⟩ := h
    exact ⟨i, by omega, hn⟩

theorem hasNalType_iff :
    hasNalType data t = true ↔ ∃ i, i + 5 < data.length ∧ NalUnit data i t := nalSearch_iff

theorem hasSpsNal_iff :
    hasSpsNal data = true ↔ ∃ i, i + 4 < data.length ∧ NalUnit data i 7 := nalSearch_iff

theorem hasSpsNal_of_hasNalType (h : hasNalType data 7 = true) : hasSpsNal data = true := by
  obtain ⟨i, hi, hn⟩ := hasNalType_iff.mp h
  exact hasSpsNal_iff.mpr ⟨i, by omega, hn⟩

theorem NalUnit.append {rest : List UInt8} (hi : i < data.length) (h : NalUnit data i t) :
    NalUnit (data ++ rest) i t := by
  obtain ⟨code, header, tail, hcode, hdrop, ht⟩ := h
  refine ⟨code, header, tail ++ rest, hcode, ?_, ht⟩
  rw [List.drop_append_of_le_length (Nat.le_of_lt hi), hdrop, List.append_assoc, List.cons_append]

theorem hasSpsNal_append (rest : List UInt8) (h : hasSpsNal data = true) :
    hasSpsNal (data ++ rest) = true := by
  obtain ⟨i, hi, hn⟩ := hasSpsNal_iff.mp h
  refine hasSpsNal_iff.mpr ⟨i, ?_, hn.append (by omega)⟩
  rw [List.length_append]
  omega

/-- The search for a type is exact, and agrees with `hasSpsNal`, when a unit of
the type that is there is also there with six bytes from its start code on. -/
theorem hasNalType_exact_iff (data : List UInt8) (t : UInt8) :
    ((hasNalType data t = true ↔ ∃ i, NalUnit data i t) ∧
        (t = 7 → hasNalType data t = hasSpsNal data)) ↔
      ((∃ i, NalUnit data i t) → ∃ i, i + 5 < data.length ∧ NalUnit data i t) := by
  constructor
  · intro h hn
    exact hasNalType_iff.mp (h.1.mpr hn)
  · intro h
    have hexact : hasNalType data t = true ↔ ∃ i, NalUnit data i t := by
      refine ⟨fun hf ↦ ?_, fun hn ↦ hasNalType_iff.mpr (h hn)⟩
      obtain ⟨i, -, hn⟩ := hasNalType_iff.mp hf
      exact ⟨i, hn⟩
    refine ⟨hexact, ?_⟩
    rintro rfl
    refine Bool.eq_iff_iff.mpr ⟨hasSpsNal_of_hasNalType, fun hs ↦ ?_⟩
    obtain ⟨i, -, hn⟩ := hasSpsNal_iff.mp hs
    exact hexact.mpr ⟨i, hn⟩

/-- A parameter set whose header is the last byte. -/
theorem hasNalType_last_byte :
    ¬((hasNalType [0, 0, 0, 1, 7] 7 = true ↔ ∃ i, NalUnit [0, 0, 0, 1, 7] i 7) ∧
      ((7 : UInt8) = 7 → hasNalType [0, 0, 0, 1, 7] 7 = hasSpsNal [0, 0, 0, 1, 7])) := by
  intro h
  exact absurd (h.2 rfl) (by decide)

end TriFusion.Hardware.Mpp
