import TriFusion.Foundation.ByteUtils
import TriFusion.Foundation.Result

namespace TriFusion.DeviceControl

open Foundation

namespace CompositeSensorCommandBuilder

def isXDigit (c : Char) : Bool :=
  ('0' ≤ c && c ≤ '9') || ('a' ≤ c && c ≤ 'f') || ('A' ≤ c && c ≤ 'F')

def isHexSeparator (c : Char) : Bool := isSpace c || c == ',' || c == ':' || c == '-' || c == '_'

def hexValue (c : Char) : ℕ :=
  if '0' ≤ c ∧ c ≤ '9' then c.toNat - '0'.toNat
  else if 'a' ≤ c ∧ c ≤ 'f' then c.toNat - 'a'.toNat + 10
  else c.toNat - 'A'.toNat + 10

/-- `std::stoul` in base 16, on a text that holds nothing but digits. -/
def stoul16 (text : Text) : Option ℕ :=
  if text = [] then none else some (text.foldl (fun n c ↦ 16 * n + hexValue c) 0)

def normalizeHex : Text → Result Text
  | '0' :: 'x' :: rest => normalizeHex rest
  | '0' :: 'X' :: rest => normalizeHex rest
  | c :: rest =>
    if isXDigit c then do
      let normalized ← normalizeHex rest
      .ok (c :: normalized)
    else if isHexSeparator c then normalizeHex rest
    else .fail .parseError "invalid hex command character"
  | [] => .ok []

def hexBytes : Text → Result (List UInt8)
  | hi :: lo :: rest =>
    match stoul16 [hi, lo] with
    | none => .fail .parseError "failed to parse hex byte"
    | some v => do
      let out ← hexBytes rest
      .ok (UInt8.ofNat (v &&& 0xff) :: out)
  | _ => .ok []

def parseHexCommand (text : Text) : Result (List UInt8) := do
  let normalized ← normalizeHex text
  if normalized = [] then .fail .invalidArgument "hex command is empty"
  else if normalized.length % 2 ≠ 0 then
    .fail .parseError "hex command must contain even number of digits"
  else hexBytes normalized

def IsHexDigit (n : ℕ) (c : Char) : Prop := c = Nat.digitChar n ∨ c = toUpper (Nat.digitChar n)

/-- The texts that write a list of bytes: separators, a prefix or none, two digits. -/
inductive HexLayout : List UInt8 → Text → Prop
  | nil (gap : Text) (hgap : ∀ c ∈ gap, isHexSeparator c = true) : HexLayout [] gap
  | cons (gap mark : Text) (b : UInt8) (hi lo : Char) {data : List UInt8} {text : Text}
      (hgap : ∀ c ∈ gap, isHexSeparator c = true) (hmark : mark ∈ [[], ['0', 'x'], ['0', 'X']])
      (hhi : IsHexDigit (b.toNat / 16) hi) (hlo : IsHexDigit (b.toNat % 16) lo)
      (hrest : HexLayout data text) :
      HexLayout (b :: data) (gap ++ mark ++ hi :: lo :: text)

variable {c : Char} {text : Text} {data : List UInt8}

theorem IsHexDigit.read {n : ℕ} (hn : n < 16) (h : IsHexDigit n c) :
    isXDigit c = true ∧ hexValue c = n ∧ c ≠ 'x' ∧ c ≠ 'X' := by
  have hlower : ∀ n < 16, isXDigit (Nat.digitChar n) = true ∧ hexValue (Nat.digitChar n) = n ∧
      Nat.digitChar n ≠ 'x' ∧ Nat.digitChar n ≠ 'X' := by decide
  have hupper : ∀ n < 16, isXDigit (toUpper (Nat.digitChar n)) = true ∧
      hexValue (toUpper (Nat.digitChar n)) = n ∧ toUpper (Nat.digitChar n) ≠ 'x' ∧
        toUpper (Nat.digitChar n) ≠ 'X' := by decide
  rcases h with rfl | rfl
  · exact hlower n hn
  · exact hupper n hn

theorem separator_cases (h : isHexSeparator c = true) :
    c ∈ [' ', '\t', '\n', '\x0b', '\x0c', '\r', ',', ':', '-', '_'] := by
  simpa [isHexSeparator, isSpace, or_assoc] using h

theorem separator_plain (h : isHexSeparator c = true) :
    c ≠ '0' ∧ isXDigit c = false ∧ c ≠ 'x' ∧ c ≠ 'X' := by
  have hc := separator_cases h
  simp only [List.mem_cons, List.not_mem_nil, or_false] at hc
  rcases hc with rfl | rfl | rfl | rfl | rfl | rfl | rfl | rfl | rfl | rfl <;> decide

theorem normalizeHex_separator (h : isHexSeparator c = true) (rest : Text) :
    normalizeHex (c :: rest) = normalizeHex rest := by
  obtain ⟨h0, hx, -⟩ := separator_plain h
  rw [normalizeHex]
  · simp only [hx, h, Bool.false_eq_true, if_false, if_true]
  · intro _ hc
    exact absurd hc h0
  · intro _ hc
    exact absurd hc h0

theorem normalizeHex_gap (gap rest : Text) (h : ∀ c ∈ gap, isHexSeparator c = true) :
    normalizeHex (gap ++ rest) = normalizeHex rest := by
  induction gap with
  | nil => rfl
  | cons c gap ih =>
    rw [List.cons_append, normalizeHex_separator (h c List.mem_cons_self)]
    exact ih fun d hd ↦ h d (List.mem_cons_of_mem c hd)

theorem normalizeHex_mark (mark rest : Text) (h : mark ∈ [[], ['0', 'x'], ['0', 'X']]) :
    normalizeHex (mark ++ rest) = normalizeHex rest := by
  simp only [List.mem_cons, List.not_mem_nil, or_false] at h
  rcases h with rfl | rfl | rfl
  · rfl
  · simp only [List.cons_append, List.nil_append, normalizeHex]
  · simp only [List.cons_append, List.nil_append, normalizeHex]

theorem normalizeHex_digit {rest normalized : Text} (h : isXDigit c = true)
    (hx : rest.head? ≠ some 'x') (hX : rest.head? ≠ some 'X')
    (hr : normalizeHex rest = .ok normalized) :
    normalizeHex (c :: rest) = .ok (c :: normalized) := by
  rw [normalizeHex]
  · rw [if_pos h, hr]
    rfl
  · intro tail _ he
    rw [he] at hx
    exact hx rfl
  · intro tail _ he
    rw [he] at hX
    exact hX rfl

theorem HexLayout.head (h : HexLayout data text) :
    text.head? ≠ some 'x' ∧ text.head? ≠ some 'X' := by
  have hgap : ∀ gap rest : Text, (∀ c ∈ gap, isHexSeparator c = true) →
      (rest.head? ≠ some 'x' ∧ rest.head? ≠ some 'X') →
      ((gap ++ rest).head? ≠ some 'x' ∧ (gap ++ rest).head? ≠ some 'X') := by
    intro gap rest hgap hrest
    cases gap with
    | nil => exact hrest
    | cons c gap => simpa using (separator_plain (hgap c List.mem_cons_self)).2.2
  cases h with
  | nil _ hg =>
    have hn := hgap text [] hg
    simpa using hn
  | cons gap mark b hi lo hg hmark hhi hlo hrest =>
    have hb : b.toNat < 256 := b.toNat_lt
    rw [List.append_assoc]
    apply hgap gap _ hg
    simp only [List.mem_cons, List.not_mem_nil, or_false] at hmark
    rcases hmark with rfl | rfl | rfl
    · simpa using (hhi.read (by omega)).2.2
    · simp
    · simp

theorem hexBytes_cons {hi lo : Char} {normalized : Text} (b : UInt8)
    (hhi : hexValue hi = b.toNat / 16) (hlo : hexValue lo = b.toNat % 16)
    (hr : hexBytes normalized = .ok data) :
    hexBytes (hi :: lo :: normalized) = .ok (b :: data) := by
  have hv : stoul16 [hi, lo] = some b.toNat := by
    simp only [stoul16, List.cons_ne_nil, if_false, List.foldl_cons, List.foldl_nil, hhi, hlo,
      Option.some.injEq]
    omega
  have hb : UInt8.ofNat (b.toNat &&& 0xff) = b := by
    apply UInt8.toNat_inj.mp
    have hlt : b.toNat < 256 := b.toNat_lt
    have hand : b.toNat &&& 255 = b.toNat % 256 := Nat.and_two_pow_sub_one_eq_mod b.toNat 8
    rw [UInt8.toNat_ofNat', hand]
    omega
  simp only [hexBytes, hv, hr, hb]
  rfl

theorem HexLayout.normalized (h : HexLayout data text) :
    ∃ normalized, normalizeHex text = .ok normalized ∧
      normalized.length = 2 * data.length ∧ hexBytes normalized = .ok data := by
  induction h with
  | nil gap hgap =>
    refine ⟨[], ?_, rfl, rfl⟩
    have hn := normalizeHex_gap gap [] hgap
    rw [List.append_nil] at hn
    exact hn
  | cons gap mark b hi lo hgap hmark hhi hlo hrest ih =>
    obtain ⟨normalized, hn, hl, hd⟩ := ih
    have hb : b.toNat < 256 := b.toNat_lt
    obtain ⟨hhi, hhv, -, -⟩ := hhi.read (by omega)
    obtain ⟨hlo, hlv, hlx, hlX⟩ := hlo.read (by omega)
    obtain ⟨hx, hX⟩ := hrest.head
    refine ⟨hi :: lo :: normalized, ?_, ?_, hexBytes_cons b hhv hlv hd⟩
    · rw [List.append_assoc, normalizeHex_gap _ _ hgap, normalizeHex_mark _ _ hmark]
      apply normalizeHex_digit hhi (by simpa using hlx) (by simpa using hlX)
      exact normalizeHex_digit hlo hx hX hn
    · simp only [List.length_cons, hl]
      omega

theorem HexLayout.parse (h : HexLayout data text) (hd : data ≠ []) :
    parseHexCommand text = .ok data := by
  obtain ⟨normalized, hn, hl, hb⟩ := h.normalized
  have hpos : 0 < data.length := List.length_pos_iff.mpr hd
  have hne : normalized ≠ [] := by
    intro he
    rw [he, List.length_nil] at hl
    omega
  have heven : ¬normalized.length % 2 ≠ 0 := by omega
  calc parseHexCommand text
      = if normalized = [] then .fail .invalidArgument "hex command is empty"
        else if normalized.length % 2 ≠ 0 then
          .fail .parseError "hex command must contain even number of digits"
        else hexBytes normalized := by rw [parseHexCommand, hn]; rfl
    _ = .ok data := by rw [if_neg hne, if_neg heven, hb]

theorem isHexDigit_upper {n : ℕ} : IsHexDigit n (toUpper (Nat.digitChar n)) := .inr rfl

theorem toHex_cons (b : UInt8) (data : List UInt8) (spaced : Bool) :
    Bytes.toHex (b :: data) spaced =
      hexByte b ++ data.flatMap fun b ↦ (if spaced then [' '] else []) ++ hexByte b := by
  rw [Bytes.toHex]
  generalize (if spaced then [' '] else []) = gap
  induction data generalizing b with
  | nil => simp [List.intercalate]
  | cons d data ih => simpa [List.intercalate] using ih d

theorem hexLayout_toHex (data : List UInt8) (spaced : Bool) :
    HexLayout data (Bytes.toHex data spaced) := by
  have hgap : ∀ c ∈ (if spaced then [' '] else []), isHexSeparator c = true := by
    intro c hc
    cases spaced with
    | false => simp at hc
    | true =>
      obtain rfl : c = ' ' := by simpa using hc
      rfl
  have hrest : ∀ data : List UInt8, HexLayout data
      (data.flatMap fun b ↦ (if spaced then [' '] else []) ++ hexByte b) := by
    intro data
    induction data with
    | nil => exact .nil [] (by simp)
    | cons b data ih =>
      have hc := HexLayout.cons (if spaced then [' '] else []) [] b _ _ hgap (by simp)
        isHexDigit_upper isHexDigit_upper ih
      simpa [hexByte, upper, List.append_assoc] using hc
  cases data with
  | nil => exact .nil [] (by simp)
  | cons b data =>
    have hc := HexLayout.cons [] [] b _ _ (by simp) (by simp) isHexDigit_upper isHexDigit_upper
      (hrest data)
    rw [toHex_cons]
    simpa [hexByte, upper] using hc

theorem parseHexCommand_layouts :
    (∀ data text, data ≠ [] → HexLayout data text → parseHexCommand text = .ok data) ∧
      ∀ data spaced, data ≠ [] → parseHexCommand (Bytes.toHex data spaced) = .ok data :=
  ⟨fun _ _ hd h ↦ h.parse hd, fun data spaced hd ↦ (hexLayout_toHex data spaced).parse hd⟩

end CompositeSensorCommandBuilder

end TriFusion.DeviceControl
