import TriFusion.Library.BigEndian

namespace TriFusion.Library.Words

def wordBytes (w : UInt16) : List UInt8 := [((w >>> 8) &&& 0xff).toUInt8, (w &&& 0xff).toUInt8]

def wordOf (hi lo : UInt8) : UInt16 := (hi.toUInt16 <<< 8) ||| lo.toUInt16

/-- The word at a byte offset; a missing byte reads as zero. -/
def wordAt (bytes : List UInt8) (offset : ℕ) : UInt16 :=
  wordOf (bytes.getD offset 0) (bytes.getD (offset + 1) 0)

def line (words : List UInt16) : List UInt8 := words.flatMap wordBytes

def words : List UInt8 → List UInt16
  | hi :: lo :: rest => wordOf hi lo :: words rest
  | _ => []

theorem and_byte (n : ℕ) : n &&& 255 = n % 256 := Nat.and_two_pow_sub_one_eq_mod n 8

theorem wordOf_toNat (hi lo : UInt8) : (wordOf hi lo).toNat = hi.toNat * 256 + lo.toNat := by
  have hh : hi.toNat < 2 ^ 8 := hi.toNat_lt
  have hl : lo.toNat < 2 ^ 8 := lo.toNat_lt
  have hs : hi.toNat <<< 8 = hi.toNat * 256 := Nat.shiftLeft_eq _ 8
  have h8 : (8 : UInt16).toNat % 16 = 8 := rfl
  rw [wordOf, UInt16.toNat_or, UInt16.toNat_shiftLeft, h8, UInt8.toNat_toUInt16,
    UInt8.toNat_toUInt16, hs, Nat.mod_eq_of_lt (by omega), ← hs, ← Nat.shiftLeft_add_eq_or_of_lt hl]

theorem wordBytes_eq (w : UInt16) :
    wordBytes w = [UInt8.ofNat (w.toNat / 256), UInt8.ofNat w.toNat] := by
  have hhi : ((w >>> 8) &&& 0xff).toUInt8 = UInt8.ofNat (w.toNat / 256) := by
    apply UInt8.toNat_inj.mp
    simp [Nat.shiftRight_eq_div_pow, and_byte]
  have hlo : (w &&& 0xff).toUInt8 = UInt8.ofNat w.toNat := by
    apply UInt8.toNat_inj.mp
    simp [and_byte]
  rw [wordBytes, hhi, hlo]

theorem wordBytes_bigEndian (w : UInt16) : wordBytes w = BigEndian.bytes 2 w.toNat := by
  simp [wordBytes_eq, BigEndian.bytes]

theorem wordBytes_wordOf (hi lo : UInt8) : wordBytes (wordOf hi lo) = [hi, lo] := by
  have hl : lo.toNat / 256 = 0 := Nat.div_eq_of_lt lo.toNat_lt
  have hhi : UInt8.ofNat ((wordOf hi lo).toNat / 256) = hi := by
    apply UInt8.toNat_inj.mp
    rw [wordOf_toNat, Nat.add_comm, Nat.add_mul_div_right _ _ (by decide), hl]
    simp
  have hlo : UInt8.ofNat (wordOf hi lo).toNat = lo := by
    apply UInt8.toNat_inj.mp
    rw [wordOf_toNat]
    simp
  rw [wordBytes_eq, hhi, hlo]

theorem wordOf_wordBytes (w : UInt16) :
    wordOf (UInt8.ofNat (w.toNat / 256)) (UInt8.ofNat w.toNat) = w := by
  have hw : w.toNat < 2 ^ 16 := w.toNat_lt
  apply UInt16.toNat_inj.mp
  rw [wordOf_toNat, UInt8.toNat_ofNat', UInt8.toNat_ofNat']
  omega

theorem wordBytes_injective : Function.Injective wordBytes := by
  intro w w' h
  rw [wordBytes_eq, wordBytes_eq, List.cons.injEq, List.cons.injEq] at h
  obtain ⟨hhi, hlo, -⟩ := h
  rw [← wordOf_wordBytes w, hhi, hlo, wordOf_wordBytes]

@[simp] theorem line_nil : line [] = [] := rfl

@[simp] theorem line_cons (w : UInt16) (rest : List UInt16) :
    line (w :: rest) = wordBytes w ++ line rest := by simp [line]

@[simp] theorem length_wordBytes (w : UInt16) : (wordBytes w).length = 2 := rfl

@[simp] theorem length_line (ws : List UInt16) : (line ws).length = 2 * ws.length := by
  induction ws with
  | nil => rfl
  | cons w rest ih =>
    simp only [line_cons, List.length_append, length_wordBytes, ih, List.length_cons]
    omega

theorem words_line (ws : List UInt16) : words (line ws) = ws := by
  induction ws with
  | nil => rfl
  | cons w rest ih =>
    rw [line_cons, wordBytes_eq]
    simp only [List.cons_append, List.nil_append, words, wordOf_wordBytes, ih]

theorem line_words (n : ℕ) (bytes : List UInt8) (h : bytes.length = 2 * n) :
    line (words bytes) = bytes := by
  induction n generalizing bytes with
  | zero => simp_all [words]
  | succ n ih =>
    match bytes, h with
    | hi :: lo :: rest, h =>
      have hr : rest.length = 2 * n := by simp only [List.length_cons] at h; omega
      rw [words, line_cons, wordBytes_wordOf, ih rest hr]
      rfl

theorem length_words (n : ℕ) (bytes : List UInt8) (h : bytes.length = 2 * n) :
    (words bytes).length = n := by
  have hl := congrArg List.length (line_words n bytes h)
  rw [length_line] at hl
  omega

theorem wordAt_even (bytes : List UInt8) (n : ℕ) (h : bytes.length = 2 * n) (i : ℕ) :
    wordAt bytes (2 * i) = (words bytes).getD i 0 := by
  induction n generalizing bytes i with
  | zero => simp_all [words, wordAt]; rfl
  | succ n ih =>
    match bytes, h with
    | hi :: lo :: rest, h =>
      have hr : rest.length = 2 * n := by simp only [List.length_cons] at h; omega
      cases i with
      | zero => rfl
      | succ i =>
        have hi' := ih rest hr i
        simpa only [wordAt, words, Nat.mul_succ, List.getD_cons_succ,
          Nat.add_right_comm _ 2 1] using hi'

/-- One changed byte changes no word but its own. -/
theorem wordAt_set (bytes : List UInt8) (v : UInt8) {i k : ℕ} (h : i / 2 ≠ k) :
    wordAt (bytes.set i v) (2 * k) = wordAt bytes (2 * k) := by
  have hhi : i ≠ 2 * k := by omega
  have hlo : i ≠ 2 * k + 1 := by omega
  simp only [wordAt, List.getD_eq_getElem?_getD, List.getElem?_set_ne hhi, List.getElem?_set_ne hlo]

end TriFusion.Library.Words
