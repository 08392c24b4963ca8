import TriFusion.Foundation.Text
import Mathlib.Data.List.TakeWhile

namespace TriFusion.Foundation

/-- `static_cast<int>` of a `std::size_t`. -/
def intOfSize (n : ℕ) : ℤ := (n : ℤ).bmod (2 ^ 32)

theorem intOfSize_of_lt {n : ℕ} (h : n < 2 ^ 31) : intOfSize n = n := by
  unfold intOfSize
  apply Int.bmod_eq_of_le
  · omega
  · omega

/-- `std::stoi`, none where it throws: spaces, a sign and digits are read, and
what follows the digits is not looked at. -/
def stoi (s : Text) : Option Int32 :=
  let t := s.dropWhile isSpace
  let unsigned := if t.head? = some '-' ∨ t.head? = some '+' then t.drop 1 else t
  let digits := unsigned.takeWhile Char.isDigit
  if digits = [] then none
  else
    let n : ℤ := Nat.ofDigitChars 10 digits 0
    let v := if t.head? = some '-' then -n else n
    if -2 ^ 31 ≤ v ∧ v < 2 ^ 31 then some (Int32.ofInt v) else none

def isValidPort (port : ℤ) : Bool := decide (0 < port ∧ port ≤ 65535)

theorem takeWhile_before {c : Char} {before : Text} (h : c ∉ before) (rest : Text) :
    (before ++ c :: rest).takeWhile (· ≠ c) = before := by
  rw [List.takeWhile_append_of_pos fun c' hc ↦ decide_eq_true (ne_of_mem_of_not_mem hc h),
    List.takeWhile_cons_of_neg (by simp), List.append_nil]

theorem drop_before (c : Char) (before rest : Text) :
    (before ++ c :: rest).drop (before.length + 1) = rest := by
  rw [List.append_cons, ← List.length_singleton, ← List.length_append, List.drop_left]

theorem decimal_ne_nil (n : ℕ) : decimal n ≠ [] := Nat.toDigits_ne_nil

theorem decimal_injective : Function.Injective decimal := by
  intro a b h
  have ha : Nat.ofDigitChars 10 (decimal a) 0 = a := Nat.ofDigitChars_ten_toDigits
  have hb : Nat.ofDigitChars 10 (decimal b) 0 = b := Nat.ofDigitChars_ten_toDigits
  rw [← ha, ← hb, h]

theorem isDigit_of_mem_decimal {n : ℕ} {c : Char} (h : c ∈ decimal n) : c.isDigit = true :=
  Nat.isDigit_of_mem_toDigits (by decide) le_rfl h

theorem takeWhile_decimal (n : ℕ) : (decimal n).takeWhile Char.isDigit = decimal n :=
  List.takeWhile_eq_self_iff.mpr fun _ hc ↦ isDigit_of_mem_decimal hc

theorem not_isSpace_of_isDigit {c : Char} (h : c.isDigit = true) : isSpace c = false := by
  cases hs : isSpace c with
  | false => rfl
  | true =>
    simp only [isSpace, Bool.or_eq_true, beq_iff_eq] at hs
    rcases hs with ((((rfl | rfl) | rfl) | rfl) | rfl) | rfl <;> revert h <;> decide

theorem stoi_decimal {n : ℕ} (h : n < 2 ^ 31) : stoi (decimal n) = some (Int32.ofInt n) := by
  obtain ⟨c, rest, hd⟩ := List.exists_cons_of_ne_nil (decimal_ne_nil n)
  have hc : c.isDigit = true := isDigit_of_mem_decimal (by rw [hd]; exact List.mem_cons_self)
  have hs : (decimal n).dropWhile isSpace = decimal n := by
    rw [hd, List.dropWhile_cons_of_neg (by rw [not_isSpace_of_isDigit hc]; decide)]
  have hm : ¬ (decimal n).head? = some '-' := by
    rw [hd]
    rintro ⟨⟩
    exact absurd hc (by decide)
  have hp : ¬ (decimal n).head? = some '+' := by
    rw [hd]
    rintro ⟨⟩
    exact absurd hc (by decide)
  have hv : Nat.ofDigitChars 10 (decimal n) 0 = n := Nat.ofDigitChars_ten_toDigits
  simp only [stoi, hs, hm, hp, or_self, if_false, takeWhile_decimal, decimal_ne_nil, hv]
  rw [if_pos (by omega)]

theorem stoi_minus_decimal {n : ℕ} (h : n ≤ 2 ^ 31) :
    stoi ('-' :: decimal n) = some (Int32.ofInt (-n)) := by
  have hs : ('-' :: decimal n).dropWhile isSpace = '-' :: decimal n :=
    List.dropWhile_cons_of_neg (by decide)
  have hv : Nat.ofDigitChars 10 (decimal n) 0 = n := Nat.ofDigitChars_ten_toDigits
  simp only [stoi, hs, List.head?_cons, true_or, if_true, List.drop_succ_cons, List.drop_zero,
    takeWhile_decimal, decimal_ne_nil, if_false, hv]
  rw [if_pos (by omega)]

theorem stoi_signedDecimal (n : Int32) : stoi (signedDecimal n.toInt) = some n := by
  have hlo := n.le_toInt
  have hhi := n.toInt_lt
  cases hn : n.toInt with
  | ofNat m =>
    rw [Int.ofNat_eq_natCast] at hn
    rw [signedDecimal, stoi_decimal (by omega), ← hn, Int32.ofInt_toInt]
  | negSucc m =>
    have hm : n.toInt = -((m + 1 : ℕ) : ℤ) := hn.trans (Int.negSucc_eq m)
    rw [signedDecimal, stoi_minus_decimal (by omega), ← hm, Int32.ofInt_toInt]

end TriFusion.Foundation
