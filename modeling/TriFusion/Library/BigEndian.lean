import Mathlib.Data.List.Basic
import Mathlib.Tactic.Ring

namespace TriFusion.Library.BigEndian

/-- The low `width` bytes of a number, most significant first. -/
def bytes : ℕ → ℕ → List UInt8
  | 0, _ => []
  | width + 1, n => UInt8.ofNat (n / 256 ^ width) :: bytes width n

def value : List UInt8 → ℕ
  | [] => 0
  | b :: rest => b.toNat * 256 ^ rest.length + value rest

@[simp] theorem length_bytes (width n : ℕ) : (bytes width n).length = width := by
  induction width with
  | zero => rfl
  | succ width ih => simp [bytes, ih]

theorem value_bytes (width n : ℕ) : value (bytes width n) = n % 256 ^ width := by
  induction width with
  | zero => simp [bytes, value, Nat.mod_one]
  | succ width ih =>
    have hb : (UInt8.ofNat (n / 256 ^ width)).toNat = n / 256 ^ width % 256 := UInt8.toNat_ofNat'
    rw [bytes, value, ih, length_bytes, hb, pow_succ, Nat.mod_mul]
    ring

end TriFusion.Library.BigEndian
