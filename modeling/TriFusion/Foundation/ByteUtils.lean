import TriFusion.Library.PairSum
import TriFusion.Library.Words
import TriFusion.Foundation.Text

namespace TriFusion.Foundation.Bytes

open Library Library.Words Library.PairSum

def be16 (p : List UInt8) : UInt16 := wordAt p 0

def appendBe16 (out : List UInt8) (v : UInt16) : List UInt8 :=
  out ++ [(v >>> 8).toUInt8, (v &&& 0xff).toUInt8]

def toHex (data : List UInt8) (spaced : Bool) : Text :=
  List.intercalate (if spaced then [' '] else []) (data.map hexByte)

def sumPairs (sum : UInt32) : List UInt8 → UInt32
  | hi :: lo :: rest => sumPairs (sum + (be16 (hi :: lo :: rest)).toUInt32) rest
  | _ => sum

def checksum16 (data : List UInt8) : UInt16 :=
  let sum := sumPairs 0 data
  let sum :=
    if data.length % 2 ≠ 0 then sum + ((data.getLastD 0).toUInt16 <<< 8).toUInt32 else sum
  (sum &&& 0xffff).toUInt16

theorem appendBe16_eq (out : List UInt8) (v : UInt16) : appendBe16 out v = out ++ wordBytes v := by
  have hv : v >>> 8 &&& (0xff : UInt16) = v >>> 8 := by
    apply UInt16.toNat_inj.mp
    have hlt : v.toNat < 2 ^ 16 := v.toNat_lt
    simp only [UInt16.toNat_and, UInt16.toNat_shiftRight, UInt16.reduceToNat, Nat.reduceMod,
      Nat.shiftRight_eq_div_pow, and_byte]
    omega
  rw [appendBe16, wordBytes, hv]

theorem be16_cons (hi lo : UInt8) (rest : List UInt8) :
    (be16 (hi :: lo :: rest)).toNat = hi.toNat * 256 + lo.toNat := wordOf_toNat hi lo

theorem shifted_toNat (b : UInt8) : ((b.toUInt16 <<< 8).toUInt32).toNat = b.toNat * 256 := by
  have hb : b.toNat < 256 := b.toNat_lt
  simp only [UInt16.toNat_toUInt32, UInt16.toNat_shiftLeft, UInt8.toNat_toUInt16,
    UInt16.reduceToNat, Nat.reduceMod, Nat.shiftLeft_eq]
  omega

theorem sumPairs_toNat (sum : UInt32) (data : List UInt8) :
    (if data.length % 2 ≠ 0 then sumPairs sum data + ((data.getLastD 0).toUInt16 <<< 8).toUInt32
      else sumPairs sum data).toNat =
      (sum.toNat + pairSum 256 (data.map UInt8.toNat)) % 2 ^ 32 := by
  induction sum, data using sumPairs.induct with
  | case1 sum hi lo rest ih =>
    have hlast : (rest.length + 1 + 1) % 2 ≠ 0 →
        (hi :: lo :: rest).getLastD 0 = rest.getLastD 0 := by
      cases rest with
      | nil => simp
      | cons c rest => simp
    have hlen : (rest.length + 1 + 1) % 2 = rest.length % 2 := by omega
    have hsum : ((sum + (be16 (hi :: lo :: rest)).toUInt32).toNat +
        pairSum 256 (rest.map UInt8.toNat)) % 2 ^ 32 =
        (sum.toNat + pairSum 256 ((hi :: lo :: rest).map UInt8.toNat)) % 2 ^ 32 := by
      rw [UInt32.toNat_add, UInt16.toNat_toUInt32, be16_cons, Nat.mod_add_mod]
      simp only [List.map_cons, pairSum, Nat.add_assoc]
    rw [← hsum, ← ih, List.length_cons, List.length_cons, sumPairs]
    by_cases hodd : rest.length % 2 = 0
    · rw [if_neg (by omega), if_neg (by omega)]
    · rw [if_pos (by omega), if_pos (by omega), hlast (by omega)]
  | case2 data sum hshort =>
    rcases data with _ | ⟨b, _ | ⟨c, rest⟩⟩
    · simp [sumPairs, pairSum, Nat.mod_eq_of_lt sum.toNat_lt]
    · simp only [List.length_singleton, sumPairs, pairSum, List.map_cons, List.map_nil]
      rw [if_pos (by decide), UInt32.toNat_add, shifted_toNat]
      rfl
    · exact absurd rfl (hshort b c rest)

theorem checksum16_toNat (data : List UInt8) :
    (checksum16 data).toNat = pairSum 256 (data.map UInt8.toNat) % 2 ^ 16 := by
  have h := sumPairs_toNat 0 data
  have hmask : ∀ n : ℕ, n &&& 65535 = n % 2 ^ 16 := fun n ↦ Nat.and_two_pow_sub_one_eq_mod n 16
  rw [checksum16, UInt32.toNat_toUInt16, UInt32.toNat_and, h]
  simp only [UInt32.reduceToNat, hmask]
  norm_num

/-- The checksum sees every change of a single byte. -/
theorem checksum16_set (data : List UInt8) {i : ℕ} (b : UInt8) (hi : i < data.length)
    (h : checksum16 (data.set i b) = checksum16 data) : b = data[i] := by
  have hm := congrArg UInt16.toNat h
  rw [checksum16_toNat, checksum16_toNat, List.map_set] at hm
  have hd := pairSum_set_modEq (by decide) (data.map UInt8.toNat) (by simpa using hi)
    (by simpa using data[i].toNat_lt) b.toNat_lt hm
  apply UInt8.toNat_inj.mp
  simpa using hd

end TriFusion.Foundation.Bytes
