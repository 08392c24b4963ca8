import Mathlib.Algebra.Group.Int.Defs
import Mathlib.Algebra.Group.Nat.Defs
import Mathlib.Data.List.Basic
import Mathlib.Data.Int.Basic

namespace TriFusion.Foundation

/-- A `std::string`, one character a byte. -/
abbrev Text := List Char

instance : Coe String Text := ⟨String.toList⟩

instance : LawfulBEq Text := inferInstance

/-- `std::isspace` in the C locale. -/
def isSpace (c : Char) : Bool :=
  c == ' ' || c == '\t' || c == '\n' || c == '\x0b' || c == '\x0c' || c == '\r'

def toLower (c : Char) : Char :=
  if 'A' ≤ c ∧ c ≤ 'Z' then Char.ofNat (c.toNat + 32) else c

def toUpper (c : Char) : Char :=
  if 'a' ≤ c ∧ c ≤ 'z' then Char.ofNat (c.toNat - 32) else c

def lower (s : Text) : Text := s.map toLower

def upper (s : Text) : Text := s.map toUpper

namespace Str

def trim (s : Text) : Text :=
  ((s.dropWhile isSpace).reverse.dropWhile isSpace).reverse

def startsWith (s pre : Text) : Bool := pre.isPrefixOf s

def unquote (s : Text) : Text :=
  let t := trim s
  if 2 ≤ t.length ∧ (t.head? = some '"' ∧ t.getLast? = some '"' ∨
      t.head? = some '\'' ∧ t.getLast? = some '\'') then
    (t.drop 1).take (t.length - 2)
  else t

end Str

/-- The `normalize` that the enumeration readers share: separators are dropped
and letters raised. -/
def normalize (s : Text) : Text :=
  upper (s.filter fun c ↦ !(isSpace c || c == '_' || c == '-' || c == '.'))

/-- `std::to_string` of an unsigned value. -/
def decimal (n : ℕ) : Text := Nat.toDigits 10 n

def signedDecimal (n : ℤ) : Text :=
  match n with
  | .ofNat n => decimal n
  | .negSucc n => '-' :: decimal (n + 1)

def upperHex (n : ℕ) : Text := upper (Nat.toDigits 16 n)

def hexByte (b : UInt8) : Text :=
  upper [Nat.digitChar (b.toNat / 16), Nat.digitChar (b.toNat % 16)]

def toHex (data : List UInt8) : Text := List.intercalate [' '] (data.map hexByte)

end TriFusion.Foundation
