import TriFusion.Library.PrefixFree
import TriFusion.Protocol.JpegSafety

namespace TriFusion.Protocol

open Library Library.Words

/-! What a JPEG is made of up to its scan. -/

namespace Jpeg

def Standalone (marker : UInt8) : Prop :=
  marker = 0x01 ∨ (0xd0 ≤ marker ∧ marker ≤ 0xd7)

instance : DecidablePred Standalone := fun _ ↦ inferInstanceAs (Decidable (_ ∨ _))

def filled (fill : ℕ) (marker : UInt8) : List UInt8 := List.replicate (fill + 1) 0xff ++ [marker]

structure Segment where
  fill : ℕ
  marker : UInt8
  data : List UInt8
  ne_fill : marker ≠ 0xff
  ne_eoi : marker ≠ 0xd9
  not_standalone : ¬Standalone marker
  fits : data.length + 2 < 2 ^ 16

/-- The length of a segment counts its own two bytes. -/
def Segment.bytes (s : Segment) : List UInt8 :=
  filled s.fill s.marker ++ (wordBytes (UInt16.ofNat (s.data.length + 2)) ++ s.data)

inductive Item
  | stray (b : UInt8) (ne_fill : b ≠ 0xff)
  | standalone (fill : ℕ) (marker : UInt8) (alone : Standalone marker)
  | segment (s : Segment)

def Item.bytes : Item → List UInt8
  | .stray b _ => [b]
  | .standalone fill marker _ => filled fill marker
  | .segment s => s.bytes

def Item.marker? : Item → Option UInt8
  | .segment s => some s.marker
  | _ => none

/-- The items before the scan, and the SOS segment that ends them. -/
structure Header where
  items : List Item
  sos : Segment
  no_sos : ∀ item ∈ items, item.marker? ≠ some 0xda
  is_sos : sos.marker = 0xda

def Header.bytes (h : Header) : List UInt8 := h.items.flatMap Item.bytes ++ h.sos.bytes

def scanOf : List UInt8 → List UInt8
  | a :: b :: rest => if a = 0xff ∧ b = 0xd9 then [] else a :: scanOf (b :: rest)
  | rest => rest

theorem Standalone.ne_fill {marker : UInt8} (h : Standalone marker) : marker ≠ 0xff := by
  rintro rfl
  exact absurd h (by decide)

theorem filled_append (fill : ℕ) (marker : UInt8) (t : List UInt8) :
    filled fill marker ++ t = 0xff :: (List.replicate fill 0xff ++ marker :: t) := by
  rw [filled, List.replicate_succ, List.cons_append, List.cons_append, List.append_assoc,
    List.singleton_append]

theorem filled_inj {fill fill' : ℕ} {marker marker' : UInt8} {t t' : List UInt8}
    (hm : marker ≠ 0xff) (hm' : marker' ≠ 0xff)
    (h : filled fill marker ++ t = filled fill' marker' ++ t') :
    fill = fill' ∧ marker = marker' ∧ t = t' := by
  rw [filled_append, filled_append, List.cons.injEq] at h
  obtain ⟨-, h⟩ := h
  induction fill generalizing fill' with
  | zero =>
    cases fill' with
    | zero =>
      obtain ⟨rfl, rfl⟩ := List.cons.inj h
      exact ⟨rfl, rfl, rfl⟩
    | succ fill' => exact absurd (List.cons.inj h).1 hm
  | succ fill ih =>
    cases fill' with
    | zero => exact absurd (List.cons.inj h).1.symm hm'
    | succ fill' =>
      obtain ⟨rfl, hrest⟩ := ih (List.cons.inj h).2
      exact ⟨rfl, hrest⟩

theorem length_filled (fill : ℕ) (marker : UInt8) : (filled fill marker).length = fill + 2 := by
  rw [filled, List.length_append, List.length_replicate, List.length_singleton]

theorem length_bytes (s : Segment) : s.bytes.length = s.fill + 2 + (s.data.length + 2) := by
  rw [Segment.bytes, List.length_append, length_filled, List.length_append, length_wordBytes,
    Nat.add_comm 2]

theorem toNat_segLen (s : Segment) :
    (UInt16.ofNat (s.data.length + 2)).toNat = s.data.length + 2 := by
  rw [UInt16.toNat_ofNat']
  exact Nat.mod_eq_of_lt s.fits

theorem Segment.bytes_inj {s s' : Segment} {t t' : List UInt8}
    (h : s.bytes ++ t = s'.bytes ++ t') : s = s' ∧ t = t' := by
  simp only [bytes, List.append_assoc] at h
  obtain ⟨hfill, hmarker, h⟩ := filled_inj s.ne_fill s'.ne_fill h
  obtain ⟨hword, h⟩ := List.append_inj h rfl
  have hlen : s.data.length = s'.data.length := by
    have hn := congrArg UInt16.toNat (wordBytes_injective hword)
    rw [toNat_segLen, toNat_segLen] at hn
    exact Nat.add_right_cancel hn
  obtain ⟨hdata, ht⟩ := List.append_inj h hlen
  refine ⟨?_, ht⟩
  cases s
  cases s'
  dsimp only at hfill hmarker hdata
  subst hfill hmarker hdata
  rfl

theorem Item.bytes_prefixFree : PrefixFree Item.bytes := by
  intro a a' t t' h
  cases a with
  | stray b hb =>
    cases a' with
    | stray b' hb' =>
      obtain ⟨rfl, rfl⟩ := List.cons.inj h
      exact ⟨rfl, rfl⟩
    | standalone fill' marker' halone' =>
      rw [bytes, bytes, filled_append] at h
      exact absurd (List.cons.inj h).1 hb
    | segment s' =>
      rw [bytes, bytes, Segment.bytes, List.append_assoc, filled_append] at h
      exact absurd (List.cons.inj h).1 hb
  | standalone fill marker halone =>
    cases a' with
    | stray b' hb' =>
      rw [bytes, bytes, filled_append] at h
      exact absurd (List.cons.inj h).1.symm hb'
    | standalone fill' marker' halone' =>
      obtain ⟨rfl, rfl, rfl⟩ := filled_inj halone.ne_fill halone'.ne_fill h
      exact ⟨rfl, rfl⟩
    | segment s' =>
      rw [bytes, bytes, Segment.bytes, List.append_assoc] at h
      obtain ⟨-, rfl, -⟩ := filled_inj halone.ne_fill s'.ne_fill h
      exact absurd halone s'.not_standalone
  | segment s =>
    cases a' with
    | stray b' hb' =>
      rw [bytes, bytes, Segment.bytes, List.append_assoc, filled_append] at h
      exact absurd (List.cons.inj h).1.symm hb'
    | standalone fill' marker' halone' =>
      rw [bytes, bytes, Segment.bytes, List.append_assoc] at h
      obtain ⟨-, rfl, -⟩ := filled_inj s.ne_fill halone'.ne_fill h
      exact absurd halone' s.not_standalone
    | segment s' =>
      obtain ⟨rfl, rfl⟩ := Segment.bytes_inj h
      exact ⟨rfl, rfl⟩

/-- A JPEG has one header at most. -/
theorem Header.unambiguous {h h' : Header} {rest rest' : List UInt8}
    (he : h.bytes ++ rest = h'.bytes ++ rest') : h = h' ∧ rest = rest' := by
  have hline : h.items.flatMap Item.bytes ++ (Item.bytes (.segment h.sos) ++ rest) =
      h'.items.flatMap Item.bytes ++ (Item.bytes (.segment h'.sos) ++ rest') := by
    rw [← List.append_assoc, ← List.append_assoc]
    exact he
  have hstop : (Item.segment h.sos).marker? = some 0xda := congrArg some h.is_sos
  have hstop' : (Item.segment h'.sos).marker? = some 0xda := congrArg some h'.is_sos
  obtain ⟨hitems, hsos, hrest⟩ :=
    Item.bytes_prefixFree.unambiguous (fun item ↦ item.marker? = some 0xda) h.no_sos h'.no_sos
      hstop hstop' hline
  refine ⟨?_, hrest⟩
  cases h
  cases h'
  dsimp only at hitems hsos
  obtain rfl := Item.segment.inj hsos
  subst hitems
  rfl

end Jpeg

end TriFusion.Protocol
