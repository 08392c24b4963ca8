import TriFusion.Foundation.YamlLayout
import TriFusion.Protocol.ProtocolConfigLoader
import Mathlib.Data.Bool.AllAny

namespace TriFusion.Protocol

open Foundation YamlLayout

theorem holdable_of_forall {v : Text} (hn : v ≠ []) (h : ∀ c ∈ v, isSpace c = false ∧ c ≠ '#') :
    Holdable v where
  ne_nil := hn
  trimmed :=
    ⟨fun c hc ↦ (h c (List.mem_of_mem_head? hc)).1, fun c hc ↦ (h c (List.mem_of_getLast? hc)).1⟩
  plain := by
    constructor
    · intro hc
      exact (h _ hc).2 rfl
    · intro hc
      exact absurd (h _ hc).1 (by decide)

theorem trimmed_quote (s : Text) : Trimmed (quote s) := by
  constructor
  · rintro c ⟨⟩
    decide
  · intro c hc
    have hl : (quote s).getLast? = some '"' := List.getLast?_concat
    rw [hl] at hc
    obtain rfl := Option.some.inj hc
    decide

theorem holdable_quote {s : Text} (h : Plain s) : Holdable (quote s) where
  ne_nil := List.cons_ne_nil _ _
  trimmed := trimmed_quote s
  plain := by
    have hq : ∀ c, c ≠ '"' → c ∈ quote s → c ∈ s := by
      intro c hn hc
      rcases List.mem_append.mp hc with hc | hc
      · rcases List.mem_append.mp hc with hc | hc
        · exact absurd (List.mem_singleton.mp hc) hn
        · exact hc
      · exact absurd (List.mem_singleton.mp hc) hn
    exact ⟨fun hc ↦ h.1 (hq _ (by decide) hc), fun hc ↦ h.2 (hq _ (by decide) hc)⟩

theorem holdable_boolText (b : Bool) : Holdable (boolText b) := by
  apply holdable_of_forall
  · cases b <;> decide
  · have hall : (boolText b).all (fun c ↦ isSpace c = false ∧ c ≠ '#') = true := by
      cases b <;> decide
    exact List.all_iff_forall_prop.mp hall

theorem decimal_chars {n : ℕ} {c : Char} (h : c ∈ decimal n) : isSpace c = false ∧ c ≠ '#' := by
  have hd := isDigit_of_mem_decimal h
  refine ⟨not_isSpace_of_isDigit hd, ?_⟩
  rintro rfl
  exact absurd hd (by decide)

theorem holdable_portText (port : UInt16) : Holdable (portText port) :=
  holdable_of_forall (decimal_ne_nil _) fun _ hc ↦ decimal_chars hc

theorem holdable_intText (n : Int32) : Holdable (intText n) := by
  unfold intText signedDecimal
  split
  · exact holdable_of_forall (decimal_ne_nil _) fun _ hc ↦ decimal_chars hc
  · apply holdable_of_forall (List.cons_ne_nil _ _)
    rw [List.forall_mem_cons]
    exact ⟨by decide, fun _ hc ↦ decimal_chars hc⟩

theorem length_decimal_le {n : ℕ} (h : n < 10 ^ 10) : (decimal n).length ≤ 10 :=
  (Nat.length_toDigits_le_iff (by decide) (by decide)).mpr h

theorem length_boolText (b : Bool) : (boolText b).length ≤ 5 := by
  cases b <;> decide

theorem length_portText (port : UInt16) : (portText port).length ≤ 10 := by
  have h := port.toNat_lt
  exact length_decimal_le (by omega)

theorem length_intText (n : Int32) : (intText n).length ≤ 11 := by
  have hlo := n.le_toInt
  have hhi := n.toInt_lt
  unfold intText signedDecimal
  split
  · rename_i m hm
    rw [Int.ofNat_eq_natCast] at hm
    have := length_decimal_le (show m < 10 ^ 10 by omega)
    omega
  · rename_i m hm
    have hm := hm.trans (Int.negSucc_eq m)
    have := length_decimal_le (show m + 1 < 10 ^ 10 by omega)
    rw [List.length_cons]
    omega

theorem unquote_quote (s : Text) : Str.unquote (quote s) = s := by
  have hl : (quote s).getLast? = some '"' := List.getLast?_concat
  have hh : (quote s).head? = some '"' := rfl
  have hlen : (quote s).length = s.length + 2 := by simp [quote]
  unfold Str.unquote
  rw [(trimmed_quote s).trim]
  dsimp only
  rw [if_pos ⟨by omega, .inl ⟨hh, hl⟩⟩, hlen]
  exact List.take_left' rfl

theorem unquote_bare {v : Text} (h : Trimmed v) (hd : v.head? ≠ some '"')
    (hs : v.head? ≠ some '\'') : Str.unquote v = v := by
  unfold Str.unquote
  rw [h.trim]
  dsimp only
  rw [if_neg]
  rintro ⟨-, h | h⟩
  · exact hd h.1
  · exact hs h.1

theorem unquote_decimal (n : ℕ) : Str.unquote (decimal n) = decimal n := by
  have hh : ∀ c, c.isDigit = false → (decimal n).head? ≠ some c := by
    intro c hc he
    rw [isDigit_of_mem_decimal (List.mem_of_mem_head? he)] at hc
    exact nomatch hc
  exact unquote_bare (holdable_of_forall (decimal_ne_nil n) fun _ hc ↦ decimal_chars hc).trimmed
    (hh _ (by decide)) (hh _ (by decide))

theorem unquote_intText (n : Int32) : Str.unquote (intText n) = intText n := by
  have ht := (holdable_intText n).trimmed
  unfold intText signedDecimal at *
  split
  · exact unquote_decimal _
  · rename_i m hm
    rw [hm] at ht
    exact unquote_bare ht (by simp) (by simp)

theorem unquote_boolText (b : Bool) : Str.unquote (boolText b) = boolText b := by
  cases b <;> decide

variable {m : FlatConfig} {key : Text}

theorem get_of_lookup {v fallback : Text} (h : m.lookup key = some v) :
    get m key fallback = Str.unquote v := by
  rw [get, h]

theorem toInt_of_lookup {n fallback : Int32} (h : m.lookup key = some (intText n)) :
    toInt m key fallback = n := by
  rw [toInt, h]
  dsimp only
  rw [unquote_intText, intText, stoi_signedDecimal]
  rfl

theorem toBool_of_lookup {b fallback : Bool} (h : m.lookup key = some (boolText b)) :
    toBool m key fallback = b := by
  rw [toBool, get_of_lookup h, unquote_boolText]
  cases b <;> rfl

theorem toPort_of_lookup {port fallback : UInt16} (h : m.lookup key = some (portText port))
    (hp : port ≠ 0) : toPort m key fallback = port := by
  have hlt := port.toNat_lt
  have hpos : 0 < port.toNat := by
    rw [Nat.pos_iff_ne_zero]
    intro hz
    exact hp (UInt16.toNat_inj.mp hz)
  have hi : toInt m key (Int32.ofNat fallback.toNat) = Int32.ofInt port.toNat := by
    rw [toInt, h]
    dsimp only
    rw [portText, unquote_decimal, stoi_decimal (by omega)]
    rfl
  have hv : (Int32.ofInt (port.toNat : ℤ)).toInt = port.toNat :=
    Int32.toInt_ofInt_of_le (by omega) (by omega)
  unfold toPort
  dsimp only
  rw [hi, hv, if_pos, Int.toNat_natCast, UInt16.ofNat_toNat]
  exact decide_eq_true ⟨by omega, by omega⟩

theorem toPort_ne_zero {fallback : UInt16} (h : fallback ≠ 0) : toPort m key fallback ≠ 0 := by
  unfold toPort
  dsimp only
  split
  · rename_i hv
    have hv := of_decide_eq_true hv
    intro hz
    have ht := congrArg UInt16.toNat hz
    rw [UInt16.toNat_ofNat_of_lt' (by rw [UInt16.size]; omega)] at ht
    change _ = 0 at ht
    omega
  · exact h

theorem plain_unquote {v : Text} (h : Plain v) : Plain (Str.unquote v) :=
  ⟨fun hc ↦ h.1 (mem_unquote hc), fun hc ↦ h.2 (mem_unquote hc)⟩

theorem get_plain (text : Text) {fallback : Text} (h : Plain fallback) :
    Plain (get (parseYamlText text) key fallback) := by
  unfold get
  split
  · exact h
  · rename_i v hv
    obtain ⟨before, after, he, -⟩ := List.lookup_eq_some_iff.mp hv
    apply plain_unquote
    apply parseYamlText_plain text (key, v)
    rw [he]
    exact List.mem_append_right _ List.mem_cons_self

theorem toLower_upper {c : Char} (h : 'A' ≤ c ∧ c ≤ 'Z') :
    ∃ n < 26, toLower c = Char.ofNat (97 + n) := by
  have hlo : 65 ≤ c.toNat := h.1
  have hhi : c.toNat ≤ 90 := h.2
  refine ⟨c.toNat - 65, by omega, ?_⟩
  rw [toLower, if_pos h]
  congr 1
  omega

theorem lowercase_letters : ∀ n < 26, toLower (Char.ofNat (97 + n)) = Char.ofNat (97 + n) ∧
    Char.ofNat (97 + n) ≠ '#' ∧ Char.ofNat (97 + n) ≠ '\n' := by
  decide

theorem toLower_toLower (c : Char) : toLower (toLower c) = toLower c := by
  by_cases h : 'A' ≤ c ∧ c ≤ 'Z'
  · obtain ⟨n, hn, he⟩ := toLower_upper h
    rw [he, (lowercase_letters n hn).1]
  · have he : toLower c = c := if_neg h
    rw [he, he]

theorem lower_lower (s : Text) : lower (lower s) = lower s := by
  unfold lower
  rw [List.map_map]
  exact List.map_congr_left fun c _ ↦ toLower_toLower c

theorem plain_lower {s : Text} (h : Plain s) : Plain (lower s) := by
  have hc : ∀ c ∈ s, toLower c ≠ '#' ∧ toLower c ≠ '\n' := by
    intro c hc
    by_cases hu : 'A' ≤ c ∧ c ≤ 'Z'
    · obtain ⟨n, hn, he⟩ := toLower_upper hu
      rw [he]
      exact (lowercase_letters n hn).2
    · rw [toLower, if_neg hu]
      exact ⟨fun he ↦ h.1 (he ▸ hc), fun he ↦ h.2 (he ▸ hc)⟩
  constructor
  · intro hm
    obtain ⟨c, hs, he⟩ := List.mem_map.mp hm
    exact (hc c hs).1 he
  · intro hm
    obtain ⟨c, hs, he⟩ := List.mem_map.mp hm
    exact (hc c hs).2 he

end TriFusion.Protocol
