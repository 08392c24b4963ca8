import TriFusion.Foundation.ConfigManager
import TriFusion.Foundation.YamlOutline
import TriFusion.Protocol.ProtocolConfigLoader

namespace TriFusion.Foundation

theorem exists_trim (s : Text) :
    ∃ tail, s.dropWhile isSpace = Str.trim s ++ tail ∧ ∀ c ∈ tail, isSpace c = true := by
  refine ⟨((s.dropWhile isSpace).reverse.takeWhile isSpace).reverse, ?_, ?_⟩
  · rw [Str.trim, ← List.reverse_append, List.takeWhile_append_dropWhile, List.reverse_reverse]
  · intro c hc
    exact List.mem_takeWhile_imp (List.mem_reverse.mp hc)

theorem head?_trim (s : Text) : ∀ c ∈ (Str.trim s).head?, isSpace c = false := by
  intro c hc
  obtain ⟨tail, hs, -⟩ := exists_trim s
  have hd : (s.dropWhile isSpace).head? = some c := by
    rw [hs, List.head?_append, hc]
    rfl
  have hn := List.head?_dropWhile_not isSpace s
  rw [hd] at hn
  simpa using hn

theorem takeWhile_isDigit_append {s tail : Text} (h : ∀ c ∈ tail, isSpace c = true) :
    (s ++ tail).takeWhile Char.isDigit = s.takeWhile Char.isDigit := by
  have ht : tail.takeWhile Char.isDigit = [] := by
    cases tail with
    | nil => rfl
    | cons c tail =>
      refine List.takeWhile_cons_of_neg fun hd ↦ ?_
      have hs := h c List.mem_cons_self
      rw [not_isSpace_of_isDigit hd] at hs
      cases hs
  rw [List.takeWhile_append]
  split
  · rename_i hl
    rw [ht, List.append_nil, (List.takeWhile_prefix _).eq_of_length hl]
  · rfl

theorem stoi_trim (s : Text) : stoi (Str.trim s) = stoi s := by
  obtain ⟨tail, hs, htail⟩ := exists_trim s
  have ht : (Str.trim s).dropWhile isSpace = Str.trim s := dropWhile_isSpace (head?_trim s)
  have hn := List.head?_dropWhile_not isSpace s
  unfold stoi
  rw [ht, hs]
  rw [hs] at hn
  cases htrim : Str.trim s with
  | nil =>
    cases tail with
    | nil => rfl
    | cons c tail =>
      rw [htrim] at hn
      have hc : isSpace c = false := by simpa using hn
      rw [htail c List.mem_cons_self] at hc
      cases hc
  | cons c rest =>
    have hdigits : (if c = '-' ∨ c = '+' then rest else c :: rest).takeWhile Char.isDigit =
        (if c = '-' ∨ c = '+' then rest ++ tail else c :: (rest ++ tail)).takeWhile
          Char.isDigit := by
      split
      · exact (takeWhile_isDigit_append htail).symm
      · exact (takeWhile_isDigit_append (s := c :: rest) htail).symm
    simp only [List.cons_append, List.head?_cons, Option.some.injEq, List.drop_succ_cons,
      List.drop_zero, hdigits]

theorem stoi_quote {s : Text} {q : Char} (hq : q = '"' ∨ q = '\'')
    (h : (Str.trim s).head? = some q) : stoi s = none := by
  obtain ⟨rest, hs⟩ := List.head?_eq_some_iff.mp h
  have hd : (q :: rest).dropWhile isSpace = q :: rest := by
    rw [← hs]
    exact dropWhile_isSpace (head?_trim s)
  rw [← stoi_trim, hs]
  unfold stoi
  rw [hd]
  rcases hq with rfl | rfl <;> rfl

theorem unquote_cases (s : Text) :
    Str.unquote s = Str.trim s ∨
      ∃ q, (q = '"' ∨ q = '\'') ∧ Str.trim s = q :: (Str.unquote s ++ [q]) := by
  unfold Str.unquote
  dsimp only
  split
  · rename_i hq
    obtain ⟨hlen, hq⟩ := hq
    have hends : ∃ q, (q = '"' ∨ q = '\'') ∧ (Str.trim s).head? = some q ∧
        (Str.trim s).getLast? = some q := by
      rcases hq with h | h
      · exact ⟨_, .inl rfl, h⟩
      · exact ⟨_, .inr rfl, h⟩
    obtain ⟨q, hq, hfirst, hlast⟩ := hends
    refine .inr ⟨q, hq, ?_⟩
    obtain ⟨rest, hs⟩ := List.head?_eq_some_iff.mp hfirst
    rw [hs] at hlen hlast ⊢
    have hne : rest ≠ [] := by
      rintro rfl
      simp at hlen
    rw [List.getLast?_cons_of_ne_nil hne] at hlast
    obtain ⟨inner, rfl⟩ := List.getLast?_eq_some_iff.mp hlast
    have htake : (inner ++ [q]).take inner.length = inner := List.take_left
    simp only [List.length_cons, List.length_append, List.length_nil, List.drop_succ_cons,
      List.drop_zero]
    rw [show inner.length + (0 + 1) + 1 - 2 = inner.length by omega, htake]
  · exact .inl rfl

end TriFusion.Foundation

namespace TriFusion.Protocol

open Foundation

def boolWords : Bool → List Text
  | true => ["true", "1", "yes", "on"]
  | false => ["false", "0", "no", "off"]

/-- The quotation marks of the text, if it has any, hide neither a number nor a
boolean that would not be the fallback anyway. -/
def HidesNothing (v : Text) (n : Int32) (b : Bool) : Prop :=
  Str.unquote v = Str.trim v ∨
    (∀ m, stoi (Str.unquote v) = some m → m = n) ∧ lower (Str.unquote v) ∉ boolWords !b

variable {cfg : FlatConfig} {key v : Text}

def wordValue (s : Text) (fallback : Bool) : Bool :=
  if s ∈ boolWords true then true else if s ∈ boolWords false then false else fallback

theorem mem_boolWords {s : Text} (b : Bool) : s ∈ boolWords b ↔
    if b then s = "true" ∨ s = "1" ∨ s = "yes" ∨ s = "on"
    else s = "false" ∨ s = "0" ∨ s = "no" ∨ s = "off" := by
  cases b <;> simp [boolWords]

theorem getBool_eq (h : cfg.lookup key = some v) (fallback : Bool) :
    ConfigManager.getBool cfg key fallback = wordValue (lower (Str.trim v)) fallback := by
  unfold ConfigManager.getBool Str.toBool wordValue
  rw [h]
  simp only [mem_boolWords, if_true, Bool.false_eq_true, if_false]

theorem toBool_eq (h : cfg.lookup key = some v) (fallback : Bool) :
    toBool cfg key fallback = wordValue (lower (Str.unquote v)) fallback := by
  unfold toBool get wordValue
  rw [h]
  simp only [mem_boolWords, if_true, Bool.false_eq_true, if_false]

theorem wordValue_eq_fallback {s : Text} {fallback : Bool} :
    wordValue s fallback = fallback ↔ s ∉ boolWords !fallback := by
  unfold wordValue
  cases fallback with
  | true =>
    split
    · rename_i hs
      have hne : s ∉ boolWords false := by
        intro hf
        rw [mem_boolWords] at hs hf
        rcases hs with rfl | rfl | rfl | rfl <;> revert hf <;> decide
      exact iff_of_true rfl hne
    · split
      · rename_i hs
        exact iff_of_false Bool.false_ne_true fun hn ↦ hn hs
      · rename_i hs
        exact iff_of_true rfl hs
  | false =>
    split
    · rename_i hs
      exact iff_of_false (Ne.symm Bool.false_ne_true) fun hn ↦ hn hs
    · rename_i hs
      exact iff_of_true (by split <;> rfl) hs

theorem configToInt_eq (h : cfg.lookup key = some v) (fallback : Int32) :
    ConfigManager.toInt cfg key fallback = (stoi (Str.trim v)).getD fallback := by
  unfold ConfigManager.toInt
  rw [h, stoi_trim]
  dsimp only
  split
  · rename_i hv
    rw [hv]
    rfl
  · rfl

theorem readers_of_missing (h : cfg.lookup key = none) (n : Int32) (b : Bool) :
    ConfigManager.toInt cfg key n = toInt cfg key n ∧
      ConfigManager.getBool cfg key b = toBool cfg key b := by
  unfold ConfigManager.toInt ConfigManager.getBool toInt toBool get
  rw [h]
  refine ⟨rfl, ?_⟩
  cases b <;> decide

theorem readers_of_quoted {q : Char} (hq : q = '"' ∨ q = '\'')
    (hv : Str.trim v = q :: (Str.unquote v ++ [q])) (b : Bool) :
    stoi (Str.trim v) = none ∧ wordValue (lower (Str.trim v)) b = b := by
  have hhead : (Str.trim v).head? = some q := by
    rw [hv]
    rfl
  constructor
  · rw [stoi_trim]
    exact stoi_quote hq hhead
  · rw [wordValue_eq_fallback, hv, mem_boolWords]
    rcases hq with rfl | rfl <;> cases b <;> simp [lower, toLower]

/-- The two pairs of readers agree on a key, whatever the fallbacks, unless they
come upon a quoted number or boolean. -/
theorem readers_agree_iff (cfg : FlatConfig) (key : Text) (n : Int32) (b : Bool) :
    (ConfigManager.toInt cfg key n = toInt cfg key n ∧
        ConfigManager.getBool cfg key b = toBool cfg key b) ↔
      ∀ v, cfg.lookup key = some v → HidesNothing v n b := by
  cases hl : cfg.lookup key with
  | none => exact iff_of_true (readers_of_missing hl n b) fun v hv ↦ by cases hv
  | some v =>
    have hloader : toInt cfg key n = (stoi (Str.unquote v)).getD n := by rw [toInt, hl]
    rw [configToInt_eq hl, hloader, getBool_eq hl, toBool_eq hl]
    simp only [Option.some.injEq, forall_eq']
    rcases unquote_cases v with hbare | ⟨q, hq, hv⟩
    · rw [hbare]
      exact iff_of_true ⟨rfl, rfl⟩ (.inl hbare)
    · obtain ⟨hint, hword⟩ := readers_of_quoted hq hv b
      have hne : Str.unquote v ≠ Str.trim v := by
        intro heq
        have hlen := congrArg List.length (heq.trans hv)
        simp only [List.length_cons, List.length_append, List.length_nil] at hlen
        omega
      rw [hint, hword, eq_comm (a := b), wordValue_eq_fallback, Option.getD_none]
      refine and_congr ?_ Iff.rfl |>.trans (or_iff_right hne).symm
      cases stoi (Str.unquote v) with
      | none => simp
      | some m => simp [eq_comm]

theorem readers_disagree_quoted :
    let cfg := parseYamlText "fps: \"30\""
    ¬(ConfigManager.toInt cfg "fps" 25 = toInt cfg "fps" 25 ∧
      ConfigManager.getBool cfg "fps" true = toBool cfg "fps" true) := by
  decide +kernel

end TriFusion.Protocol
