import TriFusion.Foundation.SimpleYaml
import TriFusion.Library.Outline
import Mathlib.Data.Int.Order.Basic
import Mathlib.Data.List.ReduceOption

namespace TriFusion.Foundation

open TriFusion.Library

def Trimmed (s : Text) : Prop :=
  (∀ c ∈ s.head?, isSpace c = false) ∧ ∀ c ∈ s.getLast?, isSpace c = false

instance (s : Text) : Decidable (Trimmed s) :=
  @instDecidableAnd _ _ (Option.decidableForallMem _) (Option.decidableForallMem _)

theorem dropWhile_isSpace {s : Text} (h : ∀ c ∈ s.head?, isSpace c = false) :
    s.dropWhile isSpace = s := by
  cases s with
  | nil => rfl
  | cons c s => exact List.dropWhile_cons_of_neg (by simp [h c rfl])

theorem Trimmed.trim {s : Text} (h : Trimmed s) : Str.trim s = s := by
  rw [Str.trim, dropWhile_isSpace h.1, dropWhile_isSpace, List.reverse_reverse]
  rw [List.head?_reverse]
  exact h.2

theorem trim_padding (n : ℕ) (s : Text) : Str.trim (List.replicate n ' ' ++ s) = Str.trim s := by
  have hd : (List.replicate n ' ' ++ s).dropWhile isSpace = s.dropWhile isSpace := by
    induction n with
    | zero => rfl
    | succ n ih => exact ih
  rw [Str.trim, hd, Str.trim]

theorem countIndent_padding (size : ℤ) {rest : Text} (hr : rest.head? ≠ some ' ') (n : ℕ)
    (indent : ℤ) :
    countIndent size indent (List.replicate n ' ' ++ rest) =
      max indent (min (indent + n) size) := by
  induction n generalizing indent with
  | zero =>
    have hz : countIndent size indent rest = indent := by
      cases rest with
      | nil => rfl
      | cons c rest =>
        have hc : c ≠ ' ' := by simpa using hr
        rw [countIndent, if_neg (by simp [hc])]
    rw [List.replicate_zero, List.nil_append, hz]
    omega
  | succ n ih =>
    rw [List.replicate_succ, List.cons_append, countIndent]
    by_cases hs : indent < size
    · rw [if_pos ⟨hs, rfl⟩, ih]
      omega
    · rw [if_neg (by simp [hs])]
      omega

structure PlainKey (key : Text) : Prop where
  ne_nil : key ≠ []
  trimmed : Trimmed key
  plain : Plain key
  noColon : ':' ∉ key
  noDot : '.' ∉ key
  noDash : Str.startsWith key "- " = false

instance (key : Text) : Decidable (PlainKey key) :=
  decidable_of_iff
    (key ≠ [] ∧ Trimmed key ∧ Plain key ∧ ':' ∉ key ∧ '.' ∉ key ∧ Str.startsWith key "- " = false)
    ⟨fun ⟨h₁, h₂, h₃, h₄, h₅, h₆⟩ ↦ ⟨h₁, h₂, h₃, h₄, h₅, h₆⟩,
      fun h ↦ ⟨h.ne_nil, h.trimmed, h.plain, h.noColon, h.noDot, h.noDash⟩⟩

/-- A line of a document as it is written: without a value it opens a section. -/
structure YamlItem where
  indent : ℕ
  key : Text
  value : Option Text

namespace YamlItem

def body (item : YamlItem) : Text :=
  item.key ++ ':' :: (match item.value with
    | none => []
    | some v => ' ' :: v)

def render (item : YamlItem) : Text := List.replicate item.indent ' ' ++ item.body

/-- The indentation that is counted when the line is read back. -/
def readIndent (item : YamlItem) : ℤ :=
  max 0 (min item.indent (intOfSize item.render.length))

theorem lt_size_of_lt_readIndent {item : YamlItem} {n : ℕ} (h : (n : ℤ) < item.readIndent) :
    (n : ℤ) < intOfSize item.render.length := by
  unfold readIndent at h
  omega

def line (item : YamlItem) : Outline.Line ℤ Text Text := ⟨item.readIndent, item.key, item.value⟩

structure Readable (item : YamlItem) : Prop where
  key : PlainKey item.key
  value : ∀ v ∈ item.value, v ≠ [] ∧ Trimmed v ∧ Plain v

variable {item : YamlItem}

theorem Readable.body_trimmed (h : item.Readable) : Trimmed item.body := by
  obtain ⟨c, rest, hk⟩ := List.exists_cons_of_ne_nil h.key.ne_nil
  refine ⟨?_, ?_⟩
  · have ht := h.key.trimmed.1
    rw [hk] at ht
    simpa [body, hk] using ht
  · cases hv : item.value with
    | none => simp [body, hv, isSpace]
    | some v =>
      obtain ⟨hn, ht, -⟩ := h.value v hv
      have hl : item.body.getLast? = v.getLast? := by
        rw [body, hv, List.getLast?_append_of_ne_nil _ (by simp)]
        cases v with
        | nil => exact absurd rfl hn
        | cons d v => rfl
      rw [hl]
      exact ht.2

theorem Readable.body_plain (h : item.Readable) : Plain item.body := by
  have hv : ∀ c, c ∈ item.body → c ∈ item.key ∨ c = ':' ∨ c = ' ' ∨ ∃ v ∈ item.value, c ∈ v := by
    intro c hc
    rcases List.mem_append.mp hc with hc | hc
    · exact .inl hc
    · cases hi : item.value with
      | none =>
        rw [hi] at hc
        exact .inr (.inl (List.mem_singleton.mp hc))
      | some v =>
        rw [hi, List.mem_cons, List.mem_cons] at hc
        rcases hc with hc | hc | hc
        · exact .inr (.inl hc)
        · exact .inr (.inr (.inl hc))
        · exact .inr (.inr (.inr ⟨v, rfl, hc⟩))
  constructor
  · intro hc
    rcases hv _ hc with hc | hc | hc | ⟨v, hi, hc⟩
    · exact h.key.plain.1 hc
    · exact absurd hc (by decide)
    · exact absurd hc (by decide)
    · exact (h.value v hi).2.2.1 hc
  · intro hc
    rcases hv _ hc with hc | hc | hc | ⟨v, hi, hc⟩
    · exact h.key.plain.2 hc
    · exact absurd hc (by decide)
    · exact absurd hc (by decide)
    · exact (h.value v hi).2.2.2 hc

theorem Readable.render_plain (h : item.Readable) : Plain item.render := by
  have hs : ∀ c, c ≠ ' ' → c ∈ item.render → c ∈ item.body := by
    intro c hn hc
    rcases List.mem_append.mp hc with hc | hc
    · exact absurd (List.eq_of_mem_replicate hc) hn
    · exact hc
  exact ⟨fun hc ↦ h.body_plain.1 (hs _ (by decide) hc),
    fun hc ↦ h.body_plain.2 (hs _ (by decide) hc)⟩

theorem Readable.stripComment_render (h : item.Readable) :
    stripComment item.render = item.render := by
  refine List.takeWhile_eq_self_iff.mpr fun c hc ↦ ?_
  rw [bne_iff_ne]
  rintro rfl
  exact h.render_plain.1 hc

theorem Readable.trim_render (h : item.Readable) : Str.trim item.render = item.body := by
  rw [render, trim_padding, h.body_trimmed.trim]

theorem Readable.countIndent_render (h : item.Readable) :
    countIndent (intOfSize item.render.length) 0 item.render = item.readIndent := by
  have hb : item.body.head? ≠ some ' ' := by
    intro he
    exact absurd (h.body_trimmed.1 ' ' he) (by decide)
  have hc := countIndent_padding (intOfSize item.render.length) hb item.indent 0
  rw [Int.zero_add] at hc
  exact hc

theorem Readable.noDash (h : item.Readable) : Str.startsWith item.body "- " = false := by
  have hk := h.key.noDash
  obtain ⟨c, rest, he⟩ := List.exists_cons_of_ne_nil h.key.ne_nil
  rw [he] at hk
  rw [body, he]
  cases rest with
  | nil => simp [Str.startsWith, List.isPrefixOf]
  | cons d rest => simpa [Str.startsWith, List.isPrefixOf] using hk

theorem colon_mem_body (item : YamlItem) : ':' ∈ item.body := by
  simp [body]

theorem Readable.ne_colon (h : item.Readable) : ∀ c ∈ item.key, (c != ':') = true := by
  intro c hc
  rw [bne_iff_ne]
  rintro rfl
  exact h.key.noColon hc

theorem Readable.takeWhile_body (h : item.Readable) :
    item.body.takeWhile (· != ':') = item.key := by
  rw [body, List.takeWhile_append_of_pos h.ne_colon, List.takeWhile_cons_of_neg (by decide),
    List.append_nil]

theorem Readable.dropWhile_body (h : item.Readable) :
    (item.body.dropWhile (· != ':')).drop 1 =
      (match item.value with
        | none => []
        | some v => ' ' :: v) := by
  rw [body, List.dropWhile_append_of_pos h.ne_colon, List.dropWhile_cons_of_neg (by decide),
    List.drop_succ_cons, List.drop_zero]

end YamlItem

def joinPath (path : List Text) : Text := List.intercalate ['.'] path.reverse

theorem joinPath_pair (first key : Text) : joinPath [key, first] = first ++ '.' :: key := by
  simp [joinPath, List.intercalate]

theorem joinPath_triple (first second key : Text) :
    joinPath [key, second, first] = first ++ '.' :: (second ++ '.' :: key) := by
  simp [joinPath, List.intercalate]

theorem joinPath_injective {first second : List Text} (h₁ : ∀ name ∈ first, '.' ∉ name)
    (h₂ : ∀ name ∈ second, '.' ∉ name) (hn₁ : first ≠ []) (hn₂ : second ≠ [])
    (h : joinPath first = joinPath second) : first = second := by
  have hs := congrArg (List.splitOn '.') h
  rw [joinPath, joinPath,
    List.splitOn_intercalate '.' (fun l hl ↦ h₁ l (List.mem_reverse.mp hl)) (by simpa using hn₁),
    List.splitOn_intercalate '.' (fun l hl ↦ h₂ l (List.mem_reverse.mp hl)) (by simpa using hn₂)]
    at hs
  exact List.reverse_injective hs

theorem intercalate_concat (sep last : Text) {pieces : List Text} (h : pieces ≠ []) :
    List.intercalate sep (pieces ++ [last]) = List.intercalate sep pieces ++ (sep ++ last) := by
  induction pieces with
  | nil => exact absurd rfl h
  | cons piece pieces ih =>
    cases pieces with
    | nil => simp [List.intercalate_cons_cons]
    | cons next pieces =>
      have hi := ih (List.cons_ne_nil next pieces)
      rw [List.cons_append] at hi
      rw [List.cons_append, List.cons_append, List.intercalate_cons_cons,
        List.intercalate_cons_cons, hi]
      simp only [List.append_assoc]

structure Reads (s : YamlState) (o : Outline.State ℤ Text Text) : Prop where
  stack : s.stack = o.stack
  out : s.out = o.entries.map fun entry ↦ (joinPath entry.1, entry.2)
  names : ∀ frame ∈ o.stack, PlainKey frame.2
  paths : ∀ entry ∈ o.entries, entry.1 ≠ [] ∧ ∀ name ∈ entry.1, '.' ∉ name

theorem joinSections_path {stack : List (ℤ × Text)} (h : ∀ frame ∈ stack, PlainKey frame.2)
    (key : Text) :
    (if joinSections stack = [] then key else joinSections stack ++ '.' :: key) =
      joinPath (Outline.path stack key) := by
  unfold joinSections joinPath Outline.path
  rw [List.reverse_cons, ← List.map_reverse]
  have hn : ∀ frame ∈ stack.reverse, frame.2 ≠ [] :=
    fun frame hf ↦ (h frame (List.mem_reverse.mp hf)).ne_nil
  cases hs : stack.reverse with
  | nil => simp
  | cons frame rest =>
    have hj : List.intercalate ['.'] ((frame :: rest).map Prod.snd) ≠ [] := by
      rw [hs] at hn
      have hf := hn frame List.mem_cons_self
      cases rest with
      | nil => simpa using hf
      | cons next rest =>
        rw [List.map_cons, List.map_cons, List.intercalate_cons_cons]
        simp [hf]
    rw [if_neg hj, intercalate_concat _ _ (by simp)]
    rfl

theorem readLine_render {s : YamlState} {o : Outline.State ℤ Text Text} (hr : Reads s o)
    {item : YamlItem} (h : item.Readable) :
    Reads (s.readLine item.render) (Outline.step o item.line) := by
  have hb : item.body ≠ [] := List.ne_nil_of_mem item.colon_mem_body
  have hc : ∀ frame ∈ Outline.close item.readIndent o.stack, PlainKey frame.2 :=
    fun frame hf ↦ hr.names frame (Outline.close_subset _ _ hf)
  have hk : Str.trim item.key = item.key := h.key.trimmed.trim
  have hs : s.stack.dropWhile (fun frame ↦ decide (item.readIndent ≤ frame.1)) =
      Outline.close item.readIndent o.stack := by rw [hr.stack, Outline.close]
  unfold YamlState.readLine
  simp only [h.stripComment_render, h.trim_render, hb, if_false, h.countIndent_render, h.noDash,
    Bool.false_eq_true, item.colon_mem_body, not_true_eq_false, h.takeWhile_body, hk,
    h.dropWhile_body, hs, joinSections_path hc]
  cases hv : item.value with
  | none =>
    have ht : Str.trim ([] : Text) = [] := rfl
    simp only [ht, if_true, Outline.step, YamlItem.line, hv]
    refine ⟨rfl, hr.out, ?_, hr.paths⟩
    intro frame hf
    rcases List.mem_cons.mp hf with rfl | hf
    · exact h.key
    · exact hc frame hf
  | some v =>
    obtain ⟨hn, ht, -⟩ := h.value v hv
    have hp : Str.trim (' ' :: v) = v := (trim_padding 1 v).trans ht.trim
    simp only [hp, hn, if_false, Outline.step, YamlItem.line, hv]
    refine ⟨rfl, ?_, hc, ?_⟩
    · rw [hr.out, List.map_cons]
    · intro entry he
      rcases List.mem_cons.mp he with rfl | he
      · refine ⟨List.cons_ne_nil _ _, ?_⟩
        intro name hm
        rcases List.mem_cons.mp hm with rfl | hm
        · exact h.key.noDot
        · obtain ⟨frame, hf, rfl⟩ := List.mem_map.mp hm
          exact (hc frame hf).noDot
      · exact hr.paths entry he

abbrev YamlDocument := List (Option YamlItem)

namespace YamlDocument

def lines (doc : YamlDocument) : List Text :=
  doc.map fun item ↦ item.elim [] YamlItem.render

def text (doc : YamlDocument) : Text := doc.lines.flatMap (· ++ ['\n'])

def outline (doc : YamlDocument) : List (Outline.Line ℤ Text Text) :=
  doc.reduceOption.map YamlItem.line

def Readable (doc : YamlDocument) : Prop := ∀ item, some item ∈ doc → item.Readable

variable {doc : YamlDocument}

theorem Readable.lines_plain (h : doc.Readable) : ∀ line ∈ doc.lines, '\n' ∉ line := by
  intro line hl
  obtain ⟨item, hi, rfl⟩ := List.mem_map.mp hl
  cases item with
  | none => exact List.not_mem_nil
  | some item => exact (h item hi).render_plain.2

theorem getlines_flatMap {lines : List Text} (h : ∀ line ∈ lines, '\n' ∉ line) :
    getlines (lines.flatMap (· ++ ['\n'])) = lines := by
  have hs : (lines.flatMap (· ++ ['\n'])).splitOn '\n' = lines ++ [[]] := by
    induction lines with
    | nil => rfl
    | cons line lines ih =>
      rw [List.flatMap_cons, List.append_assoc, List.singleton_append,
        List.splitOn_append_cons_self_of_not_mem (h line List.mem_cons_self),
        ih fun l hl ↦ h l (List.mem_cons_of_mem _ hl), List.cons_append]
  rw [getlines, hs]
  simp

theorem reads_lines (h : doc.Readable) {s : YamlState} {o : Outline.State ℤ Text Text}
    (hr : Reads s o) :
    Reads (doc.lines.foldl YamlState.readLine s) (Outline.run o doc.outline) := by
  induction doc generalizing s o with
  | nil => exact hr
  | cons item doc ih =>
    have hd : Readable doc := fun other ho ↦ h other (List.mem_cons_of_mem _ ho)
    cases item with
    | none => exact ih hd hr
    | some item => exact ih hd (readLine_render hr (h item List.mem_cons_self))

theorem reads_text (h : doc.Readable) :
    ∃ s, parseYamlText doc.text = s.out ∧ Reads s (Outline.run Outline.start doc.outline) := by
  refine ⟨doc.lines.foldl YamlState.readLine {}, ?_, reads_lines h ⟨rfl, rfl, ?_, ?_⟩⟩
  · rw [parseYamlText, text, getlines_flatMap h.lines_plain]
  · exact fun frame hf ↦ absurd hf List.not_mem_nil
  · exact fun entry he ↦ absurd he List.not_mem_nil

/-- What the parser finds under a key of a readable document is what its
outline holds under the path. -/
theorem lookup_text (h : doc.Readable) {path : List Text} (hp : path ≠ [])
    (hd : ∀ name ∈ path, '.' ∉ name) :
    (parseYamlText doc.text).lookup (joinPath path) =
      (Outline.run Outline.start doc.outline).entries.lookup path := by
  obtain ⟨s, hs, hr⟩ := reads_text h
  rw [hs, hr.out]
  have hpaths := hr.paths
  generalize (Outline.run Outline.start doc.outline).entries = entries at hpaths
  induction entries with
  | nil => rfl
  | cons entry entries ih =>
    have he := hpaths entry List.mem_cons_self
    have hi := ih fun other ho ↦ hpaths other (List.mem_cons_of_mem _ ho)
    obtain ⟨other, value⟩ := entry
    by_cases hk : path = other
    · subst hk
      rw [List.map_cons, List.lookup_cons_self, List.lookup_cons_self]
    · have hj : joinPath path ≠ joinPath other :=
        fun hj ↦ hk (joinPath_injective hd he.2 hp he.1 hj)
      have hb : (path == other) = false := beq_eq_false_iff_ne.mpr hk
      have hbj : (joinPath path == joinPath other) = false := beq_eq_false_iff_ne.mpr hj
      rw [List.map_cons, List.lookup_cons, List.lookup_cons, hi]
      simp only [hb, hbj]

end YamlDocument

end TriFusion.Foundation
