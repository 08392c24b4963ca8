import TriFusion.Foundation.YamlOutline
import Mathlib.Order.MinMax

namespace TriFusion.Foundation

open TriFusion.Library Outline

structure YamlScalar where
  text : Text
  gap : Bool := false

def lineItem (line : Line ℕ Text YamlScalar) : YamlItem :=
  ⟨line.indent, line.key, line.value.map YamlScalar.text⟩

def lineRows (line : Line ℕ Text YamlScalar) : YamlDocument :=
  if line.value.any YamlScalar.gap then [some (lineItem line), none] else [some (lineItem line)]

abbrev YamlLayout := Forest ℕ Text YamlScalar

namespace YamlLayout

def document (layout : YamlLayout) : YamlDocument := layout.lines.flatMap lineRows

def text (layout : YamlLayout) : Text := layout.document.text

def writtenLine (line : Line ℕ Text YamlScalar) : Text :=
  (lineItem line).render ++ '\n' :: if line.value.any YamlScalar.gap then ['\n'] else []

theorem text_eq_lines (layout : YamlLayout) : layout.text = layout.lines.flatMap writtenLine := by
  rw [text, document, YamlDocument.text, YamlDocument.lines]
  generalize layout.lines = lines
  induction lines with
  | nil => rfl
  | cons line lines ih =>
    rw [List.flatMap_cons, List.map_append, List.flatMap_append, ih, List.flatMap_cons, lineRows,
      writtenLine]
    cases hg : line.value.any YamlScalar.gap with
    | false => simp
    | true => simp

def readBack : YamlLayout → Forest ℤ Text Text
  | .nil => .nil
  | .leaf indent key value rest =>
    .leaf (lineItem ⟨indent, key, some value⟩).readIndent key value.text (readBack rest)
  | .node indent key inner rest =>
    .node (lineItem ⟨indent, key, none⟩).readIndent key (readBack inner) (readBack rest)

theorem outline_append (first second : YamlDocument) :
    YamlDocument.outline (first ++ second) = first.outline ++ second.outline := by
  rw [YamlDocument.outline, List.reduceOption_append, List.map_append]
  rfl

theorem outline_lineRows (line : Line ℕ Text YamlScalar) :
    (lineRows line).outline = [(lineItem line).line] := by
  unfold lineRows
  split <;> rfl

theorem outline_flatMap (lines : List (Line ℕ Text YamlScalar)) :
    YamlDocument.outline (lines.flatMap lineRows) = lines.map fun line ↦ (lineItem line).line := by
  induction lines with
  | nil => rfl
  | cons line lines ih =>
    rw [List.flatMap_cons, outline_append, outline_lineRows, ih]
    rfl

theorem outline_document (layout : YamlLayout) :
    layout.document.outline = layout.readBack.lines := by
  rw [document, outline_flatMap]
  induction layout with
  | nil => rfl
  | leaf indent key value rest ih =>
    rw [Forest.lines, List.map_cons, ih]
    rfl
  | node indent key inner rest ihi ihr =>
    rw [Forest.lines, List.map_cons, List.map_append, ihi, ihr]
    rfl

/-- Sections are nested by two spaces, with values anywhere right of the section they
are in, and no name of a section is so long that its indentation is lost. -/
def Laid (outer : ℤ) (level : ℕ) : YamlLayout → Prop
  | .nil => True
  | .leaf indent key _ rest =>
    PlainKey key ∧ outer < indent ∧ indent ≤ level ∧ Laid outer level rest
  | .node indent key inner rest =>
    PlainKey key ∧ indent = level ∧ outer < level ∧ level + key.length + 1 < 2 ^ 31 ∧
      Laid level (level + 2) inner ∧ Laid outer level rest

instance decidableLaid : ∀ (outer : ℤ) (level : ℕ) (layout : YamlLayout),
    Decidable (layout.Laid outer level)
  | _, _, .nil => isTrue trivial
  | outer, level, .leaf indent key _ rest =>
    let _ := decidableLaid outer level rest
    inferInstanceAs (Decidable (PlainKey key ∧ outer < indent ∧ indent ≤ level ∧ _))
  | outer, level, .node indent key inner rest =>
    let _ := decidableLaid level (level + 2) inner
    let _ := decidableLaid outer level rest
    inferInstanceAs (Decidable (PlainKey key ∧ indent = level ∧ outer < level ∧
      level + key.length + 1 < 2 ^ 31 ∧ _ ∧ _))

theorem readIndent_heading {level : ℕ} {key : Text} (h : level + key.length + 1 < 2 ^ 31) :
    (lineItem ⟨level, key, none⟩).readIndent = level := by
  have hl : (lineItem ⟨level, key, none⟩).render.length = level + key.length + 1 := by
    simp [lineItem, YamlItem.render, YamlItem.body, Nat.add_assoc]
  rw [YamlItem.readIndent, hl, intOfSize_of_lt h]
  dsimp only [lineItem]
  omega

def sectionIndent : List (ℕ × Text) → ℤ
  | [] => -1
  | inner :: _ => inner.1

def leafItem (leaf : Leaf ℕ Text YamlScalar) : YamlItem :=
  lineItem ⟨leaf.indent, leaf.key, some leaf.value⟩

/-- The length of the line, as an `int`, still lets the reader see that it is in its section. -/
def Deep (leaf : Leaf ℕ Text YamlScalar) : Prop :=
  sectionIndent leaf.sections < intOfSize (leafItem leaf).render.length

structure Holdable (v : Text) : Prop where
  ne_nil : v ≠ []
  trimmed : Trimmed v
  plain : Plain v

variable {layout : YamlLayout} {outer : ℤ} {level : ℕ} {sections : List (ℕ × Text)}

theorem readable_lines (hl : layout.Laid outer level)
    (hv : ∀ leaf ∈ layout.leaves sections, Holdable leaf.value.text) :
    ∀ line ∈ layout.lines, (lineItem line).Readable := by
  induction layout generalizing outer level sections with
  | nil => exact fun line h ↦ absurd h List.not_mem_nil
  | leaf indent key value rest ih =>
    obtain ⟨hk, -, -, hr⟩ := hl
    rw [Forest.leaves, List.forall_mem_cons] at hv
    rw [Forest.lines, List.forall_mem_cons]
    refine ⟨⟨hk, ?_⟩, ih hr hv.2⟩
    intro v he
    obtain rfl : value.text = v := Option.some.inj he
    exact ⟨hv.1.ne_nil, hv.1.trimmed, hv.1.plain⟩
  | node indent key inner rest ihi ihr =>
    obtain ⟨hk, -, -, -, hin, hr⟩ := hl
    rw [Forest.leaves, List.forall_mem_append] at hv
    rw [Forest.lines, List.forall_mem_cons, List.forall_mem_append]
    exact ⟨⟨hk, by rintro v ⟨⟩⟩, ihi hin hv.1, ihr hr hv.2⟩

theorem readable_document (hl : layout.Laid outer level)
    (hv : ∀ leaf ∈ layout.leaves sections, Holdable leaf.value.text) :
    layout.document.Readable := by
  intro item hi
  obtain ⟨line, hm, hr⟩ := List.mem_flatMap.mp hi
  have hi : item = lineItem line := by
    unfold lineRows at hr
    split at hr
    · simpa using hr
    · simpa using hr
  exact hi ▸ readable_lines hl hv line hm

theorem nested_readBack (hl : layout.Laid outer level) (ho : sectionIndent sections = outer)
    (hd : ∀ leaf ∈ layout.leaves sections, Deep leaf) :
    layout.readBack.Nested outer level := by
  induction layout generalizing outer level sections with
  | nil => trivial
  | leaf indent key value rest ih =>
    obtain ⟨-, hi, hle, hr⟩ := hl
    rw [Forest.leaves, List.forall_mem_cons] at hd
    have hs : outer < intOfSize (lineItem ⟨indent, key, some value⟩).render.length := ho ▸ hd.1
    refine ⟨?_, ?_, ih hr ho hd.2⟩
    · rw [YamlItem.readIndent]
      exact lt_max_of_lt_right (lt_min hi hs)
    · rw [YamlItem.readIndent]
      dsimp only [lineItem]
      omega
  | node indent key inner rest ihi ihr =>
    obtain ⟨-, rfl, ho', hlen, hin, hr⟩ := hl
    rw [Forest.leaves, List.forall_mem_append] at hd
    have hinner := ihi hin rfl hd.1
    refine ⟨readIndent_heading hlen, ho', ⟨(indent + 2 : ℕ), by omega, ?_⟩, ihr hr ho hd.2⟩
    exact hinner

theorem leaves_readBack (layout : YamlLayout) (sections : List (ℕ × Text))
    (sections' : List (ℤ × Text))
    (h : sections'.map Prod.snd = sections.map Prod.snd) :
    (layout.readBack.leaves sections').map Leaf.entry =
      (layout.leaves sections).map fun leaf ↦ (path leaf.sections leaf.key, leaf.value.text) := by
  induction layout generalizing sections sections' with
  | nil => rfl
  | leaf indent key value rest ih =>
    rw [readBack, Forest.leaves, Forest.leaves, List.map_cons, List.map_cons, ih _ _ h]
    simp only [Leaf.entry, path, h]
  | node indent key inner rest ihi ihr =>
    rw [readBack, Forest.leaves, Forest.leaves, List.map_append, List.map_append, ihr _ _ h]
    rw [ihi ((indent, key) :: sections) _ (by rw [List.map_cons, List.map_cons, h])]

theorem noDot_of_laid (hl : layout.Laid outer level) (hs : ∀ frame ∈ sections, '.' ∉ frame.2) :
    ∀ leaf ∈ layout.leaves sections, ∀ name ∈ path leaf.sections leaf.key, '.' ∉ name := by
  induction layout generalizing outer level sections with
  | nil => exact fun leaf h ↦ absurd h List.not_mem_nil
  | leaf indent key value rest ih =>
    obtain ⟨hk, -, -, hr⟩ := hl
    rw [Forest.leaves, List.forall_mem_cons]
    refine ⟨?_, ih hr hs⟩
    rw [path, List.forall_mem_cons]
    refine ⟨hk.noDot, ?_⟩
    intro name hn
    obtain ⟨frame, hf, rfl⟩ := List.mem_map.mp hn
    exact hs frame hf
  | node indent key inner rest ihi ihr =>
    obtain ⟨hk, -, -, -, hin, hr⟩ := hl
    rw [Forest.leaves, List.forall_mem_append]
    refine ⟨ihi hin ?_, ihr hr hs⟩
    rw [List.forall_mem_cons]
    exact ⟨hk.noDot, hs⟩

theorem lookup_text (hl : layout.Laid (-1) 0)
    (hv : ∀ leaf ∈ layout.leaves [], Holdable leaf.value.text)
    (hd : ∀ leaf ∈ layout.leaves [], Deep leaf)
    (hp : ((layout.leaves []).map fun leaf ↦ path leaf.sections leaf.key).Nodup)
    {leaf : Leaf ℕ Text YamlScalar} (h : leaf ∈ layout.leaves []) :
    (parseYamlText layout.text).lookup (joinPath (path leaf.sections leaf.key)) =
      some leaf.value.text := by
  have he := leaves_readBack layout [] [] rfl
  have hn : path leaf.sections leaf.key ≠ [] := List.cons_ne_nil _ _
  rw [text, YamlDocument.lookup_text (readable_document hl hv) hn
    (noDot_of_laid hl (by simp) leaf h), outline_document,
    run_start_forest (nested_readBack hl rfl hd), he]
  apply lookup_of_mem
  · rw [List.map_reverse, List.map_map]
    exact List.nodup_reverse.mpr hp
  · exact List.mem_reverse.mpr (List.mem_map.mpr ⟨leaf, h, rfl⟩)

theorem readIndent_head (hl : layout.Laid outer level) :
    ∀ line ∈ layout.lines, line.value = none → (lineItem line).readIndent = line.indent := by
  induction layout generalizing outer level with
  | nil => exact fun line h ↦ absurd h List.not_mem_nil
  | leaf indent key value rest ih =>
    rw [Forest.lines, List.forall_mem_cons]
    exact ⟨by rintro ⟨⟩, ih hl.2.2.2⟩
  | node indent key inner rest ihi ihr =>
    obtain ⟨-, rfl, -, hlen, hin, hr⟩ := hl
    rw [Forest.lines, List.forall_mem_cons, List.forall_mem_append]
    exact ⟨fun _ ↦ readIndent_heading hlen, ihi hin, ihr hr⟩

theorem written_of_lookup (hl : layout.Laid (-1) 0)
    (hv : ∀ leaf ∈ layout.leaves [], Holdable leaf.value.text) {key name : Text}
    {names : List Text} (hp : ∀ part ∈ key :: name :: names, '.' ∉ part) {v : Text}
    (h : (parseYamlText layout.text).lookup (joinPath (key :: name :: names)) = some v) :
    ∃ line ∈ layout.lines, line.key = key ∧ line.value.map YamlScalar.text = some v ∧
      ∃ head ∈ layout.lines, head.value = none ∧ head.key = name ∧
        (head.indent : ℤ) < (lineItem line).readIndent := by
  have hn : key :: name :: names ≠ [] := List.cons_ne_nil _ _
  rw [text, YamlDocument.lookup_text (readable_document hl hv) hn hp] at h
  have hm : (key :: name :: names, v) ∈ (run start layout.document.outline).entries := by
    obtain ⟨before, after, he, -⟩ := List.lookup_eq_some_iff.mp h
    rw [he]
    exact List.mem_append_right _ List.mem_cons_self
  rw [document, outline_flatMap] at hm
  obtain ⟨read, hr, rfl, hval, other, ho, hnone, rfl, hlt⟩ := written_of_mem hm
  obtain ⟨line, hline, rfl⟩ := List.mem_map.mp hr
  obtain ⟨head, hhead, rfl⟩ := List.mem_map.mp ho
  have hnone := Option.map_eq_none_iff.mp hnone
  exact ⟨line, hline, rfl, hval, head, hhead, hnone, rfl, readIndent_head hl head hhead hnone ▸ hlt⟩

end YamlLayout

end TriFusion.Foundation
