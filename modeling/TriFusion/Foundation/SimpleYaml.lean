import TriFusion.Foundation.Files
import TriFusion.Foundation.Scalars

namespace TriFusion.Foundation

/-- `std::unordered_map<std::string, std::string>` as its assignments, newest first;
`List.lookup` is its `find`. -/
abbrev FlatConfig := List (Text × Text)

/-- The lines `std::getline` takes from a stream: a last piece without a line
end counts only when it has a character. -/
def getlines (text : Text) : List Text :=
  if (text.splitOn '\n').getLast? = some [] then (text.splitOn '\n').dropLast
  else text.splitOn '\n'

/-- The loop over the leading spaces of a line, which runs up to an `int`. -/
def countIndent (size : ℤ) : ℤ → Text → ℤ
  | indent, c :: rest =>
    if indent < size ∧ c = ' ' then countIndent size (indent + 1) rest else indent
  | indent, [] => indent

/-- `stack` is the vector of open sections, its last element first; `listIndex` counts the
items of the list that is being read and is an `int` where it is printed. -/
structure YamlState where
  stack : List (ℤ × Text) := []
  listIndex : ℕ := 0
  out : FlatConfig := []

def joinSections (stack : List (ℤ × Text)) : Text :=
  List.intercalate ['.'] (stack.reverse.map Prod.snd)

def stripComment (line : Text) : Text := line.takeWhile (· != '#')

/-- The body of the loop of `parseSimpleYaml`. -/
def YamlState.readLine (s : YamlState) (rawLine : Text) : YamlState :=
  let line := stripComment rawLine
  if Str.trim line = [] then s
  else
    let indent := countIndent (intOfSize line.length) 0 line
    let t := Str.trim line
    let stack := s.stack.dropWhile fun frame ↦ decide (indent ≤ frame.1)
    let sections := joinSections stack
    if Str.startsWith t "- " then
      { stack := stack
        listIndex := s.listIndex + 1
        out := (sections ++ '.' :: signedDecimal (intOfSize s.listIndex), Str.trim (t.drop 2)) ::
          s.out }
    else if ':' ∉ t then { stack := stack, listIndex := 0, out := s.out }
    else
      let key := Str.trim (t.takeWhile (· != ':'))
      let value := Str.trim ((t.dropWhile (· != ':')).drop 1)
      if value = [] then { stack := (indent, key) :: stack, listIndex := 0, out := s.out }
      else
        let full := if sections = [] then key else sections ++ '.' :: key
        { stack := stack, listIndex := 0, out := (full, value) :: s.out }

def parseYamlText (text : Text) : FlatConfig :=
  ((getlines text).foldl YamlState.readLine {}).out

def parseSimpleYaml {ω : Type} (io : FileIo ω) (path : Text) (w : ω) : Result FlatConfig :=
  match io.readText path w with
  | .error e => Result.rethrow e
  | .ok text => .ok (parseYamlText text)

theorem mem_trim {s : Text} {c : Char} (h : c ∈ Str.trim s) : c ∈ s := by
  unfold Str.trim at h
  have h₁ := List.mem_reverse.mp h
  have h₂ := (List.dropWhile_sublist _).subset h₁
  exact (List.dropWhile_sublist _).subset (List.mem_reverse.mp h₂)

theorem mem_unquote {s : Text} {c : Char} (h : c ∈ Str.unquote s) : c ∈ s := by
  unfold Str.unquote at h
  dsimp only at h
  split at h
  · exact mem_trim (List.mem_of_mem_drop (List.mem_of_mem_take h))
  · exact mem_trim h

theorem not_mem_stripComment (line : Text) : '#' ∉ stripComment line := by
  intro h
  exact absurd (List.mem_takeWhile_imp h) (by decide)

theorem mem_of_mem_stripComment {line : Text} {c : Char} (h : c ∈ stripComment line) : c ∈ line :=
  (List.takeWhile_sublist _).subset h

theorem not_mem_of_mem_splitOn {α : Type} [BEq α] [LawfulBEq α] {a : α} {xs piece : List α}
    (h : piece ∈ xs.splitOn a) : a ∉ piece := by
  induction xs generalizing piece with
  | nil =>
    rw [List.splitOn_nil, List.mem_singleton] at h
    simp [h]
  | cons x xs ih =>
    rw [List.splitOn_cons_eq_if_modifyHead] at h
    split at h
    · rcases List.mem_cons.mp h with rfl | h
      · exact List.not_mem_nil
      · exact ih h
    · rename_i hx
      cases hp : xs.splitOn a with
      | nil => exact absurd hp (List.splitOn_ne_nil a xs)
      | cons first rest =>
        rw [hp] at h ih
        rcases List.mem_cons.mp h with rfl | h
        · intro ha
          rcases List.mem_cons.mp ha with rfl | ha
          · exact hx (by simp)
          · exact ih List.mem_cons_self ha
        · exact ih (List.mem_cons_of_mem _ h)

theorem not_mem_of_mem_getlines {text line : Text} (h : line ∈ getlines text) : '\n' ∉ line := by
  unfold getlines at h
  split at h
  · exact not_mem_of_mem_splitOn ((List.dropLast_sublist _).subset h)
  · exact not_mem_of_mem_splitOn h

def Plain (s : Text) : Prop := '#' ∉ s ∧ '\n' ∉ s

instance (s : Text) : Decidable (Plain s) := inferInstanceAs (Decidable (_ ∧ _))

theorem readLine_plain {s : YamlState} (hs : ∀ entry ∈ s.out, Plain entry.2) {line : Text}
    (hl : '\n' ∉ line) : ∀ entry ∈ (s.readLine line).out, Plain entry.2 := by
  have hp : ∀ v : Text, v ⊆ Str.trim (stripComment line) → Plain (Str.trim v) := by
    intro v hv
    exact ⟨fun h ↦ not_mem_stripComment line (mem_trim (hv (mem_trim h))),
      fun h ↦ hl (mem_of_mem_stripComment (mem_trim (hv (mem_trim h))))⟩
  have ha : ∀ key v : Text, v ⊆ Str.trim (stripComment line) →
      ∀ entry ∈ (key, Str.trim v) :: s.out, Plain entry.2 := by
    intro key v hv entry he
    rcases List.mem_cons.mp he with rfl | he
    · exact hp v hv
    · exact hs entry he
  unfold YamlState.readLine
  dsimp only
  split
  · exact hs
  split
  · exact ha _ _ (List.drop_subset _ _)
  split
  · exact hs
  split
  · exact hs
  · exact ha _ _ fun c hc ↦ (List.dropWhile_sublist _).subset (List.mem_of_mem_drop hc)

theorem parseYamlText_plain (text : Text) : ∀ entry ∈ parseYamlText text, Plain entry.2 := by
  have run : ∀ (lines : List Text) (s : YamlState), (∀ line ∈ lines, '\n' ∉ line) →
      (∀ entry ∈ s.out, Plain entry.2) →
      ∀ entry ∈ (lines.foldl YamlState.readLine s).out, Plain entry.2 := by
    intro lines
    induction lines with
    | nil => exact fun s _ hs ↦ hs
    | cons line lines ih =>
      intro s hl hs
      exact ih (s.readLine line) (fun l h ↦ hl l (List.mem_cons_of_mem _ h))
        (readLine_plain hs (hl line List.mem_cons_self))
  exact run _ {} (fun _ h ↦ not_mem_of_mem_getlines h) (by simp)

end TriFusion.Foundation
