import TriFusion.Foundation.YamlLayout

namespace TriFusion.Foundation

open TriFusion.Library
open YamlLayout (Holdable)

def Blanks (s : Text) : Prop := ∀ c ∈ s, isSpace c = true ∧ c ≠ '\n'

instance (s : Text) : Decidable (Blanks s) := List.decidableBAll _ s

/-- What may stand at the end of a line, or be a line of its own: blanks and a comment. -/
def Ending (s : Text) : Prop :=
  ∃ blanks comment, s = blanks ++ comment ∧ Blanks blanks ∧ '\n' ∉ comment ∧
    (comment = [] ∨ comment.head? = some '#')

def Writes (indent : ℕ) (body line : Text) : Prop :=
  ∃ ending, Ending ending ∧ line = List.replicate indent ' ' ++ (body ++ ending)

def leadingSpaces (s : Text) : ℕ := (s.takeWhile (· == ' ')).length

/-- A line without anything to read, or one whose length, up to a comment and as an `int`,
does not fall short of the spaces it starts with. -/
def Kept (line : Text) : Prop :=
  Str.trim (stripComment line) = [] ∨
    (leadingSpaces (stripComment line) : ℤ) ≤ max 0 (intOfSize (stripComment line).length)

instance (line : Text) : Decidable (Kept line) := inferInstanceAs (Decidable (_ ∨ _))

theorem kept_of_lt {line : Text} (h : (stripComment line).length < 2 ^ 31) : Kept line := by
  refine .inr ?_
  have hle : leadingSpaces (stripComment line) ≤ (stripComment line).length :=
    (List.takeWhile_sublist _).length_le
  rw [intOfSize_of_lt h]
  omega

theorem Ending.nil : Ending [] := ⟨[], [], rfl, by decide, by decide, .inl rfl⟩

theorem Writes.bare (indent : ℕ) (body : Text) :
    Writes indent body (List.replicate indent ' ' ++ body) :=
  ⟨[], .nil, by rw [List.append_nil]⟩

section Lines

variable {s : YamlState} {body ending line : Text} {indent : ℕ}

theorem stripComment_append {first : Text} (h : '#' ∉ first) (second : Text) :
    stripComment (first ++ second) = first ++ stripComment second := by
  unfold stripComment
  apply List.takeWhile_append_of_pos
  intro c hc
  rw [bne_iff_ne]
  rintro rfl
  exact h hc

theorem Blanks.noComment {blanks : Text} (h : Blanks blanks) : '#' ∉ blanks := by
  intro hc
  exact absurd (h '#' hc).1 (by decide)

theorem Ending.strip (h : Ending ending) :
    ∃ blanks, Blanks blanks ∧ stripComment ending = blanks := by
  obtain ⟨blanks, comment, rfl, hb, -, hc⟩ := h
  refine ⟨blanks, hb, ?_⟩
  have hcomment : stripComment comment = [] := by
    rcases hc with rfl | hc
    · rfl
    · obtain ⟨rest, rfl⟩ := List.head?_eq_some_iff.mp hc
      rfl
  rw [stripComment_append hb.noComment, hcomment, List.append_nil]

theorem dropWhile_blanks {blanks : Text} (h : Blanks blanks) : blanks.dropWhile isSpace = [] :=
  List.dropWhile_eq_nil_iff.mpr fun c hc ↦ (h c hc).1

theorem Blanks.reverse {blanks : Text} (h : Blanks blanks) : Blanks blanks.reverse :=
  fun c hc ↦ h c (List.mem_reverse.mp hc)

theorem trim_blanks {blanks : Text} (h : Blanks blanks) : Str.trim blanks = [] := by
  unfold Str.trim
  rw [dropWhile_blanks h]
  rfl

theorem blanks_trim {blanks rest : Text} (h : Blanks blanks) :
    Str.trim (blanks ++ rest) = Str.trim rest := by
  have hd : (blanks ++ rest).dropWhile isSpace = rest.dropWhile isSpace :=
    List.dropWhile_append_of_pos fun c hc ↦ (h c hc).1
  unfold Str.trim
  rw [hd]

theorem YamlLayout.Holdable.trim_blanks (h : Holdable body) {blanks : Text} (hb : Blanks blanks) :
    Str.trim (body ++ blanks) = body := by
  have hhead : ∀ c ∈ (body ++ blanks).head?, isSpace c = false := by
    rw [List.head?_append_of_ne_nil _ h.ne_nil]
    exact h.trimmed.1
  have hlast : ∀ c ∈ body.reverse.head?, isSpace c = false := by
    rw [List.head?_reverse]
    exact h.trimmed.2
  unfold Str.trim
  rw [dropWhile_isSpace hhead, List.reverse_append,
    List.dropWhile_append_of_pos fun c hc ↦ (hb.reverse c hc).1, dropWhile_isSpace hlast,
    List.reverse_reverse]

theorem replicate_blanks (n : ℕ) : Blanks (List.replicate n ' ') := by
  intro c hc
  obtain rfl := List.eq_of_mem_replicate hc
  decide

theorem readLine_ending (h : Ending line) (s : YamlState) : s.readLine line = s := by
  obtain ⟨blanks, hb, hs⟩ := h.strip
  unfold YamlState.readLine
  rw [hs]
  dsimp only
  rw [if_pos (trim_blanks hb)]

/-- What `readLine` does once it has the indentation of a line and its text. -/
def YamlState.readBody (s : YamlState) (indent : ℤ) (t : Text) : YamlState :=
  let stack := Outline.close indent s.stack
  let sections := joinSections stack
  if Str.startsWith t "- " then
    { stack := stack
      listIndex := s.listIndex + 1
      out := (sections ++ '.' :: signedDecimal (intOfSize s.listIndex), Str.trim (t.drop 2)) ::
        s.out }
  else if ':' ∉ t then { stack := stack, listIndex := 0, out := s.out }
  else
    let key := Str.trim (t.takeWhile (· != ':'))
    let value := Str.trim ((t.dropWhile (· != ':')).drop 1)
    if value = [] then { stack := (indent, key) :: stack, listIndex := 0, out := s.out }
    else
      let full := if sections = [] then key else sections ++ '.' :: key
      { stack := stack, listIndex := 0, out := (full, value) :: s.out }

/-- The spaces such a line starts with are counted as far as its length, as an `int`, lets
the reader. -/
theorem readLine_counted (hw : Writes indent body line) (hb : Holdable body) (s : YamlState) :
    s.readLine line =
      s.readBody (max 0 (min indent (intOfSize (stripComment line).length))) body ∧
    leadingSpaces (stripComment line) = indent ∧ Str.trim (stripComment line) = body := by
  obtain ⟨ending, he, rfl⟩ := hw
  obtain ⟨blanks, hblanks, hstrip⟩ := he.strip
  have hline : stripComment (List.replicate indent ' ' ++ (body ++ ending)) =
      List.replicate indent ' ' ++ (body ++ blanks) := by
    rw [stripComment_append (replicate_blanks indent).noComment, stripComment_append hb.plain.1,
      hstrip]
  have htrim : Str.trim (List.replicate indent ' ' ++ (body ++ blanks)) = body := by
    rw [trim_padding, hb.trim_blanks hblanks]
  have hhead : (body ++ blanks).head? ≠ some ' ' := by
    rw [List.head?_append_of_ne_nil _ hb.ne_nil]
    intro hc
    exact absurd (hb.trimmed.1 ' ' hc) (by decide)
  have hspaces : leadingSpaces (List.replicate indent ' ' ++ (body ++ blanks)) = indent := by
    have hnone : (body ++ blanks).takeWhile (· == ' ') = [] := by
      cases hrest : body ++ blanks with
      | nil => rfl
      | cons c rest =>
        rw [hrest, List.head?_cons, Ne, Option.some_inj] at hhead
        exact List.takeWhile_cons_of_neg (by simpa using hhead)
    unfold leadingSpaces
    rw [List.takeWhile_append_of_pos fun c hc ↦ by rw [List.eq_of_mem_replicate hc]; rfl, hnone,
      List.append_nil, List.length_replicate]
  rw [hline]
  refine ⟨?_, hspaces, htrim⟩
  unfold YamlState.readLine
  rw [hline]
  dsimp only
  rw [htrim, countIndent_padding _ hhead, if_neg hb.ne_nil, zero_add]
  rfl

theorem readLine_writes (hw : Writes indent body line) (hb : Holdable body)
    (hs : Kept line) (s : YamlState) :
    s.readLine line = s.readBody indent body := by
  obtain ⟨hread, hspaces, htrim⟩ := readLine_counted hw hb s
  unfold Kept at hs
  rw [hspaces, htrim] at hs
  have hle := hs.resolve_left hb.ne_nil
  have hcount : max 0 (min (indent : ℤ) (intOfSize (stripComment line).length)) = indent := by
    omega
  rw [hread, hcount]

end Lines

structure KeyText (key : Text) : Prop where
  ne_nil : key ≠ []
  noSpace : ∀ c ∈ key, isSpace c = false
  noMark : ':' ∉ key ∧ '#' ∉ key ∧ '.' ∉ key
  noDash : key.head? ≠ some '-'

instance (key : Text) : Decidable (KeyText key) :=
  have : Decidable (∀ c ∈ key, isSpace c = false) := List.decidableBAll _ key
  decidable_of_iff (key ≠ [] ∧ (∀ c ∈ key, isSpace c = false) ∧
      (':' ∉ key ∧ '#' ∉ key ∧ '.' ∉ key) ∧ key.head? ≠ some '-')
    ⟨fun h ↦ ⟨h.1, h.2.1, h.2.2.1, h.2.2.2⟩, fun h ↦ ⟨h.ne_nil, h.noSpace, h.noMark, h.noDash⟩⟩

theorem KeyText.plainKey {key : Text} (h : KeyText key) : PlainKey key where
  ne_nil := h.ne_nil
  trimmed := ⟨fun c hc ↦ h.noSpace c (List.mem_of_mem_head? hc),
    fun c hc ↦ h.noSpace c (List.mem_of_mem_getLast? hc)⟩
  plain := ⟨h.noMark.2.1, fun hc ↦ absurd (h.noSpace '\n' hc) (by decide)⟩
  noColon := h.noMark.1
  noDot := h.noMark.2.2
  noDash := by
    obtain ⟨c, rest, rfl⟩ := List.exists_cons_of_ne_nil h.ne_nil
    have hc : ('-' == c) = false := by
      rw [beq_eq_false_iff_ne]
      rintro rfl
      exact h.noDash rfl
    change ('-' == c && _) = false
    rw [hc, Bool.false_and]

/-- The keys of a mapping in their order, each with a scalar, a list of scalars or a mapping. -/
inductive YamlTree
  | nil
  | scalar (key value : Text) (rest : YamlTree)
  | list (key : Text) (items : List Text) (rest : YamlTree)
  | mapping (key : Text) (inner rest : YamlTree)
  deriving DecidableEq, Repr

namespace YamlTree

def keyBody (key gap value : Text) : Text := key ++ ':' :: (gap ++ value)

def itemBody (gap value : Text) : Text := '-' :: ' ' :: (gap ++ value)

section Bodies

variable {key gap value : Text}

theorem plain_append {first second : Text} (h : Plain first) (h' : Plain second) :
    Plain (first ++ second) := by
  refine ⟨fun hc ↦ ?_, fun hc ↦ ?_⟩
  · exact (List.mem_append.mp hc).elim h.1 h'.1
  · exact (List.mem_append.mp hc).elim h.2 h'.2

theorem plain_blanks (h : Blanks gap) : Plain gap :=
  ⟨h.noComment, fun hc ↦ (h '\n' hc).2 rfl⟩

theorem holdable_between {first last : Text} (middle : Text) (hf : first ≠ []) (hl : last ≠ [])
    (hfirst : Trimmed first) (hlast : Trimmed last) (h₁ : Plain first) (h₂ : Plain middle)
    (h₃ : Plain last) : Holdable (first ++ (middle ++ last)) where
  ne_nil := List.append_ne_nil_of_left_ne_nil hf _
  trimmed := by
    refine ⟨?_, ?_⟩
    · rw [List.head?_append_of_ne_nil _ hf]
      exact hfirst.1
    · rw [← List.append_assoc, List.getLast?_append_of_ne_nil _ hl]
      exact hlast.2
  plain := plain_append h₁ (plain_append h₂ h₃)

theorem holdable_scalar (hk : KeyText key) (hg : Blanks gap) (hv : Holdable value) :
    Holdable (keyBody key gap value) :=
  holdable_between (':' :: gap) hk.ne_nil hv.ne_nil hk.plainKey.trimmed hv.trimmed
    hk.plainKey.plain (plain_append (by decide : Plain [':']) (plain_blanks hg)) hv.plain

theorem holdable_header (hk : KeyText key) : Holdable (keyBody key [] []) :=
  holdable_between [] hk.ne_nil (List.cons_ne_nil ':' []) hk.plainKey.trimmed (by decide)
    hk.plainKey.plain (by decide) (by decide)

theorem holdable_item (hg : Blanks gap) (hv : Holdable value) : Holdable (itemBody gap value) :=
  holdable_between (' ' :: gap) (List.cons_ne_nil '-' []) hv.ne_nil (by decide) hv.trimmed
    (by decide) (plain_append (by decide : Plain [' ']) (plain_blanks hg)) hv.plain

variable {s : YamlState} {line : Text} {indent : ℕ} {base : List (ℤ × Text)}

theorem startsWith_key (hk : KeyText key) :
    Str.startsWith (keyBody key gap value) "- " = false := by
  obtain ⟨c, rest, rfl⟩ := List.exists_cons_of_ne_nil hk.ne_nil
  have hc : ('-' == c) = false := by
    rw [beq_eq_false_iff_ne]
    rintro rfl
    exact hk.noDash rfl
  change ('-' == c && _) = false
  rw [hc, Bool.false_and]

theorem colon_mem_keyBody : ':' ∈ keyBody key gap value :=
  List.mem_append_right _ List.mem_cons_self

theorem KeyText.ne_colon (hk : KeyText key) : ∀ c ∈ key, (c != ':') = true := by
  intro c hc
  rw [bne_iff_ne]
  rintro rfl
  exact hk.noMark.1 hc

theorem takeWhile_keyBody (hk : KeyText key) :
    Str.trim ((keyBody key gap value).takeWhile (· != ':')) = key := by
  rw [keyBody, List.takeWhile_append_of_pos (KeyText.ne_colon hk),
    List.takeWhile_cons_of_neg (by decide), List.append_nil, hk.plainKey.trimmed.trim]

theorem dropWhile_keyBody (hk : KeyText key) :
    ((keyBody key gap value).dropWhile (· != ':')).drop 1 = gap ++ value := by
  rw [keyBody, List.dropWhile_append_of_pos (KeyText.ne_colon hk),
    List.dropWhile_cons_of_neg (by decide)]
  rfl

theorem joinSections_ne_nil {stack : List (ℤ × Text)} (h : ∀ frame ∈ stack, PlainKey frame.2)
    (hne : stack ≠ []) : joinSections stack ≠ [] := by
  intro hempty
  have hpath := joinSections_path h "x".toList
  rw [if_pos hempty] at hpath
  have hdots : ∀ name ∈ Outline.path stack "x".toList, '.' ∉ name := by
    intro name hn
    rcases List.mem_cons.mp hn with rfl | hn
    · decide
    · obtain ⟨frame, hf, rfl⟩ := List.mem_map.mp hn
      exact (h frame hf).noDot
  have hsame : ["x".toList] = Outline.path stack "x".toList :=
    joinPath_injective (by decide) hdots (List.cons_ne_nil _ _) (List.cons_ne_nil _ _) hpath
  exact hne (List.map_eq_nil_iff.mp (List.cons.inj hsame).2.symm)

theorem readBody_scalar {count : ℤ} (hk : KeyText key) (hg : Blanks gap) (hv : Holdable value)
    (hc : Outline.close count s.stack = base) (hn : ∀ frame ∈ base, PlainKey frame.2) :
    s.readBody count (keyBody key gap value) =
      { stack := base
        listIndex := 0
        out := (joinPath (key :: base.map Prod.snd), value) :: s.out } := by
  have hvalue : Str.trim (gap ++ value) = value := (blanks_trim hg).trans hv.trimmed.trim
  unfold YamlState.readBody
  dsimp only
  rw [hc, startsWith_key hk, if_neg Bool.false_ne_true, if_neg (not_not.mpr colon_mem_keyBody),
    takeWhile_keyBody hk, dropWhile_keyBody hk, hvalue, if_neg hv.ne_nil, joinSections_path hn]
  rfl

theorem readLine_scalar (hw : Writes indent (keyBody key gap value) line) (hs : Kept line)
    (hk : KeyText key) (hg : Blanks gap) (hv : Holdable value)
    (hc : Outline.close (indent : ℤ) s.stack = base) (hn : ∀ frame ∈ base, PlainKey frame.2) :
    s.readLine line =
      { stack := base
        listIndex := 0
        out := (joinPath (key :: base.map Prod.snd), value) :: s.out } := by
  rw [readLine_writes hw (holdable_scalar hk hg hv) hs]
  exact readBody_scalar hk hg hv hc hn

theorem readLine_header (hw : Writes indent (keyBody key [] []) line) (hs : Kept line)
    (hk : KeyText key) (hc : Outline.close (indent : ℤ) s.stack = base) :
    s.readLine line = { stack := ((indent : ℤ), key) :: base, listIndex := 0, out := s.out } := by
  rw [readLine_writes hw (holdable_header hk) hs]
  unfold YamlState.readBody
  dsimp only
  rw [hc, startsWith_key hk, if_neg Bool.false_ne_true, if_neg (not_not.mpr colon_mem_keyBody),
    takeWhile_keyBody hk, dropWhile_keyBody hk]
  rfl

theorem readLine_item (hw : Writes indent (itemBody gap value) line) (hs : Kept line)
    (hg : Blanks gap) (hv : Holdable value) (hc : Outline.close (indent : ℤ) s.stack = base)
    (hne : base ≠ []) (hn : ∀ frame ∈ base, PlainKey frame.2) (hi : s.listIndex < 2 ^ 31) :
    s.readLine line =
      { stack := base
        listIndex := s.listIndex + 1
        out := (joinPath (decimal s.listIndex :: base.map Prod.snd), value) :: s.out } := by
  have hstart : Str.startsWith (itemBody gap value) "- " = true := rfl
  have hdrop : (itemBody gap value).drop 2 = gap ++ value := rfl
  have hvalue : Str.trim (gap ++ value) = value := (blanks_trim hg).trans hv.trimmed.trim
  have hindex : signedDecimal (intOfSize s.listIndex) = decimal s.listIndex := by
    rw [intOfSize_of_lt hi]
    rfl
  have hpath := joinSections_path hn (decimal s.listIndex)
  rw [if_neg (joinSections_ne_nil hn hne)] at hpath
  rw [readLine_writes hw (holdable_item hg hv) hs]
  unfold YamlState.readBody
  dsimp only
  rw [hc, if_pos hstart, hdrop, hvalue, hindex, hpath]
  rfl

end Bodies

inductive ItemLines (outer : ℕ) : List Text → List Text → Prop
  | nil : ItemLines outer [] []
  | ending {line : Text} {items lines : List Text} :
    Ending line → ItemLines outer items lines → ItemLines outer items (line :: lines)
  | item {indent : ℕ} {gap value line : Text} {items lines : List Text} :
    outer < indent → Blanks gap → Writes indent (itemBody gap value) line →
      ItemLines outer items lines → ItemLines outer (value :: items) (line :: lines)

inductive Lines : ℕ → YamlTree → List Text → Prop
  | nil {indent : ℕ} : Lines indent .nil []
  | ending {indent : ℕ} {line : Text} {tree : YamlTree} {lines : List Text} :
    Ending line → Lines indent tree lines → Lines indent tree (line :: lines)
  | scalar {indent : ℕ} {key gap value line : Text} {rest : YamlTree} {lines : List Text} :
    Blanks gap → Writes indent (keyBody key gap value) line → Lines indent rest lines →
      Lines indent (.scalar key value rest) (line :: lines)
  | list {indent : ℕ} {key line : Text} {items inner : List Text} {rest : YamlTree}
      {lines : List Text} :
    Writes indent (keyBody key [] []) line → ItemLines indent items inner →
      Lines indent rest lines → Lines indent (.list key items rest) (line :: (inner ++ lines))
  | mapping {indent deeper : ℕ} {key line : Text} {tree rest : YamlTree}
      {inner lines : List Text} :
    Writes indent (keyBody key [] []) line → indent < deeper → Lines deeper tree inner →
      Lines indent rest lines → Lines indent (.mapping key tree rest) (line :: (inner ++ lines))

def keys : YamlTree → List Text
  | .nil => []
  | .scalar key _ rest => key :: keys rest
  | .list key _ rest => key :: keys rest
  | .mapping key _ rest => key :: keys rest

def WellFormed : YamlTree → Prop
  | .nil => True
  | .scalar key value rest => KeyText key ∧ key ∉ rest.keys ∧ Holdable value ∧ WellFormed rest
  | .list key items rest =>
    KeyText key ∧ key ∉ rest.keys ∧ (∀ value ∈ items, Holdable value) ∧ WellFormed rest
  | .mapping key inner rest =>
    KeyText key ∧ key ∉ rest.keys ∧ WellFormed inner ∧ WellFormed rest

/-- No list has so many items that the `int` that counts them overflows. -/
def Numbered : YamlTree → Prop
  | .nil => True
  | .scalar _ _ rest => Numbered rest
  | .list _ items rest => items.length < 2 ^ 31 ∧ Numbered rest
  | .mapping _ inner rest => Numbered inner ∧ Numbered rest

def itemEntries (outer : List Text) (first : ℕ) : List Text → List (List Text × Text)
  | [] => []
  | value :: items => (decimal first :: outer, value) :: itemEntries outer (first + 1) items

/-- The leaves of a mapping in the sections `outer`, innermost first: where each is and
what it is. -/
def entries (outer : List Text) : YamlTree → List (List Text × Text)
  | .nil => []
  | .scalar key value rest => (key :: outer, value) :: entries outer rest
  | .list key items rest => itemEntries (key :: outer) 0 items ++ entries outer rest
  | .mapping key inner rest => entries (key :: outer) inner ++ entries outer rest

def flatEntry (entry : List Text × Text) : Text × Text := (joinPath entry.1, entry.2)

def flat (tree : YamlTree) : List (Text × Text) := (tree.entries []).map flatEntry

def joinLines (lines : List Text) : Text := List.intercalate ['\n'] lines

/-- The map has exactly one entry for each leaf, from its dotted path to its scalar. -/
def Flattens (config : FlatConfig) (tree : YamlTree) : Prop :=
  (tree.flat.map Prod.fst).Nodup ∧
    ∀ key value, config.lookup key = some value ↔ (key, value) ∈ tree.flat

end YamlTree

end TriFusion.Foundation
