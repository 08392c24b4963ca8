import TriFusion.Foundation.ConfigReload
import TriFusion.Foundation.YamlTree

namespace TriFusion.Foundation

open TriFusion.Library
open YamlLayout (Holdable)

namespace YamlTree

variable {outer indent : ℕ} {items lines : List Text} {tree : YamlTree}

theorem close_base {closed base : List (ℤ × Text)} (hc : ∀ frame ∈ closed, (indent : ℤ) ≤ frame.1)
    (hb : ∀ frame ∈ base, frame.1 < indent) :
    Outline.close (indent : ℤ) (closed ++ base) = base := by
  have hb : ∀ frame ∈ base, frame.1 ≤ (indent : ℤ) - 1 :=
    fun frame hf ↦ Int.le_sub_one_of_lt (hb frame hf)
  exact Outline.close_open hc hb (Int.sub_one_lt_of_le le_rfl) le_rfl

theorem foldl_itemLines (h : ItemLines outer items lines) {s : YamlState}
    (hs : ∀ line ∈ lines, Kept line) (hv : ∀ value ∈ items, Holdable value)
    (hi : s.listIndex + items.length < 2 ^ 31) (ho : s.stack ≠ [])
    (hb : ∀ frame ∈ s.stack, frame.1 ≤ outer) (hn : ∀ frame ∈ s.stack, PlainKey frame.2) :
    lines.foldl YamlState.readLine s =
      { stack := s.stack
        listIndex := s.listIndex + items.length
        out := ((itemEntries (s.stack.map Prod.snd) s.listIndex items).map flatEntry).reverse ++
          s.out } := by
  induction h generalizing s with
  | nil => rfl
  | ending he _ ih =>
    rw [List.foldl_cons, readLine_ending he]
    exact ih (fun line hl ↦ hs line (List.mem_cons_of_mem _ hl)) hv hi ho hb hn
  | @item indent gap value line items lines hdeep hg hw _ ih =>
    have hvalue := hv value List.mem_cons_self
    have hclose : Outline.close (indent : ℤ) ([] ++ s.stack) = s.stack :=
      close_base (fun _ hf ↦ absurd hf List.not_mem_nil) fun frame hf ↦
        (hb frame hf).trans_lt (Int.ofNat_lt.mpr hdeep)
    have hi' : s.listIndex < 2 ^ 31 := by
      rw [List.length_cons] at hi
      omega
    have hread := readLine_item hw (hs line List.mem_cons_self) hg hvalue hclose ho hn hi'
    rw [List.length_cons] at hi
    have hrest := ih (s := s.readLine line) (fun line hl ↦ hs line (List.mem_cons_of_mem _ hl))
      (fun value hm ↦ hv value (List.mem_cons_of_mem _ hm))
    rw [hread] at hrest
    rw [List.foldl_cons, hread, hrest (by dsimp only; omega) ho hb hn, itemEntries, List.map_cons,
      List.reverse_cons, List.append_assoc, List.length_cons, Nat.add_comm items.length 1,
      ← Nat.add_assoc]
    rfl

/-- Read where the sections `base` are open, and maybe others to the right of `indent`, the
lines add the entries `found` and leave `base` open. -/
def Adds (indent : ℕ) (base : List (ℤ × Text)) (found : List (List Text × Text))
    (lines : List Text) : Prop :=
  ∀ (s : YamlState) (closed : List (ℤ × Text)), s.stack = closed ++ base →
    (∀ frame ∈ closed, (indent : ℤ) ≤ frame.1) →
    ∃ left k, (∀ frame ∈ left, (indent : ℤ) ≤ frame.1) ∧
      lines.foldl YamlState.readLine s =
        { stack := left ++ base, listIndex := k, out := (found.map flatEntry).reverse ++ s.out }

section Adds

variable {base : List (ℤ × Text)} {found found' : List (List Text × Text)}
  {lines' inner : List Text} {key gap value line : Text} {deeper : ℕ}

theorem Adds.nil : Adds indent base [] [] :=
  fun s closed hstack hc ↦ ⟨closed, s.listIndex, hc, by rw [← hstack]; rfl⟩

theorem Adds.append (h : Adds indent base found lines) (h' : Adds indent base found' lines') :
    Adds indent base (found ++ found') (lines ++ lines') := by
  intro s closed hstack hc
  obtain ⟨left, k, hl, hfold⟩ := h s closed hstack hc
  obtain ⟨left', k', hl', hfold'⟩ := h' _ left (congrArg YamlState.stack hfold) hl
  refine ⟨left', k', hl', ?_⟩
  rw [List.foldl_append, hfold', hfold, List.map_append, List.reverse_append, List.append_assoc]

theorem adds_ending (he : Ending line) : Adds indent base [] [line] := by
  intro s closed hstack hc
  refine ⟨closed, s.listIndex, hc, ?_⟩
  rw [List.foldl_cons, List.foldl_nil, readLine_ending he, ← hstack]
  rfl

theorem adds_scalar (hw : Writes indent (keyBody key gap value) line) (hs : Kept line)
    (hk : KeyText key) (hg : Blanks gap) (hv : Holdable value)
    (hb : ∀ frame ∈ base, frame.1 < indent) (hn : ∀ frame ∈ base, PlainKey frame.2) :
    Adds indent base [(key :: base.map Prod.snd, value)] [line] := by
  intro s closed hstack hc
  have hclose : Outline.close (indent : ℤ) s.stack = base := hstack ▸ close_base hc hb
  refine ⟨[], 0, fun _ hf ↦ absurd hf List.not_mem_nil, ?_⟩
  rw [List.foldl_cons, List.foldl_nil, readLine_scalar hw hs hk hg hv hclose hn]
  rfl

theorem adds_list {items : List Text} (hw : Writes indent (keyBody key [] []) line)
    (hs : Kept line) (hk : KeyText key) (hitems : ItemLines indent items inner)
    (hinner : ∀ line ∈ inner, Kept line) (hv : ∀ value ∈ items, Holdable value)
    (hi : items.length < 2 ^ 31) (hb : ∀ frame ∈ base, frame.1 < indent)
    (hn : ∀ frame ∈ base, PlainKey frame.2) :
    Adds indent base (itemEntries (key :: base.map Prod.snd) 0 items) (line :: inner) := by
  intro s closed hstack hc
  have hclose : Outline.close (indent : ℤ) s.stack = base := hstack ▸ close_base hc hb
  have hread := readLine_header hw hs hk hclose
  have hfold := foldl_itemLines hitems (s := s.readLine line) hinner hv
  rw [hread] at hfold
  have hfold := hfold (by dsimp only; omega) (List.cons_ne_nil _ _)
    (List.forall_mem_cons.mpr ⟨le_rfl, fun frame hf ↦ (hb frame hf).le⟩)
    (List.forall_mem_cons.mpr ⟨hk.plainKey, hn⟩)
  refine ⟨[((indent : ℤ), key)], items.length, fun frame hf ↦ by rw [List.mem_singleton.mp hf], ?_⟩
  rw [List.foldl_cons, hread, hfold, Nat.zero_add]
  rfl

theorem adds_mapping (hw : Writes indent (keyBody key [] []) line) (hs : Kept line)
    (hk : KeyText key) (hdeep : indent < deeper)
    (hinner : Adds deeper (((indent : ℤ), key) :: base) found inner)
    (hb : ∀ frame ∈ base, frame.1 < indent) : Adds indent base found (line :: inner) := by
  intro s closed hstack hc
  have hclose : Outline.close (indent : ℤ) s.stack = base := hstack ▸ close_base hc hb
  have hread := readLine_header hw hs hk hclose
  obtain ⟨inside, k, hinside, hfold⟩ := hinner (s.readLine line) [] (congrArg YamlState.stack hread)
    fun _ hf ↦ absurd hf List.not_mem_nil
  have hdeep : (indent : ℤ) < deeper := Int.ofNat_lt.mpr hdeep
  refine ⟨inside ++ [((indent : ℤ), key)], k, ?_, ?_⟩
  · exact List.forall_mem_append.mpr ⟨fun frame hf ↦ hdeep.le.trans (hinside frame hf),
      fun frame hf ↦ by rw [List.mem_singleton.mp hf]⟩
  · rw [List.foldl_cons, hfold, hread, List.append_assoc]
    rfl

/-- Reading the lines of a mapping adds its leaves, whatever sections are open to the left of
it. -/
theorem lines_add (h : Lines indent tree lines) (ht : tree.WellFormed) (hk : tree.Numbered)
    (hs : ∀ line ∈ lines, Kept line) (hb : ∀ frame ∈ base, frame.1 < indent)
    (hn : ∀ frame ∈ base, PlainKey frame.2) :
    Adds indent base (tree.entries (base.map Prod.snd)) lines := by
  induction h generalizing base with
  | nil => exact .nil
  | ending he _ ih =>
    rw [List.forall_mem_cons] at hs
    exact (adds_ending he).append (ih ht hk hs.2 hb hn)
  | scalar hg hw _ ih =>
    obtain ⟨hkey, -, hvalue, hrest⟩ := ht
    rw [List.forall_mem_cons] at hs
    exact (adds_scalar hw hs.1 hkey hg hvalue hb hn).append (ih hrest hk hs.2 hb hn)
  | list hw hitems _ ih =>
    obtain ⟨hkey, -, hvalues, hrest⟩ := ht
    rw [List.forall_mem_cons, List.forall_mem_append] at hs
    exact (adds_list hw hs.1 hkey hitems hs.2.1 hvalues hk.1 hb hn).append
      (ih hrest hk.2 hs.2.2 hb hn)
  | @mapping indent deeper key line tree rest inner lines hw hdeep _ _ ihi ihr =>
    obtain ⟨hkey, -, htree, hrest⟩ := ht
    rw [List.forall_mem_cons, List.forall_mem_append] at hs
    have hopen : ∀ frame ∈ ((indent : ℤ), key) :: base, frame.1 < deeper :=
      List.forall_mem_cons.mpr ⟨Int.ofNat_lt.mpr hdeep,
        fun frame hf ↦ (hb frame hf).trans (Int.ofNat_lt.mpr hdeep)⟩
    have hinner := ihi htree hk.1 hs.2.1 hopen (List.forall_mem_cons.mpr ⟨hkey.plainKey, hn⟩)
    exact (adds_mapping hw hs.1 hkey hdeep hinner hb).append (ihr hrest hk.2 hs.2.2 hb hn)

end Adds

theorem Ending.noNewline {line : Text} (h : Ending line) : '\n' ∉ line := by
  obtain ⟨blanks, comment, rfl, hb, hc, -⟩ := h
  intro hn
  rcases List.mem_append.mp hn with hn | hn
  · exact (hb '\n' hn).2 rfl
  · exact hc hn

theorem Writes.noNewline {body line : Text} (h : Writes indent body line) (hb : Holdable body) :
    '\n' ∉ line := by
  obtain ⟨ending, he, rfl⟩ := h
  intro hn
  rcases List.mem_append.mp hn with hn | hn
  · exact absurd (List.eq_of_mem_replicate hn) (by decide)
  · rcases List.mem_append.mp hn with hn | hn
    · exact hb.plain.2 hn
    · exact Ending.noNewline he hn

theorem itemLines_noNewline (h : ItemLines outer items lines)
    (hv : ∀ value ∈ items, Holdable value) : ∀ line ∈ lines, '\n' ∉ line := by
  induction h with
  | nil => exact fun line hl ↦ absurd hl List.not_mem_nil
  | ending he _ ih => exact List.forall_mem_cons.mpr ⟨Ending.noNewline he, ih hv⟩
  | item _ hg hw _ ih =>
    rw [List.forall_mem_cons] at hv
    exact List.forall_mem_cons.mpr ⟨Writes.noNewline hw (holdable_item hg hv.1), ih hv.2⟩

theorem lines_noNewline (h : Lines indent tree lines) (ht : tree.WellFormed) :
    ∀ line ∈ lines, '\n' ∉ line := by
  induction h with
  | nil => exact fun line hl ↦ absurd hl List.not_mem_nil
  | ending he _ ih => exact List.forall_mem_cons.mpr ⟨Ending.noNewline he, ih ht⟩
  | scalar hg hw _ ih =>
    obtain ⟨hkey, -, hvalue, hrest⟩ := ht
    exact List.forall_mem_cons.mpr ⟨Writes.noNewline hw (holdable_scalar hkey hg hvalue), ih hrest⟩
  | list hw hitems _ ih =>
    obtain ⟨hkey, -, hvalues, hrest⟩ := ht
    exact List.forall_mem_cons.mpr ⟨Writes.noNewline hw (holdable_header hkey),
      List.forall_mem_append.mpr ⟨itemLines_noNewline hitems hvalues, ih hrest⟩⟩
  | mapping hw _ _ _ ihi ihr =>
    obtain ⟨hkey, -, htree, hrest⟩ := ht
    exact List.forall_mem_cons.mpr ⟨Writes.noNewline hw (holdable_header hkey),
      List.forall_mem_append.mpr ⟨ihi htree, ihr hrest⟩⟩

theorem foldl_getlines (h : ∀ line ∈ lines, '\n' ∉ line) (s : YamlState) :
    (getlines (joinLines lines)).foldl YamlState.readLine s = lines.foldl YamlState.readLine s := by
  rcases List.eq_nil_or_concat lines with rfl | ⟨first, last, rfl⟩
  · rfl
  · have hsplit : (joinLines (first.concat last)).splitOn '\n' = first ++ [last] := by
      rw [List.concat_eq_append] at h ⊢
      exact List.splitOn_intercalate '\n' h
        (List.append_ne_nil_of_right_ne_nil _ (List.cons_ne_nil _ _))
    unfold getlines
    rw [hsplit, List.getLast?_append_cons, List.getLast?_singleton, List.dropLast_concat,
      List.concat_eq_append]
    split
    · rename_i hl
      obtain rfl := Option.some.inj hl
      rw [List.foldl_append, List.foldl_cons, List.foldl_nil, readLine_ending .nil]
    · rfl

theorem parseYamlText_lines (h : Lines indent tree lines) (ht : tree.WellFormed)
    (hk : tree.Numbered) (hs : ∀ line ∈ lines, Kept line) :
    parseYamlText (joinLines lines) = tree.flat.reverse := by
  have hadds : Adds indent [] (tree.entries []) lines := lines_add h ht hk hs
    (fun _ hf ↦ absurd hf List.not_mem_nil) (fun _ hf ↦ absurd hf List.not_mem_nil)
  obtain ⟨left, k, -, hfold⟩ := hadds {} [] rfl fun _ hf ↦ absurd hf List.not_mem_nil
  unfold parseYamlText
  rw [foldl_getlines (lines_noNewline h ht), hfold]
  exact List.append_nil _

theorem mem_itemEntries {outer : List Text} {first : ℕ} {entry : List Text × Text}
    (h : entry ∈ itemEntries outer first items) :
    ∃ i, first ≤ i ∧ entry.1 = decimal i :: outer := by
  induction items generalizing first with
  | nil => exact absurd h List.not_mem_nil
  | cons value items ih =>
    rcases List.mem_cons.mp h with rfl | h
    · exact ⟨first, le_rfl, rfl⟩
    · obtain ⟨i, hi, he⟩ := ih h
      exact ⟨i, (Nat.le_succ first).trans hi, he⟩

theorem mem_entries {outer : List Text} {entry : List Text × Text}
    (h : entry ∈ tree.entries outer) :
    ∃ inner key, key ∈ tree.keys ∧ entry.1 = inner ++ key :: outer := by
  induction tree generalizing outer with
  | nil => exact absurd h List.not_mem_nil
  | scalar key value rest ih =>
    rcases List.mem_cons.mp h with rfl | h
    · exact ⟨[], key, List.mem_cons_self, rfl⟩
    · obtain ⟨inner, other, hk, he⟩ := ih h
      exact ⟨inner, other, List.mem_cons_of_mem _ hk, he⟩
  | list key items rest ih =>
    rcases List.mem_append.mp h with h | h
    · obtain ⟨i, -, he⟩ := mem_itemEntries h
      exact ⟨[decimal i], key, List.mem_cons_self, he⟩
    · obtain ⟨inner, other, hk, he⟩ := ih h
      exact ⟨inner, other, List.mem_cons_of_mem _ hk, he⟩
  | mapping key tree rest ihi ihr =>
    rcases List.mem_append.mp h with h | h
    · obtain ⟨inner, other, -, he⟩ := ihi h
      exact ⟨inner ++ [other], key, List.mem_cons_self, by rw [he, List.append_assoc]; rfl⟩
    · obtain ⟨inner, other, hk, he⟩ := ihr h
      exact ⟨inner, other, List.mem_cons_of_mem _ hk, he⟩

theorem path_key_unique {outer inner inner' : List Text} {key key' : Text}
    (h : inner ++ key :: outer = inner' ++ key' :: outer) : key = key' := by
  have h : (inner ++ [key]) ++ outer = (inner' ++ [key']) ++ outer := by
    rw [List.append_assoc, List.append_assoc]
    exact h
  exact List.singleton_inj.mp (List.append_inj' (List.append_cancel_right h) rfl).2

theorem itemEntries_nodup (outer : List Text) (first : ℕ) (items : List Text) :
    ((itemEntries outer first items).map Prod.fst).Nodup := by
  induction items generalizing first with
  | nil => exact List.nodup_nil
  | cons value items ih =>
    rw [itemEntries, List.map_cons, List.nodup_cons]
    refine ⟨fun h ↦ ?_, ih (first + 1)⟩
    obtain ⟨entry, he, hpath⟩ := List.mem_map.mp h
    obtain ⟨i, hi, hentry⟩ := mem_itemEntries he
    have hsame := decimal_injective (List.cons.inj (hentry.symm.trans hpath)).1
    omega

theorem entries_nodup (ht : tree.WellFormed) (outer : List Text) :
    ((tree.entries outer).map Prod.fst).Nodup := by
  have hfresh {key : Text} {rest : YamlTree} {outer : List Text} (hkey : key ∉ rest.keys)
      {path : List Text} (hpath : ∃ inner, path = inner ++ key :: outer) :
      path ∉ (rest.entries outer).map Prod.fst := by
    intro h
    obtain ⟨entry, he, rfl⟩ := List.mem_map.mp h
    obtain ⟨inner, hinner⟩ := hpath
    obtain ⟨inner', other, hother, hentry⟩ := mem_entries he
    exact hkey (path_key_unique (hinner.symm.trans hentry) ▸ hother)
  induction tree generalizing outer with
  | nil => exact List.nodup_nil
  | scalar key value rest ih =>
    obtain ⟨-, hkey, -, hrest⟩ := ht
    rw [entries, List.map_cons, List.nodup_cons]
    exact ⟨hfresh hkey ⟨[], rfl⟩, ih hrest outer⟩
  | list key items rest ih =>
    obtain ⟨-, hkey, -, hrest⟩ := ht
    rw [entries, List.map_append, List.nodup_append']
    refine ⟨itemEntries_nodup _ 0 items, ih hrest outer, fun path hp ↦ hfresh hkey ?_⟩
    obtain ⟨entry, he, rfl⟩ := List.mem_map.mp hp
    obtain ⟨i, -, hentry⟩ := mem_itemEntries he
    exact ⟨[decimal i], hentry⟩
  | mapping key tree rest ihi ihr =>
    obtain ⟨-, hkey, htree, hrest⟩ := ht
    rw [entries, List.map_append, List.nodup_append']
    refine ⟨ihi htree (key :: outer), ihr hrest outer, fun path hp ↦ hfresh hkey ?_⟩
    obtain ⟨entry, he, rfl⟩ := List.mem_map.mp hp
    obtain ⟨inner, other, -, hentry⟩ := mem_entries he
    exact ⟨inner ++ [other], by rw [hentry, List.append_assoc]; rfl⟩

theorem entries_noDot (ht : tree.WellFormed) (outer : List Text) (ho : ∀ name ∈ outer, '.' ∉ name) :
    ∀ entry ∈ tree.entries outer, ∀ name ∈ entry.1, '.' ∉ name := by
  have hbelow {key : Text} {outer : List Text} (hk : KeyText key)
      (ho : ∀ name ∈ outer, '.' ∉ name) : ∀ name ∈ key :: outer, '.' ∉ name :=
    List.forall_mem_cons.mpr ⟨hk.noMark.2.2, ho⟩
  induction tree generalizing outer with
  | nil => exact fun entry he ↦ absurd he List.not_mem_nil
  | scalar key value rest ih =>
    obtain ⟨hkey, -, -, hrest⟩ := ht
    exact List.forall_mem_cons.mpr ⟨hbelow hkey ho, ih hrest outer ho⟩
  | list key items rest ih =>
    obtain ⟨hkey, -, -, hrest⟩ := ht
    refine List.forall_mem_append.mpr ⟨fun entry he ↦ ?_, ih hrest outer ho⟩
    obtain ⟨i, -, hentry⟩ := mem_itemEntries he
    rw [hentry]
    refine List.forall_mem_cons.mpr ⟨fun hd ↦ ?_, hbelow hkey ho⟩
    exact absurd (isDigit_of_mem_decimal hd) (by decide)
  | mapping key tree rest ihi ihr =>
    obtain ⟨hkey, -, htree, hrest⟩ := ht
    exact List.forall_mem_append.mpr ⟨ihi htree _ (hbelow hkey ho), ihr hrest outer ho⟩

theorem flat_nodup (ht : tree.WellFormed) : (tree.flat.map Prod.fst).Nodup := by
  have hdots := entries_noDot ht [] fun name hn ↦ absurd hn List.not_mem_nil
  have hne : ∀ entry ∈ tree.entries [], entry.1 ≠ [] := by
    intro entry he
    obtain ⟨inner, key, -, hentry⟩ := mem_entries he
    rw [hentry]
    exact List.append_ne_nil_of_right_ne_nil _ (List.cons_ne_nil _ _)
  have hflat : tree.flat.map Prod.fst = ((tree.entries []).map Prod.fst).map joinPath := by
    rw [flat, List.map_map, List.map_map]
    rfl
  rw [hflat]
  refine (entries_nodup ht []).map_on fun path hp path' hp' hsame ↦ ?_
  obtain ⟨entry, he, rfl⟩ := List.mem_map.mp hp
  obtain ⟨entry', he', rfl⟩ := List.mem_map.mp hp'
  exact joinPath_injective (hdots entry he) (hdots entry' he') (hne entry he) (hne entry' he') hsame

theorem flattens_reverse (ht : tree.WellFormed) : Flattens tree.flat.reverse tree := by
  have hnodup := flat_nodup ht
  refine ⟨hnodup, fun key value ↦ ⟨fun h ↦ ?_, fun h ↦ ?_⟩⟩
  · obtain ⟨before, after, he, -⟩ := List.lookup_eq_some_iff.mp h
    exact List.mem_reverse.mp (he ▸ List.mem_append_right _ List.mem_cons_self)
  · apply Outline.lookup_of_mem
    · rw [List.map_reverse]
      exact List.nodup_reverse.mpr hnodup
    · exact List.mem_reverse.mpr h

/-- A document of nested mappings and lists is flattened exactly, as long as the `int`s that
hold the length of a line and the number of an item are large enough. -/
theorem parseSimpleYaml_flattens {ω : Type} (io : FileIo ω) (path : Text) (w : ω)
    (h : Lines indent tree lines) (ht : tree.WellFormed)
    (hread : io.readText path w = .ok (joinLines lines)) (hs : ∀ line ∈ lines, Kept line)
    (hk : tree.Numbered) :
    ∃ config, parseSimpleYaml io path w = .ok config ∧ Flattens config tree := by
  refine ⟨tree.flat.reverse, ?_, flattens_reverse ht⟩
  unfold parseSimpleYaml
  rw [hread]
  exact congrArg Except.ok (parseYamlText_lines h ht hk hs)

def protocolTree : YamlTree :=
  .mapping "protocol" (.scalar "active" "gb28181" (.list "priority" ["onvif", "private"] .nil)) .nil

def protocolLines : List Text :=
  ["# who is called first", "protocol:", "  active: gb28181  # the default", "", "  priority:",
    "    - onvif", "    - private"]

theorem protocolLines_lines : Lines 0 protocolTree protocolLines := by
  have hw₁ : Writes 4 (itemBody [] "onvif".toList) "    - onvif".toList := .bare 4 _
  have hw₂ : Writes 4 (itemBody [] "private".toList) "    - private".toList := .bare 4 _
  have hitems : ItemLines 2 ["onvif".toList, "private".toList]
      ["    - onvif".toList, "    - private".toList] :=
    .item (by decide) (by decide) hw₁ (.item (by decide) (by decide) hw₂ .nil)
  have hpriority : Writes 2 (keyBody "priority".toList [] []) "  priority:".toList := .bare 2 _
  have hlist : Lines 2 (.list "priority".toList ["onvif".toList, "private".toList] .nil)
      ["  priority:".toList, "    - onvif".toList, "    - private".toList] :=
    .list hpriority hitems .nil
  have hdefault : Ending "  # the default".toList :=
    ⟨"  ".toList, "# the default".toList, rfl, by decide, by decide, .inr rfl⟩
  have hactive : Writes 2 (keyBody "active".toList " ".toList "gb28181".toList)
      "  active: gb28181  # the default".toList := ⟨_, hdefault, rfl⟩
  have hprotocol : Writes 0 (keyBody "protocol".toList [] []) "protocol:".toList := .bare 0 _
  have hcomment : Ending "# who is called first".toList :=
    ⟨[], "# who is called first".toList, rfl, by decide, by decide, .inr rfl⟩
  exact .ending hcomment (.mapping hprotocol (by decide : 0 < 2)
    (.scalar (by decide) hactive (.ending .nil hlist)) .nil)

theorem parseSimpleYaml_flattens_protocol :
    ∃ config, parseSimpleYaml (ConfigManager.disk fun _ ↦ some (joinLines protocolLines))
        "protocol.yaml".toList () = .ok config ∧ Flattens config protocolTree := by
  have hactive : Holdable "gb28181".toList := ⟨by decide, by decide, by decide⟩
  have hnames : ∀ value ∈ ["onvif".toList, "private".toList], Holdable value :=
    List.forall_mem_cons.mpr ⟨⟨by decide, by decide, by decide⟩,
      List.forall_mem_singleton.mpr ⟨by decide, by decide, by decide⟩⟩
  have hwf : protocolTree.WellFormed :=
    ⟨by decide, by decide, ⟨by decide, by decide, hactive, by decide, by decide, hnames, trivial⟩,
      trivial⟩
  have hshort : ∀ line ∈ protocolLines, (stripComment line).length < 2 ^ 31 := by decide +kernel
  have hnumbered : protocolTree.Numbered := ⟨⟨by decide, trivial⟩, trivial⟩
  exact parseSimpleYaml_flattens _ "protocol.yaml".toList () protocolLines_lines hwf rfl
    (fun line hl ↦ kept_of_lt (hshort line hl)) hnumbered

/-- A line of `2 ^ 31` characters has no indentation for the reader, and its value goes to the
top of the document. -/
theorem parseYamlText_overlong {v : Text} (hv : Holdable v) (hl : v.length = 2 ^ 31 - 5) :
    parseYamlText (joinLines ["a:".toList, "  b: ".toList ++ v]) = [("b".toList, v)] := by
  have hkey : KeyText "b".toList := by decide
  have hbody : Holdable (keyBody "b".toList " ".toList v) := holdable_scalar hkey (by decide) hv
  have hw : Writes 2 (keyBody "b".toList " ".toList v) ("  b: ".toList ++ v) := .bare 2 _
  have hplain : stripComment ("  b: ".toList ++ v) = "  b: ".toList ++ v := by
    unfold stripComment
    apply List.takeWhile_eq_self_iff.mpr
    intro c hc
    rw [bne_iff_ne]
    rintro rfl
    exact (plain_append (by decide : Plain "  b: ".toList) hv.plain).1 hc
  have hsize : intOfSize (stripComment ("  b: ".toList ++ v)).length = -2 ^ 31 := by
    rw [hplain, List.length_append, hl]
    decide
  have hread := (readLine_counted hw hbody { stack := [(0, "a".toList)] }).1
  have hcount : max 0 (min ((2 : ℕ) : ℤ) (-2 ^ 31)) = 0 := by decide
  have hclose : Outline.close (0 : ℤ) [((0 : ℤ), "a".toList)] = [] := rfl
  rw [hsize, hcount, readBody_scalar hkey (by decide) hv hclose (by simp)] at hread
  have hlines : ∀ line ∈ ["a:".toList, "  b: ".toList ++ v], '\n' ∉ line :=
    List.forall_mem_cons.mpr ⟨by decide, List.forall_mem_singleton.mpr (Writes.noNewline hw hbody)⟩
  have hheader : Writes 0 (keyBody "a".toList [] []) "a:".toList := .bare 0 _
  have hopen : YamlState.readLine {} "a:".toList = { stack := [(0, "a".toList)] } :=
    readLine_header hheader (by decide) (by decide) rfl
  unfold parseYamlText
  rw [foldl_getlines hlines, List.foldl_cons, List.foldl_cons, List.foldl_nil, hopen, hread]
  rfl

theorem parseSimpleYaml_overlong_line :
    let v := List.replicate (2 ^ 31 - 5) 'x'
    let tree := mapping "a".toList (scalar "b".toList v .nil) .nil
    let lines := ["a:".toList, "  b: ".toList ++ v]
    tree.WellFormed ∧ tree.Numbered ∧ Lines 0 tree lines ∧
      ∃ config, parseSimpleYaml (ConfigManager.disk fun _ ↦ some (joinLines lines))
          "protocol.yaml".toList () = .ok config ∧
        config.lookup "a.b".toList = none ∧ config.lookup "b".toList = some v ∧
        ¬ Flattens config tree := by
  intro v
  have hchars : ∀ c ∈ v, c = 'x' := fun c hc ↦ List.eq_of_mem_replicate hc
  have hl : v.length = 2 ^ 31 - 5 := List.length_replicate
  clear_value v
  have hmem : ∀ {c : Char}, c ≠ 'x' → c ∉ v := fun hne hc ↦ hne (hchars _ hc)
  have hsolid : ∀ c ∈ v, isSpace c = false := fun c hc ↦ hchars c hc ▸ rfl
  have hne : v ≠ [] := by
    rintro rfl
    exact absurd hl (by decide)
  have hv : Holdable v :=
    ⟨hne, ⟨fun c hc ↦ hsolid c (List.mem_of_mem_head? hc),
      fun c hc ↦ hsolid c (List.mem_of_mem_getLast? hc)⟩, hmem (by decide), hmem (by decide)⟩
  intro tree lines
  have hw : Writes 2 (keyBody "b".toList " ".toList v) ("  b: ".toList ++ v) := .bare 2 _
  have hheader : Writes 0 (keyBody "a".toList [] []) "a:".toList := .bare 0 _
  have hvalue : Lines 2 (.scalar "b".toList v .nil) ["  b: ".toList ++ v] :=
    .scalar (by decide) hw .nil
  have hparse : parseSimpleYaml (ConfigManager.disk fun _ ↦ some (joinLines lines))
      "protocol.yaml".toList () = .ok [("b".toList, v)] :=
    congrArg Except.ok (parseYamlText_overlong hv hl)
  have hnone : List.lookup "a.b".toList [("b".toList, v)] = none := rfl
  refine ⟨⟨by decide, by decide, ⟨by decide, by decide, hv, trivial⟩, trivial⟩, ⟨trivial, trivial⟩,
    .mapping hheader (by decide) hvalue .nil, _, hparse, hnone, rfl, fun h ↦ ?_⟩
  have hleaf : ("a.b".toList, v) ∈ tree.flat := List.mem_cons_self
  have hsome := (h.2 _ _).mpr hleaf
  rw [hnone] at hsome
  cases hsome

end YamlTree

end TriFusion.Foundation
