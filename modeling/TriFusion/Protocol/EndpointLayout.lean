import TriFusion.Protocol.EndpointScalars

namespace TriFusion.Protocol

open Foundation Library Outline YamlLayout

/-- An entry of an endpoint file: the value it is written with, and what is read
when the entry is missing. The reader lowers some texts. -/
inductive Field
  | text (value fallback : Text)
  | lowered (value fallback : Text)
  | flag (value fallback : Bool)
  | port (value fallback : UInt16)
  | number (value fallback : Int32)
  deriving DecidableEq

namespace Field

def written : Field → Text
  | text value _ => quote value
  | lowered value _ => quote value
  | flag value _ => boolText value
  | port value _ => portText value
  | number value _ => intText value

def Restored (m : FlatConfig) (key : Text) : Field → Prop
  | text value fallback => get m key fallback = value
  | lowered value fallback => lower (get m key fallback) = value
  | flag value fallback => toBool m key fallback = value
  | port value fallback => toPort m key fallback = value
  | number value fallback => toInt m key fallback = value

def quoted : Field → Option Text
  | text value _ => some value
  | lowered value _ => some value
  | _ => none

def forget : Field → Field
  | text _ fallback => text fallback fallback
  | lowered _ fallback => lowered fallback fallback
  | flag _ fallback => flag fallback fallback
  | port _ fallback => port fallback fallback
  | number _ fallback => number fallback fallback

/-- The value has nothing in it that the reader cuts, changes or refuses. -/
def Clean : Field → Prop
  | text value _ => Plain value
  | lowered value _ => Plain value ∧ lower value = value
  | port value _ => value ≠ 0
  | _ => True

instance : DecidablePred Clean
  | text value _ => inferInstanceAs (Decidable (Plain value))
  | lowered value _ => inferInstanceAs (Decidable (Plain value ∧ lower value = value))
  | port value _ => inferInstanceAs (Decidable (value ≠ 0))
  | flag _ _ => isTrue trivial
  | number _ _ => isTrue trivial

def Sound : Field → Prop
  | text _ fallback => Plain fallback ∧ fallback.length ≤ 90
  | lowered _ fallback => Plain fallback ∧ fallback.length ≤ 90
  | port _ fallback => fallback ≠ 0
  | _ => True

instance : DecidablePred Sound
  | text _ fallback => inferInstanceAs (Decidable (Plain fallback ∧ fallback.length ≤ 90))
  | lowered _ fallback => inferInstanceAs (Decidable (Plain fallback ∧ fallback.length ≤ 90))
  | port _ fallback => inferInstanceAs (Decidable (fallback ≠ 0))
  | flag _ _ => isTrue trivial
  | number _ _ => isTrue trivial

variable {field : Field} {m : FlatConfig} {key : Text}

theorem Clean.holdable (h : field.Clean) : Holdable field.written := by
  cases field with
  | text value fallback => exact holdable_quote h
  | lowered value fallback => exact holdable_quote h.1
  | flag value fallback => exact holdable_boolText value
  | port value fallback => exact holdable_portText value
  | number value fallback => exact holdable_intText value

theorem Clean.restored (h : field.Clean) (hm : m.lookup key = some field.written) :
    field.Restored m key := by
  cases field with
  | text value fallback =>
    rw [Restored, get_of_lookup hm]
    exact unquote_quote value
  | lowered value fallback =>
    rw [Restored, get_of_lookup hm]
    exact (congrArg lower (unquote_quote value)).trans h.2
  | flag value fallback => exact toBool_of_lookup hm
  | port value fallback => exact toPort_of_lookup hm h
  | number value fallback => exact toInt_of_lookup hm

theorem Restored.clean (hs : field.Sound) {text : Text}
    (h : field.Restored (parseYamlText text) key) : field.Clean := by
  cases field with
  | text value fallback => exact h ▸ get_plain text hs.1
  | lowered value fallback =>
    obtain rfl : lower (get (parseYamlText text) key fallback) = value := h
    exact ⟨plain_lower (get_plain text hs.1), lower_lower _⟩
  | flag value fallback => trivial
  | port value fallback => exact h ▸ toPort_ne_zero hs
  | number value fallback => trivial

theorem length_written (h : field.quoted = none) : field.written.length ≤ 11 := by
  cases field with
  | text value fallback => exact nomatch h
  | lowered value fallback => exact nomatch h
  | flag value fallback => exact (length_boolText value).trans (by decide)
  | port value fallback => exact (length_portText value).trans (by decide)
  | number value fallback => exact length_intText value

theorem written_of_quoted {value : Text} (h : field.quoted = some value) :
    field.written = quote value := by
  cases field with
  | text v fallback => exact congrArg quote (Option.some.inj h)
  | lowered v fallback => exact congrArg quote (Option.some.inj h)
  | flag v fallback => exact nomatch h
  | port v fallback => exact nomatch h
  | number v fallback => exact nomatch h

theorem Restored.short {value : Text} (hq : field.quoted = some value) (hs : field.Sound)
    (h : field.Restored m key) (hm : m.lookup key = none) : value.length ≤ 90 := by
  have hg : ∀ fallback, get m key fallback = fallback := by
    intro fallback
    rw [get, hm]
  cases field with
  | text v fallback =>
    obtain rfl : v = value := Option.some.inj hq
    rw [Restored, hg] at h
    exact h ▸ hs.2
  | lowered v fallback =>
    obtain rfl : v = value := Option.some.inj hq
    rw [Restored, hg] at h
    rw [← h, lower, List.length_map]
    exact hs.2
  | flag v fallback => cases hq
  | port v fallback => cases hq
  | number v fallback => cases hq

theorem Restored.length {value other : Text} (hq : field.quoted = some value)
    (h : field.Restored m key) (hm : m.lookup key = some (quote other)) :
    other.length = value.length := by
  have hg : ∀ fallback, get m key fallback = other :=
    fun fallback ↦ (get_of_lookup hm).trans (unquote_quote other)
  cases field with
  | text v fallback =>
    obtain rfl : v = value := Option.some.inj hq
    rw [Restored, hg] at h
    rw [h]
  | lowered v fallback =>
    obtain rfl : v = value := Option.some.inj hq
    rw [Restored, hg] at h
    rw [← h, lower, List.length_map]
  | flag v fallback => exact nomatch hq
  | port v fallback => exact nomatch hq
  | number v fallback => exact nomatch hq

end Field

structure Entry where
  field : Field
  gap : Bool := false
  deriving DecidableEq

def Entry.scalar (entry : Entry) : YamlScalar := ⟨entry.field.written, entry.gap⟩

def Entry.forget (entry : Entry) : Entry := { entry with field := entry.field.forget }

abbrev EndpointLayout := Forest ℕ Text Entry

namespace EndpointLayout

def readKey (leaf : Leaf ℕ Text Entry) : Text := joinPath (path leaf.sections leaf.key)

/-- The line of a quoted value is seen to be in its section: its length, as an
`int`, is beyond the indentation of the section. -/
def Reaches (leaf : Leaf ℕ Text Entry) (value : Text) : Prop :=
  sectionIndent leaf.sections < intOfSize (leaf.indent + leaf.key.length + 4 + value.length)

def Survives (leaf : Leaf ℕ Text Entry) : Prop :=
  leaf.value.field.Clean ∧ ∀ value ∈ leaf.value.field.quoted, Reaches leaf value

instance (leaf : Leaf ℕ Text Entry) (value : Text) : Decidable (Reaches leaf value) :=
  inferInstanceAs (Decidable (_ < _))

instance : DecidablePred Survives := fun _ ↦ inferInstanceAs (Decidable (_ ∧ _))

/-- Names of sections and keys of quoted values are indented in one way in the whole file. -/
def Placed (layout : EndpointLayout) (leaf : Leaf ℕ Text Entry) : Prop :=
  match leaf.sections with
  | [] => False
  | (outer, name) :: _ =>
    (∀ line ∈ layout.lines, line.value.isNone → line.key = name → line.indent = outer) ∧
      ∀ line ∈ layout.lines, line.key = leaf.key →
        line.value.all fun entry ↦ entry.field.quoted.isSome && line.indent == leaf.indent

instance (layout : EndpointLayout) (leaf : Leaf ℕ Text Entry) : Decidable (Placed layout leaf) := by
  unfold Placed
  cases leaf.sections with
  | nil => exact inferInstanceAs (Decidable False)
  | cons frame rest => exact inferInstanceAs (Decidable (_ ∧ _))

structure Sound (layout : EndpointLayout) : Prop where
  laid : Laid (-1) 0 (layout.map Entry.scalar)
  distinct : ((layout.leaves []).map fun leaf ↦ path leaf.sections leaf.key).Nodup
  short : ∀ leaf ∈ layout.leaves [], leaf.indent + leaf.key.length + 100 < 2 ^ 31
  inside : ∀ leaf ∈ layout.leaves [], sectionIndent leaf.sections < leaf.indent
  fallback : ∀ leaf ∈ layout.leaves [], leaf.value.field.Sound
  placed : ∀ leaf ∈ layout.leaves [], leaf.value.field.quoted.isSome → Placed layout leaf

def text (layout : EndpointLayout) : Text := YamlLayout.text (layout.map Entry.scalar)

def scalarLeaf (leaf : Leaf ℕ Text Entry) : Leaf ℕ Text YamlScalar :=
  ⟨leaf.sections, leaf.indent, leaf.key, leaf.value.scalar⟩

variable {layout : EndpointLayout}

theorem length_render (leaf : Leaf ℕ Text Entry) :
    (leafItem (scalarLeaf leaf)).render.length =
      leaf.indent + leaf.key.length + 2 + leaf.value.field.written.length := by
  simp only [leafItem, scalarLeaf, lineItem, YamlItem.render, YamlItem.body, Option.map_some,
    Entry.scalar, List.length_append, List.length_replicate, List.length_cons]
  omega

theorem length_quote (value : Text) : (quote value).length = value.length + 2 := by
  simp [quote]

theorem deep_iff {leaf : Leaf ℕ Text Entry} {value : Text}
    (hq : leaf.value.field.quoted = some value) : Deep (scalarLeaf leaf) ↔ Reaches leaf value := by
  have hn : leaf.indent + leaf.key.length + 2 + (value.length + 2) =
      leaf.indent + leaf.key.length + 4 + value.length := by omega
  rw [Deep, length_render, Field.written_of_quoted hq, length_quote, hn]
  rfl

theorem Sound.deep_of_short (h : layout.Sound) {leaf : Leaf ℕ Text Entry}
    (hl : leaf ∈ layout.leaves []) (hw : leaf.value.field.written.length ≤ 92) :
    Deep (scalarLeaf leaf) := by
  have hs := h.short leaf hl
  have hi := h.inside leaf hl
  rw [Deep, length_render, intOfSize_of_lt (by omega)]
  change sectionIndent leaf.sections < _
  omega

theorem leaves_scalar (layout : EndpointLayout) :
    (layout.map Entry.scalar).leaves [] = (layout.leaves []).map scalarLeaf :=
  Forest.leaves_map _ _ _

theorem holdable_of_clean (h : ∀ leaf ∈ layout.leaves [], leaf.value.field.Clean) :
    ∀ leaf ∈ (layout.map Entry.scalar).leaves [], Holdable leaf.value.text := by
  rw [leaves_scalar, List.forall_mem_map]
  exact fun leaf hl ↦ (h leaf hl).holdable

theorem Sound.restored (h : layout.Sound) (hs : ∀ leaf ∈ layout.leaves [], Survives leaf) :
    ∀ leaf ∈ layout.leaves [],
      leaf.value.field.Restored (parseYamlText layout.text) (readKey leaf) := by
  intro leaf hl
  have hd : ∀ leaf ∈ (layout.map Entry.scalar).leaves [], Deep leaf := by
    rw [leaves_scalar, List.forall_mem_map]
    intro other ho
    cases hq : other.value.field.quoted with
    | none => exact h.deep_of_short ho ((Field.length_written hq).trans (by decide))
    | some value => exact (deep_iff hq).mpr ((hs other ho).2 value hq)
  have hp : (((layout.map Entry.scalar).leaves []).map fun leaf ↦
      path leaf.sections leaf.key).Nodup := by
    rw [leaves_scalar, List.map_map]
    exact h.distinct
  have hm : scalarLeaf leaf ∈ (layout.map Entry.scalar).leaves [] := by
    rw [leaves_scalar]
    exact List.mem_map_of_mem hl
  exact (hs leaf hl).1.restored
    (lookup_text h.laid (holdable_of_clean fun leaf hl ↦ (hs leaf hl).1) hd hp hm)

/-- What is read back of a quoted value came from a line that reaches its section. -/
theorem Sound.reaches (h : layout.Sound) (hc : ∀ leaf ∈ layout.leaves [], leaf.value.field.Clean)
    {leaf : Leaf ℕ Text Entry} (hl : leaf ∈ layout.leaves [])
    (hr : leaf.value.field.Restored (parseYamlText layout.text) (readKey leaf)) {value : Text}
    (hq : leaf.value.field.quoted = some value) : Reaches leaf value := by
  have hs := h.fallback leaf hl
  cases hm : (parseYamlText layout.text).lookup (readKey leaf) with
  | none =>
    refine (deep_iff hq).mp (h.deep_of_short hl ?_)
    rw [Field.written_of_quoted hq, length_quote]
    have := hr.short hq hs hm
    omega
  | some v =>
    have hp := h.placed leaf hl (by rw [hq]; rfl)
    unfold Placed at hp
    cases hsec : leaf.sections with
    | nil =>
      rw [hsec] at hp
      exact hp.elim
    | cons frame rest =>
      rw [hsec] at hp
      obtain ⟨hname, hkey⟩ := hp
      have hk : readKey leaf = joinPath (leaf.key :: frame.2 :: rest.map Prod.snd) := by
        rw [readKey, path, hsec, List.map_cons]
      have hdot : ∀ part ∈ leaf.key :: frame.2 :: rest.map Prod.snd, '.' ∉ part := by
        have hm : scalarLeaf leaf ∈ (layout.map Entry.scalar).leaves [] := by
          rw [leaves_scalar]
          exact List.mem_map_of_mem hl
        have hn := noDot_of_laid h.laid (by simp) (scalarLeaf leaf) hm
        simpa only [scalarLeaf, path, hsec, List.map_cons] using hn
      rw [hk] at hm
      obtain ⟨line, hline, hlk, hlv, head, hhead, hhv, hhk, hlt⟩ :=
        written_of_lookup h.laid (holdable_of_clean hc) hdot hm
      rw [Forest.lines_map] at hline hhead
      obtain ⟨source, hsource, rfl⟩ := List.mem_map.mp hline
      obtain ⟨heading, hheading, rfl⟩ := List.mem_map.mp hhead
      have hat := hname heading hheading (by rw [Option.map_eq_none_iff.mp hhv]; rfl) hhk
      have hall := hkey source hsource hlk
      cases hv : source.value with
      | none =>
        rw [hv] at hlv
        cases hlv
      | some entry =>
        rw [hv] at hlv hall hlt
        simp only [Option.all_some, Bool.and_eq_true, beq_iff_eq] at hall
        obtain ⟨other, ho⟩ := Option.isSome_iff_exists.mp hall.1
        obtain rfl : entry.field.written = v := Option.some.inj hlv
        rw [← hk, Field.written_of_quoted ho] at hm
        have hlen := hr.length hq hm
        have hk : source.key = leaf.key := hlk
        have he := length_render ⟨[], leaf.indent, leaf.key, entry⟩
        dsimp only at he
        rw [Field.written_of_quoted ho, length_quote, hlen] at he
        have hlt : (heading.indent : ℤ) <
            (leafItem (scalarLeaf ⟨[], leaf.indent, leaf.key, entry⟩)).readIndent := by
          rw [← hall.2, ← hk]
          exact hlt
        have hlt := YamlItem.lt_size_of_lt_readIndent hlt
        rw [he] at hlt
        have hn : leaf.indent + leaf.key.length + 2 + (value.length + 2) =
            leaf.indent + leaf.key.length + 4 + value.length := by omega
        rw [Reaches, hsec, sectionIndent, ← hat, ← hn]
        exact hlt

/-- The values are read back from the file exactly when each of them survives. -/
theorem Sound.restored_iff (h : layout.Sound) :
    (∀ leaf ∈ layout.leaves [],
        leaf.value.field.Restored (parseYamlText layout.text) (readKey leaf)) ↔
      ∀ leaf ∈ layout.leaves [], Survives leaf := by
  refine ⟨fun hr ↦ ?_, h.restored⟩
  have hc : ∀ leaf ∈ layout.leaves [], leaf.value.field.Clean :=
    fun leaf hl ↦ (hr leaf hl).clean (h.fallback leaf hl)
  intro leaf hl
  exact ⟨hc leaf hl, fun value hq ↦ h.reaches hc hl (hr leaf hl) hq⟩

theorem laid_of_forget {outer : ℤ} {level : ℕ}
    (h : Laid outer level ((layout.map Entry.forget).map Entry.scalar)) :
    Laid outer level (layout.map Entry.scalar) := by
  induction layout generalizing outer level with
  | nil => trivial
  | leaf indent key entry rest ih => exact ⟨h.1, h.2.1, h.2.2.1, ih h.2.2.2⟩
  | node indent key inner rest ihi ihr =>
    obtain ⟨hk, hi, ho, hl, hin, hr⟩ := h
    exact ⟨hk, hi, ho, hl, ihi hin, ihr hr⟩

theorem sound_forget (field : Field) : field.forget.Sound ↔ field.Sound := by
  cases field <;> rfl

theorem quoted_forget (field : Field) : field.forget.quoted.isSome = field.quoted.isSome := by
  cases field <;> rfl

theorem placed_of_forget {leaf : Leaf ℕ Text Entry}
    (h : Placed (layout.map Entry.forget)
      ⟨leaf.sections, leaf.indent, leaf.key, leaf.value.forget⟩) : Placed layout leaf := by
  unfold Placed at *
  cases hs : leaf.sections with
  | nil =>
    rw [hs] at h
    exact h
  | cons frame rest =>
    rw [hs] at h
    obtain ⟨hname, hkey⟩ := h
    rw [Forest.lines_map, List.forall_mem_map] at hname hkey
    refine ⟨fun line hl hn hk ↦ hname line hl (by rwa [Option.isNone_map]) hk, ?_⟩
    intro line hl hk
    have ha := hkey line hl hk
    rw [Option.all_map] at ha
    cases hv : line.value with
    | none => rfl
    | some entry =>
      rw [hv] at ha
      simpa only [Option.all_some, Function.comp_apply, Entry.forget, quoted_forget] using ha

/-- Whether a layout is sound can be seen on the one that holds the fallbacks. -/
theorem sound_of_forget (h : Sound (layout.map Entry.forget)) : layout.Sound where
  laid := laid_of_forget h.laid
  distinct := by
    have hd := h.distinct
    rw [Forest.leaves_map, List.map_map] at hd
    exact hd
  short := by
    have hs := h.short
    rw [Forest.leaves_map, List.forall_mem_map] at hs
    exact hs
  inside := by
    have hi := h.inside
    rw [Forest.leaves_map, List.forall_mem_map] at hi
    exact hi
  fallback := by
    have hf := h.fallback
    rw [Forest.leaves_map, List.forall_mem_map] at hf
    exact fun leaf hl ↦ (sound_forget leaf.value.field).mp (hf leaf hl)
  placed := by
    have hp := h.placed
    rw [Forest.leaves_map, List.forall_mem_map] at hp
    refine fun leaf hl hq ↦ placed_of_forget (hp leaf hl ?_)
    exact (quoted_forget leaf.value.field).trans hq

end EndpointLayout

end TriFusion.Protocol
