import Mathlib.Data.List.Basic

namespace TriFusion.Library.Json

/-- What a string holds: characters, and code units given by their four digits. -/
inductive Piece
  | char (c : Char)
  | unit (n : ℕ)
  deriving DecidableEq

inductive Value
  | null
  | bool (b : Bool)
  | number (digits : List Char)
  | string (pieces : List Piece)
  | array (items : List Value)
  | object (members : List (List Piece × Value))

def isBlank (c : Char) : Bool := c = ' ' || c = '\t' || c = '\n' || c = '\r'

def Blank (text : List Char) : Prop := ∀ c ∈ text, isBlank c = true

section Numbers

def Digits (text : List Char) : Prop := text ≠ [] ∧ ∀ c ∈ text, c.isDigit = true

def IsWhole (text : List Char) : Prop := Digits text ∧ (text.head? = some '0' → text = ['0'])

def IsFraction (text : List Char) : Prop :=
  text = [] ∨ ∃ digits, text = '.' :: digits ∧ Digits digits

def IsExponent (text : List Char) : Prop :=
  text = [] ∨ ∃ e sign digits, text = e :: (sign ++ digits) ∧ e ∈ ['e', 'E'] ∧
    sign ∈ [[], ['+'], ['-']] ∧ Digits digits

def IsNumber (text : List Char) : Prop :=
  ∃ sign whole fraction exponent, text = sign ++ (whole ++ (fraction ++ exponent)) ∧
    sign ∈ [[], ['-']] ∧ IsWhole whole ∧ IsFraction fraction ∧ IsExponent exponent

end Numbers

section Strings

def hexValue (c : Char) : ℕ :=
  if c.isDigit then c.toNat - 48 else if 'a' ≤ c then c.toNat - 87 else c.toNat - 55

def escaped : Char → Option Char
  | '"' => some '"'
  | '\\' => some '\\'
  | '/' => some '/'
  | 'b' => some '\x08'
  | 'f' => some '\x0c'
  | 'n' => some '\n'
  | 'r' => some '\r'
  | 't' => some '\t'
  | _ => none

def isControl (c : Char) : Bool := c.toNat < 32

def isPlain (c : Char) : Bool := c ≠ '"' && c ≠ '\\' && !isControl c

def decodeChars : List Char → Option (List Piece)
  | [] => some []
  | '\\' :: 'u' :: a :: b :: c :: d :: rest =>
    if [a, b, c, d].all Char.isHexDigit then
      (decodeChars rest).map (.unit ([a, b, c, d].foldl (16 * · + hexValue ·) 0) :: ·)
    else none
  | '\\' :: c :: rest =>
    (escaped c).bind fun e ↦ (decodeChars rest).map (.char e :: ·)
  | c :: rest => if isPlain c then (decodeChars rest).map (.char c :: ·) else none

end Strings

inductive Part
  | value (v : Value)
  | element (v : Value)
  | elements (vs : List Value)
  | member (m : List Piece × Value)
  | members (ms : List (List Piece × Value))

/-- The grammar: a text and the part of a document that it is. -/
inductive Reads : List Char → Part → Prop
  | null : Reads ['n', 'u', 'l', 'l'] (.value .null)
  | no : Reads ['f', 'a', 'l', 's', 'e'] (.value (.bool false))
  | yes : Reads ['t', 'r', 'u', 'e'] (.value (.bool true))
  | number {t} : IsNumber t → Reads t (.value (.number t))
  | string {t pieces} : decodeChars t = some pieces →
      Reads ('"' :: (t ++ ['"'])) (.value (.string pieces))
  | emptyArray {blank} : Blank blank → Reads ('[' :: (blank ++ [']'])) (.value (.array []))
  | array {t vs} : Reads t (.elements vs) → Reads ('[' :: (t ++ [']'])) (.value (.array vs))
  | emptyObject {blank} : Blank blank →
      Reads ('\x7b' :: (blank ++ ['\x7d'])) (.value (.object []))
  | object {t ms} : Reads t (.members ms) →
      Reads ('\x7b' :: (t ++ ['\x7d'])) (.value (.object ms))
  | element {l t r v} : Blank l → Reads t (.value v) → Blank r →
      Reads (l ++ (t ++ r)) (.element v)
  | lastElement {t v} : Reads t (.element v) → Reads t (.elements [v])
  | elements {t v u vs} : Reads t (.element v) → Reads u (.elements vs) →
      Reads (t ++ ',' :: u) (.elements (v :: vs))
  | member {l k r t key v} : Blank l → decodeChars k = some key → Blank r →
      Reads t (.element v) → Reads (l ++ '"' :: (k ++ '"' :: (r ++ ':' :: t))) (.member (key, v))
  | lastMember {t m} : Reads t (.member m) → Reads t (.members [m])
  | members {t m u ms} : Reads t (.member m) → Reads u (.members ms) →
      Reads (t ++ ',' :: u) (.members (m :: ms))

/-- The text is a document, and this is its value. -/
def Denotes (text : List Char) (v : Value) : Prop := Reads text (.element v)

namespace Value

def ofText (text : List Char) : Value := .string (text.map .char)

def member (key : List Char) : Value → Option Value
  | .object ms => (ms.find? (·.1 = key.map .char)).map Prod.snd
  | _ => none

end Value

section Decoding

variable {c e : Char} {text rest : List Char} {pieces : List Piece}

theorem decodeChars_plain (h : isPlain c = true) (rest : List Char) :
    decodeChars (c :: rest) = (decodeChars rest).map (.char c :: ·) := by
  have hc : c ≠ '\\' := by
    intro he
    rw [he] at h
    exact absurd h (by decide)
  rw [decodeChars, if_pos h]
  · intro a b c' d rest' hu
    exact absurd hu hc
  · intro c' rest' hu
    exact absurd hu hc

theorem decodeChars_escaped (h : escaped c = some e) (rest : List Char) :
    decodeChars ('\\' :: c :: rest) = (decodeChars rest).map (.char e :: ·) := by
  rw [decodeChars, h]
  · rfl
  · intro a b c' d rest' hu
    rw [hu] at h
    cases h

theorem isPlain_iff : isPlain c = true ↔ c ≠ '"' ∧ c ≠ '\\' ∧ isControl c = false := by
  simp [isPlain, and_assoc]

/-- Characters that are each written as something that stands for them are read back. -/
theorem decodeChars_flatMap {write : Char → List Char} (h : ∀ c ∈ text, ∀ rest,
    decodeChars (write c ++ rest) = (decodeChars rest).map (.char c :: ·)) :
    decodeChars (text.flatMap write) = some (text.map .char) := by
  induction text with
  | nil => rfl
  | cons c text ih =>
    have hrest := ih fun c' hc ↦ h c' (List.mem_cons_of_mem _ hc)
    rw [List.flatMap_cons, h c List.mem_cons_self, hrest]
    rfl

theorem decodeChars_of_plain (h : text.all isPlain = true) :
    decodeChars text = some (text.map .char) := by
  rw [← List.flatMap_singleton' text, decodeChars_flatMap, List.flatMap_singleton']
  intro c hc rest
  exact decodeChars_plain (List.all_eq_true.mp h c hc) rest

end Decoding

section Control

variable {text : List Char} {pieces : List Piece} {part : Part} {c : Char}

theorem isControl_of_all (h : (text.all fun c ↦ !isControl c) = true) (hc : c ∈ text) :
    isControl c = false := by
  rw [← Bool.not_eq_true']
  exact List.all_eq_true.mp h c hc

theorem isControl_of_isDigit (h : c.isDigit = true) : isControl c = false := by
  obtain ⟨hlo, -⟩ := Char.isDigit_iff_toNat.mp h
  exact decide_eq_false (Nat.not_lt.mpr (Nat.le_trans (by decide) hlo))

theorem isControl_of_isHexDigit (h : c.isHexDigit = true) : isControl c = false := by
  simp only [Char.isHexDigit, Bool.or_eq_true, Bool.and_eq_true, decide_eq_true_iff, ge_iff_le,
    UInt32.le_iff_toNat_le] at h
  rcases h with (h | h) | h
  · exact isControl_of_isDigit h
  · exact decide_eq_false (Nat.not_lt.mpr (Nat.le_trans (by decide) h.1))
  · exact decide_eq_false (Nat.not_lt.mpr (Nat.le_trans (by decide) h.1))

theorem isControl_of_escaped (h : (escaped c).isSome = true) : isControl c = false := by
  unfold escaped at h
  split at h
  all_goals first | decide | cases h

theorem isControl_of_decodeChars (h : (decodeChars text).isSome = true) (hc : c ∈ text) :
    isControl c = false := by
  induction text using decodeChars.induct with
  | case1 => cases hc
  | case2 a b c' d rest hx ih =>
    rw [decodeChars, if_pos hx, Option.isSome_map] at h
    have hdigits : ∀ x ∈ [a, b, c', d], isControl x = false := fun x hm ↦
      isControl_of_isHexDigit (List.all_eq_true.mp hx x hm)
    have hsplit : c = '\\' ∨ c = 'u' ∨ c ∈ [a, b, c', d] ∨ c ∈ rest := by
      simpa [or_assoc] using hc
    rcases hsplit with rfl | rfl | hm | hm
    · rfl
    · rfl
    · exact hdigits c hm
    · exact ih h hm
  | case3 a b c' d rest hx =>
    rw [decodeChars, if_neg hx] at h
    cases h
  | case4 c' rest hu ih =>
    rw [decodeChars] at h
    · cases he : escaped c' with
      | none =>
        rw [he] at h
        cases h
      | some e =>
        rw [he, Option.bind_some, Option.isSome_map] at h
        rcases List.mem_cons.mp hc with rfl | hc
        · rfl
        rcases List.mem_cons.mp hc with rfl | hc
        · exact isControl_of_escaped (by rw [he]; rfl)
        · exact ih h hc
    · exact hu
  | case5 c' rest hu hs hp ih =>
    rw [decodeChars, if_pos hp, Option.isSome_map] at h
    rcases List.mem_cons.mp hc with rfl | hc
    · exact (isPlain_iff.mp hp).2.2
    · exact ih h hc
    · exact hu
    · exact hs
  | case6 c' rest hu hs hp =>
    rw [decodeChars, if_neg hp] at h
    · cases h
    · exact hu
    · exact hs

theorem Digits.isControl (h : Digits text) (hc : c ∈ text) : isControl c = false :=
  isControl_of_isDigit (h.2 c hc)

theorem isControl_of_isNumber (h : IsNumber text) (hc : c ∈ text) : isControl c = false := by
  obtain ⟨sign, whole, fraction, exponent, rfl, hs, hw, hf, he⟩ := h
  rw [List.mem_append, List.mem_append, List.mem_append] at hc
  rcases hc with hc | hc | hc | hc
  · have hall : ∀ sign ∈ [[], ['-']], (sign.all fun c ↦ !isControl c) = true := by decide
    exact isControl_of_all (hall sign hs) hc
  · exact hw.1.isControl hc
  · rcases hf with rfl | ⟨digits, rfl, hd⟩
    · cases hc
    rcases List.mem_cons.mp hc with rfl | hc
    · rfl
    · exact hd.isControl hc
  · rcases he with rfl | ⟨e, sign, digits, rfl, he, hs, hd⟩
    · cases hc
    have hsigns : ∀ sign ∈ [[], ['+'], ['-']], (sign.all fun c ↦ !isControl c) = true := by decide
    rw [List.mem_cons, List.mem_append] at hc
    rcases hc with rfl | hc | hc
    · exact @isControl_of_all ['e', 'E'] c (by decide) he
    · exact isControl_of_all (hsigns sign hs) hc
    · exact hd.isControl hc

theorem mem_of_control_append {t u : List Char} {x : Char} (hl : isControl c = true)
    (hx : isControl x = false) (hc : c ∈ t ++ x :: u) : c ∈ t ∨ c ∈ u := by
  rw [List.mem_append, List.mem_cons] at hc
  rcases hc with hc | rfl | hc
  · exact .inl hc
  · rw [hx] at hl
    cases hl
  · exact .inr hc

theorem mem_of_control_between {t : List Char} {x y : Char} (hl : isControl c = true)
    (hx : isControl x = false) (hy : isControl y = false) (hc : c ∈ x :: (t ++ [y])) : c ∈ t := by
  rcases List.mem_cons.mp hc with rfl | hc
  · rw [hx] at hl
    cases hl
  rcases mem_of_control_append hl hy hc with hc | hc
  · exact hc
  · cases hc

theorem Reads.isBlank_of_control (h : Reads text part) (hc : c ∈ text) (hl : isControl c = true) :
    isBlank c = true := by
  have hlit : ∀ {t : List Char}, c ∈ t → (∀ c ∈ t, isControl c = false) → isBlank c = true := by
    intro t hm hall
    rw [hall c hm] at hl
    cases hl
  induction h with
  | null => exact hlit hc fun _ hm ↦ isControl_of_all (by decide) hm
  | no => exact hlit hc fun _ hm ↦ isControl_of_all (by decide) hm
  | yes => exact hlit hc fun _ hm ↦ isControl_of_all (by decide) hm
  | number h => exact hlit hc fun c hc ↦ isControl_of_isNumber h hc
  | string h =>
    have hm := mem_of_control_between hl (by decide) (by decide) hc
    exact hlit hm fun c hc ↦ isControl_of_decodeChars (by rw [h]; rfl) hc
  | emptyArray h => exact h c (mem_of_control_between hl (by decide) (by decide) hc)
  | array h ih => exact ih (mem_of_control_between hl (by decide) (by decide) hc)
  | emptyObject h => exact h c (mem_of_control_between hl (by decide) (by decide) hc)
  | object h ih => exact ih (mem_of_control_between hl (by decide) (by decide) hc)
  | element hb h hb' ih =>
    rw [List.mem_append, List.mem_append] at hc
    rcases hc with hc | hc | hc
    · exact hb c hc
    · exact ih hc
    · exact hb' c hc
  | lastElement h ih => exact ih hc
  | elements h h' ih ih' =>
    rcases mem_of_control_append hl (by decide) hc with hc | hc
    · exact ih hc
    · exact ih' hc
  | member hb hk hb' h ih =>
    rcases mem_of_control_append hl (by decide) hc with hc | hc
    · exact hb c hc
    rcases mem_of_control_append hl (by decide) hc with hc | hc
    · exact hlit hc fun c hc ↦ isControl_of_decodeChars (by rw [hk]; rfl) hc
    rcases mem_of_control_append hl (by decide) hc with hc | hc
    · exact hb' c hc
    · exact ih hc
  | lastMember h ih => exact ih hc
  | members h h' ih ih' =>
    rcases mem_of_control_append hl (by decide) hc with hc | hc
    · exact ih hc
    · exact ih' hc

end Control

structure Written where
  text : List Char
  value : Value
  reads : Reads text (.value value)

structure Name where
  text : List Char
  plain : text.all isPlain = true

theorem blank_nil : Blank [] := by
  intro c hc
  cases hc

theorem Reads.toElement {text : List Char} {v : Value} (h : Reads text (.value v)) :
    Reads text (.element v) := by
  have he := Reads.element blank_nil h blank_nil
  rwa [List.append_nil] at he

namespace Written

def bool : Bool → Written
  | false => ⟨_, _, .no⟩
  | true => ⟨_, _, .yes⟩

def number (text : List Char) (h : IsNumber text) : Written := ⟨text, .number text, .number h⟩

def string (escapes text : List Char) (h : decodeChars escapes = some (text.map .char)) : Written :=
  ⟨'"' :: (escapes ++ ['"']), .ofText text, .string h⟩

def plain (text : List Char) (h : text.all isPlain = true) : Written :=
  string text text (decodeChars_of_plain h)

variable (items : List Written) (fields : List (Name × Written))

def listText : List Char := List.intercalate [','] (items.map text)

def fieldText (field : Name × Written) : List Char :=
  '"' :: (field.1.text ++ '"' :: ':' :: field.2.text)

def fieldsText : List Char := List.intercalate [','] (fields.map fieldText)

def fieldValue (field : Name × Written) : List Piece × Value :=
  (field.1.text.map .char, field.2.value)

section Texts

variable (item next : Written) (field field' : Name × Written)

@[simp] theorem listText_singleton : listText [item] = item.text := List.intercalate_singleton

@[simp] theorem listText_cons_cons :
    listText (item :: next :: items) = item.text ++ ',' :: listText (next :: items) := by
  rw [listText, List.map_cons, List.map_cons, List.intercalate_cons_cons, List.append_assoc]
  rfl

@[simp] theorem fieldsText_singleton : fieldsText [field] = fieldText field :=
  List.intercalate_singleton

@[simp] theorem fieldsText_cons_cons :
    fieldsText (field :: field' :: fields) =
      fieldText field ++ ',' :: fieldsText (field' :: fields) := by
  rw [fieldsText, List.map_cons, List.map_cons, List.intercalate_cons_cons, List.append_assoc]
  rfl

end Texts

theorem reads_field (field : Name × Written) :
    Reads (fieldText field) (.member (fieldValue field)) :=
  .member blank_nil (decodeChars_of_plain field.1.plain) blank_nil field.2.reads.toElement

variable {items} in
theorem reads_list (h : items ≠ []) : Reads (listText items) (.elements (items.map value)) := by
  induction items with
  | nil => exact absurd rfl h
  | cons item rest ih =>
    cases rest with
    | nil =>
      rw [listText_singleton]
      exact .lastElement item.reads.toElement
    | cons next rest =>
      rw [listText_cons_cons]
      exact .elements item.reads.toElement (ih (List.cons_ne_nil next rest))

variable {fields} in
theorem reads_fields (h : fields ≠ []) :
    Reads (fieldsText fields) (.members (fields.map fieldValue)) := by
  induction fields with
  | nil => exact absurd rfl h
  | cons field rest ih =>
    cases rest with
    | nil =>
      rw [fieldsText_singleton]
      exact .lastMember (reads_field field)
    | cons next rest =>
      rw [fieldsText_cons_cons]
      exact .members (reads_field field) (ih (List.cons_ne_nil next rest))

def array : Written where
  text := '[' :: (listText items ++ [']'])
  value := .array (items.map value)
  reads := by
    cases items with
    | nil => exact .emptyArray blank_nil
    | cons item rest => exact .array (reads_list (List.cons_ne_nil item rest))

def object : Written where
  text := '\x7b' :: (fieldsText fields ++ ['\x7d'])
  value := .object (fields.map fieldValue)
  reads := by
    cases fields with
    | nil => exact .emptyObject blank_nil
    | cons field rest => exact .object (reads_fields (List.cons_ne_nil field rest))

@[simp] theorem bool_text (b : Bool) :
    (bool b).text = if b then ['t', 'r', 'u', 'e'] else ['f', 'a', 'l', 's', 'e'] := by
  cases b <;> rfl

@[simp] theorem array_text : (array items).text = '[' :: (listText items ++ [']']) := rfl

@[simp] theorem object_text :
    (object fields).text = '\x7b' :: (fieldsText fields ++ ['\x7d']) := rfl

theorem denotes (w : Written) : Denotes w.text w.value := w.reads.toElement

end Written

end TriFusion.Library.Json
