import TriFusion.Library.Json
import TriFusion.Protocol.PrivateControlHandlers

namespace TriFusion.Protocol.PrivateControlServer

open Foundation Library.Json

section Numbers

theorem head?_decimal {n : ℕ} (h : 0 < n) : (decimal n).head? ≠ some '0' := by
  have hdigit : ∀ n < 10, 0 < n → [Nat.digitChar n].head? ≠ some '0' := by decide
  induction n using Nat.strong_induction_on with
  | h n ih =>
    unfold decimal at ih ⊢
    rw [Nat.toDigits_eq_if (by decide)]
    split
    · rename_i hlt
      exact hdigit n hlt h
    · rename_i hge
      rw [List.head?_append_of_ne_nil _ Nat.toDigits_ne_nil]
      exact ih (n / 10) (by omega) (by omega)

theorem isWhole_decimal (n : ℕ) : IsWhole (decimal n) := by
  refine ⟨⟨decimal_ne_nil n, fun c hc ↦ isDigit_of_mem_decimal hc⟩, ?_⟩
  intro h
  rcases Nat.eq_zero_or_pos n with rfl | hn
  · decide
  · exact absurd h (head?_decimal hn)

theorem isNumber_decimal (n : ℕ) : IsNumber (decimal n) :=
  ⟨[], decimal n, [], [], by simp, by decide, isWhole_decimal n, .inl rfl, .inl rfl⟩

theorem isNumber_signedDecimal (n : ℤ) : IsNumber (signedDecimal n) := by
  cases n with
  | ofNat n => exact isNumber_decimal n
  | negSucc n =>
    exact ⟨['-'], decimal (n + 1), [], [], by simp [signedDecimal], by decide,
      isWhole_decimal (n + 1), .inl rfl, .inl rfl⟩

theorem mem_toDigits {b n : ℕ} {c : Char} (hb : 1 < b) (h : c ∈ Nat.toDigits b n) :
    ∃ d < b, c = Nat.digitChar d := by
  induction n using Nat.strong_induction_on with
  | h n ih =>
    rw [Nat.toDigits_eq_if hb] at h
    split at h
    · rename_i hlt
      exact ⟨n, hlt, List.mem_singleton.mp h⟩
    · rename_i hge
      rcases List.mem_append.mp h with h | h
      · exact ih (n / b) (Nat.div_lt_self (by omega) hb) h
      · exact ⟨n % b, Nat.mod_lt n (by omega), List.mem_singleton.mp h⟩

theorem isPlain_of_mem_upperHex {n : ℕ} {c : Char} (h : c ∈ upperHex n) : isPlain c = true := by
  have hall : ∀ d < 16, isPlain (toUpper (Nat.digitChar d)) = true := by decide
  obtain ⟨c', hc, rfl⟩ := List.mem_map.mp h
  obtain ⟨d, hd, rfl⟩ := mem_toDigits (by decide) hc
  exact hall d hd

end Numbers

section Strings

/-- The only control characters of the text are those that `jsonEscape` knows. -/
def Escapable (text : Text) : Prop :=
  ∀ c ∈ text, isControl c = true → c = '\n' ∨ c = '\r' ∨ c = '\t'

instance (text : Text) : Decidable (Escapable text) := List.decidableBAll _ text

variable {text : Text} {c : Char}

theorem decodeChars_jsonEscape (h : Escapable text) :
    decodeChars (jsonEscape text) = some (text.map .char) := by
  apply decodeChars_flatMap
  intro c hc rest
  split_ifs with hb hq hn hr ht
  · rw [hb]
    exact decodeChars_escaped rfl rest
  · rw [hq]
    exact decodeChars_escaped rfl rest
  · rw [hn]
    exact decodeChars_escaped rfl rest
  · rw [hr]
    exact decodeChars_escaped rfl rest
  · rw [ht]
    exact decodeChars_escaped rfl rest
  · apply decodeChars_plain
    rw [isPlain_iff]
    refine ⟨hq, hb, Bool.eq_false_iff.mpr fun hl ↦ ?_⟩
    rcases h c hc hl with h | h | h
    · exact hn h
    · exact hr h
    · exact ht h

theorem mem_jsonEscape (hc : c ∈ text) (hl : isControl c = true)
    (hne : ¬(c = '\n' ∨ c = '\r' ∨ c = '\t')) : c ∈ jsonEscape text := by
  refine List.mem_flatMap.mpr ⟨c, hc, ?_⟩
  rw [not_or, not_or] at hne
  have hb : c ≠ '\\' := by
    intro he
    rw [he] at hl
    cases hl
  have hq : c ≠ '"' := by
    intro he
    rw [he] at hl
    cases hl
  rw [if_neg hb, if_neg hq, if_neg hne.1, if_neg hne.2.1, if_neg hne.2.2]
  exact List.mem_singleton_self c

def escapedText (text : Text) (h : Escapable text) : Written :=
  .string (jsonEscape text) text (decodeChars_jsonEscape h)

end Strings

section Documents

def constant (text : String) (h : text.toList.all isPlain = true := by
    rw [String.toList_ofList]; decide) : Written :=
  .plain text.toList h

def field (key : String) (w : Written) (h : key.toList.all isPlain = true := by
    rw [String.toList_ofList]; decide) : Name × Written :=
  (⟨key.toList, h⟩, w)

@[simp] theorem constant_text (text : String) (h : text.toList.all isPlain = true) :
    (constant text h).text = '"' :: (text.toList ++ ['"']) := rfl

@[simp] theorem escapedText_text {text : Text} (h : Escapable text) :
    (escapedText text h).text = '"' :: (jsonEscape text ++ ['"']) := rfl

@[simp] theorem number_text {text : Text} (h : IsNumber text) :
    (Written.number text h).text = text := rfl

@[simp] theorem fieldText_field (key : String) (w : Written)
    (h : key.toList.all isPlain = true) :
    Written.fieldText (field key w h) = '"' :: (key.toList ++ '"' :: ':' :: w.text) := rfl

def resultFields (ok : Bool) : List (Name × Written) :=
  [field "ok" (.bool ok), field "result" (if ok then constant "succeeded" else constant "failed")]

def methodDocument : Written :=
  .object (resultFields false ++ [field "error" (constant "method must be POST or GET")])

def configMethodDocument : Written :=
  .object (resultFields false ++ [field "error" (constant "method must be GET or POST")])

def unsupportedModeDocument : Written :=
  .object [field "ok" (.bool false), field "error" (constant "unsupported mode"),
    field "supported" (.array [constant "visible", constant "lowlight", constant "thermal",
      constant "lowlight_thermal", constant "visible_lowlight", constant "visible_thermal",
      constant "visible_composite"])]

def unsupportedCompositeDocument : Written :=
  .object [field "ok" (.bool false), field "error" (constant "unsupported composite control"),
    field "supported" (.object
      [field "fusion_color" (.array [constant "black_white", constant "forest", constant "snow",
        constant "ocean", constant "city", constant "desert", constant "default"]),
      field "contour" (.array [constant "off", constant "red", constant "green", constant "blue",
        constant "purple"]),
      field "infrared_polarity" (.array [constant "white_hot", constant "black_hot"])])]

def unknownApiDocument : Written :=
  .object [field "ok" (.bool false), field "error" (constant "unknown api"),
    field "usage" (constant ("POST /api/v1/mode/\x7bmode\x7d, " ++
      "POST /api/v1/composite/\x7bfusion_color|contour|infrared_polarity\x7d/\x7bvalue\x7d, " ++
      "or GET /api/v1/composite/config") (by
        rw [String.toList_append, String.toList_append, List.all_append, List.all_append]
        repeat rw [String.toList_ofList]
        decide))]

theorem escapable_toText (mode : PrivateWorkMode) : Escapable mode.toText := by
  cases mode <;> decide

theorem escapable_toCommandName (mode : PrivateWorkMode) : Escapable mode.toCommandName := by
  cases mode <;> decide

def modeDocument (targetMode : PrivateWorkMode) (result : PrivateControlResult)
    (h : Escapable result.message) : Written :=
  .object (resultFields result.ok ++
    [field "mode" (escapedText targetMode.toText (escapable_toText targetMode)),
      field "command" (escapedText targetMode.toCommandName (escapable_toCommandName targetMode)),
      field "message" (escapedText result.message h)])

def compositeDocument (req : PrivateCompositeControlRequest) (result : PrivateControlResult)
    (hname : Escapable req.name) (hvalue : Escapable req.valueName)
    (h : Escapable result.message) : Written :=
  .object (resultFields result.ok ++
    [field "control" (escapedText req.name hname),
      field "value_name" (escapedText req.valueName hvalue),
      field "value" (.number (decimal req.value.toNat) (isNumber_decimal _)),
      field "message" (escapedText result.message h)])

structure EscapableItem (item : PrivateCompositeRegisterValue) : Prop where
  name : Escapable item.name
  displayName : Escapable item.displayName
  valueName : Escapable item.valueName

def hexDocument (n : ℕ) : Written :=
  .plain ("0x".toList ++ upperHex n) (by
    have hhex : (upperHex n).all isPlain = true :=
      List.all_eq_true.mpr fun c hc ↦ isPlain_of_mem_upperHex hc
    rw [List.all_append, hhex]
    decide)

@[simp] theorem hexDocument_text (n : ℕ) :
    (hexDocument n).text = '"' :: ("0x".toList ++ upperHex n ++ ['"']) := rfl

def registerDocument (item : PrivateCompositeRegisterValue) (h : EscapableItem item) : Written :=
  .object [field "index" (.number (signedDecimal item.index.toInt) (isNumber_signedDecimal _)),
    field "name" (escapedText item.name h.name),
    field "display_name" (escapedText item.displayName h.displayName),
    field "address" (hexDocument item.address.toNat),
    field "raw_value" (.number (decimal item.rawValue.toNat) (isNumber_decimal _)),
    field "value" (.number (signedDecimal item.value.toInt) (isNumber_signedDecimal _)),
    field "value_name" (escapedText item.valueName h.valueName)]

def configDocument (snapshot : PrivateCompositeConfigSnapshot) (h : Escapable snapshot.message)
    (hitems : ∀ item ∈ snapshot.registers, EscapableItem item) : Written :=
  .object (resultFields snapshot.ok ++
    [field "message" (escapedText snapshot.message h),
      field "registers" (.array (snapshot.registers.pmap registerDocument hitems))])

structure EscapableState (s : PrivateControlServer) : Prop where
  fusionColor : Escapable s.currentFusionColor
  contourMode : Escapable s.currentContourMode
  infraredPolarity : Escapable s.currentInfraredPolarity

def statusDocument (s : PrivateControlServer) (h : EscapableState s) : Written :=
  .object [field "ok" (.bool true), field "server" (constant "private_control"),
    field "control_port" (.number (decimal s.port.toNat) (isNumber_decimal _)),
    field "current_mode" (escapedText s.currentMode.toText (escapable_toText s.currentMode)),
    field "current_composite" (.object
      [field "fusion_color" (escapedText s.currentFusionColor h.fusionColor),
        field "contour" (escapedText s.currentContourMode h.contourMode),
        field "infrared_polarity" (escapedText s.currentInfraredPolarity h.infraredPolarity)]),
    field "commands" (.object
      [field "1" (constant "/api/v1/mode/visible"), field "2" (constant "/api/v1/mode/lowlight"),
        field "3" (constant "/api/v1/mode/thermal"),
        field "4" (constant "/api/v1/mode/lowlight_thermal"),
        field "5" (constant "/api/v1/mode/visible_lowlight"),
        field "6" (constant "/api/v1/mode/visible_thermal"),
        field "7" (constant "/api/v1/mode/visible_composite")]),
    field "composite_controls" (.object
      [field "fusion_color" (constant ("/api/v1/composite/fusion_color/" ++
          "\x7bblack_white|forest|snow|ocean|city|desert|default\x7d") (by
          rw [String.toList_append, List.all_append]
          repeat rw [String.toList_ofList]
          decide)),
        field "contour" (constant "/api/v1/composite/contour/\x7boff|red|green|blue|purple\x7d"),
        field "infrared_polarity" (constant ("/api/v1/composite/infrared_polarity/" ++
          "\x7bwhite_hot|black_hot\x7d") (by
          rw [String.toList_append, List.all_append]
          repeat rw [String.toList_ofList]
          decide)),
        field "query_config" (constant "/api/v1/composite/config")])]

theorem methodDocument_text : methodDocument.text = methodNotAllowed := by
  unfold methodDocument methodNotAllowed resultFields
  simp only [Written.object_text, Written.fieldsText_cons_cons, Written.fieldsText_singleton,
    fieldText_field, constant_text, Written.bool_text, List.cons_append, List.nil_append,
    Bool.false_eq_true, if_false]
  repeat rw [String.toList_ofList]
  rfl

theorem configMethodDocument_text : configMethodDocument.text = configMethodNotAllowed := by
  unfold configMethodDocument configMethodNotAllowed resultFields
  simp only [Written.object_text, Written.fieldsText_cons_cons, Written.fieldsText_singleton,
    fieldText_field, constant_text, Written.bool_text, List.cons_append, List.nil_append,
    Bool.false_eq_true, if_false]
  repeat rw [String.toList_ofList]
  rfl

theorem unsupportedModeDocument_text : unsupportedModeDocument.text = unsupportedMode := by
  unfold unsupportedModeDocument unsupportedMode
  simp only [Written.object_text, Written.array_text, Written.fieldsText_cons_cons,
    Written.fieldsText_singleton, Written.listText_cons_cons, Written.listText_singleton,
    fieldText_field, constant_text, Written.bool_text, String.toList_append]
  repeat rw [String.toList_ofList]
  rfl

theorem unsupportedCompositeDocument_text :
    unsupportedCompositeDocument.text = unsupportedComposite := by
  unfold unsupportedCompositeDocument unsupportedComposite
  simp only [Written.object_text, Written.array_text, Written.fieldsText_cons_cons,
    Written.fieldsText_singleton, Written.listText_cons_cons, Written.listText_singleton,
    fieldText_field, constant_text, Written.bool_text, String.toList_append]
  repeat rw [String.toList_ofList]
  rfl

theorem unknownApiDocument_text : unknownApiDocument.text = unknownApi := by
  unfold unknownApiDocument unknownApi
  simp only [Written.object_text, Written.fieldsText_cons_cons, Written.fieldsText_singleton,
    fieldText_field, constant_text, Written.bool_text, String.toList_append]
  repeat rw [String.toList_ofList]
  rfl

theorem modeReply_document (targetMode : PrivateWorkMode) (result : PrivateControlResult) :
    ∃ code status body, modeReply targetMode result = httpJson code status body ∧ '\n' ∉ status ∧
      (∀ c ∈ jsonEscape result.message, c ∈ body) ∧
        ∀ h, body = (modeDocument targetMode result h).text := by
  refine ⟨_, _, _, rfl, ?_, ?_, ?_⟩
  · cases result.ok <;> decide
  · intro c hc
    exact List.mem_append_left _ (List.mem_append_right _ hc)
  · intro h
    unfold modeDocument resultFields
    cases result.ok
    all_goals
      simp only [Written.object_text, Written.fieldsText_cons_cons, Written.fieldsText_singleton,
        fieldText_field, constant_text, escapedText_text, Written.bool_text, List.cons_append,
        List.nil_append, Bool.false_eq_true, if_true, if_false]
      repeat rw [String.toList_ofList]
      simp only [List.cons_append, List.nil_append, List.append_assoc]

theorem compositeReply_document (req : PrivateCompositeControlRequest)
    (result : PrivateControlResult) :
    ∃ code status body, compositeReply req result = httpJson code status body ∧ '\n' ∉ status ∧
      (∀ c ∈ jsonEscape result.message, c ∈ body) ∧
        ∀ hname hvalue h, body = (compositeDocument req result hname hvalue h).text := by
  refine ⟨_, _, _, rfl, ?_, ?_, ?_⟩
  · cases result.ok <;> decide
  · intro c hc
    exact List.mem_append_left _ (List.mem_append_right _ hc)
  · intro hname hvalue h
    unfold compositeDocument resultFields resultHead
    cases result.ok
    all_goals
      simp only [Written.object_text, Written.fieldsText_cons_cons, Written.fieldsText_singleton,
        fieldText_field, constant_text, escapedText_text, number_text, Written.bool_text,
        List.cons_append, List.nil_append, Bool.false_eq_true, if_true, if_false]
      repeat rw [String.toList_ofList]
      simp only [List.cons_append, List.nil_append, List.append_assoc]

theorem registerDocument_text (item : PrivateCompositeRegisterValue) (h : EscapableItem item) :
    (registerDocument item h).text = registerJson item := by
  unfold registerDocument registerJson
  simp only [Written.object_text, Written.fieldsText_cons_cons, Written.fieldsText_singleton,
    fieldText_field, hexDocument_text, escapedText_text, number_text]
  repeat rw [String.toList_ofList]
  simp only [List.cons_append, List.nil_append, List.append_assoc]

theorem registersDocument_text {registers : List PrivateCompositeRegisterValue}
    (h : ∀ item ∈ registers, EscapableItem item) :
    Written.listText (registers.pmap registerDocument h) =
      List.intercalate ",".toList (registers.map registerJson) := by
  have htexts : (registers.pmap registerDocument h).map Written.text =
      registers.map registerJson := by
    rw [List.map_pmap, ← List.pmap_eq_map (p := fun item ↦ EscapableItem item) h]
    exact List.pmap_congr_left _ fun item _ hitem _ ↦ registerDocument_text item hitem
  rw [Written.listText, htexts]
  rfl

theorem mem_intercalate {separator part : Text} {parts : List Text} {c : Char} (hp : part ∈ parts)
    (hc : c ∈ part) : c ∈ separator.intercalate parts := by
  induction parts with
  | nil => cases hp
  | cons first rest ih =>
    cases rest with
    | nil =>
      rw [List.intercalate_singleton]
      rwa [← List.mem_singleton.mp hp]
    | cons next rest =>
      rw [List.intercalate_cons_cons]
      rcases List.mem_cons.mp hp with rfl | hp
      · exact List.mem_append_left _ (List.mem_append_left _ hc)
      · exact List.mem_append_right _ (ih hp)

theorem configReply_document (snapshot : PrivateCompositeConfigSnapshot) :
    ∃ code status body, configReply snapshot = httpJson code status body ∧ '\n' ∉ status ∧
      (∀ c ∈ jsonEscape snapshot.message, c ∈ body) ∧
      (∀ item ∈ snapshot.registers, ∀ c ∈ registerJson item, c ∈ body) ∧
        ∀ h hitems, body = (configDocument snapshot h hitems).text := by
  refine ⟨_, _, _, rfl, ?_, ?_, ?_, ?_⟩
  · cases snapshot.ok <;> decide
  · intro c hc
    exact List.mem_append_left _ (List.mem_append_left _ (List.mem_append_left _
      (List.mem_append_right _ hc)))
  · intro item hi c hc
    exact List.mem_append_left _ (List.mem_append_right _
      (mem_intercalate (List.mem_map_of_mem hi) hc))
  · intro h hitems
    unfold configDocument resultFields resultHead
    cases snapshot.ok
    all_goals
      simp only [Written.object_text, Written.array_text, Written.fieldsText_cons_cons,
        Written.fieldsText_singleton, fieldText_field, constant_text, escapedText_text,
        registersDocument_text, Written.bool_text, List.cons_append, List.nil_append,
        Bool.false_eq_true, if_true, if_false]
      repeat rw [String.toList_ofList]
      simp only [List.cons_append, List.nil_append, List.append_assoc]

set_option maxRecDepth 4000 in
theorem statusDocument_text (s : PrivateControlServer) (h : EscapableState s) :
    s.handleStatusRequest = httpJson 200 "OK" (statusDocument s h).text := by
  unfold handleStatusRequest statusHead currentModeKey statusTail statusDocument
  simp only [Written.object_text, Written.fieldsText_cons_cons, Written.fieldsText_singleton,
    fieldText_field, constant_text, escapedText_text, number_text, Written.bool_text, if_true,
    String.toList_append]
  repeat rw [String.toList_ofList]
  simp only [List.cons_append, List.nil_append, List.append_assoc]

end Documents

end TriFusion.Protocol.PrivateControlServer
