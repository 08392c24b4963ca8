import TriFusion.Library.Simulation
import TriFusion.Protocol.ControlRoutes
import TriFusion.Protocol.ReplyBodies
import TriFusion.Protocol.RequestSegments
import TriFusion.Protocol.ResponseHeaders

namespace TriFusion.Protocol.PrivateControlServer

open Foundation Library Library.Json
open RtspServer (headerBlock newline_not_mem_decimal)

section Headers

def bodyOf (reply : Text) : Text := reply.drop ((EndedLines.head '\r' '\n' reply).length + 4)

def linesNamed (name reply : Text) : List Text :=
  (headerBlock reply).filter fun line ↦ lower (line.takeWhile (· ≠ ':')) = lower name

/-- The response gives one length, the length of its body. -/
def HasLength (reply : Text) : Prop :=
  linesNamed "Content-Length" reply = ["Content-Length: ".toList ++ decimal (bodyOf reply).length]

variable {code : ℕ} {status body : Text}

def jsonHeaders (code : ℕ) (status body : Text) : List Text :=
  ["HTTP/1.1 ".toList ++ decimal code ++ " ".toList ++ status, "Content-Type: application/json",
    "Content-Length: ".toList ++ decimal body.length, "Connection: close",
    "Access-Control-Allow-Origin: *"]

theorem httpJson_eq : httpJson code status body =
    EndedLines.ended '\r' '\n' (jsonHeaders code status body) ++ '\r' :: '\n' :: body := by
  unfold httpJson jsonHeaders EndedLines.ended
  simp only [List.flatMap_cons, List.flatMap_nil]
  repeat rw [String.toList_ofList]
  simp only [List.cons_append, List.nil_append, List.append_assoc]

theorem jsonHeaders_plain (h : '\n' ∉ status) :
    ∀ line ∈ jsonHeaders code status body, line ≠ [] ∧ '\n' ∉ line := by
  have hcode := newline_not_mem_decimal code
  have hlength := newline_not_mem_decimal body.length
  simp [jsonHeaders, h, hcode, hlength]

theorem bodyOf_httpJson (h : '\n' ∉ status) : bodyOf (httpJson code status body) = body := by
  rw [bodyOf, httpJson_eq]
  exact EndedLines.drop_head (by decide) (List.cons_ne_nil _ _) (jsonHeaders_plain h) body

theorem headerBlock_httpJson (h : '\n' ∉ status) :
    headerBlock (httpJson code status body) = jsonHeaders code status body := by
  rw [headerBlock, httpJson_eq]
  exact EndedLines.split_head (by decide) (List.cons_ne_nil _ _) (jsonHeaders_plain h) body

theorem statusLine_unnamed (rest : Text) :
    lower (("HTTP/1.1 ".toList ++ rest).takeWhile (· ≠ ':')) ≠ lower "Content-Length" := by
  rw [String.toList_ofList, List.cons_append, List.takeWhile_cons_of_pos (by decide)]
  intro h
  exact absurd (List.cons.inj h).1 (by decide)

theorem lengthLine_named (n : ℕ) :
    lower (("Content-Length: ".toList ++ decimal n).takeWhile (· ≠ ':')) =
      lower "Content-Length" := by
  have hline : "Content-Length: ".toList ++ decimal n =
      "Content-Length".toList ++ ':' :: ' ' :: decimal n := rfl
  rw [hline, takeWhile_before (by decide)]

theorem hasLength_httpJson (h : '\n' ∉ status) : HasLength (httpJson code status body) := by
  rw [HasLength, linesNamed, headerBlock_httpJson h, bodyOf_httpJson h, jsonHeaders,
    List.filter_cons_of_neg, List.filter_cons_of_neg, List.filter_cons_of_pos,
    List.filter_cons_of_neg, List.filter_cons_of_neg, List.filter_nil]
  · decide
  · decide
  · exact decide_eq_true (lengthLine_named body.length)
  · decide
  · rw [decide_eq_true_iff, List.append_assoc, List.append_assoc]
    exact statusLine_unnamed _

end Headers

/-- What the callback that a request invokes returns, if it invokes one. -/
inductive Answer
  | silent
  | result (r : PrivateControlResult)
  | snapshot (r : PrivateCompositeConfigSnapshot)

namespace Answer

def strings : Answer → List Text
  | silent => []
  | result r => [r.message]
  | snapshot r =>
    r.message :: r.registers.flatMap fun item ↦ [item.name, item.displayName, item.valueName]

def Plain (answer : Answer) : Prop := ∀ text ∈ answer.strings, Escapable text

instance (answer : Answer) : Decidable answer.Plain :=
  inferInstanceAs (Decidable (∀ text ∈ answer.strings, Escapable text))

end Answer

structure CarriesItem (v : Value) (item : PrivateCompositeRegisterValue) : Prop where
  name : v.member "name" = some (.ofText item.name)
  displayName : v.member "display_name" = some (.ofText item.displayName)
  valueName : v.member "value_name" = some (.ofText item.valueName)

def Carries (doc : Value) : Answer → Prop
  | .silent => True
  | .result r => doc.member "message" = some (.ofText r.message)
  | .snapshot r => doc.member "message" = some (.ofText r.message) ∧
      ∃ items, doc.member "registers" = some (.array items) ∧
        List.Forall₂ CarriesItem items r.registers

/-- The response has the right length, and its body is a document with these strings. -/
structure WellFormed (reply : Text) (answer : Answer) : Prop where
  length : HasLength reply
  body : ∃ doc, Denotes (bodyOf reply) doc ∧ Carries doc answer

variable {σ : Type}

def answerTo (callbacks : ControlCallbacks σ) (x : σ) : Option ControlCallback → Answer
  | none => .silent
  | some (.mode targetMode) =>
    (callbacks.mode.map fun callback ↦ Answer.result (callback targetMode x).1).getD .silent
  | some (.composite req) =>
    (callbacks.composite.map fun callback ↦ Answer.result (callback req x).1).getD .silent
  | some .configQuery =>
    (callbacks.configQuery.map fun callback ↦ Answer.snapshot (callback x).1).getD .silent

/-- The body holds the escaped strings, and is a document that carries them if they are plain. -/
def Replies (reply : Text) (answer : Answer) : Prop :=
  ∃ code status body, reply = httpJson code status body ∧ '\n' ∉ status ∧
    (∀ text ∈ answer.strings, ∀ c ∈ jsonEscape text, c ∈ body) ∧
      (answer.Plain → ∃ doc, Denotes body doc ∧ Carries doc answer)

theorem Replies.wellFormed_iff {reply : Text} {answer : Answer} (h : Replies reply answer) :
    WellFormed reply answer ↔ answer.Plain := by
  obtain ⟨code, status, body, rfl, hs, hstrings, hdoc⟩ := h
  constructor
  · intro hw text ht c hc hl
    obtain ⟨doc, hd, -⟩ := hw.body
    rw [bodyOf_httpJson hs] at hd
    by_contra hne
    have hb := hd.isBlank_of_control (hstrings text ht c (mem_jsonEscape hc hl hne)) hl
    simp only [isBlank, Bool.or_eq_true, decide_eq_true_iff] at hb
    rcases hb with ((rfl | hb) | hb) | hb
    · cases hl
    · exact hne (.inr (.inr hb))
    · exact hne (.inl hb)
    · exact hne (.inr (.inl hb))
  · intro hp
    refine ⟨hasLength_httpJson hs, ?_⟩
    rw [bodyOf_httpJson hs]
    exact hdoc hp

section Handlers

variable {callbacks : ControlCallbacks σ} {method : Text} {s : PrivateControlServer} {x : σ}

theorem Replies.of_document {code : ℕ} {status : Text} (hs : '\n' ∉ status) (w : Written) :
    Replies (httpJson code status w.text) .silent :=
  ⟨code, status, w.text, rfl, hs, fun _ ht ↦ absurd ht List.not_mem_nil,
    fun _ ↦ ⟨w.value, w.denotes, trivial⟩⟩

theorem modeReply_replies (targetMode : PrivateWorkMode) (r : PrivateControlResult) :
    Replies (modeReply targetMode r) (.result r) := by
  obtain ⟨code, status, body, he, hs, hm, hd⟩ := modeReply_document targetMode r
  refine ⟨code, status, body, he, hs, ?_, ?_⟩
  · intro text ht
    rwa [List.mem_singleton.mp ht]
  · intro hp
    rw [hd (hp _ List.mem_cons_self)]
    exact ⟨_, Written.denotes _, rfl⟩

theorem Replies.silent {reply : Text} {answer : Answer} (h : Replies reply answer)
    (hp : answer.Plain) : Replies reply .silent := by
  obtain ⟨code, status, body, he, hs, -, hdoc⟩ := h
  obtain ⟨doc, hd, -⟩ := hdoc hp
  exact ⟨code, status, body, he, hs, fun _ ht ↦ absurd ht List.not_mem_nil,
    fun _ ↦ ⟨doc, hd, trivial⟩⟩

theorem handleModeRequest_replies (modeName : Text) :
    Replies (handleModeRequest callbacks.mode method modeName s x).1
      (answerTo callbacks x (modeCallbackOf method modeName)) := by
  unfold handleModeRequest modeCallbackOf
  rcases passesMethod_cases method with ⟨hm, hp⟩ | ⟨hm, hp⟩
  · rw [if_pos hm, if_neg hp, ← methodDocument_text]
    exact .of_document (by decide) _
  · rw [if_neg hm, if_pos hp]
    cases PrivateWorkMode.fromCommandName modeName with
    | none =>
      dsimp only
      rw [← unsupportedModeDocument_text]
      exact .of_document (by decide) _
    | some targetMode =>
      rw [Option.map_some, answerTo]
      cases callbacks.mode with
      | none => exact (modeReply_replies targetMode _).silent (by decide)
      | some callback => exact modeReply_replies targetMode _

theorem NamesControl.escapable {subPath : Text} {req : PrivateCompositeControlRequest}
    (h : NamesControl subPath req) : Escapable req.name ∧ Escapable req.valueName := by
  have hall : ∀ control ∈ controls, ∀ entry ∈ control.values,
      Escapable control.name ∧ Escapable entry.1.2 := by decide
  obtain ⟨control, hc, entry, hm, rfl⟩ := h.mem_controls
  exact hall control hc entry hm

theorem escapable_of_callbackOf {request : Text} {req : PrivateCompositeControlRequest}
    (h : callbackOf request = some (.composite req)) : Escapable req.valueName := by
  obtain ⟨-, hr⟩ := callbackOf_eq_some_iff.mp h
  generalize parsePath request = path at hr
  cases hr with
  | composite hn => exact hn.escapable.2

theorem compositeReply_replies {req : PrivateCompositeControlRequest} (hn : Escapable req.name)
    (hv : Escapable req.valueName) (r : PrivateControlResult) :
    Replies (compositeReply req r) (.result r) := by
  obtain ⟨code, status, body, he, hs, hm, hd⟩ := compositeReply_document req r
  refine ⟨code, status, body, he, hs, ?_, ?_⟩
  · intro text ht
    rwa [List.mem_singleton.mp ht]
  · intro hp
    rw [hd hn hv (hp _ List.mem_cons_self)]
    exact ⟨_, Written.denotes _, rfl⟩

theorem handleCompositeRequest_replies (subPath : Text) :
    Replies (handleCompositeRequest callbacks.composite method subPath s x).1
      (answerTo callbacks x (compositeCallbackOf method subPath)) := by
  unfold handleCompositeRequest compositeCallbackOf
  rcases passesMethod_cases method with ⟨hm, hp⟩ | ⟨hm, hp⟩
  · rw [if_pos hm, if_neg hp, ← methodDocument_text]
    exact .of_document (by decide) _
  · rw [if_neg hm, if_pos hp]
    cases hparse : parseCompositeControlPath subPath with
    | none =>
      dsimp only
      rw [← unsupportedCompositeDocument_text]
      exact .of_document (by decide) _
    | some req =>
      obtain ⟨hn, hv⟩ := (parseCompositeControlPath_eq_some_iff.mp hparse).escapable
      rw [Option.map_some, answerTo]
      cases callbacks.composite with
      | none => exact (compositeReply_replies hn hv _).silent (by decide)
      | some callback => exact compositeReply_replies hn hv _

theorem escapableItem_iff {item : PrivateCompositeRegisterValue} :
    EscapableItem item ↔
      ∀ text ∈ [item.name, item.displayName, item.valueName], Escapable text := by
  constructor
  · intro h
    simp [h.name, h.displayName, h.valueName]
  · intro h
    exact ⟨h _ (by simp), h _ (by simp), h _ (by simp)⟩

theorem mem_registerJson {item : PrivateCompositeRegisterValue} {text : Text} {c : Char}
    (ht : text ∈ [item.name, item.displayName, item.valueName]) (hc : c ∈ jsonEscape text) :
    c ∈ registerJson item := by
  unfold registerJson
  simp only [List.mem_cons, List.not_mem_nil, or_false] at ht
  rcases ht with rfl | rfl | rfl <;> simp only [List.mem_append, hc, true_or, or_true]

theorem carries_registers {registers : List PrivateCompositeRegisterValue}
    (h : ∀ item ∈ registers, EscapableItem item) :
    List.Forall₂ CarriesItem ((registers.pmap registerDocument h).map Written.value) registers := by
  induction registers with
  | nil => exact .nil
  | cons item rest ih =>
    exact .cons ⟨rfl, rfl, rfl⟩ (ih fun item hi ↦ h item (List.mem_cons_of_mem _ hi))

theorem configReply_replies (r : PrivateCompositeConfigSnapshot) :
    Replies (configReply r) (.snapshot r) := by
  obtain ⟨code, status, body, he, hs, hm, hitems, hd⟩ := configReply_document r
  refine ⟨code, status, body, he, hs, ?_, ?_⟩
  · intro text ht c hc
    rcases List.mem_cons.mp ht with rfl | ht
    · exact hm c hc
    · obtain ⟨item, hi, ht⟩ := List.mem_flatMap.mp ht
      exact hitems item hi c (mem_registerJson ht hc)
  · intro hp
    have hall : ∀ item ∈ r.registers, EscapableItem item := fun item hi ↦
      escapableItem_iff.mpr fun text ht ↦
        hp text (List.mem_cons_of_mem _ (List.mem_flatMap.mpr ⟨item, hi, ht⟩))
    rw [hd (hp _ List.mem_cons_self) hall]
    exact ⟨_, Written.denotes _, rfl, _, rfl, carries_registers hall⟩

theorem handleCompositeConfigRequest_replies :
    Replies (handleCompositeConfigRequest callbacks.configQuery method x).1
      (answerTo callbacks x (configCallbackOf method)) := by
  unfold handleCompositeConfigRequest configCallbackOf
  rcases passesMethod_cases method with ⟨hm, hp⟩ | ⟨hm, hp⟩ <;> rw [and_comm] at hm
  · rw [if_pos hm, if_neg hp, ← configMethodDocument_text]
    exact .of_document (by decide) _
  · rw [if_neg hm, if_pos hp, answerTo]
    cases callbacks.configQuery with
    | none => exact (configReply_replies _).silent (by decide)
    | some callback => exact configReply_replies _

theorem escapableState_initial (port : UInt16) : EscapableState { port := port } := by
  have hcolor : Escapable "forest".toList := by decide
  have hcontour : Escapable "off".toList := by decide
  have hpolarity : Escapable "white_hot".toList := by decide
  exact ⟨hcolor, hcontour, hpolarity⟩

theorem commit_escapable (hs : EscapableState s) {outcome : Outcome}
    (h : ∀ req, outcome.1 = .composite req → Escapable req.valueName) :
    EscapableState (s.commit outcome) := by
  obtain ⟨call, ok⟩ := outcome
  cases ok with
  | false => exact hs
  | true =>
    cases call with
    | mode targetMode => exact ⟨hs.fusionColor, hs.contourMode, hs.infraredPolarity⟩
    | configQuery => exact hs
    | composite req =>
      have hvalue := h req rfl
      obtain ⟨kind, name, valueName, value⟩ := req
      cases kind with
      | unknown => exact hs
      | fusionColor => exact ⟨hvalue, hs.contourMode, hs.infraredPolarity⟩
      | contourMode => exact ⟨hs.fusionColor, hvalue, hs.infraredPolarity⟩
      | infraredPolarity => exact ⟨hs.fusionColor, hs.contourMode, hvalue⟩

theorem handleHttpRequest_escapable (hs : EscapableState s) (request : Text) :
    EscapableState (handleHttpRequest callbacks request s x).2.1 := by
  rw [(handleHttpRequest_handles id callbacks s x [] request).state]
  cases hout : (callbackOf request).bind (callbacks.outcomeOf x) with
  | none => exact hs
  | some outcome =>
    obtain ⟨call, hcall, hout⟩ := Option.bind_eq_some_iff.mp hout
    obtain rfl := ControlCallbacks.outcomeOf_fst hout
    exact commit_escapable hs fun req hreq ↦ escapable_of_callbackOf (hreq ▸ hcall)

theorem handleHttpRequest_replies (hs : EscapableState s) (request : Text) :
    Replies (handleHttpRequest callbacks request s x).1
      (answerTo callbacks x (callbackOf request)) := by
  unfold handleHttpRequest callbackOf
  dsimp only
  split
  · rw [statusDocument_text s hs]
    exact .of_document (by decide) _
  split
  · exact handleModeRequest_replies _
  by_cases hc : isConfigPath (parsePath request) = true
  · rw [if_pos hc, if_pos (isConfigPath_iff.mp hc)]
    exact @handleCompositeConfigRequest_replies σ callbacks (parseMethod request) x
  · rw [if_neg hc, if_neg fun h ↦ hc (isConfigPath_iff.mpr h)]
    split
    · exact handleCompositeRequest_replies _
    · rw [← unknownApiDocument_text]
      exact .of_document (by decide) _

end Handlers

section Runs

variable (callbacks : ControlCallbacks σ) (port : UInt16) (x : σ)

def serve (y : PrivateControlServer × σ) (request : Text) : Text × PrivateControlServer × σ :=
  handleHttpRequest callbacks request y.1 y.2

def served (requests : List Text) : PrivateControlServer × σ :=
  Runs.exec (Simulation.next (serve callbacks)) ({ port := port }, x) requests

theorem served_escapable (requests : List Text) :
    EscapableState (served callbacks port x requests).1 := by
  have hstep : ∀ (y : PrivateControlServer × σ) (request : Text), EscapableState y.1 →
      EscapableState (Simulation.next (serve callbacks) y request).1 :=
    fun y request hs ↦ handleHttpRequest_escapable hs request
  exact Runs.exec_invariant hstep (escapableState_initial port) requests

theorem serve_replies (requests : List Text) (request : Text) :
    let y := served callbacks port x requests
    Replies (serve callbacks y request).1 (answerTo callbacks y.2 (callbackOf request)) :=
  handleHttpRequest_replies (served_escapable callbacks port x requests) request

/-- The reply to any request is well formed exactly if the callback's strings are plain. -/
theorem reply_wellFormed_iff (requests : List Text) (request : Text) :
    let y := served callbacks port x requests
    let answer := answerTo callbacks y.2 (callbackOf request)
    WellFormed (serve callbacks y request).1 answer ↔ answer.Plain :=
  (serve_replies callbacks port x requests request).wellFormed_iff

theorem control_character_unescaped :
    ¬∀ (callbacks : ControlCallbacks Unit) (port : UInt16) (requests : List Text) (request : Text),
      let y := served callbacks port () requests
      WellFormed (serve callbacks y request).1 (answerTo callbacks y.2 (callbackOf request)) := by
  intro h
  let callbacks : ControlCallbacks Unit :=
    { mode := some fun _ x ↦ ({ ok := true, message := ['\x01'] }, x) }
  let request : Text := "POST /api/v1/mode/visible HTTP/1.1\r\n\r\n"
  have hplain := (serve_replies callbacks 18080 () [] request).wellFormed_iff.mp
    (h callbacks 18080 [] request)
  exact absurd hplain (by decide)

end Runs

end TriFusion.Protocol.PrivateControlServer
