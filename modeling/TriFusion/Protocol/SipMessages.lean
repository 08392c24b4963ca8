import TriFusion.Foundation.YamlOutline
import TriFusion.Library.Fields
import TriFusion.Protocol.PlayProbeSip

namespace TriFusion.Protocol

open Foundation Library

abbrev SipMessage := Fields.Message Char

namespace SipMessage

def ofText (text : Text) : SipMessage := Fields.Message.read '\r' '\n' ':' text

def text (m : SipMessage) : Text := Fields.Message.print '\r' '\n' ':' m

def fieldValue (m : SipMessage) (name : Text) : Option Text :=
  (m.fields.find? fun field ↦ lower field.1 == lower name).map Prod.snd

def field (m : SipMessage) (name : Text) : Text := Str.trim ((m.fieldValue name).getD [])

def sequence (m : SipMessage) : Int32 :=
  let value := (m.fieldValue "CSeq").getD []
  (stoi ((value.dropWhile isSpace).takeWhile fun c ↦ !isSpace c)).getD 0

end SipMessage

/-- What an answer has of its request: the sender of the request knows the answer by it. -/
structure Transaction where
  via : Text
  «from» : Text
  «to» : Text
  callId : Text
  cseq : Text
  deriving DecidableEq

def Transaction.ofFields (field : Text → Text) : Transaction :=
  ⟨field "Via", field "From", field "To", field "Call-ID", field "CSeq"⟩

/-- What a receiver makes of a message that the play probe sends. -/
inductive SipSent
  | register (sequence : Int32)
  | keepalive (sequence : Int32) (sn : Text)
  | notify (sequence : Int32) (cmdType sn : Text)
  | ok (transaction : Transaction)
  | accept (transaction : Transaction) (sdp : Text)
  deriving DecidableEq

def SipMessage.Framed (m : SipMessage) : Prop := m.field "Content-Length" = decimal m.body.length

instance (m : SipMessage) : Decidable m.Framed := inferInstanceAs (Decidable (_ = _))

/-- A message that is not framed is dropped. -/
def SipMessage.sent (m : SipMessage) : Option SipSent :=
  if ¬m.Framed then none
  else if m.start = "SIP/2.0 200 OK" then
    if m.body = [] then some (.ok (.ofFields m.field))
    else some (.accept (.ofFields m.field) m.body)
  else if Str.startsWith m.start "REGISTER " then some (.register m.sequence)
  else if Str.startsWith m.start "MESSAGE " then
    let cmdType := Gb28181PlayProbe.getXmlValue m.body "CmdType"
    let sn := Gb28181PlayProbe.getXmlValue m.body "SN"
    if cmdType = "Keepalive" then some (.keepalive m.sequence sn)
    else some (.notify m.sequence cmdType sn)
  else none

section Sent

variable {m : SipMessage}

theorem SipMessage.Framed.sent_ok (h : m.Framed) (hstart : m.start = "SIP/2.0 200 OK")
    (hbody : m.body = []) : m.sent = some (.ok (.ofFields m.field)) := by
  rw [SipMessage.sent, if_neg (not_not.mpr h), if_pos hstart, if_pos hbody]

theorem SipMessage.Framed.sent_accept (h : m.Framed) (hstart : m.start = "SIP/2.0 200 OK")
    (hbody : m.body ≠ []) : m.sent = some (.accept (.ofFields m.field) m.body) := by
  rw [SipMessage.sent, if_neg (not_not.mpr h), if_pos hstart, if_neg hbody]

theorem SipMessage.Framed.sent_register (h : m.Framed) {rest : Text}
    (hstart : m.start = "REGISTER ".toList ++ rest) : m.sent = some (.register m.sequence) := by
  have hok : m.start ≠ "SIP/2.0 200 OK" := by
    rw [hstart]
    exact fun he ↦ absurd (List.cons.inj he).1 (by decide)
  rw [SipMessage.sent, if_neg (not_not.mpr h), if_neg hok, hstart, if_pos]
  exact List.isPrefixOf_iff_prefix.mpr (List.prefix_append _ rest)

theorem SipMessage.Framed.sent_message (h : m.Framed) {rest : Text}
    (hstart : m.start = "MESSAGE ".toList ++ rest) : m.sent =
      if Gb28181PlayProbe.getXmlValue m.body "CmdType" = "Keepalive" then
        some (.keepalive m.sequence (Gb28181PlayProbe.getXmlValue m.body "SN"))
      else
        some (.notify m.sequence (Gb28181PlayProbe.getXmlValue m.body "CmdType")
          (Gb28181PlayProbe.getXmlValue m.body "SN")) := by
  have hok : m.start ≠ "SIP/2.0 200 OK" := by
    rw [hstart]
    exact fun he ↦ absurd (List.cons.inj he).1 (by decide)
  have hregister : ¬Str.startsWith m.start "REGISTER " = true := by
    rw [hstart]
    intro he
    obtain ⟨tail, ht⟩ := List.isPrefixOf_iff_prefix.mp he
    have hhead : some 'R' = some 'M' := congrArg List.head? ht
    exact absurd hhead (by decide)
  rw [SipMessage.sent, if_neg (not_not.mpr h), if_neg hok, if_neg hregister, hstart, if_pos]
  exact List.isPrefixOf_iff_prefix.mpr (List.prefix_append _ rest)

end Sent

structure Gb28181Config.Lined (cfg : Gb28181Config) : Prop where
  deviceId : '\n' ∉ cfg.local.deviceId
  domain : '\n' ∉ cfg.local.domain
  ip : '\n' ∉ cfg.local.ip
  serverId : '\n' ∉ cfg.server.id
  serverDomain : '\n' ∉ cfg.server.domain

theorem get_lined {m : FlatConfig} (hm : ∀ entry ∈ m, Plain entry.2) (key : Text) {fallback : Text}
    (hf : '\n' ∉ fallback) : '\n' ∉ get m key fallback := by
  unfold get
  cases hl : m.lookup key with
  | none => exact hf
  | some v =>
    obtain ⟨before, after, he, -⟩ := List.lookup_eq_some_iff.mp hl
    have hv : (key, v) ∈ m := by
      rw [he]
      exact List.mem_append_right before List.mem_cons_self
    exact fun h ↦ (hm _ hv).2 (mem_unquote h)

theorem parseOptionalYaml_plain {ω : Type} {io : FileIo ω} {path : Text} {w : ω} {m : FlatConfig}
    (h : parseOptionalYaml io path w = .ok m) : ∀ entry ∈ m, Plain entry.2 := by
  unfold parseOptionalYaml at h
  cases hp : parseSimpleYaml io path w with
  | ok cfg =>
    rw [hp] at h
    obtain rfl := Except.ok.inj h
    unfold parseSimpleYaml at hp
    cases ht : io.readText path w with
    | error e =>
      rw [ht] at hp
      cases hp
    | ok text =>
      rw [ht] at hp
      obtain rfl := Except.ok.inj hp
      exact parseYamlText_plain text
  | error e =>
    rw [hp] at h
    dsimp only at h
    by_cases hc : e.code = .notFound ∨ e.code = .ioError
    · rw [if_pos hc] at h
      obtain rfl := Except.ok.inj h
      exact fun entry he ↦ absurd he List.not_mem_nil
    · rw [if_neg hc] at h
      cases h

theorem loaded_lined {ω : Type} {io : FileIo ω} {path : Text} {w : ω} {cfg : Gb28181Config}
    (h : ProtocolConfigLoader.loadGb28181 io path w = .ok cfg) : cfg.Lined := by
  unfold ProtocolConfigLoader.loadGb28181 ProtocolConfigLoader.load at h
  cases hp : parseOptionalYaml io path w with
  | error e =>
    rw [hp] at h
    cases h
  | ok m =>
    rw [hp] at h
    dsimp only at h
    have hm := parseOptionalYaml_plain hp
    obtain rfl : ProtocolConfigLoader.readGb28181 m = cfg := by
      split at h
      · cases h
      · exact Except.ok.inj h
    constructor
    case deviceId => exact get_lined hm _ (by decide)
    case domain => exact get_lined hm _ (by decide)
    case ip => exact get_lined hm _ (by decide)
    case serverId => exact get_lined hm _ (by decide)
    case serverDomain => exact get_lined hm _ (by decide)

theorem trimmed_trim (s : Text) : Trimmed (Str.trim s) := by
  have hhead (l : Text) : ∀ c ∈ (l.dropWhile isSpace).head?, isSpace c = false := by
    intro c hc
    have h := List.head?_dropWhile_not isSpace l
    rw [Option.mem_def.mp hc] at h
    exact h
  unfold Str.trim
  generalize hd : s.dropWhile isSpace = d
  have hfirst := hhead s
  rw [hd] at hfirst
  constructor
  · intro c hc
    obtain ⟨rest, hrest⟩ := List.dropWhile_suffix (l := d.reverse) isSpace
    have hprefix := congrArg List.reverse hrest
    rw [List.reverse_append, List.reverse_reverse] at hprefix
    refine hfirst c ?_
    rw [← hprefix, List.head?_append, Option.mem_def.mp hc]
    rfl
  · intro c hc
    rw [List.getLast?_reverse] at hc
    exact hhead _ c hc

theorem trim_trim (s : Text) : Str.trim (Str.trim s) = Str.trim s := (trimmed_trim s).trim

theorem trim_of_no_space {s : Text} (h : ∀ c ∈ s, isSpace c = false) : Str.trim s = s :=
  Trimmed.trim ⟨fun c hc ↦ h c (List.mem_of_mem_head? hc), fun c hc ↦ h c (List.mem_of_getLast? hc)⟩

theorem not_isSpace_of_mem_decimal {n : ℕ} {c : Char} (h : c ∈ decimal n) : isSpace c = false :=
  not_isSpace_of_isDigit (isDigit_of_mem_decimal h)

theorem trim_decimal (n : ℕ) : Str.trim (' ' :: decimal n) = decimal n :=
  (trim_padding 1 _).trans (trim_of_no_space fun _ ↦ not_isSpace_of_mem_decimal)

theorem not_isSpace_of_mem_intText {n : Int32} {c : Char} (h : c ∈ intText n) :
    isSpace c = false := by
  unfold intText at h
  cases hn : n.toInt with
  | ofNat n =>
    rw [hn] at h
    exact not_isSpace_of_mem_decimal h
  | negSucc n =>
    rw [hn] at h
    rcases List.mem_cons.mp h with rfl | h
    · decide
    · exact not_isSpace_of_mem_decimal h

theorem intText_ne_nil (n : Int32) : intText n ≠ [] := by
  unfold intText
  cases n.toInt with
  | ofNat n => exact decimal_ne_nil n
  | negSucc n => exact List.cons_ne_nil _ _

theorem trim_intText (n : Int32) : Str.trim (intText n) = intText n :=
  trim_of_no_space fun _ ↦ not_isSpace_of_mem_intText

theorem not_mem_decimal {c : Char} (hc : c.isDigit = false) (n : ℕ) : c ∉ decimal n := by
  intro h
  rw [isDigit_of_mem_decimal h] at hc
  cases hc

theorem not_mem_signedDecimal {c : Char} (hc : c.isDigit = false) (hm : c ≠ '-') (n : ℤ) :
    c ∉ signedDecimal n := by
  cases n with
  | ofNat n => exact not_mem_decimal hc n
  | negSucc n =>
    intro h
    rcases List.mem_cons.mp h with h | h
    · exact hm h
    · exact not_mem_decimal hc (n + 1) h

theorem sequence_of {m : SipMessage} {n : Int32} {method : Text}
    (h : m.fieldValue "CSeq" = some (' ' :: (intText n ++ ' ' :: method))) : m.sequence = n := by
  obtain ⟨c, rest, hd⟩ := List.exists_cons_of_ne_nil (intText_ne_nil n)
  have hc : isSpace c = false := not_isSpace_of_mem_intText (by rw [hd]; exact List.mem_cons_self)
  have hdrop : (' ' :: (intText n ++ ' ' :: method)).dropWhile isSpace =
      intText n ++ ' ' :: method := by
    rw [List.dropWhile_cons_of_pos (by decide), hd, List.cons_append,
      List.dropWhile_cons_of_neg (by rw [hc]; decide)]
  have htake : (intText n ++ ' ' :: method).takeWhile (fun c ↦ !isSpace c) = intText n := by
    rw [List.takeWhile_append_of_pos fun c hc ↦ by rw [not_isSpace_of_mem_intText hc]; rfl,
      List.takeWhile_cons_of_neg (by decide), List.append_nil]
  have hread : stoi (intText n) = some n := stoi_signedDecimal n
  rw [SipMessage.sequence, h, Option.getD_some, hdrop, htake, hread, Option.getD_some]

namespace Gb28181PlayProbe

variable {cfg : Gb28181Config}

def FieldsLined (fields : List (Text × Text)) : Prop :=
  ∀ field ∈ fields, ':' ∉ field.1 ∧ '\n' ∉ field.1 ∧ '\n' ∉ field.2

theorem FieldsLined.cons {fields : List (Text × Text)} (h : FieldsLined fields) {name value : Text}
    (hname : ':' ∉ name ∧ '\n' ∉ name) (hvalue : '\n' ∉ value) :
    FieldsLined ((name, value) :: fields) := by
  intro field hf
  rcases List.mem_cons.mp hf with rfl | hf
  · exact ⟨hname.1, hname.2, hvalue⟩
  · exact h field hf

theorem FieldsLined.append {first second : List (Text × Text)} (h₁ : FieldsLined first)
    (h₂ : FieldsLined second) : FieldsLined (first ++ second) := by
  intro field hf
  rcases List.mem_append.mp hf with hf | hf
  · exact h₁ field hf
  · exact h₂ field hf

theorem fieldsLined_nil : FieldsLined [] := fun _ hf ↦ absurd hf List.not_mem_nil

theorem ofText_sipText {start : Text} (hstart : start ≠ [] ∧ '\n' ∉ start)
    {fields : List (Text × Text)} (hfields : FieldsLined fields) (body : Text) :
    SipMessage.ofText (sipText (start :: fields.map (Fields.Message.line ':')) body) =
      ⟨start, fields, body⟩ := by
  have hprint : sipText (start :: fields.map (Fields.Message.line ':')) body =
      Fields.Message.print '\r' '\n' ':' ⟨start, fields, body⟩ := by
    rw [sipText, crlf, Fields.Message.print, List.append_assoc]
    rfl
  rw [SipMessage.ofText, hprint]
  exact Fields.Message.read_print (by decide) (by decide) ⟨hstart, hfields⟩

theorem newline_not_mem_getHeaderLine (msg name : Text) : '\n' ∉ getHeaderLine msg name := by
  unfold getHeaderLine
  dsimp only
  split
  · exact List.not_mem_nil
  · rename_i line hf
    intro h
    obtain ⟨raw, hraw, rfl⟩ := List.mem_map.mp (List.mem_of_find?_eq_some hf)
    refine not_mem_of_mem_getlines hraw ?_
    have hline := (List.dropWhile_sublist _).subset (List.mem_of_mem_drop h)
    unfold dropReturn at hline
    split at hline
    · exact (List.dropLast_sublist raw).subset hline
    · exact hline

def messageTransaction (msg : Text) : Transaction :=
  .ofFields fun name ↦ Str.trim (getHeaderLine msg name)

theorem sent_messageOk (msg : Text) :
    (SipMessage.ofText (messageOk msg)).sent = some (.ok (messageTransaction msg)) := by
  have hline := newline_not_mem_getHeaderLine msg
  have hid : '\n' ∉ Str.trim (getHeaderLine msg "Call-ID") := fun h ↦ hline _ (mem_trim h)
  let fields : List (Text × Text) :=
    [("Via", getHeaderLine msg "Via"), ("From", getHeaderLine msg "From"),
      ("To", getHeaderLine msg "To"), ("Call-ID", Str.trim (getHeaderLine msg "Call-ID")),
      ("CSeq", getHeaderLine msg "CSeq"),
      ("User-Agent", " TriFusionCamera-L8-GB28181-Play-Probe"), ("Content-Length", " 0")]
  have hstart : "SIP/2.0 200 OK".toList ≠ [] ∧ '\n' ∉ "SIP/2.0 200 OK".toList := by decide
  have hfields : FieldsLined fields :=
    fieldsLined_nil |>.cons (by decide) (by decide) |>.cons (by decide) (by decide)
      |>.cons (by decide) (hline "CSeq") |>.cons (by decide) hid |>.cons (by decide) (hline "To")
      |>.cons (by decide) (hline "From") |>.cons (by decide) (hline "Via")
  have hread : SipMessage.ofText (messageOk msg) = ⟨"SIP/2.0 200 OK", fields, []⟩ :=
    ofText_sipText hstart hfields []
  have hsize : SipMessage.Framed ⟨"SIP/2.0 200 OK", fields, []⟩ := trim_decimal 0
  have hcall : Transaction.ofFields (SipMessage.field ⟨"SIP/2.0 200 OK", fields, []⟩) =
      messageTransaction msg :=
    congrArg (Transaction.mk _ _ _ · _) (trim_trim (getHeaderLine msg "Call-ID"))
  rw [hread, hsize.sent_ok rfl rfl, hcall]

section Requests

variable (cfg) (cseq : Int32) (branch callId : Text)

def viaValue : Text :=
  " SIP/2.0/UDP " ++ cfg.local.ip ++ ":" ++ portText cfg.local.port ++ ";branch=" ++ branch ++
    ";rport"

def fromValue (tag : Text) : Text :=
  " <sip:" ++ cfg.local.deviceId ++ "@" ++ cfg.local.domain ++ ">;tag=" ++ tag

def registerFields : List (Text × Text) :=
  [("Via", viaValue cfg branch), ("From", fromValue cfg "tri-fusion"),
    ("To", " <sip:" ++ cfg.local.deviceId ++ "@" ++ cfg.local.domain ++ ">"),
    ("Call-ID", " " ++ callId), ("CSeq", " " ++ intText cseq ++ " REGISTER"),
    ("Contact", " <sip:" ++ cfg.local.deviceId ++ "@" ++ cfg.local.ip ++ ":" ++
      portText cfg.local.port ++ ">"),
    ("Max-Forwards", " 70"), ("User-Agent", " TriFusionCamera-L8-GB28181-Play-Probe"),
    ("Expires", " " ++ intText cfg.reg.expiresSec)]

variable {cfg branch callId}

theorem viaValue_lined (h : cfg.Lined) (hb : '\n' ∉ branch) : '\n' ∉ viaValue cfg branch := by
  unfold viaValue
  simp only [List.append_assoc, List.mem_append, not_or]
  exact ⟨by decide, h.ip, by decide, not_mem_decimal (by decide) _, by decide, hb, by decide⟩

theorem fromValue_lined (h : cfg.Lined) {tag : Text} (ht : '\n' ∉ tag) :
    '\n' ∉ fromValue cfg tag := by
  unfold fromValue
  simp only [List.append_assoc, List.mem_append, not_or]
  exact ⟨by decide, h.deviceId, by decide, h.domain, by decide, ht⟩

theorem registerFields_lined (h : cfg.Lined) (hb : '\n' ∉ branch) (hc : '\n' ∉ callId) :
    FieldsLined (registerFields cfg cseq branch callId) := by
  have hto : '\n' ∉ (" <sip:" ++ cfg.local.deviceId ++ "@" ++ cfg.local.domain ++ ">" : Text) := by
    simp only [List.append_assoc, List.mem_append, not_or]
    exact ⟨by decide, h.deviceId, by decide, h.domain, by decide⟩
  have hcontact : '\n' ∉ (" <sip:" ++ cfg.local.deviceId ++ "@" ++ cfg.local.ip ++ ":" ++
      portText cfg.local.port ++ ">" : Text) := by
    simp only [List.append_assoc, List.mem_append, not_or]
    exact ⟨by decide, h.deviceId, by decide, h.ip, by decide, not_mem_decimal (by decide) _,
      by decide⟩
  have hcseq : '\n' ∉ (" " ++ intText cseq ++ " REGISTER" : Text) :=
    List.not_mem_append (List.not_mem_append (by decide)
      (not_mem_signedDecimal (by decide) (by decide) _)) (by decide)
  have hexpires : '\n' ∉ (" " ++ intText cfg.reg.expiresSec : Text) :=
    List.not_mem_append (by decide) (not_mem_signedDecimal (by decide) (by decide) _)
  exact fieldsLined_nil |>.cons (by decide) hexpires |>.cons (by decide) (by decide)
    |>.cons (by decide) (by decide) |>.cons (by decide) hcontact |>.cons (by decide) hcseq
    |>.cons (by decide) (List.not_mem_append (by decide) hc) |>.cons (by decide) hto
    |>.cons (by decide) (fromValue_lined h (by decide))
    |>.cons (by decide) (viaValue_lined h hb)

theorem serverUri_lined (h : cfg.Lined) : '\n' ∉ serverUri cfg := by
  unfold serverUri
  simp only [List.append_assoc, List.mem_append, not_or]
  exact ⟨by decide, h.serverId, by decide, h.serverDomain⟩

theorem ofText_register (h : cfg.Lined) (hb : '\n' ∉ branch) (hc : '\n' ∉ callId)
    {extra : List (Text × Text)} (he : FieldsLined extra) :
    SipMessage.ofText (sipText (registerLines cfg cseq branch callId ++
        extra.map (Fields.Message.line ':')) []) =
      ⟨"REGISTER " ++ serverUri cfg ++ " SIP/2.0", registerFields cfg cseq branch callId ++ extra,
        []⟩ := by
  have hstart : ("REGISTER " ++ serverUri cfg ++ " SIP/2.0" : Text) ≠ [] ∧
      '\n' ∉ ("REGISTER " ++ serverUri cfg ++ " SIP/2.0" : Text) :=
    ⟨List.append_ne_nil_of_right_ne_nil _ (by decide),
      List.not_mem_append (List.not_mem_append (by decide) (serverUri_lined h)) (by decide)⟩
  have hlines : registerLines cfg cseq branch callId =
      ("REGISTER " ++ serverUri cfg ++ " SIP/2.0") ::
        (registerFields cfg cseq branch callId).map (Fields.Message.line ':') := rfl
  rw [hlines, List.cons_append, ← List.map_append]
  exact ofText_sipText hstart ((registerFields_lined cseq h hb hc).append he) []

theorem contentLength_eq : "Content-Length: 0".toList =
    Fields.Message.line ':' ("Content-Length".toList, " 0".toList) := rfl

/-- A REGISTER is read by its number, whatever other fields it has. -/
theorem sent_register (h : cfg.Lined) (hb : '\n' ∉ branch) (hc : '\n' ∉ callId)
    {extra : List (Text × Text)} (he : FieldsLined extra)
    (hsize : SipMessage.Framed ⟨"REGISTER " ++ serverUri cfg ++ " SIP/2.0",
      registerFields cfg cseq branch callId ++ extra, []⟩) :
    (SipMessage.ofText (sipText (registerLines cfg cseq branch callId ++
        extra.map (Fields.Message.line ':')) [])).sent = some (.register cseq) := by
  have hstart := List.append_assoc "REGISTER ".toList (serverUri cfg) " SIP/2.0".toList
  rw [ofText_register cseq h hb hc he, hsize.sent_register hstart]
  exact congrArg (some ∘ SipSent.register) (sequence_of rfl)

theorem sent_registerNoAuth (h : cfg.Lined) (hb : '\n' ∉ branch) (hc : '\n' ∉ callId) :
    (SipMessage.ofText (buildRegisterNoAuth cfg cseq branch callId)).sent =
      some (.register cseq) := by
  have hextra : FieldsLined [("Content-Length".toList, " 0".toList)] :=
    fieldsLined_nil.cons (by decide) (by decide)
  have hsent := sent_register cseq h hb hc hextra (trim_decimal 0)
  rw [List.map_singleton, ← contentLength_eq] at hsent
  exact hsent

theorem not_mem_md5Hex {c : Char} (hdigit : ∀ n < 16, Nat.digitChar n ≠ c)
    (md5 : Text → List UInt8) (text : Text) : c ∉ md5Hex md5 text := by
  intro h
  obtain ⟨b, -, hc⟩ := List.mem_flatMap.mp h
  have hlt := b.toNat_lt
  rcases List.mem_pair.mp hc with hc | hc
  · exact hdigit _ (by omega) hc.symm
  · exact hdigit _ (by omega) hc.symm

theorem not_mem_digestResponse {c : Char} (hdigit : ∀ n < 16, Nat.digitChar n ≠ c)
    (cfg : Gb28181Config) (md5 : Text → List UInt8) (realm nonce qop : Text) :
    c ∉ digestResponse cfg md5 realm nonce qop := by
  unfold digestResponse
  dsimp only
  split <;> exact not_mem_md5Hex hdigit md5 _

theorem authExtra_lined {qop : Text} (hq : '\n' ∉ qop) : '\n' ∉ authExtra qop := by
  unfold authExtra
  split
  · exact List.not_mem_append (List.not_mem_append (by decide) hq) (by decide)
  · exact List.not_mem_nil

def authorizationValue (cfg : Gb28181Config) (md5 : Text → List UInt8) (realm nonce qop : Text) :
    Text :=
  " Digest username=\"" ++ cfg.local.deviceId ++ "\", realm=\"" ++ realm ++ "\", nonce=\"" ++
    nonce ++ "\", uri=\"" ++ serverUri cfg ++ "\", response=\"" ++
    digestResponse cfg md5 realm nonce qop ++ "\", algorithm=MD5" ++ authExtra qop

theorem authorizationValue_lined (h : cfg.Lined) (md5 : Text → List UInt8) {realm nonce qop : Text}
    (hr : '\n' ∉ realm) (hn : '\n' ∉ nonce) (hq : '\n' ∉ qop) :
    '\n' ∉ authorizationValue cfg md5 realm nonce qop := by
  unfold authorizationValue
  simp only [List.append_assoc, List.mem_append, not_or]
  exact ⟨by decide, h.deviceId, by decide, hr, by decide, hn, by decide, serverUri_lined h,
    by decide, not_mem_digestResponse (by decide) cfg md5 realm nonce qop, by decide,
    authExtra_lined hq⟩

theorem authorizationLine_eq (cfg : Gb28181Config) (md5 : Text → List UInt8)
    (realm nonce qop : Text) : authorizationLine cfg md5 realm nonce qop =
      Fields.Message.line ':'
        ("Authorization".toList, authorizationValue cfg md5 realm nonce qop) := by
  unfold authorizationLine authorizationValue Fields.Message.line
  generalize digestResponse cfg md5 realm nonce qop = response
  generalize authExtra qop = extra
  rfl

def authorizationFields (cfg : Gb28181Config) (md5 : Text → List UInt8) (realm nonce qop : Text) :
    List (Text × Text) :=
  [("Authorization", authorizationValue cfg md5 realm nonce qop), ("Content-Length", " 0")]

theorem authorizationFields_lined (h : cfg.Lined) (md5 : Text → List UInt8) {realm nonce qop : Text}
    (hr : '\n' ∉ realm) (hn : '\n' ∉ nonce) (hq : '\n' ∉ qop) :
    FieldsLined (authorizationFields cfg md5 realm nonce qop) :=
  fieldsLined_nil |>.cons (by decide) (by decide)
    |>.cons (by decide) (authorizationValue_lined h md5 hr hn hq)

theorem buildRegisterAuth_eq (cfg : Gb28181Config) (md5 : Text → List UInt8)
    (cseq : Int32) (branch callId realm nonce qop : Text) :
    buildRegisterAuth cfg md5 cseq branch callId realm nonce qop =
      sipText (registerLines cfg cseq branch callId ++
        (authorizationFields cfg md5 realm nonce qop).map (Fields.Message.line ':')) [] := by
  unfold buildRegisterAuth authorizationFields
  rw [authorizationLine_eq, contentLength_eq, List.map_cons, List.map_singleton]

theorem sent_registerAuth (h : cfg.Lined) (hb : '\n' ∉ branch) (hc : '\n' ∉ callId)
    (md5 : Text → List UInt8) {realm nonce qop : Text}
    (hr : '\n' ∉ realm) (hn : '\n' ∉ nonce) (hq : '\n' ∉ qop) :
    (SipMessage.ofText (buildRegisterAuth cfg md5 cseq branch callId realm nonce qop)).sent =
      some (.register cseq) := by
  have hextra := authorizationFields_lined h md5 hr hn hq
  rw [buildRegisterAuth_eq]
  exact sent_register cseq h hb hc hextra (trim_decimal 0)

def messageFields (cfg : Gb28181Config) (tag : Text) (cseq : Int32)
    (branch callId xml : Text) : List (Text × Text) :=
  [("Via", viaValue cfg branch), ("From", fromValue cfg tag),
    ("To", " <sip:" ++ cfg.server.id ++ "@" ++ cfg.server.domain ++ ">"),
    ("Call-ID", " " ++ callId), ("CSeq", " " ++ intText cseq ++ " MESSAGE"),
    ("Max-Forwards", " 70"), ("User-Agent", " TriFusionCamera-L8-GB28181-Play-Probe"),
    ("Content-Type", " Application/MANSCDP+xml"),
    ("Content-Length", " " ++ decimal xml.length)]

theorem sent_messageText (h : cfg.Lined) {tag : Text} (ht : '\n' ∉ tag) (hb : '\n' ∉ branch)
    (hc : '\n' ∉ callId) (xml : Text) :
    (SipMessage.ofText (messageText cfg tag cseq branch callId xml)).sent =
      if getXmlValue xml "CmdType" = "Keepalive" then
        some (.keepalive cseq (getXmlValue xml "SN"))
      else some (.notify cseq (getXmlValue xml "CmdType") (getXmlValue xml "SN")) := by
  have hto : '\n' ∉ (" <sip:" ++ cfg.server.id ++ "@" ++ cfg.server.domain ++ ">" : Text) := by
    simp only [List.append_assoc, List.mem_append, not_or]
    exact ⟨by decide, h.serverId, by decide, h.serverDomain, by decide⟩
  have hcseq : '\n' ∉ (" " ++ intText cseq ++ " MESSAGE" : Text) :=
    List.not_mem_append (List.not_mem_append (by decide)
      (not_mem_signedDecimal (by decide) (by decide) _)) (by decide)
  have hlength : '\n' ∉ (" " ++ decimal xml.length : Text) :=
    List.not_mem_append (by decide) (not_mem_decimal (by decide) _)
  have hfields : FieldsLined (messageFields cfg tag cseq branch callId xml) :=
    fieldsLined_nil |>.cons (by decide) hlength |>.cons (by decide) (by decide)
      |>.cons (by decide) (by decide) |>.cons (by decide) (by decide) |>.cons (by decide) hcseq
      |>.cons (by decide) (List.not_mem_append (by decide) hc) |>.cons (by decide) hto
      |>.cons (by decide) (fromValue_lined h ht) |>.cons (by decide) (viaValue_lined h hb)
  have hstart : ("MESSAGE " ++ serverUri cfg ++ " SIP/2.0" : Text) ≠ [] ∧
      '\n' ∉ ("MESSAGE " ++ serverUri cfg ++ " SIP/2.0" : Text) :=
    ⟨List.append_ne_nil_of_right_ne_nil _ (by decide),
      List.not_mem_append (List.not_mem_append (by decide) (serverUri_lined h)) (by decide)⟩
  have hread : SipMessage.ofText (messageText cfg tag cseq branch callId xml) =
      ⟨"MESSAGE " ++ serverUri cfg ++ " SIP/2.0",
        messageFields cfg tag cseq branch callId xml, xml⟩ :=
    ofText_sipText hstart hfields xml
  have hsize : SipMessage.Framed ⟨"MESSAGE " ++ serverUri cfg ++ " SIP/2.0",
      messageFields cfg tag cseq branch callId xml, xml⟩ := trim_decimal xml.length
  have hmessage := List.append_assoc "MESSAGE ".toList (serverUri cfg) " SIP/2.0".toList
  rw [hread, hsize.sent_message hmessage, sequence_of rfl]

end Requests

section Bodies

theorem crlf_append (first second : List Text) :
    crlf (first ++ second) = crlf first ++ crlf second :=
  List.flatMap_append

theorem crlf_cons (line : Text) (lines : List Text) :
    crlf (line :: lines) = line ++ '\r' :: '\n' :: crlf lines := by
  unfold crlf EndedLines.ended
  rw [List.flatMap_cons, List.append_assoc]
  rfl

theorem crlf_not_infix {mark : Text} (hne : mark ≠ []) (hr : '\r' ∉ mark) (hn : '\n' ∉ mark)
    {lines : List Text} (hlines : lines ≠ []) (h : ∀ line ∈ lines, ¬mark <:+: line) :
    ∃ before, crlf lines = before ++ ['\n'] ∧ ¬mark <:+: before := by
  induction lines with
  | nil => exact absurd rfl hlines
  | cons line lines ih =>
    have hline := h line List.mem_cons_self
    have hempty : ¬mark <:+: [] := fun hi ↦ hne (List.infix_nil.mp hi)
    cases lines with
    | nil =>
      refine ⟨line ++ ['\r'], ?_, Search.not_infix_append hr hne hline hempty⟩
      rw [crlf_cons, List.append_assoc]
      rfl
    | cons next lines =>
      obtain ⟨before, he, hb⟩ := ih (List.cons_ne_nil next lines)
        fun l hl ↦ h l (List.mem_cons_of_mem line hl)
      refine ⟨line ++ '\r' :: ([] ++ '\n' :: before), ?_, ?_⟩
      · rw [crlf_cons, he, List.append_assoc]
        rfl
      · exact Search.not_infix_append hr hne hline (Search.not_infix_append hn hne hempty hb)

def xmlElement (tag value : Text) : Text :=
  "<".toList ++ tag ++ ">".toList ++ (value ++ '<' :: ("/".toList ++ tag ++ ">".toList))

/-- The value of an element that stands in a line of its own, behind lines that do not begin one of
that name. -/
theorem getXmlValue_crlf {before after : List Text} {tag value : Text} (hne : before ≠ [])
    (hb : ∀ line ∈ before, ¬"<".toList ++ tag ++ ">".toList <:+: line)
    (ht : '\r' ∉ tag ∧ '\n' ∉ tag) (hv : '<' ∉ value) :
    getXmlValue (crlf (before ++ xmlElement tag value :: after)) tag = Str.trim value := by
  have hmark (c : Char) (hc : c ∉ tag) (hl : c ∉ "<".toList ++ ">".toList) :
      c ∉ "<".toList ++ tag ++ ">".toList := by
    rw [List.mem_append, not_or] at hl
    exact List.not_mem_append (List.not_mem_append hl.1 hc) hl.2
  have hmark_ne : "<".toList ++ tag ++ ">".toList ≠ [] :=
    List.append_ne_nil_of_right_ne_nil _ (by decide)
  obtain ⟨text, he, hinside⟩ := crlf_not_infix hmark_ne (hmark _ ht.1 (by decide))
    (hmark _ ht.2 (by decide)) hne hb
  have hbehind := Search.behind_append hinside (hmark _ ht.2 (by decide))
    (value ++ '<' :: ("/".toList ++ tag ++ ">".toList ++ '\r' :: '\n' :: crlf after))
  have hupTo : Search.upTo ("</".toList ++ tag ++ ">".toList)
      (value ++ '<' :: ("/".toList ++ tag ++ ">".toList ++ '\r' :: '\n' :: crlf after)) =
        some value := Search.upTo_append _ hv
  have htext : crlf (before ++ xmlElement tag value :: after) =
      text ++ '\n' :: ("<".toList ++ tag ++ ">".toList ++
        (value ++ '<' :: ("/".toList ++ tag ++ ">".toList ++ '\r' :: '\n' :: crlf after))) := by
    rw [crlf_append, he, crlf_cons, xmlElement]
    simp only [List.append_assoc, List.cons_append, List.nil_append]
  rw [htext, getXmlValue, hbehind]
  dsimp only
  rw [hupTo]
  rfl

theorem snElement (sn : Text) : "<SN>" ++ sn ++ "</SN>" = xmlElement "SN" sn := rfl

theorem cmdTypeElement (cmdType : Text) :
    "<CmdType>" ++ cmdType ++ "</CmdType>" = xmlElement "CmdType" cmdType := rfl

def xmlDeclaration : Text := "<?xml version=\"1.0\" encoding=\"GB2312\"?>"

theorem keepaliveXml_read (cfg : Gb28181Config) (sn : Int32) :
    getXmlValue (keepaliveXml cfg sn) "CmdType" = "Keepalive" ∧
      getXmlValue (keepaliveXml cfg sn) "SN" = intText sn := by
  have htype : "<CmdType>Keepalive</CmdType>".toList = xmlElement "CmdType" "Keepalive" := rfl
  unfold keepaliveXml
  rw [snElement]
  constructor
  · have hb : ∀ line ∈ [xmlDeclaration, "<Notify>".toList],
        ¬"<".toList ++ "CmdType".toList ++ ">".toList <:+: line := by decide
    have hv : '<' ∉ "Keepalive".toList := by decide
    rw [htype]
    exact getXmlValue_crlf (List.cons_ne_nil _ _) hb (by decide) hv
  · have hb : ∀ line ∈ [xmlDeclaration, "<Notify>".toList, "<CmdType>Keepalive</CmdType>".toList],
        ¬"<".toList ++ "SN".toList ++ ">".toList <:+: line := by decide
    have hv : '<' ∉ intText sn := not_mem_signedDecimal (by decide) (by decide) _
    exact (getXmlValue_crlf (List.cons_ne_nil _ _) hb (by decide) hv).trans (trim_intText sn)

def queryTypes : List Text := ["Catalog", "DeviceInfo", "DeviceStatus"]

theorem responseHead_read (cfg : Gb28181Config) {cmdType : Text} (hcmd : cmdType ∈ queryTypes)
    (sn : Int32) (rest : List Text) :
    getXmlValue (crlf (responseHead cfg cmdType sn ++ rest)) "CmdType" = cmdType ∧
      getXmlValue (crlf (responseHead cfg cmdType sn ++ rest)) "SN" = intText sn := by
  have htypes : ∀ t ∈ queryTypes, '<' ∉ t ∧ Str.trim t = t ∧
      ¬"<".toList ++ "SN".toList ++ ">".toList <:+: "<CmdType>" ++ t ++ "</CmdType>" := by decide
  obtain ⟨hlt, htrim, hsn⟩ := htypes cmdType hcmd
  unfold responseHead
  rw [snElement]
  constructor
  · have hb : ∀ line ∈ [xmlDeclaration, "<Response>".toList],
        ¬"<".toList ++ "CmdType".toList ++ ">".toList <:+: line := by decide
    rw [cmdTypeElement]
    exact (getXmlValue_crlf (List.cons_ne_nil _ _) hb (by decide) hlt).trans htrim
  · have hhead : ∀ line ∈ [xmlDeclaration, "<Response>".toList],
        ¬"<".toList ++ "SN".toList ++ ">".toList <:+: line := by decide
    have hb : ∀ line ∈ [xmlDeclaration, "<Response>".toList,
        "<CmdType>" ++ cmdType ++ "</CmdType>"],
          ¬"<".toList ++ "SN".toList ++ ">".toList <:+: line := by
      intro line hl
      rcases List.mem_append.mp (show line ∈ [xmlDeclaration, "<Response>".toList] ++
        ["<CmdType>" ++ cmdType ++ "</CmdType>"] from hl) with hl | hl
      · exact hhead line hl
      · rw [List.mem_singleton.mp hl]
        exact hsn
    have hv : '<' ∉ intText sn := not_mem_signedDecimal (by decide) (by decide) _
    exact (getXmlValue_crlf (List.cons_ne_nil _ _) hb (by decide) hv).trans (trim_intText sn)

theorem makeBranch_lined (time : ℤ) : '\n' ∉ makeBranch time :=
  List.not_mem_append (by decide) (not_mem_signedDecimal (by decide) (by decide) time)

theorem sent_keepalive (h : cfg.Lined) (cseq : Int32) (time : ℤ) {callId : Text}
    (hc : '\n' ∉ callId) (sn : Int32) :
    (SipMessage.ofText (buildKeepaliveMessage cfg cseq (makeBranch time) callId sn)).sent =
      some (.keepalive cseq (intText sn)) := by
  obtain ⟨hcmd, hsn⟩ := keepaliveXml_read cfg sn
  rw [buildKeepaliveMessage, sent_messageText cseq h (by decide) (makeBranch_lined time) hc, hcmd,
    hsn, if_pos rfl]

def queryOf (msg : Text) : Option (Text × Text) :=
  if getXmlValue msg "CmdType" ∈ queryTypes then
    some (getXmlValue msg "CmdType", intText (querySn msg))
  else none

theorem queryXml_eq_none {msg : Text} : queryXml cfg msg = none ↔ queryOf msg = none := by
  unfold queryXml queryOf queryTypes
  dsimp only
  simp only [List.mem_cons, List.not_mem_nil, or_false]
  split_ifs <;> simp_all

theorem queryXml_read {msg xml : Text} (hx : queryXml cfg msg = some xml) :
    getXmlValue msg "CmdType" ∈ queryTypes ∧
      getXmlValue xml "CmdType" = getXmlValue msg "CmdType" ∧
        getXmlValue xml "SN" = intText (querySn msg) := by
  unfold queryXml at hx
  dsimp only at hx
  split_ifs at hx with h₁ h₂ h₃
  · obtain rfl := Option.some_inj.mp hx
    have hmem : "Catalog".toList ∈ queryTypes := by decide
    rw [h₁]
    exact ⟨hmem, responseHead_read cfg hmem _ _⟩
  · obtain rfl := Option.some_inj.mp hx
    have hmem : "DeviceInfo".toList ∈ queryTypes := by decide
    rw [h₂]
    exact ⟨hmem, responseHead_read cfg hmem _ _⟩
  · obtain rfl := Option.some_inj.mp hx
    have hmem : "DeviceStatus".toList ∈ queryTypes := by decide
    rw [h₃]
    exact ⟨hmem, responseHead_read cfg hmem _ _⟩

theorem sent_gbXmlMessage (h : cfg.Lined) {msg xml : Text} (hx : queryXml cfg msg = some xml)
    (cseq : Int32) (branchTime callTime : ℤ) :
    ∃ cmdType sn, queryOf msg = some (cmdType, sn) ∧
      (SipMessage.ofText (gbXmlMessage cfg xml cseq branchTime callTime)).sent =
        some (.notify cseq cmdType sn) := by
  obtain ⟨hmem, hcmd, hsn⟩ := queryXml_read hx
  have hcall : '\n' ∉ (cfg.local.deviceId ++ "-" ++ signedDecimal callTime ++
      "-response@tri-fusion-camera" : Text) := by
    simp only [List.append_assoc, List.mem_append, not_or]
    exact ⟨h.deviceId, by decide, not_mem_signedDecimal (by decide) (by decide) _, by decide⟩
  have hkeepalive : getXmlValue msg "CmdType" ≠ "Keepalive" := by
    intro he
    rw [he] at hmem
    exact absurd hmem (by decide)
  refine ⟨_, _, if_pos hmem, ?_⟩
  rw [gbXmlMessage, sent_messageText cseq h (by decide) (makeBranch_lined branchTime) hcall, hcmd,
    hsn, if_neg hkeepalive]

end Bodies

section Accepting

structure InviteInfo.Lined (inv : InviteInfo) : Prop where
  via : '\n' ∉ inv.via
  «from» : '\n' ∉ inv.«from»
  «to» : '\n' ∉ inv.«to»
  callId : '\n' ∉ inv.callId
  cseq : '\n' ∉ inv.cseq

theorem parseInvite_lined {msg : Text} {inv : InviteInfo} (h : parseInvite msg = .accepted inv) :
    inv.Lined := by
  have hline := newline_not_mem_getHeaderLine msg
  have hid : '\n' ∉ Str.trim (getHeaderLine msg "Call-ID") := fun h ↦ hline _ (mem_trim h)
  unfold parseInvite at h
  split at h
  · cases h
  split at h
  · cases h
  dsimp only at h
  split at h
  · cases h
  obtain rfl := InviteReading.accepted.inj h
  exact ⟨hline _, hline _, hline _, hid, hline _⟩

def inviteTransaction (inv : InviteInfo) : Transaction :=
  ⟨Str.trim inv.via, Str.trim inv.«from», Str.trim (inv.«to» ++ ";tag=tri-fusion-play"),
    Str.trim inv.callId, Str.trim inv.cseq⟩

theorem sent_buildSip200ForInvite (h : cfg.Lined) {inv : InviteInfo} (hi : inv.Lined)
    (localRtpPort : ℕ) :
    (SipMessage.ofText (buildSip200ForInvite cfg inv localRtpPort)).sent =
      some (.accept (inviteTransaction inv) (answerSdp cfg inv localRtpPort)) := by
  have hbody : answerSdp cfg inv localRtpPort ≠ [] := List.cons_ne_nil _ _
  unfold buildSip200ForInvite
  dsimp only
  generalize answerSdp cfg inv localRtpPort = body at hbody ⊢
  let contact : Text := " <sip:" ++ cfg.local.deviceId ++ "@" ++ cfg.local.ip ++ ":" ++
    portText cfg.local.port ++ ">"
  have hcontact : '\n' ∉ contact := by
    simp only [contact, List.append_assoc, List.mem_append, not_or]
    exact ⟨by decide, h.deviceId, by decide, h.ip, by decide, not_mem_decimal (by decide) _,
      by decide⟩
  have hto : '\n' ∉ (inv.«to» ++ ";tag=tri-fusion-play" : Text) :=
    List.not_mem_append hi.«to» (by decide)
  have hlength : '\n' ∉ (" " ++ decimal body.length : Text) :=
    List.not_mem_append (by decide) (not_mem_decimal (by decide) _)
  let fields : List (Text × Text) :=
    [("Via", inv.via), ("From", inv.«from»), ("To", inv.«to» ++ ";tag=tri-fusion-play"),
      ("Call-ID", inv.callId), ("CSeq", inv.cseq), ("Contact", contact),
      ("User-Agent", " TriFusionCamera-L8-GB28181-Play-Probe"),
      ("Content-Type", " application/sdp"), ("Content-Length", " " ++ decimal body.length)]
  have hstart : "SIP/2.0 200 OK".toList ≠ [] ∧ '\n' ∉ "SIP/2.0 200 OK".toList := by decide
  have hfields : FieldsLined fields :=
    fieldsLined_nil |>.cons (by decide) hlength |>.cons (by decide) (by decide)
      |>.cons (by decide) (by decide) |>.cons (by decide) hcontact |>.cons (by decide) hi.cseq
      |>.cons (by decide) hi.callId |>.cons (by decide) hto |>.cons (by decide) hi.«from»
      |>.cons (by decide) hi.via
  have hread : SipMessage.ofText (sipText ("SIP/2.0 200 OK" ::
      fields.map (Fields.Message.line ':')) body) = ⟨"SIP/2.0 200 OK", fields, body⟩ :=
    ofText_sipText hstart hfields body
  have hsize : SipMessage.Framed ⟨"SIP/2.0 200 OK", fields, body⟩ := trim_decimal body.length
  exact (congrArg SipMessage.sent hread).trans (hsize.sent_accept rfl hbody)

end Accepting

end Gb28181PlayProbe

end TriFusion.Protocol
