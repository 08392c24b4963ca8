import TriFusion.Foundation.ConfigReload
import TriFusion.Protocol.SipDialogue

namespace TriFusion.Protocol

open Foundation Library Gb28181PlayProbe

/-- The response to a challenge, from the password of the one who is challenged. The quality, if
there is one, is the count, the client's nonce and its name. -/
def digest (md5 : Text → List UInt8) (username realm password method uri nonce : Text)
    (quality : Option (Text × Text × Text)) : Text :=
  let ha1 := md5Hex md5 (username ++ ":" ++ realm ++ ":" ++ password)
  let ha2 := md5Hex md5 (method ++ ":" ++ uri)
  match quality with
  | none => md5Hex md5 (ha1 ++ ":" ++ nonce ++ ":" ++ ha2)
  | some (count, cnonce, qop) =>
    md5Hex md5 (ha1 ++ ":" ++ nonce ++ ":" ++ count ++ ":" ++ cnonce ++ ":" ++ qop ++ ":" ++ ha2)

/-- A platform that registers a device which knows its password. -/
structure SipRegistrar where
  realm : Text
  nonce : Text
  qop : Bool
  password : Text

namespace SipRegistrar

variable (r : SipRegistrar)

def challengeAttributes : List (Fields.Attribute Char) :=
  ⟨"realm", true, r.realm⟩ :: ⟨"nonce", true, r.nonce⟩ ::
    if r.qop then [⟨"qop", true, "auth"⟩] else []

/-- The lines are what the platform writes in front of its challenge. -/
def challenge (lines : List Text) : Text :=
  sipText ("SIP/2.0 401 Unauthorized".toList :: lines ++
    ["WWW-Authenticate: Digest ".toList ++
      Fields.Attribute.printAll '=' '"' ',' ' ' r.challengeAttributes,
      "Content-Length: 0".toList]) []

def credentials (m : SipMessage) : Option (List (Text × Text)) :=
  match m.fieldValue "Authorization" with
  | none => none
  | some value =>
    let value := value.dropWhile isSpace
    if Str.startsWith value "Digest " then
      Fields.Attribute.readAll '=' '"' ',' ' ' (value.drop 7) 16
    else none

def accepts (md5 : Text → List UInt8) (attributes : List (Text × Text)) : Bool :=
  let value (name : Text) : Text := (attributes.lookup name).getD []
  let quality := (attributes.lookup "qop".toList).map fun qop ↦ (value "nc", value "cnonce", qop)
  decide (value "realm" = r.realm) && decide (value "nonce" = r.nonce) &&
    decide (quality.isSome = r.qop) &&
    decide (value "response" = digest md5 (value "username") r.realm r.password "REGISTER"
      (value "uri") r.nonce quality)

def answer (md5 : Text → List UInt8) (lines : List Text) (request : Text) : Text :=
  match credentials (SipMessage.ofText request) with
  | none => r.challenge lines
  | some attributes =>
    if r.accepts md5 attributes then sipText ("SIP/2.0 200 OK".toList :: lines) []
    else sipText ("SIP/2.0 403 Forbidden".toList :: lines) []

end SipRegistrar

def Free (mark text : Text) : Prop := ¬mark <:+: lower text

instance (mark text : Text) : Decidable (Free mark text) := inferInstanceAs (Decidable (¬_))

section Reading

variable {mark : Text}

theorem Free.append_cons {a b : Text} {c : Char} (ha : Free mark a) (hb : Free mark b)
    (hc : toLower c ∉ mark) (hne : mark ≠ []) : Free mark (a ++ c :: b) := by
  unfold Free lower at *
  rw [List.map_append, List.map_cons]
  exact Search.not_infix_append hc hne ha hb

theorem free_nil (hne : mark ≠ []) : Free mark [] := fun h ↦ hne (List.infix_nil.mp h)

theorem free_crlf_append {lines : List Text} {text : Text} (hlines : ∀ line ∈ lines, Free mark line)
    (htext : Free mark text) (hne : mark ≠ []) (hend : '\r' ∉ mark ∧ '\n' ∉ mark) :
    Free mark (crlf lines ++ text) := by
  induction lines with
  | nil => exact htext
  | cons line lines ih =>
    obtain ⟨hline, hlines⟩ := List.forall_mem_cons.mp hlines
    rw [crlf_cons, List.append_assoc]
    exact hline.append_cons ((free_nil hne).append_cons (ih hlines) hend.2 hne) hend.1 hne

theorem led_paramAt (key : Text) :
    Search.Led toLower (lower (key ++ "=".toList)) (paramAt key) := by
  intro text h
  rw [paramAt, if_neg]
  rw [List.isPrefixOf_iff_prefix]
  exact h

theorem getHeaderParam_quoted {key before value : Text} (rest : Text)
    (hbefore : Free (lower (key ++ "=".toList)) before) (hkey : ' ' ∉ lower (key ++ "=".toList))
    (hne : value ≠ []) (hvalue : ∀ c ∈ value, isParamChar c) :
    getHeaderParam (before ++ ' ' :: (key ++ '=' :: '"' :: (value ++ '"' :: rest))) key =
      value := by
  have hread : paramAt key (key ++ '=' :: '"' :: (value ++ '"' :: rest)) = some value := by
    have htext : key ++ '=' :: '"' :: (value ++ '"' :: rest) =
        (key ++ "=".toList) ++ '"' :: (value ++ '"' :: rest) := by
      rw [List.append_assoc]
      rfl
    have htake : (value ++ '"' :: rest).takeWhile isParamChar = value := by
      rw [List.takeWhile_append_of_pos hvalue, List.takeWhile_cons_of_neg (by decide),
        List.append_nil]
    have hdrop : ((key ++ "=".toList) ++ '"' :: (value ++ '"' :: rest)).drop (key.length + 1) =
        '"' :: (value ++ '"' :: rest) := List.drop_left' (by simp)
    rw [htext, paramAt, if_pos, hdrop]
    · dsimp only
      rw [List.head?_cons, if_pos rfl, List.tail_cons, htake, if_neg hne]
    · have hlower : lower ((key ++ "=".toList) ++ '"' :: (value ++ '"' :: rest)) =
          lower (key ++ "=".toList) ++ lower ('"' :: (value ++ '"' :: rest)) := List.map_append
      rw [hlower, List.isPrefixOf_iff_prefix]
      exact List.prefix_append _ _
  have hpass := (led_paramAt key).firstAt_append hbefore (show toLower ' ' ∉ _ from hkey)
    (key ++ '=' :: '"' :: (value ++ '"' :: rest))
  rw [getHeaderParam, hpass, Search.firstAt_of_some hread]
  rfl

theorem getHeaderParam_free {key text : Text} (h : Free (lower (key ++ "=".toList)) text) :
    getHeaderParam text key = [] := by
  rw [getHeaderParam, (led_paramAt key).firstAt_eq_none h]
  rfl

theorem containsStatus_free {text : Text} {code : ℕ}
    (h : Free (lower ("SIP/2.0 ".toList ++ decimal code)) text) :
    containsStatus text code = false := by
  refine decide_eq_false fun hi ↦ h ?_
  exact hi.map toLower

end Reading

def answerMarks : List Text := ["realm=", "nonce=", "qop=", "sip/2.0 200"]

/-- A text that is not taken for a parameter of a challenge or for a status. -/
def Quiet (text : Text) : Prop := ∀ mark ∈ answerMarks, Free mark text

instance (text : Text) : Decidable (Quiet text) :=
  inferInstanceAs (Decidable (∀ mark ∈ answerMarks, Free mark text))

structure SipRegistrar.Quotable (r : SipRegistrar) : Prop where
  realm : r.realm ≠ [] ∧ Quiet r.realm ∧ ∀ c ∈ r.realm, isParamChar c
  nonce : r.nonce ≠ [] ∧ Quiet r.nonce ∧ ∀ c ∈ r.nonce, isParamChar c

structure Gb28181Config.Quoted (cfg : Gb28181Config) : Prop where
  deviceId : '"' ∉ cfg.local.deviceId
  uri : '"' ∉ serverUri cfg

namespace SipRegistrar

variable (r : SipRegistrar)

def challengeEnd : Text :=
  if r.qop then ", qop=\"auth\"\r\nContent-Length: 0\r\n\r\n" else "\r\nContent-Length: 0\r\n\r\n"

theorem challenge_eq (lines : List Text) :
    r.challenge lines = crlf ("SIP/2.0 401 Unauthorized".toList :: lines) ++
      ("WWW-Authenticate: Digest".toList ++ ' ' :: ("realm".toList ++ '=' :: '"' :: (r.realm ++
        '"' :: (",".toList ++ ' ' :: ("nonce".toList ++ '=' :: '"' :: (r.nonce ++
          '"' :: r.challengeEnd)))))) := by
  unfold challenge sipText
  rw [crlf_append, List.append_assoc, List.append_assoc]
  refine congrArg (crlf _ ++ ·) ?_
  unfold challengeEnd challengeAttributes Fields.Attribute.printAll Fields.Attribute.print crlf
    EndedLines.ended
  cases r.qop <;> simp

section Challenge

variable {r} {lines : List Text}

theorem free_challenge_start {mark text : Text} (hm : mark ∈ answerMarks)
    (hlines : ∀ line ∈ lines, Quiet line) (htext : Free mark text) :
    Free mark (crlf ("SIP/2.0 401 Unauthorized".toList :: lines) ++ text) := by
  have hmarks : ∀ mark ∈ answerMarks, mark ≠ [] ∧ ('\r' ∉ mark ∧ '\n' ∉ mark) ∧
      Free mark "SIP/2.0 401 Unauthorized".toList := by decide
  obtain ⟨hne, hend, hstart⟩ := hmarks mark hm
  exact free_crlf_append (List.forall_mem_cons.mpr ⟨hstart, fun line hl ↦ hlines line hl mark hm⟩)
    htext hne hend

theorem realm_challenge (hr : r.Quotable) (hlines : ∀ line ∈ lines, Quiet line) :
    getHeaderParam (r.challenge lines) "realm" = r.realm := by
  obtain ⟨hne, -, hchars⟩ := hr.realm
  rw [challenge_eq, ← List.append_assoc]
  exact getHeaderParam_quoted _ (free_challenge_start (by decide) hlines (by decide)) (by decide)
    hne hchars

theorem free_before_nonce {mark : Text} (hm : mark ∈ answerMarks) (hother : mark ≠ "realm=".toList)
    (hr : r.Quotable) :
    Free mark
      ("WWW-Authenticate: Digest realm=".toList ++ '"' :: (r.realm ++ '"' :: ",".toList)) := by
  have hmarks : ∀ mark ∈ answerMarks, mark ≠ "realm=".toList → mark ≠ [] ∧ '"' ∉ mark ∧
      Free mark "WWW-Authenticate: Digest realm=".toList ∧ Free mark ",".toList := by decide
  obtain ⟨hne, hquote, hname, hcomma⟩ := hmarks mark hm hother
  exact hname.append_cons ((hr.realm.2.1 mark hm).append_cons hcomma hquote hne) hquote hne

theorem nonce_challenge (hr : r.Quotable) (hlines : ∀ line ∈ lines, Quiet line) :
    getHeaderParam (r.challenge lines) "nonce" = r.nonce := by
  obtain ⟨hne, -, hchars⟩ := hr.nonce
  have hfree : Free "nonce=".toList _ := free_before_nonce (by decide) (by decide) hr
  have hbefore := free_challenge_start (by decide) hlines hfree
  have htext : r.challenge lines = (crlf ("SIP/2.0 401 Unauthorized".toList :: lines) ++
      ("WWW-Authenticate: Digest realm=".toList ++ '"' :: (r.realm ++ '"' :: ",".toList))) ++
        ' ' :: ("nonce".toList ++ '=' :: '"' :: (r.nonce ++ '"' :: r.challengeEnd)) := by
    rw [challenge_eq]
    simp
  rw [htext]
  exact getHeaderParam_quoted _ hbefore (by decide) hne hchars

theorem free_behind_nonce {mark rest : Text} (hm : mark ∈ answerMarks)
    (hother : mark ≠ "realm=".toList ∧ mark ≠ "nonce=".toList) (hr : r.Quotable)
    (hrest : Free mark rest) :
    Free mark ("WWW-Authenticate: Digest realm=".toList ++ '"' :: (r.realm ++ '"' ::
      (", nonce=".toList ++ '"' :: (r.nonce ++ '"' :: rest)))) := by
  have hmarks : ∀ mark ∈ answerMarks, mark ≠ "realm=".toList ∧ mark ≠ "nonce=".toList →
      mark ≠ [] ∧ '"' ∉ mark ∧ Free mark "WWW-Authenticate: Digest realm=".toList ∧
        Free mark ", nonce=".toList := by decide
  obtain ⟨hne, hquote, hname, hnonce⟩ := hmarks mark hm hother
  have hbehind : Free mark (", nonce=".toList ++ '"' :: (r.nonce ++ '"' :: rest)) :=
    hnonce.append_cons ((hr.nonce.2.1 mark hm).append_cons hrest hquote hne) hquote hne
  exact hname.append_cons ((hr.realm.2.1 mark hm).append_cons hbehind hquote hne) hquote hne

theorem challenge_eq_behind (lines : List Text) :
    r.challenge lines = crlf ("SIP/2.0 401 Unauthorized".toList :: lines) ++
      ("WWW-Authenticate: Digest realm=".toList ++ '"' :: (r.realm ++ '"' ::
        (", nonce=".toList ++ '"' :: (r.nonce ++ '"' :: r.challengeEnd)))) := by
  rw [challenge_eq]
  simp

theorem qop_challenge (hr : r.Quotable) (hlines : ∀ line ∈ lines, Quiet line) :
    getHeaderParam (r.challenge lines) "qop" = if r.qop then "auth".toList else [] := by
  rw [challenge_eq_behind, challengeEnd]
  cases r.qop with
  | false =>
    rw [if_neg Bool.false_ne_true, if_neg Bool.false_ne_true]
    have hend : Free "qop=".toList "\r\nContent-Length: 0\r\n\r\n".toList := by decide
    have hfree := free_behind_nonce (by decide) (by decide) hr hend
    exact getHeaderParam_free (free_challenge_start (by decide) hlines hfree)
  | true =>
    have hcomma : Free (lower ("qop".toList ++ "=".toList)) ",".toList := by decide
    have hfree := free_behind_nonce (by decide) (by decide) hr hcomma
    have hauth : ∀ c ∈ "auth".toList, isParamChar c := List.all_eq_true.mp (by decide)
    have hread := getHeaderParam_quoted "\r\nContent-Length: 0\r\n\r\n".toList
      (free_challenge_start (by decide) hlines hfree) (by decide) (by decide) hauth
    rw [if_pos rfl, if_pos rfl]
    refine Eq.trans (congrArg (getHeaderParam · "qop") ?_) hread
    simp

theorem challenge_status (hr : r.Quotable) (hlines : ∀ line ∈ lines, Quiet line) :
    containsStatus (r.challenge lines) 200 = false ∧
      containsStatus (r.challenge lines) 401 = true := by
  constructor
  · have hend : Free "sip/2.0 200".toList r.challengeEnd := by
      unfold challengeEnd
      split <;> decide
    rw [challenge_eq_behind]
    refine containsStatus_free (free_challenge_start (by decide) hlines ?_)
    exact free_behind_nonce (by decide) (by decide) hr hend
  · refine decide_eq_true (List.IsPrefix.isInfix ?_)
    unfold challenge sipText crlf EndedLines.ended
    exact ⟨_, rfl⟩

end Challenge

section Credentials

variable (cfg : Gb28181Config) (md5 : Text → List UInt8)

def quality : Option (Text × Text × Text) :=
  if r.qop then some ("00000001", "tri-fusion-cnonce", "auth") else none

def qopName : Text := if r.qop then "auth" else []

def credentialAttributes (response : Text) : List (Fields.Attribute Char) :=
  ⟨"username", true, cfg.local.deviceId⟩ :: ⟨"realm", true, r.realm⟩ ::
    ⟨"nonce", true, r.nonce⟩ :: ⟨"uri", true, serverUri cfg⟩ :: ⟨"response", true, response⟩ ::
      ⟨"algorithm", false, "MD5"⟩ ::
        if r.qop then
          [⟨"qop", false, "auth"⟩, ⟨"nc", false, "00000001"⟩,
            ⟨"cnonce", true, "tri-fusion-cnonce"⟩]
        else []

theorem digestResponse_eq :
    digestResponse cfg md5 r.realm r.nonce r.qopName =
      digest md5 cfg.local.deviceId r.realm (devicePassword cfg) "REGISTER" (serverUri cfg) r.nonce
        r.quality := by
  unfold digestResponse digest qopName quality
  cases r.qop with
  | false => rfl
  | true =>
    have hne : "auth".toList ≠ [] := by decide
    dsimp only
    rw [if_pos rfl, if_pos hne, if_pos rfl]
    dsimp only
    refine congrArg (md5Hex md5) ?_
    simp only [List.append_assoc]
    rfl

theorem authorizationValue_eq :
    authorizationValue cfg md5 r.realm r.nonce r.qopName = " Digest ".toList ++
      Fields.Attribute.printAll '=' '"' ',' ' '
        (r.credentialAttributes cfg (digestResponse cfg md5 r.realm r.nonce r.qopName)) := by
  unfold authorizationValue credentialAttributes
  generalize digestResponse cfg md5 r.realm r.nonce r.qopName = response
  unfold qopName authExtra Fields.Attribute.printAll Fields.Attribute.print
  cases r.qop <;> simp

variable {cfg} {r}

theorem credentialAttributes_printable (hr : r.Quotable) (hq : cfg.Quoted) {response : Text}
    (hresponse : '"' ∉ response) : ∀ a ∈ r.credentialAttributes cfg response,
      a.Printable '=' '"' ',' := by
  have hquoted {name value : Text} (hname : '=' ∉ name) (hvalue : '"' ∉ value) :
      Fields.Attribute.Printable '=' '"' ',' ⟨name, true, value⟩ :=
    ⟨hname, fun _ ↦ hvalue, fun h ↦ Bool.noConfusion h⟩
  have hbare {name value : Text} (hname : '=' ∉ name)
      (hvalue : ',' ∉ value ∧ value.head? ≠ some '"') :
      Fields.Attribute.Printable '=' '"' ',' ⟨name, false, value⟩ :=
    ⟨hname, fun h ↦ Bool.noConfusion h, fun _ ↦ hvalue⟩
  have hparam {text : Text} (h : ∀ c ∈ text, isParamChar c) : '"' ∉ text :=
    fun hc ↦ absurd (h _ hc) (by decide)
  have hquality : ∀ a ∈ (if r.qop then
      [⟨"qop", false, "auth"⟩, ⟨"nc", false, "00000001"⟩, ⟨"cnonce", true, "tri-fusion-cnonce"⟩]
        else [] : List (Fields.Attribute Char)), a.Printable '=' '"' ',' := by
    cases r.qop with
    | false => exact fun _ h ↦ absurd h List.not_mem_nil
    | true =>
      rw [if_pos rfl]
      simp only [List.forall_mem_cons]
      exact ⟨hbare (by decide) (by decide), hbare (by decide) (by decide),
        hquoted (by decide) (by decide), fun _ h ↦ absurd h List.not_mem_nil⟩
  unfold credentialAttributes
  simp only [List.forall_mem_cons]
  exact ⟨hquoted (by decide) hq.deviceId, hquoted (by decide) (hparam hr.realm.2.2),
    hquoted (by decide) (hparam hr.nonce.2.2), hquoted (by decide) hq.uri,
    hquoted (by decide) hresponse, hbare (by decide) (by decide), hquality⟩

theorem credentials_registerAuth (h : cfg.Lined) (hr : r.Quotable) (hq : cfg.Quoted) (cseq : Int32)
    {branch callId : Text} (hb : '\n' ∉ branch) (hc : '\n' ∉ callId) :
    credentials (SipMessage.ofText
        (buildRegisterAuth cfg md5 cseq branch callId r.realm r.nonce r.qopName)) =
      some ((r.credentialAttributes cfg (digestResponse cfg md5 r.realm r.nonce r.qopName)).map
        fun a ↦ (a.name, a.value)) := by
  have hparam {text : Text} (h : ∀ c ∈ text, isParamChar c) : '\n' ∉ text :=
    fun hc ↦ absurd (h _ hc) (by decide)
  have hqop : '\n' ∉ r.qopName := by
    unfold qopName
    split <;> decide
  have hprintable := credentialAttributes_printable hr hq
    (not_mem_digestResponse (by decide) cfg md5 r.realm r.nonce r.qopName)
  have hfields := authorizationFields_lined h md5 (hparam hr.realm.2.2) (hparam hr.nonce.2.2) hqop
  have hvalue : SipMessage.fieldValue ⟨"REGISTER " ++ serverUri cfg ++ " SIP/2.0",
      registerFields cfg cseq branch callId ++
        authorizationFields cfg md5 r.realm r.nonce r.qopName, []⟩ "Authorization" =
      some (authorizationValue cfg md5 r.realm r.nonce r.qopName) := rfl
  rw [buildRegisterAuth_eq, ofText_register cseq h hb hc hfields, credentials, hvalue,
    authorizationValue_eq]
  generalize digestResponse cfg md5 r.realm r.nonce r.qopName = response at hprintable ⊢
  have hne : r.credentialAttributes cfg response ≠ [] := List.cons_ne_nil _ _
  have hcount : (r.credentialAttributes cfg response).length ≤ 16 := by
    unfold credentialAttributes
    cases r.qop <;> exact Nat.le_of_ble_eq_true rfl
  have hread : Fields.Attribute.readAll '=' '"' ',' ' ' _ 16 = _ :=
    Fields.Attribute.readAll_printAll (by decide) hne hprintable hcount
  generalize Fields.Attribute.printAll '=' '"' ',' ' ' _ = text at hread ⊢
  have hspace : (" Digest ".toList ++ text).dropWhile isSpace = "Digest ".toList ++ text := rfl
  have hdigest : Str.startsWith ("Digest ".toList ++ text) "Digest " :=
    List.isPrefixOf_iff_prefix.mpr (List.prefix_append _ text)
  dsimp only
  rw [hspace, if_pos hdigest]
  exact hread

theorem accepts_credentials (response : Text) :
    r.accepts md5 ((r.credentialAttributes cfg response).map fun a ↦ (a.name, a.value)) =
      decide (response = digest md5 cfg.local.deviceId r.realm r.password "REGISTER"
        (serverUri cfg) r.nonce r.quality) := by
  unfold credentialAttributes quality
  cases hqop : r.qop <;> simp [accepts, hqop, List.lookup_cons]

end Credentials

section Answers

variable {cfg : Gb28181Config} {md5 : Text → List UInt8} {r} {lines : List Text}

theorem answer_registerNoAuth (h : cfg.Lined) (cseq : Int32) {branch callId : Text}
    (hb : '\n' ∉ branch) (hc : '\n' ∉ callId) :
    r.answer md5 lines (buildRegisterNoAuth cfg cseq branch callId) = r.challenge lines := by
  have hextra : FieldsLined [("Content-Length".toList, " 0".toList)] :=
    fieldsLined_nil.cons (by decide) (by decide)
  have hread := ofText_register cseq h hb hc hextra
  rw [List.map_singleton, ← contentLength_eq] at hread
  have hvalue : SipMessage.fieldValue ⟨"REGISTER " ++ serverUri cfg ++ " SIP/2.0",
      registerFields cfg cseq branch callId ++ [("Content-Length".toList, " 0".toList)], []⟩
        "Authorization" = none := rfl
  rw [answer, buildRegisterNoAuth, hread, credentials, hvalue]

/-- The device and the registrar mean the same password, as far as the digest tells. -/
def Agrees (r : SipRegistrar) (cfg : Gb28181Config) (md5 : Text → List UInt8) : Prop :=
  digest md5 cfg.local.deviceId r.realm (devicePassword cfg) "REGISTER" (serverUri cfg) r.nonce
      r.quality =
    digest md5 cfg.local.deviceId r.realm r.password "REGISTER" (serverUri cfg) r.nonce r.quality

instance : Decidable (Agrees r cfg md5) := inferInstanceAs (Decidable (_ = _))

theorem answer_registerAuth (h : cfg.Lined) (hr : r.Quotable) (hq : cfg.Quoted) (cseq : Int32)
    {branch callId : Text} (hb : '\n' ∉ branch) (hc : '\n' ∉ callId)
    (hlines : ∀ line ∈ lines, Quiet line) :
    containsStatus (r.answer md5 lines
      (buildRegisterAuth cfg md5 cseq branch callId r.realm r.nonce r.qopName)) 200 =
        decide (Agrees r cfg md5) := by
  have haccepts : r.accepts md5 ((r.credentialAttributes cfg
      (digestResponse cfg md5 r.realm r.nonce r.qopName)).map fun a ↦ (a.name, a.value)) =
        decide (Agrees r cfg md5) := by
    rw [accepts_credentials, digestResponse_eq]
    rfl
  rw [answer, credentials_registerAuth md5 h hr hq cseq hb hc]
  dsimp only
  rw [haccepts]
  by_cases ha : Agrees r cfg md5
  · rw [if_pos (decide_eq_true ha), decide_eq_true ha]
    refine decide_eq_true (List.IsPrefix.isInfix ?_)
    unfold sipText crlf EndedLines.ended
    exact ⟨_, rfl⟩
  · have hstart : Free "sip/2.0 200".toList "SIP/2.0 403 Forbidden".toList := by decide
    have hfree : ∀ line ∈ "SIP/2.0 403 Forbidden".toList :: lines, Free "sip/2.0 200".toList line :=
      List.forall_mem_cons.mpr ⟨hstart, fun line hl ↦ hlines line hl _ (by decide)⟩
    rw [if_neg (mt of_decide_eq_true ha), decide_eq_false ha]
    refine containsStatus_free ?_
    rw [sipText, List.append_assoc]
    exact free_crlf_append hfree (by decide) (by decide) (by decide)

end Answers

end SipRegistrar

def SipProbe.lastSent (log : List SipEvent) : Option Text :=
  (log.filterMap fun event ↦ match event with
    | .sent text => some text
    | .received _ | .registered => none).getLast?

/-- A turn in which the registrar answers what was sent last, behind some lines, and its answer may
be lost. -/
structure RegistrarTurn where
  turn : SipTurn
  lines : List Text
  lost : Bool

def RegistrarTurn.step (cfg : Gb28181Config) (md5 : Text → List UInt8) (r : SipRegistrar)
    (s : SipProbe) (t : RegistrarTurn) : SipProbe :=
  let answer := (SipProbe.lastSent s.log).map (r.answer md5 t.lines)
  s.step cfg md5 { t.turn with received := if t.lost then none else answer }

namespace SipProbe

variable {cfg : Gb28181Config} {md5 : Text → List UInt8} {r : SipRegistrar}

theorem lastSent_append (log : List SipEvent) (text : Text) :
    lastSent (log ++ [.sent text]) = some text := by
  rw [lastSent, List.filterMap_append]
  exact List.getLast?_concat

theorem step_ended {s : SipProbe} {code : ℕ} (h : s.phase = .ended code) (t : RegistrarTurn) :
    t.step cfg md5 r s = s := by
  unfold RegistrarTurn.step step
  rw [h]

def Asked (cfg : Gb28181Config) (s : SipProbe) : Prop :=
  s.phase = .registering ∧ '\n' ∉ s.registerCallId ∧ ∃ branch, '\n' ∉ branch ∧
    lastSent s.log = some (buildRegisterNoAuth cfg s.cseq branch s.registerCallId)

def Replied (cfg : Gb28181Config) (md5 : Text → List UInt8) (r : SipRegistrar)
    (s : SipProbe) : Prop :=
  s.phase = .authenticating ∧ '\n' ∉ s.registerCallId ∧ ∃ branch, '\n' ∉ branch ∧
    lastSent s.log =
      some (buildRegisterAuth cfg md5 s.cseq branch s.registerCallId r.realm r.nonce r.qopName)

theorem first_turn (h : cfg.Lined) (t : RegistrarTurn) :
    t.turn.refused 0 = true ∧ (t.step cfg md5 r {}).phase = .ended 6 ∨
      t.turn.refused 0 = false ∧ Asked cfg (t.step cfg md5 r {}) := by
  unfold RegistrarTurn.step step register
  dsimp only
  rw [sendPacket_eq]
  cases t.turn.refused 0 with
  | true => exact .inl ⟨rfl, rfl⟩
  | false =>
    exact .inr ⟨rfl, rfl, makeCallId_lined h _, _, makeBranch_lined (t.turn.time 1), rfl⟩

theorem challenge_turn (hr : r.Quotable) {s : SipProbe} (h : cfg.Lined) (hs : Asked cfg s)
    {t : RegistrarTurn} (hlines : ∀ line ∈ t.lines, Quiet line) :
    (t.lost = true ∨ t.turn.refused 0 = true) ∧ (t.step cfg md5 r s).phase = .ended 6 ∨
      (t.lost = false ∧ t.turn.refused 0 = false) ∧ Replied cfg md5 r (t.step cfg md5 r s) := by
  obtain ⟨hphase, hid, branch, hb, hsent⟩ := hs
  have hanswer : r.answer md5 t.lines _ = _ :=
    SipRegistrar.answer_registerNoAuth h s.cseq hb hid
  obtain ⟨hok, hchallenge⟩ := SipRegistrar.challenge_status hr hlines
  have hrealm := SipRegistrar.realm_challenge hr hlines
  have hnonce := SipRegistrar.nonce_challenge hr hlines
  have hqop := SipRegistrar.qop_challenge hr hlines
  unfold RegistrarTurn.step step
  rw [hphase, hsent, Option.map_some, hanswer]
  generalize r.challenge t.lines = resp at hok hchallenge hrealm hnonce hqop ⊢
  cases t.lost with
  | true => exact .inl ⟨.inl rfl, rfl⟩
  | false =>
    have hname : (if "auth".toList <:+: if r.qop then "auth".toList else [] then "auth".toList
        else []) = r.qopName := by
      unfold SipRegistrar.qopName
      cases r.qop <;> decide
    unfold registerAnswered authenticate
    dsimp only
    rw [if_neg Bool.false_ne_true]
    dsimp only
    rw [if_neg (by rw [hok]; decide), if_neg (by rw [hchallenge]; decide), hrealm, hnonce, hqop,
      if_neg hr.realm.1, if_neg hr.nonce.1, hname, sendPacket_eq]
    cases t.turn.refused 0 with
    | true => exact .inl ⟨.inr rfl, rfl⟩
    | false =>
      exact .inr ⟨⟨rfl, rfl⟩, rfl, hid, _, makeBranch_lined (t.turn.time 0), lastSent_append _ _⟩

theorem reply_turn (hr : r.Quotable) {s : SipProbe} (h : cfg.Lined) (hq : cfg.Quoted)
    (hs : Replied cfg md5 r s) {t : RegistrarTurn} (hlines : ∀ line ∈ t.lines, Quiet line) :
    (t.step cfg md5 r s).phase =
      if t.lost = false ∧ r.Agrees cfg md5 then .online else .ended 6 := by
  obtain ⟨hphase, hid, branch, hb, hsent⟩ := hs
  have hstatus : containsStatus (r.answer md5 t.lines _) 200 = _ :=
    SipRegistrar.answer_registerAuth h hr hq s.cseq hb hid hlines
  unfold RegistrarTurn.step step
  rw [hphase, hsent, Option.map_some]
  generalize r.answer md5 t.lines _ = resp at hstatus ⊢
  cases t.lost with
  | true => rfl
  | false =>
    unfold authAnswered
    dsimp only
    rw [if_neg Bool.false_ne_true]
    dsimp only
    rw [hstatus]
    by_cases ha : r.Agrees cfg md5
    · rw [if_pos (decide_eq_true ha), if_pos ⟨rfl, ha⟩]
      rfl
    · rw [if_neg (mt of_decide_eq_true ha), if_neg fun hp ↦ ha hp.2]

/-- Whatever is lost or refused, the device is registered exactly when nothing is and its digest is
the one that the registrar computes from its own password. -/
theorem registered_iff_agrees {ω : Type} {io : FileIo ω} {path : Text} {w : ω}
    (h : ProtocolConfigLoader.loadGb28181 io path w = .ok cfg) (hq : cfg.Quoted)
    (hr : r.Quotable) (first challenged replied : RegistrarTurn)
    (hlines : ∀ line ∈ challenged.lines ++ replied.lines, Quiet line) :
    (Runs.exec (fun (s : SipProbe) (t : RegistrarTurn) ↦ t.step cfg md5 r s) {}
      [first, challenged, replied]).phase =
      if first.turn.refused 0 = false ∧ challenged.turn.refused 0 = false ∧
          challenged.lost = false ∧ replied.lost = false ∧ r.Agrees cfg md5 then .online
      else .ended 6 := by
  have hcfg := loaded_lined h
  obtain ⟨hchallenged, hreplied⟩ := List.forall_mem_append.mp hlines
  rw [Runs.exec_cons, Runs.exec_cons, Runs.exec_cons, Runs.exec_nil]
  rcases first_turn hcfg first with ⟨hfail, hended⟩ | ⟨hsent, hasked⟩
  · rw [step_ended hended, step_ended hended, hended, hfail, if_neg (by simp)]
  · rcases challenge_turn hr hcfg hasked hchallenged with ⟨hfail, hended⟩ | ⟨⟨hkept, hok⟩, hs⟩
    · rw [step_ended hended, hended, if_neg]
      rintro ⟨-, hok, hkept, -⟩
      rcases hfail with hfail | hfail
      · exact absurd (hfail.symm.trans hkept) (by decide)
      · exact absurd (hfail.symm.trans hok) (by decide)
    · rw [reply_turn hr hcfg hq hs hreplied]
      simp only [hsent, hok, hkept, true_and]

def plainRegistrar : SipRegistrar := ⟨"3402000000", "5f2c", true, "12345678"⟩

def plainTurn : RegistrarTurn :=
  ⟨⟨none, 0, fun _ ↦ 0, fun _ ↦ false⟩, ["Via: SIP/2.0/UDP 192.168.1.20:5060".toList], false⟩

theorem registered_by_default :
    (Runs.exec (fun (s : SipProbe) (t : RegistrarTurn) ↦ t.step {} (fun _ ↦ [1]) plainRegistrar s)
      {} [plainTurn, plainTurn, plainTurn]).phase = .online := by
  have hload :
      ProtocolConfigLoader.loadGb28181 (ConfigManager.disk fun _ ↦ none) "gb28181.yaml" () =
        .ok {} := by decide +kernel
  have hr : plainRegistrar.Quotable :=
    ⟨⟨by decide, by decide, List.all_eq_true.mp (by decide)⟩,
      ⟨by decide, by decide, List.all_eq_true.mp (by decide)⟩⟩
  rw [registered_iff_agrees hload ⟨by decide, by decide⟩ hr plainTurn plainTurn plainTurn
    (by decide)]
  exact if_pos ⟨rfl, rfl, rfl, rfl, rfl⟩

end SipProbe

end TriFusion.Protocol
