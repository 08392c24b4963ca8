import TriFusion.Foundation.ConfigReload
import TriFusion.Media.FormatNames
import TriFusion.Protocol.SipAnswers
import Mathlib.Data.List.Find

namespace TriFusion.Protocol

open Foundation Library Gb28181PlayProbe

section Lines

theorem getlines_append {line : Text} (h : '\n' ∉ line) (rest : Text) :
    getlines (line ++ '\n' :: rest) = line :: getlines rest := by
  have hne : rest.splitOn '\n' ≠ [] := List.splitOn_ne_nil '\n' rest
  rw [getlines, getlines, List.splitOn_append_cons_self_of_not_mem h]
  obtain ⟨first, tail, he⟩ := List.exists_cons_of_ne_nil hne
  rw [he, List.getLast?_cons_cons, List.dropLast_cons_cons]
  split <;> rfl

theorem dropReturn_append (line : Text) : dropReturn (line ++ ['\r']) = line := by
  rw [dropReturn, List.getLast?_concat, if_pos rfl, List.dropLast_concat]

theorem getlines_crlf {lines : List Text} (h : ∀ line ∈ lines, '\n' ∉ line) (rest : Text) :
    (getlines (crlf lines ++ rest)).map dropReturn =
      lines ++ (getlines rest).map dropReturn := by
  induction lines with
  | nil => rfl
  | cons line lines ih =>
    obtain ⟨hline, hlines⟩ := List.forall_mem_cons.mp h
    have hend : '\n' ∉ line ++ ['\r'] := List.not_mem_append hline (by decide)
    have htext : crlf (line :: lines) ++ rest =
        (line ++ ['\r']) ++ '\n' :: (crlf lines ++ rest) := by
      simp only [crlf_cons, List.append_assoc, List.cons_append, List.nil_append]
    rw [htext, getlines_append hend, List.map_cons, dropReturn_append, ih hlines]
    rfl

theorem colon_mem_lower {text : Text} (h : ':' ∈ lower text) : ':' ∈ text := by
  have hletters : ∀ n < 26, Char.ofNat (97 + n) ≠ ':' := by decide
  obtain ⟨c, hc, he⟩ := List.mem_map.mp h
  rcases toLower_cases c with hsame | ⟨n, hn, -, hl⟩
  · rw [← he, hsame]
    exact hc
  · exact absurd (hl.symm.trans he) (hletters n hn)

theorem field_line {name : Text} {field : Text × Text} (hname : ':' ∉ name) (hf : ':' ∉ field.1) :
    (lower (name ++ ":".toList)).isPrefixOf (lower (Fields.Message.line ':' field)) =
      (lower field.1 == lower name) := by
  have hn : ':' ∉ lower name := mt colon_mem_lower hname
  have hl : ':' ∉ lower field.1 := mt colon_mem_lower hf
  have hlead : lower (name ++ ":".toList) = lower name ++ [':'] := List.map_append
  have hline : lower (Fields.Message.line ':' field) = lower field.1 ++ ':' :: lower field.2 :=
    List.map_append
  rw [hlead, hline, Bool.eq_iff_iff, List.isPrefixOf_iff_prefix, beq_iff_eq]
  constructor
  · rintro ⟨rest, hr⟩
    rw [List.append_assoc, List.singleton_append] at hr
    have htake := congrArg (List.takeWhile (· ≠ ':')) hr
    rw [Fields.takeWhile_ne hn, Fields.takeWhile_ne hl] at htake
    exact htake.symm
  · intro he
    rw [he]
    exact ⟨lower field.2, List.append_assoc _ _ _⟩

theorem getHeaderLine_text {m : SipMessage} (hm : '\n' ∉ m.start ∧ FieldsLined m.fields)
    {name value : Text} (hname : ':' ∉ name)
    (hstart : ¬lower (name ++ ":".toList) <+: lower m.start) (h : m.fieldValue name = some value) :
    getHeaderLine m.text name = value := by
  obtain ⟨field, hfind, rfl⟩ := Option.map_eq_some_iff.mp h
  have hlines : ∀ line ∈ m.lines ':', '\n' ∉ line := by
    refine List.forall_mem_cons.mpr ⟨hm.1, fun line hl ↦ ?_⟩
    obtain ⟨f, hf, rfl⟩ := List.mem_map.mp hl
    obtain ⟨-, hn, hv⟩ := hm.2 f hf
    refine List.not_mem_append hn fun hc ↦ ?_
    rcases List.mem_cons.mp hc with hc | hc
    · exact absurd hc (by decide)
    · exact hv hc
  have hsame := List.find?_congr fun f hf ↦ field_line hname (hm.2 f hf).1
  have hread : (m.lines ':').find? (fun line ↦
      (lower (name ++ ":".toList)).isPrefixOf (lower line)) =
        some (Fields.Message.line ':' field) := by
    have hnot : (lower (name ++ ":".toList)).isPrefixOf (lower m.start) = false := by
      rw [Bool.eq_false_iff, ne_eq, List.isPrefixOf_iff_prefix]
      exact hstart
    rw [Fields.Message.lines, List.find?_cons, hnot, List.find?_map]
    exact congrArg (Option.map (Fields.Message.line ':')) (hsame.trans hfind)
  have hcolon : ':' ∉ field.1 := (hm.2 field (List.mem_of_find?_eq_some hfind)).1
  have htext : m.text = crlf (m.lines ':') ++ '\r' :: '\n' :: m.body := rfl
  rw [getHeaderLine, htext, getlines_crlf hlines, List.find?_append, hread, Option.some_or]
  dsimp only
  rw [Fields.Message.line, Fields.dropWhile_ne hcolon]
  rfl

end Lines

section Captures

variable {lead run rest : Text} {p : Char → Bool}

theorem runAt_append (hne : run ≠ []) (hrun : ∀ c ∈ run, p c)
    (hrest : ∀ c ∈ rest.head?, p c = false) :
    runAt lead p (lead ++ (run ++ rest)) = some run := by
  have hstop : rest.takeWhile p = [] := by
    cases rest with
    | nil => rfl
    | cons c rest =>
      exact List.takeWhile_cons_of_neg (by rw [hrest c rfl]; exact Bool.false_ne_true)
  rw [runAt, if_pos (List.isPrefixOf_iff_prefix.mpr (List.prefix_append _ _)), List.drop_left]
  dsimp only
  rw [List.takeWhile_append_of_pos hrun, hstop, List.append_nil, if_neg hne]

theorem led_runAt (lead : Text) (p : Char → Bool) : Search.Led id lead (runAt lead p) := by
  intro text h
  rw [List.map_id, ← List.isPrefixOf_iff_prefix] at h
  exact if_neg h

theorem captured_append {before : Text} (hbefore : ¬lead <:+: before) {c : Char} (hc : c ∉ lead)
    (hne : run ≠ []) (hrun : ∀ c ∈ run, p c) (hrest : ∀ c ∈ rest.head?, p c = false) :
    captured lead p (before ++ c :: (lead ++ (run ++ rest))) = run := by
  have hpass := (led_runAt lead p).firstAt_append (by rwa [List.map_id]) hc (lead ++ (run ++ rest))
  rw [captured, hpass, Search.firstAt_of_some (runAt_append hne hrun hrest)]
  rfl

theorem captured_first {line : Text} (h : '\n' ∉ line) (text : Text) :
    captured ('\n' :: lead) p (line ++ '\n' :: text) =
      captured ('\n' :: lead) p ('\n' :: text) := by
  have hpass : Search.firstAt (runAt ('\n' :: lead) p) (line ++ '\n' :: text) =
      Search.firstAt (runAt ('\n' :: lead) p) ('\n' :: text) := by
    refine Search.firstAt_append fun k hk ↦ led_runAt _ p _ ?_
    rw [List.map_id, List.drop_append_of_le_length hk.le, List.drop_eq_getElem_cons hk,
      List.cons_append, List.cons_prefix_cons]
    rintro ⟨he, -⟩
    have hmem := List.getElem_mem hk
    rw [← he] at hmem
    exact h hmem
  rw [captured, hpass]
  rfl

theorem captured_line {lines : List Text} (hlines : ∀ line ∈ lines, '\n' ∉ line ∧ ¬lead <+: line)
    (hr : '\r' ∉ lead) (hne : run ≠ []) (hrun : ∀ c ∈ run, p c)
    (hrest : ∀ c ∈ rest.head?, p c = false) :
    captured ('\n' :: lead) p ('\n' :: (crlf lines ++ (lead ++ (run ++ rest)))) = run := by
  induction lines with
  | nil =>
    have hread : runAt ('\n' :: lead) p ('\n' :: lead ++ (run ++ rest)) = some run :=
      runAt_append hne hrun hrest
    exact congrArg (Option.getD · []) (Search.firstAt_of_some hread)
  | cons line lines ih =>
    obtain ⟨⟨hend, hlead⟩, hlines⟩ := List.forall_mem_cons.mp hlines
    have htext : crlf (line :: lines) ++ (lead ++ (run ++ rest)) =
        (line ++ ['\r']) ++ '\n' :: (crlf lines ++ (lead ++ (run ++ rest))) := by
      simp only [crlf_cons, List.append_assoc, List.cons_append, List.nil_append]
    have hnone : runAt ('\n' :: lead) p
        ('\n' :: ((line ++ ['\r']) ++ '\n' :: (crlf lines ++ (lead ++ (run ++ rest))))) = none := by
      refine led_runAt _ p _ ?_
      rw [List.map_id, List.cons_prefix_cons, List.append_assoc]
      exact fun h ↦ hlead (Search.prefix_of_not_mem hr h.2)
    have hskip : captured ('\n' :: lead) p ((line ++ ['\r']) ++ '\n' :: _) = _ :=
      captured_first (List.not_mem_append hend (by decide)) (crlf lines ++ (lead ++ (run ++ rest)))
    rw [htext, captured, Search.firstAt, hnone]
    exact hskip.trans (ih hlines)

end Captures

/-- What a platform invites the device with: a stream for an address and a port, under a number,
among other lines. -/
structure SipOffer where
  uri : Text
  fields : List (Text × Text)
  session : List Text
  ip : Text
  media : List Text
  port : ℕ
  formats : Text
  attributes : List Text
  ssrc : Text
  rest : List Text

namespace SipOffer

variable (o : SipOffer)

def addressLine : Text := "c=IN IP4 ".toList ++ o.ip

def mediaLine : Text := "m=video ".toList ++ (decimal o.port ++ o.formats)

def sourceLine : Text := "y=".toList ++ o.ssrc

def sdp : Text :=
  crlf (o.session ++ o.addressLine :: (o.media ++ o.mediaLine :: (o.attributes ++
    o.sourceLine :: o.rest)))

def message : SipMessage := ⟨"INVITE " ++ o.uri ++ " SIP/2.0", o.fields, o.sdp⟩

def text : Text := o.message.text

def beforeAddress : List Text := o.message.lines ':' ++ [] :: o.session

def beforeMedia : List Text := o.beforeAddress ++ o.addressLine :: o.media

def beforeSource : List Text := o.beforeMedia ++ o.mediaLine :: o.attributes

def requiredFields : List Text := ["Via", "From", "To", "Call-ID", "CSeq"]

def tcpMarks : List Text := ["TCP/RTP", "RTP/AVP/TCP", "a=setup:"]

/-- An offer that is read as it is meant: nothing else in it is taken for its parts. -/
structure Valid : Prop where
  uri : '\n' ∉ o.uri
  fields : FieldsLined o.fields
  required : ∀ name ∈ requiredFields, ∃ value, o.message.fieldValue name = some value
  address : o.ip ≠ [] ∧ ∀ c ∈ o.ip, c.isDigit || c == '.'
  addressFirst : ∀ line ∈ o.beforeAddress, ¬"c=IN IP4 ".toList <:+: line
  port : 0 < o.port ∧ o.port ≤ 65535
  formats : ∀ c ∈ o.formats.head?, c.isDigit = false
  portFirst : ∀ line ∈ o.beforeMedia, ¬"m=video ".toList <:+: line
  source : o.ssrc ≠ [] ∧ ∀ c ∈ o.ssrc, c.isDigit
  sourceFirst : ∀ line ∈ o.beforeSource, '\n' ∉ line ∧ ¬"y=".toList <+: line
  udp : ∀ mark ∈ tcpMarks, ¬mark <:+: o.text

def transaction : Transaction :=
  ⟨o.message.field "Via", o.message.field "From",
    Str.trim ((o.message.fieldValue "To").getD [] ++ ";tag=tri-fusion-play"),
    o.message.field "Call-ID", o.message.field "CSeq"⟩

theorem text_source : o.text = crlf o.beforeSource ++ crlf (o.sourceLine :: o.rest) := by
  have htext : o.text = crlf (o.message.lines ':') ++ '\r' :: '\n' :: o.sdp := rfl
  rw [htext, sdp, beforeSource, beforeMedia, beforeAddress]
  simp only [crlf_append, crlf_cons, List.append_assoc, List.cons_append, List.nil_append]

theorem text_media : o.text = crlf o.beforeMedia ++ crlf (o.mediaLine :: (o.attributes ++
    o.sourceLine :: o.rest)) := by
  rw [text_source, beforeSource]
  simp only [crlf_append, crlf_cons, List.append_assoc, List.cons_append]

theorem text_address : o.text = crlf o.beforeAddress ++ crlf (o.addressLine :: (o.media ++
    o.mediaLine :: (o.attributes ++ o.sourceLine :: o.rest))) := by
  rw [text_media, beforeMedia]
  simp only [crlf_append, crlf_cons, List.append_assoc, List.cons_append]

variable {o}

/-- What a pattern captures in a line that is the first one to hold its fixed part. -/
theorem captured_crlf {lead run rest : Text} {p : Char → Bool} {before after : List Text}
    (hbefore : ∀ line ∈ before, ¬lead <:+: line) (hnil : before ≠ []) (hlead : lead ≠ [])
    (hr : '\r' ∉ lead ∧ '\n' ∉ lead) (hne : run ≠ []) (hrun : ∀ c ∈ run, p c)
    (hrest : ∀ c ∈ (rest ++ ['\r']).head?, p c = false) :
    captured lead p (crlf before ++ crlf ((lead ++ (run ++ rest)) :: after)) = run := by
  obtain ⟨text, he, hfree⟩ := crlf_not_infix hlead hr.1 hr.2 hnil hbefore
  have htext : crlf before ++ crlf ((lead ++ (run ++ rest)) :: after) =
      text ++ '\n' :: (lead ++ (run ++ ((rest ++ ['\r']) ++ '\n' :: crlf after))) := by
    rw [he, crlf_cons]
    simp only [List.append_assoc, List.cons_append, List.nil_append]
  have hhead : ∀ c ∈ ((rest ++ ['\r']) ++ '\n' :: crlf after).head?, p c = false := by
    intro c hc
    rw [List.head?_append_of_ne_nil _ (List.append_ne_nil_of_right_ne_nil _ (by decide))] at hc
    exact hrest c hc
  rw [htext]
  exact captured_append hfree hr.2 hne hrun hhead

theorem captured_address (h : o.Valid) :
    captured "c=IN IP4 ".toList (fun c ↦ c.isDigit || c == '.') o.text = o.ip := by
  have hline : o.addressLine = "c=IN IP4 ".toList ++ (o.ip ++ []) :=
    congrArg ("c=IN IP4 ".toList ++ ·) (List.append_nil o.ip).symm
  have hend : ∀ c ∈ ([] ++ ['\r']).head?, (c.isDigit || c == '.') = false := by
    rintro c ⟨⟩
    decide
  rw [text_address, hline]
  exact captured_crlf h.addressFirst (List.cons_ne_nil _ _) (by decide) (by decide) h.address.1
    h.address.2 hend

theorem captured_port (h : o.Valid) :
    captured "m=video ".toList Char.isDigit o.text = decimal o.port := by
  have hformats : ∀ c ∈ (o.formats ++ ['\r']).head?, c.isDigit = false := by
    intro c hc
    cases hf : o.formats with
    | nil =>
      rw [hf] at hc
      cases hc
      decide
    | cons d formats =>
      rw [hf] at hc
      cases hc
      exact h.formats c (by rw [hf]; rfl)
  rw [text_media]
  exact captured_crlf h.portFirst (List.cons_ne_nil _ _) (by decide) (by decide)
    (decimal_ne_nil o.port) (fun c hc ↦ isDigit_of_mem_decimal hc) hformats

theorem captured_source (h : o.Valid) : captured "\ny=".toList Char.isDigit o.text = o.ssrc := by
  have hstart : '\n' ∉ o.message.start ++ ['\r'] :=
    List.not_mem_append (h.sourceFirst _ List.mem_cons_self).1 (by decide)
  have htail : ∀ line ∈ o.beforeSource.tail, '\n' ∉ line ∧ ¬"y=".toList <+: line :=
    fun line hl ↦ h.sourceFirst line (List.mem_of_mem_tail hl)
  have htext : o.text = (o.message.start ++ ['\r']) ++ '\n' :: (crlf o.beforeSource.tail ++
      ("y=".toList ++ (o.ssrc ++ '\r' :: '\n' :: crlf o.rest))) := by
    have hcons : o.beforeSource = o.message.start :: o.beforeSource.tail := rfl
    rw [text_source, hcons, crlf_cons, crlf_cons, sourceLine, List.tail_cons]
    simp only [List.append_assoc, List.cons_append, List.nil_append]
  have hend : ∀ c ∈ ('\r' :: '\n' :: crlf o.rest).head?, c.isDigit = false := by
    rintro c ⟨⟩
    decide
  rw [htext]
  exact (captured_first hstart _).trans
    (captured_line htail (by decide) h.source.1 h.source.2 hend)

theorem getHeaderLine_required (h : o.Valid) {name : Text} (hname : name ∈ requiredFields) :
    getHeaderLine o.text name = (o.message.fieldValue name).getD [] := by
  have hnames : ∀ name ∈ requiredFields, ':' ∉ name ∧
      (lower (name ++ ":".toList)).head? ≠ some 'i' ∧ lower (name ++ ":".toList) ≠ [] := by decide
  obtain ⟨hcolon, hhead, hne⟩ := hnames name hname
  obtain ⟨value, hv⟩ := h.required name hname
  have hlined : '\n' ∉ o.message.start ∧ FieldsLined o.message.fields :=
    ⟨(h.sourceFirst _ List.mem_cons_self).1, h.fields⟩
  rw [hv, Option.getD_some]
  refine getHeaderLine_text hlined hcolon ?_ hv
  rintro ⟨rest, hr⟩
  have hi := congrArg List.head? hr
  rw [List.head?_append_of_ne_nil _ hne] at hi
  exact hhead hi

theorem Valid.port_pos (h : o.Valid) : ¬Int32.ofInt o.port ≤ 0 := by
  obtain ⟨hpos, hport⟩ := h.port
  rw [Int32.le_iff_toInt_le, Int32.toInt_ofInt_of_le (by omega) (by omega), Int32.toInt_zero]
  omega

theorem Valid.not_tcp (h : o.Valid) :
    (decide ("TCP/RTP".toList <:+: o.text) || decide ("RTP/AVP/TCP".toList <:+: o.text) ||
      decide ("a=setup:".toList <:+: o.text)) = false := by
  rw [decide_eq_false (h.udp _ (by decide)), decide_eq_false (h.udp _ (by decide)),
    decide_eq_false (h.udp _ (by decide))]
  rfl

def reading (o : SipOffer) : InviteInfo where
  raw := o.text
  callId := Str.trim ((o.message.fieldValue "Call-ID").getD [])
  «from» := (o.message.fieldValue "From").getD []
  «to» := (o.message.fieldValue "To").getD []
  via := (o.message.fieldValue "Via").getD []
  cseq := (o.message.fieldValue "CSeq").getD []
  contact := getHeaderLine o.text "Contact"
  tcpMode := false
  mediaIp := o.ip
  mediaPort := Int32.ofInt o.port
  ssrc := o.ssrc

theorem parseInvite_text (h : o.Valid) : parseInvite o.text = .accepted o.reading := by
  have hstart : Str.startsWith o.text "INVITE " = true :=
    List.isPrefixOf_iff_prefix.mpr ⟨_, rfl⟩
  have hport : mediaPortOf o.text = some (Int32.ofInt o.port) := by
    have hlt : o.port < 2 ^ 31 := by
      have hle := h.port.2
      omega
    rw [mediaPortOf, captured_port h, if_neg (decimal_ne_nil o.port), stoi_decimal hlt]
  have hcallId : getHeaderLine o.text "Call-ID" = _ := getHeaderLine_required h (by decide)
  have hfrom : getHeaderLine o.text "From" = _ := getHeaderLine_required h (by decide)
  have hto : getHeaderLine o.text "To" = _ := getHeaderLine_required h (by decide)
  have hvia : getHeaderLine o.text "Via" = _ := getHeaderLine_required h (by decide)
  have hcseq : getHeaderLine o.text "CSeq" = _ := getHeaderLine_required h (by decide)
  have hplayable : ¬(o.ip = [] ∨ Int32.ofInt o.port ≤ 0) := not_or.mpr ⟨h.address.1, h.port_pos⟩
  rw [parseInvite, hstart, if_neg (by decide), hport]
  dsimp only
  rw [hcallId, hfrom, hto, hvia, hcseq, h.not_tcp, captured_address h, captured_source h,
    if_neg hplayable]
  rfl

theorem invited_text (h : o.Valid) : invited o.text = some o.reading := by
  rw [invited, parseInvite_text h]
  exact if_neg Bool.false_ne_true

theorem inviteTransaction_reading (o : SipOffer) : inviteTransaction o.reading = o.transaction :=
  congrArg (Transaction.mk _ _ _ · _) (trim_trim _)

end SipOffer

namespace SipProbe

variable {cfg : Gb28181Config} {t : SipTurn} {s s' : SipProbe} {P : Text → Prop}

theorem Turned.heard (h : Turned cfg t s s') (ht : ∀ msg ∈ t.received, P msg)
    (hs : ∀ msg ∈ SipProbe.heard s.log, P msg) : ∀ msg ∈ SipProbe.heard s'.log, P msg := by
  have hmsg {msg : Text} (hm : t.received = some msg) :
      ∀ m ∈ SipProbe.heard s.log ++ [msg], P m :=
    List.forall_mem_append.mpr ⟨hs, List.forall_mem_singleton.mpr (ht msg hm)⟩
  have hall : ∀ m ∈ SipProbe.heard s.log ++ t.received.toList, P m :=
    List.forall_mem_append.mpr ⟨hs, fun m hm ↦ ht m (Option.mem_toList.mp hm)⟩
  cases h with
  | stays => exact hs
  | starts | keepsAlive => simpa using hs
  | fails | passes => simpa using hall
  | registers h hm | authenticates h hm | answers h hm | notifies h hm | accepts h hm =>
    simpa using hmsg hm

theorem heard_exec (hcfg : cfg.Lined) (md5 : Text → List UInt8) {turns : List SipTurn}
    (hturns : ∀ t ∈ turns, ∀ msg ∈ t.received, P msg) (hid : '\n' ∉ s.registerCallId)
    (hs : ∀ msg ∈ heard s.log, P msg) :
    ∀ msg ∈ heard (Runs.exec (step cfg md5) s turns).log, P msg := by
  induction turns generalizing s with
  | nil => exact hs
  | cons t turns ih =>
    obtain ⟨ht, hturns⟩ := List.forall_mem_cons.mp hturns
    have hturn := turned_step (t := t) md5 hcfg hid
    exact ih hturns (hturn.callId_lined hid) (hturn.heard ht hs)

theorem not_invite {msg : Text} (h : ¬Str.startsWith msg "INVITE ") : invited msg = none := by
  have hrefused : parseInvite msg = .refused := by
    rw [parseInvite, Bool.eq_false_iff.mpr h]
    rfl
  rw [invited, hrefused]

theorem target_reading {o : SipOffer} (h : o.Valid) (cfg : Gb28181Config) :
    target cfg o.reading =
      (if o.ip = "127.0.0.1" ∨ o.ip = "0.0.0.0" then cfg.server.ip else o.ip, Int32.ofInt o.port,
        o.ssrc) := by
  have hip : rtpDstIp cfg o.reading =
      if o.ip = "127.0.0.1" ∨ o.ip = "0.0.0.0" then cfg.server.ip else o.ip := by
    unfold rtpDstIp
    refine if_congr ?_ rfl rfl
    exact or_congr Iff.rfl (or_iff_left h.address.1)
  have hssrc : ssrcOf cfg o.reading = o.ssrc := if_neg h.source.1
  rw [target, hip, hssrc]
  rfl

theorem invitation_offer {log : List SipEvent} {inv : InviteInfo}
    (hlog : ∀ msg ∈ heard log, Str.startsWith msg "INVITE " →
      ∃ o : SipOffer, o.Valid ∧ msg = o.text)
    (h : invitation log = some inv) :
    ∃ o : SipOffer, o.Valid ∧ (heard log).find? (Str.startsWith · "INVITE ") = some o.text ∧
      inv = o.reading := by
  obtain ⟨first, msg, rest, he, hmsg, hfirst⟩ := List.findSome?_eq_some_iff.mp h
  have hinvite : Str.startsWith msg "INVITE " := by
    by_contra hn
    rw [not_invite hn] at hmsg
    cases hmsg
  obtain ⟨o, ho, rfl⟩ := hlog msg (by rw [he]; simp) hinvite
  have hnone : ∀ m ∈ first, ¬Str.startsWith m "INVITE " := by
    intro m hm hi
    obtain ⟨other, hother, rfl⟩ := hlog m (by rw [he]; exact List.mem_append_left _ hm) hi
    have hnot := hfirst _ hm
    rw [SipOffer.invited_text hother] at hnot
    cases hnot
  refine ⟨o, ho, ?_, ?_⟩
  · rw [he, List.find?_append, List.find?_eq_none.mpr hnone, Option.none_or]
    exact List.find?_cons_of_pos hinvite
  · rw [SipOffer.invited_text ho] at hmsg
    exact (Option.some_inj.mp hmsg).symm

/-- Where the invitations that the device receives are offers of the platform, it streams to the
first of them: to its address and port, under its number, after the one answer that the platform
knows the offer by. -/
theorem streams_to_first_offer {ω : Type} {io : FileIo ω} {path : Text} {w : ω}
    (h : ProtocolConfigLoader.loadGb28181 io path w = .ok cfg) (md5 : Text → List UInt8)
    (turns : List SipTurn)
    (hoffers : ∀ t ∈ turns, ∀ msg ∈ t.received, Str.startsWith msg "INVITE " →
      ∃ o : SipOffer, o.Valid ∧ msg = o.text) {ip ssrc : Text} {port : Int32}
    (hs : (Runs.exec (step cfg md5) {} turns).phase = .streaming ip port ssrc) :
    ∃ o : SipOffer, o.Valid ∧
      (heard (since (Runs.exec (step cfg md5) {} turns).log)).find?
        (Str.startsWith · "INVITE ") = some o.text ∧
      observed SipSent.accepted (since (Runs.exec (step cfg md5) {} turns).log) =
        [(o.transaction, answerSdp cfg o.reading (localRtpPort cfg))] ∧
      ip = (if o.ip = "127.0.0.1" ∨ o.ip = "0.0.0.0" then cfg.server.ip else o.ip) ∧
      port = Int32.ofInt o.port ∧ ssrc = o.ssrc := by
  have hcfg := loaded_lined h
  have hkept : Kept cfg False (Runs.exec (step cfg md5) {} turns) :=
    kept_initial.exec hcfg md5 fun _ _ hfalse ↦ hfalse.elim
  have hheard := heard_exec hcfg md5 hoffers (s := {}) List.not_mem_nil
    fun _ hm ↦ absurd hm List.not_mem_nil
  generalize Runs.exec (step cfg md5) {} turns = s at hs hkept hheard ⊢
  rcases hkept.accepting.plays with hnone | ⟨inv, hinv, htarget, haccepted⟩
  · rw [hs] at hnone
    cases hnone
  · have hsince : ∀ msg ∈ heard (since s.log), Str.startsWith msg "INVITE " →
        ∃ o : SipOffer, o.Valid ∧ msg = o.text := by
      intro msg hm
      exact hheard msg (((List.dropWhile_sublist _).filterMap _).subset hm)
    obtain ⟨o, ho, hfind, rfl⟩ := invitation_offer hsince hinv
    rw [hs, target_reading ho] at htarget
    obtain ⟨hip, htarget⟩ := Prod.mk.inj (Option.some_inj.mp htarget)
    obtain ⟨hport, hssrc⟩ := Prod.mk.inj htarget
    rw [acceptance, SipOffer.inviteTransaction_reading] at haccepted
    exact ⟨o, ho, hfind, haccepted, hip, hport, hssrc⟩

def plainOffer : SipOffer where
  uri := "sip:34020000001320000001@3402000000"
  fields := [("Via", " SIP/2.0/UDP 192.168.1.20:5060"), ("From", " <sip:platform>;tag=7"),
    ("To", " <sip:34020000001320000001@3402000000>"), ("Call-ID", " 41"), ("CSeq", " 20 INVITE")]
  session := ["v=0", "s=Play"]
  ip := "192.168.1.20"
  media := ["t=0 0"]
  port := 30020
  formats := " RTP/AVP 96"
  attributes := ["a=recvonly"]
  ssrc := "0100000007"
  rest := []

theorem plainOffer_valid : plainOffer.Valid where
  uri := by decide
  fields := by
    unfold FieldsLined
    decide
  required name hname := by
    have hsome : ∀ name ∈ SipOffer.requiredFields, (plainOffer.message.fieldValue name).isSome := by
      decide
    exact Option.isSome_iff_exists.mp (hsome name hname)
  address := ⟨by decide, List.all_eq_true.mp (by decide)⟩
  addressFirst := by decide
  port := by decide
  formats := by
    rintro c ⟨⟩
    decide
  portFirst := by decide
  source := ⟨by decide, List.all_eq_true.mp (by decide)⟩
  sourceFirst := by decide
  udp := by decide +kernel

def offerTurns : List SipTurn :=
  [none, some "SIP/2.0 200 OK".toList, some plainOffer.text, some "ACK sip:device".toList].map
    fun received ↦ ⟨received, 0, fun _ ↦ 0, fun _ ↦ false⟩

theorem streams_to_plainOffer :
    ∃ o : SipOffer, o.Valid ∧
      (heard (since (Runs.exec (step {} fun _ ↦ []) {} offerTurns).log)).find?
        (Str.startsWith · "INVITE ") = some o.text ∧
      observed SipSent.accepted (since (Runs.exec (step {} fun _ ↦ []) {} offerTurns).log) =
        [(o.transaction, answerSdp {} o.reading (localRtpPort {}))] ∧
      "192.168.1.20".toList =
        (if o.ip = "127.0.0.1" ∨ o.ip = "0.0.0.0" then ({} : Gb28181Config).server.ip else o.ip) ∧
      (30020 : Int32) = Int32.ofInt o.port ∧ "0100000007".toList = o.ssrc := by
  have hload :
      ProtocolConfigLoader.loadGb28181 (ConfigManager.disk fun _ ↦ none) "gb28181.yaml" () =
        .ok {} := by decide +kernel
  refine streams_to_first_offer hload (fun _ ↦ []) offerTurns ?_ (by decide +kernel)
  intro t ht msg hm hi
  obtain ⟨received, hr, rfl⟩ := List.mem_map.mp ht
  have hreceived : received = some msg := hm
  rw [hreceived] at hr
  have hmsg : msg = plainOffer.text := by
    simp only [List.mem_cons, List.not_mem_nil, or_false, reduceCtorEq, false_or,
      Option.some_inj] at hr
    rcases hr with rfl | rfl | rfl
    · exact absurd hi (by decide)
    · rfl
    · exact absurd hi (by decide)
  exact ⟨plainOffer, plainOffer_valid, hmsg⟩

end SipProbe

end TriFusion.Protocol
