import TriFusion.Library.Runs
import TriFusion.Protocol.SipMessages

namespace TriFusion.Protocol

open Foundation Library Gb28181PlayProbe

/-- What the probe meets from one wait for a datagram to the next: the datagram, if there is one,
the steady clock, the readings of `std::time` and the sends that fail. -/
structure SipTurn where
  received : Option Text
  now : ℕ
  time : ℕ → ℤ
  refused : ℕ → Bool

/-- Where the probe stands: before its first REGISTER, waiting for the answer to the first or to the
second, in the loop of `main`, waiting for an ACK, streaming, or at an end. -/
inductive SipPhase
  | starting
  | registering
  | authenticating
  | online
  | acknowledging (inv : InviteInfo) (tries : ℕ)
  | streaming (ip : Text) (port : Int32) (ssrc : Text)
  | ended (code : ℕ)
  | aborted
  deriving DecidableEq

inductive SipEvent
  | received (msg : Text)
  | registered
  | sent (text : Text)
  deriving DecidableEq

structure SipProbe where
  phase : SipPhase := .starting
  cseq : Int32 := 1
  registerCallId : Text := []
  lastKeepalive : ℕ := 0
  sn : Int32 := 1
  responseCseq : Int32 := 1000
  log : List SipEvent := []

namespace SipProbe

def hear (received : Option Text) (s : SipProbe) : SipProbe :=
  { s with log := s.log ++ received.toList.map .received }

def sendPacket (refused : Bool) (text : Text) (s : SipProbe) : Bool × SipProbe :=
  if refused then (false, s) else (true, { s with log := s.log ++ [.sent text] })

section Handlers

variable (cfg : Gb28181Config) (md5 : Text → List UInt8) (t : SipTurn)

/-- `registerToPlatform` up to its first wait. -/
def register (s : SipProbe) : SipProbe :=
  let callId := makeCallId cfg.local.deviceId (t.time 0)
  let firstRegister := buildRegisterNoAuth cfg s.cseq (makeBranch (t.time 1)) callId
  match { s with registerCallId := callId }.sendPacket (t.refused 0) firstRegister with
  | (false, s) => { s with phase := .ended 6 }
  | (true, s) => { s with phase := .registering }

def goOnline (s : SipProbe) : SipProbe :=
  { s with phase := .online, lastKeepalive := t.now, log := s.log ++ [.registered] }

/-- The answer that `registerToPlatform` gives to a 401. -/
def authenticate (resp : Text) (s : SipProbe) : SipProbe :=
  let realm := getHeaderParam resp "realm"
  let nonce := getHeaderParam resp "nonce"
  let qop := getHeaderParam resp "qop"
  let realm := if realm = [] then cfg.server.domain else realm
  if nonce = [] then { s with phase := .ended 6 }
  else
    let qop : Text := if "auth".toList <:+: qop then "auth" else []
    let cseq := s.cseq + 1
    let secondRegister :=
      buildRegisterAuth cfg md5 cseq (makeBranch (t.time 0)) s.registerCallId realm nonce qop
    match { s with cseq := cseq }.sendPacket (t.refused 0) secondRegister with
    | (false, s) => { s with phase := .ended 6 }
    | (true, s) => { s with phase := .authenticating }

def registerAnswered (s : SipProbe) : SipProbe :=
  match t.received with
  | none => { s with phase := .ended 6 }
  | some resp =>
    if containsStatus resp 200 then s.goOnline t
    else if !containsStatus resp 401 then { s with phase := .ended 6 }
    else s.authenticate cfg md5 t resp

def authAnswered (s : SipProbe) : SipProbe :=
  match t.received with
  | none => { s with phase := .ended 6 }
  | some resp2 => if containsStatus resp2 200 then s.goOnline t else { s with phase := .ended 6 }

/-- Nobody looks at what `answerSimpleMessage` returns. -/
def answerSimpleMessage (msg : Text) (s : SipProbe) : SipProbe :=
  if !Str.startsWith msg "MESSAGE " then s
  else
    let s := (s.sendPacket (t.refused 0) (messageOk msg)).2
    match queryXml cfg msg with
    | none => s
    | some xml =>
      let response := gbXmlMessage cfg xml s.responseCseq (t.time 0) (t.time 1)
      ({ s with responseCseq := s.responseCseq + 1 }.sendPacket (t.refused 1) response).2

def keepalive (s : SipProbe) : SipProbe :=
  if s.lastKeepalive + 20000000000 < t.now then
    let cseq := s.cseq + 1
    let message := buildKeepaliveMessage cfg cseq (makeBranch (t.time 0)) s.registerCallId s.sn
    { (s.sendPacket (t.refused 0) message).2 with
      cseq := cseq, sn := s.sn + 1, lastKeepalive := t.now }
  else s

def localRtpPort : ℕ := if 0 < cfg.media.rtpLocalPort then cfg.media.rtpLocalPort.toNat else 30000

def acceptInvite (inv : InviteInfo) (s : SipProbe) : SipProbe :=
  if inv.tcpMode then { s with phase := .ended 7 }
  else
    match s.sendPacket (t.refused 0) (buildSip200ForInvite cfg inv (localRtpPort cfg)) with
    | (false, s) => { s with phase := .ended 8 }
    | (true, s) => { s with phase := .acknowledging inv 0 }

/-- The body of the loop of `main`. -/
def serve (s : SipProbe) : SipProbe :=
  match t.received with
  | none => s.keepalive cfg t
  | some msg =>
    if Str.startsWith msg "MESSAGE " then s.answerSimpleMessage cfg t msg
    else if Str.startsWith msg "SIP/2.0 " then s
    else
      match parseInvite msg with
      | .refused => s
      | .aborted => { s with phase := .aborted }
      | .accepted inv => s.acceptInvite cfg t inv

def rtpDstIp (inv : InviteInfo) : Text :=
  if inv.mediaIp = "127.0.0.1" ∨ inv.mediaIp = "0.0.0.0" ∨ inv.mediaIp = [] then cfg.server.ip
  else inv.mediaIp

def ssrcOf (inv : InviteInfo) : Text := if inv.ssrc = [] then cfg.media.ssrc else inv.ssrc

def play (inv : InviteInfo) (s : SipProbe) : SipProbe :=
  { s with phase := .streaming (rtpDstIp cfg inv) inv.mediaPort (ssrcOf cfg inv) }

/-- The wait for an ACK is one of five. -/
def waitAgain (inv : InviteInfo) (tries : ℕ) (s : SipProbe) : SipProbe :=
  if tries + 1 < 5 then { s with phase := .acknowledging inv (tries + 1) } else s.play cfg inv

def awaitAck (inv : InviteInfo) (tries : ℕ) (s : SipProbe) : SipProbe :=
  match t.received with
  | none => s.waitAgain cfg inv tries
  | some ack =>
    if Str.startsWith ack "ACK " then s.play cfg inv
    else if Str.startsWith ack "MESSAGE " then
      (s.answerSimpleMessage cfg t ack).waitAgain cfg inv tries
    else s.waitAgain cfg inv tries

end Handlers

/-- One turn of `registerToPlatform` and then of `main`. -/
def step (cfg : Gb28181Config) (md5 : Text → List UInt8) (s : SipProbe) (t : SipTurn) : SipProbe :=
  match s.phase with
  | .starting => s.register cfg t
  | .registering => (s.hear t.received).registerAnswered cfg md5 t
  | .authenticating => (s.hear t.received).authAnswered t
  | .online => (s.hear t.received).serve cfg t
  | .acknowledging inv tries => (s.hear t.received).awaitAck cfg t inv tries
  | .streaming .. | .ended _ | .aborted => s

end SipProbe

inductive SipAnswer
  | ok (transaction : Transaction)
  | notify (cmdType sn : Text)
  deriving DecidableEq

namespace SipSent

def answer : SipSent → Option SipAnswer
  | .ok transaction => some (.ok transaction)
  | .notify _ cmdType sn => some (.notify cmdType sn)
  | .register _ | .keepalive _ _ | .accept _ _ => none

def request : SipSent → Option Int32
  | .register sequence | .keepalive sequence _ => some sequence
  | .notify _ _ _ | .ok _ | .accept _ _ => none

def notification : SipSent → Option Int32
  | .notify sequence _ _ => some sequence
  | .register _ | .keepalive _ _ | .ok _ | .accept _ _ => none

def keepaliveSn : SipSent → Option Text
  | .keepalive _ sn => some sn
  | .register _ | .notify _ _ _ | .ok _ | .accept _ _ => none

def accepted : SipSent → Option (Transaction × Text)
  | .accept transaction sdp => some (transaction, sdp)
  | .register _ | .keepalive _ _ | .notify _ _ _ | .ok _ => none

def IsRegister (m : SipSent) : Prop := ∃ sequence, m = .register sequence

end SipSent

namespace SipEvent

def said : SipEvent → Option SipSent
  | .sent text => (SipMessage.ofText text).sent
  | .received _ | .registered => none

def heard : SipEvent → Option Text
  | .received msg => some msg
  | .registered | .sent _ => none

def Understood : SipEvent → Prop
  | .sent text => ∃ m, (SipMessage.ofText text).sent = some m
  | .received _ | .registered => True

end SipEvent

def due (msg : Text) : List SipAnswer :=
  if Str.startsWith msg "MESSAGE " then
    .ok (messageTransaction msg) :: (queryOf msg).toList.map fun q ↦ .notify q.1 q.2
  else []

def invited (msg : Text) : Option InviteInfo :=
  match parseInvite msg with
  | .accepted inv => if inv.tcpMode then none else some inv
  | .refused | .aborted => none

def acceptance (cfg : Gb28181Config) (inv : InviteInfo) : Transaction × Text :=
  (inviteTransaction inv, answerSdp cfg inv (SipProbe.localRtpPort cfg))

def target (cfg : Gb28181Config) (inv : InviteInfo) : Text × Int32 × Text :=
  (SipProbe.rtpDstIp cfg inv, inv.mediaPort, SipProbe.ssrcOf cfg inv)

def SipPhase.target (cfg : Gb28181Config) : SipPhase → Option (Text × Int32 × Text)
  | .acknowledging inv _ => some (Protocol.target cfg inv)
  | .streaming ip port ssrc => some (ip, port, ssrc)
  | .starting | .registering | .authenticating | .online | .ended _ | .aborted => none

def SipProbe.before (log : List SipEvent) : List SipEvent := log.takeWhile (· ≠ .registered)

def SipProbe.since (log : List SipEvent) : List SipEvent := log.dropWhile (· ≠ .registered)

namespace SipProbe

section Parts

variable {log : List SipEvent}

theorem before_of_not_mem (h : .registered ∉ log) : before log = log := by
  refine List.takeWhile_eq_self_iff.mpr fun event he ↦ decide_eq_true ?_
  rintro rfl
  exact h he

theorem since_of_not_mem (h : .registered ∉ log) : since log = [] := by
  refine List.dropWhile_eq_nil_iff.mpr fun event he ↦ decide_eq_true ?_
  rintro rfl
  exact h he

theorem before_append (h : .registered ∈ log) (more : List SipEvent) :
    before (log ++ more) = before log := by
  unfold before
  rw [List.takeWhile_append, if_neg]
  intro hl
  have hself := (List.takeWhile_prefix _).eq_of_length hl
  exact of_decide_eq_true (List.takeWhile_eq_self_iff.mp hself _ h) rfl

theorem since_append (h : .registered ∈ log) (more : List SipEvent) :
    since (log ++ more) = since log ++ more := by
  unfold since
  rw [List.dropWhile_append, if_neg]
  intro hl
  have hnil := List.dropWhile_eq_nil_iff.mp (List.isEmpty_iff.mp hl)
  exact of_decide_eq_true (hnil _ h) rfl

theorem before_append_registered (h : .registered ∉ log) :
    before (log ++ [.registered]) = log := by
  unfold before
  rw [List.takeWhile_append, ← before, before_of_not_mem h, if_pos rfl]
  exact List.append_nil log

theorem since_append_registered (h : .registered ∉ log) :
    since (log ++ [.registered]) = [.registered] := by
  unfold since
  rw [List.dropWhile_append, ← since, since_of_not_mem h]
  rfl

end Parts

def sends (refused : Bool) (text : Text) : List SipEvent := if refused then [] else [.sent text]

theorem sendPacket_eq (refused : Bool) (text : Text) (s : SipProbe) :
    s.sendPacket refused text = (!refused, { s with log := s.log ++ sends refused text }) := by
  cases refused
  · rfl
  · exact congrArg (Prod.mk false) (by rw [sends, if_pos rfl, List.append_nil])

end SipProbe

def SipPhase.Listening (phase : SipPhase) : Prop := phase = .registering ∨ phase = .authenticating

def SipPhase.Serving : SipPhase → Prop
  | .online | .acknowledging _ _ => True
  | .starting | .registering | .authenticating | .streaming _ _ _ | .ended _ | .aborted => False

/-- Where a probe that serves stands after a turn in which it accepts nothing. -/
structure SipPhase.Leads (phase : SipPhase) (cfg : Gb28181Config) (next : SipPhase) : Prop where
  serving : phase.Serving
  started : next ≠ .starting
  answered : ¬next.Listening
  kept : next.Serving → (next = .online ↔ phase = .online)
  plays : next.target cfg = none ∨ next.target cfg = phase.target cfg

theorem SipPhase.Serving.leaves {cfg : Gb28181Config} {phase next : SipPhase} (h : phase.Serving)
    (hnext : next ≠ .starting ∧ next ≠ .registering ∧ next ≠ .authenticating)
    (hserving : ¬next.Serving)
    (hplays : next.target cfg = none ∨ next.target cfg = phase.target cfg) :
    phase.Leads cfg next := by
  obtain ⟨hstarting, hregistering, hauthenticating⟩ := hnext
  exact ⟨h, hstarting, not_or.mpr ⟨hregistering, hauthenticating⟩, fun hn ↦ absurd hn hserving,
    hplays⟩

namespace SipProbe

/-- What one turn does, by what the platform makes of it. -/
inductive Turned (cfg : Gb28181Config) (t : SipTurn) (s : SipProbe) : SipProbe → Prop
  | stays (h : s.phase ≠ .starting ∧ ¬s.phase.Listening ∧ ¬s.phase.Serving) : Turned cfg t s s
  | starts {text callId : Text} (h : s.phase = .starting) (hid : '\n' ∉ callId)
      (hread : (SipMessage.ofText text).sent = some (.register s.cseq)) :
      Turned cfg t s { s with
        registerCallId := callId
        phase := if t.refused 0 then .ended 6 else .registering
        log := s.log ++ sends (t.refused 0) text }
  | fails (h : s.phase.Listening) :
      Turned cfg t s { s with
        phase := .ended 6, log := s.log ++ t.received.toList.map .received }
  | registers {msg : Text} (h : s.phase.Listening) (hm : t.received = some msg) :
      Turned cfg t s { s with
        phase := .online, lastKeepalive := t.now, log := s.log ++ [.received msg] ++ [.registered] }
  | authenticates {msg text : Text} (h : s.phase = .registering) (hm : t.received = some msg)
      (hread : (SipMessage.ofText text).sent = some (.register (s.cseq + 1))) :
      Turned cfg t s { s with
        cseq := s.cseq + 1
        phase := if t.refused 0 then .ended 6 else .authenticating
        log := s.log ++ [.received msg] ++ sends (t.refused 0) text }
  | passes {phase : SipPhase} (h : s.phase.Leads cfg phase)
      (hdue : ∀ msg ∈ t.received, due msg = [])
      (hinvited : s.phase = .online → ∀ msg ∈ t.received, invited msg = none) :
      Turned cfg t s { s with
        phase := phase, log := s.log ++ t.received.toList.map .received }
  | keepsAlive {text : Text} (h : s.phase = .online)
      (hread : (SipMessage.ofText text).sent = some (.keepalive (s.cseq + 1) (intText s.sn))) :
      Turned cfg t s { s with
        cseq := s.cseq + 1
        sn := s.sn + 1
        lastKeepalive := t.now
        log := s.log ++ sends (t.refused 0) text }
  | answers {phase : SipPhase} {msg text : Text} (h : s.phase.Leads cfg phase)
      (hm : t.received = some msg) (hdue : due msg = [.ok (messageTransaction msg)])
      (hinvited : invited msg = none)
      (hread : (SipMessage.ofText text).sent = some (.ok (messageTransaction msg))) :
      Turned cfg t s { s with
        phase := phase, log := s.log ++ [.received msg] ++ sends (t.refused 0) text }
  | notifies {phase : SipPhase} {msg text response cmdType sn : Text}
      (h : s.phase.Leads cfg phase) (hm : t.received = some msg)
      (hdue : due msg = [.ok (messageTransaction msg), .notify cmdType sn])
      (hinvited : invited msg = none)
      (hread : (SipMessage.ofText text).sent = some (.ok (messageTransaction msg)))
      (hresponse :
        (SipMessage.ofText response).sent = some (.notify s.responseCseq cmdType sn)) :
      Turned cfg t s { s with
        phase := phase
        responseCseq := s.responseCseq + 1
        log := s.log ++ [.received msg] ++ sends (t.refused 0) text ++
          sends (t.refused 1) response }
  | accepts {msg text : Text} {inv : InviteInfo} (h : s.phase = .online)
      (hm : t.received = some msg) (hdue : due msg = [])
      (hinvited : invited msg = some inv)
      (hread : (SipMessage.ofText text).sent =
        some (.accept (acceptance cfg inv).1 (acceptance cfg inv).2)) :
      Turned cfg t s { s with
        phase := if t.refused 0 then .ended 8 else .acknowledging inv 0
        log := s.log ++ [.received msg] ++ sends (t.refused 0) text }

section Turns

variable {cfg : Gb28181Config} (md5 : Text → List UInt8) {t : SipTurn} {s : SipProbe}

theorem invited_of_message {msg : Text} (h : Str.startsWith msg "MESSAGE ") :
    invited msg = none := by
  obtain ⟨tail, rfl⟩ := List.isPrefixOf_iff_prefix.mp h
  rfl

theorem invited_of_response {msg : Text} (h : Str.startsWith msg "SIP/2.0 ") :
    invited msg = none := by
  obtain ⟨tail, rfl⟩ := List.isPrefixOf_iff_prefix.mp h
  rfl

theorem due_of_not_message {msg : Text} (h : ¬Str.startsWith msg "MESSAGE ") : due msg = [] :=
  if_neg h

theorem makeCallId_lined (h : cfg.Lined) (time : ℤ) :
    '\n' ∉ makeCallId cfg.local.deviceId time := by
  unfold makeCallId
  simp only [List.append_assoc, List.mem_append, not_or]
  exact ⟨h.deviceId, by decide, not_mem_signedDecimal (by decide) (by decide) time, by decide⟩

theorem isParamChar_of_paramAt {key text value : Text} (h : paramAt key text = some value) :
    ∀ c ∈ value, isParamChar c := by
  unfold paramAt at h
  dsimp only at h
  generalize (if (text.drop (key.length + 1)).head? = some '"' then
    (text.drop (key.length + 1)).tail else text.drop (key.length + 1)) = rest at h
  by_cases hp : (lower (key ++ "=".toList)).isPrefixOf (lower text)
  · rw [if_pos hp] at h
    by_cases hv : rest.takeWhile isParamChar = []
    · rw [if_pos hv] at h
      cases h
    · rw [if_neg hv] at h
      obtain rfl := Option.some_inj.mp h
      exact fun c hc ↦ List.mem_takeWhile_imp hc
  · rw [if_neg hp] at h
    cases h

theorem getHeaderParam_lined (text key : Text) : '\n' ∉ getHeaderParam text key := by
  unfold getHeaderParam
  generalize hf : Search.firstAt (paramAt key) text = found
  cases found with
  | none => exact List.not_mem_nil
  | some value =>
    obtain ⟨rest, -, hrest⟩ := Search.exists_of_firstAt hf
    exact fun hc ↦ absurd (isParamChar_of_paramAt hrest _ hc) (by decide)

theorem turned_register (h : cfg.Lined) (hs : s.phase = .starting) :
    Turned cfg t s (s.register cfg t) := by
  have hid := makeCallId_lined h (t.time 0)
  have hread := sent_registerNoAuth s.cseq h (makeBranch_lined (t.time 1)) hid
  have hturned : Turned cfg t s _ := .starts hs hid hread
  unfold register
  dsimp only
  rw [sendPacket_eq]
  cases hr : t.refused 0
  · rw [hr] at hturned
    exact hturned
  · rw [hr] at hturned
    exact hturned

theorem turned_fails (h : s.phase.Listening) {received : Option Text}
    (hm : t.received = received) : Turned cfg t s { s.hear received with phase := .ended 6 } := by
  subst hm
  exact .fails h

theorem turned_authenticate (h : cfg.Lined) (hid : '\n' ∉ s.registerCallId)
    (hs : s.phase = .registering) {msg : Text} (hm : t.received = some msg) :
    Turned cfg t s ((s.hear t.received).authenticate cfg md5 t msg) := by
  have hlisten : s.phase.Listening := .inl hs
  unfold authenticate
  dsimp only
  generalize hr : (if getHeaderParam msg "realm" = [] then cfg.server.domain
    else getHeaderParam msg "realm") = realm
  have hrealm : '\n' ∉ realm := by
    rw [← hr]
    split
    · exact h.serverDomain
    · exact getHeaderParam_lined msg "realm"
  generalize hq : (if "auth".toList <:+: getHeaderParam msg "qop" then "auth".toList else []) = qop
  have hqop : '\n' ∉ qop := by
    rw [← hq]
    split
    · decide
    · exact List.not_mem_nil
  by_cases hn : getHeaderParam msg "nonce" = []
  · rw [if_pos hn]
    exact turned_fails hlisten rfl
  · rw [if_neg hn]
    have hread := sent_registerAuth (s.cseq + 1) h (makeBranch_lined (t.time 0)) hid md5 hrealm
      (getHeaderParam_lined msg "nonce") hqop
    have hturned : Turned cfg t s _ := .authenticates hs hm hread
    rw [hm, sendPacket_eq]
    cases hr : t.refused 0
    · rw [hr] at hturned
      exact hturned
    · rw [hr] at hturned
      exact hturned

theorem turned_registerAnswered (h : cfg.Lined) (hid : '\n' ∉ s.registerCallId)
    (hs : s.phase = .registering) :
    Turned cfg t s ((s.hear t.received).registerAnswered cfg md5 t) := by
  have hlisten : s.phase.Listening := .inl hs
  unfold registerAnswered
  cases hm : t.received with
  | none => exact turned_fails hlisten hm
  | some resp =>
    dsimp only
    split
    · exact .registers hlisten hm
    · split
      · exact turned_fails hlisten hm
      · rw [← hm]
        exact turned_authenticate md5 h hid hs hm

theorem turned_authAnswered (hs : s.phase = .authenticating) :
    Turned cfg t s ((s.hear t.received).authAnswered t) := by
  have hlisten : s.phase.Listening := .inr hs
  unfold authAnswered
  cases hm : t.received with
  | none => exact turned_fails hlisten hm
  | some resp =>
    dsimp only
    split
    · exact .registers hlisten hm
    · exact turned_fails hlisten hm

theorem turned_answer (h : cfg.Lined) {phase : SipPhase} (hl : s.phase.Leads cfg phase) {msg : Text}
    (hr : t.received = some msg) (hm : Str.startsWith msg "MESSAGE ") :
    Turned cfg t s { (s.hear (some msg)).answerSimpleMessage cfg t msg with phase := phase } := by
  have hinvited : invited msg = none := invited_of_message hm
  have hdue : due msg =
      .ok (messageTransaction msg) :: (queryOf msg).toList.map fun q ↦ .notify q.1 q.2 := if_pos hm
  unfold answerSimpleMessage
  rw [if_neg (by rw [hm]; decide), sendPacket_eq]
  cases hx : queryXml cfg msg with
  | none =>
    rw [queryXml_eq_none.mp hx] at hdue
    exact .answers hl hr hdue hinvited (sent_messageOk msg)
  | some xml =>
    obtain ⟨cmdType, sn, hq, hresponse⟩ :=
      sent_gbXmlMessage h hx s.responseCseq (t.time 0) (t.time 1)
    rw [hq] at hdue
    dsimp only
    rw [sendPacket_eq]
    exact .notifies hl hr hdue hinvited (sent_messageOk msg) hresponse

theorem leads_online (hs : s.phase = .online) : s.phase.Leads cfg s.phase := by
  rw [hs]
  refine ⟨trivial, by decide, ?_, fun _ ↦ Iff.rfl, .inl rfl⟩
  rintro (he | he) <;> cases he

theorem answerSimpleMessage_phase (msg : Text) :
    (s.answerSimpleMessage cfg t msg).phase = s.phase := by
  unfold answerSimpleMessage
  rw [sendPacket_eq]
  dsimp only
  split
  · rfl
  · split
    · rfl
    · rw [sendPacket_eq]

theorem turned_passes {phase : SipPhase} (h : s.phase.Leads cfg phase) {received : Option Text}
    (hm : t.received = received) (hdue : ∀ msg ∈ received, due msg = [])
    (hinvited : s.phase = .online → ∀ msg ∈ received, invited msg = none) :
    Turned cfg t s { s.hear received with phase := phase } := by
  subst hm
  exact .passes h hdue hinvited

theorem turned_keepalive (h : cfg.Lined) (hid : '\n' ∉ s.registerCallId) (hs : s.phase = .online)
    (hm : t.received = none) : Turned cfg t s ((s.hear none).keepalive cfg t) := by
  have hnone (P : Text → Prop) : ∀ msg ∈ (none : Option Text), P msg := by
    intro msg he
    cases he
  have hhear : s.hear none = s := by rw [hear, Option.toList_none, List.map_nil, List.append_nil]
  unfold keepalive
  dsimp only
  split
  · rw [hhear, sendPacket_eq]
    exact .keepsAlive hs (sent_keepalive h (s.cseq + 1) (t.time 0) hid s.sn)
  · exact turned_passes (leads_online hs) hm (hnone _) fun _ ↦ hnone _

theorem turned_acceptInvite (h : cfg.Lined) (hs : s.phase = .online) {msg : Text} {inv : InviteInfo}
    (hm : t.received = some msg) (hdue : due msg = []) (hinv : parseInvite msg = .accepted inv) :
    Turned cfg t s ((s.hear (some msg)).acceptInvite cfg t inv) := by
  have hinvited : invited msg = if inv.tcpMode then none else some inv := by
    rw [invited, hinv]
  unfold acceptInvite
  by_cases htcp : inv.tcpMode
  · rw [if_pos htcp] at hinvited ⊢
    have hl : s.phase.Leads cfg (.ended 7) := by
      rw [hs]
      exact SipPhase.Serving.leaves trivial (by decide) id (.inl rfl)
    refine turned_passes hl hm ?_ ?_
    · rintro _ ⟨⟩
      exact hdue
    · rintro - _ ⟨⟩
      exact hinvited
  · rw [if_neg htcp] at hinvited ⊢
    have hread := sent_buildSip200ForInvite h (parseInvite_lined hinv) (localRtpPort cfg)
    have hturned : Turned cfg t s _ := .accepts hs hm hdue hinvited hread
    rw [sendPacket_eq]
    cases hr : t.refused 0
    · rw [hr] at hturned
      exact hturned
    · rw [hr] at hturned
      exact hturned

theorem turned_serve (h : cfg.Lined) (hid : '\n' ∉ s.registerCallId) (hs : s.phase = .online) :
    Turned cfg t s ((s.hear t.received).serve cfg t) := by
  unfold serve
  cases hm : t.received with
  | none => exact turned_keepalive h hid hs hm
  | some msg =>
    dsimp only
    by_cases hmessage : Str.startsWith msg "MESSAGE "
    · have hturned := turned_answer h (leads_online hs) hm hmessage
      have hphase : ((s.hear (some msg)).answerSimpleMessage cfg t msg).phase = s.phase :=
        answerSimpleMessage_phase (s := s.hear (some msg)) msg
      rw [if_pos hmessage]
      rw [← hphase] at hturned
      exact hturned
    · have hdue := due_of_not_message hmessage
      rw [if_neg hmessage]
      have hpass {phase : SipPhase} (hl : s.phase.Leads cfg phase) (hinvited : invited msg = none) :
          Turned cfg t s { s.hear (some msg) with phase := phase } := by
        refine turned_passes hl hm ?_ ?_
        · rintro _ ⟨⟩
          exact hdue
        · rintro - _ ⟨⟩
          exact hinvited
      by_cases hresponse : Str.startsWith msg "SIP/2.0 "
      · rw [if_pos hresponse]
        exact hpass (leads_online hs) (invited_of_response hresponse)
      · rw [if_neg hresponse]
        cases hinv : parseInvite msg with
        | refused => exact hpass (leads_online hs) (by rw [invited, hinv])
        | aborted =>
          have hl : s.phase.Leads cfg .aborted := by
            rw [hs]
            exact SipPhase.Serving.leaves trivial (by decide) id (.inl rfl)
          exact hpass hl (by rw [invited, hinv])
        | accepted inv => exact turned_acceptInvite h hs hm hdue hinv

theorem leaves_streaming {inv : InviteInfo} {tries : ℕ} : SipPhase.Leads
    (.acknowledging inv tries) cfg (.streaming (rtpDstIp cfg inv) inv.mediaPort (ssrcOf cfg inv)) :=
  SipPhase.Serving.leaves trivial ⟨by simp, by simp, by simp⟩ id (.inr rfl)

theorem waitAgain_leads (cfg : Gb28181Config) (inv : InviteInfo) (tries : ℕ) :
    ∃ phase, SipPhase.Leads (.acknowledging inv tries) cfg phase ∧
      ∀ s : SipProbe, s.waitAgain cfg inv tries = { s with phase := phase } := by
  by_cases htries : tries + 1 < 5
  · have hl : SipPhase.Leads (.acknowledging inv tries) cfg (.acknowledging inv (tries + 1)) := by
      refine ⟨trivial, by simp, ?_, fun _ ↦ by simp, .inr rfl⟩
      rintro (he | he) <;> cases he
    exact ⟨_, hl, fun s ↦ if_pos htries⟩
  · exact ⟨_, leaves_streaming, fun s ↦ if_neg htries⟩

theorem turned_awaitAck (h : cfg.Lined) {inv : InviteInfo} {tries : ℕ}
    (hs : s.phase = .acknowledging inv tries) :
    Turned cfg t s ((s.hear t.received).awaitAck cfg t inv tries) := by
  obtain ⟨phase, hl, hwait⟩ := waitAgain_leads cfg inv tries
  rw [← hs] at hl
  have honline (received : Option Text) :
      s.phase = .online → ∀ msg ∈ received, invited msg = none := by
    intro he
    rw [hs] at he
    cases he
  unfold awaitAck
  cases hm : t.received with
  | none =>
    dsimp only
    rw [hwait]
    exact turned_passes hl hm (fun _ he ↦ by cases he) (honline _)
  | some ack =>
    dsimp only
    by_cases hack : Str.startsWith ack "ACK "
    · have hplay :
          s.phase.Leads cfg (.streaming (rtpDstIp cfg inv) inv.mediaPort (ssrcOf cfg inv)) := by
        rw [hs]
        exact leaves_streaming
      have hdue : due ack = [] := by
        obtain ⟨tail, rfl⟩ := List.isPrefixOf_iff_prefix.mp hack
        rfl
      rw [if_pos hack]
      refine turned_passes hplay hm ?_ (honline _)
      rintro _ ⟨⟩
      exact hdue
    · rw [if_neg hack]
      by_cases hmessage : Str.startsWith ack "MESSAGE "
      · rw [if_pos hmessage, hwait]
        exact turned_answer h hl hm hmessage
      · rw [if_neg hmessage, hwait]
        refine turned_passes hl hm ?_ (honline _)
        rintro _ ⟨⟩
        exact due_of_not_message hmessage

theorem turned_step (h : cfg.Lined) (hid : '\n' ∉ s.registerCallId) :
    Turned cfg t s (s.step cfg md5 t) := by
  have hover (hstarting : s.phase ≠ .starting)
      (hlisten : s.phase ≠ .registering ∧ s.phase ≠ .authenticating) (hserving : ¬s.phase.Serving) :
      Turned cfg t s s := .stays ⟨hstarting, not_or.mpr hlisten, hserving⟩
  unfold step
  cases hs : s.phase with
  | starting => exact turned_register h hs
  | registering => exact turned_registerAnswered md5 h hid hs
  | authenticating => exact turned_authAnswered hs
  | online => exact turned_serve h hid hs
  | acknowledging inv tries => exact turned_awaitAck h hs
  | streaming ip port ssrc => exact hover (by simp [hs]) (by simp [hs]) (by rw [hs]; exact id)
  | ended code => exact hover (by simp [hs]) (by simp [hs]) (by rw [hs]; exact id)
  | aborted => exact hover (by simp [hs]) (by simp [hs]) (by rw [hs]; exact id)

end Turns

end SipProbe

end TriFusion.Protocol
