import TriFusion.Library.Traces
import TriFusion.Protocol.RtpReassembly
import TriFusion.Protocol.RtspSession

namespace TriFusion.Protocol

open Foundation Media Library RtspServer

namespace RtspServer

variable {ω : Type} {sendAll : List UInt8 → ω → Bool × ω} {I : ω → Prop}

theorem sendLoop_keeps (hsend : ∀ data w, I w → I (sendAll data w).2) (h : FrameHeader)
    (offset : ℕ) (firstPacket : Bool) (seq : UInt16) {w : ω} (hw : I w) :
    I (sendLoop sendAll h offset firstPacket seq w).2.2 := by
  induction hn : h.info.scan.length - offset using Nat.strong_induction_on
    generalizing offset firstPacket seq w with
  | h n ih =>
    rw [sendLoop]
    split
    · rename_i ho
      split
      · exact hw
      · rename_i hf
        have hpos := chunkSize_pos (Nat.lt_of_not_le hf) ho
        extract_lets chunk mark pkt
        have hhead := hsend (tcpHeader pkt) w hw
        split
        · rename_i w₁ he
          rwa [he] at hhead
        · rename_i w₁ he
          rw [he] at hhead
          have hbody := hsend pkt w₁ hhead
          split
          · rename_i w₂ he'
            rwa [he'] at hbody
          · rename_i w₂ he'
            rw [he'] at hbody
            exact ih _ (by omega) _ _ _ hbody rfl
    · exact hw

theorem streamLoop_keeps (hsend : ∀ data w, I w → I (sendAll data w).2) (ssrc : UInt32)
    (frame : Option EncodedFrame) (seq : UInt16) {w : ω} (hw : I w) :
    I (streamLoop sendAll ssrc [frame] seq w).2.2 := by
  cases frame with
  | none => exact hw
  | some frame =>
    have hframe : I (sendMjpegRtpFrame sendAll frame seq ssrc w).2.2 := by
      unfold sendMjpegRtpFrame
      split
      · exact sendLoop_keeps hsend _ _ _ _ hw
      · exact hw
    rw [streamLoop]
    split
    · exact hw
    · split
      · rename_i he
        rwa [he] at hframe
      · rename_i he
        rwa [he] at hframe

end RtspServer

namespace ClientSocket

variable {α : Type} {output : List α → ClientOutput} {data : List α} {w : ClientSocket}

theorem sendAll_sent (output : List α → ClientOutput) (data : List α) (w : ClientSocket) :
    (sendAll output data w).2.sent = w.sent ∨
      ∃ handed, (sendAll output data w).2.sent = w.sent ++ [output handed] := by
  unfold sendAll
  dsimp only
  split
  · exact .inl rfl
  · exact .inr ⟨_, rfl⟩

theorem sendAll_succeeded (hd : data ≠ []) (h : (sendAll output data w).1 = true) :
    (sendAll output data w).2.sent = w.sent ++ [output data] := by
  have hlen : data.length ≤ w.taken.headD 0 := of_decide_eq_true h
  have hne : data.isEmpty = false := by simpa using hd
  simp only [sendAll, List.take_of_length_le hlen, hne, Bool.false_eq_true, if_false]

theorem sendAll_enough (hd : data ≠ []) (h : data.length ≤ w.taken.headD 0) :
    sendAll output data w = (true, { taken := w.taken.tail, sent := w.sent ++ [output data] }) := by
  have hs : (sendAll output data w).1 = true := decide_eq_true h
  exact Prod.ext hs (congrArg (ClientSocket.mk w.taken.tail) (sendAll_succeeded hd hs))

end ClientSocket

def requests (bytes : Text) : List Text := Delimited.pieces endsRequest bytes

structure KeepsReading (request : Text) : Prop where
  fits : request.length ≤ kRtspMaxRequest
  notPlay : getMethod request ≠ "PLAY".toList
  notTeardown : getMethod request ≠ "TEARDOWN".toList

/-- If a PLAY is read, a SETUP came before it and no TEARDOWN comes after it. -/
def Orderly (requests : List Text) : Prop :=
  ∀ before play after, requests = before ++ play :: after → (∀ r ∈ before, KeepsReading r) →
    play.length ≤ kRtspMaxRequest → getMethod play = "PLAY".toList →
    (∃ r ∈ before, getMethod r = "SETUP".toList) ∧
      ∀ r ∈ after, getMethod r ≠ "TEARDOWN".toList

def SetUp (sent : List ClientOutput) : Prop :=
  ∃ request text, .response request text ∈ sent ∧ getMethod request = "SETUP".toList ∧
    "RTSP/1.0 200 ".toList <+: text

def AfterSetup (before : List ClientOutput) : ClientOutput → Prop
  | .response _ _ => True
  | .rtp _ => SetUp before

def packetsOf (sent : List ClientOutput) : List (List UInt8) :=
  sent.filterMap fun
    | .response _ _ => none
    | .rtp data => some data

namespace RtspClient

def TornDown (s : RtspClient) : Prop := ∃ r ∈ requests s.delivered, getMethod r = "TEARDOWN".toList

/-- In a run from a new connection RTP follows a 200 to a SETUP, and no turn that
starts after a TEARDOWN has arrived sends any. -/
structure SessionOrder (config : RtspServerConfig) (events : List ClientEvent) : Prop where
  setUpFirst : Traces.Lawful AfterSetup (run config {} events).sent
  silent : Runs.Along (step config)
    (fun s event ↦ s.TornDown → packetsOf (s.step config event).sent = packetsOf s.sent) {} events

def arrivingBytes : ClientEvent → Text
  | .deliver bytes => bytes
  | _ => []

def arriving (events : List ClientEvent) : Text := events.flatMap arrivingBytes

end RtspClient

section Requests

variable {inbox request rest : Text} {others : List Text}

theorem requests_mono (first second : Text) : requests first <+: requests (first ++ second) :=
  Delimited.piecesFrom_mono [] first second

theorem requests_of_complete (h : readRtspRequest inbox = .complete request rest) (more : Text) :
    request.length ≤ kRtspMaxRequest ∧
      requests (inbox ++ more) = request :: requests (rest ++ more) :=
  Delimited.readFrom_complete h more

theorem readRtspRequest_of_requests (h : requests inbox = request :: others)
    (hl : request.length ≤ kRtspMaxRequest) :
    ∃ rest, readRtspRequest inbox = .complete request rest ∧ requests rest = others :=
  Delimited.readFrom_of_piecesFrom h hl

end Requests

section Responses

variable {config : RtspServerConfig} {request : Text}

theorem response_setup (h : getMethod request = "SETUP".toList) :
    "RTSP/1.0 200 ".toList <+: response config request := by
  have hr : response config request = makeSetupResponse (getCSeq request) := by
    unfold response
    rw [h]
    rfl
  rw [hr]
  exact ⟨_, rfl⟩

theorem response_ne_nil (config : RtspServerConfig) (request : Text) :
    response config request ≠ [] := by
  unfold response
  dsimp only
  split_ifs <;> exact List.cons_ne_nil _ _

end Responses

theorem SetUp.append {sent : List ClientOutput} (h : SetUp sent) (more : List ClientOutput) :
    SetUp (sent ++ more) := by
  obtain ⟨request, text, hm, hr⟩ := h
  exact ⟨request, text, List.mem_append_left _ hm, hr⟩

@[simp] theorem packetsOf_append_response (sent : List ClientOutput) (request text : Text) :
    packetsOf (sent ++ [.response request text]) = packetsOf sent := by
  simp [packetsOf]

structure Answer (request : Text) (answered : Bool) (sent sent' : List ClientOutput) : Prop where
  lawful : Traces.Lawful AfterSetup sent → Traces.Lawful AfterSetup sent'
  kept : SetUp sent → SetUp sent'
  packets : packetsOf sent' = packetsOf sent
  setUp : answered = true → getMethod request = "SETUP".toList → SetUp sent'

theorem sendAll_answer (config : RtspServerConfig) (request : Text) (w : ClientSocket) :
    let result := ClientSocket.sendAll (.response request) (response config request) w
    Answer request result.1 w.sent result.2.sent := by
  intro result
  have hnew : result.1 = true → getMethod request = "SETUP".toList → SetUp result.2.sent := by
    intro hok hm
    refine ⟨request, response config request, ?_, hm, response_setup hm⟩
    rw [ClientSocket.sendAll_succeeded (response_ne_nil config request) hok]
    simp
  rcases ClientSocket.sendAll_sent (.response request) (response config request) w with he | ⟨_, he⟩
  · refine ⟨?_, ?_, congrArg packetsOf he, hnew⟩ <;> rw [he] <;> exact id
  · refine ⟨?_, ?_, ?_, hnew⟩ <;> rw [he]
    · rw [Traces.lawful_concat]
      exact fun h ↦ ⟨h, trivial⟩
    · exact fun h ↦ h.append _
    · exact packetsOf_append_response _ _ _

namespace RtspClient

variable {config : RtspServerConfig} {bytes : Text} {s : RtspClient} {event : ClientEvent}

structure Sound (bytes : Text) (s : RtspClient) : Prop where
  lawful : Traces.Lawful AfterSetup s.sent
  reading : s.phase = .head ∨ s.phase = .receiving → ∃ read,
    (∀ more, requests (s.delivered ++ more) = read ++ requests (s.inbox ++ more)) ∧
      (∀ r ∈ read, KeepsReading r) ∧ ((∃ r ∈ read, getMethod r = "SETUP".toList) → SetUp s.sent)
  streaming : s.phase = .streaming →
    SetUp s.sent ∧ ∀ r ∈ requests bytes, getMethod r ≠ "TEARDOWN".toList

theorem start_sound (bytes : Text) : Sound bytes {} where
  lawful := Traces.lawful_nil
  reading _ := ⟨[], fun _ ↦ rfl, by simp, by simp⟩
  streaming := by rintro ⟨⟩

theorem afterResponse_head {method : Text} {sent : Bool}
    (h : afterResponse method sent = .head ∨ afterResponse method sent = .receiving) :
    sent = true ∧ method ≠ "PLAY".toList ∧ method ≠ "TEARDOWN".toList := by
  unfold afterResponse at h
  split_ifs at h with ht hs hp <;> simp_all

theorem afterResponse_streaming {method : Text} {sent : Bool}
    (h : afterResponse method sent = .streaming) : method = "PLAY".toList := by
  unfold afterResponse at h
  split_ifs at h with ht hs hp
  exact hp

theorem readTurn_complete {request rest : Text}
    (h : readRtspRequest s.inbox = .complete request rest) (taken : List ℕ) :
    s.readTurn config taken =
      let result := ClientSocket.sendAll (.response request) (response config request)
        { taken := taken, sent := s.sent }
      { s with
        phase := afterResponse (getMethod request) result.1
        inbox := rest
        sent := result.2.sent } := by
  simp only [readTurn, h]

theorem readTurn_answered {request rest : Text}
    (h : readRtspRequest s.inbox = .complete request rest) {taken : List ℕ}
    (hroom : (response config request).length ≤ taken.headD 0) :
    s.readTurn config taken =
      { s with
        phase := afterResponse (getMethod request) true
        inbox := rest
        sent := s.sent ++ [.response request (response config request)] } := by
  have hsend : ClientSocket.sendAll (.response request) (response config request)
      { taken := taken, sent := s.sent } =
        (true, ⟨taken.tail, s.sent ++ [.response request (response config request)]⟩) :=
    ClientSocket.sendAll_enough (response_ne_nil config request) hroom
  rw [readTurn_complete h, hsend]

theorem readTurn_sound (ho : Orderly (requests bytes)) (h : Sound bytes s)
    (hp : s.phase = .receiving) (hd : s.delivered <+: bytes) (taken : List ℕ) :
    Sound bytes (s.readTurn config taken) ∧
      packetsOf (s.readTurn config taken).sent = packetsOf s.sent := by
  obtain ⟨read, hread, hkeep, hset⟩ := h.reading (.inr hp)
  cases hr : readRtspRequest s.inbox with
  | waiting =>
    simp only [readTurn, hr]
    split
    · exact ⟨⟨h.lawful, by simp, by simp⟩, rfl⟩
    · exact ⟨h, rfl⟩
  | refused =>
    simp only [readTurn, hr]
    exact ⟨⟨h.lawful, by simp, by simp⟩, trivial⟩
  | complete request rest =>
    rw [readTurn_complete hr]
    have ha := sendAll_answer config request { taken := taken, sent := s.sent }
    dsimp only at ha ⊢
    generalize ClientSocket.sendAll (.response request) (response config request)
      { taken := taken, sent := s.sent } = result at ha ⊢
    have hnext : ∀ more,
        requests (s.delivered ++ more) = read ++ request :: requests (rest ++ more) :=
      fun more ↦ by rw [hread, (requests_of_complete hr more).2]
    have hfits := (requests_of_complete hr []).1
    refine ⟨⟨ha.lawful h.lawful, ?_, ?_⟩, ha.packets⟩
    · intro hphase
      obtain ⟨hok, hplay, hteardown⟩ := afterResponse_head hphase
      refine ⟨read ++ [request], ?_, ?_, ?_⟩
      · intro more
        rw [hnext, List.append_assoc]
        rfl
      · intro r hm
        rcases List.mem_append.mp hm with hm | hm
        · exact hkeep r hm
        · obtain rfl := List.mem_singleton.mp hm
          exact ⟨hfits, hplay, hteardown⟩
      · rintro ⟨r, hm, hsetup⟩
        rcases List.mem_append.mp hm with hm | hm
        · exact ha.kept (hset ⟨r, hm, hsetup⟩)
        · obtain rfl := List.mem_singleton.mp hm
          exact ha.setUp hok hsetup
    · intro hphase
      have hplay := afterResponse_streaming hphase
      obtain ⟨more, rfl⟩ := hd
      obtain ⟨hsetup, hquiet⟩ := ho read request _ (hnext more) hkeep hfits hplay
      refine ⟨ha.kept (hset hsetup), ?_⟩
      intro r hm
      rw [hnext more] at hm
      rcases List.mem_append.mp hm with hm | hm
      · exact (hkeep r hm).notTeardown
      · rcases List.mem_cons.mp hm with rfl | hm
        · rw [hplay]
          decide
        · exact hquiet r hm

theorem streamTurn_sound (h : Sound bytes s) (hp : s.phase = .streaming)
    (frame : Option EncodedFrame) (taken : List ℕ) : Sound bytes (s.streamTurn frame taken) := by
  obtain ⟨hsetup, hquiet⟩ := h.streaming hp
  unfold streamTurn
  split
  · have hkept : Traces.Lawful AfterSetup (streamLoop (ClientSocket.sendAll .rtp) 0x54524653 [frame]
          s.rtpSeq { taken := taken, sent := s.sent }).2.2.sent ∧
        SetUp (streamLoop (ClientSocket.sendAll .rtp) 0x54524653 [frame] s.rtpSeq
          { taken := taken, sent := s.sent }).2.2.sent := by
      refine streamLoop_keeps
        (I := fun w : ClientSocket ↦ Traces.Lawful AfterSetup w.sent ∧ SetUp w.sent) ?_ _ _ _
        ⟨h.lawful, hsetup⟩
      rintro data w ⟨hlawful, hw⟩
      rcases ClientSocket.sendAll_sent .rtp data w with he | ⟨handed, he⟩
      · rw [he]
        exact ⟨hlawful, hw⟩
      · rw [he, Traces.lawful_concat]
        exact ⟨⟨hlawful, hw⟩, hw.append _⟩
    refine ⟨hkept.1, ?_, fun _ ↦ ⟨hkept.2, hquiet⟩⟩
    dsimp only
    split <;> simp
  · exact ⟨h.lawful, by simp, by simp⟩

theorem step_delivered (s : RtspClient) (event : ClientEvent) :
    (s.step config event).delivered = s.delivered ++ arrivingBytes event := by
  cases event with
  | deliver arrived => rfl
  | hangUp => exact (List.append_nil _).symm
  | stop => exact (List.append_nil _).symm
  | turn frame taken =>
    simp only [step, arrivingBytes, List.append_nil]
    split
    · rfl
    · unfold readTurn
      split
      · split <;> rfl
      · rfl
      · rfl
    · unfold streamTurn
      split <;> rfl
    · rfl

theorem arriving_cons (event : ClientEvent) (events : List ClientEvent) :
    arriving (event :: events) = arrivingBytes event ++ arriving events := List.flatMap_cons

theorem arriving_append (first second : List ClientEvent) :
    arriving (first ++ second) = arriving first ++ arriving second := List.flatMap_append

theorem run_delivered (s : RtspClient) (events : List ClientEvent) :
    (s.run config events).delivered = s.delivered ++ arriving events := by
  induction events generalizing s with
  | nil => exact (List.append_nil _).symm
  | cons event events ih =>
    calc (s.run config (event :: events)).delivered
        = ((s.step config event).run config events).delivered := rfl
      _ = s.delivered ++ arriving (event :: events) := by
        rw [ih, step_delivered, arriving_cons, List.append_assoc]

theorem step_sound (ho : Orderly (requests bytes)) (h : Sound bytes s)
    (hd : (s.step config event).delivered <+: bytes) :
    Sound bytes (s.step config event) ∧
      (s.TornDown → packetsOf (s.step config event).sent = packetsOf s.sent) := by
  have hs : s.delivered <+: bytes := by
    rw [step_delivered] at hd
    exact (List.prefix_append _ _).trans hd
  cases event with
  | deliver arrived =>
    refine ⟨⟨h.lawful, ?_, h.streaming⟩, fun _ ↦ rfl⟩
    intro hp
    obtain ⟨read, hread, hrest⟩ := h.reading hp
    refine ⟨read, ?_, hrest⟩
    intro more
    simp only [step, List.append_assoc]
    exact hread _
  | hangUp => exact ⟨⟨h.lawful, h.reading, h.streaming⟩, fun _ ↦ rfl⟩
  | stop => exact ⟨⟨h.lawful, h.reading, h.streaming⟩, fun _ ↦ rfl⟩
  | turn frame taken =>
    cases hp : s.phase with
    | head =>
      simp only [step, hp]
      refine ⟨⟨h.lawful, fun _ ↦ h.reading (.inl hp), ?_⟩, fun _ ↦ trivial⟩
      dsimp only
      split <;> simp
    | receiving =>
      simp only [step, hp]
      obtain ⟨hsound, hpackets⟩ := readTurn_sound ho h hp hs taken
      exact ⟨hsound, fun _ ↦ hpackets⟩
    | streaming =>
      simp only [step, hp]
      refine ⟨streamTurn_sound h hp frame taken, ?_⟩
      rintro ⟨r, hm, hteardown⟩
      obtain ⟨more, rfl⟩ := hs
      exact absurd hteardown ((h.streaming hp).2 r ((requests_mono _ more).subset hm))
    | closed =>
      simp only [step, hp]
      exact ⟨h, fun _ ↦ trivial⟩

theorem sessionOrder_of_orderly {events : List ClientEvent}
    (ho : Orderly (requests (arriving events))) :
    SessionOrder config events := by
  have harrives : Runs.Along (step config)
      (fun s event ↦ (s.step config event).delivered <+: arriving events) {} events := by
    rw [Runs.along_iff]
    intro before event after he
    have hd : (run config {} before).delivered = [] ++ arriving before := run_delivered {} before
    have hall : arriving events = arriving before ++ (arrivingBytes event ++ arriving after) := by
      rw [he, arriving_append, arriving_cons]
    refine ⟨arriving after, ?_⟩
    rw [step_delivered, hall]
    simp only [run] at hd
    rw [hd, List.append_assoc, List.append_assoc]
    rfl
  refine ⟨?_, ?_⟩
  · exact (Runs.Along.invariant (I := Sound (arriving events))
      (fun s event hs hd ↦ (step_sound ho hs hd).1) harrives (start_sound _)).lawful
  · exact Runs.Along.transfer (I := Sound (arriving events))
      (fun s event hs hd ↦ step_sound ho hs hd) harrives (start_sound _)

/-- The turns in which a request is read and answered, and the socket takes the answer. -/
def answering (config : RtspServerConfig) (request : Text) : List ClientEvent :=
  [.turn none [], .turn none [(response config request).length]]

theorem run_append (s : RtspClient) (first second : List ClientEvent) :
    s.run config (first ++ second) = (s.run config first).run config second :=
  Runs.exec_append (step config) s first second

theorem run_answering (hp : s.phase = .head) (hr : s.running = true) {request rest : Text}
    (h : readRtspRequest s.inbox = .complete request rest) :
    s.run config (answering config request) =
      { s with
        phase := afterResponse (getMethod request) true
        inbox := rest
        sent := s.sent ++ [.response request (response config request)] } := by
  have hhead : s.step config (.turn none []) = { s with phase := .receiving } := by
    simp [step, hp, hr]
  have hread : RtspClient.step config { s with phase := .receiving }
      (.turn none [(response config request).length]) =
        readTurn config { s with phase := .receiving } [(response config request).length] := rfl
  rw [answering, run, Runs.exec_cons, Runs.exec_cons, Runs.exec_nil, hhead, hread,
    readTurn_answered (s := { s with phase := .receiving }) h le_rfl]

theorem afterResponse_keepsReading {request : Text} (h : KeepsReading request) :
    afterResponse (getMethod request) true = .head := by
  rw [afterResponse, if_neg h.notTeardown, if_neg (by simp), if_neg h.notPlay]

theorem run_answers {read others : List Text} (hp : s.phase = .head) (hr : s.running = true)
    (hread : requests s.inbox = read ++ others) (hkeep : ∀ r ∈ read, KeepsReading r) :
    ∃ rest, requests rest = others ∧ s.run config (read.flatMap (answering config)) =
      { s with
        inbox := rest
        sent := s.sent ++ read.map fun r ↦ .response r (response config r) } := by
  induction read generalizing s with
  | nil =>
    refine ⟨s.inbox, hread, ?_⟩
    rw [List.flatMap_nil, List.map_nil, List.append_nil]
    rfl
  | cons request read ih =>
    have hk := hkeep request List.mem_cons_self
    obtain ⟨rest, hc, hrest⟩ := readRtspRequest_of_requests hread hk.fits
    have hfirst : s.run config (answering config request) = _ := run_answering hp hr hc
    rw [afterResponse_keepsReading hk, ← hp] at hfirst
    obtain ⟨rest', ho, hrun⟩ := ih
      (s := { s with
        inbox := rest
        sent := s.sent ++ [.response request (response config request)] })
      hp hr hrest fun r hm ↦ hkeep r (List.mem_cons_of_mem _ hm)
    refine ⟨rest', ho, ?_⟩
    rw [List.flatMap_cons, run_append, hfirst, hrun, List.map_cons, List.append_assoc]
    rfl

theorem sendAll_extends (output : List UInt8 → ClientOutput) (data : List UInt8)
    {sent : List ClientOutput} {w : ClientSocket} (h : sent <+: w.sent) :
    sent <+: (ClientSocket.sendAll output data w).2.sent := by
  rcases ClientSocket.sendAll_sent output data w with he | ⟨handed, he⟩
  · rwa [he]
  · rw [he]
    exact h.trans (List.prefix_append _ _)

theorem sendLoop_sends {h : FrameHeader} (ho : 0 < h.info.scan.length)
    (hf : fixedLen h.info true < maxPacket) (seq : UInt16) {w : ClientSocket}
    (hw : 4 ≤ w.taken.headD 0) :
    ∃ data more, (sendLoop (ClientSocket.sendAll .rtp) h 0 true seq w).2.2.sent =
      w.sent ++ .rtp data :: more := by
  suffices ∃ data, w.sent ++ [.rtp data] <+:
      (sendLoop (ClientSocket.sendAll .rtp) h 0 true seq w).2.2.sent by
    obtain ⟨data, more, hm⟩ := this
    exact ⟨data, more, by rw [← hm, List.append_assoc]; rfl⟩
  rw [sendLoop, if_pos ho, if_neg (Nat.not_le_of_lt hf)]
  extract_lets chunk mark pkt
  refine ⟨tcpHeader pkt, ?_⟩
  have hhead : ClientSocket.sendAll .rtp (tcpHeader pkt) w = (true, _) :=
    ClientSocket.sendAll_enough (List.cons_ne_nil _ _) hw
  rw [hhead]
  dsimp only
  have hbody := sendAll_extends .rtp pkt
    (w := { taken := w.taken.tail, sent := w.sent ++ [.rtp (tcpHeader pkt)] }) (List.prefix_refl _)
  split
  · rename_i w' he
    rwa [he] at hbody
  · rename_i w' he
    rw [he] at hbody
    exact sendLoop_keeps (I := fun w' : ClientSocket ↦ w.sent ++ [.rtp (tcpHeader pkt)] <+: w'.sent)
      (fun data w' hp ↦ sendAll_extends .rtp data hp) _ _ _ _ hbody

theorem streamTurn_sends (hr : s.running = true) :
    ∃ data more,
      (s.streamTurn (some tablelessJpeg) [4, 1400]).sent = s.sent ++ .rtp data :: more := by
  have hparse : parseJpegForRtp tablelessJpeg.data {} =
      some (some { scan := [1, 2, 3, 4, 5, 6, 7, 8] }) := by
    decide +kernel
  obtain ⟨data, more, hsent⟩ := sendLoop_sends
    (h := ⟨{ scan := [1, 2, 3, 4, 5, 6, 7, 8] }, rtpTimestampFromPtsMs tablelessJpeg.ptsMs,
      0x54524653⟩)
    (w := { taken := [4, 1400], sent := s.sent }) (by decide) (by decide) s.rtpSeq le_rfl
  refine ⟨data, more, ?_⟩
  rw [← hsent, streamTurn, if_pos hr]
  have hne : tablelessJpeg.data ≠ [] := List.cons_ne_nil _ _
  simp only [streamLoop, if_neg hne, sendMjpegRtpFrame, hparse]
  generalize sendLoop _ _ _ _ _ _ = result
  obtain ⟨ok, seq, w⟩ := result
  cases ok <;> rfl

def disorder (config : RtspServerConfig) (bytes : Text) (before : List Text) (play : Text) :
    List ClientEvent :=
  .deliver bytes :: (before ++ [play]).flatMap (answering config) ++
    [.turn (some tablelessJpeg) [4, 1400]]

theorem arriving_answering (read : List Text) :
    arriving (read.flatMap (answering config)) = [] := by
  induction read with
  | nil => rfl
  | cons request read ih =>
    rw [List.flatMap_cons, arriving_append, ih]
    rfl

theorem arriving_disorder (bytes : Text) (before : List Text) (play : Text) :
    arriving (disorder config bytes before play) = bytes := by
  rw [disorder, arriving_append, arriving_cons, arriving_answering]
  exact (List.append_nil _).trans (List.append_nil _)

theorem run_to_play {before after : List Text} {play : Text}
    (hb : requests bytes = before ++ play :: after) (hkeep : ∀ r ∈ before, KeepsReading r)
    (hfits : play.length ≤ kRtspMaxRequest) (hplay : getMethod play = "PLAY".toList) :
    ∃ rest, run config {} (.deliver bytes :: (before ++ [play]).flatMap (answering config)) =
      { phase := .streaming
        delivered := bytes
        inbox := rest
        sent := (before ++ [play]).map fun r ↦ .response r (response config r) } := by
  obtain ⟨rest, hrest, hrun⟩ := run_answers (s := { delivered := bytes, inbox := bytes })
    rfl rfl hb hkeep
  obtain ⟨rest', hc, -⟩ := readRtspRequest_of_requests hrest hfits
  have hlast : run config
      { delivered := bytes
        inbox := rest
        sent := before.map fun r ↦ .response r (response config r) } (answering config play) = _ :=
    run_answering rfl rfl hc
  have hphase : afterResponse (getMethod play) true = .streaming := by
    rw [hplay]
    decide
  have hdeliver : run config {} (.deliver bytes :: (before ++ [play]).flatMap (answering config)) =
      run config { delivered := bytes, inbox := bytes }
        ((before ++ [play]).flatMap (answering config)) :=
    rfl
  refine ⟨rest', ?_⟩
  rw [hdeliver, List.flatMap_append, run_append, hrun, List.flatMap_singleton, List.map_append]
  rw [hphase] at hlast
  exact hlast

theorem orderly_of_sessionOrder
    (h : ∀ events, arriving events = bytes → SessionOrder config events) :
    Orderly (requests bytes) := by
  intro before play after hb hkeep hfits hplay
  obtain ⟨hfirst, hsilent⟩ := h (disorder config bytes before play) (arriving_disorder ..)
  obtain ⟨rest, hrun⟩ : ∃ rest, run config {} _ = _ := run_to_play hb hkeep hfits hplay
  generalize hs :
    run config {} (.deliver bytes :: (before ++ [play]).flatMap (answering config)) = s
    at hrun
  have hturn : s.step config (.turn (some tablelessJpeg) [4, 1400]) =
      s.streamTurn (some tablelessJpeg) [4, 1400] := by
    rw [hrun]
    rfl
  obtain ⟨data, more, hpacket⟩ := streamTurn_sends (s := s) (by rw [hrun])
  have hsent : s.sent = (before ++ [play]).map fun r ↦ .response r (response config r) := by
    rw [hrun]
  constructor
  · have hend : (run config {} (disorder config bytes before play)).sent =
        s.sent ++ .rtp data :: more := by
      rw [disorder, run_append, hs, ← hpacket, ← hturn]
      rfl
    obtain ⟨request, text, hm, hsetup, -⟩ : SetUp s.sent := hfirst s.sent (.rtp data) more hend
    rw [hsent, List.mem_map] at hm
    obtain ⟨r, hr, he⟩ := hm
    cases he
    rcases List.mem_append.mp hr with hr | hr
    · exact ⟨_, hr, hsetup⟩
    · obtain rfl := List.mem_singleton.mp hr
      exact absurd (hplay.symm.trans hsetup) (by decide)
  · intro r hr hteardown
    rw [disorder, Runs.along_append, Runs.along_cons] at hsilent
    have hlast := hsilent.2.1
    rw [← run, hs, hturn, hpacket] at hlast
    have htorn : s.TornDown := by
      refine ⟨r, ?_, hteardown⟩
      rw [hrun, hb]
      exact List.mem_append_right _ (List.mem_cons_of_mem _ hr)
    have hmore := congrArg List.length (hlast htorn)
    simp [packetsOf, List.filterMap_append] at hmore

/-- The server keeps the session order of a stream of requests, in every run in
which they arrive, exactly when the requests themselves are orderly. -/
theorem session_order_iff (config : RtspServerConfig) (bytes : Text) :
    (∀ events, arriving events = bytes → SessionOrder config events) ↔
      Orderly (requests bytes) := by
  constructor
  · exact orderly_of_sessionOrder
  · rintro ho events rfl
    exact sessionOrder_of_orderly ho

/-- A PLAY alone is served, and a TEARDOWN sent while the server streams is never read. -/
theorem session_out_of_order :
    let setup := "SETUP rtsp://cam/live RTSP/1.0\r\nCSeq: 1\r\n\r\n".toList
    let play := "PLAY rtsp://cam/live RTSP/1.0\r\nCSeq: 2\r\n\r\n".toList
    let teardown := "TEARDOWN rtsp://cam/live RTSP/1.0\r\nCSeq: 3\r\n\r\n".toList
    let frame : ClientEvent := .turn (some tablelessJpeg) [4, 1400]
    let bare := [.deliver play, .turn none [], .turn none [1000], frame]
    let whole := [.deliver setup, .turn none [], .turn none [1000], .deliver play, .turn none [],
      .turn none [1000], .deliver teardown, frame]
    (¬SessionOrder {} bare ∧ packetsOf (run {} {} bare).sent ≠ []) ∧
      ¬SessionOrder {} whole ∧ requests (arriving whole) = [setup, play, teardown] := by
  intro setup play teardown frame bare whole
  have hbare : (run {} {} bare).sent = [.response play (response {} play), .rtp [0x24, 0, 0, 28],
      .rtp (packet ⟨{ scan := [1, 2, 3, 4, 5, 6, 7, 8] }, 0, 0x54524653⟩ 0 false true 0
        [1, 2, 3, 4, 5, 6, 7, 8])] := by
    decide +kernel
  refine ⟨⟨?_, ?_⟩, ?_, by decide +kernel⟩
  · rintro ⟨hfirst, -⟩
    obtain ⟨request, text, hm, hsetup, -⟩ : SetUp [.response play (response {} play)] :=
      hfirst [.response play (response {} play)] (.rtp [0x24, 0, 0, 28]) _ hbare
    obtain ⟨rfl, -⟩ := ClientOutput.response.inj (List.mem_singleton.mp hm)
    exact absurd hsetup (by decide)
  · rw [hbare]
    exact List.cons_ne_nil _ _
  · rintro ⟨-, hsilent⟩
    have hlast := hsilent.2.2.2.2.2.2.2.1
    have hmore := congrArg List.length (hlast ⟨teardown, by decide +kernel, by decide⟩)
    exact absurd hmore (by decide +kernel)

end RtspClient

end TriFusion.Protocol
