import TriFusion.Protocol.ResponseHeaders
import TriFusion.Protocol.SessionOrder

namespace TriFusion.Protocol

open Foundation Media Library RtspServer

/-- The requests that are handled: none after a PLAY or a TEARDOWN, and none from the first
one on that is too long. -/
def handledOf : List Text → List Text
  | [] => []
  | request :: rest =>
    if kRtspMaxRequest < request.length then []
    else if getMethod request = "PLAY".toList ∨ getMethod request = "TEARDOWN".toList then [request]
    else request :: handledOf rest

def handled (bytes : Text) : List Text := handledOf (requests bytes)

def answerTo (config : RtspServerConfig) (request : Text) : Text × Text :=
  (request, response config request)

def responsesOf (sent : List ClientOutput) : List (Text × Text) :=
  sent.filterMap fun
    | .response request text => some (request, text)
    | .rtp _ => none

/-- The responses are the first ones of `all`, the last of them perhaps cut short. -/
def CutShort (responses all : List (Text × Text)) : Prop :=
  ∃ whole rest, all = whole ++ rest ∧ (responses = whole ∨
    ∃ request text cut others, rest = (request, text) :: others ∧ cut <+: text ∧
      responses = whole ++ [(request, cut)])

theorem CutShort.of_eq {responses rest all : List (Text × Text)} (h : responses ++ rest = all) :
    CutShort responses all := ⟨responses, rest, h.symm, .inl rfl⟩

section Handled

variable {config : RtspServerConfig} {inbox request rest : Text}

theorem handledOf_cons_fits (h : request.length ≤ kRtspMaxRequest) (others : List Text) :
    handledOf (request :: others) =
      if getMethod request = "PLAY".toList ∨ getMethod request = "TEARDOWN".toList then [request]
      else request :: handledOf others := by
  rw [handledOf, if_neg (Nat.not_lt_of_le h)]

theorem handled_of_complete (h : readRtspRequest inbox = .complete request rest) (more : Text) :
    handled (inbox ++ more) =
      if getMethod request = "PLAY".toList ∨ getMethod request = "TEARDOWN".toList then [request]
      else request :: handled (rest ++ more) := by
  obtain ⟨hl, hr⟩ := requests_of_complete h more
  rw [handled, hr, handledOf_cons_fits hl]
  rfl

theorem handled_of_refused (h : readRtspRequest inbox = .refused) (more : Text) :
    handled (inbox ++ more) = [] := by
  unfold handled
  cases hr : requests (inbox ++ more) with
  | nil => rfl
  | cons request others => rw [handledOf, if_pos (Delimited.limit_lt_of_refused h hr)]

theorem handled_of_waiting (h : readRtspRequest inbox = .waiting) : handled inbox = [] := by
  have hr : requests inbox = [] := Delimited.piecesFrom_of_waiting h
  rw [handled, hr]
  rfl

end Handled

section Sending

@[simp] theorem responsesOf_append (first second : List ClientOutput) :
    responsesOf (first ++ second) = responsesOf first ++ responsesOf second :=
  List.filterMap_append

theorem sendAll_rtp_responses (data : List UInt8) (w : ClientSocket) :
    responsesOf (ClientSocket.sendAll .rtp data w).2.sent = responsesOf w.sent := by
  rcases ClientSocket.sendAll_sent .rtp data w with he | ⟨handed, he⟩
  · rw [he]
  · rw [he, responsesOf_append]
    exact List.append_nil _

theorem sendAll_responses (request text : Text) (w : ClientSocket) :
    responsesOf (ClientSocket.sendAll (.response request) text w).2.sent = responsesOf w.sent ∨
      ∃ cut, cut <+: text ∧
        responsesOf (ClientSocket.sendAll (.response request) text w).2.sent =
          responsesOf w.sent ++ [(request, cut)] := by
  unfold ClientSocket.sendAll
  dsimp only
  split
  · exact .inl rfl
  · exact .inr ⟨_, List.take_prefix _ _, responsesOf_append _ _⟩

end Sending

namespace RtspClient

variable {config : RtspServerConfig} {s : RtspClient} {event : ClientEvent}

def Reads (s : RtspClient) : Prop := s.phase = .head ∨ s.phase = .receiving

theorem not_reads (h : s.phase = .streaming ∨ s.phase = .closed) : ¬s.Reads := by
  unfold Reads
  rcases h with h | h <;> simp [h]

theorem streamTurn_responses (s : RtspClient) (frame : Option EncodedFrame) (taken : List ℕ) :
    let s' := s.streamTurn frame taken
    responsesOf s'.sent = responsesOf s.sent ∧ ¬s'.Reads ∧ s'.delivered = s.delivered ∧
      s'.running = s.running ∧ s'.hungUp = s.hungUp := by
  unfold streamTurn
  split
  · refine ⟨?_, ?_, rfl, rfl, rfl⟩
    · exact streamLoop_keeps (I := fun w : ClientSocket ↦ responsesOf w.sent = responsesOf s.sent)
        (fun data w hw ↦ (sendAll_rtp_responses data w).trans hw) _ _ _ rfl
    · unfold Reads
      dsimp only
      split <;> simp
  · exact ⟨rfl, not_reads (.inr rfl), rfl, rfl, rfl⟩

theorem afterResponse_cases (method : Text) (sent : Bool) :
    afterResponse method sent = .head ∧ sent = true ∧
        ¬(method = "PLAY".toList ∨ method = "TEARDOWN".toList) ∨
      (afterResponse method sent = .streaming ∨ afterResponse method sent = .closed) ∧
        (sent = true → method = "PLAY".toList ∨ method = "TEARDOWN".toList) := by
  unfold afterResponse
  split_ifs with ht hs hp
  · exact .inr ⟨.inr rfl, fun _ ↦ .inr ht⟩
  · refine .inr ⟨.inr rfl, fun h ↦ ?_⟩
    simp [h] at hs
  · exact .inr ⟨.inl rfl, fun _ ↦ .inl hp⟩
  · refine .inl ⟨rfl, by simpa using hs, ?_⟩
    intro h
    rcases h with h | h
    · exact hp h
    · exact ht h

/-- In its request loop the connection has answered what it has read of the requests that are
handled; at any time the responses are the first answers, the last one perhaps cut short. -/
structure Framed (config : RtspServerConfig) (s : RtspClient) : Prop where
  reading : s.Reads → ∀ more,
    responsesOf s.sent ++ (handled (s.inbox ++ more)).map (answerTo config) =
      (handled (s.delivered ++ more)).map (answerTo config)
  cut : ∀ more,
    CutShort (responsesOf s.sent) ((handled (s.delivered ++ more)).map (answerTo config))

theorem Framed.of_reading (h : ∀ more,
    responsesOf s.sent ++ (handled (s.inbox ++ more)).map (answerTo config) =
      (handled (s.delivered ++ more)).map (answerTo config)) : Framed config s :=
  ⟨fun _ ↦ h, fun more ↦ .of_eq (h more)⟩

theorem start_framed (config : RtspServerConfig) : Framed config {} := .of_reading fun _ ↦ rfl

theorem Framed.closed (h : Framed config s) : Framed config { s with phase := .closed } :=
  ⟨fun hr ↦ absurd hr (not_reads (.inr rfl)), h.cut⟩

theorem readTurn_framed (h : Framed config s) (hp : s.phase = .receiving) (taken : List ℕ) :
    Framed config (s.readTurn config taken) := by
  cases hr : readRtspRequest s.inbox with
  | waiting =>
    simp only [readTurn, hr]
    split
    · exact h.closed
    · exact h
  | refused =>
    simp only [readTurn, hr]
    exact h.closed
  | complete request rest =>
    have hreading := h.reading (.inr hp)
    have hsent := sendAll_responses request (response config request)
      { taken := taken, sent := s.sent }
    have hwhole := @ClientSocket.sendAll_succeeded _ (.response request) (response config request)
      { taken := taken, sent := s.sent } (response_ne_nil config request)
    rw [readTurn_complete hr]
    dsimp only at hsent hwhole ⊢
    generalize ClientSocket.sendAll (.response request) (response config request)
      { taken := taken, sent := s.sent } = result at hsent hwhole ⊢
    rcases afterResponse_cases (getMethod request) result.1 with ⟨-, hok, hgoes⟩ | ⟨hphase, -⟩
    · refine .of_reading fun more ↦ ?_
      dsimp only
      rw [← hreading more, handled_of_complete hr more, if_neg hgoes, hwhole hok,
        responsesOf_append, List.map_cons, List.append_assoc]
      rfl
    · refine ⟨fun hq ↦ absurd hq (not_reads hphase), fun more ↦ ?_⟩
      obtain ⟨others, hcons⟩ : ∃ others, handled (s.inbox ++ more) = request :: others := by
        rw [handled_of_complete hr more]
        split
        · exact ⟨_, rfl⟩
        · exact ⟨_, rfl⟩
      have hall := hreading more
      rw [hcons, List.map_cons] at hall
      dsimp only
      rcases hsent with he | ⟨cut, hcut, he⟩
      · rw [he]
        exact .of_eq hall
      · exact ⟨_, _, hall.symm, .inr ⟨request, _, cut, _, rfl, hcut, he⟩⟩

theorem step_framed (h : Framed config s) (event : ClientEvent) :
    Framed config (s.step config event) := by
  cases event with
  | deliver bytes =>
    refine ⟨fun hp more ↦ ?_, fun more ↦ ?_⟩
    · simp only [step, List.append_assoc]
      exact h.reading hp (bytes ++ more)
    · simp only [step, List.append_assoc]
      exact h.cut (bytes ++ more)
  | hangUp => exact ⟨h.reading, h.cut⟩
  | stop => exact ⟨h.reading, h.cut⟩
  | turn frame taken =>
    cases hp : s.phase with
    | head =>
      simp only [step, hp]
      split
      · exact .of_reading (h.reading (.inl hp))
      · exact h.closed
    | receiving =>
      simp only [step, hp]
      exact readTurn_framed h hp taken
    | streaming =>
      simp only [step, hp]
      obtain ⟨hsame, hleft, hd, -⟩ := streamTurn_responses s frame taken
      refine ⟨fun hq ↦ absurd hq hleft, fun more ↦ ?_⟩
      rw [hsame, hd]
      exact h.cut more
    | closed =>
      simp only [step, hp]
      exact h

/-- The server goes on, nothing arrives after the client has hung up, and the socket takes
every answer whole. -/
def Smooth (config : RtspServerConfig) (s : RtspClient) : ClientEvent → Prop
  | .deliver bytes => s.hungUp = true → bytes = []
  | .hangUp => True
  | .stop => False
  | .turn _ taken => ∀ request rest, s.phase = .receiving →
      readRtspRequest s.inbox = .complete request rest →
        (response config request).length ≤ taken.headD 0

def due (s : RtspClient) (more : Text) : List Text :=
  match s.phase with
  | .head | .receiving => handled (s.inbox ++ more)
  | .streaming | .closed => []

/-- What has been answered and what is due are the requests that are handled. -/
structure Caught (config : RtspServerConfig) (s : RtspClient) : Prop where
  running : s.running = true
  all : ∀ more, (s.hungUp = true → more = []) →
    responsesOf s.sent ++ (s.due more).map (answerTo config) =
      (handled (s.delivered ++ more)).map (answerTo config)

theorem due_of_not_reads (h : ¬s.Reads) (more : Text) : s.due more = [] := by
  unfold Reads at h
  unfold due
  cases hp : s.phase with
  | head => exact absurd (.inl hp) h
  | receiving => exact absurd (.inr hp) h
  | streaming => rfl
  | closed => rfl

theorem start_caught (config : RtspServerConfig) : Caught config {} := ⟨rfl, fun _ _ ↦ rfl⟩

theorem Caught.closed (h : Caught config s)
    (hdue : ∀ more, (s.hungUp = true → more = []) → s.due more = []) :
    Caught config { s with phase := .closed } := by
  refine ⟨h.running, fun more hm ↦ ?_⟩
  rw [← h.all more hm, hdue more hm]
  rfl

theorem readTurn_caught (h : Caught config s) (hp : s.phase = .receiving) {taken : List ℕ}
    (hsmooth : ∀ request rest, readRtspRequest s.inbox = .complete request rest →
      (response config request).length ≤ taken.headD 0) :
    Caught config (s.readTurn config taken) := by
  have hdue : ∀ more, s.due more = handled (s.inbox ++ more) := by
    intro more
    unfold due
    rw [hp]
  cases hr : readRtspRequest s.inbox with
  | waiting =>
    simp only [readTurn, hr]
    split
    · rename_i hup
      refine h.closed fun more hm ↦ ?_
      rw [hdue, hm hup, List.append_nil]
      exact handled_of_waiting hr
    · exact h
  | refused =>
    simp only [readTurn, hr]
    refine h.closed fun more _ ↦ ?_
    rw [hdue]
    exact handled_of_refused hr more
  | complete request rest =>
    rw [readTurn_answered hr (hsmooth request rest hr)]
    refine ⟨h.running, fun more hm ↦ ?_⟩
    have hall := h.all more hm
    rw [hdue, handled_of_complete hr more] at hall
    dsimp only
    rw [← hall, responsesOf_append, List.append_assoc]
    rcases afterResponse_cases (getMethod request) true with ⟨hphase, -, hgoes⟩ | ⟨hphase, hends⟩
    · rw [if_neg hgoes, List.map_cons]
      simp only [due, hphase]
      rfl
    · rw [if_pos (hends rfl), due_of_not_reads (not_reads hphase)]
      rfl

theorem step_caught (h : Caught config s) (hsmooth : Smooth config s event) :
    Caught config (s.step config event) := by
  cases event with
  | deliver bytes =>
    refine ⟨h.running, fun more hm ↦ ?_⟩
    have hall := h.all (bytes ++ more) fun hup ↦ by rw [hsmooth hup, hm hup, List.append_nil]
    simp only [step, due, List.append_assoc] at hall ⊢
    exact hall
  | hangUp => exact ⟨h.running, fun more hm ↦ h.all more fun _ ↦ hm rfl⟩
  | stop => exact absurd hsmooth id
  | turn frame taken =>
    cases hp : s.phase with
    | head =>
      simp only [step, hp, h.running, if_true]
      refine ⟨rfl, fun more hm ↦ ?_⟩
      have hall := h.all more hm
      simp only [due, hp] at hall ⊢
      exact hall
    | receiving =>
      simp only [step, hp]
      exact readTurn_caught h hp fun request rest ↦ hsmooth request rest hp
    | streaming =>
      simp only [step, hp]
      obtain ⟨hsame, hleft, hd, hrunning, hup⟩ := streamTurn_responses s frame taken
      refine ⟨hrunning.trans h.running, fun more hm ↦ ?_⟩
      rw [hup] at hm
      rw [hsame, hd, ← h.all more hm, due_of_not_reads hleft,
        due_of_not_reads (not_reads (.inl hp))]
    | closed =>
      simp only [step, hp]
      exact h

/-- The turns it takes at most until all that has arrived is answered. -/
def pending (s : RtspClient) : ℕ :=
  match s.phase with
  | .head => 2 * (handled s.inbox).length
  | .receiving => 2 * (handled s.inbox).length - 1
  | .streaming | .closed => 0

theorem pending_of_not_reads (h : ¬s.Reads) : s.pending = 0 := by
  unfold Reads at h
  unfold pending
  cases hp : s.phase with
  | head => exact absurd (.inl hp) h
  | receiving => exact absurd (.inr hp) h
  | streaming => rfl
  | closed => rfl

theorem pending_le (s : RtspClient) : s.pending ≤ 2 * (s.due []).length := by
  unfold pending due
  rw [List.append_nil]
  cases s.phase with
  | head => exact le_rfl
  | receiving => exact Nat.sub_le _ _
  | streaming => exact Nat.zero_le _
  | closed => exact Nat.zero_le _

theorem due_of_pending (h : s.pending = 0) : s.due [] = [] := by
  unfold pending at h
  unfold due
  rw [List.append_nil]
  cases hp : s.phase with
  | head =>
    rw [hp] at h
    exact List.eq_nil_of_length_eq_zero (by simpa using h)
  | receiving =>
    rw [hp] at h
    have hlen : (handled s.inbox).length = 0 := by
      dsimp only at h
      omega
    exact List.eq_nil_of_length_eq_zero hlen
  | streaming => rfl
  | closed => rfl

theorem readTurn_pending (hp : s.phase = .receiving) {taken : List ℕ}
    (hsmooth : ∀ request rest, readRtspRequest s.inbox = .complete request rest →
      (response config request).length ≤ taken.headD 0) :
    (s.readTurn config taken).pending ≤ s.pending - 1 := by
  have hs : s.pending = 2 * (handled s.inbox).length - 1 := by
    unfold pending
    rw [hp]
  cases hr : readRtspRequest s.inbox with
  | waiting =>
    have hnone := handled_of_waiting hr
    simp only [readTurn, hr]
    split
    · exact Nat.zero_le _
    · rw [hs, hnone]
      exact le_rfl
  | refused =>
    simp only [readTurn, hr]
    exact Nat.zero_le _
  | complete request rest =>
    have hcons := handled_of_complete hr []
    rw [List.append_nil, List.append_nil] at hcons
    rw [readTurn_answered hr (hsmooth request rest hr)]
    rcases afterResponse_cases (getMethod request) true with ⟨hphase, -, hgoes⟩ | ⟨hphase, -⟩
    · rw [if_neg hgoes] at hcons
      rw [hs, hcons, List.length_cons]
      simp only [pending, hphase]
      omega
    · rw [pending_of_not_reads (not_reads hphase)]
      exact Nat.zero_le _

theorem turn_pending (h : Caught config s) {frame : Option EncodedFrame} {taken : List ℕ}
    (hsmooth : Smooth config s (.turn frame taken)) :
    (s.step config (.turn frame taken)).pending ≤ s.pending - 1 := by
  cases hp : s.phase with
  | head =>
    simp only [step, hp, h.running, if_true, pending]
    exact le_rfl
  | receiving =>
    simp only [step, hp]
    exact readTurn_pending hp fun request rest ↦ hsmooth request rest hp
  | streaming =>
    simp only [step, hp]
    obtain ⟨-, hleft, -⟩ := streamTurn_responses s frame taken
    rw [pending_of_not_reads hleft]
    exact Nat.zero_le _
  | closed =>
    simp only [step, hp]
    rw [pending_of_not_reads (not_reads (.inr hp))]

theorem turns_pending {turns : List ClientEvent}
    (hturns : ∀ event ∈ turns, ∃ frame taken, event = .turn frame taken) (h : Caught config s)
    (hsmooth : Runs.Along (step config) (Smooth config) s turns) :
    (s.run config turns).pending ≤ s.pending - turns.length := by
  induction turns generalizing s with
  | nil => exact le_rfl
  | cons event turns ih =>
    obtain ⟨hfirst, hrest⟩ := hsmooth
    obtain ⟨frame, taken, rfl⟩ := hturns event List.mem_cons_self
    have hone := turn_pending h hfirst
    have hmany := ih (fun event hm ↦ hturns event (List.mem_cons_of_mem _ hm))
      (step_caught h hfirst) hrest
    calc (s.run config (.turn frame taken :: turns)).pending
        ≤ (s.step config (.turn frame taken)).pending - turns.length := hmany
      _ ≤ s.pending - 1 - turns.length := Nat.sub_le_sub_right hone _
      _ = s.pending - (.turn frame taken :: turns : List ClientEvent).length := by
        rw [List.length_cons]
        omega

theorem run_framed (config : RtspServerConfig) (events : List ClientEvent) :
    Framed config (run config {} events) :=
  Runs.exec_invariant (I := Framed config) (fun _ event h ↦ step_framed h event)
    (start_framed config) events

theorem run_caught {events : List ClientEvent}
    (h : Runs.Along (step config) (Smooth config) {} events) :
    Caught config (run config {} events) :=
  h.invariant (I := Caught config) (fun _ _ hc hsmooth ↦ step_caught hc hsmooth)
    (start_caught config)

theorem run_responses_cutShort (config : RtspServerConfig) (events : List ClientEvent) :
    CutShort (responsesOf (run config {} events).sent)
      ((handled (arriving events)).map (answerTo config)) := by
  have hcut := (run_framed config events).cut []
  rwa [run_delivered, List.append_nil, List.nil_append] at hcut

theorem run_responses_of_turns {events turns : List ClientEvent}
    (hturns : ∀ event ∈ turns, ∃ frame taken, event = .turn frame taken)
    (hn : 2 * (handled (arriving events)).length ≤ turns.length)
    (hsmooth : Runs.Along (step config) (Smooth config) {} (events ++ turns)) :
    responsesOf (run config {} (events ++ turns)).sent =
      (handled (arriving events)).map (answerTo config) := by
  obtain ⟨hfirst, hrest⟩ := (Runs.along_append _ events turns).mp hsmooth
  have hmid := run_caught hfirst
  have hend := run_caught hsmooth
  have hd : (run config {} events).delivered = arriving events := run_delivered {} events
  have hquiet : arriving turns = [] := by
    refine List.flatMap_eq_nil_iff.mpr fun event hm ↦ ?_
    obtain ⟨frame, taken, rfl⟩ := hturns event hm
    rfl
  have hd' : (run config {} (events ++ turns)).delivered = arriving events := by
    rw [run_delivered, arriving_append, hquiet, List.append_nil]
    rfl
  have hmidAll := congrArg List.length (hmid.all [] fun _ ↦ rfl)
  rw [hd, List.append_nil, List.length_append, List.length_map, List.length_map] at hmidAll
  have hpending : (run config {} (events ++ turns)).pending = 0 := by
    have hle := turns_pending hturns hmid hrest
    have hstart := pending_le (run config {} events)
    rw [run_append]
    omega
  have hall := hend.all [] fun _ ↦ rfl
  rw [due_of_pending hpending, hd', List.append_nil, List.map_nil, List.append_nil] at hall
  exact hall

/-- The requests are the pieces of the stream up to each empty line. In every run of a connection
the responses are those to the requests that are handled, in order and only the last one perhaps
cut short; all of them are answered, unless the server is stopped or a send fails; and the header
block of each response is the builder's lines with the sequence number of the request. -/
theorem requests_framed (config : RtspServerConfig) (hpath : '\n' ∉ config.path) :
    (∀ bytes, ∃ rest, bytes = (requests bytes).flatten ++ rest ∧
      (∀ request ∈ requests bytes, Delimited.FirstEnd endsRequest request) ∧
        ∀ before, before <+: rest → endsRequest before = false) ∧
    (∀ events, CutShort (responsesOf (run config {} events).sent)
      ((handled (arriving events)).map (answerTo config))) ∧
    (∀ events turns, (∀ event ∈ turns, ∃ frame taken, event = .turn frame taken) →
      2 * (handled (arriving events)).length ≤ turns.length →
        Runs.Along (step config) (Smooth config) {} (events ++ turns) →
          responsesOf (run config {} (events ++ turns)).sent =
            (handled (arriving events)).map (answerTo config)) ∧
    ∀ request, ∃ cseq, CSeqOf request cseq ∧
      headerBlock (response config request) = headerLines config request cseq := by
  refine ⟨Delimited.pieces_split (by decide), run_responses_cutShort config,
    fun _ _ ↦ run_responses_of_turns, fun request ↦ ?_⟩
  exact ⟨getCSeq request, getCSeq_spec request, headerBlock_response hpath request⟩

theorem requests_framed_default :
    (∀ events, CutShort (responsesOf (run {} {} events).sent)
      ((handled (arriving events)).map (answerTo {}))) ∧
    ∃ cseq, CSeqOf "OPTIONS * RTSP/1.0\r\nCSeq: 7\rX: 8\r\n\r\n".toList cseq ∧
      headerBlock (response {} "OPTIONS * RTSP/1.0\r\nCSeq: 7\rX: 8\r\n\r\n".toList) =
        headerLines {} "OPTIONS * RTSP/1.0\r\nCSeq: 7\rX: 8\r\n\r\n".toList cseq := by
  obtain ⟨-, hcut, -, hheader⟩ := requests_framed {} (by decide)
  exact ⟨hcut, hheader _⟩

end RtspClient

end TriFusion.Protocol
