import TriFusion.Protocol.RtspSession
import Mathlib.Data.List.Count
import Mathlib.Data.List.Nodup
import Mathlib.Data.List.Range

namespace TriFusion.Protocol

open Foundation Media Library RtspServer

structure ListenIo where
  socket : Option Text
  inetPton : Text → Bool
  bind : Option Text
  listen : Option Text

/-- The thread object of the accept loop, and where its thread stands: before it reads `running_`,
in `accept`, or with a socket that it still has to give a thread. -/
inductive AcceptPhase
  | absent
  | head
  | accepting
  | accepted (fd : ℕ)
  | exited
  deriving DecidableEq

inductive RtspCaller
  | idle
  | closing
  | joiningAccept
  | joiningClients
  deriving DecidableEq

/-- The turn of its loop that the thread is in calls `::send`. -/
def RtspClient.sends (s : RtspClient) (frame : Option EncodedFrame) : Bool :=
  match s.phase with
  | .receiving =>
    match readRtspRequest s.inbox with
    | .complete _ _ => true
    | .waiting | .refused => false
  | .streaming =>
    s.running && (streamLoop (fun _ _ ↦ (false, true)) 0x54524653 [frame] s.rtpSeq false).2.2
  | .head | .closed => false

/-- The thread ends the turn in which it sends; while it streams it has found `running_` set. -/
def RtspClient.resume (config : RtspServerConfig) (s : RtspClient) (frame : Option EncodedFrame)
    (taken : List ℕ) : RtspClient :=
  match s.phase with
  | .receiving => s.readTurn config taken
  | .streaming => { s with running := true }.streamTurn frame taken
  | .head | .closed => s

/-- The socket of a client and the thread that serves it. `takes` says whether a `::send` on the
socket comes back: it does while the peer reads, and when it is gone; `sending` is the frame of
the turn in which the thread stands in `::send`. -/
structure Connection where
  fd : ℕ
  client : RtspClient
  takes : Bool := true
  sending : Option (Option EncodedFrame) := none

def Connection.sees (c : Connection) (running : Bool) : Connection :=
  { c with client := { c.client with running := running } }

/-- A turn of the thread ends, or stays in the first `::send` that does not come back. -/
def Connection.turn (config : RtspServerConfig) (c : Connection) (frame : Option EncodedFrame)
    (taken : List ℕ) : Connection :=
  match c.sending with
  | some begun =>
    if c.takes then { c with client := c.client.resume config begun taken, sending := none } else c
  | none =>
    if !c.takes && c.client.sends frame then { c with sending := some frame }
    else { c with client := RtspClient.step config c.client (.turn frame taken) }

def Connection.step (config : RtspServerConfig) (c : Connection) : ClientEvent → Connection
  | .turn frame taken => c.turn config frame taken
  | event => { c with client := RtspClient.step config c.client event }

/-- A server with its threads. Sockets are numbered in the order in which they are opened, and
`closed` has those that were closed. -/
structure RtspRun where
  config : RtspServerConfig := {}
  streamService : Bool := false
  running : Bool := false
  listenFd : Option ℕ := none
  acceptThread : AcceptPhase := .absent
  clients : List Connection := []
  caller : RtspCaller := .idle
  sockets : ℕ := 0
  closed : List ℕ := []
  crashed : Bool := false

/-- A call of the owner, the next step of its call of `stop`, of the accept loop, an event of a
connection, or its peer reads on, or no longer. -/
inductive RtspMove
  | init (config : RtspServerConfig) (streamService : Bool)
  | start (io : ListenIo)
  | stop
  | caller
  | accept (accepted : Bool)
  | client (i : ℕ) (event : ClientEvent)
  | peer (i : ℕ) (takes : Bool)

namespace RtspRun

def init (config : RtspServerConfig) (streamService : Bool) (s : RtspRun) : Result Unit × RtspRun :=
  if !streamService then (.fail .invalidArgument "RTSP server stream service is null", s)
  else (.ok (), { s with config := config, streamService := true })

def giveUp (code : ErrorCode) (message : Text) (s : RtspRun) : Result Unit × RtspRun :=
  (.error ⟨code, message⟩,
    { s with listenFd := none, sockets := s.sockets + 1, closed := s.closed ++ [s.sockets] })

/-- A thread assigned to an object that still has one ends the process. -/
def start (io : ListenIo) (s : RtspRun) : Result Unit × RtspRun :=
  if !s.streamService then (.fail .notInitialized "RTSP server is not initialized", s)
  else if s.running then (.ok (), s)
  else
    match io.socket with
    | some error =>
      (.error ⟨.ioError, "socket failed: ".toList ++ error⟩, { s with listenFd := none })
    | none =>
      if !(s.config.host = [] ∨ s.config.host = "0.0.0.0" ∨ io.inetPton s.config.host) then
        s.giveUp .invalidArgument ("invalid RTSP bind host: ".toList ++ s.config.host)
      else
        match io.bind, io.listen with
        | some error, _ => s.giveUp .ioError ("bind failed: ".toList ++ error)
        | none, some error => s.giveUp .ioError ("listen failed: ".toList ++ error)
        | none, none =>
          (.ok (),
            { s with
              listenFd := some s.sockets
              sockets := s.sockets + 1
              running := true
              acceptThread := .head
              crashed := s.crashed || decide (s.acceptThread ≠ .absent) })

/-- `stop` up to `running_ = false`. -/
def stop (s : RtspRun) : RtspRun :=
  if s.running = false ∧ s.listenFd = none then s
  else { s with running := false, caller := .closing }

def clientsLeft (s : RtspRun) : Bool := s.clients.all fun c ↦ c.client.phase == .closed

/-- The caller goes on in `stop`; it waits for the threads that it joins. -/
def stopStep (s : RtspRun) : RtspRun :=
  match s.caller with
  | .idle => s
  | .closing =>
    { s with
      listenFd := none
      closed := s.closed ++ s.listenFd.toList
      caller := .joiningAccept }
  | .joiningAccept =>
    match s.acceptThread with
    | .absent | .exited => { s with acceptThread := .absent, caller := .joiningClients }
    | .head | .accepting | .accepted _ => s
  | .joiningClients => if s.clientsLeft then { s with clients := [], caller := .idle } else s

def acceptStep (accepted : Bool) (s : RtspRun) : RtspRun :=
  match s.acceptThread with
  | .absent | .exited => s
  | .head => { s with acceptThread := if s.running then .accepting else .exited }
  | .accepting =>
    if accepted ∧ s.listenFd.isSome then
      { s with acceptThread := .accepted s.sockets, sockets := s.sockets + 1 }
    else { s with acceptThread := .head }
  | .accepted fd =>
    { s with acceptThread := .head, clients := s.clients ++ [{ fd := fd, client := {} }] }

/-- An event of a connection, whose thread reads the `running_` of the server and closes the
socket when it leaves. -/
def clientStep (i : ℕ) (event : ClientEvent) (s : RtspRun) : RtspRun :=
  match s.clients[i]? with
  | none => s
  | some c =>
    let c' := (c.sees s.running).step s.config event
    { s with
      clients := s.clients.set i c'
      closed :=
        if c'.client.phase = .closed ∧ c.client.phase ≠ .closed then s.closed ++ [c.fd]
        else s.closed }

def peerStep (i : ℕ) (takes : Bool) (s : RtspRun) : RtspRun :=
  match s.clients[i]? with
  | none => s
  | some c => { s with clients := s.clients.set i { c with takes := takes } }

/-- The owner makes one call at a time. -/
def step (s : RtspRun) : RtspMove → RtspRun
  | .init config streamService => if s.caller ≠ .idle then s else (s.init config streamService).2
  | .start io => if s.caller ≠ .idle then s else (s.start io).2
  | .stop => if s.caller ≠ .idle then s else s.stop
  | .caller => s.stopStep
  | .accept accepted => s.acceptStep accepted
  | .client i event => s.clientStep i event
  | .peer i takes => s.peerStep i takes

def run (moves : List RtspMove) : RtspRun := Runs.exec step {} moves

def openFds (clients : List Connection) : List ℕ :=
  (clients.filter fun c ↦ c.client.phase ≠ .closed).map Connection.fd

def acceptedFds : AcceptPhase → List ℕ
  | .accepted fd => [fd]
  | _ => []

def held (s : RtspRun) : List ℕ :=
  s.listenFd.toList ++ acceptedFds s.acceptThread ++ openFds s.clients

structure Tidy (s : RtspRun) : Prop where
  sockets : ∀ fd, s.closed.count fd + s.held.count fd = if fd < s.sockets then 1 else 0
  crashed : s.crashed = false
  stopping : s.caller ≠ .idle → s.running = false
  closing : s.caller = .joiningAccept ∨ s.caller = .joiningClients → s.listenFd = none
  joined : s.caller = .joiningClients → s.acceptThread = .absent
  stopped : s.caller = .idle → s.running = false →
    s.listenFd = none ∧ s.acceptThread = .absent ∧ s.clients = []
  serving : s.running = true →
    s.listenFd.isSome ∧ s.acceptThread ≠ .absent ∧ s.acceptThread ≠ .exited

theorem start_tidy : Tidy {} := by
  constructor <;> simp [held, acceptedFds, openFds]

variable {s : RtspRun}

theorem Tidy.giveUp (h : s.Tidy) (hc : s.caller = .idle) (hr : s.running = false)
    (code : ErrorCode) (message : Text) : (s.giveUp code message).2.Tidy := by
  obtain ⟨hl, ha, hcl⟩ := h.stopped hc hr
  constructor
  case sockets =>
    intro fd
    have hs := h.sockets fd
    simp only [held, acceptedFds, openFds, hl, ha, hcl, Option.toList_none, List.filter_nil,
      List.map_nil, List.append_nil, List.count_nil, RtspRun.giveUp, List.count_append,
      List.count_singleton, beq_iff_eq] at hs ⊢
    split at hs <;> split <;> split <;> omega
  case crashed => exact h.crashed
  case stopping => exact fun hn ↦ absurd hc hn
  case closing => exact fun _ ↦ rfl
  case joined => exact h.joined
  case stopped => exact fun _ _ ↦ ⟨rfl, ha, hcl⟩
  case serving => exact fun ht ↦ absurd (ht.symm.trans hr) (by decide)

theorem Tidy.start (h : s.Tidy) (hc : s.caller = .idle) (io : ListenIo) :
    (s.start io).2.Tidy := by
  unfold RtspRun.start
  split
  · exact h
  · split
    · exact h
    · rename_i hr
      have hrun : s.running = false := by simpa using hr
      obtain ⟨hl, ha, hcl⟩ := h.stopped hc hrun
      cases io.socket with
      | some error =>
        constructor
        case sockets =>
          intro fd
          have hs := h.sockets fd
          rw [held, hl] at hs
          exact hs
        case crashed => exact h.crashed
        case stopping => exact h.stopping
        case closing => exact fun _ ↦ rfl
        case joined => exact h.joined
        case stopped => exact fun _ _ ↦ ⟨rfl, ha, hcl⟩
        case serving => exact fun ht ↦ absurd (ht.symm.trans hrun) (by decide)
      | none =>
        dsimp only
        split
        · exact h.giveUp hc hrun _ _
        · split
          · exact h.giveUp hc hrun _ _
          · exact h.giveUp hc hrun _ _
          · constructor
            case sockets =>
              intro fd
              have hs := h.sockets fd
              simp only [held, acceptedFds, openFds, hl, ha, hcl, Option.toList_none,
                Option.toList_some, List.filter_nil, List.map_nil, List.append_nil,
                List.count_nil, List.count_singleton, beq_iff_eq] at hs ⊢
              split at hs <;> split <;> split <;> omega
            case crashed => simp [h.crashed, ha]
            case stopping => exact fun hn ↦ absurd hc hn
            case closing =>
              intro hcaller
              rw [hc] at hcaller
              rcases hcaller with hcaller | hcaller <;> cases hcaller
            case joined => exact fun hcaller ↦ absurd (hc.symm.trans hcaller) (by decide)
            case stopped => exact fun _ hf ↦ nomatch hf
            case serving => exact fun _ ↦ ⟨rfl, nofun, nofun⟩

theorem Tidy.stop (h : s.Tidy) : s.stop.Tidy := by
  unfold RtspRun.stop
  split
  · exact h
  · constructor
    case sockets => exact h.sockets
    case crashed => exact h.crashed
    case stopping => exact fun _ ↦ rfl
    case closing => rintro (hcaller | hcaller) <;> cases hcaller
    case joined => exact fun hcaller ↦ nomatch hcaller
    case stopped => exact fun hcaller ↦ nomatch hcaller
    case serving => exact fun ht ↦ nomatch ht

theorem openFds_of_left (h : s.clientsLeft = true) : openFds s.clients = [] := by
  rw [openFds, List.map_eq_nil_iff, List.filter_eq_nil_iff]
  intro c hc
  have hclosed := List.all_eq_true.mp h c hc
  simpa using hclosed

theorem Tidy.stopStep (h : s.Tidy) : s.stopStep.Tidy := by
  unfold RtspRun.stopStep
  cases hc : s.caller with
  | idle => exact h
  | closing =>
    have hr := h.stopping (by rw [hc]; decide)
    constructor
    case sockets =>
      intro fd
      have hs := h.sockets fd
      simp only [held, List.count_append, Option.toList_none, List.count_nil] at hs ⊢
      omega
    case crashed => exact h.crashed
    case stopping => exact fun _ ↦ hr
    case closing => exact fun _ ↦ rfl
    case joined => exact fun hcaller ↦ nomatch hcaller
    case stopped => exact fun hcaller ↦ nomatch hcaller
    case serving => exact fun ht ↦ absurd (ht.symm.trans hr) (by decide)
  | joiningAccept =>
    have hr := h.stopping (by rw [hc]; decide)
    have hl := h.closing (.inl hc)
    have hjoin (hnone : acceptedFds s.acceptThread = []) :
        Tidy { s with acceptThread := .absent, caller := .joiningClients } := by
      constructor
      case sockets =>
        intro fd
        have hs := h.sockets fd
        rw [held, hnone] at hs
        exact hs
      case crashed => exact h.crashed
      case stopping => exact fun _ ↦ hr
      case closing => exact fun _ ↦ hl
      case joined => exact fun _ ↦ rfl
      case stopped => exact fun hcaller ↦ nomatch hcaller
      case serving => exact fun ht ↦ absurd (ht.symm.trans hr) (by decide)
    cases ha : s.acceptThread with
    | absent => exact hjoin (congrArg acceptedFds ha)
    | exited => exact hjoin (congrArg acceptedFds ha)
    | head => exact h
    | accepting => exact h
    | accepted fd => exact h
  | joiningClients =>
    have hr := h.stopping (by rw [hc]; decide)
    have hl := h.closing (.inr hc)
    have ha := h.joined hc
    dsimp only
    split
    · rename_i hleft
      have hopen := openFds_of_left hleft
      constructor
      case sockets =>
        intro fd
        have hs := h.sockets fd
        simp only [held, hopen] at hs
        exact hs
      case crashed => exact h.crashed
      case stopping => exact fun _ ↦ hr
      case closing => exact fun _ ↦ hl
      case joined => exact fun hcaller ↦ nomatch hcaller
      case stopped => exact fun _ _ ↦ ⟨hl, ha, rfl⟩
      case serving => exact fun ht ↦ absurd (ht.symm.trans hr) (by decide)
    · exact h

theorem Tidy.up (h : s.Tidy) (ha : s.acceptThread ≠ .absent) (hc : s.caller = .idle) :
    s.running = true := by
  cases hr : s.running with
  | true => rfl
  | false => exact absurd (h.stopped hc hr).2.1 ha

theorem Tidy.accepts (h : s.Tidy) (ha : s.acceptThread ≠ .absent) {phase : AcceptPhase}
    {clients : List Connection} {sockets : ℕ}
    (hphase : s.running = true → phase ≠ .absent ∧ phase ≠ .exited)
    (hheld : ∀ fd, s.closed.count fd + (s.listenFd.toList ++ acceptedFds phase ++
      openFds clients).count fd = if fd < sockets then 1 else 0) :
    Tidy { s with acceptThread := phase, clients := clients, sockets := sockets } := by
  constructor
  case sockets => exact hheld
  case crashed => exact h.crashed
  case stopping => exact h.stopping
  case closing => exact h.closing
  case joined => exact fun hc ↦ absurd (h.joined hc) ha
  case stopped => exact fun hc hr ↦ absurd ((h.up ha hc).symm.trans hr) (by decide)
  case serving => exact fun hr ↦ ⟨(h.serving hr).1, hphase hr⟩

theorem Tidy.acceptStep (h : s.Tidy) (accepted : Bool) : (s.acceptStep accepted).Tidy := by
  unfold RtspRun.acceptStep
  cases ha : s.acceptThread with
  | absent => exact h
  | exited => exact h
  | head =>
    refine h.accepts (by rw [ha]; decide) ?_ ?_
    · intro hr
      rw [if_pos hr]
      exact ⟨by decide, by decide⟩
    · intro fd
      have hs := h.sockets fd
      rw [held, ha] at hs
      split <;> exact hs
  | accepting =>
    dsimp only
    split
    · refine h.accepts (by rw [ha]; decide) (fun _ ↦ ⟨nofun, nofun⟩) ?_
      intro fd
      have hs := h.sockets fd
      simp only [held, ha, acceptedFds, List.count_append, List.count_nil, List.count_singleton,
        beq_iff_eq] at hs ⊢
      split at hs <;> split <;> split <;> omega
    · refine h.accepts (by rw [ha]; decide) (fun _ ↦ ⟨nofun, nofun⟩) ?_
      intro fd
      have hs := h.sockets fd
      rw [held, ha] at hs
      exact hs
  | accepted fd₀ =>
    refine h.accepts (by rw [ha]; nofun) (fun _ ↦ ⟨nofun, nofun⟩) ?_
    intro fd
    have hs := h.sockets fd
    have hnew :
        openFds (s.clients ++ [{ fd := fd₀, client := {} }]) = openFds s.clients ++ [fd₀] := by
      rw [openFds, List.filter_append, List.map_append]
      rfl
    simp only [held, ha, acceptedFds, hnew, List.count_append, List.count_nil] at hs ⊢
    omega

theorem count_openFds_set {clients : List Connection} {i : ℕ} {c : Connection}
    (h : clients[i]? = some c) (c' : Connection) (fd : ℕ) :
    (openFds (clients.set i c')).count fd +
        (if c.client.phase ≠ .closed ∧ c.fd = fd then 1 else 0) =
      (openFds clients).count fd + (if c'.client.phase ≠ .closed ∧ c'.fd = fd then 1 else 0) := by
  have hcons (d : Connection) (rest : List Connection) : (openFds (d :: rest)).count fd =
      (if d.client.phase ≠ .closed ∧ d.fd = fd then 1 else 0) + (openFds rest).count fd := by
    unfold openFds
    by_cases hd : d.client.phase = .closed
    · rw [List.filter_cons_of_neg (by simp [hd])]
      simp [hd]
    · rw [List.filter_cons_of_pos (by simp [hd]), List.map_cons, List.count_cons]
      simp [hd, Nat.add_comm]
  induction clients generalizing i with
  | nil => cases h
  | cons d rest ih =>
    cases i with
    | zero =>
      obtain rfl : d = c := Option.some_inj.mp h
      rw [List.set_cons_zero, hcons, hcons]
      omega
    | succ i =>
      have hrest := ih (i := i) h
      rw [List.set_cons_succ, hcons, hcons]
      omega

theorem step_closed (config : RtspServerConfig) {client : RtspClient} (h : client.phase = .closed)
    (event : ClientEvent) : (RtspClient.step config client event).phase = .closed := by
  cases event with
  | deliver bytes => exact h
  | hangUp => exact h
  | stop => exact h
  | turn frame taken =>
    rw [RtspClient.step, h]
    exact h

theorem connection_step_fd (config : RtspServerConfig) (c : Connection) (event : ClientEvent) :
    (c.step config event).fd = c.fd := by
  cases event with
  | turn frame taken =>
    rw [Connection.step, Connection.turn]
    split
    · split <;> rfl
    · split <;> rfl
  | _ => rfl

theorem connection_step_closed (config : RtspServerConfig) {c : Connection}
    (h : c.client.phase = .closed) (event : ClientEvent) :
    (c.step config event).client.phase = .closed := by
  cases event with
  | deliver bytes => exact h
  | hangUp => exact h
  | stop => exact h
  | turn frame taken =>
    rw [Connection.step, Connection.turn]
    split
    · split
      · rw [RtspClient.resume, h]
        exact h
      · exact h
    · split
      · exact h
      · exact step_closed config h _

theorem Tidy.peerStep (h : s.Tidy) (i : ℕ) (takes : Bool) : (s.peerStep i takes).Tidy := by
  unfold RtspRun.peerStep
  cases hc : s.clients[i]? with
  | none => exact h
  | some c =>
    have hne : s.clients ≠ [] := by
      intro hnil
      rw [hnil] at hc
      cases hc
    constructor
    case sockets =>
      intro fd
      have hs := h.sockets fd
      have hset := count_openFds_set hc { c with takes := takes } fd
      rw [held, List.count_append] at hs ⊢
      dsimp only at hset ⊢
      omega
    case crashed => exact h.crashed
    case stopping => exact h.stopping
    case closing => exact h.closing
    case joined => exact h.joined
    case stopped => exact fun hcaller hr ↦ absurd (h.stopped hcaller hr).2.2 hne
    case serving => exact h.serving

theorem Tidy.clientStep (h : s.Tidy) (i : ℕ) (event : ClientEvent) :
    (s.clientStep i event).Tidy := by
  unfold RtspRun.clientStep
  cases hc : s.clients[i]? with
  | none => exact h
  | some c =>
    dsimp only
    have hfd : ((c.sees s.running).step s.config event).fd = c.fd :=
      connection_step_fd s.config _ event
    have hkept (hp : c.client.phase = .closed) :
        ((c.sees s.running).step s.config event).client.phase = .closed := by
      have hclosed : (c.sees s.running).client.phase = .closed := hp
      exact connection_step_closed s.config hclosed event
    generalize (c.sees s.running).step s.config event = c' at hfd hkept ⊢
    have hne : s.clients ≠ [] := by
      intro hnil
      rw [hnil] at hc
      cases hc
    constructor
    case sockets =>
      intro fd
      have hs := h.sockets fd
      have hset := count_openFds_set hc c' fd
      rw [hfd] at hset
      have hnew : (if c'.client.phase = .closed ∧ c.client.phase ≠ .closed then s.closed ++ [c.fd]
          else s.closed).count fd = s.closed.count fd +
            if c'.client.phase = .closed ∧ c.client.phase ≠ .closed ∧ c.fd = fd then 1 else 0 := by
        by_cases hp : c'.client.phase = .closed ∧ c.client.phase ≠ .closed
        · rw [if_pos hp, List.count_append, List.count_singleton]
          simp [hp.1, hp.2]
        · rw [if_neg hp, if_neg fun ht ↦ hp ⟨ht.1, ht.2.1⟩, Nat.add_zero]
      rw [held, List.count_append] at hs
      rw [held, hnew, List.count_append]
      dsimp only at hset ⊢
      by_cases hp : c.client.phase = .closed
      · simp only [hp, hkept hp, ne_eq, not_true_eq_false, false_and, and_false, if_false] at hset ⊢
        omega
      · by_cases hq : c'.client.phase = .closed
        · simp only [hp, hq, ne_eq, not_true_eq_false, not_false_eq_true, false_and, true_and,
            if_false] at hset ⊢
          omega
        · simp only [hp, hq, ne_eq, not_false_eq_true, false_and, true_and, if_false] at hset ⊢
          omega
    case crashed => exact h.crashed
    case stopping => exact h.stopping
    case closing => exact h.closing
    case joined => exact h.joined
    case stopped => exact fun hcaller hr ↦ absurd (h.stopped hcaller hr).2.2 hne
    case serving => exact h.serving

theorem Tidy.init (h : s.Tidy) (config : RtspServerConfig) (streamService : Bool) :
    (s.init config streamService).2.Tidy := by
  unfold RtspRun.init
  split
  · exact h
  · exact ⟨h.sockets, h.crashed, h.stopping, h.closing, h.joined, h.stopped, h.serving⟩

theorem Tidy.step (h : s.Tidy) (move : RtspMove) : (s.step move).Tidy := by
  cases move with
  | init config streamService =>
    rw [RtspRun.step]
    split
    · exact h
    · exact h.init config streamService
  | start io =>
    rw [RtspRun.step]
    split
    · exact h
    · rename_i hc
      exact h.start (not_not.mp hc) io
  | stop =>
    rw [RtspRun.step]
    split
    · exact h
    · exact h.stop
  | caller => exact h.stopStep
  | accept accepted => exact h.acceptStep accepted
  | client i event => exact h.clientStep i event
  | peer i takes => exact h.peerStep i takes

theorem run_tidy (moves : List RtspMove) : (run moves).Tidy :=
  Runs.exec_invariant (fun _ move h ↦ h.step move) start_tidy moves

theorem Tidy.closed_perm (h : s.Tidy) (hc : s.caller = .idle) (hr : s.running = false) :
    s.closed.Perm (List.range s.sockets) := by
  obtain ⟨hl, ha, hcl⟩ := h.stopped hc hr
  rw [List.perm_iff_count]
  intro fd
  have hs := h.sockets fd
  rw [held, hl, ha, hcl] at hs
  by_cases hlt : fd < s.sockets
  · rw [List.count_eq_one_of_mem List.nodup_range (List.mem_range.mpr hlt)]
    rw [if_pos hlt] at hs
    exact hs
  · rw [List.count_eq_zero_of_not_mem (mt List.mem_range.mp hlt)]
    rw [if_neg hlt] at hs
    exact hs

end RtspRun

namespace Connection

/-- The connection waits for the rest of a request. -/
def AwaitsRequest (c : Connection) : Prop :=
  c.client.phase = .receiving ∧ readRtspRequest c.client.inbox = .waiting ∧ c.client.hungUp = false

/-- The connection waits for its peer to take an answer or a frame, or will once it answers the
request that it has. -/
def AwaitsPeer (c : Connection) : Prop :=
  c.takes = false ∧ (c.client.phase ≠ .closed ∧ c.sending ≠ none ∨
    c.client.phase = .receiving ∧
      ∃ request rest, readRtspRequest c.client.inbox = .complete request rest)

def Waits (c : Connection) : Prop := c.AwaitsRequest ∨ c.AwaitsPeer

variable {c : Connection} (config : RtspServerConfig)

theorem Waits.not_closed (h : c.Waits) : c.client.phase ≠ .closed := by
  rcases h with ⟨hp, -⟩ | ⟨-, ⟨hp, -⟩ | ⟨hp, -⟩⟩
  · rw [hp]
    decide
  · exact hp
  · rw [hp]
    decide

theorem Waits.turn (h : c.Waits) (frame : Option EncodedFrame) (taken : List ℕ) :
    (c.turn config frame taken).Waits := by
  unfold Connection.turn
  cases hs : c.sending with
  | some begun =>
    dsimp only
    split
    · rename_i ht
      rcases h with ⟨hp, hr, hh⟩ | ⟨hf, -⟩
      · have hsame : c.client.resume config begun taken = c.client := by
          simp [RtspClient.resume, hp, RtspClient.readTurn, hr, hh]
        rw [hsame]
        exact .inl ⟨hp, hr, hh⟩
      · exact absurd (hf.symm.trans ht) (by decide)
    · exact h
  | none =>
    dsimp only
    rcases h with ⟨hp, hr, hh⟩ | ⟨hf, ⟨-, hsending⟩ | ⟨hp, request, rest, hr⟩⟩
    · have hsends : c.client.sends frame = false := by
        simp [RtspClient.sends, hp, hr]
      have hsame : RtspClient.step config c.client (.turn frame taken) = c.client := by
        simp [RtspClient.step, hp, RtspClient.readTurn, hr, hh]
      rw [hsends, Bool.and_false, if_neg Bool.false_ne_true, hsame]
      exact .inl ⟨hp, hr, hh⟩
    · exact absurd hs hsending
    · have hsends : c.client.sends frame = true := by
        simp [RtspClient.sends, hp, hr]
      rw [hsends, hf, if_pos (show (!false && true) = true from rfl)]
      exact .inr ⟨rfl, .inl ⟨by rw [hp]; decide, Option.some_ne_none frame⟩⟩

theorem readTurn_leaves (hp : c.client.phase = .receiving) (hw : ¬c.AwaitsRequest)
    (taken : List ℕ) : (c.client.readTurn config taken).phase ≠ .receiving := by
  rw [RtspClient.readTurn]
  cases hread : readRtspRequest c.client.inbox with
  | waiting =>
    have hhung : c.client.hungUp = true := by
      cases hh : c.client.hungUp with
      | true => rfl
      | false => exact absurd ⟨hp, hread, hh⟩ hw
    simp [hhung]
  | refused => simp
  | complete request rest =>
    dsimp only [RtspClient.afterResponse]
    split_ifs <;> simp

theorem streamTurn_leaves (s : RtspClient) (frame : Option EncodedFrame) (taken : List ℕ) :
    (s.streamTurn frame taken).phase ≠ .receiving := by
  rw [RtspClient.streamTurn]
  split
  · dsimp only
    split_ifs <;> exact fun h ↦ nomatch h
  · exact fun h ↦ nomatch h

theorem turn_leaves (hr : c.client.running = false) (hopen : c.client.phase ≠ .closed)
    (hw : ¬c.Waits) :
    (c.turn config none []).sending = none ∧
      (c.turn config none []).client.phase ≠ .receiving := by
  have hrequest : ¬c.AwaitsRequest := fun h ↦ hw (.inl h)
  unfold Connection.turn
  cases hs : c.sending with
  | some begun =>
    have ht : c.takes = true := by
      cases ht : c.takes with
      | true => rfl
      | false =>
        have hsending : c.sending ≠ none := by
          rw [hs]
          exact Option.some_ne_none begun
        exact absurd (.inr ⟨ht, .inl ⟨hopen, hsending⟩⟩) hw
    rw [ht]
    refine ⟨rfl, ?_⟩
    dsimp only
    rw [if_pos rfl, RtspClient.resume]
    cases hp : c.client.phase with
    | head => rw [hp]; decide
    | receiving => exact readTurn_leaves config hp hrequest _
    | streaming => exact streamTurn_leaves _ _ _
    | closed => exact absurd hp hopen
  | none =>
    dsimp only
    have hfree : (!c.takes && c.client.sends none) = false := by
      cases ht : c.takes with
      | true => rfl
      | false =>
        rw [RtspClient.sends]
        cases hp : c.client.phase with
        | head => rfl
        | receiving =>
          cases hread : readRtspRequest c.client.inbox with
          | waiting => rfl
          | refused => rfl
          | complete request rest => exact absurd (.inr ⟨ht, .inr ⟨hp, request, rest, hread⟩⟩) hw
        | streaming => rw [hr]; rfl
        | closed => exact absurd hp hopen
    rw [hfree, if_neg Bool.false_ne_true]
    refine ⟨rfl, ?_⟩
    rw [RtspClient.step]
    cases hp : c.client.phase with
    | head => simp [hr]
    | receiving => exact readTurn_leaves config hp hrequest _
    | streaming => exact streamTurn_leaves _ _ _
    | closed => exact absurd hp hopen

theorem turn_closed (hr : c.client.running = false) (hs : c.sending = none)
    (hp : c.client.phase ≠ .receiving) : (c.turn config none []).client.phase = .closed := by
  unfold Connection.turn
  rw [hs]
  dsimp only
  rw [RtspClient.sends, RtspClient.step]
  cases hphase : c.client.phase with
  | head => simp [hr]
  | receiving => exact absurd hphase hp
  | streaming => simp [hr, RtspClient.streamTurn]
  | closed => simp [hphase]

theorem turn_turn_closed (hr : c.client.running = false) (hw : ¬c.Waits) :
    (((c.turn config none []).sees false).turn config none []).client.phase = .closed := by
  by_cases hopen : c.client.phase = .closed
  · have hfirst : ((c.turn config none []).sees false).client.phase = .closed :=
      RtspRun.connection_step_closed config hopen (.turn none [])
    exact RtspRun.connection_step_closed config hfirst (.turn none [])
  · obtain ⟨hs, hp⟩ := turn_leaves config hr hopen hw
    exact turn_closed config rfl hs hp

end Connection

/-- A step of a thread of the server or of a call of `stop` that has begun. -/
inductive RtspMove.Inner : RtspMove → Prop
  | caller : Inner .caller
  | accept (accepted : Bool) : Inner (.accept accepted)
  | turn (i : ℕ) (frame : Option EncodedFrame) (taken : List ℕ) :
      Inner (.client i (.turn frame taken))

namespace RtspRun

variable {s t : RtspRun}

structure Stuck (s : RtspRun) : Prop where
  caller : s.caller ≠ .idle
  waits : ∃ c ∈ s.clients, c.Waits

theorem Stuck.step (h : s.Stuck) {move : RtspMove} (hm : move.Inner) : (s.step move).Stuck := by
  obtain ⟨hcaller, c, hc, hw⟩ := h
  cases hm with
  | caller =>
    rw [RtspRun.step, RtspRun.stopStep]
    cases hphase : s.caller with
    | idle => exact absurd hphase hcaller
    | closing => exact ⟨(fun h ↦ nomatch h), c, hc, hw⟩
    | joiningAccept =>
      cases s.acceptThread with
      | absent => exact ⟨(fun h ↦ nomatch h), c, hc, hw⟩
      | exited => exact ⟨(fun h ↦ nomatch h), c, hc, hw⟩
      | head => exact ⟨hcaller, c, hc, hw⟩
      | accepting => exact ⟨hcaller, c, hc, hw⟩
      | accepted fd => exact ⟨hcaller, c, hc, hw⟩
    | joiningClients =>
      have hleft : ¬s.clientsLeft = true := by
        intro hall
        have hclosed := eq_of_beq (List.all_eq_true.mp hall c hc)
        exact hw.not_closed hclosed
      dsimp only
      rw [if_neg hleft]
      exact ⟨hcaller, c, hc, hw⟩
  | accept accepted =>
    rw [RtspRun.step, RtspRun.acceptStep]
    cases s.acceptThread with
    | absent => exact ⟨hcaller, c, hc, hw⟩
    | exited => exact ⟨hcaller, c, hc, hw⟩
    | head => exact ⟨hcaller, c, hc, hw⟩
    | accepting =>
      dsimp only
      split <;> exact ⟨hcaller, c, hc, hw⟩
    | accepted fd => exact ⟨hcaller, c, List.mem_append_left _ hc, hw⟩
  | turn i frame taken =>
    rw [RtspRun.step, RtspRun.clientStep]
    cases hi : s.clients[i]? with
    | none => exact ⟨hcaller, c, hc, hw⟩
    | some d =>
      have hlt : i < s.clients.length := (List.getElem?_eq_some_iff.mp hi).1
      obtain ⟨j, hj⟩ := List.mem_iff_getElem?.mp hc
      by_cases hij : i = j
      · obtain rfl : d = c := by
          rw [hij] at hi
          exact Option.some_inj.mp (hi.symm.trans hj)
        have hsees : (d.sees s.running).Waits := hw
        exact ⟨hcaller, _, List.mem_set hlt _, hsees.turn s.config frame taken⟩
      · refine ⟨hcaller, c, ?_, hw⟩
        refine List.mem_iff_getElem?.mpr ⟨j, ?_⟩
        rw [List.getElem?_set_ne hij]
        exact hj

/-- The threads of the server can come from `s` to `t` on their own. -/
def Reaches (s t : RtspRun) : Prop :=
  ∃ moves : List RtspMove, (∀ m ∈ moves, m.Inner) ∧ Runs.exec step s moves = t

theorem Reaches.refl (s : RtspRun) : Reaches s s := by
  refine ⟨[], ?_, rfl⟩
  intro m hm
  exact absurd hm List.not_mem_nil

theorem Reaches.head {move : RtspMove} (hm : move.Inner) (h : Reaches (s.step move) t) :
    Reaches s t := by
  obtain ⟨moves, hinner, rfl⟩ := h
  refine ⟨move :: moves, ?_, rfl⟩
  intro m hmem
  rcases List.mem_cons.mp hmem with rfl | hmem
  · exact hm
  · exact hinner m hmem

theorem Reaches.stuck (h : Reaches s t) (hs : s.Stuck) : t.Stuck := by
  obtain ⟨moves, hinner, rfl⟩ := h
  induction moves generalizing s with
  | nil => exact hs
  | cons move moves ih =>
    have hm := hinner move List.mem_cons_self
    exact ih (hs.step hm) fun m hmem ↦ hinner m (List.mem_cons_of_mem _ hmem)

theorem Reaches.trans {u : RtspRun} (h : Reaches s t) (h' : Reaches t u) : Reaches s u := by
  obtain ⟨first, hfirst, rfl⟩ := h
  obtain ⟨second, hsecond, rfl⟩ := h'
  refine ⟨first ++ second, ?_, Runs.exec_append step s first second⟩
  intro m hm
  rcases List.mem_append.mp hm with hm | hm
  · exact hfirst m hm
  · exact hsecond m hm

theorem reaches_turn (hr : s.running = false) {before after : List Connection} {c : Connection}
    (hclients : s.clients = before ++ c :: after) : ∃ closed, Reaches s
      { s with
        clients := before ++ (c.sees false).turn s.config none [] :: after
        closed := closed } := by
  have hget : (before ++ c :: after)[before.length]? = some c := by
    rw [List.getElem?_append_right (Nat.le_refl _), Nat.sub_self]
    rfl
  have hset (d : Connection) : (before ++ c :: after).set before.length d =
      before ++ d :: after := by
    rw [List.set_append_right _ _ (Nat.le_refl _), Nat.sub_self]
    rfl
  refine ⟨(s.step (.client before.length (.turn none []))).closed,
    .head (.turn before.length none []) ?_⟩
  rw [step, clientStep, hclients, hget, hr]
  dsimp only
  rw [hset]
  exact .refl _

theorem reaches_two_turns (hr : s.running = false) {before after : List Connection} {c : Connection}
    (hclients : s.clients = before ++ c :: after) (hw : ¬c.Waits) :
    ∃ c' closed, c'.client.phase = .closed ∧
      Reaches s { s with clients := before ++ c' :: after, closed := closed } := by
  let first := (c.sees false).turn s.config none []
  have hsees : ¬(c.sees false).Waits := hw
  obtain ⟨closed₁, h₁⟩ := reaches_turn hr hclients
  obtain ⟨closed₂, h₂⟩ := reaches_turn (s := { s with
    clients := before ++ first :: after
    closed := closed₁ }) hr rfl
  exact ⟨(first.sees false).turn s.config none [], closed₂,
    Connection.turn_turn_closed s.config rfl hsees, h₁.trans h₂⟩

theorem reaches_left (hr : s.running = false) {before after : List Connection}
    (hclients : s.clients = before ++ after) (hbefore : ∀ c ∈ before, c.client.phase = .closed)
    (hw : ∀ c ∈ after, ¬c.Waits) :
    ∃ clients closed, (∀ c ∈ clients, c.client.phase = .closed) ∧
      Reaches s { s with clients := clients, closed := closed } := by
  induction after generalizing s before with
  | nil =>
    refine ⟨s.clients, s.closed, ?_, .refl s⟩
    rw [hclients, List.append_nil]
    exact hbefore
  | cons c after ih =>
    obtain ⟨c', closed, hc', hreach⟩ := reaches_two_turns hr hclients (hw c List.mem_cons_self)
    have hdone : ∀ d ∈ before ++ [c'], d.client.phase = .closed := by
      intro d hd
      rcases List.mem_append.mp hd with hd | hd
      · exact hbefore d hd
      · rw [List.mem_singleton.mp hd]
        exact hc'
    obtain ⟨clients, closed', hall, hreach'⟩ :=
      ih (s := { s with clients := before ++ c' :: after, closed := closed }) hr
        (List.append_cons before c' after) hdone fun d hd ↦ hw d (List.mem_cons_of_mem c hd)
    exact ⟨clients, closed', hall, hreach.trans hreach'⟩

theorem reaches_accepted (hr : s.running = false) (hw : ∀ c ∈ s.clients, ¬c.Waits) :
    ∃ phase clients, (phase = .absent ∨ phase = .exited) ∧ (∀ c ∈ clients, ¬c.Waits) ∧
      Reaches s { s with acceptThread := phase, clients := clients } := by
  have hhead {s : RtspRun} (hr : s.running = false) (ha : s.acceptThread = .head) :
      Reaches s { s with acceptThread := .exited } := by
    refine .head (.accept false) ?_
    rw [step, acceptStep, ha]
    dsimp only
    rw [hr, if_neg Bool.false_ne_true]
    exact .refl _
  cases ha : s.acceptThread with
  | absent => exact ⟨.absent, s.clients, .inl rfl, hw, ha ▸ .refl s⟩
  | exited => exact ⟨.exited, s.clients, .inr rfl, hw, ha ▸ .refl s⟩
  | head => exact ⟨.exited, s.clients, .inr rfl, hw, hhead hr ha⟩
  | accepting =>
    refine ⟨.exited, s.clients, .inr rfl, hw, .head (.accept false) ?_⟩
    rw [step, acceptStep, ha]
    exact hhead (s := { s with acceptThread := .head }) hr rfl
  | accepted fd =>
    refine ⟨.exited, s.clients ++ [{ fd := fd, client := {} }], .inr rfl, ?_,
      .head (.accept false) ?_⟩
    · intro c hc
      rcases List.mem_append.mp hc with hc | hc
      · exact hw c hc
      · rw [List.mem_singleton.mp hc]
        rintro (⟨hp, -⟩ | ⟨ht, -⟩)
        · cases hp
        · cases ht
    · rw [step, acceptStep, ha]
      exact hhead (s := { s with
        acceptThread := .head
        clients := s.clients ++ [{ fd := fd, client := {} }] }) hr rfl

theorem joined_idle (hc : s.caller = .joiningClients)
    (hall : ∀ c ∈ s.clients, c.client.phase = .closed) : (s.step .caller).caller = .idle := by
  have hleft : s.clientsLeft = true := by
    rw [clientsLeft, List.all_eq_true]
    intro c hmem
    exact beq_iff_eq.mpr (hall c hmem)
  rw [step, stopStep, hc]
  dsimp only
  rw [if_pos hleft]

theorem reaches_joined (hc : s.caller = .joiningClients) (hr : s.running = false)
    (hw : ∀ c ∈ s.clients, ¬c.Waits) : ∃ t, Reaches s t ∧ t.caller = .idle := by
  obtain ⟨clients, closed, hall, hreach⟩ :=
    reaches_left hr (List.nil_append s.clients).symm
      (fun c hc ↦ absurd hc List.not_mem_nil) hw
  have hidle := joined_idle (s := { s with clients := clients, closed := closed }) hc hall
  exact ⟨_, hreach.trans (.head .caller (.refl _)), hidle⟩

theorem reaches_joining (hc : s.caller = .joiningAccept) (hr : s.running = false)
    (hw : ∀ c ∈ s.clients, ¬c.Waits) : ∃ t, Reaches s t ∧ t.caller = .idle := by
  obtain ⟨phase, clients, hphase, hw, hreach⟩ := reaches_accepted hr hw
  have hstep : step { s with acceptThread := phase, clients := clients } .caller =
      { s with acceptThread := .absent, clients := clients, caller := .joiningClients } := by
    rw [step, stopStep]
    dsimp only
    rw [hc]
    rcases hphase with rfl | rfl <;> rfl
  obtain ⟨t, hreach', ht⟩ := reaches_joined
    (s := { s with acceptThread := .absent, clients := clients, caller := .joiningClients })
    rfl hr hw
  refine ⟨t, hreach.trans (.head .caller ?_), ht⟩
  rw [hstep]
  exact hreach'

/-- A call of `stop` that has begun can come to its end by the steps of the threads of the server
alone exactly when no connection waits for the rest of a request or for its peer to take what it
is sent. -/
theorem Tidy.returns_iff (h : s.Tidy) (hc : s.caller ≠ .idle) :
    (∃ t, Reaches s t ∧ t.caller = .idle) ↔ ∀ c ∈ s.clients, ¬c.Waits := by
  constructor
  · rintro ⟨t, hreach, ht⟩ c hmem hw
    exact (hreach.stuck ⟨hc, c, hmem, hw⟩).caller ht
  · intro hw
    have hr := h.stopping hc
    cases hphase : s.caller with
    | idle => exact absurd hphase hc
    | closing =>
      have hstep : s.step .caller =
          { s with
            listenFd := none
            closed := s.closed ++ s.listenFd.toList
            caller := .joiningAccept } := by
        rw [RtspRun.step, RtspRun.stopStep, hphase]
      have hjoin : ∃ t, Reaches (s.step .caller) t ∧ t.caller = .idle := by
        rw [hstep]
        exact reaches_joining rfl hr hw
      obtain ⟨t, hreach, ht⟩ := hjoin
      exact ⟨t, .head .caller hreach, ht⟩
    | joiningAccept => exact reaches_joining hphase hr hw
    | joiningClients => exact reaches_joined hphase hr hw

/-- Whichever way its threads and the calls of its owner interleave, an RTSP server closes each
socket that it opens once; when `stop` has returned, it has closed all of them and none of its
threads is left; and `stop` can return by itself exactly when no connection waits for the rest of
a request or for its peer to take what it is sent. -/
theorem stop_leaves_nothing (moves : List RtspMove) :
    (run moves).crashed = false ∧
    (∀ fd, (run moves).closed.count fd + (run moves).held.count fd =
      if fd < (run moves).sockets then 1 else 0) ∧
    ((run moves).caller = .idle → (run moves).running = false →
      (run moves).acceptThread = .absent ∧ (run moves).clients = [] ∧
        (run moves).closed.Perm (List.range (run moves).sockets)) ∧
    ((run moves).caller ≠ .idle → ((∃ t, Reaches (run moves) t ∧ t.caller = .idle) ↔
      ∀ c ∈ (run moves).clients, ¬c.Waits)) := by
  have h := run_tidy moves
  refine ⟨h.crashed, h.sockets, ?_, h.returns_iff⟩
  intro hc hr
  obtain ⟨-, ha, hcl⟩ := h.stopped hc hr
  exact ⟨ha, hcl, h.closed_perm hc hr⟩

end RtspRun

end TriFusion.Protocol
