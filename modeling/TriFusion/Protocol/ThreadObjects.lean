import TriFusion.Foundation.Worker
import TriFusion.Protocol.PublisherChildren

namespace TriFusion.Protocol

open Foundation Library Library.Runs Library.ChildTable Library.ThreadHandle

namespace PublisherRun

open UdpMpegTsPublisher

def owner (r : PublisherRun) : Owner where
  flag := r.publisher.running
  handle := r.publisher.threadHandle
  stopping := r.stopping
  crashed := r.crashed

/-- Whether a `start` that is not turned away at the flag comes to the assignment. -/
def assigns (r : PublisherRun) (config : UdpMpegTsPublisherConfig) (streamService : Bool)
    (io : SpawnIo) : Bool :=
  streamService && config.udpUrl != [] &&
    ({ r.publisher with config := config, streamService := true, stats := {} }.startFfmpeg io
      r.table).1.succeeded

def event (r : PublisherRun) : PublisherInput → Option ThreadHandle.Event
  | .start config streamService io =>
    if r.assigns config streamService io then some .start else none
  | .stop => some (.stop true)
  | .join => some (.join false)
  | .sender _ _ => if r.publisher.senderThread = some .ending then some .finish else none
  | .ends _ => none

variable {r : PublisherRun}

theorem startFfmpeg_thread (io : SpawnIo) (p : UdpMpegTsPublisher) (table : List Child) :
    (p.startFfmpeg io table).2.1.running = p.running ∧
      (p.startFfmpeg io table).2.1.senderThread = p.senderThread := by
  unfold startFfmpeg
  split
  · exact ⟨rfl, rfl⟩
  · split
    · exact ⟨rfl, rfl⟩
    · dsimp only
      split <;> exact ⟨rfl, rfl⟩

variable {config : UdpMpegTsPublisherConfig} {io : SpawnIo} {p p' : UdpMpegTsPublisher}
  {table table' : List Child}

theorem start_of_error (hrun : p.running = false) (hurl : config.udpUrl ≠ []) {e : Status}
    (hout : { p with config := config, streamService := true, stats := {} }.startFfmpeg io table =
      (.error e, p', table')) :
    p.start config true io table = (some (.error e), p', table') := by
  unfold UdpMpegTsPublisher.start
  rw [if_neg (by simp [hrun]), if_neg (by decide), if_neg hurl]
  dsimp only
  rw [hout]

theorem start_of_ok (hrun : p.running = false) (hurl : config.udpUrl ≠ [])
    (hout : { p with config := config, streamService := true, stats := {} }.startFfmpeg io table =
      (.ok (), p', table')) :
    p.start config true io table =
      if p'.senderThread = none then
        (some (.ok ()), { p' with running := true, senderThread := some .check }, table')
      else (none, { p' with running := true }, table') := by
  unfold UdpMpegTsPublisher.start
  rw [if_neg (by simp [hrun]), if_neg (by decide), if_neg hurl]
  dsimp only
  rw [hout]
  cases hphase : p'.senderThread with
  | none => simp [hphase]
  | some phase => simp [hphase]

theorem joinable_iff : p.threadHandle.joinable = false ↔ p.senderThread = none := by
  unfold threadHandle
  cases p.senderThread with
  | none => simp [Handle.joinable]
  | some phase => cases phase <;> simp [Handle.joinable]

theorem threadHandle_congr (h : p'.senderThread = p.senderThread) :
    p'.threadHandle = p.threadHandle := by
  rw [threadHandle, threadHandle, h]

theorem owner_start (hc : r.crashed = false) (hs : r.stopping = false)
    (config : UdpMpegTsPublisherConfig) (streamService : Bool) (io : SpawnIo) :
    (r.step (.start config streamService io)).owner =
      if r.assigns config streamService io then r.owner.step .start else r.owner := by
  rw [step_start hc hs]
  by_cases hon : r.publisher.running = true
  · have hkept : r.owner.step .start = r.owner := by simp [Owner.step, owner, hon]
    rw [hkept, ite_self]
    simp [owner, UdpMpegTsPublisher.start, hon, hc]
  have hrun : r.publisher.running = false := by simpa using hon
  by_cases htests : streamService = true ∧ config.udpUrl ≠ []
  · obtain ⟨rfl, hurl⟩ := htests
    have hkept := startFfmpeg_thread io
      { r.publisher with config := config, streamService := true, stats := {} } r.table
    rcases hout : { r.publisher with
        config := config, streamService := true, stats := {} }.startFfmpeg io r.table with
      ⟨result, p', table'⟩
    rw [hout] at hkept
    have hrunning : p'.running = r.publisher.running := hkept.1
    have hthread : p'.senderThread = r.publisher.senderThread := hkept.2
    have hassigns : r.assigns config true io = result.succeeded := by
      simp [assigns, hurl, hout]
    rw [hassigns]
    cases result with
    | error e =>
      rw [start_of_error hrun hurl hout]
      simp [owner, threadHandle_congr hthread, hrunning, hc]
    | ok u =>
      rw [start_of_ok hrun hurl hout]
      by_cases hnone : p'.senderThread = none
      · have hempty : r.publisher.threadHandle.joinable = false :=
          joinable_iff.mpr (hthread.symm.trans hnone)
        have hlive : threadHandle
            { p' with running := true, senderThread := some .check } = .live := rfl
        rw [if_pos hnone]
        simp [owner, Owner.step, hc, hs, hrun, hempty, hlive]
      · have hjoinable : r.publisher.threadHandle.joinable = true := by
          rw [← Bool.not_eq_false, joinable_iff]
          exact fun h ↦ hnone (hthread.trans h)
        rw [if_neg hnone]
        have hsame : threadHandle { p' with running := true } = r.publisher.threadHandle :=
          threadHandle_congr hthread
        simp [owner, Owner.step, hc, hs, hrun, hjoinable, hsame]
  · have hassigns : r.assigns config streamService io = false := by
      cases streamService <;> simp_all [assigns]
    rw [hassigns]
    cases streamService with
    | false => simp [owner, UdpMpegTsPublisher.start, hrun, hc]
    | true =>
      have hurl : config.udpUrl = [] := by simpa using htests
      simp [owner, UdpMpegTsPublisher.start, hrun, hurl, hc]

theorem owner_sender (hc : r.crashed = false) (frame : Option (List UInt8)) (written : Bool) :
    (r.step (.sender frame written)).owner =
      if r.publisher.senderThread = some .ending then r.owner.step .finish else r.owner := by
  rw [step_sender hc]
  cases hphase : r.publisher.senderThread with
  | none => simp [senderStep, owner, hphase]
  | some phase =>
    cases phase with
    | check =>
      cases hrun : r.publisher.running <;>
        simp [senderStep, owner, threadHandle, hphase, hrun]
    | reap =>
      obtain ⟨hrunning, -, -⟩ := waitChildIfExited_running r.publisher r.table
      simp only [senderStep, hphase]
      cases hservice : r.publisher.streamService with
      | false => simp [owner, threadHandle, hphase]
      | true =>
        by_cases hlost : (r.publisher.waitChildIfExited r.table).1.childPid < 0
        · simp [owner, threadHandle, hphase, hrunning, hlost]
        · simp [owner, threadHandle, hphase, hrunning, hlost]
    | frame =>
      cases frame with
      | none => simp [senderStep, owner, threadHandle, hphase]
      | some bytes =>
        by_cases hb : bytes = [] <;> simp [senderStep, owner, threadHandle, hphase, hb]
    | write bytes =>
      simp only [senderStep, hphase]
      split <;> simp [owner, threadHandle, hphase]
    | ending => simp [senderStep, owner, threadHandle, Owner.step, hphase, hc]
    | returned => simp [senderStep, owner, hphase]

theorem joins_iff : r.joins = true ↔ r.stopping = true ∧ r.publisher.threadHandle ≠ .live := by
  unfold joins
  cases r.publisher.threadHandle <;> simp

theorem join_running (p : UdpMpegTsPublisher) (table : List Child) :
    (p.join table).1.running = p.running :=
  (waitChildIfExited_running (closeWritePipe { p with senderThread := none }) table).1

theorem owner_join (hc : r.crashed = false) :
    (r.step .join).owner = r.owner.step (.join false) := by
  by_cases hj : r.joins = true
  · obtain ⟨hs, hlive⟩ := joins_iff.mp hj
    have hempty : (r.publisher.join r.table).1.threadHandle = .empty := by
      rw [threadHandle, join_senderThread]
    rw [step_join hc hj]
    simp [owner, Owner.step, hc, hs, hlive, hempty, join_running]
  · have hw : r.joins = false := by simpa using hj
    rw [step_join_waits hw]
    rw [joins_iff, not_and, not_not] at hj
    by_cases hs : r.stopping = true
    · simp [owner, Owner.step, hj hs]
    · simp [owner, Owner.step, hs]

theorem owner_moves : Moves step owner event := by
  intro r input
  by_cases hcrash : r.crashed = true
  · have hkept : ∀ e, r.owner.step e = r.owner := by
      intro e
      cases e <;> simp [Owner.step, owner, hcrash]
    rw [step_crashed hcrash]
    cases event r input with
    | none => rfl
    | some e => exact (hkept e).symm
  have hc : r.crashed = false := by simpa using hcrash
  cases input with
  | start config streamService io =>
    by_cases hs : r.stopping = true
    · have hkept : r.owner.step .start = r.owner := by simp [Owner.step, owner, hs]
      rw [step_busy hs (.inr ⟨config, streamService, io, rfl⟩)]
      cases hev : r.assigns config streamService io <;> simp [event, hev, hkept]
    · rw [owner_start hc (by simpa using hs)]
      cases hev : r.assigns config streamService io <;> simp [event, hev]
  | stop =>
    by_cases hs : r.stopping = true
    · rw [step_busy hs (.inl rfl)]
      simp [event, owner, Owner.step, hs]
    · have hidle : r.stopping = false := by simpa using hs
      rw [step_stop hc hidle]
      simp [event, owner, Owner.step, hc, hidle, UdpMpegTsPublisher.stop, threadHandle]
  | join => exact owner_join hc
  | sender frame written =>
    rw [owner_sender hc]
    by_cases hphase : r.publisher.senderThread = some .ending
    · simp [event, hphase]
    · simp [event, hphase]
  | ends ends =>
    rw [step_ends hc]
    rfl

end PublisherRun

/-- No thread object is assigned to while it is joinable exactly in the runs in which no `start`
gets through after the thread has returned by itself and before a `stop`. -/
theorem thread_objects_iff (calls : List WorkerInput) (inputs : List PublisherInput) :
    ((exec WorkerRun.step {} calls).crashed = false ↔
      ¬Follows WorkerRun.step (EndsAlone WorkerRun.owner WorkerRun.event) (Stops WorkerRun.event)
        (Starts WorkerRun.event) {} calls) ∧
    ((exec PublisherRun.step {} inputs).crashed = false ↔
      ¬Follows PublisherRun.step (EndsAlone PublisherRun.owner PublisherRun.event)
        (Stops PublisherRun.event) (Starts PublisherRun.event) {} inputs) := by
  constructor
  · rw [← WorkerRun.owner_moves.crashed_iff rfl calls, Bool.not_eq_true]
    rfl
  · rw [← PublisherRun.owner_moves.crashed_iff rfl inputs, Bool.not_eq_true]
    rfl

/-- A worker whose task has returned is started again, and so is a publisher whose ffmpeg has
ended. -/
theorem restarted_joinable :
    (exec WorkerRun.step {} [.start "worker" true, .finish, .start "worker" true]).crashed = true ∧
      (exec PublisherRun.step {} [.start {} true ⟨.ok (), fun _ ↦ .ok 4242, fun _ ↦ none⟩,
        .ends fun _ ↦ some (.exited 0), .sender none true, .sender none true, .sender none true,
        .start {} true ⟨.ok (), fun _ ↦ .ok 4243, fun _ ↦ none⟩]).crashed = true := by
  decide

end TriFusion.Protocol
