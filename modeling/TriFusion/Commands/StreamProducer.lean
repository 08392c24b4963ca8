import TriFusion.Commands.StreamHandlers
import TriFusion.Mode.PipelineProducer

namespace TriFusion.Commands

open Foundation Algorithm DeviceControl Media Mode Service Library

variable {ω : Type} {io : ModeIo ω}

structure StreamCommands where
  setWorkMode : SetWorkModeHandler := {}
  startStream : StartStreamHandler := {}
  stopStream : StopStreamHandler := {}
  deriving DecidableEq

inductive StreamEvent
  | setWorkMode (command : Command)
  | startStream (command : Command)
  | stopStream (command : Command)
  | work
  deriving DecidableEq

namespace StreamCommands

variable (io) in
def step (c : StreamCommands) (x : ModeSystem ω) : StreamEvent → ModeSystem ω
  | .setWorkMode command => (c.setWorkMode.handle io command x).2
  | .startStream _ => (c.startStream.handle x).2
  | .stopStream _ => (c.stopStream.handle io x).2
  | .work => ModeSystem.work io x

variable (io) in
def run (c : StreamCommands) (x : ModeSystem ω) (events : List StreamEvent) : ModeSystem ω :=
  Runs.exec (c.step io) x events

def AnswersRunning (c : StreamCommands) (x : ModeSystem ω) : Prop :=
  ∃ result, (c.startStream.handle x).1 = .ok result ∧
    result.fields.lookup "state".toList = some "RUNNING".toList

/-- A START_STREAM that is answered so leaves the stream with a producer. -/
def StartProduces (io : ModeIo ω) (c : StreamCommands) (x : ModeSystem ω) (event : StreamEvent) :
    Prop :=
  ∀ command, event = .startStream command → c.AnswersRunning x → (c.step io x event).HasProducer

def requestedMode (c : StreamCommands) (command : Command) : Option WorkMode :=
  let mode := WorkMode.fromString (modeText command)
  if c.setWorkMode.service = some ⟨true⟩ ∧ modeText command ≠ [] ∧ mode ≠ .unknown then some mode
  else none

def BringsUp (io : ModeIo ω) (c : StreamCommands) (x : ModeSystem ω) (event : StreamEvent) : Prop :=
  ∃ command, event = .setWorkMode command ∧ (c.setWorkMode.handle io command x).1.succeeded = true

/-- What ends a producer: a SET_WORK_MODE that gets as far as letting go of the
pipeline and then fails, a STOP_STREAM that reaches the manager, and a turn of the
worker that meets an error other than a timeout. -/
def TearsDown (io : ModeIo ω) (c : StreamCommands) (x : ModeSystem ω) : StreamEvent → Prop
  | .setWorkMode command =>
    (∃ mode, c.requestedMode command = some mode ∧ x.manager.Accepts mode) ∧
      (c.setWorkMode.handle io command x).1.succeeded = false
  | .startStream _ => False
  | .stopStream _ => c.stopStream.streamService ≠ none ∧ c.stopStream.mediaService = some ⟨true⟩
  | .work => x.Harmed io

/-- The history of a stream that has a producer: a SET_WORK_MODE has been answered
with success, and nothing has torn its pipeline down since. -/
def Producing (io : ModeIo ω) (c : StreamCommands) (x : ModeSystem ω) (events : List StreamEvent) :
    Prop :=
  ∃ before event after, events = before ++ event :: after ∧
    c.BringsUp io (c.run io x before) event ∧
      Runs.Along (c.step io) (fun x event ↦ ¬c.TearsDown io x event)
        (c.run io x (before ++ [event])) after

def setUp (shared : Shared ω) (controller : CompositeSensorController) (engine : FusionEngine)
    (modeConfig : ModeConfig) (mediaConfig : MediaConfig) (runtime : ModeRuntimeContext)
    (io : ModeIo ω) : ModeSystem ω :=
  ModeSystem.step io (.fresh shared controller engine) (.init modeConfig mediaConfig runtime)

variable {c : StreamCommands} {x : ModeSystem ω} {command : Command} {event : StreamEvent}

variable (io x) in
theorem setWorkMode_taken {mode : WorkMode} (h : c.requestedMode command = some mode) :
    (c.setWorkMode.handle io command x).1.succeeded =
        (x.manager.switchTo io mode x.world).1.succeeded ∧
      (c.setWorkMode.handle io command x).2.manager =
        (x.manager.switchTo io mode x.world).2.1 := by
  unfold requestedMode at h
  extract_lets taken at h
  split at h
  · rename_i hcond
    obtain ⟨hservice, htext, hmode⟩ := hcond
    obtain rfl := Option.some.inj h
    have hset : ModeService.setWorkMode io taken ⟨true⟩ x =
        ((x.manager.switchTo io taken x.world).1,
          ⟨(x.manager.switchTo io taken x.world).2.1,
            (x.manager.switchTo io taken x.world).2.2⟩) := by
      simp only [ModeService.setWorkMode, Bool.not_true, Bool.false_eq_true, if_false, if_neg hmode]
    unfold SetWorkModeHandler.handle
    rw [hservice]
    dsimp only
    rw [if_neg htext, if_neg hmode, hset]
    cases (x.manager.switchTo io taken x.world).1 with
    | error e => exact ⟨rfl, rfl⟩
    | ok => exact ⟨rfl, rfl⟩
  · cases h

theorem setWorkMode_refused (h : c.requestedMode command = none) :
    (c.setWorkMode.handle io command x).1.succeeded = false ∧
      (c.setWorkMode.handle io command x).2 = x := by
  unfold SetWorkModeHandler.handle
  unfold requestedMode at h
  extract_lets taken at h
  split
  · exact ⟨rfl, rfl⟩
  · rename_i service hservice
    split
    · exact ⟨rfl, rfl⟩
    · rename_i htext
      dsimp only
      split
      · exact ⟨rfl, rfl⟩
      · rename_i hmode
        have hnone : service.modeManager = false := by
          cases hm : service.modeManager with
          | false => rfl
          | true =>
            have hs : c.setWorkMode.service = some ⟨true⟩ := by
              rw [hservice, ← hm]
            rw [if_pos ⟨hs, htext, hmode⟩] at h
            cases h
        simp only [ModeService.setWorkMode, hnone, Bool.not_false, if_true]
        exact ⟨rfl, rfl⟩

theorem startStream_manager : (c.startStream.handle x).2.manager = x.manager := by
  unfold StartStreamHandler.handle
  split
  · rfl
  · split <;> rfl

theorem stopStream_torn (h : c.TearsDown io x (.stopStream command)) :
    ¬(c.step io x (.stopStream command)).HasProducer := by
  obtain ⟨hstream, hmedia⟩ := h
  have hstopped : (x.manager.stop io x.world).1.executor.currentPipeline = none :=
    ModeSwitchExecutor.stop_currentPipeline io x.manager.executor x.world
  have hpipeline : c.stopStream.stopPipeline io x =
      (.ok (), ⟨(x.manager.stop io x.world).1, (x.manager.stop io x.world).2⟩) := by
    simp only [StopStreamHandler.stopPipeline, hmedia]
    rfl
  have hmanager : (c.stopStream.handle io x).2.manager = (x.manager.stop io x.world).1 := by
    unfold StopStreamHandler.handle
    split
    · rename_i hnone
      exact absurd hnone hstream
    · simp only [hpipeline]
      split <;> rfl
  intro hp
  have hp : (c.stopStream.handle io x).2.manager.executor.HasProducer := hp
  rw [hmanager] at hp
  exact ModeSwitchExecutor.not_hasProducer hstopped hp

theorem stopStream_kept (h : ¬c.TearsDown io x (.stopStream command)) :
    (c.stopStream.handle io x).2.manager = x.manager := by
  unfold StopStreamHandler.handle
  split
  · rfl
  · rename_i service hservice
    have hstream : c.stopStream.streamService ≠ none := by simp [hservice]
    have hpipeline : (c.stopStream.stopPipeline io x).2 = x := by
      unfold StopStreamHandler.stopPipeline
      split
      · rfl
      · rename_i media hmedia
        have hm : media.modeManager = false := by
          cases hm : media.modeManager with
          | false => rfl
          | true => exact absurd ⟨hstream, by rw [hmedia, ← hm]⟩ h
        simp [MediaService.stopCurrentPipeline, hm]
    split <;> rename_i y hx <;> rw [hx] at hpipeline <;> obtain rfl : y = x := hpipeline
    · rfl
    · split <;> rfl

theorem bringsUp_produces (h : c.BringsUp io x event) : (c.step io x event).HasProducer := by
  obtain ⟨command, rfl, hok⟩ := h
  cases hm : c.requestedMode command with
  | none =>
    rw [(setWorkMode_refused hm).1] at hok
    cases hok
  | some mode =>
    obtain ⟨hs, hmanager⟩ := setWorkMode_taken io x hm
    rw [hs] at hok
    have hp : (c.setWorkMode.handle io command x).2.manager.executor.HasProducer := by
      rw [hmanager]
      by_cases ha : x.manager.Accepts mode
      · rcases ModeManager.switchTo_accepts io x.world ha with ⟨-, hp⟩ | ⟨hf, -⟩
        · exact hp
        · rw [hf] at hok
          cases hok
      · rw [(ModeManager.switchTo_refuses io x.world ha).1] at hok
        cases hok
    exact hp

theorem tearsDown_ends (h : c.TearsDown io x event) : ¬(c.step io x event).HasProducer := by
  cases event with
  | startStream command => exact absurd h id
  | stopStream command => exact stopStream_torn h
  | work => exact ModeSystem.work_harmed h
  | setWorkMode command =>
    obtain ⟨⟨mode, hm, ha⟩, hfailed⟩ := h
    obtain ⟨hs, hmanager⟩ := setWorkMode_taken io x hm
    intro hp
    have hp : (c.setWorkMode.handle io command x).2.manager.executor.HasProducer := hp
    rw [hmanager] at hp
    rcases ModeManager.switchTo_accepts io x.world ha with ⟨hok, -⟩ | ⟨-, hnone⟩
    · rw [hs, hok] at hfailed
      cases hfailed
    · exact ModeSwitchExecutor.not_hasProducer hnone hp

theorem step_kept (hup : ¬c.BringsUp io x event) (hdown : ¬c.TearsDown io x event) :
    (c.step io x event).HasProducer ↔ x.HasProducer := by
  have hsame : (c.step io x event).manager.executor = x.manager.executor →
      ((c.step io x event).HasProducer ↔ x.HasProducer) := by
    intro he
    unfold ModeSystem.HasProducer
    rw [he]
  cases event with
  | startStream command => exact hsame (congrArg ModeManager.executor startStream_manager)
  | stopStream command => exact hsame (congrArg ModeManager.executor (stopStream_kept hdown))
  | work => exact ModeSystem.work_unharmed hdown
  | setWorkMode command =>
    cases hm : c.requestedMode command with
    | none =>
      refine hsame ?_
      rw [step, (setWorkMode_refused hm).2]
    | some mode =>
      obtain ⟨hs, hmanager⟩ := setWorkMode_taken io x hm
      have ha : ¬x.manager.Accepts mode := by
        intro ha
        have hfailed : (c.setWorkMode.handle io command x).1.succeeded = false := by
          rw [← Bool.not_eq_true]
          exact fun hok ↦ hup ⟨command, rfl, hok⟩
        exact hdown ⟨⟨mode, hm, ha⟩, hfailed⟩
      refine hsame ?_
      rw [step, hmanager]
      exact (ModeManager.switchTo_refuses io x.world ha).2

theorem run_hasProducer_iff (hx : ¬x.HasProducer) (events : List StreamEvent) :
    (c.run io x events).HasProducer ↔ c.Producing io x events :=
  Runs.exec_iff_since (fun _ _ ↦ bringsUp_produces) (fun _ _ ↦ tearsDown_ends)
    (fun _ _ ↦ step_kept) hx events

/-- In a run each START_STREAM that is answered with RUNNING leaves a producer exactly
when, before each of them, a SET_WORK_MODE has succeeded and nothing has torn its
pipeline down since. -/
theorem start_produces_iff (io : ModeIo ω) (c : StreamCommands) (shared : Shared ω)
    (controller : CompositeSensorController) (engine : FusionEngine) (modeConfig : ModeConfig)
    (mediaConfig : MediaConfig) (runtime : ModeRuntimeContext) (events : List StreamEvent) :
    let x := setUp shared controller engine modeConfig mediaConfig runtime io
    Runs.Along (c.step io) (StartProduces io c) x events ↔
      ∀ before command after, events = before ++ .startStream command :: after →
        c.AnswersRunning (c.run io x before) → c.Producing io x before := by
  intro x
  have hx : ¬x.HasProducer := ModeSwitchExecutor.not_hasProducer rfl
  have hstart : ∀ (y : ModeSystem ω) (command : Command),
      (c.step io y (.startStream command)).HasProducer ↔ y.HasProducer := by
    intro y command
    refine step_kept ?_ id
    rintro ⟨other, he, -⟩
    cases he
  rw [Runs.along_iff]
  constructor
  · intro h before command after he hrunning
    have hp := h before _ after he command rfl hrunning
    rw [hstart] at hp
    exact (run_hasProducer_iff hx before).mp hp
  · rintro h before event after he command rfl hrunning
    rw [hstart]
    exact (run_hasProducer_iff hx before).mpr (h before command after he hrunning)

/-- A START_STREAM after a STOP_STREAM is answered with RUNNING, and nothing produces. -/
theorem start_without_producer :
    let mode : Command := { type := .setWorkMode, params := [("mode", "visible_only")] }
    let c : StreamCommands :=
      { setWorkMode := ⟨some ⟨true⟩⟩
        startStream := ⟨some ⟨true⟩⟩
        stopStream := ⟨some ⟨true⟩, some ⟨true⟩⟩ }
    let x := setUp { outside := () } {} {} {} {} ModeSystem.fullContext ModeSystem.quietIo
    let before := [.setWorkMode mode, .stopStream { type := .stopStream }]
    let start : StreamEvent := .startStream { type := .startStream }
    (c.setWorkMode.handle ModeSystem.quietIo mode x).1.succeeded = true ∧
      ¬Runs.Along (c.step ModeSystem.quietIo) (StartProduces ModeSystem.quietIo c) x
        (before ++ [start]) := by
  intro mode c x before start
  refine ⟨by decide +kernel, fun h ↦ ?_⟩
  have hlast := (Runs.along_iff _ _).mp h before start [] rfl
  have hnone : (c.run ModeSystem.quietIo x (before ++ [start])).manager.executor.currentPipeline =
      none := by
    decide +kernel
  have hrunning : c.AnswersRunning (c.run ModeSystem.quietIo x before) :=
    ⟨.ok [("stream", "main"), ("state", "RUNNING"), ("command", "START_STREAM")],
      by decide +kernel, by decide +kernel⟩
  refine ModeSwitchExecutor.not_hasProducer hnone ?_
  rw [run, Runs.exec_append]
  exact hlast _ rfl hrunning

end StreamCommands

end TriFusion.Commands
