import TriFusion.Media.StreamSteps
import TriFusion.Mode.SwitchOrdering

namespace TriFusion.Mode

open Foundation Algorithm Hardware Device DeviceControl Media Library

variable {ω : Type} {io : ModeIo ω}

namespace ModeSwitchExecutor

variable {x : ModeSwitchExecutor} {w w' : ModeWorld ω} {plan : ModeSwitchPlan}

def admits (plan : ModeSwitchPlan) (x : ModeSwitchExecutor) : Result Unit :=
  if !x.initialized then .fail .notInitialized "mode switch executor is not initialized"
  else x.validateContext plan

/-- The start of `stop`, where the worker may still be in the middle of a turn. -/
def requestStop (x : ModeSwitchExecutor) : ModeSwitchExecutor :=
  { x with currentPipeline := x.currentPipeline.map fun p ↦ { p with stopFlag := true } }

variable (io x w) in
theorem stop_requestStop : x.requestStop.stop io w = x.stop io w := by
  obtain ⟨context, currentPipeline, initialized⟩ := x
  cases currentPipeline <;> rfl

variable (io x w plan) in
theorem execute_admitted : x.execute io plan w =
    match x.admits plan with
    | .error e => (.error e, x, w)
    | .ok () => bringUp io plan (x.requestStop.stop io w).1 (x.requestStop.stop io w).2 := by
  rw [stop_requestStop]
  unfold execute admits
  split
  · rfl
  · rfl

variable (io x w) in
theorem stop_stream :
    w.shared.mainStream.SameButState (x.stop io w).2.shared.mainStream := by
  unfold stop
  split
  · exact .refl _
  · exact (MediaPipeline.stop_stream io.media _ _).trans (MediaPipeline.stop_stream io.media _ _)

variable (io x w plan) in
theorem startPipeline_stream :
    w.shared.mainStream.SameButState (startPipeline io plan x w).2.2.shared.mainStream := by
  unfold startPipeline
  split
  · exact .refl _
  · rename_i outside _
    have hb := PipelineBuilder.build_stream io.media plan.pipeline (pipelineContext x.context)
      (w.withOutside outside).shared
    dsimp only
    split <;> rename_i hy <;> rw [hy] at hb
    · exact hb
    · rename_i pipeline shared
      have hs := hb.trans (pipeline.start_stream io.media shared)
      split <;> rename_i hz <;> rw [hz] at hs
      · exact hs.trans (MediaPipeline.stop_stream io.media _ _)
      · exact hs

variable (io x w plan) in
theorem bringUp_stream :
    w.shared.mainStream.SameButState (bringUp io plan x w).2.2.shared.mainStream := by
  have hf := MainStream.SameButState.of_eq (prepareFusion_undisturbed io w plan).mainStream
  unfold bringUp
  split <;> rename_i hp <;> rw [hp] at hf
  · exact hf
  · split <;> rename_i hq <;> have hs := hf.trans (.of_eq (switchCompositeSensor_left hq).2)
    · exact hs
    · exact hs.trans (startPipeline_stream io x _ plan)

end ModeSwitchExecutor

namespace ModeManager

variable {m : ModeManager} {w : ModeWorld ω}

variable (io) in
/-- `switchTo` up to where the running pipeline is told to stop: the plan that is to be carried
out, or the error that it returns. -/
def beginSwitch (mode : WorkMode) (m : ModeManager) (w : ModeWorld ω) :
    Result ModeSwitchPlan × ModeManager × ModeWorld ω :=
  if !m.state.initialized then
    (.fail .notInitialized "mode manager is not initialized", m, w)
  else if m.state.switching then (.fail .busy "mode manager is switching", m, w)
  else
    let (now, outside) := io.media.nowMs w.outside
    let w := w.withOutside outside
    let m := markStage .planning
      { m with state.switching := true, state.lastSwitchBeginMs := now }
    match m.planner.buildPlan mode with
    | .error e => (.rethrow e, m.abandon e, w)
    | .ok plan =>
      let m := { m with lastPlan := plan }
      let m := (m.markStage .stoppingPipeline).markStage .switchingCompositeSensor
      match m.executor.admits plan with
      | .error e => (.error e, m.abandon e, w)
      | .ok () => (.ok plan, { m with executor := m.executor.requestStop }, w)

variable (io) in
/-- The middle of `switchTo`: the worker is joined and the old pipeline destroyed. -/
def joinWorker (m : ModeManager) (w : ModeWorld ω) : ModeManager × ModeWorld ω :=
  let (executor, w) := m.executor.stop io w
  ({ m with executor := executor }, w)

variable (io) in
def finishSwitch (mode : WorkMode) (plan : ModeSwitchPlan) (m : ModeManager) (w : ModeWorld ω) :
    Result Unit × ModeManager × ModeWorld ω :=
  let (ret, executor, w) := ModeSwitchExecutor.bringUp io plan m.executor w
  let m := { m with executor := executor }
  match ret with
  | .error e => (.error e, m.abandon e, w)
  | .ok () =>
    let (m, w) := m.succeed io mode w
    (.ok (), m, w)

variable (io m w) in
theorem switchTo_eq (mode : WorkMode) : m.switchTo io mode w =
    match m.beginSwitch io mode w with
    | (.error e, m, w) => (.error e, m, w)
    | (.ok plan, m, w) =>
      (m.joinWorker io w).1.finishSwitch io mode plan (m.joinWorker io w).2 := by
  unfold switchTo beginSwitch
  split
  · rfl
  · split
    · rfl
    · unfold markStage
      dsimp only
      cases m.planner.buildPlan mode with
      | error e => rfl
      | ok plan =>
        dsimp only
        rw [ModeSwitchExecutor.execute_admitted]
        cases m.executor.admits plan with
        | error e => rfl
        | ok u => rfl

variable (io m w) in
theorem beginSwitch_stream (mode : WorkMode) :
    w.shared.mainStream.SameButState (m.beginSwitch io mode w).2.2.shared.mainStream := by
  unfold beginSwitch
  split
  · exact .refl _
  · split
    · exact .refl _
    · dsimp only
      split
      · exact .refl _
      · split <;> exact .refl _

variable (io m w) in
theorem beginSwitch_held (mode : WorkMode)
    (h : (m.beginSwitch io mode w).2.1.executor.currentPipeline = none) :
    m.executor.currentPipeline = none := by
  unfold beginSwitch at h
  split at h
  · exact h
  · split at h
    · exact h
    · dsimp only at h
      split at h
      · exact h
      · split at h
        · exact h
        · exact Option.map_eq_none_iff.mp h

variable (io m w) in
theorem finishSwitch_stream (mode : WorkMode) (plan : ModeSwitchPlan) :
    w.shared.mainStream.SameButState (m.finishSwitch io mode plan w).2.2.shared.mainStream := by
  have hb := ModeSwitchExecutor.bringUp_stream io m.executor w plan
  unfold finishSwitch
  dsimp only
  split
  · exact hb
  · unfold succeed
    dsimp only
    split <;> exact hb

end ModeManager

def ModeSystem.stream (s : ModeSystem ω) : MainStream := s.world.shared.mainStream

/-- What the owner of the manager, the worker of the pipeline and the readers of the stream do.
A `switchTo` is three steps, and a turn of the worker two: the check of `stopFlag` and the rest,
in which it may push a frame. -/
inductive ViewerCall
  | init (modeConfig : ModeConfig) (mediaConfig : MediaConfig) (runtime : ModeRuntimeContext)
  | stop
  | beginSwitch (mode : WorkMode)
  | joinWorker
  | finishSwitch
  | enterTurn
  | finishTurn
  | waitFrame (timeoutMs : Int32)
  | latestFrame
  deriving DecidableEq

/-- How far the `switchTo` has come that holds the mutex of the manager. -/
inductive SwitchProgress
  | idle
  | stopping (mode : WorkMode) (plan : ModeSwitchPlan)
  | bringingUp (mode : WorkMode) (plan : ModeSwitchPlan)
  deriving DecidableEq

/-- A manager and its stream with their past: the frames the stream has accepted, how many
there were when a pipeline was last stopped, and how many of them the last successful switch
has made stale. -/
structure ViewedSystem (ω : Type) where
  modes : ModeSystem ω
  progress : SwitchProgress := .idle
  inTurn : Bool := false
  accepted : List EncodedFrame
  stoppedAt : Option ℕ := none
  stale : ℕ := 0

namespace ViewedSystem

variable {y : ViewedSystem ω} {call : ViewerCall}

def stream (y : ViewedSystem ω) : MainStream := y.modes.stream

def pipeline (y : ViewedSystem ω) : Option MediaPipeline :=
  y.modes.manager.executor.currentPipeline

def move (modes : ModeSystem ω) (y : ViewedSystem ω) : ViewedSystem ω :=
  { y with modes := modes, accepted := y.accepted ++ y.stream.acceptedBetween modes.stream }

def noteStop (y y' : ViewedSystem ω) : ViewedSystem ω :=
  { y' with stoppedAt := if y.pipeline = none then y'.stoppedAt else some y'.accepted.length }

variable (io) in
/-- A call that needs the mutex waits for the `switchTo` that holds it, and the join for the
turn the worker is in. -/
def step (y : ViewedSystem ω) : ViewerCall → ViewedSystem ω
  | .init modeConfig mediaConfig runtime =>
    if y.progress ≠ .idle then y
    else y.move (y.modes.step io (.init modeConfig mediaConfig runtime))
  | .stop =>
    if y.progress ≠ .idle ∨ y.inTurn then y else y.noteStop (y.move (y.modes.step io .stop))
  | .beginSwitch mode =>
    if y.progress ≠ .idle then y
    else
      match y.modes.manager.beginSwitch io mode y.modes.world with
      | (.error _, manager, world) => y.move { manager := manager, world := world }
      | (.ok plan, manager, world) =>
        { y.move { manager := manager, world := world } with progress := .stopping mode plan }
  | .joinWorker =>
    match y.progress with
    | .stopping mode plan =>
      if y.inTurn then y
      else
        let (manager, world) := y.modes.manager.joinWorker io y.modes.world
        { y.noteStop (y.move { manager := manager, world := world }) with
          progress := .bringingUp mode plan }
    | _ => y
  | .finishSwitch =>
    match y.progress with
    | .bringingUp mode plan =>
      let (ret, manager, world) := y.modes.manager.finishSwitch io mode plan y.modes.world
      { y.move { manager := manager, world := world } with
        progress := .idle
        stale := if ret.succeeded then y.stoppedAt.getD y.stale else y.stale }
    | _ => y
  | .enterTurn =>
    match y.pipeline with
    | none => y
    | some pipeline =>
      if !y.modes.world.shared.crashed && pipeline.worker && !pipeline.stopFlag then
        { y with inTurn := true }
      else y
  | .finishTurn =>
    match y.pipeline with
    | none => y
    | some pipeline =>
      if y.inTurn then
        let (pipeline, shared) := pipeline.runLoopTurn io.media y.modes.world.shared
        { y.move
            { manager := { y.modes.manager with executor.currentPipeline := some pipeline }
              world := { y.modes.world with shared := shared } } with inTurn := false }
      else y
  | .waitFrame timeoutMs =>
    match y.stream.waitFrame timeoutMs with
    | none => y
    | some (_, stream) => { y with modes.world.shared.mainStream := stream }
  | .latestFrame => y

variable (io) in
def run (y : ViewedSystem ω) (calls : List ViewerCall) : ViewedSystem ω :=
  Runs.exec (step io) y calls

def fresh (shared : Shared ω) (controller : CompositeSensorController) (engine : FusionEngine) :
    ViewedSystem ω where
  modes := .fresh shared controller engine
  accepted := shared.mainStream.frames

variable (io) in
/-- Where nothing comes in between, the three parts are the call. -/
theorem switch_uninterrupted (mode : WorkMode) (hi : y.progress = .idle) (ht : y.inTurn = false) :
    (run io y [.beginSwitch mode, .joinWorker, .finishSwitch]).modes =
      y.modes.step io (.switchTo mode) := by
  unfold ModeSystem.step
  dsimp only
  rw [ModeManager.switchTo_eq]
  unfold run
  simp only [Runs.exec_cons, Runs.exec_nil]
  rw [show step io y (.beginSwitch mode) = _ from if_neg (not_not.mpr hi)]
  rcases hb : y.modes.manager.beginSwitch io mode y.modes.world with ⟨ret, manager, world⟩
  cases ret with
  | error e =>
    have hj : step io (y.move ⟨manager, world⟩) .joinWorker = y.move ⟨manager, world⟩ := by
      simp only [step, move, hi]
    have hf : step io (y.move ⟨manager, world⟩) .finishSwitch = y.move ⟨manager, world⟩ := by
      simp only [step, move, hi]
    dsimp only
    rw [hj, hf]
    rfl
  | ok plan =>
    simp only [step, move, noteStop, ht, Bool.false_eq_true, ↓reduceIte]

variable (io) in
theorem turn_uninterrupted (ht : y.inTurn = false) :
    (run io y [.enterTurn, .finishTurn]).modes = y.modes.step io .work := by
  obtain ⟨⟨⟨planner, ⟨context, currentPipeline, initialized⟩, state, lastPlan⟩, world⟩, progress,
    inTurn, accepted, stoppedAt, stale⟩ := y
  obtain rfl : inTurn = false := ht
  cases currentPipeline with
  | none => rfl
  | some p =>
    unfold run
    simp only [Runs.exec_cons, Runs.exec_nil, step, pipeline, ModeSystem.step, ModeSystem.work,
      PipelineSystem.step]
    cases world.shared.crashed with
    | true => rfl
    | false => cases p.worker <;> cases p.stopFlag <;> rfl

/-- A reader can now be given this frame, which was accepted after `number` others. -/
inductive Offers (y : ViewedSystem ω) (number : ℕ) (frame : EncodedFrame) : Prop
  | waiting (timeoutMs : Int32) (rest : MainStream)
      (h : y.stream.waitFrame timeoutMs = some (some frame, rest))
      (hn : number + 1 + rest.frames.length = y.accepted.length)
  | latest (h : y.stream.latestFrame = some frame) (hn : number + 1 = y.accepted.length)

variable (io) in
def Succeeds (y : ViewedSystem ω) : Prop :=
  ∃ mode plan, y.progress = .bringingUp mode plan ∧
    (y.modes.manager.finishSwitch io mode plan y.modes.world).1.succeeded = true

/-- A switch that succeeds goes on from the stop with an empty stream, once a pipeline has been
stopped. -/
def Drained (io : ModeIo ω) (y : ViewedSystem ω) (call : ViewerCall) : Prop :=
  call = .finishSwitch → y.Succeeds io → y.stoppedAt ≠ none → y.stream.frames = []

def JoinedEmpty (y : ViewedSystem ω) (call : ViewerCall) : Prop :=
  call = .joinWorker → y.inTurn = false → y.stream.frames = []

/-- The stream holds the last frames it has accepted; while no pipeline is held none has been
accepted since the last was stopped; and none is held after the join. -/
structure Numbered (y : ViewedSystem ω) : Prop where
  last : y.stream.frames <:+ y.accepted
  idle : y.pipeline = none → ∀ n, y.stoppedAt = some n → n = y.accepted.length
  joined : ∀ mode plan, y.progress = .bringingUp mode plan → y.pipeline = none

def Fresh (y : ViewedSystem ω) : Prop := y.stale + y.stream.frames.length ≤ y.accepted.length

theorem takeFrame_drop (s : MainStream) : ∃ n, s.takeFrame.2.frames = s.frames.drop n ∧
    s.takeFrame.1.toList ++ s.takeFrame.2.frames <:+ s.frames := by
  obtain ⟨n, -, he⟩ := s.takeFrame_eq
  have hd := List.drop_suffix n s.frames
  rw [he]
  refine ⟨n + 1, List.tail_drop, ?_⟩
  cases hf : s.frames.drop n with
  | nil => exact List.nil_suffix
  | cons frame rest =>
    rw [hf] at hd
    exact hd

theorem waitFrame_takes {timeoutMs : Int32} {frame : Option EncodedFrame} {s rest : MainStream}
    (h : s.waitFrame timeoutMs = some (frame, rest)) : s.takeFrame = (frame, rest) := by
  unfold MainStream.waitFrame at h
  split at h
  · exact nomatch h
  · exact Option.some.inj h

theorem Offers.frames {number : ℕ} {frame : EncodedFrame} (h : y.Offers number frame) :
    ∃ rest, frame :: rest <:+ y.stream.frames ∧ number + 1 + rest.length = y.accepted.length := by
  cases h with
  | waiting timeoutMs rest hw hn =>
    obtain ⟨-, -, hs⟩ := takeFrame_drop y.stream
    rw [waitFrame_takes hw] at hs
    exact ⟨rest.frames, hs, hn⟩
  | latest hl hn =>
    obtain ⟨before, hb⟩ := List.getLast?_eq_some_iff.mp hl
    exact ⟨[], ⟨before, hb.symm⟩, hn⟩

theorem Offers.accepted {number : ℕ} {frame : EncodedFrame} (h : y.Offers number frame)
    (hl : y.stream.frames <:+ y.accepted) : y.accepted[number]? = some frame := by
  obtain ⟨rest, hr, hn⟩ := h.frames
  obtain ⟨before, hb⟩ := hr.trans hl
  have hlen := congrArg List.length hb
  rw [List.length_append, List.length_cons] at hlen
  obtain rfl : before.length = number := by omega
  rw [← hb, List.getElem?_append_right le_rfl, Nat.sub_self]
  rfl

theorem Offers.stale {number : ℕ} {frame : EncodedFrame} (h : y.Offers number frame)
    (hf : y.Fresh) : y.stale ≤ number := by
  obtain ⟨rest, hr, hn⟩ := h.frames
  have hlen := hr.length_le
  rw [List.length_cons] at hlen
  unfold Fresh at hf
  omega

/-- What a step can do. A call that waits, or that finds nothing to do, changes nothing. -/
inductive Stepped (io : ModeIo ω) (y : ViewedSystem ω) : ViewerCall → ViewedSystem ω → Prop
  | same {call : ViewerCall} (hc : call = .finishSwitch → ¬y.Succeeds io) : Stepped io y call y
  | settles {call : ViewerCall} (modes : ModeSystem ω) (progress : SwitchProgress)
      (hc : call ≠ .finishSwitch) (hs : y.stream.SameButState modes.stream)
      (hheld : modes.manager.executor.currentPipeline = none → y.pipeline = none)
      (hp : ∀ mode plan, progress ≠ .bringingUp mode plan) :
      Stepped io y call { y.move modes with progress := progress }
  | stops {call : ViewerCall} (modes : ModeSystem ω) (progress : SwitchProgress)
      (hc : call ≠ .finishSwitch) (hs : y.stream.SameButState modes.stream)
      (hheld : modes.manager.executor.currentPipeline = none)
      (hp : ∀ mode plan, progress = .bringingUp mode plan →
        call = .joinWorker ∧ y.inTurn = false) :
      Stepped io y call { y.noteStop (y.move modes) with progress := progress }
  | finishes (modes : ModeSystem ω) (stale : ℕ) {mode : WorkMode} {plan : ModeSwitchPlan}
      (hs : y.stream.SameButState modes.stream) (hp : y.progress = .bringingUp mode plan)
      (hok : y.Succeeds io → stale = y.stoppedAt.getD y.stale)
      (hfailed : ¬y.Succeeds io → stale = y.stale) :
      Stepped io y .finishSwitch { y.move modes with progress := .idle, stale := stale }
  | enters : Stepped io y .enterTurn { y with inTurn := true }
  | turns (modes : ModeSystem ω) (n : ℕ) (new : List EncodedFrame) (hheld : y.pipeline ≠ none)
      (hrunning : modes.manager.executor.currentPipeline ≠ none)
      (hf : modes.stream.frames = y.stream.frames.drop n ++ new)
      (ha : y.stream.acceptedBetween modes.stream = new) :
      Stepped io y .finishTurn { y.move modes with inTurn := false }
  | reads (timeoutMs : Int32) (stream : MainStream) (n : ℕ)
      (hf : stream.frames = y.stream.frames.drop n) :
      Stepped io y (.waitFrame timeoutMs) { y with modes.world.shared.mainStream := stream }

variable (io) in
theorem turn_stepped {p : MediaPipeline} (hp : y.pipeline = some p) :
    let turned := p.runLoopTurn io.media y.modes.world.shared
    y.Stepped io .finishTurn
      { y.move
          { manager := { y.modes.manager with executor.currentPipeline := some turned.1 }
            world := { y.modes.world with shared := turned.2 } } with
        inTurn := false } := by
  intro turned
  have hheld : y.pipeline ≠ none := by simp [hp]
  have hsame (hs : turned.2.mainStream = y.stream) : turned.2.mainStream.frames =
      y.stream.frames.drop 0 ++ [] := by
    rw [List.drop_zero, List.append_nil, hs]
  rcases MediaPipeline.runLoopTurn_stream io.media p y.modes.world.shared with hs | ⟨frame, hs⟩
  · exact .turns _ 0 [] hheld (by simp) (hsame hs)
      (MainStream.SameButState.of_eq hs).acceptedBetween
  · rcases y.stream.push_cases frame with hpush | ⟨n, hf, ha⟩
    · exact .turns _ 0 [] hheld (by simp) (hsame (hs.trans hpush))
        (MainStream.SameButState.of_eq (hs.trans hpush)).acceptedBetween
    · exact .turns _ n [frame] hheld (by simp) ((congrArg MainStream.frames hs).trans hf)
        ((congrArg y.stream.acceptedBetween hs).trans ha)

variable (io y call) in
theorem step_stepped : y.Stepped io call (step io y call) := by
  cases call with
  | init modeConfig mediaConfig runtime =>
    unfold step
    dsimp only
    split
    · exact .same (by simp)
    · rename_i hidle
      refine .settles _ y.progress (by simp) (.refl _) (fun hp ↦ ?_) ?_
      · unfold ModeSystem.step ModeManager.init at hp
        dsimp only at hp
        split at hp <;> exact hp
      · exact fun _ _ hb ↦ nomatch hb.symm.trans (not_not.mp hidle)
  | stop =>
    have hs := ModeSwitchExecutor.stop_stream io y.modes.manager.executor y.modes.world
    unfold step
    dsimp only
    split
    · exact .same (by simp)
    · rename_i hidle
      refine .stops _ y.progress (by simp) hs (ModeSwitchExecutor.stop_currentPipeline io _ _) ?_
      exact fun _ _ hb ↦ nomatch hb.symm.trans (not_not.mp (not_or.mp hidle).1)
  | beginSwitch mode =>
    have hs := ModeManager.beginSwitch_stream io y.modes.manager y.modes.world mode
    have hheld := ModeManager.beginSwitch_held io y.modes.manager y.modes.world mode
    unfold step
    dsimp only
    split
    · exact .same (by simp)
    · rename_i hidle
      split <;> rename_i hx <;> rw [hx] at hs hheld
      · refine .settles _ y.progress (by simp) hs hheld ?_
        exact fun _ _ hb ↦ nomatch hb.symm.trans (not_not.mp hidle)
      · exact .settles _ _ (by simp) hs hheld fun _ _ hb ↦ nomatch hb
  | joinWorker =>
    have hs := ModeSwitchExecutor.stop_stream io y.modes.manager.executor y.modes.world
    unfold step
    dsimp only
    split
    · split
      · exact .same (by simp)
      · rename_i hturn
        exact .stops _ _ (by simp) hs (ModeSwitchExecutor.stop_currentPipeline io _ _)
          fun _ _ _ ↦ ⟨rfl, Bool.eq_false_iff.mpr hturn⟩
    · exact .same (by simp)
  | finishSwitch =>
    unfold step
    dsimp only
    split
    · rename_i mode plan hp
      refine .finishes _ _
        (ModeManager.finishSwitch_stream io y.modes.manager y.modes.world mode plan) hp ?_ ?_
      · rintro ⟨mode', plan', hp', hok⟩
        cases hp.symm.trans hp'
        exact if_pos hok
      · exact fun hfailed ↦ if_neg fun hok ↦ hfailed ⟨mode, plan, hp, hok⟩
    · rename_i hnone
      exact .same fun _ ⟨mode, plan, hp, _⟩ ↦ hnone mode plan hp
  | enterTurn =>
    unfold step
    dsimp only
    split
    · exact .same (by simp)
    · split
      · exact .enters
      · exact .same (by simp)
  | finishTurn =>
    unfold step
    dsimp only
    split
    · exact .same (by simp)
    · rename_i hp
      split
      · exact turn_stepped io hp
      · exact .same (by simp)
  | waitFrame timeoutMs =>
    unfold step
    dsimp only
    split
    · exact .same (by simp)
    · rename_i hw
      obtain ⟨n, hn, -⟩ := takeFrame_drop y.stream
      rw [waitFrame_takes hw] at hn
      exact .reads timeoutMs _ n hn
  | latestFrame => exact .same (by simp)

theorem move_accepted {modes : ModeSystem ω} (hs : y.stream.SameButState modes.stream) :
    (y.move modes).accepted = y.accepted := by
  unfold move
  dsimp only
  rw [show y.stream.acceptedBetween modes.stream = [] from hs.acceptedBetween, List.append_nil]

namespace Stepped

variable {y' : ViewedSystem ω}

theorem frames (h : y.Stepped io call y') :
    ∃ n new, y'.stream.frames = y.stream.frames.drop n ++ new ∧
      y'.accepted = y.accepted ++ new ∧ (call ≠ .finishTurn → new = []) := by
  have hkept {y' : ViewedSystem ω} (n : ℕ) (hf : y'.stream.frames = y.stream.frames.drop n)
      (ha : y'.accepted = y.accepted) :
      ∃ n new, y'.stream.frames = y.stream.frames.drop n ++ new ∧
        y'.accepted = y.accepted ++ new ∧ (call ≠ .finishTurn → new = []) :=
    ⟨n, [], by rw [hf, List.append_nil], by rw [ha, List.append_nil], fun _ ↦ rfl⟩
  cases h with
  | same => exact hkept 0 rfl rfl
  | settles modes progress hc hs => exact hkept 0 hs.frames (move_accepted hs)
  | stops modes progress hc hs => exact hkept 0 hs.frames (move_accepted hs)
  | finishes modes stale hs => exact hkept 0 hs.frames (move_accepted hs)
  | enters => exact hkept 0 rfl rfl
  | turns modes n new hheld hrunning hf ha =>
    exact ⟨n, new, hf, congrArg (y.accepted ++ ·) ha, fun ht ↦ absurd rfl ht⟩
  | reads timeoutMs stream n hf => exact hkept n hf rfl

theorem progress (h : y.Stepped io call y') {mode : WorkMode} {plan : ModeSwitchPlan}
    (hb : y'.progress = .bringingUp mode plan) :
    y.progress = .bringingUp mode plan ∨ call = .joinWorker ∧ y.inTurn = false := by
  cases h with
  | same => exact .inl hb
  | settles modes progress hc hs hheld hp => exact absurd hb (hp mode plan)
  | stops modes progress hc hs hheld hp => exact .inr (hp mode plan hb)
  | finishes => exact nomatch hb
  | enters => exact .inl hb
  | turns => exact .inl hb
  | reads => exact .inl hb

theorem idle (h : y.Stepped io call y') (hy : y.Numbered) (hp : y'.pipeline = none) (n : ℕ)
    (hn : y'.stoppedAt = some n) : n = y'.accepted.length := by
  cases h with
  | same => exact hy.idle hp n hn
  | settles modes progress hc hs hheld =>
    exact (hy.idle (hheld hp) n hn).trans (congrArg List.length (move_accepted hs).symm)
  | stops modes progress hc hs =>
    unfold noteStop at hn ⊢
    dsimp only at hn ⊢
    split at hn
    · rename_i hnone
      exact (hy.idle hnone n hn).trans (congrArg List.length (move_accepted hs).symm)
    · exact (Option.some.inj hn).symm
  | finishes modes stale hs hprogress =>
    exact (hy.idle (hy.joined _ _ hprogress) n hn).trans
      (congrArg List.length (move_accepted hs).symm)
  | enters => exact hy.idle hp n hn
  | turns modes new n hheld hrunning => exact absurd hp hrunning
  | reads => exact hy.idle hp n hn

theorem joined (h : y.Stepped io call y') (hy : y.Numbered) (mode : WorkMode)
    (plan : ModeSwitchPlan) (hb : y'.progress = .bringingUp mode plan) : y'.pipeline = none := by
  cases h with
  | same => exact hy.joined mode plan hb
  | settles modes progress hc hs hheld hp => exact absurd hb (hp mode plan)
  | stops modes progress hc hs hheld => exact hheld
  | finishes => exact nomatch hb
  | enters => exact hy.joined mode plan hb
  | turns modes n new hheld => exact absurd (hy.joined mode plan hb) hheld
  | reads => exact hy.joined mode plan hb

theorem stale (h : y.Stepped io call y') (hc : ¬(call = .finishSwitch ∧ y.Succeeds io)) :
    y'.stale = y.stale := by
  cases h with
  | finishes modes stale hs hp hok hfailed => exact hfailed fun hs ↦ hc ⟨rfl, hs⟩
  | same | settles | stops | enters | turns | reads => rfl

/-- A successful switch makes all frames stale that were accepted before the last stop. -/
theorem finished (h : y.Stepped io .finishSwitch y') (hy : y.Numbered) (hs : y.Succeeds io) :
    y'.stream.frames = y.stream.frames ∧ y'.accepted = y.accepted ∧
      y'.stale = if y.stoppedAt = none then y.stale else y.accepted.length := by
  cases h with
  | same hc => exact absurd hs (hc rfl)
  | settles modes progress hc => exact absurd rfl hc
  | stops modes progress hc => exact absurd rfl hc
  | finishes modes stale hsame hp hok hfailed =>
    have hidle := hy.idle (hy.joined _ _ hp)
    refine ⟨hsame.frames, move_accepted hsame, (hok hs).trans ?_⟩
    cases hb : y.stoppedAt with
    | none => rfl
    | some n => exact hidle n hb

end Stepped

theorem Numbered.step (h : y.Numbered) : (step io y call).Numbered := by
  have hstep := step_stepped io y call
  refine ⟨?_, hstep.idle h, hstep.joined h⟩
  obtain ⟨n, new, hf, ha, -⟩ := hstep.frames
  obtain ⟨earlier, he⟩ := (List.drop_suffix n _).trans h.last
  rw [hf, ha]
  exact ⟨earlier, by rw [← List.append_assoc, he]⟩

theorem step_undrained (h : y.Numbered) (hd : ¬y.Drained io call) :
    ∃ number frame, (step io y call).Offers number frame ∧ number < (step io y call).stale := by
  unfold Drained at hd
  push Not at hd
  obtain ⟨rfl, hs, hstopped, hne⟩ := hd
  obtain ⟨hframes, haccepted, hstale⟩ := (step_stepped io y .finishSwitch).finished h hs
  rw [if_neg hstopped] at hstale
  have hpos := List.length_pos_iff.mpr hne
  have hle := h.last.length_le
  obtain ⟨frame, hg⟩ := Option.ne_none_iff_exists'.mp (mt List.getLast?_eq_none_iff.mp hne)
  refine ⟨y.accepted.length - 1, frame, .latest ?_ ?_, ?_⟩
  · unfold MainStream.latestFrame
    rw [hframes, hg]
  · rw [haccepted]
    omega
  · rw [hstale]
    omega

theorem Fresh.step (hn : y.Numbered) (h : y.Fresh) (hd : y.Drained io call) :
    (step io y call).Fresh := by
  have hstep := step_stepped io y call
  by_cases hs : call = .finishSwitch ∧ y.Succeeds io
  · obtain ⟨rfl, hs⟩ := hs
    obtain ⟨hframes, haccepted, hstale⟩ := hstep.finished hn hs
    unfold Fresh
    rw [hframes, haccepted, hstale]
    split
    · exact h
    · rename_i hstopped
      rw [hd rfl hs hstopped]
      exact le_rfl
  · obtain ⟨n, new, hf, ha, -⟩ := hstep.frames
    unfold Fresh at h ⊢
    rw [hstep.stale hs, hf, ha, List.length_append, List.length_append, List.length_drop]
    omega

theorem fresh_numbered (shared : Shared ω) (controller : CompositeSensorController)
    (engine : FusionEngine) : (fresh shared controller engine).Numbered :=
  ⟨List.suffix_rfl, (fun _ _ h ↦ nomatch h), (fun _ _ h ↦ nomatch h)⟩

theorem fresh_fresh (shared : Shared ω) (controller : CompositeSensorController)
    (engine : FusionEngine) : (fresh shared controller engine).Fresh :=
  (Nat.zero_add _).le

def EmptySince (y : ViewedSystem ω) : Prop :=
  ∀ mode plan, y.progress = .bringingUp mode plan → y.stream.frames = []

/-- A stream that is empty at the join stays so, for no worker is there to push. -/
theorem EmptySince.step (h : y.Numbered) (he : y.EmptySince) (hj : y.JoinedEmpty call) :
    (step io y call).EmptySince := by
  intro mode plan hb
  have hstep := step_stepped io y call
  have hempty : y.stream.frames = [] := by
    rcases hstep.progress hb with hp | ⟨hc, ht⟩
    · exact he mode plan hp
    · exact hj hc ht
  by_cases ht : call = .finishTurn
  · subst ht
    have hp := (hstep.progress hb).resolve_right (by simp)
    have hnone : ViewedSystem.step io y .finishTurn = y := by
      unfold ViewedSystem.step
      dsimp only
      rw [h.joined mode plan hp]
    rw [hnone]
    exact hempty
  · obtain ⟨n, new, hf, -, hnew⟩ := hstep.frames
    rw [hf, hempty, hnew ht, List.drop_nil, List.append_nil]

/-- The frames the readers are given are numbered as they were accepted. In no state of a run is
a reader offered a stale one exactly when, once a pipeline has been stopped, every switch that
succeeds goes on from the stop with an empty stream; and for that it is enough that every worker
which is joined leaves an empty stream. -/
theorem no_stale_iff (io : ModeIo ω) (shared : Shared ω) (controller : CompositeSensorController)
    (engine : FusionEngine) (calls : List ViewerCall) :
    let start := fresh shared controller engine
    (∀ reached, reached <+: calls → ∀ number frame,
        (run io start reached).Offers number frame →
        (run io start reached).accepted[number]? = some frame) ∧
      ((∀ reached, reached <+: calls → ∀ number frame,
          (run io start reached).Offers number frame → (run io start reached).stale ≤ number) ↔
        Runs.Along (step io) (fun y call ↦ y.Drained io call) start calls) ∧
      (Runs.Along (step io) (fun y call ↦ y.JoinedEmpty call) start calls →
        Runs.Along (step io) (fun y call ↦ y.Drained io call) start calls) := by
  intro start
  have hnum (reached : List ViewerCall) : (run io start reached).Numbered :=
    Runs.exec_invariant (fun y call h ↦ Numbered.step h) (fresh_numbered shared controller engine)
      reached
  refine ⟨fun reached _ number frame ho ↦ ho.accepted (hnum reached).last, ⟨?_, ?_⟩, ?_⟩
  · intro h
    refine (Runs.along_iff _ _).mpr fun before call after he ↦ ?_
    by_contra hd
    obtain ⟨number, frame, ho, hlt⟩ := step_undrained (hnum before) hd
    have hr := h (before ++ [call]) ⟨after, by rw [he, List.append_assoc]; rfl⟩ number frame
    unfold run at hr
    rw [Runs.exec_append] at hr
    exact absurd (hr ho) (Nat.not_le.mpr hlt)
  · rintro h reached ⟨rest, rfl⟩ number frame ho
    have hboth := ((Runs.along_append _ _ _).mp h).1.invariant
      (I := fun y : ViewedSystem ω ↦ y.Numbered ∧ y.Fresh)
      (fun y call hy hd ↦ ⟨hy.1.step, hy.2.step hy.1 hd⟩)
      ⟨fresh_numbered shared controller engine, fresh_fresh shared controller engine⟩
    exact ho.stale hboth.2
  · intro h
    refine (Runs.along_iff _ _).mpr fun before call after he hc hs _ ↦ ?_
    rw [he] at h
    have hempty := ((Runs.along_append _ _ _).mp h).1.invariant
      (I := fun y : ViewedSystem ω ↦ y.Numbered ∧ y.EmptySince)
      (fun y call hy hj ↦ ⟨hy.1.step, hy.2.step hy.1 hj⟩)
      ⟨fresh_numbered shared controller engine, (fun _ _ h ↦ nomatch h)⟩
    obtain ⟨mode, plan, hp, -⟩ := hs
    exact hempty.2 mode plan hp

def mjpegIo : ModeIo Unit :=
  { ModeSystem.quietIo with
    media := { ModeSystem.quietIo.media with
      readFrame := fun _ _ w ↦
        (.ok { sequence := 7, pixelformat := 0x47504A4D, bytes := [0xFF], receiveTimestampMs := 1 },
          w) } }

/-- The switch to thermal mode begins on an empty stream, while the worker is in a turn; its
frame is still there when thermal mode has begun. -/
theorem old_frame_survives :
    let calls : List ViewerCall :=
      [.init {} {} ModeSystem.fullContext, .beginSwitch .visibleOnly, .joinWorker, .finishSwitch,
        .enterTurn, .beginSwitch .thermalOnly, .finishTurn, .joinWorker, .finishSwitch]
    let y := run mjpegIo (fresh { outside := () } ModeSystem.readyController {}) calls
    y.modes.manager.state.currentMode = .thermalOnly ∧
      y.modes.manager.state.stage = .running ∧ y.stale = 1 ∧
      y.stream.latestFrame.map EncodedFrame.sequence = some 7 ∧
      (y.stream.waitFrame 100).map (fun r ↦ r.1.map EncodedFrame.sequence) = some (some 7) := by
  decide +kernel

end ViewedSystem

end TriFusion.Mode
