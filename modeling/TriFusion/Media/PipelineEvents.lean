import TriFusion.Library.Traces
import TriFusion.Media.WorkerHandle

namespace TriFusion.Media

open Foundation Hardware Device Library

variable {ω : Type} {io : MediaIo ω}

theorem Shared.OnlyOutside.events {s s' : Shared ω} (h : s.OnlyOutside s') :
    s'.events = s.events := by rw [h]

namespace MediaPipeline

variable {p p' : MediaPipeline} {s s' : Shared ω}

theorem prepareFrameForEncoder_events (frame : VideoFrame) :
    (p.prepareFrameForEncoder io frame s).2.events = s.events := by
  unfold prepareFrameForEncoder
  split
  · rfl
  · split
    · rfl
    · split <;> rename_i hx <;> exact (Shared.outside_of_call hx).events

theorem prepareRaw_events (frame : VideoFrame) :
    (p.prepareRaw io frame s).2.events = s.events := by
  unfold prepareRaw
  split
  · exact prepareFrameForEncoder_events frame
  · rfl

theorem prepareFrameForPipeline_events (frame : VideoFrame) :
    (p.prepareFrameForPipeline io frame s).2.2.events = s.events := by
  unfold prepareFrameForPipeline
  split
  · rfl
  · split
    · split
      · split <;> rename_i hx <;> have hs := (Shared.outside_of_call hx).events
        · exact hs
        · exact (prepareRaw_events _).trans hs
      · split <;> rfl
    · exact prepareRaw_events frame

theorem pushEncoded_events (encoded : EncodedFrame) :
    (pushEncoded encoded p s).2.2.events = s.events := by
  unfold pushEncoded
  dsimp only
  split <;> rfl

theorem publishFrame_events (frame : VideoFrame) :
    (p.publishFrame io frame s).2.2.events = s.events := by
  unfold publishFrame
  split
  · dsimp only
    split
    · rfl
    · exact pushEncoded_events _
  · split
    · rfl
    · split
      · rfl
      · rw [pushEncoded_events]
        split <;> rfl

variable (io p s) in
theorem processOneFrame_events : (p.processOneFrame io s).2.2.events = s.events := by
  unfold processOneFrame
  split
  · rfl
  · split <;> rename_i hx <;> have hs := (Shared.outside_of_call hx).events
    · exact hs
    · rename_i frame s₁
      dsimp only
      generalize hp : ({ p with stats.capturedFrames := p.stats.capturedFrames + 1 } :
        MediaPipeline) = p₁
      have h₁ : (p₁.prepareFrameForPipeline io frame (s₁.record (.captured frame))).2.2.events =
          s.events := (prepareFrameForPipeline_events frame).trans hs
      split <;> rename_i hy <;> rw [hy] at h₁
      · exact h₁
      · exact (publishFrame_events _).trans h₁

theorem runLoopTurn_events : (p.runLoopTurn io s).2.events = s.events := by
  have h := processOneFrame_events io p s
  unfold runLoopTurn
  split <;> rename_i hx <;> rw [hx] at h <;> exact h

theorem publishEvent_types (type : EventType) (name : Text) :
    (p.publishEvent type name s).events.map Event.type =
      s.events.map Event.type ++ if p.context.eventBus then [type] else [] := by
  unfold publishEvent
  cases p.context.eventBus
  · exact (List.append_nil _).symm
  · exact List.map_append

variable (io p s) in
theorem start_published :
    ((p.start io s).2.2.events = s.events ∧ (p.start io s).2.1.state = p.state ∧
        (p.start io s).2.1.worker = p.worker ∧ (p.start io s).2.1.context = p.context) ∨
      (p.worker = false ∧ (p.start io s).2.1.state = .running ∧
        (p.start io s).2.1.worker = true ∧ (p.start io s).2.1.context = p.context ∧
        (p.start io s).2.2.events.map Event.type =
          s.events.map Event.type ++ if p.context.eventBus then [.pipelineStarted] else []) := by
  have hc := (p.startCaptureNodes_outside io s).events
  unfold start
  split
  · exact .inl ⟨rfl, rfl, rfl, rfl⟩
  · split <;> rename_i hx <;> rw [hx] at hc
    · exact .inl ⟨hc, rfl, rfl, rfl⟩
    · split
      · exact .inl ⟨hc, rfl, rfl, rfl⟩
      · dsimp only
        split
        · exact .inl ⟨hc, rfl, rfl, rfl⟩
        · rename_i hw
          refine .inr ⟨Bool.eq_false_iff.mpr hw, rfl, rfl, rfl, ?_⟩
          rw [publishEvent_types]
          exact congrArg (List.map Event.type · ++ _) hc

theorem stop_published :
    (p.stop io s).2.events.map Event.type = s.events.map Event.type ++
      if (p.state = .running ∨ p.state = .initialized) ∧ p.context.eventBus = true then
        [.pipelineStopped]
      else [] := by
  unfold stop
  extract_lets p₁ s₁ s₂ s₃
  have h₁ : s₁.events = s.events := releaseNodes_outside.events
  have h₂ : s₂.events = s.events := by
    unfold s₂
    split <;> exact h₁
  change s₃.events.map Event.type = _
  unfold s₃
  split
  · rename_i hstate
    have hstate : p.state = .running ∨ p.state = .initialized := hstate
    rw [publishEvent_types, h₂]
    change _ ++ (if p.context.eventBus = true then [EventType.pipelineStopped] else []) = _
    simp only [hstate, true_and]
  · rename_i hstate
    have hstate : ¬(p.state = .running ∨ p.state = .initialized) := hstate
    simp only [hstate, false_and, if_false, h₂, List.append_nil]

end MediaPipeline

namespace PipelineSystem

open MediaPipeline

variable {y : PipelineSystem ω} {call : PipelineCall}

def published (y : PipelineSystem ω) : List EventType := y.2.events.map Event.type

def Pending (y : PipelineSystem ω) : Prop := y.published.getLast? = some .pipelineStarted

instance (y : PipelineSystem ω) : Decidable y.Pending := inferInstanceAs (Decidable (_ = _))

/-- Every PipelineStopped comes right after a PipelineStarted, every other event
is a PipelineStarted and does not. -/
def Alternating (trace : List EventType) : Prop :=
  Traces.Lawful (fun before event ↦
    (event = .pipelineStarted ∧ before.getLast? ≠ some .pipelineStarted) ∨
      (event = .pipelineStopped ∧ before.getLast? = some .pipelineStarted)) trace

/-- A `stop` before any `start` finds no event bus to tell of it, and one after an
error, whether or not the pipeline has been set up anew, finds an event to end
exactly when it publishes one. -/
def Paired (y : PipelineSystem ω) (call : PipelineCall) : Prop :=
  call = .stop → y.2.crashed = false →
    (y.1.state = .initialized → (y.1.context.eventBus = true ↔ y.Pending)) ∧
      (y.1.state = .error → ¬y.Pending)

structure Heard (y : PipelineSystem ω) : Prop where
  alternating : Alternating y.published
  idle : y.1.state = .created ∨ y.1.state = .stopped → y.1.worker = false
  running : y.1.state = .running → (y.Pending ↔ y.1.context.eventBus = true)
  worker : y.Pending → y.1.worker = true

theorem Heard.same {y' : PipelineSystem ω} (h : y.Heard) (he : y'.2.events = y.2.events)
    (hw : y'.1.worker = y.1.worker) (hc : y'.1.context = y.1.context)
    (hs : y'.1.state = y.1.state) : y'.Heard := by
  have hp : y'.published = y.published := congrArg (List.map Event.type) he
  refine ⟨hp ▸ h.alternating, ?_, ?_, ?_⟩
  · rw [hs, hw]
    exact h.idle
  · unfold Pending
    rw [hs, hc, hp]
    exact h.running
  · unfold Pending
    rw [hp, hw]
    exact h.worker

theorem alternating_concat (trace : List EventType) (event : EventType) :
    Alternating (trace ++ [event]) ↔ Alternating trace ∧
      ((event = .pipelineStarted ∧ trace.getLast? ≠ some .pipelineStarted) ∨
        (event = .pipelineStopped ∧ trace.getLast? = some .pipelineStarted)) :=
  Traces.lawful_concat trace event

theorem Heard.init (h : y.Heard) (config : PipelineConfig) (context : PipelineContext) :
    Heard (y.1.init io config context y.2).2 := by
  by_cases hr : y.1.state = .running
  · rw [init_running hr]
    exact h
  · have he := (init_outside io y.1 y.2 config context).events
    have hp : published (y.1.init io config context y.2).2 = y.published :=
      congrArg (List.map Event.type) he
    obtain ⟨hstate, hworker⟩ :
        ((y.1.init io config context y.2).2.1.state = y.1.state ∨
          (y.1.init io config context y.2).2.1.state = .initialized) ∧
        (y.1.init io config context y.2).2.1.worker = y.1.worker := by
      rcases init_handle io y.1 y.2 config context with ⟨e, -, hh⟩ | ⟨-, hs, hw⟩
      · exact ⟨.inl hh.1, hh.2.1⟩
      · exact ⟨.inr hs, hw⟩
    refine ⟨hp ▸ h.alternating, fun hi ↦ ?_, fun hrun ↦ ?_, fun hpend ↦ ?_⟩
    · rw [hworker]
      rcases hstate with hs | hs <;> rw [hs] at hi
      · exact h.idle hi
      · rcases hi with hi | hi <;> cases hi
    · rcases hstate with hs | hs <;> rw [hs] at hrun
      · exact absurd hrun hr
      · cases hrun
    · rw [hworker]
      unfold Pending at hpend
      rw [hp] at hpend
      exact h.worker hpend

theorem Heard.start (h : y.Heard) : Heard (y.1.start io y.2).2 := by
  rcases start_published io y.1 y.2 with ⟨he, hs, hw, hc⟩ | ⟨hidle, hs, hw, hc, he⟩
  · exact h.same he hw hc hs
  · have hopen : ¬y.Pending := fun hp ↦ absurd (h.worker hp) (hidle ▸ Bool.false_ne_true)
    have hp : published (y.1.start io y.2).2 = y.published ++
        if y.1.context.eventBus then [.pipelineStarted] else [] := he
    have hpend : Pending (y.1.start io y.2).2 ↔ y.1.context.eventBus = true := by
      unfold Pending
      rw [hp]
      cases y.1.context.eventBus with
      | true => simp
      | false => simpa using show ¬y.published.getLast? = some .pipelineStarted from hopen
    refine ⟨?_, fun hi ↦ ?_, fun _ ↦ ?_, fun _ ↦ hw⟩
    · rw [hp]
      cases y.1.context.eventBus with
      | true => exact (alternating_concat _ _).mpr ⟨h.alternating, .inl ⟨rfl, hopen⟩⟩
      | false => simpa using h.alternating
    · rw [hs] at hi
      rcases hi with hi | hi <;> cases hi
    · rw [hc]
      exact hpend

theorem Heard.stops (h : y.Heard) (hp : y.Paired .stop) (hc : y.2.crashed = false) :
    ((y.1.state = .running ∨ y.1.state = .initialized) ∧ y.1.context.eventBus = true) ↔
      y.Pending := by
  obtain ⟨hinit, herr⟩ := hp rfl hc
  cases hs : y.1.state with
  | running => simpa using (h.running hs).symm
  | initialized => simpa using hinit hs
  | error => simpa using herr hs
  | created =>
    have hn : ¬y.Pending := fun hpend ↦
      absurd (h.worker hpend) (h.idle (.inl hs) ▸ Bool.false_ne_true)
    simpa using hn
  | stopped =>
    have hn : ¬y.Pending := fun hpend ↦
      absurd (h.worker hpend) (h.idle (.inr hs) ▸ Bool.false_ne_true)
    simpa using hn

theorem published_stop : published (y.1.stop io y.2) = y.published ++
    if (y.1.state = .running ∨ y.1.state = .initialized) ∧ y.1.context.eventBus = true then
      [.pipelineStopped]
    else [] := stop_published

theorem Heard.stop (h : y.Heard) (hp : y.Paired .stop) (hc : y.2.crashed = false) :
    Heard (y.1.stop io y.2) ∧ ¬Pending (y.1.stop io y.2) := by
  have hpub : published (y.1.stop io y.2) = y.published ++
      if y.Pending then [.pipelineStopped] else [] := by
    rw [published_stop]
    simp only [h.stops hp hc]
  have hended : ¬Pending (y.1.stop io y.2) := by
    unfold Pending
    rw [hpub]
    split
    · simp
    · rename_i hopen
      rw [List.append_nil]
      exact hopen
  refine ⟨⟨?_, fun _ ↦ rfl, fun hrun ↦ ?_, fun hpend ↦ absurd hpend hended⟩, hended⟩
  · rw [hpub]
    split
    · rename_i hopen
      exact (alternating_concat _ _).mpr ⟨h.alternating, .inr ⟨rfl, hopen⟩⟩
    · rw [List.append_nil]
      exact h.alternating
  · cases hrun

theorem Heard.work (h : y.Heard) : Heard (y.1.runLoopTurn io y.2) := by
  obtain ⟨hw, -, hstate⟩ := runLoopTurn_cases io y.1 y.2
  have he : (y.1.runLoopTurn io y.2).2.events = y.2.events := runLoopTurn_events
  have hc : (y.1.runLoopTurn io y.2).1.context = y.1.context := runLoopTurn_setup.2
  rcases hstate with ⟨-, hs⟩ | ⟨-, hs⟩
  · exact h.same he hw hc hs
  · have hp : published (y.1.runLoopTurn io y.2) = y.published :=
      congrArg (List.map Event.type) he
    refine ⟨hp ▸ h.alternating, fun hi ↦ ?_, fun hrun ↦ ?_, fun hpend ↦ ?_⟩
    · rw [hs] at hi
      rcases hi with hi | hi <;> cases hi
    · rw [hs] at hrun
      cases hrun
    · unfold Pending at hpend
      rw [hp] at hpend
      exact hw.trans (h.worker hpend)

theorem Heard.step (h : y.Heard) (hp : y.Paired call) : (step io y call).Heard := by
  by_cases hcrash : y.2.crashed = true
  · rw [step_crashed hcrash]
    exact h
  have hcrash : y.2.crashed = false := Bool.eq_false_iff.mpr hcrash
  unfold PipelineSystem.step
  simp only [hcrash, Bool.false_eq_true, if_false]
  cases call with
  | init config context => exact h.init config context
  | start => exact h.start
  | stop => exact (h.stop hp hcrash).1
  | work =>
    dsimp only
    split
    · exact h.work
    · exact h

theorem fresh_heard (mainStream : MainStream) (outside : ω) :
    (fresh mainStream [] outside).Heard where
  alternating := Traces.lawful_nil
  idle _ := rfl
  running h := by cases h
  worker h := by cases h

theorem step_stop (hc : y.2.crashed = false) : step io y .stop = y.1.stop io y.2 := by
  unfold step
  simp only [hc, Bool.false_eq_true, if_false]

variable (io) in
theorem not_alternating_of_not_paired (hn : ¬y.Paired call) :
    call = .stop ∧ y.2.crashed = false ∧
      (¬Alternating (published (step io y .stop)) ∨ Pending (step io y .stop)) := by
  unfold Paired at hn
  rw [Classical.not_imp, Classical.not_imp, not_and_or, Classical.not_imp, Classical.not_imp,
    not_not] at hn
  obtain ⟨hcall, hc, hn⟩ := hn
  refine ⟨hcall, hc, ?_⟩
  rw [step_stop hc]
  have hquiet (hpend : y.Pending)
      (h : ¬((y.1.state = .running ∨ y.1.state = .initialized) ∧ y.1.context.eventBus = true)) :
      Pending (y.1.stop io y.2) := by
    unfold Pending
    rw [published_stop, if_neg h, List.append_nil]
    exact hpend
  rcases hn with ⟨hs, hbus⟩ | ⟨hs, hpend⟩
  · by_cases hpend : y.Pending
    · exact .inr (hquiet hpend fun h ↦ hbus (iff_of_true h.2 hpend))
    · have hb : y.1.context.eventBus = true := by
        by_contra hb
        exact hbus (iff_of_false hb hpend)
      refine .inl fun halt ↦ ?_
      rw [published_stop, if_pos ⟨.inr hs, hb⟩] at halt
      rcases ((alternating_concat _ _).mp halt).2 with ⟨h, -⟩ | ⟨-, h⟩
      · cases h
      · exact hpend h
  · refine .inr (hquiet hpend fun h ↦ ?_)
    rw [hs] at h
    rcases h.1 with h | h <;> cases h

/-- The events alternate, and every PipelineStarted is answered by the next
`stop`, in all states of a run exactly when each `stop` in it is paired. -/
theorem events_alternate_iff (io : MediaIo ω) (mainStream : MainStream) (outside : ω)
    (calls : List PipelineCall) :
    (∀ reached, reached <+: calls →
        Alternating (published (run io (fresh mainStream [] outside) reached)) ∧
          ∀ before, reached = before ++ [.stop] →
            (run io (fresh mainStream [] outside) before).2.crashed = false →
            ¬Pending (run io (fresh mainStream [] outside) reached)) ↔
      Runs.Along (step io) Paired (fresh mainStream [] outside) calls := by
  have hlast (before : List PipelineCall) (call : PipelineCall) :
      run io (fresh mainStream [] outside) (before ++ [call]) =
        step io (run io (fresh mainStream [] outside) before) call :=
    Runs.exec_append (step io) _ before [call]
  constructor
  · intro h
    refine (Runs.along_iff _ _).mpr fun before call after he ↦ ?_
    by_contra hn
    obtain ⟨rfl, hc, hbad⟩ := not_alternating_of_not_paired io hn
    obtain ⟨halt, hended⟩ := h (before ++ [.stop]) ⟨after, by rw [he, List.append_assoc]; rfl⟩
    rw [hlast] at halt
    rcases hbad with hbad | hbad
    · exact hbad halt
    · refine hended before rfl hc ?_
      rw [hlast]
      exact hbad
  · intro h reached hreached
    obtain ⟨rest, rfl⟩ := hreached
    have hrun := ((Runs.along_append _ _ _).mp h).1
    have hheard (before : List PipelineCall)
        (hb : Runs.Along (step io) Paired (fresh mainStream [] outside) before) :
        (run io (fresh mainStream [] outside) before).Heard :=
      hb.invariant (fun y call hy hp ↦ hy.step hp) (fresh_heard mainStream outside)
    refine ⟨(hheard reached hrun).alternating, fun before he hc ↦ ?_⟩
    subst he
    obtain ⟨hbefore, hstop, -⟩ := (Runs.along_append _ _ _).mp hrun
    rw [hlast, step_stop hc]
    exact ((hheard before hbefore).stop hstop hc).2

/-- A pipeline that is set up and let go of without a start, and one whose worker
meets an error before it is stopped. -/
theorem events_unpaired :
    let context : PipelineContext :=
      { cameraManager := some {}, mainStream := true, eventBus := true }
    ¬Alternating (published (run unplugged (fresh {} [] ()) [.init {} context, .stop])) ∧
      (run unplugged (fresh {} [] ()) [.init {} context, .start, .work]).2.crashed = false ∧
      Pending (run unplugged (fresh {} [] ()) [.init {} context, .start, .work, .stop]) := by
  intro context
  refine ⟨fun h ↦ ?_, by decide +kernel, by decide +kernel⟩
  have hp : published (run unplugged (fresh {} [] ()) [.init {} context, .stop]) =
      [] ++ [.pipelineStopped] := by decide +kernel
  rw [hp] at h
  rcases ((alternating_concat _ _).mp h).2 with ⟨h, -⟩ | ⟨-, h⟩ <;> cases h

end PipelineSystem

end TriFusion.Media
