import TriFusion.Mode.SwitchOrdering

namespace TriFusion.Mode

open Foundation Algorithm Hardware Device DeviceControl Media

variable {ω : Type} {io : ModeIo ω}

/-- Between calls no switch is under way, and a pipeline is held only by a
manager that has been set up with a stream. -/
structure Settled (m : ModeManager) : Prop where
  switching : m.state.switching = false
  held : ∀ pipeline, m.executor.currentPipeline = some pipeline →
    m.state.initialized = true ∧ m.executor.initialized = true ∧
      pipeline.context.mainStream = true

namespace ModeSwitchExecutor

variable {x : ModeSwitchExecutor} {w : ModeWorld ω} {plan : ModeSwitchPlan}

theorem validateContext_mainStream (h : x.validateContext plan = .ok ()) :
    x.context.mainStream = true := by
  unfold validateContext at h
  split at h
  · exact nomatch h
  · split at h
    · exact nomatch h
    · rename_i hm
      simpa using hm

theorem stop_initialized : (x.stop io w).1.initialized = x.initialized ∧
    (x.stop io w).1.context = x.context := by
  unfold stop
  split <;> exact ⟨rfl, rfl⟩

theorem bringUp_held {x' : ModeSwitchExecutor} {w' : ModeWorld ω}
    (h : bringUp io plan x w = (.ok (), x', w')) :
    ∃ pipeline : MediaPipeline, x' = { x with currentPipeline := some pipeline } ∧
      pipeline.context = pipelineContext x.context := by
  unfold bringUp at h
  split at h
  · exact nomatch (Prod.mk.inj h).1
  · split at h
    · exact nomatch (Prod.mk.inj h).1
    · obtain ⟨pipeline, hx, -, hc, -⟩ := startPipeline_ok h
      exact ⟨pipeline, hx, hc⟩

theorem execute_failed {e : Status} {x' : ModeSwitchExecutor} {w' : ModeWorld ω}
    {pipeline : MediaPipeline} (hp : x.currentPipeline = some pipeline)
    (hs : pipeline.context.mainStream = true) (hi : x.initialized = true)
    (h : x.execute io plan w = (.error e, x', w')) :
    (x.validateContext plan = .error e ∧ x' = x ∧ w' = w) ∨
      (x.validateContext plan = .ok () ∧ x'.currentPipeline = none ∧
        w'.shared.mainStream.state = .stopped ∧
        ModeWorld.SensorLeft plan (w.record .pipelineStopped) w') := by
  unfold execute at h
  simp only [hi, Bool.not_true, Bool.false_eq_true, if_false] at h
  split at h <;> rename_i hv
  · obtain ⟨he, hr⟩ := Prod.mk.inj h
    obtain ⟨rfl, rfl⟩ := Prod.mk.inj hr
    exact .inl ⟨hv.trans he, rfl, rfl⟩
  · obtain ⟨hx, ha, hc, hst⟩ := stop_some io w hp
    obtain ⟨rfl, hl, hm⟩ := bringUp_failed (stop_currentPipeline io _ _) h
    have hcm : (x.stop io w).2.currentMode = w.currentMode := by
      unfold ModeWorld.currentMode
      rw [hc]
    exact .inr ⟨hv, stop_currentPipeline io _ _, hm (hst hs), hl.before ha hcm⟩

theorem execute_initialized : (x.execute io plan w).2.1.initialized = x.initialized := by
  unfold execute
  split
  · rfl
  · split
    · rfl
    · dsimp only
      cases hb : bringUp io plan (x.stop io w).1 (x.stop io w).2 with
      | mk ret rest =>
        obtain ⟨x', w'⟩ := rest
        cases ret with
        | error e =>
          obtain ⟨rfl, -⟩ := bringUp_failed (stop_currentPipeline io _ _) hb
          exact stop_initialized.1
        | ok =>
          obtain ⟨pipeline, rfl, -⟩ := bringUp_held hb
          exact stop_initialized.1

theorem execute_held {pipeline : MediaPipeline}
    (h : (x.execute io plan w).2.1.currentPipeline = some pipeline) :
    x.currentPipeline = some pipeline ∨
      (x.initialized = true ∧ pipeline.context.mainStream = true) := by
  unfold execute at h
  split at h
  · exact .inl h
  · rename_i hi
    split at h
    · exact .inl h
    · rename_i hv
      refine .inr ⟨by simpa using hi, ?_⟩
      dsimp only at h
      cases hb : bringUp io plan (x.stop io w).1 (x.stop io w).2 with
      | mk ret rest =>
        obtain ⟨x', w'⟩ := rest
        rw [hb] at h
        cases ret with
        | error e =>
          obtain ⟨rfl, -⟩ := bringUp_failed (stop_currentPipeline io _ _) hb
          rw [stop_currentPipeline io _ _] at h
          exact nomatch h
        | ok =>
          obtain ⟨built, rfl, hc⟩ := bringUp_held hb
          obtain rfl := Option.some.inj h
          rw [hc, stop_initialized.2]
          exact validateContext_mainStream hv

end ModeSwitchExecutor

namespace ModeManager

variable {m : ModeManager} {w : ModeWorld ω}

theorem switchTo_settled (mode : WorkMode) (h : Settled m) :
    Settled (m.switchTo io mode w).2.1 := by
  unfold switchTo
  split
  · exact h
  · rename_i hi
    have hi : m.state.initialized = true := by simpa using hi
    split
    · exact h
    · dsimp only
      split
      · exact ⟨rfl, h.held⟩
      · rename_i plan _
        have hheld : ∀ pipeline, (m.executor.execute io plan
            (w.withOutside (io.media.nowMs w.outside).2)).2.1.currentPipeline = some pipeline →
            m.state.initialized = true ∧ (m.executor.execute io plan
              (w.withOutside (io.media.nowMs w.outside).2)).2.1.initialized = true ∧
              pipeline.context.mainStream = true := by
          intro pipeline hp
          rw [ModeSwitchExecutor.execute_initialized]
          rcases ModeSwitchExecutor.execute_held hp with ho | ⟨hx, hc⟩
          · exact h.held pipeline ho
          · exact ⟨hi, hx, hc⟩
        split
        · exact ⟨rfl, hheld⟩
        · unfold succeed
          dsimp only
          split <;> exact ⟨rfl, hheld⟩

theorem switchTo_failed {mode : WorkMode} {e : Status} {m' : ModeManager} {w' : ModeWorld ω}
    (hi : m.state.initialized = true) (hs : m.state.switching = false)
    (h : m.switchTo io mode w = (.error e, m', w')) :
    m'.state.currentMode = m.state.currentMode ∧ m'.state.stage = .failed ∧
      ∃ outside, ((∃ e, m.planner.buildPlan mode = .error e) ∧ m'.executor = m.executor ∧
          w' = w.withOutside outside) ∨
        ∃ plan, m.planner.buildPlan mode = .ok plan ∧
          m.executor.execute io plan (w.withOutside outside) = (.error e, m'.executor, w') := by
  unfold switchTo at h
  simp only [hi, hs, Bool.not_true, Bool.false_eq_true, if_false] at h
  split at h <;> rename_i hb
  · obtain ⟨-, hr⟩ := Prod.mk.inj h
    obtain ⟨rfl, rfl⟩ := Prod.mk.inj hr
    exact ⟨rfl, rfl, _, .inl ⟨⟨_, hb⟩, rfl, rfl⟩⟩
  · rename_i plan
    split at h <;> rename_i he
    · obtain ⟨hf, hr⟩ := Prod.mk.inj h
      obtain ⟨rfl, rfl⟩ := Prod.mk.inj hr
      exact ⟨rfl, rfl, _, .inr ⟨plan, hb, Prod.ext (he.trans hf) rfl⟩⟩
    · exact nomatch (Prod.mk.inj h).1

end ModeManager

namespace ModeSystem

theorem step_settled (s : ModeSystem ω) (call : ModeCall) (h : Settled s.manager) :
    Settled (step io s call).manager := by
  cases call with
  | init modeConfig mediaConfig runtime =>
    unfold step ModeManager.init
    dsimp only
    split
    · exact h
    · exact ⟨rfl, fun pipeline hp ↦ ⟨rfl, rfl, (h.held pipeline hp).2.2⟩⟩
  | switchTo mode => exact ModeManager.switchTo_settled mode h
  | stop =>
    refine ⟨rfl, fun pipeline hp ↦ ?_⟩
    have hn := ModeSwitchExecutor.stop_currentPipeline io s.manager.executor s.world
    have hp : (s.manager.executor.stop io s.world).1.currentPipeline = some pipeline := hp
    rw [hn] at hp
    exact nomatch hp
  | work =>
    unfold step work
    cases hp : s.manager.executor.currentPipeline with
    | none => exact h
    | some pipeline =>
      obtain ⟨hi, hx, hc⟩ := h.held pipeline hp
      refine ⟨h.switching, fun p he ↦ ⟨hi, hx, ?_⟩⟩
      obtain rfl := Option.some.inj he
      rw [(PipelineSystem.work_setup pipeline s.world.shared).2]
      exact hc

theorem run_settled (shared : Shared ω) (controller : CompositeSensorController)
    (engine : FusionEngine) (calls : List ModeCall) :
    Settled (run io (fresh shared controller engine) calls).manager :=
  Library.Runs.exec_invariant (I := fun s : ModeSystem ω ↦ Settled s.manager) step_settled
    ⟨rfl, fun pipeline hp ↦ (nomatch (hp : (none : Option MediaPipeline) = some pipeline))⟩ calls

/-- A switch that fails keeps the mode on record and marks the failure. One that
fails in the planning, or on the context, leaves everything running. One that
fails later has stopped the old pipeline and its stream, starts nothing in their
place, and leaves the sensor as it was unless the new output had been set. -/
theorem failed_switch (io : ModeIo ω) (shared : Shared ω) (controller : CompositeSensorController)
    (engine : FusionEngine) (calls : List ModeCall) {s : ModeSystem ω}
    (hs : s = run io (fresh shared controller engine) calls) {pipeline : MediaPipeline}
    (hp : s.manager.executor.currentPipeline = some pipeline) {target : WorkMode} {e : Status}
    {manager : ModeManager} {world : ModeWorld ω}
    (h : s.manager.switchTo io target s.world = (.error e, manager, world)) :
    manager.state.currentMode = s.manager.state.currentMode ∧ manager.state.stage = .failed ∧
      (((∀ plan, s.manager.planner.buildPlan target = .ok plan →
            ∃ e, s.manager.executor.validateContext plan = .error e) ∧
          manager.executor = s.manager.executor ∧ world.controller = s.world.controller ∧
          world.shared.mainStream = s.world.shared.mainStream) ∨
        ∃ plan, s.manager.planner.buildPlan target = .ok plan ∧
          s.manager.executor.validateContext plan = .ok () ∧
          manager.executor.currentPipeline = none ∧
          world.shared.mainStream.state = .stopped ∧
          ModeWorld.SensorLeft plan (s.world.record .pipelineStopped) world) := by
  have hset : Settled s.manager := hs ▸ run_settled shared controller engine calls
  obtain ⟨hi, hx, hc⟩ := hset.held pipeline hp
  obtain ⟨hmode, hstage, outside, hplan | hexec⟩ :=
    ModeManager.switchTo_failed hi hset.switching h
  · obtain ⟨⟨e', hb⟩, hsame, rfl⟩ := hplan
    refine ⟨hmode, hstage, .inl ⟨fun plan hp ↦ ?_, hsame, rfl, rfl⟩⟩
    rw [hb] at hp
    exact nomatch hp
  · obtain ⟨plan, hb, he⟩ := hexec
    refine ⟨hmode, hstage, ?_⟩
    rcases ModeSwitchExecutor.execute_failed hp hc hx he with
      ⟨hv, hsame, rfl⟩ | ⟨hv, hn, hst, hl⟩
    · refine .inl ⟨fun other ho ↦ ?_, hsame, rfl, rfl⟩
      obtain rfl : plan = other := Except.ok.inj (hb.symm.trans ho)
      exact ⟨e, hv⟩
    · exact .inr ⟨plan, hb, hv, hn, hst, hl.before rfl rfl⟩

def visibleRunning : ModeSystem Unit :=
  run quietIo (fresh { outside := () } {} {}) [.init {} {} fullContext, .switchTo .visibleOnly]

theorem failed_switch_unready :
    let r := visibleRunning.manager.switchTo quietIo .lowlightOnly visibleRunning.world
    r.2.1.state.currentMode = .visibleOnly ∧ r.2.1.state.stage = .failed := by
  have hp : visibleRunning.manager.executor.currentPipeline.isSome := by decide +kernel
  have he : (visibleRunning.manager.switchTo quietIo .lowlightOnly visibleRunning.world).1 =
      .fail .notInitialized "composite sensor controller is not ready" := by decide +kernel
  have h := failed_switch quietIo { outside := () } {} {} _ (s := visibleRunning) rfl
    (Option.some_get hp).symm
    (show visibleRunning.manager.switchTo quietIo .lowlightOnly _ = _ from Prod.ext he rfl)
  have hm : visibleRunning.manager.state.currentMode = .visibleOnly := by decide +kernel
  exact ⟨h.1.trans hm, h.2.1⟩

/-- The sensor refuses, and the stream that ran is gone. -/
theorem half_switched :
    let r := visibleRunning.manager.switchTo quietIo .lowlightOnly visibleRunning.world
    visibleRunning.manager.state.currentMode = .visibleOnly ∧
      visibleRunning.manager.executor.currentPipeline.map MediaPipeline.state = some .running ∧
      visibleRunning.world.shared.mainStream.state = .running ∧
      r.1.succeeded = false ∧ r.2.1.state.currentMode = .visibleOnly ∧
      r.2.1.executor.currentPipeline = none ∧ r.2.2.shared.mainStream.state = .stopped := by
  decide +kernel

end ModeSystem

end TriFusion.Mode
