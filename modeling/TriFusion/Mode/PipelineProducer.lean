import TriFusion.Media.WorkerHandle
import TriFusion.Mode.SwitchFailure

namespace TriFusion.Mode

open Foundation Algorithm DeviceControl Media

variable {ω : Type} {io : ModeIo ω}

/-- A pipeline whose worker runs, and pushes into the stream. -/
structure Produces (p : MediaPipeline) : Prop where
  state : p.state = .running
  worker : p.worker = true
  stopFlag : p.stopFlag = false
  mainStream : p.context.mainStream = true

theorem Produces.of_start {p p' : MediaPipeline} {config : PipelineConfig}
    {context : PipelineContext} {s s' s'' : Shared ω} (hm : context.mainStream = true)
    (hb : PipelineBuilder.build io.media config context s = (.ok p, s'))
    (hs : p.start io.media s' = (.ok (), p', s'')) : Produces p' := by
  obtain ⟨-, hcontext⟩ := PipelineBuilder.build_ok hb
  have hworker : p.worker = false := by
    unfold PipelineBuilder.build at hb
    rcases MediaPipeline.init_handle io.media {} s config context with ⟨e, he, -⟩ | ⟨-, -, hw⟩
    · split at hb <;> rename_i hi
      · cases (Prod.mk.inj hb).1
      · rw [hi] at he
        cases he
    · split at hb <;> rename_i hi
      · cases (Prod.mk.inj hb).1
      · obtain rfl := Except.ok.inj (Prod.mk.inj hb).1
        rw [hi] at hw
        exact hw
  have hstream : p.context.mainStream = true := by
    rw [hcontext]
    exact hm
  rcases MediaPipeline.start_cases io.media p s' with
    ⟨e, he, -⟩ | ⟨-, -, ⟨hn, -⟩ | ⟨-, -, -, hp, -⟩⟩
  · rw [hs] at he
    cases he
  · exact absurd ⟨hstream, hworker⟩ hn
  · rw [hs] at hp
    obtain rfl : p' = _ := hp
    exact ⟨rfl, rfl, rfl, hstream⟩

namespace ModeSwitchExecutor

variable {x x' : ModeSwitchExecutor} {w w' : ModeWorld ω} {plan : ModeSwitchPlan}

def HasProducer (x : ModeSwitchExecutor) : Prop := ∃ p, x.currentPipeline = some p ∧ Produces p

theorem not_hasProducer (h : x.currentPipeline = none) : ¬x.HasProducer := by
  rintro ⟨p, hp, -⟩
  rw [h] at hp
  cases hp

theorem startPipeline_produces (hm : x.context.mainStream = true)
    (h : startPipeline io plan x w = (.ok (), x', w')) : x'.HasProducer := by
  unfold startPipeline at h
  split at h
  · cases (Prod.mk.inj h).1
  · dsimp only at h
    split at h
    · cases (Prod.mk.inj h).1
    · rename_i hb
      split at h <;> rename_i hs
      · cases (Prod.mk.inj h).1
      · obtain ⟨-, hr⟩ := Prod.mk.inj h
        obtain ⟨rfl, -⟩ := Prod.mk.inj hr
        exact ⟨_, rfl, .of_start hm hb hs⟩

theorem bringUp_produces (hm : x.context.mainStream = true)
    (h : bringUp io plan x w = (.ok (), x', w')) : x'.HasProducer := by
  unfold bringUp at h
  split at h
  · cases (Prod.mk.inj h).1
  · split at h
    · cases (Prod.mk.inj h).1
    · exact startPipeline_produces hm h

def Accepts (x : ModeSwitchExecutor) (plan : ModeSwitchPlan) : Prop :=
  x.initialized = true ∧ x.validateContext plan = .ok ()

variable (io w) in
theorem execute_accepts (h : x.Accepts plan) :
    ((x.execute io plan w).1.succeeded = true ∧ (x.execute io plan w).2.1.HasProducer) ∨
      (x.execute io plan w).1.succeeded = false ∧
        (x.execute io plan w).2.1.currentPipeline = none := by
  obtain ⟨hi, hv⟩ := h
  have hx : x.execute io plan w = bringUp io plan (x.stop io w).1 (x.stop io w).2 := by
    simp only [execute, hi, hv, Bool.not_true, Bool.false_eq_true, if_false]
  rw [hx]
  have hm : (x.stop io w).1.context.mainStream = true := by
    rw [stop_initialized.2]
    exact validateContext_mainStream hv
  cases hb : bringUp io plan (x.stop io w).1 (x.stop io w).2 with
  | mk ret rest =>
    obtain ⟨x', w'⟩ := rest
    cases ret with
    | error e =>
      obtain ⟨rfl, -⟩ := bringUp_failed (stop_currentPipeline io x w) hb
      exact .inr ⟨rfl, stop_currentPipeline io x w⟩
    | ok => exact .inl ⟨rfl, bringUp_produces hm hb⟩

variable (io w) in
theorem execute_refuses (h : ¬x.Accepts plan) :
    ∃ e, x.execute io plan w = (.error e, x, w) := by
  unfold execute
  split
  · exact ⟨_, rfl⟩
  · rename_i hi
    split
    · exact ⟨_, rfl⟩
    · rename_i hv
      exact absurd ⟨by simpa using hi, hv⟩ h

end ModeSwitchExecutor

namespace ModeManager

variable {m : ModeManager} {w : ModeWorld ω} {mode : WorkMode}

def Accepts (m : ModeManager) (mode : WorkMode) : Prop :=
  m.state.initialized = true ∧ m.state.switching = false ∧
    ∃ plan, m.planner.buildPlan mode = .ok plan ∧ m.executor.Accepts plan

variable (io w) in
theorem switchTo_accepts (h : m.Accepts mode) :
    ((m.switchTo io mode w).1.succeeded = true ∧
        (m.switchTo io mode w).2.1.executor.HasProducer) ∨
      (m.switchTo io mode w).1.succeeded = false ∧
        (m.switchTo io mode w).2.1.executor.currentPipeline = none := by
  obtain ⟨hi, hs, plan, hb, ha⟩ := h
  have hx := ModeSwitchExecutor.execute_accepts io (w.withOutside (io.media.nowMs w.outside).2) ha
  unfold switchTo
  simp only [hi, hs, Bool.not_true, Bool.false_eq_true, if_false, markStage, hb]
  cases he : m.executor.execute io plan (w.withOutside (io.media.nowMs w.outside).2) with
  | mk ret rest =>
    rw [he] at hx
    cases ret with
    | error e => exact hx
    | ok =>
      unfold succeed
      dsimp only
      split <;> exact hx

variable (io w) in
theorem switchTo_refuses (h : ¬m.Accepts mode) :
    (m.switchTo io mode w).1.succeeded = false ∧
      (m.switchTo io mode w).2.1.executor = m.executor := by
  unfold switchTo
  split
  · exact ⟨rfl, rfl⟩
  · rename_i hi
    split
    · exact ⟨rfl, rfl⟩
    · rename_i hs
      dsimp only
      split
      · exact ⟨rfl, rfl⟩
      · rename_i plan hb
        have hn : ¬m.executor.Accepts plan :=
          fun ha ↦ h ⟨by simpa using hi, by simpa using hs, plan, hb, ha⟩
        obtain ⟨e, he⟩ := ModeSwitchExecutor.execute_refuses io
          (w.withOutside (io.media.nowMs w.outside).2) hn
        have he' : ((m.markStage .planning).executor).execute io plan
            (w.withOutside (io.media.nowMs w.outside).2) = _ := he
        simp only [markStage] at he' ⊢
        rw [he']
        exact ⟨rfl, rfl⟩

end ModeManager

namespace ModeSystem

variable {s : ModeSystem ω}

def HasProducer (s : ModeSystem ω) : Prop := s.manager.executor.HasProducer

def Harmed (io : ModeIo ω) (s : ModeSystem ω) : Prop :=
  ∃ p, s.manager.executor.currentPipeline = some p ∧
    ¬PipelineSystem.Calm io.media (p, s.world.shared) .work

theorem work_harmed (h : s.Harmed io) : ¬(work io s).HasProducer := by
  obtain ⟨p, hp, hc⟩ := h
  unfold PipelineSystem.Calm at hc
  push Not at hc
  obtain ⟨-, hcrash, hworker, hflag, hharm⟩ := hc
  rintro ⟨p', hp', hprod⟩
  have hturn : p' = (p.runLoopTurn io.media s.world.shared).1 := by
    have hstep : PipelineSystem.step io.media (p, s.world.shared) .work =
        p.runLoopTurn io.media s.world.shared := by
      unfold PipelineSystem.step
      simp only at hcrash hworker hflag
      simp [hcrash, hworker, hflag]
    simp only [work, hp, hstep] at hp'
    exact (Option.some.inj hp').symm
  obtain ⟨-, -, ⟨hn, -⟩ | ⟨-, hstate⟩⟩ := MediaPipeline.runLoopTurn_cases io.media p s.world.shared
  · exact hharm hn
  · rw [← hturn, hprod.state] at hstate
    cases hstate

theorem work_handle {p : MediaPipeline} {shared : Shared ω} {mio : MediaIo ω}
    (h : PipelineSystem.Calm mio (p, shared) .work) :
    p.SameHandle (PipelineSystem.step mio (p, shared) .work).1 := by
  by_cases hcrash : shared.crashed = true
  · rw [PipelineSystem.step_crashed hcrash]
    exact .refl p
  have hcrash : shared.crashed = false := Bool.eq_false_iff.mpr hcrash
  simp only [PipelineSystem.step, hcrash, Bool.false_eq_true, if_false]
  by_cases hactive : (p.worker && !p.stopFlag) = true
  · rw [if_pos hactive]
    obtain ⟨hworker, hflag⟩ := (Bool.and_eq_true _ _).mp hactive
    have hharmless := h rfl hcrash hworker ((Bool.not_eq_true' _).mp hflag)
    obtain ⟨hw, hf, ⟨-, hstate⟩ | ⟨hn, -⟩⟩ := MediaPipeline.runLoopTurn_cases mio p shared
    · exact ⟨hstate, hw, hf⟩
    · exact absurd hharmless hn
  · rw [if_neg hactive]
    exact .refl p

theorem produces_iff {p p' : MediaPipeline} (h : p.SameHandle p') (hc : p'.context = p.context) :
    Produces p' ↔ Produces p := by
  obtain ⟨hstate, hworker, hflag⟩ := h
  constructor
  · rintro ⟨h₁, h₂, h₃, h₄⟩
    exact ⟨hstate ▸ h₁, hworker ▸ h₂, hflag ▸ h₃, hc ▸ h₄⟩
  · rintro ⟨h₁, h₂, h₃, h₄⟩
    exact ⟨hstate.trans h₁, hworker.trans h₂, hflag.trans h₃, hc.symm ▸ h₄⟩

theorem work_unharmed (h : ¬s.Harmed io) : (work io s).HasProducer ↔ s.HasProducer := by
  cases hp : s.manager.executor.currentPipeline with
  | none =>
    have hw : work io s = s := by
      unfold work
      rw [hp]
    rw [hw]
  | some p =>
    have hcalm : PipelineSystem.Calm io.media (p, s.world.shared) .work := by
      by_contra hc
      exact h ⟨p, hp, hc⟩
    have hsame := produces_iff (work_handle hcalm) (PipelineSystem.work_setup p s.world.shared).2
    generalize hstep : PipelineSystem.step io.media (p, s.world.shared) .work = y at hsame
    have hnew : (work io s).manager.executor.currentPipeline = some y.1 := by
      simp only [work, hp, hstep]
    constructor
    · rintro ⟨p', hp', hprod⟩
      obtain rfl : p' = y.1 := Option.some.inj (hp'.symm.trans hnew)
      exact ⟨p, hp, hsame.mp hprod⟩
    · rintro ⟨p', hp', hprod⟩
      obtain rfl : p = p' := Option.some.inj (hp.symm.trans hp')
      exact ⟨y.1, hnew, hsame.mpr hprod⟩

end ModeSystem

end TriFusion.Mode
