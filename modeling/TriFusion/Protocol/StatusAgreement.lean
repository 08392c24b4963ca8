import TriFusion.Protocol.PrivateControlProbe

namespace TriFusion.Protocol

open Foundation Hardware DeviceControl Media Library

variable {ω : Type} {io : ProbeIo ω} {setup : ProbeSetup}

def NeedsOutput (mode : PrivateWorkMode) (output : CompositeSensorOutputMode) : Prop :=
  mapPrivateModeToCompositeOutput mode = some (output, true)

/-- The pipeline has the video of the mode, and the sensor the output, where one is needed. -/
structure Matches (setup : ProbeSetup) (mode : PrivateWorkMode) (x : Probe ω) : Prop where
  video : x.pipeline.config = setup.gstConfigMgr.configForModeCommand mode.toCommandName
  sensor : setup.serialEnabled = true → ∀ output, NeedsOutput mode output →
    x.compositeController.state.currentMode = output

def SameOutput (setup : ProbeSetup) (mode mode' : PrivateWorkMode) : Prop :=
  setup.serialEnabled = true → ∀ output output', NeedsOutput mode output →
    NeedsOutput mode' output' → output = output'

def SameVideo (setup : ProbeSetup) (mode mode' : PrivateWorkMode) : Prop :=
  setup.gstConfigMgr.configForModeCommand mode.toCommandName =
    setup.gstConfigMgr.configForModeCommand mode'.toCommandName

namespace Probe

variable {x x' : Probe ω} {mode target : PrivateWorkMode} {output : CompositeSensorOutputMode}

/-- The sensor takes its new output, and the wait after it fails. -/
def Unstable (io : ProbeIo ω) (setup : ProbeSetup) (target : PrivateWorkMode) (x : Probe ω) :
    Prop :=
  setup.serialEnabled = true ∧ ∃ output, NeedsOutput target output ∧
    (x.setOutputMode io output).1 = .ok () ∧
    ∃ e, (x.setOutputMode io output).2.compositeController.waitStable setup.stableMs = .error e

def Unstarted (io : ProbeIo ω) (setup : ProbeSetup) (target : PrivateWorkMode) (x : Probe ω) :
    Prop :=
  ∃ output need x', mapPrivateModeToCompositeOutput target = some (output, need) ∧
    x.readySensor io setup output need = (.ok (), x') ∧ (x'.startVideo io setup target).1 = false

/-- A switch from one mode to another that has stopped the pipeline fails later only where
what it has changed is the same in both modes. -/
def Kept (io : ProbeIo ω) (setup : ProbeSetup) (mode target : PrivateWorkMode) (x : Probe ω) :
    Prop :=
  ∀ stopped, x.stopPipeline io = (true, stopped) →
    (stopped.Unstable io setup target → SameOutput setup target mode) ∧
      (stopped.Unstarted io setup target →
        SameVideo setup target mode ∧ SameOutput setup target mode)

variable (io) in
theorem stopPipeline_matches :
    Matches setup mode (x.stopPipeline io).2 ↔ Matches setup mode x := by
  have hc := GStreamerPipeline.stop_config io.process x.pipeline x.outside
  constructor
  · rintro ⟨hv, hs⟩
    exact ⟨hc.symm.trans hv, hs⟩
  · rintro ⟨hv, hs⟩
    exact ⟨hc.trans hv, hs⟩

theorem startPipeline_matches :
    Matches setup mode (x.startPipeline io).2 ↔ Matches setup mode x := by
  have hc := GStreamerPipeline.start_config io.process x.pipeline x.outside
  constructor
  · rintro ⟨hv, hs⟩
    exact ⟨hc.symm.trans hv, hs⟩
  · rintro ⟨hv, hs⟩
    exact ⟨hc.trans hv, hs⟩

variable (io x output) in
theorem setOutputMode_recorded :
    (x.setOutputMode io output).2.compositeController.state.currentMode =
      if (x.setOutputMode io output).1.succeeded then output
      else x.compositeController.state.currentMode :=
  x.compositeController.setOutputMode_currentMode io.nowMs output

inductive SensorOutcome (io : ProbeIo ω) (setup : ProbeSetup) (target : PrivateWorkMode)
    (output : CompositeSensorOutputMode) (need : Bool) (x : Probe ω) :
    Except Text Unit × Probe ω → Prop
  | refused (message : Text) (x' : Probe ω) (video : x'.pipeline = x.pipeline)
      (sensor : x'.compositeController.state.currentMode =
        x.compositeController.state.currentMode) (stable : ¬x.Unstable io setup target) :
      SensorOutcome io setup target output need x (.error message, x')
  | unstable (message : Text) (x' : Probe ω) (video : x'.pipeline = x.pipeline)
      (sensor : x'.compositeController.state.currentMode = output)
      (serial : setup.serialEnabled = true) (needed : NeedsOutput target output)
      (unstable : x.Unstable io setup target) :
      SensorOutcome io setup target output need x (.error message, x')
  | ready (x' : Probe ω) (video : x'.pipeline = x.pipeline)
      (sensor : x'.compositeController.state.currentMode =
        if setup.serialEnabled && need then output
        else x.compositeController.state.currentMode)
      (stable : ¬x.Unstable io setup target) :
      SensorOutcome io setup target output need x (.ok (), x')

theorem Unstable.of_map {need : Bool} (h : x.Unstable io setup target)
    (hm : mapPrivateModeToCompositeOutput target = some (output, need)) :
    need = true ∧ (x.setOutputMode io output).1 = .ok () ∧
      ∃ e, (x.setOutputMode io output).2.compositeController.waitStable setup.stableMs =
        .error e := by
  obtain ⟨-, output', hn, hok, hw⟩ := h
  obtain ⟨rfl, rfl⟩ := Prod.mk.inj (Option.some.inj (hm.symm.trans hn))
  exact ⟨rfl, hok, hw⟩

variable (io setup x) in
theorem readySensor_outcome {need : Bool}
    (hm : mapPrivateModeToCompositeOutput target = some (output, need)) :
    SensorOutcome io setup target output need x (x.readySensor io setup output need) := by
  unfold readySensor
  split
  · rename_i hs
    obtain ⟨hserial, rfl⟩ := (Bool.and_eq_true _ _).mp hs
    have hr := x.setOutputMode_recorded io output
    unfold switchSensor
    cases hx : x.setOutputMode io output with
    | mk ret x' =>
      have hv : x'.pipeline = x.pipeline := congrArg (fun r ↦ r.2.pipeline) hx.symm
      rw [hx] at hr
      cases ret with
      | error e =>
        refine .refused _ x' hv hr fun hu ↦ ?_
        have hok := (hu.of_map hm).2.1
        rw [hx] at hok
        exact nomatch hok
      | ok =>
        cases hw : x'.compositeController.waitStable setup.stableMs with
        | error e =>
          simp only [hw]
          refine .unstable _ x' hv hr hserial hm ⟨hserial, output, hm, ?_, e, ?_⟩
          · rw [hx]
          · rw [hx]
            exact hw
        | ok =>
          simp only [hw]
          refine .ready x' hv ?_ fun hu ↦ ?_
          · rw [hs]
            exact hr
          · obtain ⟨e, he⟩ := (hu.of_map hm).2.2
            rw [hx] at he
            exact nomatch hw.symm.trans he
  · rename_i hs
    refine .ready x rfl (if_neg hs).symm fun hu ↦ hs ?_
    rw [hu.1, (hu.of_map hm).1]
    rfl

variable (io setup target x) in
theorem startVideo_loaded :
    (x.startVideo io setup target).2.pipeline.config =
        setup.gstConfigMgr.configForModeCommand target.toCommandName ∧
      (x.startVideo io setup target).2.compositeController = x.compositeController :=
  ⟨GStreamerPipeline.start_config io.process
    (x.pipeline.setConfig (setup.gstConfigMgr.configForModeCommand target.toCommandName))
    x.outside, rfl⟩

variable (io setup target x) in
theorem loadVideo_eq (asked : Text) :
    (x.loadVideo io setup target asked).1.ok = (x.startVideo io setup target).1 ∧
      (x.loadVideo io setup target asked).2 = (x.startVideo io setup target).2 := by
  unfold loadVideo
  dsimp only
  split <;> rename_i hx <;> rw [hx] <;> exact ⟨rfl, rfl⟩

theorem sameOutput_iff {need : Bool} (h : Matches setup mode x)
    (hm : mapPrivateModeToCompositeOutput target = some (output, need))
    (hs : x'.compositeController.state.currentMode =
      if setup.serialEnabled && need then output
      else x.compositeController.state.currentMode) :
    (setup.serialEnabled = true → ∀ wanted, NeedsOutput mode wanted →
        x'.compositeController.state.currentMode = wanted) ↔
      SameOutput setup target mode := by
  constructor
  · intro hx hserial output' wanted hn hw
    obtain ⟨rfl, rfl⟩ := Prod.mk.inj (Option.some.inj (hm.symm.trans hn))
    have hr := hx hserial wanted hw
    rw [hs, hserial] at hr
    exact hr
  · intro hsame hserial wanted hw
    rw [hs, hserial]
    cases need with
    | false => exact h.sensor hserial wanted hw
    | true => exact hsame hserial output wanted hm hw

theorem unstarted_iff {need : Bool} {ret : Except Text Unit}
    (hm : mapPrivateModeToCompositeOutput target = some (output, need))
    (hr : x.readySensor io setup output need = (ret, x')) :
    x.Unstarted io setup target ↔ ret = .ok () ∧ (x'.startVideo io setup target).1 = false := by
  constructor
  · rintro ⟨output', need', x₂, hn, hr', hf⟩
    obtain ⟨rfl, rfl⟩ := Prod.mk.inj (Option.some.inj (hm.symm.trans hn))
    obtain ⟨rfl, rfl⟩ := Prod.mk.inj (hr.symm.trans hr')
    exact ⟨rfl, hf⟩
  · rintro ⟨rfl, hf⟩
    exact ⟨output, need, x', hm, hr, hf⟩

theorem resume_matches {need : Bool} {asked : Text} {r : PrivateControlResult × Probe ω}
    (h : Matches setup mode x)
    (hm : mapPrivateModeToCompositeOutput target = some (output, need))
    (hr : r = match x.readySensor io setup output need with
      | (.error message, x) =>
        ({ ok := false, message := message, currentMode := asked }, (x.startPipeline io).2)
      | (.ok (), x) => x.loadVideo io setup target asked) :
    Matches setup (if r.1.ok then target else mode) r.2 ↔
      (x.Unstable io setup target → SameOutput setup target mode) ∧
        (x.Unstarted io setup target →
          SameVideo setup target mode ∧ SameOutput setup target mode) := by
  have hout := readySensor_outcome io setup x hm
  cases hx : x.readySensor io setup output need with
  | mk ret x' =>
    have hun := unstarted_iff hm hx
    rw [hx] at hout hr
    subst hr
    cases hout with
    | refused message _ video sensor stable =>
      refine iff_of_true ?_ ⟨fun hu ↦ absurd hu stable, fun hs ↦ nomatch (hun.mp hs).1⟩
      refine startPipeline_matches.mpr ⟨video ▸ h.video, fun hs wanted hw ↦ ?_⟩
      exact sensor.trans (h.sensor hs wanted hw)
    | unstable message _ video sensor serial needed unstable =>
      obtain ⟨rfl, -, -⟩ := unstable.of_map hm
      have hsame := sameOutput_iff h hm (by rw [sensor, serial]; rfl)
      refine startPipeline_matches.trans ⟨fun hk ↦ ⟨fun _ ↦ hsame.mp hk.sensor, fun hs ↦ ?_⟩,
        fun hk ↦ ⟨video ▸ h.video, hsame.mpr (hk.1 unstable)⟩⟩
      exact nomatch (hun.mp hs).1
    | ready _ video sensor stable =>
      obtain ⟨hvideo, hcontroller⟩ := startVideo_loaded io setup x' target
      have hrec := (congrArg (fun c ↦ c.state.currentMode) hcontroller).trans sensor
      obtain ⟨hok, hstate⟩ := loadVideo_eq io setup x' target asked
      dsimp only
      rw [hok, hstate]
      cases hy : (x'.startVideo io setup target).1 with
      | true =>
        refine iff_of_true ⟨hvideo, fun hs wanted hw ↦ ?_⟩
          ⟨fun hu ↦ absurd hu stable, fun hs ↦ nomatch hy.symm.trans (hun.mp hs).2⟩
        obtain ⟨rfl, rfl⟩ := Prod.mk.inj (Option.some.inj (hm.symm.trans hw))
        rw [hrec, hs]
        rfl
      | false =>
        have hsame := sameOutput_iff h hm hrec
        have hs : x.Unstarted io setup target := hun.mpr ⟨rfl, hy⟩
        refine ⟨fun hk ↦ ⟨fun hu ↦ absurd hu stable, fun _ ↦ ?_⟩, fun hk ↦ ?_⟩
        · exact ⟨hvideo.symm.trans hk.video, hsame.mp hk.sensor⟩
        · obtain ⟨hv, ho⟩ := hk.2 hs
          exact ⟨hvideo.trans hv, hsame.mpr ho⟩

variable (io target) in
/-- A callback leaves the probe in agreement with the mode that the server then has on record
exactly when what it has changed before it failed is the same in both modes. -/
theorem switchCallback_matches (h : Matches setup mode x) :
    Matches setup (if (x.switchCallback io setup target).1.ok then target else mode)
        (x.switchCallback io setup target).2 ↔
      x.Kept io setup mode target := by
  obtain ⟨⟨output, need⟩, hm⟩ : ∃ r, mapPrivateModeToCompositeOutput target = some r := by
    cases target <;> exact ⟨_, rfl⟩
  have hstop := (stopPipeline_matches io).mpr h
  unfold switchCallback Kept
  simp only [hm]
  cases hx : x.stopPipeline io with
  | mk stopped x₁ =>
    rw [hx] at hstop
    cases stopped with
    | false =>
      refine iff_of_true hstop fun stopped he ↦ ?_
      exact nomatch (Prod.mk.inj he).1
    | true =>
      refine (resume_matches hstop hm rfl).trans ⟨fun hk stopped he ↦ ?_, fun hk ↦ hk x₁ rfl⟩
      obtain rfl := (Prod.mk.inj he).2
      exact hk

end Probe

namespace ControlSystem

variable {y : ControlSystem ω} {request : ControlRequest}

def Agrees (setup : ProbeSetup) (y : ControlSystem ω) : Prop :=
  ∃ mode : PrivateWorkMode,
    PrivateControlServer.reportedMode y.server.handleStatusRequest = some mode.toText ∧
      Matches setup mode y.probe

theorem agrees_iff : y.Agrees setup ↔ Matches setup y.server.currentMode y.probe := by
  constructor
  · rintro ⟨mode, hr, hm⟩
    rw [PrivateControlServer.reportedMode_status] at hr
    exact PrivateWorkMode.toText_injective (Option.some.inj hr) ▸ hm
  · intro hm
    exact ⟨_, y.server.reportedMode_status, hm⟩

/-- A request that the server passes on changes nothing before it fails that tells the new
mode from the reported one. -/
def Kept (io : ProbeIo ω) (setup : ProbeSetup) (y : ControlSystem ω) (request : ControlRequest) :
    Prop :=
  ∀ method modeName target, request = .mode method modeName →
    (method = "POST".toList ∨ method = "GET".toList) →
    PrivateWorkMode.fromCommandName modeName = some target →
    y.probe.Kept io setup y.server.currentMode target

theorem step_agrees (h : y.Agrees setup) :
    (step io setup y request).Agrees setup ↔ y.Kept io setup request := by
  have hm := agrees_iff.mp h
  cases request with
  | status => exact iff_of_true h fun _ _ _ he ↦ nomatch he
  | mode method modeName =>
    have hstep : step io setup y (.mode method modeName) =
        ⟨(y.server.handleModeRequest (some (Probe.switchCallback io setup)) method modeName
            y.probe).2.1,
          (y.server.handleModeRequest (some (Probe.switchCallback io setup)) method modeName
            y.probe).2.2⟩ := rfl
    by_cases hr : (method = "POST".toList ∨ method = "GET".toList) →
        PrivateWorkMode.fromCommandName modeName = none
    · rw [hstep, PrivateControlServer.handleModeRequest_refused hr]
      refine iff_of_true h fun method' modeName' target he hok hn ↦ ?_
      obtain ⟨rfl, rfl⟩ := ControlRequest.mode.inj he
      exact nomatch (hr hok).symm.trans hn
    · obtain ⟨hmethod, hn⟩ := Classical.not_imp.mp hr
      obtain ⟨target, hn⟩ := Option.ne_none_iff_exists'.mp hn
      have hcall := Probe.switchCallback_matches io target hm
      have hkept : y.Kept io setup (.mode method modeName) ↔
          y.probe.Kept io setup y.server.currentMode target := by
        refine ⟨fun hk ↦ hk method modeName target rfl hmethod hn,
          fun hk method' modeName' target' he _ hn' ↦ ?_⟩
        obtain ⟨rfl, rfl⟩ := ControlRequest.mode.inj he
        obtain rfl := Option.some.inj (hn.symm.trans hn')
        exact hk
      rw [hstep, PrivateControlServer.handleModeRequest_passed hmethod hn, agrees_iff, hkept,
        ← hcall]
      dsimp only
      split <;> exact Iff.rfl

/-- From agreement, the status goes on to report the mode that the pipeline and the sensor are
in, after each request of a run, exactly when no request that fails has changed, before it
fails, what tells its mode from the reported one. -/
theorem status_agrees_iff (io : ProbeIo ω) (setup : ProbeSetup) (y : ControlSystem ω)
    (h : y.Agrees setup) (requests : List ControlRequest) :
    (∀ reached, reached <+: requests → (run io setup y reached).Agrees setup) ↔
      Runs.Along (step io setup) (fun y request ↦ y.Kept io setup request) y requests := by
  constructor
  · intro ha
    refine (Runs.along_iff _ _).mpr fun before request after he ↦ ?_
    have hb := ha before ⟨request :: after, he.symm⟩
    have hr := ha (before ++ [request]) ⟨after, by rw [he, List.append_assoc]; rfl⟩
    unfold run at hb hr
    rw [Runs.exec_append, Runs.exec_cons, Runs.exec_nil] at hr
    exact (step_agrees hb).mp hr
  · rintro hk reached ⟨rest, rfl⟩
    exact ((Runs.along_append _ _ _).mp hk).1.invariant
      (I := fun y : ControlSystem ω ↦ y.Agrees setup)
      (fun y request hy hq ↦ (step_agrees hy).mpr hq) h

def launcher (answer : WaitAnswer) : ProbeIo Unit where
  process :=
    { fork := fun _ w ↦ (.ok 1, w)
      waitpid := fun _ w ↦ (answer, w)
      kill := fun _ _ w ↦ w
      polls := fun _ w ↦ (0, w) }
  tty :=
    { write := fun bytes w ↦ (.ok bytes.length.succPNat, w)
      poll := fun _ w ↦ (.ok false, w)
      read := fun _ w ↦ (.ok [], w) }
  nowMs := fun w ↦ (0, w)

def twoCameras : ProbeSetup where
  gstConfigMgr :=
    { visible := { videoNode := "/dev/video3", format := "mjpeg" }
      compositeLowThermal := { videoNode := "/dev/video1", format := "yuy2" }
      modeSourceMap := [("visible", "visible"), ("lowlight_thermal", "composite")] }

def composed : ControlSystem Unit where
  probe :=
    { pipeline := ⟨twoCameras.gstConfigMgr.configForModeCommand "lowlight_thermal", {}, []⟩
      compositeController := { state := { currentMode := .lowlightThermalComposite } }
      outside := () }

theorem composed_agrees : composed.Agrees twoCameras :=
  agrees_iff.mpr ⟨by decide +kernel, fun _ output h ↦ by
    obtain ⟨rfl, -⟩ := Prod.mk.inj (Option.some.inj h)
    rfl⟩

theorem status_agrees_visible :
    (run (launcher .running) twoCameras composed [.mode "POST" "visible"]).Agrees twoCameras := by
  have hstart : ((composed.probe.stopPipeline (launcher .running)).2.startVideo (launcher .running)
      twoCameras .visibleOnly).1 = true := by decide +kernel
  refine (status_agrees_iff (launcher .running) twoCameras composed composed_agrees
    [.mode "POST" "visible"]).mpr ⟨?_, trivial⟩ _ (List.prefix_refl _)
  intro method modeName target he _ hn stopped hs
  obtain ⟨rfl, rfl⟩ := ControlRequest.mode.inj he
  obtain rfl : PrivateWorkMode.visibleOnly = target := Option.some.inj hn
  refine ⟨fun hu ↦ (nomatch (hu.of_map rfl).1), fun hf ↦ ?_⟩
  have hs : (composed.probe.stopPipeline (launcher .running)).2 = stopped := congrArg Prod.snd hs
  have hx := ((Probe.unstarted_iff rfl rfl).mp hf).2
  rw [← hs] at hx
  exact nomatch hstart.symm.trans hx

/-- gst-launch does not come up with the visible camera; the status goes on to report the
composite mode, and the visible camera's video is the one loaded. -/
theorem stale_status :
    composed.Agrees twoCameras ∧
      ¬(run (launcher (.exited 127)) twoCameras composed [.mode "POST" "visible"]).Agrees
        twoCameras := by
  refine ⟨composed_agrees, fun h ↦ ?_⟩
  have hv := (agrees_iff.mp h).video
  exact absurd hv (by decide +kernel)

end ControlSystem

end TriFusion.Protocol
