import TriFusion.Library.Simulation
import TriFusion.Media.PipelineNodes

namespace TriFusion.Media

open Foundation Hardware Device Library

inductive UseCall
  | start
  | work
  | stop
  deriving DecidableEq

def UseCall.toCall : UseCall → PipelineCall
  | .start => .start
  | .work => .work
  | .stop => .stop

/-- What a call leaves to see: its answer, the rest of the program and the getters. -/
structure Seen (ω : Type) where
  ret : Result Unit
  shared : Shared ω
  state : PipelineState
  stats : PipelineStats
  graph : List Text

variable {ω : Type}

namespace PipelineSystem

def ret (io : MediaIo ω) (y : PipelineSystem ω) (call : UseCall) : Result Unit :=
  if call = .start ∧ y.2.crashed = false then (y.1.start io y.2).1 else .ok ()

def use (io : MediaIo ω) (y : PipelineSystem ω) (call : UseCall) : Seen ω × PipelineSystem ω :=
  let y' := step io y call.toCall
  (⟨ret io y call, y'.2, y'.1.state, y'.1.stats, y'.1.graph⟩, y')

end PipelineSystem

namespace MediaPipeline

variable {io : MediaIo ω} {p q : MediaPipeline} {s s' : Shared ω} {config : PipelineConfig}
  {context : PipelineContext}

/-- Set up anew, the object behaves as a new object does: among any devices, and whatever
calls follow, each leaves the same to see. -/
def Reinitialises (p : MediaPipeline) (config : PipelineConfig)
    (context : PipelineContext) : Prop :=
  ∀ (ω : Type) (io : MediaIo ω) (s : Shared ω), s.crashed = false →
    (p.init io config context s).1 = .ok () → ∀ calls,
      Simulation.answers (PipelineSystem.use io) (p.init io config context s).2 calls =
        Simulation.answers (PipelineSystem.use io)
          (({} : MediaPipeline).init io config context s).2 calls

def Captureless (config : PipelineConfig) : Prop :=
  config.requireVisible = false ∧ config.requireComposite = false

/-- The nodes that the configuration does not ask for are not there, or cannot be noticed:
a decoder that only hands frames on, and a conversion, have no use without a camera,
and a conversion has none without an encoder. -/
structure Clean (p : MediaPipeline) (config : PipelineConfig) : Prop where
  visible : p.visibleCapture = none ∨ config.requireVisible = true
  composite : p.compositeCapture = none ∨ config.requireComposite = true
  encoder : p.encoder = none ∨ config.useEncoder = true
  decoder : p.decoder = none ∨ config.useDecoder = true ∨
    p.decoder = some .mjpeg ∧ Captureless config
  formatConvert : p.formatConvert = none ∨ config.useEncoder = false ∨
    config.useFormatConvert = true ∨ Captureless config

/-- Objects that differ in members that no call reads. -/
structure Alike (p q : MediaPipeline) : Prop where
  same : q = { p with stopFlag := q.stopFlag, decoder := q.decoder,
                      formatConvert := q.formatConvert }
  stopFlag : p.worker = false ∨ q.stopFlag = p.stopFlag
  decoder : q.decoder = p.decoder ∨ Captureless p.config ∧
    (p.decoder = none ∨ p.decoder = some .mjpeg) ∧ (q.decoder = none ∨ q.decoder = some .mjpeg)
  formatConvert : q.formatConvert = p.formatConvert ∨ Captureless p.config ∨ p.encoder = none

theorem left_or_made {α : Type} {made : Bool} {new : α} {old : Option α}
    (h : old = none ∨ made = true) :
    (if made then some new else old) = if made then some new else none := by
  cases made with
  | false => exact h.resolve_right Bool.false_ne_true
  | true => rfl

theorem Clean.alike (h : p.Clean config) (hw : p.worker = false) :
    (({} : MediaPipeline).setUp config context).Alike (p.setUp config context) where
  same := by
    unfold setUp
    dsimp only
    rw [left_or_made h.visible, left_or_made h.composite, left_or_made h.encoder, hw]
  stopFlag := .inl rfl
  decoder := by
    unfold setUp
    dsimp only
    cases hu : config.useDecoder with
    | true => exact .inl rfl
    | false =>
      rcases h.decoder with hd | hd | ⟨hd, hc⟩
      · exact .inl hd
      · cases hu.symm.trans hd
      · exact .inr ⟨hc, .inl rfl, .inr hd⟩
  formatConvert := by
    unfold setUp
    dsimp only
    rcases h.formatConvert with hf | hu | hu | hc
    · rw [hf]
      exact .inl rfl
    · rw [hu]
      exact .inr (.inr rfl)
    · rw [hu, Bool.and_true]
      cases config.useEncoder with
      | false => exact .inr (.inr rfl)
      | true => exact .inl rfl
    · exact .inr (.inl hc)

theorem Alike.start (h : p.Alike q) (io : MediaIo ω) (s : Shared ω) :
    (q.start io s).1 = (p.start io s).1 ∧ (q.start io s).2.2 = (p.start io s).2.2 ∧
      (p.start io s).2.1.Alike (q.start io s).2.1 := by
  obtain ⟨hq, hs, hd, hf⟩ := h
  generalize q.stopFlag = stopFlag at hq hs
  generalize q.decoder = decoder at hq hd
  generalize q.formatConvert = formatConvert at hq hf
  subst hq
  have hc : MediaPipeline.startCaptureNodes io { p with
      stopFlag := stopFlag, decoder := decoder, formatConvert := formatConvert } s =
        p.startCaptureNodes io s := rfl
  unfold MediaPipeline.start
  rw [hc]
  dsimp only
  split
  · exact ⟨rfl, rfl, rfl, hs, hd, hf⟩
  · split
    · exact ⟨rfl, rfl, rfl, hs, hd, hf⟩
    · split
      · exact ⟨rfl, rfl, rfl, hs, hd, hf⟩
      · split
        · exact ⟨rfl, rfl, rfl, .inr rfl, hd, hf⟩
        · exact ⟨rfl, rfl, rfl, .inr rfl, hd, hf⟩

theorem Alike.stop (h : p.Alike q) (io : MediaIo ω) (s : Shared ω) :
    (q.stop io s).2 = (p.stop io s).2 ∧ (p.stop io s).1.Alike (q.stop io s).1 := by
  obtain ⟨hq, hs, hd, hf⟩ := h
  generalize q.stopFlag = stopFlag at hq hs
  generalize q.decoder = decoder at hq hd
  generalize q.formatConvert = formatConvert at hq hf
  subst hq
  have hrelease : MediaPipeline.releaseNodes io { p with
      stopFlag := true, worker := false, decoder := decoder, formatConvert := formatConvert } s =
        MediaPipeline.releaseNodes io { p with stopFlag := true, worker := false } s := by
    have hsilent (r : MediaPipeline) (hr : r.decoder = none ∨ r.decoder = some .mjpeg) :
        r.releaseNodes io s = MediaPipeline.releaseNodes io { r with decoder := none } s := by
      unfold releaseNodes
      rcases hr with hr | hr
      · rw [hr]
        rfl
      · rw [hr]
        rfl
    rcases hd with rfl | ⟨-, hp, hq⟩
    · rfl
    · rw [hsilent _ hq, hsilent { p with stopFlag := true, worker := false } hp]
      rfl
  unfold MediaPipeline.stop
  dsimp only
  rw [hrelease]
  exact ⟨rfl, rfl, .inl rfl, hd, hf⟩

variable (io s) in
theorem processOneFrame_captureless (h : Captureless p.config) :
    p.processOneFrame io s =
      (.error ⟨.pipelineBuildFailed, "pipeline has no capture node"⟩, p, s) := by
  have hn : p.captureNode = none := by
    unfold captureNode
    rw [h.1, h.2]
    rfl
  unfold processOneFrame
  rw [hn]
  rfl

def withConvert (node : Option FormatConvertNode) (p : MediaPipeline) : MediaPipeline :=
  { p with formatConvert := node }

section Convert

variable {α : Type} {node : Option FormatConvertNode}

def carry (node : Option FormatConvertNode) (out : Result α × MediaPipeline × Shared ω) :
    Result α × MediaPipeline × Shared ω :=
  (out.1, out.2.1.withConvert node, out.2.2)

variable (io p s node) in
theorem prepareFrameForPipeline_convert (he : p.encoder = none) (frame : VideoFrame) :
    (p.withConvert node).prepareFrameForPipeline io frame s =
      carry node (p.prepareFrameForPipeline io frame s) := by
  obtain ⟨config, context, graph, stats, state, visible, composite, decoder, encoder, convert,
    stopFlag, worker⟩ := p
  obtain rfl : encoder = none := he
  unfold prepareFrameForPipeline prepareRaw withConvert
  dsimp only
  split
  · rfl
  · split
    · split
      · split <;> rfl
      · rfl
    · rfl

theorem pushEncoded_convert (encoded : EncodedFrame) :
    pushEncoded encoded (p.withConvert node) s = carry node (pushEncoded encoded p s) := by
  unfold pushEncoded withConvert
  dsimp only
  split <;> rfl

variable (io p s node) in
theorem publishFrame_convert (he : p.encoder = none) (frame : VideoFrame) :
    (p.withConvert node).publishFrame io frame s = carry node (p.publishFrame io frame s) := by
  have hn : (p.withConvert node).encoder = none := he
  unfold publishFrame
  rw [he, hn]
  dsimp only
  have hc : (p.withConvert node).config = p.config := rfl
  rw [hc]
  split
  · rfl
  · split
    · rfl
    · exact pushEncoded_convert _

variable (io p s node) in
theorem processOneFrame_convert (he : p.encoder = none) :
    (p.withConvert node).processOneFrame io s = carry node (p.processOneFrame io s) := by
  have hn : (p.withConvert node).captureNode = p.captureNode := rfl
  have hc (n : CaptureNode) :
      s.call (n.capture io (p.withConvert node).config.captureTimeoutMs) =
        s.call (n.capture io p.config.captureTimeoutMs) := rfl
  unfold processOneFrame
  rw [hn]
  split
  · rfl
  · rw [hc]
    split
    · rfl
    · rename_i frame s₁ _
      have hpre := prepareFrameForPipeline_convert io
        { p with stats.capturedFrames := p.stats.capturedFrames + 1 }
        (s₁.record (.captured frame)) node he frame
      change prepareFrameForPipeline io frame { p.withConvert node with
        stats.capturedFrames := (p.withConvert node).stats.capturedFrames + 1 } _ = _ at hpre
      have hb := (prepareFrameForPipeline_leaves
        { p with stats.capturedFrames := p.stats.capturedFrames + 1 }
        (s₁.record (.captured frame)) io.passive_all frame).1
      dsimp only at hpre hb ⊢
      rw [hpre]
      generalize prepareFrameForPipeline io frame _ _ = out at hb ⊢
      obtain ⟨r, p₂, s₂⟩ := out
      cases r with
      | error e => rfl
      | ok out =>
        have he₂ : p₂.encoder = none := by
          unfold encoderBound at hb
          rw [he] at hb
          exact Option.map_eq_none_iff.mp hb
        exact publishFrame_convert io p₂ s₂ node he₂ out

variable (io s node) in
theorem runLoopTurn_convert (he : p.encoder = none) :
    (p.withConvert node).runLoopTurn io s =
      ((p.runLoopTurn io s).1.withConvert node, (p.runLoopTurn io s).2) := by
  unfold runLoopTurn
  rw [processOneFrame_convert io p s node he]
  rcases p.processOneFrame io s with ⟨r, p₁, s₁⟩
  cases r with
  | error e => rfl
  | ok u => rfl

end Convert

theorem Alike.refl (p : MediaPipeline) : p.Alike p := ⟨rfl, .inr rfl, .inl rfl, .inl rfl⟩

variable (io s) in
theorem runLoopTurn_captureless (h : Captureless p.config) :
    p.runLoopTurn io s =
      (p.recordError ⟨.pipelineBuildFailed, "pipeline has no capture node"⟩, s) := by
  unfold runLoopTurn
  rw [processOneFrame_captureless io s h]

theorem Alike.work (h : p.Alike q) (hr : q.stopFlag = p.stopFlag) (io : MediaIo ω)
    (s : Shared ω) : (q.runLoopTurn io s).2 = (p.runLoopTurn io s).2 ∧
      (p.runLoopTurn io s).1.Alike (q.runLoopTurn io s).1 := by
  obtain ⟨hq, hs, hd, hf⟩ := h
  rw [hr] at hq hs
  generalize q.decoder = decoder at hq hd
  generalize q.formatConvert = formatConvert at hq hf
  clear hr
  subst hq
  by_cases hc : Captureless p.config
  · have hq := runLoopTurn_captureless io s
      (p := { p with decoder := decoder, formatConvert := formatConvert }) hc
    rw [hq, runLoopTurn_captureless io s hc]
    exact ⟨rfl, rfl, hs, hd, hf⟩
  obtain rfl : decoder = p.decoder := hd.resolve_right fun h ↦ hc h.1
  rcases hf with rfl | hn | he
  · exact ⟨rfl, .refl _⟩
  · exact absurd hn hc
  · have hconvert := runLoopTurn_convert io s formatConvert he
    have hb : (p.runLoopTurn io s).1.encoder = none := by
      have hb : (p.runLoopTurn io s).1.encoderBound = p.encoderBound :=
        (runLoopTurn_leaves p s io.passive_all).1
      unfold encoderBound at hb
      rw [he] at hb
      exact Option.map_eq_none_iff.mp hb
    change runLoopTurn io { p with formatConvert := formatConvert } s = _ at hconvert
    rw [hconvert]
    exact ⟨rfl, rfl, .inr rfl, .inl rfl, .inr (.inr hb)⟩

end MediaPipeline

namespace PipelineSystem

open MediaPipeline

variable {io : MediaIo ω} {y z : PipelineSystem ω} {call : UseCall}

def Alike (y z : PipelineSystem ω) : Prop := z.2 = y.2 ∧ y.1.Alike z.1

theorem Alike.step (h : y.Alike z) : ret io z call = ret io y call ∧
    (step io y call.toCall).Alike (step io z call.toCall) := by
  obtain ⟨p, s⟩ := y
  obtain ⟨q, s'⟩ := z
  obtain ⟨hs, h⟩ := h
  obtain rfl : s' = s := hs
  cases hcrash : s'.crashed with
  | true =>
    rw [step_crashed hcrash, step_crashed hcrash]
    unfold ret
    simp only [hcrash, Bool.true_eq_false, and_false, if_false]
    exact ⟨trivial, rfl, h⟩
  | false =>
    unfold ret PipelineSystem.step
    simp only [hcrash, Bool.false_eq_true, if_false, and_true]
    cases call with
    | start =>
      obtain ⟨hret, hshared, halike⟩ := h.start io s'
      exact ⟨hret, hshared, halike⟩
    | stop =>
      refine ⟨rfl, h.stop io s'⟩
    | work =>
      refine ⟨rfl, ?_⟩
      have h : p.Alike q := h
      have hworker : q.worker = p.worker := (congrArg MediaPipeline.worker h.same :)
      cases hw : p.worker with
      | false =>
        rw [hworker, hw]
        exact ⟨rfl, h⟩
      | true =>
        have hflag : q.stopFlag = p.stopFlag :=
          h.stopFlag.resolve_left fun hn ↦ Bool.false_ne_true (hn.symm.trans hw)
        rw [hworker, hw, hflag]
        cases p.stopFlag with
        | true => exact ⟨rfl, h⟩
        | false => exact h.work hflag io s'

theorem alike_simulates (io : MediaIo ω) : Simulation.Simulates Alike (use io) (use io) where
  answer y z call h := by
    obtain ⟨hret, hshared, halike⟩ := h.step
    have hstate : (step io z call.toCall).1.state = (step io y call.toCall).1.state :=
      (congrArg MediaPipeline.state halike.same :)
    have hstats : (step io z call.toCall).1.stats = (step io y call.toCall).1.stats :=
      (congrArg MediaPipeline.stats halike.same :)
    have hgraph : (step io z call.toCall).1.graph = (step io y call.toCall).1.graph :=
      (congrArg MediaPipeline.graph halike.same :)
    unfold use
    dsimp only
    rw [hret, hshared, hstate, hstats, hgraph]
  related y z call h := h.step.2

end PipelineSystem

namespace MediaPipeline

variable {io : MediaIo ω} {p q : MediaPipeline} {s s' : Shared ω} {config : PipelineConfig}
  {context : PipelineContext}

theorem Clean.reinitialises (h : p.Clean config) (hs : p.state = .stopped)
    (hw : p.worker = false) : p.Reinitialises config context := by
  have hr : p.state ≠ .running := by
    rw [hs]
    decide
  intro ω io s _ hok calls
  rcases init_cases io config context s with ⟨e, s', herr⟩ | ⟨s', -, hinit⟩
  · obtain ⟨q, hq, -⟩ := herr p hr
    rw [hq] at hok
    cases hok
  · rw [hinit p hr, hinit {} (by decide)]
    have halike : PipelineSystem.Alike (({} : MediaPipeline).setUp config context, s')
        (p.setUp config context, s') := ⟨rfl, h.alike hw⟩
    exact ((PipelineSystem.alike_simulates io).answers_eq halike calls).symm

end MediaPipeline

end TriFusion.Media
