import TriFusion.Media.EncoderReady
import TriFusion.Media.WorkerHandle

namespace TriFusion.Media

open Foundation Hardware Device Library

variable {ω : Type} {io : MediaIo ω}

theorem MediaIo.passive_all (io : MediaIo ω) : io.Passive fun _ ↦ True where
  startCamera _ _ _ := trivial
  stopCamera _ _ _ := trivial
  readFrame _ _ _ _ := trivial
  decoderInit _ _ _ := trivial
  decode _ _ _ := trivial
  decoderRelease _ _ := trivial
  encodeNv12 _ _ _ _ := trivial
  imcvtcolor _ _ _ _ := trivial
  nowMs _ _ := trivial

namespace MediaPipeline

variable {p q : MediaPipeline} {s s' : Shared ω} {config : PipelineConfig}
  {context : PipelineContext}

def madeDecoder (context : PipelineContext) : Decoder :=
  if context.mjpegDecoder then .mppMjpeg true else .mjpeg

def named (made : Bool) (name : Text) : List Text := if made then [name] else []

def decoderName (context : PipelineContext) : Text :=
  if context.mjpegDecoder then "MppMjpegDecoder" else "MjpegDecoderPassthrough"

def convertName (config : PipelineConfig) : Text :=
  "FormatConvertNode(".toList ++ config.encoderInputFormat.toText ++ ")".toList

def outputNames (config : PipelineConfig) : List Text :=
  if config.useEncoder then named true "MppH264Encoder"
  else named config.passthroughEncoded "EncodedPassthrough"

def nodeNames (config : PipelineConfig) (context : PipelineContext) : List Text :=
  named config.requireVisible "VisibleCaptureNode" ++
    named config.requireComposite "CompositeCaptureNode" ++
    named config.useDecoder (decoderName context) ++
    named (config.useEncoder && config.useFormatConvert) (convertName config) ++
    outputNames config ++ named true "MainStream"

/-- What a successful `init` makes of an object: the nodes that the configuration
asks for are new, the others are as they were. -/
def setUp (config : PipelineConfig) (context : PipelineContext) (p : MediaPipeline) :
    MediaPipeline :=
  { p with
    config := config
    context := context
    graph := nodeNames config context
    stats := {}
    state := .initialized
    visibleCapture :=
      if config.requireVisible then some ⟨.visible, context.cameraManager⟩ else p.visibleCapture
    compositeCapture :=
      if config.requireComposite then some ⟨.compositeLowThermal, context.cameraManager⟩
      else p.compositeCapture
    decoder := if config.useDecoder then some (madeDecoder context) else p.decoder
    encoder := if config.useEncoder then some { bound := context.encoder } else p.encoder
    formatConvert :=
      if config.useEncoder && config.useFormatConvert then some ⟨config.encoderInputFormat⟩
      else p.formatConvert }

theorem addNode_eq (name : Text) (p : MediaPipeline) :
    p.addNode name = { p with graph := p.graph ++ named true name } := rfl

theorem append_named_false (names : List Text) (name : Text) :
    names ++ named false name = names :=
  List.append_nil names

theorem initVisible_eq (hm : p.context.cameraManager ≠ none) :
    p.initVisible = (.ok (),
      { p with
        visibleCapture :=
          if p.config.requireVisible then some ⟨.visible, p.context.cameraManager⟩
          else p.visibleCapture
        graph := p.graph ++ named p.config.requireVisible "VisibleCaptureNode" }) := by
  unfold initVisible CaptureNode.init
  cases p.config.requireVisible with
  | false =>
    simp only [Bool.not_false, if_true, Bool.false_eq_true, if_false, named, List.append_nil]
  | true =>
    rw [if_neg hm]
    rfl

theorem initComposite_eq (hm : p.context.cameraManager ≠ none) :
    p.initComposite = (.ok (),
      { p with
        compositeCapture :=
          if p.config.requireComposite then some ⟨.compositeLowThermal, p.context.cameraManager⟩
          else p.compositeCapture
        graph := p.graph ++ named p.config.requireComposite "CompositeCaptureNode" }) := by
  unfold initComposite CaptureNode.init
  cases p.config.requireComposite with
  | false =>
    simp only [Bool.not_false, if_true, Bool.false_eq_true, if_false, named, List.append_nil]
  | true =>
    rw [if_neg hm]
    rfl

theorem initFormatConvert_eq (p : MediaPipeline) :
    p.initFormatConvert =
      { p with
        formatConvert :=
          if p.config.useEncoder && p.config.useFormatConvert then
            some ⟨p.config.encoderInputFormat⟩
          else p.formatConvert
        graph := p.graph ++
          named (p.config.useEncoder && p.config.useFormatConvert) (convertName p.config) } := by
  unfold initFormatConvert
  cases p.config.useEncoder && p.config.useFormatConvert with
  | false => simp only [Bool.false_eq_true, if_false, named, List.append_nil]
  | true => rfl

theorem initDecoder_used (hu : q.config.useDecoder = true) (s : Shared ω) :
    q.initDecoder io s =
      match s.call ((madeDecoder q.context).init io) with
      | (.error e, s) => (.error e, { q with decoder := some (madeDecoder q.context) }, s)
      | (.ok (), s) => (.ok (),
          { q with
            decoder := some (madeDecoder q.context)
            graph := q.graph ++ named true (decoderName q.context) }, s) := by
  have hq : ¬(!q.config.useDecoder) = true := by
    rw [hu]
    decide
  unfold initDecoder
  rw [if_neg hq]
  rfl

theorem initEncoder_used (hu : q.config.useEncoder = true) (s : Shared ω) :
    q.initEncoder io s =
      match s.call (MppH264Encoder.init io s.mainStream.profile { bound := q.context.encoder }) with
      | (.error e, s) => (.error e, { q with encoder := some { bound := q.context.encoder } }, s)
      | (.ok (), s) => (.ok (),
          { q with
            encoder := some { bound := q.context.encoder }
            graph := q.graph ++ named true "MppH264Encoder" }, s) := by
  unfold initEncoder
  rw [if_pos hu]
  rfl

theorem initDecoder_cases (io : MediaIo ω) (config : PipelineConfig) (context : PipelineContext)
    (s : Shared ω) :
    (∃ e s', ∀ q : MediaPipeline, q.config = config → q.context = context →
        q.initDecoder io s = (.error e, { q with decoder := some (madeDecoder context) }, s')) ∨
      ∃ s', ∀ q : MediaPipeline, q.config = config → q.context = context →
        q.initDecoder io s = (.ok (),
          { q with
            decoder := if config.useDecoder then some (madeDecoder context) else q.decoder
            graph := q.graph ++ named config.useDecoder (decoderName context) }, s') := by
  cases hu : config.useDecoder with
  | false =>
    refine .inr ⟨s, fun q hc hx ↦ ?_⟩
    have hq : (!q.config.useDecoder) = true := by rw [hc, hu]; rfl
    unfold initDecoder
    rw [if_pos hq, append_named_false]
    rfl
  | true =>
    rcases hd : s.call ((madeDecoder context).init io) with ⟨r, s₁⟩
    cases r with
    | error e =>
      refine .inl ⟨e, s₁, fun q hc hx ↦ ?_⟩
      subst hc hx
      rw [initDecoder_used hu, hd]
    | ok u =>
      refine .inr ⟨s₁, fun q hc hx ↦ ?_⟩
      subst hc hx
      rw [initDecoder_used hu, hd]
      rfl

theorem initEncoder_cases (io : MediaIo ω) (config : PipelineConfig) (context : PipelineContext)
    (s : Shared ω) :
    (∃ e s', ∀ q : MediaPipeline, q.config = config → q.context = context →
        q.initEncoder io s =
          (.error e, { q with encoder := some { bound := context.encoder } }, s')) ∨
      ∃ s', ∀ q : MediaPipeline, q.config = config → q.context = context →
        q.initEncoder io s = (.ok (),
          { q with
            encoder := if config.useEncoder then some { bound := context.encoder } else q.encoder
            graph := q.graph ++ outputNames config }, s') := by
  unfold outputNames
  cases hu : config.useEncoder with
  | false =>
    refine .inr ⟨s, fun q hc hx ↦ ?_⟩
    subst hc
    unfold initEncoder
    rw [if_neg (Bool.eq_false_iff.mp hu)]
    cases hp : q.config.passthroughEncoded with
    | false =>
      rw [if_neg Bool.false_ne_true, if_neg Bool.false_ne_true, if_neg Bool.false_ne_true,
        append_named_false]
    | true => rfl
  | true =>
    rcases hd : s.call (MppH264Encoder.init io s.mainStream.profile { bound := context.encoder })
      with ⟨r, s₁⟩
    cases r with
    | error e =>
      refine .inl ⟨e, s₁, fun q hc hx ↦ ?_⟩
      subst hc hx
      rw [initEncoder_used hu, hd]
    | ok u =>
      refine .inr ⟨s₁, fun q hc hx ↦ ?_⟩
      subst hc hx
      rw [initEncoder_used hu, hd]
      rfl

/-- An `init` that fails has made some of the nodes and left the others. -/
structure Renewed (config : PipelineConfig) (context : PipelineContext) (p q : MediaPipeline) :
    Prop where
  visible : q.visibleCapture = p.visibleCapture ∨
    q.visibleCapture = some ⟨.visible, context.cameraManager⟩
  composite : q.compositeCapture = p.compositeCapture ∨
    q.compositeCapture = some ⟨.compositeLowThermal, context.cameraManager⟩
  decoder : q.decoder = p.decoder ∨ q.decoder = some (madeDecoder context)
  encoder : q.encoder = p.encoder ∨
    config.useEncoder = true ∧ q.encoder = some { bound := context.encoder }

def cleared (config : PipelineConfig) (context : PipelineContext) (p : MediaPipeline) :
    MediaPipeline :=
  { p with config := config, context := context, stats := {}, graph := [] }

theorem eq_or_made {α : Type} (made : Bool) (new old : α) :
    (if made then new else old) = old ∨ (if made then new else old) = new := by
  cases made with
  | false => exact .inl rfl
  | true => exact .inr rfl

def captured (config : PipelineConfig) (context : PipelineContext) (p : MediaPipeline) :
    MediaPipeline :=
  { p.cleared config context with
    graph := named config.requireVisible "VisibleCaptureNode" ++
      named config.requireComposite "CompositeCaptureNode"
    visibleCapture :=
      if config.requireVisible then some ⟨.visible, context.cameraManager⟩ else p.visibleCapture
    compositeCapture :=
      if config.requireComposite then some ⟨.compositeLowThermal, context.cameraManager⟩
      else p.compositeCapture }

def decoding (config : PipelineConfig) (context : PipelineContext) (p : MediaPipeline) :
    MediaPipeline :=
  { p.captured config context with
    decoder := if config.useDecoder then some (madeDecoder context) else p.decoder
    graph := (p.captured config context).graph ++ named config.useDecoder (decoderName context) }

theorem initNodes_captured (hm : context.cameraManager ≠ none) (p : MediaPipeline) (s : Shared ω) :
    (p.cleared config context).initNodes io s =
      match (p.captured config context).initDecoder io s with
      | (.error e, p, s) => (.error e, p, s)
      | (.ok (), p, s) =>
        match p.initFormatConvert.initEncoder io s with
        | (.error e, p, s) => (.error e, p, s)
        | (.ok (), p, s) => (.ok (), { p.addNode "MainStream" with state := .initialized }, s) := by
  have hv := initVisible_eq (p := p.cleared config context) hm
  unfold initNodes
  rw [hv]
  dsimp only
  rw [initComposite_eq hm]
  rfl

theorem initNodes_cases (io : MediaIo ω) (config : PipelineConfig) (context : PipelineContext)
    (s : Shared ω) (hm : context.cameraManager ≠ none) :
    (∃ e s', ∀ p : MediaPipeline, ∃ q,
        (p.cleared config context).initNodes io s = (.error e, q, s') ∧
          p.Renewed config context q) ∨
      ∃ s', ∀ p : MediaPipeline,
        (p.cleared config context).initNodes io s = (.ok (), p.setUp config context, s') := by
  rcases initDecoder_cases io config context s with ⟨e, s₁, hd⟩ | ⟨s₁, hd⟩
  · refine .inl ⟨e, s₁, fun p ↦ ?_⟩
    refine ⟨{ p.captured config context with decoder := some (madeDecoder context) }, ?_,
      ⟨eq_or_made _ _ _, eq_or_made _ _ _, .inr rfl, .inl rfl⟩⟩
    rw [initNodes_captured hm, hd (p.captured config context) rfl rfl]
  have hdec (p : MediaPipeline) :
      (p.captured config context).initDecoder io s = (.ok (), p.decoding config context, s₁) :=
    hd _ rfl rfl
  have hset (p : MediaPipeline) : (p.decoding config context).initFormatConvert.config = config ∧
      (p.decoding config context).initFormatConvert.context = context :=
    initFormatConvert_setup
  rcases initEncoder_cases io config context s₁ with ⟨e, s₂, he⟩ | ⟨s₂, he⟩
  · cases hu : config.useEncoder with
    | false =>
      have h := he { config := config, context := context } rfl rfl
      unfold initEncoder at h
      rw [if_neg (Bool.eq_false_iff.mp hu)] at h
      split at h
      · cases (Prod.mk.inj h).1
      · cases (Prod.mk.inj h).1
    | true =>
      refine .inl ⟨e, s₂, fun p ↦ ?_⟩
      refine ⟨{ (p.decoding config context).initFormatConvert with
        encoder := some { bound := context.encoder } }, ?_, ?_⟩
      · rw [initNodes_captured hm, hdec]
        dsimp only
        rw [he _ (hset p).1 (hset p).2]
      · rw [initFormatConvert_eq]
        exact ⟨eq_or_made _ _ _, eq_or_made _ _ _, eq_or_made _ _ _, .inr ⟨hu, rfl⟩⟩
  · refine .inr ⟨s₂, fun p ↦ ?_⟩
    rw [initNodes_captured hm, hdec]
    dsimp only
    rw [he _ (hset p).1 (hset p).2, initFormatConvert_eq]
    dsimp only
    rw [addNode_eq]
    rfl

theorem validateContext_ok (h : p.validateContext = .ok ()) :
    ∃ manager, p.context.cameraManager = some manager ∧ p.context.mainStream = true ∧
      (p.config.requireVisible = true → manager.visibleCamera = true) ∧
      (p.config.requireComposite = true → manager.compositeCamera = true) := by
  unfold validateContext at h
  split at h
  · cases h
  · rename_i manager hm
    refine ⟨manager, hm, ?_⟩
    split at h
    · cases h
    · split at h
      · cases h
      · split at h
        · cases h
        · rename_i hs hv hc
          refine ⟨?_, fun hr ↦ ?_, fun hr ↦ ?_⟩
          · rw [Bool.not_eq_true', Bool.not_eq_false] at hs
            exact hs
          · rw [hr, Bool.true_and, Bool.not_eq_true', Bool.not_eq_false] at hv
            exact hv
          · rw [hr, Bool.true_and, Bool.not_eq_true', Bool.not_eq_false] at hc
            exact hc

theorem init_invalid (io : MediaIo ω) (s : Shared ω) (hr : p.state ≠ .running) {e : Status}
    (hv : (p.cleared config context).validateContext = .error e) :
    p.init io config context s = (.error e, p.cleared config context, s) := by
  unfold cleared at hv
  unfold init
  rw [if_neg hr]
  dsimp only
  rw [hv]
  rfl

theorem init_valid (io : MediaIo ω) (s : Shared ω) (hr : p.state ≠ .running)
    (hv : (p.cleared config context).validateContext = .ok ()) :
    p.init io config context s = (p.cleared config context).initNodes io s := by
  unfold cleared at hv
  unfold init
  rw [if_neg hr]
  dsimp only
  rw [hv]
  rfl

/-- Whether `init` succeeds, and what it does to the rest of the program, is the same
for every object that is not running. -/
theorem init_cases (io : MediaIo ω) (config : PipelineConfig) (context : PipelineContext)
    (s : Shared ω) :
    (∃ e s', ∀ p : MediaPipeline, p.state ≠ .running → ∃ q,
        p.init io config context s = (.error e, q, s') ∧
          (q = p.cleared config context ∨
            (p.cleared config context).validateContext = .ok () ∧ p.Renewed config context q)) ∨
      ∃ s', (∀ p : MediaPipeline, (p.cleared config context).validateContext = .ok ()) ∧
        ∀ p : MediaPipeline, p.state ≠ .running →
          p.init io config context s = (.ok (), p.setUp config context, s') := by
  have hsame (p : MediaPipeline) : (p.cleared config context).validateContext =
      (({} : MediaPipeline).cleared config context).validateContext := rfl
  cases hv : (({} : MediaPipeline).cleared config context).validateContext with
  | error e =>
    refine .inl ⟨e, s, fun p hr ↦ ⟨p.cleared config context, ?_, .inl rfl⟩⟩
    exact init_invalid io s hr ((hsame p).trans hv)
  | ok u =>
    obtain ⟨manager, hm, -⟩ := validateContext_ok hv
    have hm : context.cameraManager ≠ none := by
      rw [show context.cameraManager = some manager from hm]
      exact Option.some_ne_none manager
    have hinit (p : MediaPipeline) (hr : p.state ≠ .running) :
        p.init io config context s = (p.cleared config context).initNodes io s :=
      init_valid io s hr ((hsame p).trans hv)
    rcases initNodes_cases io config context s hm with ⟨e, s₁, h⟩ | ⟨s₁, h⟩
    · refine .inl ⟨e, s₁, fun p hr ↦ ?_⟩
      obtain ⟨q, hq, hrenewed⟩ := h p
      exact ⟨q, (hinit p hr).trans hq, .inr ⟨(hsame p).trans hv, hrenewed⟩⟩
    · refine .inr ⟨s₁, fun p ↦ (hsame p).trans hv, fun p hr ↦ ?_⟩
      rw [hinit p hr]
      exact h p

def WorkedOn (p q : MediaPipeline) : Prop :=
  q = { p with stats := q.stats, state := q.state, encoder := q.encoder }

theorem WorkedOn.refl (p : MediaPipeline) : p.WorkedOn p := rfl

theorem WorkedOn.trans {p₁ : MediaPipeline} (h : p.WorkedOn p₁) (h' : p₁.WorkedOn q) :
    p.WorkedOn q := by
  unfold WorkedOn at *
  rw [h', h]

variable (io p s) in
theorem prepareFrameForPipeline_worked (frame : VideoFrame) :
    p.WorkedOn (p.prepareFrameForPipeline io frame s).2.1 := by
  unfold prepareFrameForPipeline
  split
  · exact .refl p
  · split
    · split
      · dsimp only
        split
        · exact .refl p
        · exact rfl
      · split <;> exact .refl p
    · exact .refl p

theorem pushEncoded_worked (encoded : EncodedFrame) :
    p.WorkedOn (pushEncoded encoded p s).2.1 := by
  unfold pushEncoded
  dsimp only
  split <;> exact rfl

theorem publishFrame_worked (frame : VideoFrame) :
    p.WorkedOn (p.publishFrame io frame s).2.1 := by
  unfold publishFrame
  split
  · dsimp only
    split
    · exact rfl
    · refine WorkedOn.trans ?_ (pushEncoded_worked _)
      exact rfl
  · split
    · exact .refl p
    · split
      · exact .refl p
      · exact pushEncoded_worked _

theorem processOneFrame_worked : p.WorkedOn (p.processOneFrame io s).2.1 := by
  unfold processOneFrame
  split
  · exact .refl p
  · split
    · exact .refl p
    · rename_i frame s₁ _
      dsimp only
      generalize hp : ({ p with stats.capturedFrames := p.stats.capturedFrames + 1 } :
        MediaPipeline) = p₁
      have h₁ : p.WorkedOn p₁ := hp ▸ rfl
      have h₂ := h₁.trans (prepareFrameForPipeline_worked io p₁ (s₁.record (.captured frame)) frame)
      split <;> rename_i hx <;> rw [hx] at h₂
      · exact h₂
      · exact h₂.trans (publishFrame_worked _)

theorem runLoopTurn_worked : p.WorkedOn (p.runLoopTurn io s).1 := by
  have h : p.WorkedOn (p.processOneFrame io s).2.1 := processOneFrame_worked
  unfold runLoopTurn
  split <;> rename_i hx <;> rw [hx] at h
  · exact h.trans rfl
  · exact h

variable (io p s) in
theorem start_keeps_nodes : ∃ state stopFlag worker,
    (p.start io s).2.1 = { p with state := state, stopFlag := stopFlag, worker := worker } := by
  unfold start
  split
  · exact ⟨_, _, _, rfl⟩
  · split
    · exact ⟨_, _, _, rfl⟩
    · split
      · exact ⟨_, _, _, rfl⟩
      · dsimp only
        split <;> exact ⟨_, _, _, rfl⟩

/-- What the nodes of an object always look like, whatever has happened to it. -/
structure Sound (p : MediaPipeline) : Prop where
  visible : ∀ n, p.visibleCapture = some n → n.cameraId = .visible ∧ n.manager ≠ none
  composite : ∀ n, p.compositeCapture = some n →
    n.cameraId = .compositeLowThermal ∧ n.manager ≠ none
  decoder : p.decoder ≠ some (.mppMjpeg false)
  encoder : p.encoderBound ≠ some false
  joined : p.state = .stopped → p.worker = false

theorem Sound.renewed (h : p.Sound) (hr : p.Renewed config context q)
    (hm : context.cameraManager ≠ none) (he : config.useEncoder = true → context.encoder = true)
    (hj : q.state = .stopped → q.worker = false) : q.Sound where
  visible n hn := by
    rcases hr.visible with hv | hv
    · exact h.visible n (hv.symm.trans hn)
    · obtain rfl := Option.some.inj (hv.symm.trans hn)
      exact ⟨rfl, hm⟩
  composite n hn := by
    rcases hr.composite with hc | hc
    · exact h.composite n (hc.symm.trans hn)
    · obtain rfl := Option.some.inj (hc.symm.trans hn)
      exact ⟨rfl, hm⟩
  decoder hd := by
    rcases hr.decoder with hk | hk
    · exact h.decoder (hk.symm.trans hd)
    · have hmade : madeDecoder context = .mppMjpeg false := Option.some.inj (hk.symm.trans hd)
      unfold madeDecoder at hmade
      split at hmade <;> cases hmade
  encoder hb := by
    rcases hr.encoder with hk | ⟨hu, hk⟩
    · refine h.encoder (Eq.trans ?_ hb)
      unfold encoderBound
      rw [hk]
    · unfold encoderBound at hb
      rw [hk] at hb
      have hf : context.encoder = false := Option.some.inj hb
      rw [he hu] at hf
      cases hf
  joined := hj

theorem setUp_renewed : p.Renewed config context (p.setUp config context) where
  visible := eq_or_made _ _ _
  composite := eq_or_made _ _ _
  decoder := eq_or_made _ _ _
  encoder := by
    unfold setUp
    dsimp only
    cases hu : config.useEncoder with
    | false => exact .inl rfl
    | true => exact .inr ⟨rfl, rfl⟩

theorem Sound.init (h : p.Sound) (io : MediaIo ω) (s : Shared ω) :
    (p.init io config context s).2.1.Sound := by
  by_cases hr : p.state = .running
  · rw [init_running hr]
    exact h
  have hvalid (hv : (p.cleared config context).validateContext = .ok ()) :
      context.cameraManager ≠ none ∧ (config.useEncoder = true → context.encoder = true) := by
    obtain ⟨manager, hm, -⟩ := validateContext_ok hv
    exact ⟨fun hn ↦ Option.some_ne_none manager (hm.symm.trans hn), validateContext_encoder hv⟩
  rcases init_cases io config context s with ⟨e, s', herr⟩ | ⟨s', hv, hok⟩
  · have hh := init_handle io p s config context
    obtain ⟨q, hq, hcase⟩ := herr p hr
    rw [hq] at hh ⊢
    have hj : q.state = .stopped → q.worker = false := by
      rcases hh with ⟨e', -, hh⟩ | ⟨hok, -⟩
      · intro hs
        exact hh.2.1.trans (h.joined (hh.1.symm.trans hs))
      · cases hok
    rcases hcase with rfl | ⟨hv, hrenewed⟩
    · exact ⟨h.visible, h.composite, h.decoder, h.encoder, hj⟩
    · exact h.renewed hrenewed (hvalid hv).1 (hvalid hv).2 hj
  · rw [hok p hr]
    refine h.renewed setUp_renewed (hvalid (hv p)).1 (hvalid (hv p)).2 fun hs ↦ ?_
    cases hs

theorem Sound.step {y : PipelineSystem ω} (h : y.1.Sound) (call : PipelineCall) :
    (PipelineSystem.step io y call).1.Sound := by
  obtain ⟨p, s⟩ := y
  unfold PipelineSystem.step
  dsimp only
  split
  · exact h
  · cases call with
    | init config context => exact h.init io s
    | start =>
      have hj : (p.start io s).2.1.state = .stopped → (p.start io s).2.1.worker = false := by
        rcases start_cases io p s with
          ⟨e, -, hp, -⟩ | ⟨-, -, ⟨-, hstate, hworker, -⟩ | ⟨-, -, -, hp, -⟩⟩
        · rw [hp]
          exact h.joined
        · rw [hstate, hworker]
          exact h.joined
        · rw [hp]
          intro hs
          cases hs
      obtain ⟨state, stopFlag, worker, hq⟩ := start_keeps_nodes io p s
      dsimp only
      rw [hq] at hj ⊢
      exact ⟨h.visible, h.composite, h.decoder, h.encoder, hj⟩
    | stop => exact ⟨h.visible, h.composite, h.decoder, h.encoder, fun _ ↦ rfl⟩
    | work =>
      dsimp only
      split
      · have hj : (p.runLoopTurn io s).1.state = .stopped →
            (p.runLoopTurn io s).1.worker = false := by
          obtain ⟨hworker, -, ⟨-, hstate⟩ | ⟨-, hstate⟩⟩ := runLoopTurn_cases io p s
          · rw [hstate, hworker]
            exact h.joined
          · rw [hstate]
            intro hs
            cases hs
        have hb : (p.runLoopTurn io s).1.encoderBound = p.encoderBound :=
          (runLoopTurn_leaves p s io.passive_all).1
        have hw : p.WorkedOn (p.runLoopTurn io s).1 := runLoopTurn_worked
        refine ⟨fun n hn ↦ h.visible n ?_, fun n hn ↦ h.composite n ?_, fun hd ↦ h.decoder ?_,
          fun he ↦ h.encoder (hb.symm.trans he), hj⟩
        · rw [hw] at hn
          exact hn
        · rw [hw] at hn
          exact hn
        · rw [hw] at hd
          exact hd
      · exact h

theorem fresh_sound : ({} : MediaPipeline).Sound where
  visible n hn := by cases hn
  composite n hn := by cases hn
  decoder hd := by cases hd
  encoder he := by cases he
  joined _ := rfl

end MediaPipeline

theorem PipelineSystem.run_sound (io : MediaIo ω) (mainStream : MainStream) (events : List Event)
    (outside : ω) (calls : List PipelineCall) :
    (run io (fresh mainStream events outside) calls).1.Sound :=
  Runs.exec_invariant (I := fun y : PipelineSystem ω ↦ y.1.Sound)
    (fun _ call h ↦ MediaPipeline.Sound.step h call) MediaPipeline.fresh_sound calls

end TriFusion.Media
