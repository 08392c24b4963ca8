import TriFusion.Media.ProcessWorld
import TriFusion.Protocol.ControlTracking
import TriFusion.Protocol.SensorPanel
import TriFusion.Protocol.StatusAgreement

namespace TriFusion.Protocol

open Foundation Hardware DeviceControl Media Library CompositeSensorController PrivateControlServer

namespace PrivateCompositeControlKind

def register : PrivateCompositeControlKind → CompositeSensorRegister
  | .contourMode => .contourMode
  | .infraredPolarity => .infraredPolarity
  | .fusionColor | .unknown => .fusionColor

def nameOf : PrivateCompositeControlKind → UInt16 → Text
  | .fusionColor => fusionColorValueName
  | .contourMode => contourModeValueName
  | .infraredPolarity => infraredPolarityValueName
  | .unknown => fun _ ↦ []

/-- What a panel is to show of a control of a sensor that holds these words. -/
def valueName (words : UInt16 → UInt16) (kind : PrivateCompositeControlKind) : Text :=
  kind.nameOf (words kind.register.address)

end PrivateCompositeControlKind

namespace Probe

section Effects

variable {ω : Type} {io : ProbeIo ω} {idle : ω → Prop} {regs : ω → UInt16 → UInt16} {takes : Prop}
  {words : UInt16 → UInt16} {x : Probe ω} (setup : ProbeSetup)

/-- What the control program reaches outside: a line to a sensor, and a clock and processes that
leave it alone. -/
structure Reaches (io : ProbeIo ω) (idle : ω → Prop) (regs : ω → UInt16 → UInt16)
    (takes : Prop) : Prop where
  line : SensorLine io.tty idle regs takes
  clock : Undisturbed idle regs fun w ↦ (io.nowMs w).2
  process : ∀ words, io.process.Keeps fun w ↦ idle w ∧ regs w = words

/-- The controller can be used, the sensor holds these words, and its mode is the one that the
controller knows, if it knows any. -/
structure Shows (idle : ω → Prop) (regs : ω → UInt16 → UInt16) (words : UInt16 → UInt16)
    (x : Probe ω) : Prop where
  operable : x.compositeController.Operable
  idle : idle x.outside
  held : regs x.outside = words
  mode : x.compositeController.state.currentMode = .unknown ∨
    words CompositeSensorRegister.fusionMode.address =
      x.compositeController.state.currentMode.registerValue

theorem startPipeline_shows (h : Reaches io idle regs takes) (hx : Shows idle regs words x) :
    Shows idle regs words (x.startPipeline io).2 := by
  obtain ⟨hi, hw⟩ := GStreamerPipeline.start_keeps (h.process words) x.pipeline ⟨hx.idle, hx.held⟩
  exact ⟨hx.operable, hi, hw, hx.mode⟩

theorem stopPipeline_shows (h : Reaches io idle regs takes) (hx : Shows idle regs words x) :
    Shows idle regs words (x.stopPipeline io).2 := by
  obtain ⟨hi, hw⟩ := GStreamerPipeline.stop_keeps (h.process words) x.pipeline ⟨hx.idle, hx.held⟩
  exact ⟨hx.operable, hi, hw, hx.mode⟩

def SameSettings (words words' : UInt16 → UInt16) : Prop :=
  ∀ address, address ≠ CompositeSensorRegister.fusionMode.address → words' address = words address

theorem setOutputMode_shows (h : Reaches io idle regs takes) (hx : Shows idle regs words x)
    (mode : CompositeSensorOutputMode) :
    ∃ words', SameSettings words words' ∧ Shows idle regs words' (x.setOutputMode io mode).2 := by
  have hmode := x.compositeController.writeRegister_currentMode io.tty x.outside
    CompositeSensorRegister.fusionMode.address mode.registerValue
  by_cases hu : mode = .unknown
  · have he : x.setOutputMode io mode =
        (.fail .invalidArgument "invalid composite sensor output mode", x) := by
      unfold setOutputMode CompositeSensorController.setOutputMode setFusionMode
      rw [if_pos hu]
    exact ⟨words, fun _ _ ↦ rfl, by rw [he]; exact hx⟩
  · rcases hr : writeRegister io.tty CompositeSensorRegister.fusionMode.address mode.registerValue
      x.compositeController x.outside with ⟨result, ctl, w⟩
    obtain ⟨ho, hi, hregs, -⟩ := h.line.write hx.operable hx.idle (by decide) hr
    rw [hr] at hmode
    rw [hx.held] at hregs
    unfold setOutputMode CompositeSensorController.setOutputMode setFusionMode
    rw [if_neg hu, hr]
    cases result with
    | error e => exact ⟨words, fun _ _ ↦ rfl, ho, hi, hregs, by rw [hmode]; exact hx.mode⟩
    | ok u =>
      obtain ⟨hi', hw'⟩ := h.clock w hi
      rw [Result.succeeded_ok, if_pos rfl, RegisterCommand.store, if_neg (by decide)] at hregs
      refine ⟨Function.update words CompositeSensorRegister.fusionMode.address mode.registerValue,
        fun address ha ↦ Function.update_of_ne ha _ _, publishModeChanged_operable ho, hi',
        hw'.trans hregs, .inr ?_⟩
      dsimp only
      rw [publishModeChanged_state, Function.update_self]

theorem switchCallback_shows (h : Reaches io idle regs takes) (hx : Shows idle regs words x)
    (targetMode : PrivateWorkMode) :
    ∃ words', SameSettings words words' ∧
      Shows idle regs words' (switchCallback io setup targetMode x).2 := by
  have hstop := stopPipeline_shows h hx
  unfold switchCallback
  dsimp only
  split
  · exact ⟨words, fun _ _ ↦ rfl, hx⟩
  rename_i compositeMode need _
  generalize x.stopPipeline io = r at hstop ⊢
  obtain ⟨stopped, x₁⟩ := r
  cases stopped with
  | false => exact ⟨words, fun _ _ ↦ rfl, hstop⟩
  | true =>
    have hready : ∃ words', SameSettings words words' ∧
        Shows idle regs words' (x₁.readySensor io setup compositeMode need).2 := by
      obtain ⟨words', hsame, hset⟩ := setOutputMode_shows h hstop compositeMode
      unfold readySensor
      split
      · unfold switchSensor
        generalize x₁.setOutputMode io compositeMode = r at hset ⊢
        obtain ⟨e | u, x₂⟩ := r
        · exact ⟨words', hsame, hset⟩
        · dsimp only
          split <;> exact ⟨words', hsame, hset⟩
      · exact ⟨words, fun _ _ ↦ rfl, hstop⟩
    obtain ⟨words', hsame, hshows⟩ := hready
    dsimp only
    generalize x₁.readySensor io setup compositeMode need = r at hshows ⊢
    obtain ⟨e | u, x₂⟩ := r
    · exact ⟨words', hsame, startPipeline_shows h hshows⟩
    · refine ⟨words', hsame, ?_⟩
      dsimp only
      rw [(loadVideo_eq io setup x₂ targetMode _).2]
      exact startPipeline_shows h ⟨hshows.operable, hshows.idle, hshows.held, hshows.mode⟩

theorem compositeControlCallback_shows (h : Reaches io idle regs takes)
    (hx : Shows idle regs words x) (request : PrivateCompositeControlRequest) :
    Shows idle regs
      (if (compositeControlCallback io setup request x).1.ok then
        Function.update words request.kind.register.address request.value else words)
      (compositeControlCallback io setup request x).2 := by
  unfold compositeControlCallback
  dsimp only
  split
  · exact hx
  · have hwrite (reg : CompositeSensorRegister) (hm : reg ≠ .fusionMode) (hs : reg ≠ .saveConfig)
        (hc : reg ≠ .infraredCorrection) {result : Result Unit}
        {ctl : CompositeSensorController} {w : ω}
        (hr : writeRegister io.tty reg.address request.value x.compositeController x.outside =
          (result, ctl, w)) :
        Shows idle regs
          (if result.succeeded then Function.update words reg.address request.value else words)
          { x with compositeController := ctl, outside := w } := by
      have hmode := x.compositeController.writeRegister_currentMode io.tty x.outside reg.address
        request.value
      have hplain : reg.address ≠ CompositeSensorRegister.saveConfig.address :=
        fun he ↦ hs (CompositeSensorRegister.address_injective he)
      have hne : CompositeSensorRegister.fusionMode.address ≠ reg.address :=
        fun he ↦ hm (CompositeSensorRegister.address_injective he).symm
      have hkept : reg.address ≠ CompositeSensorRegister.infraredCorrection.address :=
        fun he ↦ hc (CompositeSensorRegister.address_injective he)
      obtain ⟨ho, hi, hregs, -⟩ := h.line.write hx.operable hx.idle hplain hr
      rw [RegisterCommand.store, if_neg hkept] at hregs
      rw [hr] at hmode
      refine ⟨ho, hi, by rw [hregs, hx.held], ?_⟩
      have hsame : (if result.succeeded then Function.update words reg.address request.value
          else words) CompositeSensorRegister.fusionMode.address =
            words CompositeSensorRegister.fusionMode.address := by
        split
        · exact Function.update_of_ne hne _ _
        · rfl
      rw [hsame]
      dsimp only
      rw [hmode]
      exact hx.mode
    have hkind : Shows idle regs
        (if (x.applyComposite io request).1.succeeded then
          Function.update words request.kind.register.address request.value else words)
        { x with
          compositeController := (x.applyComposite io request).2.1
          outside := (x.applyComposite io request).2.2 } := by
      unfold applyComposite
      cases request.kind with
      | fusionColor => exact hwrite .fusionColor (by decide) (by decide) (by decide) rfl
      | contourMode => exact hwrite .contourMode (by decide) (by decide) (by decide) rfl
      | infraredPolarity => exact hwrite .infraredPolarity (by decide) (by decide) (by decide) rfl
      | unknown => exact hx
    generalize x.applyComposite io request = r at hkind ⊢
    obtain ⟨e | u, ctl, w⟩ := r <;> exact hkind

theorem compositeControlCallback_ok (h : Reaches io idle regs takes) (ht : takes)
    (hx : Shows idle regs words x) (hs : setup.serialEnabled = true)
    {request : PrivateCompositeControlRequest} (hk : request.kind ≠ .unknown) :
    (compositeControlCallback io setup request x).1.ok = true := by
  have hwrite (reg : CompositeSensorRegister) (hr : reg ≠ .saveConfig) :
      (writeRegister io.tty reg.address request.value x.compositeController
        x.outside).1.succeeded = true :=
    (h.line.write hx.operable hx.idle (fun he ↦ hr (CompositeSensorRegister.address_injective he))
      rfl).2.2.2 ht
  have happly : (x.applyComposite io request).1.succeeded = true := by
    unfold applyComposite
    cases hkind : request.kind with
    | fusionColor => exact hwrite .fusionColor (by decide)
    | contourMode => exact hwrite .contourMode (by decide)
    | infraredPolarity => exact hwrite .infraredPolarity (by decide)
    | unknown => exact absurd hkind hk
  unfold compositeControlCallback
  rw [hs]
  generalize x.applyComposite io request = r at happly ⊢
  obtain ⟨e | u, ctl, w⟩ := r
  · cases happly
  · rfl

/-- The words but for that of the correction, which the sensor resets by itself. -/
def SameButCorrection (words words' : UInt16 → UInt16) : Prop :=
  ∀ address, address ≠ CompositeSensorRegister.infraredCorrection.address →
    words' address = words address

theorem readConfig_shows (h : Reaches io idle regs takes) (specs : List CompositeRegisterSpec)
    (hn : (specs.map (·.reg.address)).Nodup) (registers : List PrivateCompositeRegisterValue)
    (hx : Shows idle regs words x) :
    Shows idle regs words (readConfig io specs registers x).2 ∧
      ((readConfig io specs registers x).1.ok = true →
        ∃ words', SameButCorrection words words' ∧ (readConfig io specs registers x).1 =
          { ok := true, message := "succeeded: composite config read successfully"
            registers :=
              registers ++ specs.map fun spec ↦ spec.item (words' spec.reg.address) }) ∧
      (takes → (readConfig io specs registers x).1.ok = true) := by
  induction specs generalizing registers x with
  | nil =>
    rw [readConfig]
    refine ⟨hx, fun _ ↦ ⟨words, fun _ _ ↦ rfl, ?_⟩, fun _ ↦ rfl⟩
    rw [List.map_nil, List.append_nil]
  | cons spec rest ih =>
    obtain ⟨hnot, hrest⟩ := List.nodup_cons.mp hn
    have hmode := x.compositeController.readRegister_currentMode io.tty x.outside spec.reg.address
    rw [readConfig]
    rcases hr : x.compositeController.readRegister io.tty spec.reg.address x.outside with
      ⟨result, ctl, w⟩
    obtain ⟨ho, hi, hregs, hval, htakes⟩ := h.line.read hx.operable hx.idle hr
    rw [hr] at hmode
    have hnext : Shows idle regs words { x with compositeController := ctl, outside := w } := by
      refine ⟨ho, hi, hregs.trans hx.held, ?_⟩
      dsimp only
      rw [hmode]
      exact hx.mode
    cases result with
    | error e => exact ⟨hnext, fun hok ↦ (nomatch hok), fun ht ↦ (nomatch htakes ht)⟩
    | ok raw =>
      obtain ⟨hshows, hlist, hok⟩ := ih hrest (registers ++ [spec.item raw]) hnext
      refine ⟨hshows, fun ho ↦ ?_, hok⟩
      obtain ⟨words', hsame, hread⟩ := hlist ho
      refine ⟨Function.update words' spec.reg.address raw, fun address ha ↦ ?_, ?_⟩
      · rw [Function.update_apply]
        split
        · rename_i he
          rw [hval (he ▸ ha) raw rfl, hx.held, he]
        · exact hsame address ha
      · have hkept : ∀ other ∈ rest,
            other.item (Function.update words' spec.reg.address raw other.reg.address) =
              other.item (words' other.reg.address) := by
          intro other hother
          have hne : other.reg.address ≠ spec.reg.address :=
            fun he ↦ hnot (List.mem_map.mpr ⟨other, hother, he⟩)
          rw [Function.update_of_ne hne]
        rw [hread, List.map_cons, Function.update_self, List.map_congr_left hkept,
          List.append_assoc, List.singleton_append]

theorem compositeConfigRegisterSpecs_nodup :
    (compositeConfigRegisterSpecs.map (·.reg.address)).Nodup := by
  decide

end Effects

end Probe

namespace ControlCallbacks

variable {σ : Type}

def leaves (callbacks : ControlCallbacks σ) (x : σ) : Option ControlCallback → σ
  | none => x
  | some (.mode targetMode) => callbacks.mode.elim x fun callback ↦ (callback targetMode x).2
  | some (.composite req) => callbacks.composite.elim x fun callback ↦ (callback req x).2
  | some .configQuery => callbacks.configQuery.elim x fun callback ↦ (callback x).2

variable (callbacks : ControlCallbacks σ) (s : PrivateControlServer) (x : σ)

theorem handleHttpRequest_leaves (request : Text) :
    (handleHttpRequest callbacks request s x).2.2 = callbacks.leaves x (callbackOf request) := by
  unfold handleHttpRequest callbackOf
  dsimp only
  split
  · rfl
  split
  · unfold handleModeRequest modeCallbackOf
    rcases passesMethod_cases (parseMethod request) with ⟨hm, hp⟩ | ⟨hm, hp⟩
    · rw [if_pos hm, if_neg hp]
      rfl
    · rw [if_neg hm, if_pos hp]
      cases PrivateWorkMode.fromCommandName ((parsePath request).drop modePrefix.length) with
      | none => rfl
      | some targetMode =>
        rw [Option.map_some, leaves]
        cases callbacks.mode <;> rfl
  by_cases hc : isConfigPath (parsePath request) = true
  · rw [if_pos hc, if_pos (isConfigPath_iff.mp hc)]
    unfold handleCompositeConfigRequest configCallbackOf
    rcases passesMethod_cases (parseMethod request) with ⟨hm, hp⟩ | ⟨hm, hp⟩ <;>
      rw [and_comm] at hm
    · rw [if_pos hm, if_neg hp]
      rfl
    · rw [if_neg hm, if_pos hp, leaves]
      cases callbacks.configQuery <;> rfl
  · rw [if_neg hc, if_neg fun h ↦ hc (isConfigPath_iff.mpr h)]
    split
    · unfold handleCompositeRequest compositeCallbackOf
      rcases passesMethod_cases (parseMethod request) with ⟨hm, hp⟩ | ⟨hm, hp⟩
      · rw [if_pos hm, if_neg hp]
        rfl
      · rw [if_neg hm, if_pos hp]
        cases parseCompositeControlPath ((parsePath request).drop compositePrefix.length) with
        | none => rfl
        | some req =>
          rw [Option.map_some, leaves]
          cases callbacks.composite <;> rfl
    · rfl

theorem handleHttpRequest_configQuery {request : Text} {s : PrivateControlServer} {x : σ}
    {callback : σ → PrivateCompositeConfigSnapshot × σ}
    (hcb : callbacks.configQuery = some callback)
    (h : callbackOf request = some .configQuery) :
    (handleHttpRequest callbacks request s x).1 = configReply (callback x).1 := by
  obtain ⟨hm, hr⟩ := callbackOf_eq_some_iff.mp h
  have hpath : isConfigPath (parsePath request) = true := by
    rw [isConfigPath_iff]
    generalize parsePath request = path at hr
    cases hr with
    | config => exact .inl rfl
    | configuration => exact .inr rfl
  have hstatus : parsePath request ≠ "/api/v1/status".toList := by
    intro he
    rw [he] at hpath
    exact absurd hpath (by decide)
  have hmode : ¬Str.startsWith (parsePath request) modePrefix = true := by
    rcases isConfigPath_iff.mp hpath with he | he
    · rw [he]
      decide
    · rw [he]
      decide
  have hmethod := passesMethod_iff.mp hm
  unfold handleHttpRequest
  dsimp only
  rw [if_neg hstatus, if_neg hmode, if_pos hpath]
  unfold handleCompositeConfigRequest
  rw [if_neg fun hn ↦ hmethod.elim hn.2 hn.1, hcb]

end ControlCallbacks

section Tracking

variable {words words' : UInt16 → UInt16} {log : List Outcome}

theorem valueName_same (h : Probe.SameSettings words words') (kind : PrivateCompositeControlKind) :
    kind.valueName words' = kind.valueName words := by
  rw [PrivateCompositeControlKind.valueName, PrivateCompositeControlKind.valueName, h]
  cases kind <;> decide

theorem valueName_update {kind kind' : PrivateCompositeControlKind} (hk : kind ≠ .unknown)
    (hk' : kind' ≠ .unknown) (hne : kind' ≠ kind) (value : UInt16) :
    kind.valueName (Function.update words kind'.register.address value) =
      kind.valueName words := by
  rw [PrivateCompositeControlKind.valueName, PrivateCompositeControlKind.valueName,
    Function.update_of_ne]
  intro he
  have hr := CompositeSensorRegister.address_injective he
  cases kind <;> cases kind' <;> contradiction

theorem nameOf_of_callbackOf {request : Text} {req : PrivateCompositeControlRequest}
    (h : callbackOf request = some (.composite req)) :
    req.kind ≠ .unknown ∧ req.kind.nameOf req.value = req.valueName := by
  have hall : ∀ control ∈ controls, ∀ entry ∈ control.values,
      control.kind ≠ .unknown ∧ control.kind.nameOf entry.1.1 = entry.1.2 := by decide
  obtain ⟨-, hr⟩ := callbackOf_eq_some_iff.mp h
  generalize parsePath request = path at hr
  cases hr with
  | composite hn =>
    obtain ⟨control, hc, entry, he, rfl⟩ := hn.mem_controls
    exact hall control hc entry he

/-- The value that was accepted last for a control is the name of what the sensor holds. -/
def Tracks (words : UInt16 → UInt16) (log : List Outcome) : Prop :=
  ∀ kind, kind ≠ .unknown → ∀ name, (log.filterMap (settingOf kind)).getLast? = some name →
    kind.valueName words = name

theorem Tracks.quiet (h : Tracks words log) {outcome : Outcome}
    (ho : ∀ kind, settingOf kind outcome = none) (hsame : Probe.SameSettings words words') :
    Tracks words' (log ++ [outcome]) := by
  intro kind hk name hname
  rw [List.filterMap_append, List.filterMap_cons_none (ho kind), List.filterMap_nil,
    List.append_nil] at hname
  rw [valueName_same hsame]
  exact h kind hk name hname

theorem Tracks.set (h : Tracks words log) {req : PrivateCompositeControlRequest}
    (hk : req.kind ≠ .unknown) (hn : req.kind.nameOf req.value = req.valueName) :
    Tracks (Function.update words req.kind.register.address req.value)
      (log ++ [(.composite req, true)]) := by
  intro kind hkind name hname
  by_cases he : req.kind = kind
  · have hs : settingOf kind (.composite req, true) = some req.valueName := if_pos he
    rw [List.filterMap_append, List.filterMap_cons_some hs, List.filterMap_nil,
      List.getLast?_concat] at hname
    obtain rfl := Option.some.inj hname
    rw [PrivateCompositeControlKind.valueName, ← he, Function.update_self, hn]
  · have hs : settingOf kind (.composite req, true) = none := if_neg he
    rw [List.filterMap_append, List.filterMap_cons_none hs, List.filterMap_nil,
      List.append_nil] at hname
    rw [valueName_update hkind hk he]
    exact h kind hkind name hname

/-- The text of a control in the status: what the sensor holds, once a value was accepted. -/
def shown (words : UInt16 → UInt16) (log : List Outcome) (kind : PrivateCompositeControlKind)
    (initial : Text) : Text :=
  if log.filterMap (settingOf kind) = [] then initial else kind.valueName words

theorem Tracks.lastOf_eq (h : Tracks words log) {kind : PrivateCompositeControlKind}
    (hk : kind ≠ .unknown) (initial : Text) :
    lastOf (settingOf kind) initial log = shown words log kind initial := by
  rw [lastOf, shown]
  cases hl : (log.filterMap (settingOf kind)).getLast? with
  | none => rw [if_pos (List.getLast?_eq_none_iff.mp hl), Option.getD_none]
  | some name =>
    have hne : log.filterMap (settingOf kind) ≠ [] := by
      intro hnil
      rw [hnil] at hl
      cases hl
    rw [if_neg hne, Option.getD_some, h kind hk name hl]

end Tracking

section Served

variable {ω : Type} {io : ProbeIo ω} {idle : ω → Prop} {regs : ω → UInt16 → UInt16} {takes : Prop}
  (setup : ProbeSetup)

def Agrees (idle : ω → Prop) (regs : ω → UInt16 → UInt16)
    (z : PrivateControlServer × Probe ω × List Outcome) : Prop :=
  ∃ words, Probe.Shows idle regs words z.2.1 ∧ Tracks words z.2.2

theorem serve_agrees (h : Probe.Reaches io idle regs takes)
    {z : PrivateControlServer × Probe ω × List Outcome} (hz : Agrees idle regs z)
    (request : Text) :
    Agrees idle regs
      (Simulation.next (serve ((Probe.callbacks io setup).noting id)) z request) := by
  obtain ⟨s, x, log⟩ := z
  obtain ⟨words, hx, ht⟩ := hz
  obtain ⟨-, hnoted⟩ := handleHttpRequest_handles id (Probe.callbacks io setup) s x log request
  rw [Option.map_id_fun, id, ControlCallbacks.handleHttpRequest_leaves] at hnoted
  rw [Simulation.next, serve, hnoted]
  cases hcall : callbackOf request with
  | none =>
    refine ⟨words, hx, ?_⟩
    rw [Option.bind_none, Option.toList_none, List.append_nil]
    exact ht
  | some call =>
    cases call with
    | mode targetMode =>
      obtain ⟨words', hsame, hx'⟩ := Probe.switchCallback_shows setup h hx targetMode
      refine ⟨words', hx', ht.quiet ?_ hsame⟩
      intro kind
      cases (Probe.switchCallback io setup targetMode x).1.ok <;> rfl
    | composite req =>
      obtain ⟨hk, hn⟩ := nameOf_of_callbackOf hcall
      have hx' := Probe.compositeControlCallback_shows setup h hx req
      have hout : (some (ControlCallback.composite req)).bind
          ((Probe.callbacks io setup).outcomeOf x) =
            some (.composite req, (Probe.compositeControlCallback io setup req x).1.ok) := rfl
      refine ⟨_, hx', ?_⟩
      rw [hout, Option.toList_some]
      cases (Probe.compositeControlCallback io setup req x).1.ok with
      | true => exact ht.set hk hn
      | false => exact ht.quiet (fun kind ↦ rfl) fun _ _ ↦ rfl
    | configQuery =>
      have hq : Probe.Shows idle regs words (Probe.compositeConfigQueryCallback io setup x).2 := by
        unfold Probe.compositeConfigQueryCallback
        split
        · exact hx
        · exact (Probe.readConfig_shows h _ Probe.compositeConfigRegisterSpecs_nodup [] hx).1
      refine ⟨words, hq, ht.quiet ?_ fun _ _ ↦ rfl⟩
      intro kind
      cases (Probe.compositeConfigQueryCallback io setup x).1.ok <;> rfl

theorem recorded_agrees (h : Probe.Reaches io idle regs takes) (port : UInt16) {x : Probe ω}
    {words : UInt16 → UInt16} (hx : Probe.Shows idle regs words x) (requests : List Text) :
    Agrees idle regs (recorded (Probe.callbacks io setup) port x requests) := by
  have hstart : Agrees idle regs ({ port := port }, x, []) :=
    ⟨words, hx, fun _ _ _ hn ↦ (nomatch hn)⟩
  have hstep (z : PrivateControlServer × Probe ω × List Outcome) (request : Text)
      (hz : Agrees idle regs z) : Agrees idle regs
        (Simulation.next (serve ((Probe.callbacks io setup).noting id)) z request) :=
    serve_agrees setup h hz request
  exact Runs.exec_invariant hstep hstart requests

end Served

section Documents

open Library.Json

def snapshotOf (words : UInt16 → UInt16) : PrivateCompositeConfigSnapshot where
  ok := true
  message := "succeeded: composite config read successfully"
  registers := compositeConfigRegisterSpecs.map fun spec ↦ spec.item (words spec.reg.address)

theorem escapable_valueName {spec : CompositeRegisterSpec} (h : spec ∈ compositeConfigRegisterSpecs)
    (raw : UInt16) : Escapable (spec.item raw).valueName := by
  have hmode : Escapable (fusionModeValueName raw) := by
    unfold fusionModeValueName
    split_ifs <;> decide
  have hcolor : Escapable (fusionColorValueName raw) := by
    unfold fusionColorValueName
    split_ifs <;> decide
  have hcontour : Escapable (contourModeValueName raw) := by
    unfold contourModeValueName
    split_ifs <;> decide
  have hpolarity : Escapable (infraredPolarityValueName raw) := by
    unfold infraredPolarityValueName
    split_ifs <;> decide
  have hcorrection : Escapable (correctionValueName raw) := by
    unfold correctionValueName
    split_ifs <;> decide
  have hnone : Escapable [] := by decide
  simp only [compositeConfigRegisterSpecs, List.mem_cons, List.not_mem_nil, or_false] at h
  rcases h with rfl | rfl | rfl | rfl | rfl | rfl | rfl | rfl | rfl | rfl | rfl | rfl | rfl | rfl |
    rfl
  all_goals assumption

theorem snapshotOf_escapable (words : UInt16 → UInt16) :
    ∀ item ∈ (snapshotOf words).registers, EscapableItem item := by
  have hnames : ∀ spec ∈ compositeConfigRegisterSpecs,
      Escapable spec.name ∧ Escapable spec.displayName := by
    intro spec h
    simp only [compositeConfigRegisterSpecs, List.mem_cons, List.not_mem_nil, or_false] at h
    rcases h with rfl | rfl | rfl | rfl | rfl | rfl | rfl | rfl | rfl | rfl | rfl | rfl | rfl |
      rfl | rfl
    all_goals exact ⟨by decide, by decide⟩
  intro item hitem
  obtain ⟨spec, hs, rfl⟩ := List.mem_map.mp hitem
  exact ⟨(hnames spec hs).1, (hnames spec hs).2, escapable_valueName hs _⟩

theorem snapshotOf_message (words : UInt16 → UInt16) : Escapable (snapshotOf words).message := by
  have h : Escapable "succeeded: composite config read successfully" := by decide
  exact h

def panelDocument (words : UInt16 → UInt16) : Written :=
  configDocument (snapshotOf words) (snapshotOf_message words) (snapshotOf_escapable words)

theorem configReply_denotes (words : UInt16 → UInt16) :
    Denotes (bodyOf (configReply (snapshotOf words))) (panelDocument words).value := by
  obtain ⟨code, status, body, he, hs, -, -, hdoc⟩ := configReply_document (snapshotOf words)
  rw [he, bodyOf_httpJson hs, hdoc (snapshotOf_message words) (snapshotOf_escapable words)]
  exact (panelDocument words).denotes

end Documents

section Panel

open Library.Json

variable {δ π : Type}

/-- The control program in a world of its link to the sensor and whatever else there is, which
holds its processes and its clock. -/
def panelIo (dev : Device δ) (delays : ℕ → Delay) (process : ProcessIo π) (clock : π → Int64 × π) :
    ProbeIo (Link δ × π) where
  process := process.behind
  tty := (Link.tty dev delays).beside
  nowMs x := ((clock x.2).1, x.1, (clock x.2).2)

theorem panelIo_reaches {dev : Device δ} {regs : δ → UInt16 → UInt16} (hk : dev.KeepsRegisters regs)
    {delays : ℕ → Delay} (hp : Link.Prompt delays) (process : ProcessIo π)
    (clock : π → Int64 × π) :
    Probe.Reaches (panelIo dev delays process clock) (fun x ↦ x.1.Idle)
      (fun x ↦ regs x.1.device) dev.Executes := by
  refine ⟨(sensorLine_link hk hp).beside, fun x hx ↦ ⟨hx, rfl⟩, fun words ↦ ?_⟩
  exact process.behind_keeps fun l : Link δ ↦ l.Idle ∧ regs l.device = words

structure Ready (x : Probe (Link δ × π)) : Prop where
  operable : x.compositeController.Operable
  mode : x.compositeController.state.currentMode = .unknown
  idle : x.outside.1.Idle

/-- From the HTTP request to the words in the sensor and back, on a prompt line: after any
requests the status says of each control what the sensor holds, once a value was accepted, and
names the mode that was accepted last; where the serial line is enabled and the sensor takes
every command, a configuration query is answered with the document of the words the sensor
holds, whatever the register of the correction reads; and the mode of the sensor is the one the
controller has recorded, if any. -/
theorem panel_shows_sensor {dev : Device δ} {regs : δ → UInt16 → UInt16}
    (hk : dev.KeepsRegisters regs) {delays : ℕ → Delay} (hp : Link.Prompt delays)
    (process : ProcessIo π) (clock : π → Int64 × π) (setup : ProbeSetup) (port : UInt16)
    {x : Probe (Link δ × π)} (hx : Ready x) (requests : List Text) :
    let callbacks := Probe.callbacks (panelIo dev delays process clock) setup
    let z := recorded callbacks port x requests
    let words := regs z.2.1.outside.1.device
    (∀ request, parsePath request = "/api/v1/status".toList →
      Reports (serve callbacks (z.1, z.2.1) request).1
        (lastOf modeOf .lowlightThermalComposite z.2.2) (shown words z.2.2 .fusionColor "forest")
        (shown words z.2.2 .contourMode "off") (shown words z.2.2 .infraredPolarity "white_hot")) ∧
    (∀ request, callbackOf request = some .configQuery → setup.serialEnabled = true →
      dev.Executes → ∃ words', Probe.SameButCorrection words words' ∧
        Denotes (bodyOf (serve callbacks (z.1, z.2.1) request).1) (panelDocument words').value) ∧
    (z.2.1.compositeController.state.currentMode = .unknown ∨
      words CompositeSensorRegister.fusionMode.address =
        z.2.1.compositeController.state.currentMode.registerValue) := by
  intro callbacks z words
  have hreaches := panelIo_reaches hk hp process clock
  have hstart : Probe.Shows (fun x : Link δ × π ↦ x.1.Idle) (fun x ↦ regs x.1.device)
      (regs x.outside.1.device) x := ⟨hx.operable, hx.idle, rfl, .inl hx.mode⟩
  obtain ⟨words', hshows, htracks⟩ := recorded_agrees setup hreaches port hstart requests
  obtain rfl : words = words' := hshows.held
  refine ⟨fun request hpath ↦ ?_, fun request hcall hserial hd ↦ ?_, hshows.mode⟩
  · have hreports := recorded_reports callbacks port x requests hpath
    dsimp only at hreports
    rw [htracks.lastOf_eq (by decide), htracks.lastOf_eq (by decide),
      htracks.lastOf_eq (by decide)] at hreports
    exact hreports
  · obtain ⟨-, hlist, hok⟩ := Probe.readConfig_shows hreaches compositeConfigRegisterSpecs
      Probe.compositeConfigRegisterSpecs_nodup [] hshows
    obtain ⟨words', hsame, hread⟩ := hlist (hok hd)
    have hquery : (Probe.compositeConfigQueryCallback (panelIo dev delays process clock) setup
        z.2.1).1 = snapshotOf words' := by
      rw [Probe.compositeConfigQueryCallback, if_neg (by rw [hserial]; decide), hread,
        List.nil_append]
      rfl
    refine ⟨words', hsame, ?_⟩
    rw [serve, ControlCallbacks.handleHttpRequest_configQuery callbacks rfl hcall, hquery]
    exact configReply_denotes words'

def noProcess : ProcessIo Unit where
  fork _ w := (.error "Resource temporarily unavailable", w)
  waitpid _ w := (.noChild, w)
  kill _ _ w := w
  polls _ w := (0, w)

def bankProbe : Probe (Link (UInt16 → UInt16) × Unit) where
  pipeline := { config := {} }
  compositeController := fresh.1
  outside := (fresh.2, ())

def panelRequests : List Text :=
  ["POST /api/v1/composite/fusion_color/snow HTTP/1.1",
    "POST /api/v1/composite/infrared_polarity/black_hot HTTP/1.1"]

/-- The status names the colour and the polarity that the sensor has taken. -/
theorem panel_shows_sensor_bank :
    let callbacks := Probe.callbacks (panelIo bank soon noProcess fun p ↦ (0, p)) {}
    let z := recorded callbacks 18080 bankProbe panelRequests
    z.2.1.outside.1.device CompositeSensorRegister.fusionColor.address = 3 ∧
      Reports (serve callbacks (z.1, z.2.1) "GET /api/v1/status HTTP/1.1").1
        .lowlightThermalComposite "snow" "off" "black_hot" := by
  intro callbacks z
  let io := panelIo bank soon noProcess fun p ↦ (0, p)
  let snow : PrivateCompositeControlRequest := ⟨.fusionColor, "fusion_color", "snow", 3⟩
  let blackHot : PrivateCompositeControlRequest :=
    ⟨.infraredPolarity, "infrared_polarity", "black_hot", 1⟩
  let x₁ := (Probe.compositeControlCallback io {} snow bankProbe).2
  have hx : Ready bankProbe := ⟨⟨rfl, rfl⟩, rfl, ⟨rfl, rfl, rfl⟩⟩
  have hreaches := panelIo_reaches bank_keeps soon_prompt noProcess fun p ↦ (0, p)
  have h₀ : Probe.Shows (fun x : Link (UInt16 → UInt16) × Unit ↦ x.1.Idle) (fun x ↦ x.1.device)
      (fun _ ↦ 0) bankProbe := ⟨hx.operable, hx.idle, rfl, .inl hx.mode⟩
  have hsnow : (Probe.compositeControlCallback io {} snow bankProbe).1.ok = true :=
    Probe.compositeControlCallback_ok {} hreaches bank_executes h₀ rfl (by decide)
  have h₁ := Probe.compositeControlCallback_shows {} hreaches h₀ snow
  rw [hsnow, if_pos rfl] at h₁
  have hhot : (Probe.compositeControlCallback io {} blackHot x₁).1.ok = true :=
    Probe.compositeControlCallback_ok {} hreaches bank_executes h₁ rfl (by decide)
  have h₂ := Probe.compositeControlCallback_shows {} hreaches h₁ blackHot
  rw [hhot, if_pos rfl] at h₂
  have hlog : z.2.2 =
      [(.composite snow, (Probe.compositeControlCallback io {} snow bankProbe).1.ok),
      (.composite blackHot, (Probe.compositeControlCallback io {} blackHot x₁).1.ok)] := rfl
  rw [hsnow, hhot] at hlog
  have hheld : z.2.1.outside.1.device =
      Function.update (Function.update (fun _ ↦ 0) snow.kind.register.address 3)
        blackHot.kind.register.address 1 := h₂.held
  have hcolor : shown z.2.1.outside.1.device z.2.2 .fusionColor "forest" = "snow" := by
    rw [hlog, hheld]
    decide
  have hcontour : shown z.2.1.outside.1.device z.2.2 .contourMode "off" = "off" := by
    rw [hlog]
    rfl
  have hpolarity : shown z.2.1.outside.1.device z.2.2 .infraredPolarity "white_hot" =
      "black_hot" := by
    rw [hlog, hheld]
    decide
  have hmode : lastOf modeOf .lowlightThermalComposite z.2.2 = .lowlightThermalComposite := by
    rw [hlog]
    rfl
  have h := (panel_shows_sensor bank_keeps soon_prompt noProcess (fun p ↦ (0, p)) {} 18080 hx
    panelRequests).1 "GET /api/v1/status HTTP/1.1".toList (by decide)
  dsimp only [id] at h
  rw [hmode, hcolor, hcontour, hpolarity] at h
  refine ⟨?_, h⟩
  rw [hheld]
  decide

end Panel

end TriFusion.Protocol
