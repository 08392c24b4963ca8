import TriFusion.Library.Runs
import TriFusion.Protocol.ProtocolCommandAdapter
import TriFusion.Protocol.ProtocolConfigLoader

namespace TriFusion.Protocol

open Foundation Commands Service Library

/-- Which of the pointers are set; the services behind them are passed to each call. -/
structure ProtocolRuntimeContext (ω : Type) where
  commandBus : Option (CommandBus ω) := none
  protocolService : Bool := false
  streamService : Bool := false

structure ProtocolManager (ω : Type) where
  config : ProtocolConfig := {}
  endpointConfig : ProtocolEndpointConfigSet := {}
  runtime : ProtocolRuntimeContext ω := {}
  guard : ActiveProtocolGuard := {}
  activeKind : ProtocolKind := .unknown
  states : ProtocolKind → Option ProtocolEndpointState := fun _ ↦ none
  initialized : Bool := false

namespace ProtocolManager

variable {ω : Type}

def validateActiveEndpoint (m : ProtocolManager ω) : Result Unit :=
  match m.activeKind with
  | .gb28181 =>
    if !m.endpointConfig.gb28181.enable then .fail .configError "gb28181 endpoint is disabled"
    else ProtocolConfigLoader.validateGb28181 m.endpointConfig.gb28181
  | .onvif =>
    if !m.endpointConfig.onvif.enable then .fail .configError "onvif endpoint is disabled"
    else ProtocolConfigLoader.validateOnvif m.endpointConfig.onvif
  | .privateApi =>
    if !m.endpointConfig.privateApi.enable then
      .fail .configError "private api endpoint is disabled"
    else ProtocolConfigLoader.validatePrivateApi m.endpointConfig.privateApi
  | .rtsp =>
    if !m.endpointConfig.rtsp.enable then .fail .configError "rtsp endpoint is disabled"
    else ProtocolConfigLoader.validateRtsp m.endpointConfig.rtsp
  | .unknown => .fail .configError "active protocol is unknown"

def stoppedStates : ProtocolKind → Option ProtocolEndpointState
  | .gb28181 | .onvif | .privateApi | .rtsp => some .stopped
  | .unknown => none

def init (config : ProtocolConfig) (endpointConfig : ProtocolEndpointConfigSet)
    (runtime : ProtocolRuntimeContext ω) (m : ProtocolManager ω) :
    Result Unit × ProtocolManager ω :=
  if runtime.commandBus.isNone then (.fail .invalidArgument "command bus is null", m)
  else if !runtime.protocolService then (.fail .invalidArgument "protocol service is null", m)
  else if !runtime.streamService then (.fail .invalidArgument "stream service is null", m)
  else
    let m := { m with config := config, endpointConfig := endpointConfig, runtime := runtime }
    match m.guard.init runtime.protocolService with
    | (.error e, guard) => (.error e, { m with guard := guard })
    | (.ok (), guard) =>
      let m := { m with guard := guard, activeKind := protocolKindFromString config.active }
      if m.activeKind = .unknown then
        (.fail .configError ("unknown active protocol: ".toList ++ config.active), m)
      else
        match m.validateActiveEndpoint with
        | .error e => (.error e, m)
        | .ok () => (.ok (), { m with states := stoppedStates, initialized := true })

def ensureReady (m : ProtocolManager ω) : Result Unit :=
  if !m.initialized then .fail .notInitialized "protocol manager is not initialized" else .ok ()

def setState (kind : ProtocolKind) (state : ProtocolEndpointState) (m : ProtocolManager ω) :
    ProtocolManager ω :=
  { m with states := Function.update m.states kind (some state) }

def startActiveProtocol (m : ProtocolManager ω) (s : ProtocolService) :
    Result Unit × ProtocolManager ω × ProtocolService :=
  match m.ensureReady with
  | .error e => (.error e, m, s)
  | .ok () =>
    match m.guard.acquire (commandSourceOf m.activeKind) s with
    | (.error e, s) => (.error e, m.setState m.activeKind .error, s)
    | (.ok (), s) => (.ok (), m.setState m.activeKind .running, s)

def stopAll (m : ProtocolManager ω) (s : ProtocolService) : ProtocolManager ω × ProtocolService :=
  if !m.initialized then (m, s)
  else
    ({ m with states := fun kind ↦ (m.states kind).map fun _ ↦ .stopped },
      if m.activeKind ≠ .unknown then m.guard.release (commandSourceOf m.activeKind) s else s)

def submit (m : ProtocolManager ω) (kind : ProtocolKind) (type : CommandType)
    (params : CommandParams) (s : ProtocolService) (w : ω) :
    Result ProtocolResponse × ProtocolService × ω :=
  match m.ensureReady with
  | .error e => (Result.rethrow e, s, w)
  | .ok () =>
    match ProtocolCommandAdapter.init kind m.runtime.commandBus (some m.guard) {} with
    | (.error e, _) => (Result.rethrow e, s, w)
    | (.ok (), adapter) => adapter.submit type params s w

def state (m : ProtocolManager ω) (kind : ProtocolKind) : ProtocolEndpointState :=
  (m.states kind).getD .stopped

variable {config : ProtocolConfig} {endpointConfig : ProtocolEndpointConfigSet}
  {runtime : ProtocolRuntimeContext ω} {m m' : ProtocolManager ω} {s s' : ProtocolService}
  {kind : ProtocolKind} {st : ProtocolEndpointState}

@[simp] theorem setState_guard : (m.setState kind st).guard = m.guard := rfl

@[simp] theorem setState_activeKind : (m.setState kind st).activeKind = m.activeKind := rfl

@[simp] theorem setState_initialized : (m.setState kind st).initialized = m.initialized := rfl

@[simp] theorem state_setState : (m.setState kind st).state kind = st := by
  change (Function.update m.states kind (some st) kind).getD .stopped = st
  rw [Function.update_self, Option.getD_some]

theorem ensureReady_of (h : m.initialized = true) : m.ensureReady = .ok () := by
  rw [ensureReady, h]
  rfl

theorem ensureReady_of_not (h : ¬m.initialized = true) :
    m.ensureReady = .error ⟨.notInitialized, "protocol manager is not initialized"⟩ := by
  rw [ensureReady, Bool.eq_false_iff.mpr h]
  rfl

structure Ready (config : ProtocolConfig) (m : ProtocolManager ω) : Prop where
  initialized : m.initialized = true
  guard : m.guard.service = true
  activeKind : m.activeKind = protocolKindFromString config.active
  known : m.activeKind ≠ .unknown

theorem init_ok (h : init config endpointConfig runtime m = (.ok (), m')) :
    Ready config m' ∧ m'.states = stoppedStates := by
  unfold init at h
  split at h
  · exact nomatch (Prod.mk.inj h).1
  · split at h
    · exact nomatch (Prod.mk.inj h).1
    · rename_i hs
      split at h
      · exact nomatch (Prod.mk.inj h).1
      · dsimp only at h
        rw [ActiveProtocolGuard.init, if_neg hs] at h
        dsimp only at h
        split at h
        · exact nomatch (Prod.mk.inj h).1
        · rename_i hk
          split at h
          · exact nomatch (Prod.mk.inj h).1
          · obtain ⟨-, rfl⟩ := Prod.mk.inj h
            exact ⟨⟨rfl, rfl, rfl, hk⟩, rfl⟩

theorem stopAll_of_not_ready (h : ¬m.initialized = true) : m.stopAll s = (m, s) := by
  rw [stopAll, Bool.eq_false_iff.mpr h]
  rfl

theorem stopAll_of_ready (h : Ready config m) :
    m.stopAll s = ({ m with states := fun kind ↦ (m.states kind).map fun _ ↦ .stopped },
      s.release (commandSourceOf m.activeKind)) := by
  rw [stopAll, h.initialized, if_neg (by decide), if_pos h.known, ActiveProtocolGuard.release,
    if_pos h.guard]

theorem state_stopAll (h : m.initialized = true) : (m.stopAll s).1.state kind = .stopped := by
  rw [stopAll, h, if_neg (by decide)]
  change ((m.states kind).map fun _ ↦ ProtocolEndpointState.stopped).getD .stopped = .stopped
  cases m.states kind <;> rfl

theorem start_of_not_ready (h : ¬m.initialized = true) :
    ∃ e, m.startActiveProtocol s = (.error e, m, s) := by
  rw [startActiveProtocol, ensureReady_of_not h]
  exact ⟨_, rfl⟩

theorem start_of_isActive (h : m.initialized = true)
    (ha : m.guard.isActive (commandSourceOf m.activeKind) s = true) :
    m.startActiveProtocol s = (.ok (), m.setState m.activeKind .running,
      { s with activeOwner := ProtocolService.protocolName (commandSourceOf m.activeKind) }) := by
  simp only [startActiveProtocol, ensureReady_of h, ActiveProtocolGuard.acquire_of_isActive ha]

theorem start_of_not_isActive (h : m.initialized = true)
    (ha : ¬m.guard.isActive (commandSourceOf m.activeKind) s = true) :
    ∃ e, m.startActiveProtocol s = (.error e, m.setState m.activeKind .error, s) := by
  obtain ⟨e, he⟩ := ActiveProtocolGuard.acquire_of_not_isActive ha
  refine ⟨e, ?_⟩
  simp only [startActiveProtocol, ensureReady_of h, he]

theorem start_succeeded_iff (h : m.initialized = true) :
    (m.startActiveProtocol s).1 = .ok () ↔
      m.guard.isActive (commandSourceOf m.activeKind) s = true := by
  constructor
  · intro hs
    by_contra ha
    obtain ⟨e, he⟩ := start_of_not_isActive h ha
    rw [he] at hs
    exact nomatch hs
  · intro ha
    rw [start_of_isActive h ha]

end ProtocolManager

end TriFusion.Protocol
