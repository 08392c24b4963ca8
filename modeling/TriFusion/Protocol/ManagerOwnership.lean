import TriFusion.Protocol.ProtocolManager

namespace TriFusion.Protocol

open Foundation Commands Service Library

namespace ProtocolCommandAdapter

variable {ω : Type} {a : ProtocolCommandAdapter ω} {s : ProtocolService} {w : ω}
  {type : CommandType} {params : CommandParams}

/-- A call that is let in leaves no owner behind, whoever owned the service before. -/
theorem submit_owner {guard : ActiveProtocolGuard} (hb : a.bus.isSome = true)
    (hu : a.source ≠ .unknown) (hg : a.guard = some guard) :
    (a.submit type params s w).2.1 =
      if guard.isActive a.source s = true then { s with activeOwner := [] } else s := by
  obtain ⟨bus, hb⟩ := Option.isSome_iff_exists.mp hb
  by_cases ha : guard.isActive a.source s = true
  · have hs : guard.service = true := (Bool.and_eq_true_iff.mp ha).1
    simp only [submit, hb, hg, if_neg hu, ActiveProtocolGuard.acquire_of_isActive ha, if_pos ha,
      ActiveProtocolGuard.release, if_pos hs]
    exact ProtocolService.release_of_eq rfl
  · obtain ⟨e, he⟩ := ActiveProtocolGuard.acquire_of_not_isActive ha
    simp only [submit, hb, hg, if_neg hu, he, if_neg ha]

end ProtocolCommandAdapter

namespace ProtocolManager

variable {ω : Type}

def Admits (m : ProtocolManager ω) (kind : ProtocolKind) (s : ProtocolService) : Prop :=
  m.initialized = true ∧ kind ≠ .unknown ∧ m.runtime.commandBus.isSome = true ∧
    m.guard.isActive (commandSourceOf kind) s = true

instance (m : ProtocolManager ω) (kind : ProtocolKind) (s : ProtocolService) :
    Decidable (m.Admits kind s) :=
  inferInstanceAs (Decidable (_ ∧ _ ∧ _ ∧ _))

variable {m m' : ProtocolManager ω} {s s' : ProtocolService} {w : ω} {kind : ProtocolKind}
  {type : CommandType} {params : CommandParams}

theorem submit_service :
    (m.submit kind type params s w).2.1 =
      if m.Admits kind s then { s with activeOwner := [] } else s := by
  by_cases hi : m.initialized = true
  · have hr : m.ensureReady = .ok () := ensureReady_of hi
    by_cases hk : kind = .unknown
    · rw [if_neg fun ha ↦ ha.2.1 hk]
      simp only [submit, hr, ProtocolCommandAdapter.init, if_pos hk, Result.fail]
    · by_cases hb : m.runtime.commandBus.isSome = true
      · have hn : ¬m.runtime.commandBus.isNone = true := by
          rw [Option.isNone_iff_eq_none]
          exact Option.isSome_iff_ne_none.mp hb
        simp only [submit, hr, ProtocolCommandAdapter.init, if_neg hk, if_neg hn]
        rw [ProtocolCommandAdapter.submit_owner hb
          (fun he ↦ hk (commandSourceOf_eq_unknown.mp he)) rfl]
        simp only [Admits, hi, hk, hb, ne_eq, not_false_eq_true, true_and]
      · have hn : m.runtime.commandBus.isNone = true := by
          rw [Option.isNone_iff_eq_none]
          exact Option.not_isSome_iff_eq_none.mp hb
        rw [if_neg fun ha ↦ hb ha.2.2.1]
        simp only [submit, hr, ProtocolCommandAdapter.init, if_neg hk, if_pos hn, Result.fail]
  · rw [if_neg fun ha ↦ hi ha.1]
    simp only [submit, ensureReady_of_not hi]

theorem submit_keeps_iff :
    (m.submit kind type params s w).2.1.activeOwner = s.activeOwner ↔
      s.activeOwner = [] ∨ ¬m.Admits kind s := by
  rw [submit_service]
  by_cases ha : m.Admits kind s
  · rw [if_pos ha]
    exact ⟨fun h ↦ .inl h.symm, fun h ↦ h.elim Eq.symm fun hn ↦ absurd ha hn⟩
  · rw [if_neg ha]
    exact ⟨fun _ ↦ .inr ha, fun _ ↦ rfl⟩

end ProtocolManager

inductive ManagerCall
  | startActiveProtocol
  | stopAll
  | submit (kind : ProtocolKind) (type : CommandType) (params : CommandParams)

structure ManagedProtocols (ω : Type) where
  manager : ProtocolManager ω
  service : ProtocolService
  world : ω

namespace ManagedProtocols

variable {ω : Type}

def perform (y : ManagedProtocols ω) : ManagerCall → ManagedProtocols ω
  | .startActiveProtocol =>
    let (_, m, s) := y.manager.startActiveProtocol y.service
    { y with manager := m, service := s }
  | .stopAll =>
    let (m, s) := y.manager.stopAll y.service
    { y with manager := m, service := s }
  | .submit kind type params =>
    let (_, s, w) := y.manager.submit kind type params y.service y.world
    { y with service := s, world := w }

def run (y : ManagedProtocols ω) (calls : List ManagerCall) : ManagedProtocols ω :=
  Runs.exec perform y calls

def activeName (y : ManagedProtocols ω) : Text :=
  ProtocolService.protocolName (commandSourceOf y.manager.activeKind)

def Held (y : ManagedProtocols ω) : Prop :=
  y.manager.state y.manager.activeKind = .running → y.service.activeOwner = y.activeName

def Keeps (y : ManagedProtocols ω) : ManagerCall → Prop
  | .submit kind type params =>
    (y.perform (.submit kind type params)).service.activeOwner = y.service.activeOwner
  | .startActiveProtocol | .stopAll => True

def Spares (y : ManagedProtocols ω) : ManagerCall → Prop
  | .submit kind _ _ => y.service.activeOwner = [] ∨ ¬y.manager.Admits kind y.service
  | .startActiveProtocol | .stopAll => True

variable {y : ManagedProtocols ω} {call : ManagerCall}

theorem keeps_iff : y.Keeps call ↔ y.Spares call := by
  cases call with
  | submit kind type params => exact ProtocolManager.submit_keeps_iff
  | startActiveProtocol => exact Iff.rfl
  | stopAll => exact Iff.rfl

theorem Held.perform (h : y.Held) (hk : y.Keeps call) : (y.perform call).Held := by
  cases call with
  | submit kind type params => exact fun hr ↦ hk.trans (h hr)
  | stopAll =>
    intro hr
    simp only [ManagedProtocols.perform] at hr ⊢
    by_cases hi : y.manager.initialized = true
    · exact nomatch (ProtocolManager.state_stopAll hi).symm.trans hr
    · rw [ProtocolManager.stopAll_of_not_ready hi] at hr ⊢
      exact h hr
  | startActiveProtocol =>
    intro hr
    simp only [ManagedProtocols.perform] at hr ⊢
    by_cases hi : y.manager.initialized = true
    · by_cases ha : y.manager.guard.isActive (commandSourceOf y.manager.activeKind) y.service = true
      · rw [ProtocolManager.start_of_isActive hi ha]
        rfl
      · obtain ⟨e, he⟩ := ProtocolManager.start_of_not_isActive hi ha
        rw [he] at hr
        exact nomatch ProtocolManager.state_setState.symm.trans hr
    · obtain ⟨e, he⟩ := ProtocolManager.start_of_not_ready (s := y.service) hi
      rw [he] at hr ⊢
      exact h hr

theorem held_of_states (h : y.manager.states = ProtocolManager.stoppedStates) : y.Held := by
  intro hr
  rw [ProtocolManager.state, h] at hr
  cases hk : y.manager.activeKind <;> rw [hk] at hr <;> exact nomatch hr

/-- Along a run, every submit leaves the owner as it was, and a running protocol owns the
service after every call, exactly when every submit finds no owner to lose or is turned
away. -/
theorem owner_kept_iff {config : ProtocolConfig} {endpointConfig : ProtocolEndpointConfigSet}
    {runtime : ProtocolRuntimeContext ω} {m₀ m : ProtocolManager ω}
    (h : ProtocolManager.init config endpointConfig runtime m₀ = (.ok (), m))
    (s : ProtocolService) (w : ω) (calls : List ManagerCall) :
    Runs.Along perform (fun y call ↦ y.Held ∧ y.Keeps call ∧ (y.perform call).Held)
        ⟨m, s, w⟩ calls ↔
      Runs.Along perform Spares ⟨m, s, w⟩ calls := by
  have hheld : Held (⟨m, s, w⟩ : ManagedProtocols ω) :=
    held_of_states (ProtocolManager.init_ok h).2
  constructor
  · intro hall
    exact hall.transfer (I := fun _ ↦ True)
      (fun y call _ hp ↦ ⟨trivial, keeps_iff.mp hp.2.1⟩) trivial
  · intro hall
    refine hall.transfer (I := Held) (fun y call hy hs ↦ ?_) hheld
    have hk : y.Keeps call := keeps_iff.mpr hs
    exact ⟨hy.perform hk, hy, hk, hy.perform hk⟩

section Ready

def readyRuntime : ProtocolRuntimeContext Unit where
  commandBus := some fun _ w ↦ (.ok { accepted := true }, w)
  protocolService := true
  streamService := true

def readyManager (config : ProtocolConfig) : ProtocolManager Unit :=
  (ProtocolManager.init config {} readyRuntime {}).2

theorem readyManager_eq (config : ProtocolConfig)
    (h : (ProtocolManager.init config {} readyRuntime {}).1 = .ok ()) :
    ProtocolManager.init config {} readyRuntime {} = (.ok (), readyManager config) :=
  Prod.ext h rfl

theorem owner_kept_iff_ready :
    Runs.Along perform (fun y call ↦ y.Held ∧ y.Keeps call ∧ (y.perform call).Held)
      ⟨readyManager {}, (ProtocolService.init {} {}).2, ()⟩
      [.submit .gb28181 .queryStatus [], .startActiveProtocol, .submit .onvif .queryStatus [],
        .stopAll] := by
  have hspares : Runs.Along perform Spares
      (⟨readyManager {}, (ProtocolService.init {} {}).2, ()⟩ : ManagedProtocols Unit)
      [.submit .gb28181 .queryStatus [], .startActiveProtocol, .submit .onvif .queryStatus [],
        .stopAll] :=
    ⟨.inl (by decide +kernel), trivial, .inr (by decide +kernel), trivial, trivial⟩
  exact (owner_kept_iff (readyManager_eq {} (by decide +kernel)) _ () _).mpr hspares

/-- The first submit of the active protocol gives away the owner its start has taken. -/
theorem owner_lost :
    let y := run ⟨readyManager {}, (ProtocolService.init {} {}).2, ()⟩
      [.startActiveProtocol, .submit .gb28181 .queryStatus []]
    y.manager.state y.manager.activeKind = .running ∧ y.service.activeOwner = [] ∧ ¬y.Held := by
  intro y
  have hr : y.manager.state y.manager.activeKind = .running := by decide +kernel
  have ho : y.service.activeOwner = [] := by decide +kernel
  refine ⟨hr, ho, fun h ↦ ?_⟩
  have hn : y.activeName ≠ [] := by decide +kernel
  exact hn ((h hr).symm.trans ho)

end Ready

structure Agreed (config : ProtocolConfig) (y : ManagedProtocols ω) : Prop where
  manager : y.manager.Ready config
  initialized : y.service.initialized = true
  config_eq : y.service.config = config

theorem Agreed.perform {config : ProtocolConfig} (h : y.Agreed config) (call : ManagerCall) :
    (y.perform call).Agreed config := by
  obtain ⟨hm, hi, hc⟩ := h
  cases call with
  | submit kind type params =>
    refine ⟨hm, ?_, ?_⟩
    all_goals
      simp only [ManagedProtocols.perform]
      rw [ProtocolManager.submit_service]
      split
    · exact hi
    · exact hi
    · exact hc
    · exact hc
  | stopAll =>
    simp only [ManagedProtocols.perform]
    rw [ProtocolManager.stopAll_of_ready hm]
    exact ⟨⟨hm.initialized, hm.guard, hm.activeKind, hm.known⟩,
      ProtocolService.release_initialized.trans hi, ProtocolService.release_config.trans hc⟩
  | startActiveProtocol =>
    simp only [ManagedProtocols.perform]
    by_cases ha : y.manager.guard.isActive (commandSourceOf y.manager.activeKind) y.service = true
    · rw [ProtocolManager.start_of_isActive hm.initialized ha]
      exact ⟨⟨hm.initialized, hm.guard, hm.activeKind, hm.known⟩, hi, hc⟩
    · obtain ⟨e, he⟩ := ProtocolManager.start_of_not_isActive hm.initialized ha
      rw [he]
      exact ⟨⟨hm.initialized, hm.guard, hm.activeKind, hm.known⟩, hi, hc⟩

theorem protocolName_kind_iff {text : Text} (h : protocolKindFromString text ≠ .unknown) :
    text = ProtocolService.protocolName (commandSourceOf (protocolKindFromString text)) ↔
      text = "gb28181" ∨ text = "onvif" ∨ text = "private" ∨ text = "rtsp" := by
  constructor
  · intro ht
    cases hk : protocolKindFromString text <;> rw [hk] at ht
    · exact absurd hk h
    · exact .inl ht
    · exact .inr (.inl ht)
    · exact .inr (.inr (.inl ht))
    · exact .inr (.inr (.inr ht))
  · rintro (rfl | rfl | rfl | rfl) <;> decide +kernel

/-- In every state without an owner that calls of the manager lead to, the active protocol
starts exactly when the configuration spells its name as the service does. -/
theorem start_succeeds_iff {config : ProtocolConfig} {endpointConfig : ProtocolEndpointConfigSet}
    {runtime : ProtocolRuntimeContext ω} {m₀ m : ProtocolManager ω}
    (h : ProtocolManager.init config endpointConfig runtime m₀ = (.ok (), m))
    (s : ProtocolService) (w : ω) (calls : List ManagerCall)
    (hfree : (run ⟨m, (ProtocolService.init config s).2, w⟩ calls).service.activeOwner = []) :
    ((run ⟨m, (ProtocolService.init config s).2, w⟩ calls).manager.startActiveProtocol
        (run ⟨m, (ProtocolService.init config s).2, w⟩ calls).service).1 = .ok () ↔
      config.active = "gb28181" ∨ config.active = "onvif" ∨ config.active = "private" ∨
        config.active = "rtsp" := by
  have hstart : Agreed config (⟨m, (ProtocolService.init config s).2, w⟩ : ManagedProtocols ω) :=
    ⟨(ProtocolManager.init_ok h).1, rfl, rfl⟩
  have hy : Agreed config (run ⟨m, (ProtocolService.init config s).2, w⟩ calls) :=
    Runs.exec_invariant (fun y call hy ↦ hy.perform call) hstart calls
  generalize run ⟨m, (ProtocolService.init config s).2, w⟩ calls = y at hfree hy ⊢
  obtain ⟨hm, hi, hc⟩ := hy
  have hk : protocolKindFromString config.active ≠ .unknown := hm.activeKind ▸ hm.known
  have hne : config.active ≠ [] := fun he ↦ hk (by rw [he]; decide +kernel)
  rw [ProtocolManager.start_succeeded_iff hm.initialized, ActiveProtocolGuard.isActive, hm.guard,
    Bool.true_and, ProtocolService.isActive_iff, hc, hm.activeKind, hfree,
    ← protocolName_kind_iff hk]
  simp only [hi, commandSourceOf_eq_unknown, hk, hne, ne_eq, not_false_eq_true, true_and, true_or,
    or_true, and_true, false_or]

theorem start_succeeds_iff_private :
    ((readyManager { active := "private" }).startActiveProtocol
        (ProtocolService.init { active := "private" } {}).2).1 = .ok () ↔
      ("private" : Text) = "gb28181" ∨ ("private" : Text) = "onvif" ∨
        ("private" : Text) = "private" ∨ ("private" : Text) = "rtsp" :=
  start_succeeds_iff (readyManager_eq { active := "private" } (by decide +kernel)) {} () [] rfl

/-- The manager takes the alias, the service refuses the protocol it names. -/
theorem alias_refused :
    (ProtocolManager.init { active := "http" } {} readyRuntime {}).1 = .ok () ∧
      ((readyManager { active := "http" }).startActiveProtocol
          (ProtocolService.init { active := "http" } {}).2).1 =
        Result.fail .protocolNotActive "protocol is not active: private" := by
  decide +kernel

end ManagedProtocols

end TriFusion.Protocol
