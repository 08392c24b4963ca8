import TriFusion.Foundation.ConfigReload
import TriFusion.Library.Simulation
import TriFusion.Protocol.ManagerOwnership

namespace TriFusion.Protocol

open Foundation Commands Service Library

def ProtocolManager.loadEndpointConfig {ω : Type} (io : FileIo ω) (configDir : Text) (w : ω)
    (m : ProtocolManager ω) : Result Unit × ProtocolManager ω :=
  match ProtocolConfigLoader.loadAll io configDir w with
  | .error e => (Result.rethrow e, m)
  | .ok cfg =>
    let m := { m with endpointConfig := cfg }
    (m.validateActiveEndpoint, m)

/-- What the pointers of a manager lead to: the services by address, and the world of the bus. -/
structure Surroundings (ι ω : Type) where
  services : ι → ProtocolService
  world : ω

/-- A manager with the address that its guard points to. -/
structure WiredManager (ι ω : Type) where
  manager : ProtocolManager ω := {}
  target : Option ι := none

inductive LaterCall
  | startActiveProtocol
  | submit (kind : ProtocolKind) (type : CommandType) (params : CommandParams)
  | stopAll
  | state (kind : ProtocolKind)

inductive LaterAnswer
  | status (ret : Result Unit)
  | response (ret : Result ProtocolResponse)
  | stopped
  | state (state : ProtocolEndpointState)

inductive SetupCall (ι ω : Type)
  | init (config : ProtocolConfig) (endpointConfig : ProtocolEndpointConfigSet)
      (commandBus : Option (CommandBus ω)) (protocolService : Option ι) (streamService : Bool)
  | loadEndpointConfig (configDir : Text) (world : ω)

namespace WiredManager

variable {ι ω : Type} [DecidableEq ι]

omit [DecidableEq ι] in
def service (y : WiredManager ι ω) (env : Surroundings ι ω) : ProtocolService :=
  match y.target with
  | none => {}
  | some i => env.services i

def leave (y : WiredManager ι ω) (s : ProtocolService) (env : Surroundings ι ω) :
    Surroundings ι ω :=
  match y.target with
  | none => env
  | some i => { env with services := Function.update env.services i s }

def answer (y : WiredManager ι ω) (input : LaterCall × Surroundings ι ω) :
    (LaterAnswer × Surroundings ι ω) × WiredManager ι ω :=
  let env := input.2
  match input.1 with
  | .startActiveProtocol =>
    let (ret, m, s) := y.manager.startActiveProtocol (y.service env)
    ((.status ret, y.leave s env), { y with manager := m })
  | .submit kind type params =>
    let (ret, s, w) := y.manager.submit kind type params (y.service env) env.world
    ((.response ret, { y.leave s env with world := w }), y)
  | .stopAll =>
    let (m, s) := y.manager.stopAll (y.service env)
    ((.stopped, y.leave s env), { y with manager := m })
  | .state kind => ((.state (y.manager.state kind), env), y)

omit [DecidableEq ι] in
def setUp (io : FileIo ω) (y : WiredManager ι ω) : SetupCall ι ω → Result Unit × WiredManager ι ω
  | .init config endpointConfig bus service stream =>
    let (ret, m) := y.manager.init config endpointConfig ⟨bus, service.isSome, stream⟩
    -- `guard_.init` comes after the three checks for null
    (ret, { manager := m
            target := if bus.isSome && service.isSome && stream then service else y.target })
  | .loadEndpointConfig configDir w =>
    let (ret, m) := y.manager.loadEndpointConfig io configDir w
    (ret, { y with manager := m })

/-- The later calls answer, and leave their surroundings, as if the call had not been made. -/
def Unnoticed (io : FileIo ω) (y : WiredManager ι ω) (call : SetupCall ι ω) : Prop :=
  ∀ inputs,
    Simulation.answers answer (y.setUp io call).2 inputs = Simulation.answers answer y inputs

def fromBus (bus : Option (CommandBus ω)) (kind : ProtocolKind) (type : CommandType)
    (params : CommandParams) (w : ω) : Option (Result ProtocolResponse × ω) :=
  bus.map fun bus ↦
    let (ret, w) := bus (makeCommand type (commandSourceOf kind) params kind.toString) w
    (ProtocolCommandAdapter.respond ret, w)

/-- No command of a protocol tells the two buses apart. -/
def BusesAlike (bus bus' : Option (CommandBus ω)) : Prop :=
  ∀ kind type params w, kind ≠ .unknown →
    fromBus bus kind type params w = fromBus bus' kind type params w

structure Alike (y y' : WiredManager ι ω) : Prop where
  initialized : y.manager.initialized = y'.manager.initialized
  states : y.manager.states = y'.manager.states
  wiring : y.manager.initialized = true →
    y.manager.activeKind = y'.manager.activeKind ∧ y.manager.guard = y'.manager.guard ∧
      y.target = y'.target ∧
      BusesAlike y.manager.runtime.commandBus y'.manager.runtime.commandBus

variable {y y' : WiredManager ι ω} {bus bus' : Option (CommandBus ω)} {s : ProtocolService} {w : ω}
  {kind : ProtocolKind} {type : CommandType} {params : CommandParams}

theorem adapter_submit_congr {guard : ActiveProtocolGuard} (h : BusesAlike bus bus')
    (hk : kind ≠ .unknown) :
    ({ kind := kind, source := commandSourceOf kind, bus := bus, guard := some guard } :
        ProtocolCommandAdapter ω).submit type params s w =
      ({ kind := kind, source := commandSourceOf kind, bus := bus', guard := some guard } :
        ProtocolCommandAdapter ω).submit type params s w := by
  have hb := h kind type params w hk
  cases bus with
  | none =>
    cases bus' with
    | none => rfl
    | some bus' => cases hb
  | some bus =>
    cases bus' with
    | none => cases hb
    | some bus' =>
      have hu : commandSourceOf kind ≠ .unknown := fun he ↦ hk (commandSourceOf_eq_unknown.mp he)
      obtain ⟨hr, hw⟩ := Prod.mk.inj (Option.some.inj hb)
      simp only [ProtocolCommandAdapter.submit, hu, if_false,
        ProtocolCommandAdapter.command, hr, hw]

theorem busesAlike_isNone (h : BusesAlike bus bus') (w : ω) : bus.isNone = bus'.isNone := by
  have hb := congrArg Option.isNone (h .gb28181 .queryStatus [] w (by decide))
  simpa only [fromBus, Option.isNone_map] using hb

theorem submit_congr {m m' : ProtocolManager ω} (hi : m.initialized = m'.initialized)
    (hg : m.initialized = true → m.guard = m'.guard ∧
      BusesAlike m.runtime.commandBus m'.runtime.commandBus) :
    m.submit kind type params s w = m'.submit kind type params s w := by
  by_cases h : m.initialized = true
  · obtain ⟨hguard, hbus⟩ := hg h
    simp only [ProtocolManager.submit, ProtocolManager.ensureReady_of h,
      ProtocolManager.ensureReady_of (hi ▸ h), ProtocolCommandAdapter.init, hguard,
      busesAlike_isNone hbus w]
    by_cases hk : kind = .unknown
    · simp only [hk, if_true, Result.fail]
    · simp only [hk, if_false]
      cases hn : m'.runtime.commandBus.isNone with
      | true => simp only [if_true, Result.fail]
      | false =>
        simp only [Bool.false_eq_true, if_false]
        exact adapter_submit_congr hbus hk
  · simp only [ProtocolManager.submit, ProtocolManager.ensureReady_of_not h,
      ProtocolManager.ensureReady_of_not (hi ▸ h)]

omit [DecidableEq ι] in
theorem Alike.refl (y : WiredManager ι ω) : Alike y y :=
  ⟨rfl, rfl, fun _ ↦ ⟨rfl, rfl, rfl, fun _ _ _ _ _ ↦ rfl⟩⟩

theorem Alike.service (h : Alike y y') (hi : y.manager.initialized = true)
    (env : Surroundings ι ω) :
    y.service env = y'.service env ∧ ∀ s, y.leave s env = y'.leave s env := by
  obtain ⟨-, -, ht, -⟩ := h.wiring hi
  simp only [WiredManager.service, leave, ht, true_and, implies_true]

@[simp] theorem leave_service (env : Surroundings ι ω) : y.leave (y.service env) env = env := by
  unfold leave WiredManager.service
  cases y.target with
  | none => rfl
  | some i => simp only [Function.update_eq_self]

theorem Alike.answer_not_ready (h : Alike y y') (hi : ¬y.manager.initialized = true)
    (input : LaterCall × Surroundings ι ω) :
    (y.answer input).1 = (y'.answer input).1 ∧ (y.answer input).2 = y ∧
      (y'.answer input).2 = y' := by
  have hi' : ¬y'.manager.initialized = true := h.initialized ▸ hi
  obtain ⟨call, env⟩ := input
  cases call with
  | startActiveProtocol =>
    simp [answer, ProtocolManager.startActiveProtocol, ProtocolManager.ensureReady_of_not hi,
      ProtocolManager.ensureReady_of_not hi']
  | submit kind type params =>
    simp [answer, ProtocolManager.submit, ProtocolManager.ensureReady_of_not hi,
      ProtocolManager.ensureReady_of_not hi']
  | stopAll =>
    simp [answer, ProtocolManager.stopAll_of_not_ready hi,
      ProtocolManager.stopAll_of_not_ready hi']
  | state kind => simp [answer, ProtocolManager.state, h.states]

omit [DecidableEq ι] in
theorem Alike.start (h : Alike y y') (hi : y.manager.initialized = true) (s : ProtocolService) :
    ∃ ret st s', y.manager.startActiveProtocol s =
        (ret, y.manager.setState y.manager.activeKind st, s') ∧
      y'.manager.startActiveProtocol s =
        (ret, y'.manager.setState y.manager.activeKind st, s') := by
  have hi' : y'.manager.initialized = true := h.initialized ▸ hi
  obtain ⟨hk, hg, -, -⟩ := h.wiring hi
  simp only [ProtocolManager.startActiveProtocol, ProtocolManager.ensureReady_of hi,
    ProtocolManager.ensureReady_of hi', ← hk, ← hg]
  rcases y.manager.guard.acquire (commandSourceOf y.manager.activeKind) s with ⟨_ | _, s'⟩
  · exact ⟨_, _, _, rfl, rfl⟩
  · exact ⟨_, _, _, rfl, rfl⟩

omit [DecidableEq ι] in
theorem Alike.stop (h : Alike y y') (hi : y.manager.initialized = true) (s : ProtocolService) :
    ∃ s', y.manager.stopAll s = ({ y.manager with
          states := fun kind ↦ (y.manager.states kind).map fun _ ↦ .stopped }, s') ∧
      y'.manager.stopAll s = ({ y'.manager with
          states := fun kind ↦ (y'.manager.states kind).map fun _ ↦ .stopped }, s') := by
  have hn : ¬(!y.manager.initialized) = true := by simp [hi]
  have hn' : ¬(!y'.manager.initialized) = true := by simp [← h.initialized, hi]
  obtain ⟨hk, hg, -, -⟩ := h.wiring hi
  refine ⟨if y.manager.activeKind ≠ .unknown then
    y.manager.guard.release (commandSourceOf y.manager.activeKind) s else s, ?_, ?_⟩
  · rw [ProtocolManager.stopAll, if_neg hn]
  · rw [ProtocolManager.stopAll, if_neg hn', hk, hg]

omit [DecidableEq ι] in
theorem Alike.withStates (h : Alike y y') {m m' : ProtocolManager ω}
    (hm : { m with states := y.manager.states } = y.manager)
    (hm' : { m' with states := y'.manager.states } = y'.manager) (hs : m.states = m'.states) :
    Alike { y with manager := m } { y' with manager := m' } := by
  have hi : m.initialized = y.manager.initialized := by rw [← hm]
  have hi' : m'.initialized = y'.manager.initialized := by rw [← hm']
  refine ⟨hi.trans (h.initialized.trans hi'.symm), hs, ?_⟩
  intro hr
  have hw := h.wiring (hi ▸ hr)
  rw [← hm, ← hm'] at hw
  exact hw

theorem Alike.answer_ready (h : Alike y y') (hi : y.manager.initialized = true)
    (input : LaterCall × Surroundings ι ω) :
    (y.answer input).1 = (y'.answer input).1 ∧ Alike (y.answer input).2 (y'.answer input).2 := by
  obtain ⟨call, env⟩ := input
  have hi' : y'.manager.initialized = true := h.initialized ▸ hi
  obtain ⟨hk, hg, ht, hb⟩ := h.wiring hi
  obtain ⟨hs, hl⟩ := h.service hi env
  cases call with
  | startActiveProtocol =>
    obtain ⟨ret, st, s', hst, hst'⟩ := h.start hi (y.service env)
    simp only [answer, ← hs, hst, hst', hl]
    refine ⟨trivial, h.withStates rfl rfl ?_⟩
    simp only [ProtocolManager.setState, h.states]
  | submit kind type params =>
    simp only [answer, ← hs, hl, submit_congr h.initialized fun _ ↦ ⟨hg, hb⟩, true_and]
    exact h
  | stopAll =>
    obtain ⟨s', hst, hst'⟩ := h.stop hi (y.service env)
    simp only [answer, ← hs, hst, hst', hl]
    refine ⟨trivial, h.withStates rfl rfl ?_⟩
    simp only [h.states]
  | state kind =>
    simp only [answer, ProtocolManager.state, h.states, true_and]
    exact h

theorem alike_simulates :
    Simulation.Simulates (Alike (ι := ι) (ω := ω)) answer answer := by
  constructor
  · intro y y' input h
    by_cases hi : y.manager.initialized = true
    · exact (h.answer_ready hi input).1
    · exact (h.answer_not_ready hi input).1
  · intro y y' input h
    by_cases hi : y.manager.initialized = true
    · exact (h.answer_ready hi input).2
    · obtain ⟨-, hy, hy'⟩ := h.answer_not_ready hi input
      simp only [Simulation.next, hy, hy']
      exact h

def NullGiven (bus : Option (CommandBus ω)) (service : Option ι) (stream : Bool) : Prop :=
  bus = none ∨ service = none ∨ stream = false

omit [DecidableEq ι] in
theorem setUp_null {io : FileIo ω} {config : ProtocolConfig}
    {endpointConfig : ProtocolEndpointConfigSet} {service : Option ι} {stream : Bool}
    (h : NullGiven bus service stream) :
    (y.setUp io (.init config endpointConfig bus service stream)).2 = y := by
  have ht : (bus.isSome && service.isSome && stream) = false := by
    rcases h with h | h | h <;> simp [h]
  simp only [setUp, ht]
  suffices hm :
      (y.manager.init config endpointConfig ⟨bus, service.isSome, stream⟩).2 = y.manager by
    rw [hm]
    rfl
  unfold ProtocolManager.init
  dsimp only
  split
  · rfl
  split
  · rfl
  split
  · rfl
  · rename_i hb hs hst
    rcases h with h | h | h
    · exact absurd (by rw [h]; rfl) hb
    · exact absurd (by rw [h]; rfl) hs
    · exact absurd (by rw [h]; rfl) hst

omit [DecidableEq ι] in
theorem setUp_init (io : FileIo ω) (y : WiredManager ι ω) (config : ProtocolConfig)
    (endpointConfig : ProtocolEndpointConfigSet) (b : CommandBus ω) (i : ι) :
    let kind := protocolKindFromString config.active
    let overwritten : ProtocolManager ω := { y.manager with
      config := config
      endpointConfig := endpointConfig
      runtime := ⟨some b, true, true⟩
      guard := ⟨true⟩
      activeKind := kind }
    (∃ e, y.setUp io (.init config endpointConfig (some b) (some i) true) =
        (.error e, ⟨overwritten, some i⟩)) ∨
      y.setUp io (.init config endpointConfig (some b) (some i) true) =
        (.ok (), ⟨{ overwritten with
          states := ProtocolManager.stoppedStates, initialized := true }, some i⟩) := by
  intro kind overwritten
  simp only [setUp, ProtocolManager.init, ActiveProtocolGuard.init, Option.isNone_some,
    Option.isSome_some, Bool.not_true, Bool.and_self, Bool.false_eq_true, if_false, if_true]
  by_cases hk : protocolKindFromString config.active = .unknown
  · left
    simp only [hk, if_true, Result.fail]
    exact ⟨_, by rw [← hk]⟩
  · simp only [hk, if_false]
    split
    · exact .inl ⟨_, rfl⟩
    · exact .inr rfl

structure Sound (y : WiredManager ι ω) : Prop where
  guard : y.manager.guard.service = y.target.isSome
  wired : y.manager.initialized = true →
    y.target.isSome = true ∧ y.manager.runtime.commandBus.isSome = true

omit [DecidableEq ι] in
theorem sound_fresh : Sound ({} : WiredManager ι ω) := by
  refine ⟨rfl, fun h ↦ ?_⟩
  cases h

omit [DecidableEq ι] in
theorem Sound.setUp (io : FileIo ω) (hy : Sound y) (call : SetupCall ι ω) :
    Sound (y.setUp io call).2 := by
  cases call with
  | loadEndpointConfig configDir w =>
    simp only [WiredManager.setUp, ProtocolManager.loadEndpointConfig]
    cases ProtocolConfigLoader.loadAll io configDir w with
    | error e => exact hy
    | ok cfg => exact ⟨hy.guard, hy.wired⟩
  | init config endpointConfig bus service stream =>
    by_cases hn : NullGiven bus service stream
    · rw [setUp_null hn]
      exact hy
    · simp only [NullGiven, not_or, ← ne_eq, Option.ne_none_iff_exists'] at hn
      obtain ⟨⟨b, rfl⟩, ⟨i, rfl⟩, hs⟩ := hn
      obtain rfl : stream = true := by simpa using hs
      rcases setUp_init io y config endpointConfig b i with ⟨e, he⟩ | he
      · rw [he]
        exact ⟨rfl, fun _ ↦ ⟨rfl, rfl⟩⟩
      · rw [he]
        exact ⟨rfl, fun _ ↦ ⟨rfl, rfl⟩⟩

theorem Sound.answer (hy : Sound y) (input : LaterCall × Surroundings ι ω) :
    Sound (y.answer input).2 := by
  obtain ⟨call, env⟩ := input
  by_cases hi : y.manager.initialized = true
  · cases call with
    | startActiveProtocol =>
      obtain ⟨ret, st, s', hst, -⟩ := (Alike.refl y).start hi (y.service env)
      simp only [WiredManager.answer, hst]
      exact ⟨hy.guard, hy.wired⟩
    | submit kind type params => exact hy
    | stopAll =>
      obtain ⟨s', hst, -⟩ := (Alike.refl y).stop hi (y.service env)
      simp only [WiredManager.answer, hst]
      exact ⟨hy.guard, hy.wired⟩
    | state kind => exact hy
  · rw [((Alike.refl y).answer_not_ready hi _).2.1]
    exact hy

/-- Services that let in whoever asks, and have an owner already. -/
def openHouse (w : ω) : Surroundings ι ω where
  services _ :=
    { config := { active := [], allowMultiOnline := true }
      activeOwner := "held"
      initialized := true }
  world := w

omit [DecidableEq ι] in
theorem openHouse_isActive (w : ω) (i : ι) (source : CommandSource) :
    ((openHouse w : Surroundings ι ω).services i).isActive source = true ↔ source ≠ .unknown := by
  rw [ProtocolService.isActive_iff]
  simp [openHouse]

theorem submit_openHouse {i : ι} (hy : Sound y) (hi : y.manager.initialized = true)
    (ht : y.target = some i) (kind : ProtocolKind) (type : CommandType) (params : CommandParams)
    (w : ω) (hk : kind ≠ .unknown) :
    ∃ ret w', fromBus y.manager.runtime.commandBus kind type params w = some (ret, w') ∧
      (y.answer (.submit kind type params, openHouse w)).1 =
        (.response ret,
          { services := Function.update (openHouse w).services i
              { (openHouse w : Surroundings ι ω).services i with activeOwner := [] }
            world := w' }) := by
  obtain ⟨b, hb⟩ := Option.isSome_iff_exists.mp (hy.wired hi).2
  have hg : y.manager.guard.service = true := by rw [hy.guard, ht, Option.isSome_some]
  have hu : commandSourceOf kind ≠ .unknown := fun he ↦ hk (commandSourceOf_eq_unknown.mp he)
  have ha : y.manager.guard.isActive (commandSourceOf kind)
      ((openHouse w : Surroundings ι ω).services i) = true := by
    rw [ActiveProtocolGuard.isActive, hg, Bool.true_and]
    exact (openHouse_isActive w i _).mpr hu
  have hw : (openHouse w : Surroundings ι ω).world = w := rfl
  refine ⟨_, _, by rw [fromBus, hb, Option.map_some], ?_⟩
  simp only [answer, WiredManager.service, leave, ht, ProtocolManager.submit,
    ProtocolManager.ensureReady_of hi, ProtocolCommandAdapter.init, hk, hb, Option.isNone_some,
    Bool.false_eq_true, if_false, ProtocolCommandAdapter.submit, hu,
    ActiveProtocolGuard.acquire_of_isActive ha, ProtocolCommandAdapter.command, hw,
    ActiveProtocolGuard.release, hg, if_true, ProtocolService.release]

theorem start_openHouse {i : ι} (hy : Sound y) (hi : y.manager.initialized = true)
    (ht : y.target = some i) (w : ω) :
    ((y.answer (.startActiveProtocol, openHouse w)).1.2.services i).activeOwner =
      if y.manager.activeKind = .unknown then "held".toList
      else ProtocolService.protocolName (commandSourceOf y.manager.activeKind) := by
  have hg : y.manager.guard.service = true := by rw [hy.guard, ht, Option.isSome_some]
  by_cases hk : y.manager.activeKind = .unknown
  · have ha : ¬y.manager.guard.isActive (commandSourceOf y.manager.activeKind)
        ((openHouse w : Surroundings ι ω).services i) = true := by
      rw [ActiveProtocolGuard.isActive, hg, Bool.true_and, openHouse_isActive, hk]
      exact fun h ↦ h rfl
    obtain ⟨e, he⟩ := ProtocolManager.start_of_not_isActive hi ha
    simp only [answer, WiredManager.service, leave, ht, he, Function.update_self, hk, if_true]
    rfl
  · have ha : y.manager.guard.isActive (commandSourceOf y.manager.activeKind)
        ((openHouse w : Surroundings ι ω).services i) = true := by
      rw [ActiveProtocolGuard.isActive, hg, Bool.true_and, openHouse_isActive]
      exact fun he ↦ hk (commandSourceOf_eq_unknown.mp he)
    simp only [answer, WiredManager.service, leave, ht, ProtocolManager.start_of_isActive hi ha,
      Function.update_self, hk, if_false]

theorem wiring_of_answers (hy : Sound y) (hy' : Sound y') (hi : y.manager.initialized = true)
    (hi' : y'.manager.initialized = true) (w : ω)
    (h : ∀ input, (y.answer input).1 = (y'.answer input).1) :
    y.target = y'.target ∧ y.manager.activeKind = y'.manager.activeKind ∧
      BusesAlike y.manager.runtime.commandBus y'.manager.runtime.commandBus := by
  obtain ⟨i, ht⟩ := Option.isSome_iff_exists.mp (hy.wired hi).1
  obtain ⟨j, ht'⟩ := Option.isSome_iff_exists.mp (hy'.wired hi').1
  have hij : i = j := by
    have hk : ProtocolKind.gb28181 ≠ .unknown := by decide
    obtain ⟨ret, w₁, -, hs⟩ := submit_openHouse hy hi ht .gb28181 .queryStatus [] w hk
    obtain ⟨ret', w₂, -, hs'⟩ := submit_openHouse hy' hi' ht' .gb28181 .queryStatus [] w hk
    have he := h (.submit .gb28181 .queryStatus [], openHouse w)
    rw [hs, hs'] at he
    have hservices := congrArg Surroundings.services (Prod.mk.inj he).2
    by_contra hne
    have howner := congrArg ProtocolService.activeOwner (congrFun hservices i)
    simp only [Function.update_self, Function.update_of_ne hne] at howner
    cases howner
  subst hij
  refine ⟨ht.trans ht'.symm, ?_, ?_⟩
  · have hs := start_openHouse hy hi ht w
    rw [h, start_openHouse hy' hi' ht' w] at hs
    revert hs
    cases y.manager.activeKind <;> cases y'.manager.activeKind <;> decide
  · intro kind type params w hk
    obtain ⟨ret, w₁, hb, hs⟩ := submit_openHouse hy hi ht kind type params w hk
    obtain ⟨ret', w₂, hb', hs'⟩ := submit_openHouse hy' hi' ht' kind type params w hk
    have he := h (.submit kind type params, openHouse w)
    rw [hs, hs'] at he
    obtain ⟨hret, henv⟩ := Prod.mk.inj he
    have hw : w₁ = w₂ := congrArg Surroundings.world henv
    rw [hb, hb', LaterAnswer.response.inj hret, hw]

/-- Nothing happens, nobody can look, or the new wiring answers like the old. -/
def Harmless (y : WiredManager ι ω) : SetupCall ι ω → Prop
  | .loadEndpointConfig _ _ => True
  | .init config _ bus service stream =>
    NullGiven bus service stream ∨ y.manager.initialized = false ∨
      (protocolKindFromString config.active = y.manager.activeKind ∧ service = y.target ∧
        BusesAlike bus y.manager.runtime.commandBus)

inductive ManagerEvent (ι ω : Type)
  | setUp (call : SetupCall ι ω)
  | later (call : LaterCall) (env : Surroundings ι ω)

def perform (io : FileIo ω) (y : WiredManager ι ω) : ManagerEvent ι ω → WiredManager ι ω
  | .setUp call => (y.setUp io call).2
  | .later call env => (y.answer (call, env)).2

def reached (io : FileIo ω) (events : List (ManagerEvent ι ω)) : WiredManager ι ω :=
  Runs.exec (perform io) {} events

theorem reached_sound (io : FileIo ω) (events : List (ManagerEvent ι ω)) :
    Sound (reached io events) := by
  refine Runs.exec_invariant (I := Sound) (fun y event hy ↦ ?_) sound_fresh events
  cases event with
  | setUp call => exact hy.setUp io call
  | later call env => exact hy.answer (call, env)

theorem unnoticed_of_alike {io : FileIo ω} {call : SetupCall ι ω}
    (h : Alike (y.setUp io call).2 y) : y.Unnoticed io call :=
  fun inputs ↦ alike_simulates.answers_eq h inputs

omit [DecidableEq ι] in
theorem setUp_load_alike (io : FileIo ω) (y : WiredManager ι ω) (configDir : Text) (w : ω) :
    Alike (y.setUp io (.loadEndpointConfig configDir w)).2 y := by
  simp only [WiredManager.setUp, ProtocolManager.loadEndpointConfig]
  cases ProtocolConfigLoader.loadAll io configDir w with
  | error e => exact Alike.refl y
  | ok cfg => exact ⟨rfl, rfl, fun _ ↦ ⟨rfl, rfl, rfl, fun _ _ _ _ _ ↦ rfl⟩⟩

theorem Sound.unnoticed_iff {io : FileIo ω} {call : SetupCall ι ω} (hy : Sound y) (w : ω)
    (hfail : ∃ e, (y.setUp io call).1 = .error e) : y.Unnoticed io call ↔ y.Harmless call := by
  cases call with
  | loadEndpointConfig configDir w =>
    exact iff_of_true (unnoticed_of_alike (setUp_load_alike io y configDir w)) trivial
  | init config endpointConfig bus service stream =>
    by_cases hn : NullGiven bus service stream
    · refine iff_of_true (fun inputs ↦ ?_) (.inl hn)
      rw [setUp_null hn]
    · simp only [Harmless, hn, false_or]
      simp only [NullGiven, not_or, ← ne_eq, Option.ne_none_iff_exists'] at hn
      obtain ⟨⟨b, rfl⟩, ⟨i, rfl⟩, hs⟩ := hn
      obtain rfl : stream = true := by simpa using hs
      have hsound := hy.setUp io (.init config endpointConfig (some b) (some i) true)
      obtain ⟨e, hf⟩ := hfail
      rcases setUp_init io y config endpointConfig b i with ⟨e', he⟩ | he
      · obtain ⟨y₁, hy₁⟩ : ∃ y₁,
            (y.setUp io (.init config endpointConfig (some b) (some i) true)).2 = y₁ := ⟨_, rfl⟩
        rw [hy₁] at hsound
        have hinit : y₁.manager.initialized = y.manager.initialized := by rw [← hy₁, he]
        have hkind : y₁.manager.activeKind = protocolKindFromString config.active := by
          rw [← hy₁, he]
        have htarget : y₁.target = some i := by rw [← hy₁, he]
        have hbus : y₁.manager.runtime.commandBus = some b := by rw [← hy₁, he]
        constructor
        · intro hu
          rw [or_iff_not_imp_left]
          intro hi
          have hi' : y.manager.initialized = true := by simpa using hi
          have hall : ∀ input, (y₁.answer input).1 = (y.answer input).1 := by
            intro input
            have hone := hu [input]
            rw [hy₁] at hone
            exact (List.cons.inj hone).1
          obtain ⟨ht, hk, hb⟩ := wiring_of_answers hsound hy (hinit.trans hi') hi' w hall
          rw [hbus] at hb
          exact ⟨hkind.symm.trans hk, htarget.symm.trans ht, hb⟩
        · intro hh
          apply unnoticed_of_alike
          rw [hy₁]
          refine ⟨hinit, by rw [← hy₁, he], fun hi ↦ ?_⟩
          rcases hh with hh | ⟨hk, ht, hb⟩
          · rw [hinit, hh] at hi
            cases hi
          · refine ⟨hkind.trans hk, congrArg ActiveProtocolGuard.mk ?_, htarget.trans ht, ?_⟩
            · rw [hsound.guard, hy.guard, htarget, ht]
            · rw [hbus]
              exact hb
      · rw [he] at hf
        cases hf

/-- A failed setup call of any manager that calls have led to goes unnoticed
exactly when it is harmless. -/
theorem failed_setup_unnoticed_iff (io : FileIo ω) (events : List (ManagerEvent ι ω)) (w : ω)
    (call : SetupCall ι ω) (hfail : ∃ e, ((reached io events).setUp io call).1 = .error e) :
    (reached io events).Unnoticed io call ↔ (reached io events).Harmless call :=
  (reached_sound io events).unnoticed_iff w hfail

section Running

def running : List (ManagerEvent Unit Unit) :=
  [.setUp (.init {} {} ManagedProtocols.readyRuntime.commandBus (some ()) true),
    .later .startActiveProtocol ⟨fun _ ↦ (ProtocolService.init {} {}).2, ()⟩]

def unknownActive : SetupCall Unit Unit :=
  .init { active := "none" } {} ManagedProtocols.readyRuntime.commandBus (some ()) true

def bareDisk : FileIo Unit := ConfigManager.disk fun _ ↦ none

theorem unknownActive_fails : ∃ e, ((reached bareDisk running).setUp bareDisk unknownActive).1 =
    .error e :=
  ⟨⟨.configError, "unknown active protocol: none"⟩, by decide +kernel⟩

theorem failed_setup_unnoticed_iff_running :
    (reached bareDisk running).Unnoticed bareDisk unknownActive ↔
      (reached bareDisk running).Harmless unknownActive :=
  failed_setup_unnoticed_iff bareDisk running () unknownActive unknownActive_fails

/-- After the failed `init` the running protocol can no longer be started. -/
theorem failed_init_noticed :
    (reached bareDisk running).manager.state .gb28181 = .running ∧
      (∃ e, ((reached bareDisk running).setUp bareDisk unknownActive).1 = .error e) ∧
      ¬(reached bareDisk running).Unnoticed bareDisk unknownActive := by
  refine ⟨by decide +kernel, unknownActive_fails, fun h ↦ ?_⟩
  have hone := h [(.startActiveProtocol, openHouse ())]
  have howners := congrArg (List.map fun a ↦ (a.2.services ()).activeOwner) hone
  exact absurd howners (by decide +kernel)

end Running

end WiredManager

end TriFusion.Protocol
