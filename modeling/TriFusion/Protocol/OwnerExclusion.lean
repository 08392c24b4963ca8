import TriFusion.Library.Pool
import TriFusion.Protocol.ProtocolCommandAdapter

namespace TriFusion.Protocol

open Foundation Commands Service Library

structure SubmitCall (ω : Type) where
  adapter : ProtocolCommandAdapter ω
  type : CommandType
  params : CommandParams

inductive SubmitPhase (ω : Type)
  | entering
  | owning (guard : ActiveProtocolGuard) (bus : CommandBus ω)
  | submitted (guard : ActiveProtocolGuard) (ret : Result CommandResult)
  | returned (ret : Result ProtocolResponse)

namespace SubmitPhase

variable {ω : Type}

/-- Between the acquire that let the call in and its release. -/
def Holds : SubmitPhase ω → Prop
  | .owning _ _ | .submitted _ _ => True
  | .entering | .returned _ => False

def Releasing : SubmitPhase ω → Prop
  | .submitted _ _ => True
  | .entering | .owning _ _ | .returned _ => False

end SubmitPhase

namespace SubmitCall

variable {ω : Type}

def source (c : SubmitCall ω) : CommandSource := c.adapter.source

/-- `ProtocolCommandAdapter::submit`, one lock or one bus call a step. -/
def advance (c : SubmitCall ω) (shared : ProtocolService × ω) :
    SubmitPhase ω → (ProtocolService × ω) × SubmitPhase ω
  | .entering =>
    match c.adapter.bus with
    | none =>
      (shared, .returned (.fail .notInitialized "protocol command adapter is not initialized"))
    | some bus =>
      if c.source = .unknown then
        (shared, .returned (.fail .invalidArgument "invalid protocol command source"))
      else
        match c.adapter.guard with
        | none =>
          let (ret, w) := bus (c.adapter.command c.type c.params) shared.2
          ((shared.1, w), .returned (ProtocolCommandAdapter.respond ret))
        | some guard =>
          match guard.acquire c.source shared.1 with
          | (.error e, s) => ((s, shared.2), .returned (Result.rethrow e))
          | (.ok (), s) => ((s, shared.2), .owning guard bus)
  | .owning guard bus =>
    let (ret, w) := bus (c.adapter.command c.type c.params) shared.2
    ((shared.1, w), .submitted guard ret)
  | .submitted guard ret =>
    ((guard.release c.source shared.1, shared.2),
      .returned (ProtocolCommandAdapter.respond ret))
  | .returned ret => (shared, .returned ret)

def Contends (c : SubmitCall ω) : Prop :=
  c.adapter.bus.isSome = true ∧ c.source ≠ .unknown ∧
    ∃ guard, c.adapter.guard = some guard ∧ guard.service = true

variable {c : SubmitCall ω} {s : ProtocolService} {w : ω} {phase : SubmitPhase ω}

theorem advance_alone :
    let step := fun p : (ProtocolService × ω) × SubmitPhase ω ↦ c.advance p.1 p.2
    let r := c.adapter.submit c.type c.params s w
    step (step (step ((s, w), .entering))) = (r.2, .returned r.1) := by
  intro step r
  have hstep (p) : step p = c.advance p.1 p.2 := rfl
  have hr : r = c.adapter.submit c.type c.params s w := rfl
  have hs : c.adapter.source = c.source := rfl
  simp only [ProtocolCommandAdapter.submit, hs] at hr
  rw [hstep ((s, w), .entering), advance]
  cases hb : c.adapter.bus with
  | none =>
    simp only [hb] at hr
    rw [hr]
    rfl
  | some bus =>
    simp only [hb] at hr
    dsimp only
    by_cases hu : c.source = .unknown
    · rw [if_pos hu] at hr ⊢
      rw [hr]
      rfl
    · rw [if_neg hu] at hr ⊢
      cases hg : c.adapter.guard with
      | none =>
        simp only [hg] at hr
        rw [hr]
        rfl
      | some guard =>
        simp only [hg] at hr
        dsimp only
        rcases ha : guard.acquire c.source s with ⟨_ | _, s'⟩
        · rw [ha] at hr
          rw [hr]
          rfl
        · rw [ha] at hr
          rw [hr]
          rfl

theorem advance_cases (c : SubmitCall ω) (s : ProtocolService) (w : ω) (phase : SubmitPhase ω) :
    (¬phase.Holds ∧ c.Contends ∧ s.isActive c.source = true ∧
      (c.advance (s, w) phase).1.1 =
        { s with activeOwner := ProtocolService.protocolName c.source } ∧
      (c.advance (s, w) phase).2.Holds) ∨
    (phase.Releasing ∧
      ((c.advance (s, w) phase).1.1 = s.release c.source ∨ (c.advance (s, w) phase).1.1 = s) ∧
      ¬(c.advance (s, w) phase).2.Holds) ∨
    ((c.advance (s, w) phase).1.1 = s ∧
      ((c.advance (s, w) phase).2.Holds ↔ phase.Holds)) := by
  cases phase with
  | owning guard bus => exact .inr (.inr ⟨rfl, Iff.rfl⟩)
  | returned ret => exact .inr (.inr ⟨rfl, Iff.rfl⟩)
  | submitted guard ret =>
    refine .inr (.inl ⟨trivial, ?_, id⟩)
    simp only [advance, ActiveProtocolGuard.release]
    split
    · exact .inl rfl
    · exact .inr rfl
  | entering =>
    simp only [advance]
    cases hb : c.adapter.bus with
    | none => exact .inr (.inr ⟨rfl, Iff.rfl⟩)
    | some bus =>
      by_cases hu : c.source = .unknown
      · simp only [if_pos hu]
        exact .inr (.inr ⟨trivial, Iff.rfl⟩)
      · simp only [if_neg hu]
        cases hg : c.adapter.guard with
        | none => exact .inr (.inr ⟨rfl, Iff.rfl⟩)
        | some guard =>
          by_cases ha : guard.isActive c.source s = true
          · simp only [ActiveProtocolGuard.acquire_of_isActive ha]
            obtain ⟨hs, ha⟩ := Bool.and_eq_true_iff.mp ha
            exact .inl ⟨id, ⟨by rw [hb]; rfl, hu, guard, hg, hs⟩, ha, trivial, trivial⟩
          · obtain ⟨e, he⟩ := ActiveProtocolGuard.acquire_of_not_isActive ha
            simp only [he]
            exact .inr (.inr ⟨trivial, Iff.rfl⟩)

theorem advance_acquires (hc : c.Contends) (ha : s.isActive c.source = true) :
    ∃ guard bus, guard.service = true ∧ c.advance (s, w) .entering =
      (({ s with activeOwner := ProtocolService.protocolName c.source }, w),
        .owning guard bus) := by
  obtain ⟨hb, hu, guard, hg, hs⟩ := hc
  obtain ⟨bus, hb⟩ := Option.isSome_iff_exists.mp hb
  refine ⟨guard, bus, hs, ?_⟩
  have hga : guard.isActive c.source s = true := Bool.and_eq_true_iff.mpr ⟨hs, ha⟩
  simp only [advance, hb, hg, if_neg hu, ActiveProtocolGuard.acquire_of_isActive hga]

end SubmitCall

section Pool

abbrev SubmitPool (ι ω : Type) := Pool ι (ProtocolService × ω) (SubmitPhase ω)

namespace SubmitPool

variable {ι ω : Type} (calls : ι → SubmitCall ω)

def start (ι : Type) (config : ProtocolConfig) (s : ProtocolService) (w : ω) :
    SubmitPool ι ω :=
  ⟨((ProtocolService.init config s).2, w), fun _ ↦ .entering⟩

def Exclusive (p : SubmitPool ι ω) : Prop :=
  ∀ i j, (p.locals i).Holds → (p.locals j).Holds → (calls i).source = (calls j).source

/-- The service admits one protocol only, or no call lets the owner go while another
call of its protocol still relies on it. -/
def Spared (p : SubmitPool ι ω) (i : ι) : Prop :=
  p.shared.1.config.active ≠ [] ∨
    ∀ j, j ≠ i → (p.locals i).Releasing → (p.locals j).Holds →
      (calls j).source ≠ (calls i).source

def Contended : Prop :=
  ∃ i j k, i ≠ j ∧ (calls i).Contends ∧ (calls j).Contends ∧ (calls k).Contends ∧
    (calls i).source = (calls j).source ∧ (calls k).source ≠ (calls i).source

structure Settled (config : ProtocolConfig) (p : SubmitPool ι ω) : Prop where
  config_eq : p.shared.1.config = config
  contends : ∀ i, (p.locals i).Holds → (calls i).Contends

structure Owned (config : ProtocolConfig) (p : SubmitPool ι ω) : Prop
    extends Settled calls config p where
  owner : ∀ i, (p.locals i).Holds →
    config.active = ProtocolService.protocolName (calls i).source ∨
      config.active = [] ∧
        p.shared.1.activeOwner = ProtocolService.protocolName (calls i).source

variable {calls} {config : ProtocolConfig} {p : SubmitPool ι ω} {i j : ι}

theorem name_ne_nil {c : SubmitCall ω} (hc : c.Contends) :
    ProtocolService.protocolName c.source ≠ [] :=
  fun he ↦ hc.2.1 (ProtocolService.protocolName_eq_nil.mp he)

variable (calls config) in
theorem owned_start (s : ProtocolService) (w : ω) : Owned calls config (start ι config s w) where
  config_eq := rfl
  contends _ h := h.elim
  owner _ h := h.elim

theorem Owned.exclusive (h : Owned calls config p) : Exclusive calls p := by
  intro i j hi hj
  apply ProtocolService.protocolName_injective
  have hi' := name_ne_nil (h.contends i hi)
  have hj' := name_ne_nil (h.contends j hj)
  rcases h.owner i hi with hai | ⟨hai, hoi⟩ <;> rcases h.owner j hj with haj | ⟨haj, hoj⟩
  · exact hai.symm.trans haj
  · exact absurd (hai.symm.trans haj) hi'
  · exact absurd (haj.symm.trans hai) hj'
  · exact hoi.symm.trans hoj

theorem spared_of_active (h : Settled calls config p) (hc : config.active ≠ []) :
    Spared calls p i :=
  .inl (h.config_eq ▸ hc)

theorem spared_of_distinct (h : Settled calls config p)
    (hd : ∀ i j, i ≠ j → (calls i).Contends → (calls j).Contends →
      (calls i).source ≠ (calls j).source) : Spared calls p i := by
  refine .inr fun j hji hrel hj ↦ ?_
  have hi : (p.locals i).Holds := by
    cases hl : p.locals i with
    | submitted guard ret => trivial
    | entering | owning | returned =>
      rw [hl] at hrel
      exact hrel.elim
  exact hd j i hji (h.contends j hj) (h.contends i hi)

variable [DecidableEq ι]

variable (calls) in
def step (p : SubmitPool ι ω) (i : ι) : SubmitPool ι ω :=
  Pool.step (fun i ↦ (calls i).advance) p i

variable (calls) in
def run (p : SubmitPool ι ω) (schedule : List ι) : SubmitPool ι ω :=
  Runs.exec (step calls) p schedule

theorem step_self : (step calls p i).locals i = ((calls i).advance p.shared (p.locals i)).2 :=
  Pool.step_self _ p i

theorem step_other (h : j ≠ i) : (step calls p i).locals j = p.locals j :=
  Pool.step_other _ p h

theorem step_shared :
    (step calls p i).shared = ((calls i).advance p.shared (p.locals i)).1 := rfl

theorem Settled.step (h : Settled calls config p) (i : ι) :
    Settled calls config (step calls p i) := by
  have hothers (hi : ((SubmitPool.step calls p i).locals i).Holds → (calls i).Contends) (j : ι)
      (hj : ((SubmitPool.step calls p i).locals j).Holds) : (calls j).Contends := by
    by_cases hji : j = i
    · exact hji ▸ hi (hji ▸ hj)
    · exact h.contends j (step_other hji ▸ hj)
  rcases (calls i).advance_cases p.shared.1 p.shared.2 (p.locals i) with
    ⟨-, hc, -, hs, -⟩ | ⟨-, hs, hn⟩ | ⟨hs, hh⟩
  · refine ⟨?_, hothers fun _ ↦ hc⟩
    rw [step_shared, hs]
    exact h.config_eq
  · refine ⟨?_, hothers fun hi ↦ absurd (by rwa [step_self] at hi) hn⟩
    rw [step_shared]
    rcases hs with hs | hs <;> rw [hs]
    · exact ProtocolService.release_config.trans h.config_eq
    · exact h.config_eq
  · refine ⟨?_, hothers fun hi ↦ h.contends i (hh.mp (by rwa [step_self] at hi))⟩
    rw [step_shared, hs]
    exact h.config_eq

theorem Owned.step (hm : config.allowMultiOnline = false) (h : Owned calls config p)
    (hp : Spared calls p i) : Owned calls config (step calls p i) := by
  refine ⟨h.toSettled.step i, fun j hj ↦ ?_⟩
  rcases (calls i).advance_cases p.shared.1 p.shared.2 (p.locals i) with
    ⟨-, hc, ha, hs, -⟩ | ⟨hrel, hs, hn⟩ | ⟨hs, hh⟩
  · rw [step_shared, hs]
    obtain ⟨-, -, hact, hown⟩ := ProtocolService.isActive_iff.mp ha
    rw [h.config_eq] at hact hown
    by_cases hji : j = i
    · subst hji
      exact hact.symm.imp_right fun he ↦ ⟨he, rfl⟩
    · rw [step_other hji] at hj
      refine (h.owner j hj).imp_right fun ⟨he, ho⟩ ↦ ⟨he, ?_⟩
      rcases hown with hown | hown | hown
      · exact absurd hown (by rw [hm]; decide)
      · exact absurd (ho.symm.trans hown) (name_ne_nil (h.contends j hj))
      · exact hown.symm.trans ho
  · have hji : j ≠ i := fun hji ↦ hn (by rwa [hji, step_self] at hj)
    rw [step_other hji] at hj
    refine (h.owner j hj).imp_right fun ⟨he, ho⟩ ↦ ⟨he, ?_⟩
    rw [step_shared]
    rcases hs with hs | hs
    · have hne : p.shared.1.activeOwner ≠ ProtocolService.protocolName (calls i).source := by
        intro heq
        rcases hp with hp | hp
        · exact hp (h.config_eq ▸ he)
        · exact hp j hji hrel hj (ProtocolService.protocolName_injective (ho.symm.trans heq))
      rw [hs, ProtocolService.release_of_ne hne]
      exact ho
    · rw [hs]
      exact ho
  · rw [step_shared, hs]
    by_cases hji : j = i
    · exact h.owner j (hji ▸ hh.mp (by rwa [hji, step_self] at hj))
    · exact h.owner j (step_other hji ▸ hj)

theorem exclusive_of_spared (hm : config.allowMultiOnline = false) {s : ProtocolService} {w : ω}
    {schedule : List ι}
    (h : Runs.Along (step calls) (Spared calls) (start ι config s w) schedule) :
    Exclusive calls (run calls (start ι config s w) schedule) :=
  (h.invariant (fun _ _ hp hs ↦ hp.step hm hs) (owned_start calls config s w)).exclusive

theorem settled_run {s : ProtocolService} {w : ω} (schedule : List ι) :
    Settled calls config (run calls (start ι config s w) schedule) :=
  Runs.exec_invariant (fun _ i hp ↦ hp.step i) (owned_start calls config s w).toSettled schedule

theorem along_spared {s : ProtocolService} {w : ω} (schedule : List ι)
    (h : ∀ p i, Settled calls config p → Spared calls p i) :
    Runs.Along (step calls) (Spared calls) (start ι config s w) schedule :=
  Runs.along_of_invariant (fun p i hp ↦ ⟨hp.step i, h p i hp⟩)
    (owned_start calls config s w).toSettled schedule

theorem exclusive_of_not_contended (hm : config.allowMultiOnline = false) {s : ProtocolService}
    {w : ω} (h : ¬Contended calls) (schedule : List ι) :
    Exclusive calls (run calls (start ι config s w) schedule) := by
  by_cases hd : ∀ i j, i ≠ j → (calls i).Contends → (calls j).Contends →
      (calls i).source ≠ (calls j).source
  · exact exclusive_of_spared hm (along_spared schedule fun p i hp ↦ spared_of_distinct hp hd)
  · simp only [not_forall, not_not, exists_prop] at hd
    obtain ⟨i, j, hij, hi, hj, he⟩ := hd
    have hall (k : ι) (hk : (calls k).Contends) : (calls k).source = (calls i).source :=
      by_contra fun hne ↦ h ⟨i, j, k, hij, hi, hj, hk, he, hne⟩
    have hs : Settled calls config (run calls (start ι config s w) schedule) :=
      settled_run schedule
    intro k l hk hl
    exact (hall k (hs.contends k hk)).trans (hall l (hs.contends l hl)).symm

theorem step_acquires (hl : p.locals i = .entering) (hc : (calls i).Contends)
    (ha : p.shared.1.isActive (calls i).source = true) :
    (step calls p i).shared.1 =
        { p.shared.1 with activeOwner := ProtocolService.protocolName (calls i).source } ∧
      ∃ guard bus, guard.service = true ∧ (step calls p i).locals i = .owning guard bus := by
  obtain ⟨guard, bus, hg, he⟩ := (calls i).advance_acquires (w := p.shared.2) hc ha
  have he : (calls i).advance p.shared (p.locals i) = _ := hl ▸ he
  exact ⟨by rw [step_shared, he], guard, bus, hg, by rw [step_self, he]⟩

theorem step_submits {guard : ActiveProtocolGuard} {bus : CommandBus ω}
    (hl : p.locals i = .owning guard bus) :
    (step calls p i).shared.1 = p.shared.1 ∧
      ∃ ret, (step calls p i).locals i = .submitted guard ret := by
  rw [step_shared, step_self, hl]
  exact ⟨rfl, _, rfl⟩

theorem step_releases {guard : ActiveProtocolGuard} {ret : Result CommandResult}
    (hl : p.locals i = .submitted guard ret) (hg : guard.service = true) :
    (step calls p i).shared.1 = p.shared.1.release (calls i).source := by
  rw [step_shared, hl, SubmitCall.advance, ActiveProtocolGuard.release, if_pos hg]

/-- Two calls of one protocol are let in, the first to return clears the owner, and a call
of another protocol is let in beside the second. -/
theorem not_exclusive_of_contended (hc : config.active = []) {s : ProtocolService} {w : ω}
    (h : Contended calls) :
    ∃ schedule, ¬Exclusive calls (run calls (start ι config s w) schedule) := by
  obtain ⟨i, j, k, hij, hi, hj, hk, he, hne⟩ := h
  have hki : k ≠ i := fun hki ↦ hne (hki ▸ rfl)
  have hkj : k ≠ j := fun hkj ↦ hne (hkj ▸ he.symm)
  have hact (p : SubmitPool ι ω) (l : ι) (hl : (calls l).Contends)
      (hs : p.shared.1.initialized = true ∧ p.shared.1.config = config)
      (ho : p.shared.1.activeOwner = [] ∨
        p.shared.1.activeOwner = ProtocolService.protocolName (calls l).source) :
      p.shared.1.isActive (calls l).source = true :=
    ProtocolService.isActive_iff.mpr ⟨hs.1, hl.2.1, .inl (hs.2 ▸ hc), .inr ho⟩
  set p₀ : SubmitPool ι ω := start ι config s w
  -- `i` and `j` are let in
  obtain ⟨hs₁, g, b, hg, hi₁⟩ :=
    step_acquires (p := p₀) (i := i) rfl hi (hact p₀ i hi ⟨rfl, rfl⟩ (.inl rfl))
  set p₁ := step calls p₀ i
  have hj₁ : p₁.locals j = .entering := step_other (Ne.symm hij)
  have hk₁ : p₁.locals k = .entering := step_other hki
  obtain ⟨hs₂, g', b', hg', hj₂⟩ := step_acquires hj₁ hj
    (hact p₁ j hj (by rw [hs₁]; exact ⟨rfl, rfl⟩) (.inr (by rw [hs₁, he])))
  set p₂ := step calls p₁ j
  have hi₂ : p₂.locals i = .owning g b := (step_other hij).trans hi₁
  have hk₂ : p₂.locals k = .entering := (step_other hkj).trans hk₁
  -- `i` gets its answer and returns
  obtain ⟨hs₃, ret, hi₃⟩ : (step calls p₂ i).shared.1 = p₂.shared.1 ∧
      ∃ ret, (step calls p₂ i).locals i = .submitted g ret := step_submits hi₂
  set p₃ := step calls p₂ i
  have hj₃ : p₃.locals j = .owning g' b' := (step_other (Ne.symm hij)).trans hj₂
  have hk₃ : p₃.locals k = .entering := (step_other hki).trans hk₂
  have hs₄ : (step calls p₃ i).shared.1 = { p₃.shared.1 with activeOwner := [] } := by
    rw [step_releases hi₃ hg]
    exact ProtocolService.release_of_eq (by rw [hs₃, hs₂, he])
  set p₄ := step calls p₃ i
  have hj₄ : p₄.locals j = .owning g' b' := (step_other (Ne.symm hij)).trans hj₃
  have hk₄ : p₄.locals k = .entering := (step_other hki).trans hk₃
  -- `k` finds no owner
  obtain ⟨-, g'', b'', -, hk₅⟩ := step_acquires hk₄ hk
    (hact p₄ k hk (by rw [hs₄, hs₃, hs₂, hs₁]; exact ⟨rfl, rfl⟩) (.inl (by rw [hs₄])))
  have hj₅ : (step calls p₄ k).locals j = .owning g' b' := (step_other (Ne.symm hkj)).trans hj₄
  refine ⟨[i, j, i, i, k], fun hx ↦ hne ?_⟩
  have hx : (calls k).source = (calls j).source :=
    hx k j (by change ((step calls p₄ k).locals k).Holds; rw [hk₅]; trivial)
      (by change ((step calls p₄ k).locals j).Holds; rw [hj₅]; trivial)
  exact hx.trans he.symm

/-- Runs that spare every owner keep the protocols apart, and all runs of the calls do so
exactly when the service admits one protocol only or no two calls of one protocol meet a
call of another. -/
theorem exclusive_iff (hm : config.allowMultiOnline = false) (s : ProtocolService) (w : ω) :
    (∀ schedule, Runs.Along (step calls) (Spared calls) (start ι config s w) schedule →
        Exclusive calls (run calls (start ι config s w) schedule)) ∧
      ((∀ schedule, Exclusive calls (run calls (start ι config s w) schedule)) ↔
        config.active ≠ [] ∨ ¬Contended calls) := by
  refine ⟨fun schedule ↦ exclusive_of_spared hm, fun h ↦ ?_, fun h schedule ↦ ?_⟩
  · by_contra hn
    rw [not_or, not_not, not_not] at hn
    obtain ⟨schedule, hx⟩ := not_exclusive_of_contended (s := s) (w := w) hn.1 hn.2
    exact hx (h schedule)
  · rcases h with h | h
    · exact exclusive_of_spared hm (along_spared schedule fun p i hp ↦ spared_of_active hp h)
    · exact exclusive_of_not_contended hm h schedule

def readyCall (kind : ProtocolKind) : SubmitCall Unit where
  adapter := (ProtocolCommandAdapter.init kind (some fun _ w ↦ (.ok { accepted := true }, w))
    (some { service := true }) {}).2
  type := .queryStatus
  params := []

theorem exclusive_iff_ready :
    (∀ schedule, Runs.Along (step fun _ : ℕ ↦ readyCall .rtsp) (Spared fun _ ↦ readyCall .rtsp)
        (start ℕ { active := "rtsp" } {} ()) schedule →
        Exclusive (fun _ ↦ readyCall .rtsp)
          (run (fun _ ↦ readyCall .rtsp) (start ℕ { active := "rtsp" } {} ()) schedule)) ∧
      ((∀ schedule, Exclusive (fun _ ↦ readyCall .rtsp)
          (run (fun _ ↦ readyCall .rtsp) (start ℕ { active := "rtsp" } {} ()) schedule)) ↔
        ("rtsp" : Text) ≠ [] ∨ ¬Contended fun _ : ℕ ↦ readyCall .rtsp) :=
  exclusive_iff rfl {} ()

/-- The second of two calls loses the owner to the return of the first. -/
theorem robbed_owner :
    let calls : ℕ → SubmitCall Unit := fun i ↦ readyCall (if i < 2 then .gb28181 else .rtsp)
    let p := run calls (start ℕ { active := [], allowMultiOnline := false } {} ()) [0, 1, 0, 0, 2]
    ¬Exclusive calls p := by
  intro calls p h
  have h₁ : (p.locals 1).Holds := True.intro
  have h₂ : (p.locals 2).Holds := True.intro
  exact nomatch h 1 2 h₁ h₂

end SubmitPool

end Pool

end TriFusion.Protocol
