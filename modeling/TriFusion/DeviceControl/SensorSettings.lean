import TriFusion.DeviceControl.SensorLine

namespace TriFusion.DeviceControl

open Foundation Hardware Library.Runs

namespace CompositeSensorController

section Calls

variable {ω : Type} (tty : Tty ω) (nowMs : ω → Int64 × ω)

def getFusionMode (c : CompositeSensorController) (w : ω) :
    Result CompositeSensorOutputMode × CompositeSensorController × ω :=
  match readRegister tty CompositeSensorRegister.fusionMode.address c w with
  | (.error e, c, w) => (.rethrow e, c, w)
  | (.ok value, c, w) =>
    let mode := CompositeSensorOutputMode.fromRegisterValue value
    if mode = .unknown then
      (.fail .serialAckInvalid
        ("unknown fusion mode register value: ".toList ++ decimal value.toNat), c, w)
    else (.ok mode, { c with state.currentMode := mode }, w)

def queryOutputMode (c : CompositeSensorController) (w : ω) :
    Result CompositeSensorOutputMode × CompositeSensorController × ω := getFusionMode tty c w

def validatePercent (value : UInt16) (name : Text) : Result Unit :=
  if value > 100 then .fail .invalidArgument (name ++ " must be 0..100".toList) else .ok ()

/-- The cast of the enumerations to the register word keeps every value of theirs, named or
not. -/
def setFusionColor (color : UInt16) (c : CompositeSensorController) (w : ω) :
    Result Unit × CompositeSensorController × ω :=
  writeRegister tty CompositeSensorRegister.fusionColor.address color c w

def setContourMode (mode : UInt16) (c : CompositeSensorController) (w : ω) :
    Result Unit × CompositeSensorController × ω :=
  writeRegister tty CompositeSensorRegister.contourMode.address mode c w

def setInfraredPolarity (polarity : UInt16) (c : CompositeSensorController) (w : ω) :
    Result Unit × CompositeSensorController × ω :=
  writeRegister tty CompositeSensorRegister.infraredPolarity.address polarity c w

def triggerInfraredCorrection (c : CompositeSensorController) (w : ω) :
    Result Unit × CompositeSensorController × ω :=
  writeRegister tty CompositeSensorRegister.infraredCorrection.address 1 c w

def setPercent (reg : CompositeSensorRegister) (name : Text) (value : UInt16)
    (c : CompositeSensorController) (w : ω) : Result Unit × CompositeSensorController × ω :=
  match validatePercent value name with
  | .error e => (.error e, c, w)
  | .ok () => writeRegister tty reg.address value c w

def setInfraredBrightness (value : UInt16) (c : CompositeSensorController) (w : ω) :
    Result Unit × CompositeSensorController × ω :=
  setPercent tty .infraredBrightness "infrared brightness" value c w

def setInfraredContrast (value : UInt16) (c : CompositeSensorController) (w : ω) :
    Result Unit × CompositeSensorController × ω :=
  setPercent tty .infraredContrast "infrared contrast" value c w

def setLowlightBrightness (value : UInt16) (c : CompositeSensorController) (w : ω) :
    Result Unit × CompositeSensorController × ω :=
  setPercent tty .lowlightBrightness "lowlight brightness" value c w

def setLowlightContrast (value : UInt16) (c : CompositeSensorController) (w : ω) :
    Result Unit × CompositeSensorController × ω :=
  setPercent tty .lowlightContrast "lowlight contrast" value c w

def setZoom (reg : CompositeSensorRegister) (most : UInt16) (message : Text) (value : UInt16)
    (c : CompositeSensorController) (w : ω) : Result Unit × CompositeSensorController × ω :=
  if value > most then (.fail .invalidArgument message, c, w)
  else writeRegister tty reg.address value c w

def setInfraredRegistrationZoom (value : UInt16) (c : CompositeSensorController) (w : ω) :
    Result Unit × CompositeSensorController × ω :=
  setZoom tty .infraredRegistrationZoom 15 "infrared registration zoom must be 0..15" value c w

def setLowlightRegistrationZoom (value : UInt16) (c : CompositeSensorController) (w : ω) :
    Result Unit × CompositeSensorController × ω :=
  setZoom tty .lowlightRegistrationZoom 10 "lowlight registration zoom must be 0..10" value c w

def setInfraredRegistrationOffsetX (value : Int16) (c : CompositeSensorController) (w : ω) :
    Result Unit × CompositeSensorController × ω :=
  writeRegister tty CompositeSensorRegister.infraredRegistrationOffsetX.address value.toUInt16 c w

def setInfraredRegistrationOffsetY (value : Int16) (c : CompositeSensorController) (w : ω) :
    Result Unit × CompositeSensorController × ω :=
  writeRegister tty CompositeSensorRegister.infraredRegistrationOffsetY.address value.toUInt16 c w

def setLowlightRegistrationOffsetX (value : Int16) (c : CompositeSensorController) (w : ω) :
    Result Unit × CompositeSensorController × ω :=
  writeRegister tty CompositeSensorRegister.lowlightRegistrationOffsetX.address value.toUInt16 c w

def setLowlightRegistrationOffsetY (value : Int16) (c : CompositeSensorController) (w : ω) :
    Result Unit × CompositeSensorController × ω :=
  writeRegister tty CompositeSensorRegister.lowlightRegistrationOffsetY.address value.toUInt16 c w

end Calls

end CompositeSensorController

inductive SensorCall
  | setFusionMode (mode : CompositeSensorOutputMode)
  | queryOutputMode
  | setFusionColor (color : UInt16)
  | setContourMode (mode : UInt16)
  | setInfraredPolarity (polarity : UInt16)
  | triggerInfraredCorrection
  | setInfraredBrightness (value : UInt16)
  | setInfraredContrast (value : UInt16)
  | setLowlightBrightness (value : UInt16)
  | setLowlightContrast (value : UInt16)
  | setInfraredRegistrationZoom (value : UInt16)
  | setLowlightRegistrationZoom (value : UInt16)
  | setInfraredRegistrationOffsetX (value : Int16)
  | setInfraredRegistrationOffsetY (value : Int16)
  | setLowlightRegistrationOffsetX (value : Int16)
  | setLowlightRegistrationOffsetY (value : Int16)
  deriving DecidableEq

def CompositeSensorRegister.limit : CompositeSensorRegister → Option UInt16
  | .infraredBrightness | .infraredContrast | .lowlightBrightness | .lowlightContrast => some 100
  | .infraredRegistrationZoom => some 15
  | .lowlightRegistrationZoom => some 10
  | _ => none

theorem CompositeSensorRegister.address_injective :
    Function.Injective CompositeSensorRegister.address := by
  intro a b h
  cases a <;> cases b <;> first | rfl | exact absurd h (by decide)

namespace CompositeSensorController

open CompositeSensorRegister

variable {ω : Type} (tty : Tty ω) (nowMs : ω → Int64 × ω)

def make : SensorCall → CompositeSensorController × ω → Bool × CompositeSensorController × ω
  | .setFusionMode mode, (c, w) => done (setFusionMode tty nowMs mode c w)
  | .queryOutputMode, (c, w) => done (queryOutputMode tty c w)
  | .setFusionColor color, (c, w) => done (setFusionColor tty color c w)
  | .setContourMode mode, (c, w) => done (setContourMode tty mode c w)
  | .setInfraredPolarity polarity, (c, w) => done (setInfraredPolarity tty polarity c w)
  | .triggerInfraredCorrection, (c, w) => done (triggerInfraredCorrection tty c w)
  | .setInfraredBrightness value, (c, w) => done (setInfraredBrightness tty value c w)
  | .setInfraredContrast value, (c, w) => done (setInfraredContrast tty value c w)
  | .setLowlightBrightness value, (c, w) => done (setLowlightBrightness tty value c w)
  | .setLowlightContrast value, (c, w) => done (setLowlightContrast tty value c w)
  | .setInfraredRegistrationZoom value, (c, w) => done (setInfraredRegistrationZoom tty value c w)
  | .setLowlightRegistrationZoom value, (c, w) => done (setLowlightRegistrationZoom tty value c w)
  | .setInfraredRegistrationOffsetX value, (c, w) =>
    done (setInfraredRegistrationOffsetX tty value c w)
  | .setInfraredRegistrationOffsetY value, (c, w) =>
    done (setInfraredRegistrationOffsetY tty value c w)
  | .setLowlightRegistrationOffsetX value, (c, w) =>
    done (setLowlightRegistrationOffsetX tty value c w)
  | .setLowlightRegistrationOffsetY value, (c, w) =>
    done (setLowlightRegistrationOffsetY tty value c w)
where
  done {α : Type} (r : Result α × CompositeSensorController × ω) :
      Bool × CompositeSensorController × ω := (r.1.succeeded, r.2)

def made (s : CompositeSensorController × ω) (call : SensorCall) : CompositeSensorController × ω :=
  (make tty nowMs call s).2

end CompositeSensorController

/-- The register a call writes, with the word; a query and a call that is refused write none. -/
def SensorCall.word : SensorCall → Option (CompositeSensorRegister × UInt16)
  | .setFusionMode mode => if mode = .unknown then none else some (.fusionMode, mode.registerValue)
  | .queryOutputMode => none
  | .setFusionColor color => some (.fusionColor, color)
  | .setContourMode mode => some (.contourMode, mode)
  | .setInfraredPolarity polarity => some (.infraredPolarity, polarity)
  | .triggerInfraredCorrection => some (.infraredCorrection, 1)
  | .setInfraredBrightness value => within .infraredBrightness value 100
  | .setInfraredContrast value => within .infraredContrast value 100
  | .setLowlightBrightness value => within .lowlightBrightness value 100
  | .setLowlightContrast value => within .lowlightContrast value 100
  | .setInfraredRegistrationZoom value => within .infraredRegistrationZoom value 15
  | .setLowlightRegistrationZoom value => within .lowlightRegistrationZoom value 10
  | .setInfraredRegistrationOffsetX value => some (.infraredRegistrationOffsetX, value.toUInt16)
  | .setInfraredRegistrationOffsetY value => some (.infraredRegistrationOffsetY, value.toUInt16)
  | .setLowlightRegistrationOffsetX value => some (.lowlightRegistrationOffsetX, value.toUInt16)
  | .setLowlightRegistrationOffsetY value => some (.lowlightRegistrationOffsetY, value.toUInt16)
where
  within (reg : CompositeSensorRegister) (value most : UInt16) :
      Option (CompositeSensorRegister × UInt16) := if value > most then none else some (reg, value)

theorem SensorCall.within_eq_some {reg reg' : CompositeSensorRegister} {value value' most : UInt16}
    (h : SensorCall.word.within reg value most = some (reg', value')) :
    reg = reg' ∧ value = value' ∧ value' ≤ most := by
  unfold SensorCall.word.within at h
  split at h
  · cases h
  · rename_i hle
    obtain ⟨rfl, rfl⟩ := Prod.mk.inj (Option.some.inj h)
    exact ⟨rfl, rfl, UInt16.not_lt.mp hle⟩

structure SensorCall.Writes (call : SensorCall) (reg : CompositeSensorRegister) (value : UInt16) :
    Prop where
  within : ∀ most, reg.limit = some most → value ≤ most
  plain : reg ≠ .saveConfig
  mode : reg = .fusionMode → ∃ mode, call = .setFusionMode mode ∧ value = mode.registerValue

theorem SensorCall.writes_of_word {call : SensorCall} {reg : CompositeSensorRegister}
    {value : UInt16} (h : call.word = some (reg, value)) : call.Writes reg value := by
  have hlimited {reg' : CompositeSensorRegister} {value' most' : UInt16}
      (hl : reg'.limit = some most')
      (h : SensorCall.word.within reg' value' most' = some (reg, value)) :
      call.Writes reg value := by
    obtain ⟨rfl, rfl, hle⟩ := within_eq_some h
    refine ⟨fun most hm ↦ ?_, ?_, ?_⟩
    · obtain rfl := Option.some.inj (hl.symm.trans hm)
      exact hle
    · rintro rfl
      cases hl
    · rintro rfl
      cases hl
  have hfree {reg' : CompositeSensorRegister} {value' : UInt16} (hl : reg'.limit = none)
      (hs : reg' ≠ .saveConfig) (hm : reg' ≠ .fusionMode)
      (h : some (reg', value') = some (reg, value)) : call.Writes reg value := by
    obtain ⟨rfl, rfl⟩ := Prod.mk.inj (Option.some.inj h)
    exact ⟨fun most he ↦ (nomatch hl.symm.trans he), hs, fun he ↦ absurd he hm⟩
  cases call with
  | setFusionMode mode =>
    rw [SensorCall.word] at h
    split at h
    · cases h
    · obtain ⟨rfl, rfl⟩ := Prod.mk.inj (Option.some.inj h)
      exact ⟨fun most he ↦ (nomatch he), by decide, fun _ ↦ ⟨mode, rfl, rfl⟩⟩
  | queryOutputMode => cases h
  | setInfraredBrightness value => exact hlimited rfl h
  | setInfraredContrast value => exact hlimited rfl h
  | setLowlightBrightness value => exact hlimited rfl h
  | setLowlightContrast value => exact hlimited rfl h
  | setInfraredRegistrationZoom value => exact hlimited rfl h
  | setLowlightRegistrationZoom value => exact hlimited rfl h
  | _ => exact hfree rfl (by decide) (by decide) h

namespace CompositeSensorController

variable {ω : Type} {tty : Tty ω} {nowMs : ω → Int64 × ω}

theorem readRegister_currentMode (c : CompositeSensorController) (tty : Tty ω) (w : ω)
    (address : UInt16) :
    (c.readRegister tty address w).2.1.state.currentMode = c.state.currentMode := by
  unfold readRegister
  split
  · rfl
  · split
    · rfl
    · split <;> rfl

theorem make_eq {call : SensorCall} (hq : call ≠ .queryOutputMode)
    (hm : ∀ mode, call ≠ .setFusionMode mode) (s : CompositeSensorController × ω) :
    make tty nowMs call s =
      match call.word with
      | none => (false, s)
      | some (reg, value) => make.done (writeRegister tty reg.address value s.1 s.2) := by
  have hp (reg : CompositeSensorRegister) (name : Text) (value : UInt16) :
      make.done (setPercent tty reg name value s.1 s.2) =
        match SensorCall.word.within reg value 100 with
        | none => (false, s)
        | some (reg, value) => make.done (writeRegister tty reg.address value s.1 s.2) := by
    unfold setPercent validatePercent SensorCall.word.within
    by_cases h : value > 100
    · rw [if_pos h, if_pos h]
      rfl
    · rw [if_neg h, if_neg h]
  have hz (reg : CompositeSensorRegister) (most : UInt16) (message : Text) (value : UInt16) :
      make.done (setZoom tty reg most message value s.1 s.2) =
        match SensorCall.word.within reg value most with
        | none => (false, s)
        | some (reg, value) => make.done (writeRegister tty reg.address value s.1 s.2) := by
    unfold setZoom SensorCall.word.within
    by_cases h : value > most
    · rw [if_pos h, if_pos h]
      rfl
    · rw [if_neg h, if_neg h]
  cases call with
  | setFusionMode mode => exact absurd rfl (hm mode)
  | queryOutputMode => exact absurd rfl hq
  | setInfraredBrightness value => exact hp _ _ _
  | setInfraredContrast value => exact hp _ _ _
  | setLowlightBrightness value => exact hp _ _ _
  | setLowlightContrast value => exact hp _ _ _
  | setInfraredRegistrationZoom value => exact hz _ _ _ _
  | setLowlightRegistrationZoom value => exact hz _ _ _ _
  | _ => rfl

def Undisturbed (idle : ω → Prop) (regs : ω → UInt16 → UInt16) (step : ω → ω) : Prop :=
  ∀ w, idle w → idle (step w) ∧ regs (step w) = regs w

def stored (words : UInt16 → UInt16) (call : SensorCall) (ok : Bool) : UInt16 → UInt16 :=
  match call.word, ok with
  | some (reg, value), true => RegisterCommand.store words (.write reg.address value)
  | _, _ => words

/-- The controller can be used, its mode is that of the sensor once it knows one, and no
register of the sensor is above its limit. -/
structure Held (idle : ω → Prop) (regs : ω → UInt16 → UInt16)
    (s : CompositeSensorController × ω) : Prop where
  operable : s.1.Operable
  idle : idle s.2
  mode : s.1.state.currentMode = .unknown ∨
    regs s.2 CompositeSensorRegister.fusionMode.address = s.1.state.currentMode.registerValue
  within : ∀ reg most, CompositeSensorRegister.limit reg = some most →
    regs s.2 reg.address ≤ most

/-- What a call does: without a word it does nothing at all; else it stores its word, or fails;
a call that fails leaves the mode as it was; and the answer to a query is what the sensor has. -/
structure Obeys (tty : Tty ω) (nowMs : ω → Int64 × ω) (regs : ω → UInt16 → UInt16) (takes : Prop)
    (s : CompositeSensorController × ω) (call : SensorCall) : Prop where
  refused : call ≠ .queryOutputMode → call.word = none → make tty nowMs call s = (false, s)
  stored : regs (make tty nowMs call s).2.2 = stored (regs s.2) call (make tty nowMs call s).1
  kept : (make tty nowMs call s).1 = false →
    (make tty nowMs call s).2.1.state.currentMode = s.1.state.currentMode
  asked : call = .queryOutputMode → (make tty nowMs call s).1 = true →
    (make tty nowMs call s).2.1.state.currentMode.registerValue =
      regs s.2 CompositeSensorRegister.fusionMode.address
  taken : takes → call ≠ .queryOutputMode → call.word ≠ none → (make tty nowMs call s).1 = true

variable {idle : ω → Prop} {regs : ω → UInt16 → UInt16} {takes : Prop}
  {s : CompositeSensorController × ω}

theorem Held.within_store {call : SensorCall} {reg : CompositeSensorRegister} {value : UInt16}
    (hs : Held idle regs s) (hw : call.Writes reg value) (reg' : CompositeSensorRegister)
    (most : UInt16) (hm : reg'.limit = some most) :
    RegisterCommand.store (regs s.2) (.write reg.address value) reg'.address ≤ most := by
  rw [RegisterCommand.store]
  split
  · exact hs.within reg' most hm
  · rw [Function.update_apply]
    split
    · rename_i he
      obtain rfl := CompositeSensorRegister.address_injective he
      exact hw.within most hm
    · exact hs.within reg' most hm

theorem make_nothing (hs : Held idle regs s) {call : SensorCall} (hq : call ≠ .queryOutputMode)
    (hw : call.word = none) (he : make tty nowMs call s = (false, s)) :
    Held idle regs (make tty nowMs call s).2 ∧ Obeys tty nowMs regs takes s call := by
  refine ⟨?_, fun _ _ ↦ he, ?_, fun _ ↦ ?_, fun h ↦ absurd h hq, fun _ _ h ↦ absurd hw h⟩
  · rw [he]
    exact hs
  · simp only [he, stored, hw]
  · rw [he]

theorem make_other (hline : SensorLine tty idle regs takes) (hs : Held idle regs s)
    {call : SensorCall} (hq : call ≠ .queryOutputMode) (hm : ∀ mode, call ≠ .setFusionMode mode) :
    Held idle regs (make tty nowMs call s).2 ∧ Obeys tty nowMs regs takes s call := by
  cases hw : call.word with
  | none =>
    have he : make tty nowMs call s = (false, s) := by rw [make_eq hq hm, hw]
    exact make_nothing hs hq hw he
  | some w =>
    obtain ⟨reg, value⟩ := w
    have hwrites := SensorCall.writes_of_word hw
    have hplain : reg.address ≠ CompositeSensorRegister.saveConfig.address :=
      fun h ↦ hwrites.plain (CompositeSensorRegister.address_injective h)
    have hmode := s.1.writeRegister_currentMode tty s.2 reg.address value
    rcases hx : writeRegister tty reg.address value s.1 s.2 with ⟨result, ctl', w'⟩
    obtain ⟨ho, hi, hregs, htakes⟩ := hline.write hs.operable hs.idle hplain hx
    have he : make tty nowMs call s = (result.succeeded, ctl', w') := by
      rw [make_eq hq hm, hw]
      exact congrArg make.done hx
    rw [hx] at hmode
    have hne : CompositeSensorRegister.fusionMode.address ≠ reg.address := by
      intro h
      obtain rfl := CompositeSensorRegister.address_injective h
      obtain ⟨mode, rfl, -⟩ := hwrites.mode rfl
      exact hm mode rfl
    refine ⟨⟨?_, ?_, ?_, ?_⟩, fun _ h ↦ (nomatch hw.symm.trans h), ?_, fun _ ↦ ?_,
      fun h ↦ absurd h hq, fun h _ _ ↦ ?_⟩
    · rw [he]
      exact ho
    · rw [he]
      exact hi
    · rw [he]
      change ctl'.state.currentMode = _ ∨ regs w' _ = ctl'.state.currentMode.registerValue
      have hsame : regs w' CompositeSensorRegister.fusionMode.address =
          regs s.2 CompositeSensorRegister.fusionMode.address := by
        rw [hregs, RegisterCommand.store]
        split
        · split
          · rfl
          · exact Function.update_of_ne hne value (regs s.2)
        · rfl
      rw [hmode, hsame]
      exact hs.mode
    · rw [he]
      change ∀ reg' most, _ → regs w' _ ≤ most
      rw [hregs]
      split
      · exact hs.within_store hwrites
      · exact hs.within
    · simp only [he, stored, hw]
      rw [hregs]
      cases result.succeeded <;> rfl
    · rw [he]
      exact hmode
    · rw [he]
      exact htakes h

theorem publishModeChanged_state (mode : CompositeSensorOutputMode)
    (c : CompositeSensorController) : (c.publishModeChanged mode).state = c.state := by
  unfold publishModeChanged
  split <;> rfl

theorem publishModeChanged_operable {mode : CompositeSensorOutputMode}
    {c : CompositeSensorController} (h : c.Operable) : (c.publishModeChanged mode).Operable := by
  unfold publishModeChanged
  split <;> exact h

theorem make_setFusionMode (hline : SensorLine tty idle regs takes)
    (hclock : Undisturbed idle regs fun w ↦ (nowMs w).2) (hs : Held idle regs s)
    (mode : CompositeSensorOutputMode) :
    Held idle regs (make tty nowMs (.setFusionMode mode) s).2 ∧
      Obeys tty nowMs regs takes s (.setFusionMode mode) := by
  by_cases hu : mode = .unknown
  · have he : make tty nowMs (.setFusionMode mode) s = (false, s) := by
      rw [hu]
      rfl
    have hw : SensorCall.word (.setFusionMode mode) = none := if_pos hu
    exact make_nothing hs (fun h ↦ nomatch h) hw he
  · have hw : SensorCall.word (.setFusionMode mode) = some (.fusionMode, mode.registerValue) :=
      if_neg hu
    have hwrites := SensorCall.writes_of_word hw
    have hmode := s.1.writeRegister_currentMode tty s.2
      CompositeSensorRegister.fusionMode.address mode.registerValue
    rcases hx : writeRegister tty CompositeSensorRegister.fusionMode.address mode.registerValue
      s.1 s.2 with ⟨result, ctl', w'⟩
    obtain ⟨ho, hi, hregs, htakes⟩ := hline.write hs.operable hs.idle (by decide) hx
    rw [hx] at hmode
    cases result with
    | error e =>
      have he : make tty nowMs (.setFusionMode mode) s = (false, ctl', w') := by
        rw [make, setFusionMode, if_neg hu, hx]
        rfl
      rw [Result.succeeded_error, if_neg Bool.false_ne_true] at hregs
      refine ⟨⟨by rw [he]; exact ho, by rw [he]; exact hi, ?_, ?_⟩,
        fun _ h ↦ (nomatch hw.symm.trans h), ?_, fun _ ↦ by rw [he]; exact hmode,
        fun h ↦ (nomatch h), fun h ↦ (nomatch htakes h)⟩
      · rw [he]
        change ctl'.state.currentMode = _ ∨ regs w' _ = ctl'.state.currentMode.registerValue
        rw [hmode, hregs]
        exact hs.mode
      · rw [he]
        exact hregs ▸ hs.within
      · simp only [he, stored, hw, hregs]
    | ok u =>
      obtain ⟨hi', hregs'⟩ := hclock w' hi
      obtain ⟨c, hc, hcmode, he⟩ : ∃ c : CompositeSensorController, c.Operable ∧
          c.state.currentMode = mode ∧
          make tty nowMs (.setFusionMode mode) s = (true, c, (nowMs w').2) := by
        let c₀ : CompositeSensorController := { ctl' with
          state.currentMode := mode
          state.lastSwitchTimeMs := (nowMs w').1
          state.switchCount := ctl'.state.switchCount + 1
          state.lastError := [] }
        have hc₀ : c₀.Operable := ho
        refine ⟨c₀.publishModeChanged mode, publishModeChanged_operable hc₀, ?_, ?_⟩
        · rw [publishModeChanged_state]
        · rw [make, setFusionMode, if_neg hu, hx]
          rfl
      rw [Result.succeeded_ok, if_pos rfl] at hregs
      refine ⟨⟨by rw [he]; exact hc, by rw [he]; exact hi', .inr ?_, ?_⟩,
        fun _ h ↦ (nomatch hw.symm.trans h), ?_, fun h ↦ ?_, fun h ↦ (nomatch h),
        fun _ _ _ ↦ by rw [he]⟩
      · rw [he]
        change regs (nowMs w').2 _ = c.state.currentMode.registerValue
        rw [hregs', hregs, RegisterCommand.store, if_neg (by decide), Function.update_self, hcmode]
      · rw [he]
        change ∀ reg most, _ → regs (nowMs w').2 _ ≤ most
        rw [hregs', hregs]
        exact hs.within_store hwrites
      · simp only [he, stored, hw, hregs', hregs]
      · rw [he] at h
        cases h

theorem registerValue_fromRegisterValue {value : UInt16}
    (h : CompositeSensorOutputMode.fromRegisterValue value ≠ .unknown) :
    (CompositeSensorOutputMode.fromRegisterValue value).registerValue = value := by
  unfold CompositeSensorOutputMode.fromRegisterValue at h ⊢
  split_ifs at h ⊢ with h₁ h₂ h₃
  · exact h₁.symm
  · exact h₂.symm
  · exact h₃.symm
  · exact absurd rfl h

theorem make_queryOutputMode (hline : SensorLine tty idle regs takes) (hs : Held idle regs s) :
    Held idle regs (make tty nowMs .queryOutputMode s).2 ∧
      Obeys tty nowMs regs takes s .queryOutputMode := by
  have hmode := s.1.readRegister_currentMode tty s.2
    CompositeSensorRegister.fusionMode.address
  rcases hx : readRegister tty CompositeSensorRegister.fusionMode.address s.1 s.2 with
    ⟨result, ctl', w'⟩
  obtain ⟨ho, hi, hregs, hval, -⟩ := hline.read hs.operable hs.idle hx
  rw [hx] at hmode
  -- where the mode stays what it was, so does everything else
  have hkept (he : make tty nowMs .queryOutputMode s = (false, ctl', w')) :
      Held idle regs (make tty nowMs .queryOutputMode s).2 ∧
        Obeys tty nowMs regs takes s .queryOutputMode := by
    refine ⟨⟨by rw [he]; exact ho, by rw [he]; exact hi, ?_, ?_⟩, fun h ↦ absurd rfl h, ?_,
      fun _ ↦ by rw [he]; exact hmode, fun _ h ↦ ?_, fun _ h ↦ absurd rfl h⟩
    · rw [he]
      change ctl'.state.currentMode = _ ∨ regs w' _ = ctl'.state.currentMode.registerValue
      rw [hmode, hregs]
      exact hs.mode
    · rw [he]
      exact hregs ▸ hs.within
    · simp only [he, stored, SensorCall.word, hregs]
    · rw [he] at h
      cases h
  cases result with
  | error e =>
    apply hkept
    rw [make, queryOutputMode, getFusionMode, hx]
    rfl
  | ok value =>
    by_cases hu : CompositeSensorOutputMode.fromRegisterValue value = .unknown
    · apply hkept
      rw [make, queryOutputMode, getFusionMode, hx]
      simp only [if_pos hu]
      rfl
    · have hv := hval (by decide) value rfl
      have hr := registerValue_fromRegisterValue hu
      have he : make tty nowMs .queryOutputMode s =
          (true, { ctl' with
            state.currentMode := CompositeSensorOutputMode.fromRegisterValue value }, w') := by
        rw [make, queryOutputMode, getFusionMode, hx]
        simp only [if_neg hu]
        rfl
      refine ⟨⟨by rw [he]; exact ho, by rw [he]; exact hi, .inr ?_, ?_⟩, fun h ↦ absurd rfl h, ?_,
        fun h ↦ ?_, fun _ _ ↦ ?_, fun _ h ↦ absurd rfl h⟩
      · rw [he]
        change regs w' _ = (CompositeSensorOutputMode.fromRegisterValue value).registerValue
        rw [hregs, hr, hv]
      · rw [he]
        exact hregs ▸ hs.within
      · simp only [he, stored, SensorCall.word, hregs]
      · rw [he] at h
        cases h
      · rw [he]
        exact hr.trans hv

theorem make_held (hline : SensorLine tty idle regs takes)
    (hclock : Undisturbed idle regs fun w ↦ (nowMs w).2) (hs : Held idle regs s)
    (call : SensorCall) :
    Held idle regs (make tty nowMs call s).2 ∧ Obeys tty nowMs regs takes s call := by
  by_cases hq : call = .queryOutputMode
  · rw [hq]
    exact make_queryOutputMode hline hs
  · by_cases hm : ∃ mode, call = .setFusionMode mode
    · obtain ⟨mode, rfl⟩ := hm
      exact make_setFusionMode hline hclock hs mode
    · exact make_other hline hs hq fun mode h ↦ hm ⟨mode, h⟩

theorem calls_held (hline : SensorLine tty idle regs takes)
    (hclock : Undisturbed idle regs fun w ↦ (nowMs w).2) (hs : Held idle regs s)
    (calls : List SensorCall) :
    Held idle regs (exec (made tty nowMs) s calls) ∧
      Along (made tty nowMs) (Obeys tty nowMs regs takes) s calls := by
  have hstep (s : CompositeSensorController × ω) (call : SensorCall) (h : Held idle regs s) :
      Held idle regs (made tty nowMs s call) ∧ Obeys tty nowMs regs takes s call :=
    make_held hline hclock h call
  exact ⟨exec_invariant (fun s call h ↦ (hstep s call h).1) hs calls,
    along_of_invariant hstep hs calls⟩

/-- On a prompt line to a device that keeps registers, with a clock beside it: however the
calls are ordered and whichever the device refuses, the mode the controller reports is the one
the sensor has once it knows any, no setter puts a word above its limit into the sensor, a call
that is refused touches neither, a call stores its word exactly when it reports success, and
none fails where the device takes every command. -/
theorem settings_follow_sensor {δ π : Type} {dev : Device δ} {words : δ → UInt16 → UInt16}
    (hk : dev.KeepsRegisters words) {delays : ℕ → Delay} (hp : Link.Prompt delays)
    (clock : π → Int64 × π) {s : CompositeSensorController × Link δ × π}
    (hs : Held (fun x : Link δ × π ↦ x.1.Idle) (fun x ↦ words x.1.device) s)
    (calls : List SensorCall) :
    let tty := (Link.tty dev delays).beside
    let nowMs (x : Link δ × π) := ((clock x.2).1, x.1, (clock x.2).2)
    Held (fun x : Link δ × π ↦ x.1.Idle) (fun x ↦ words x.1.device)
        (exec (made tty nowMs) s calls) ∧
      Along (made tty nowMs) (Obeys tty nowMs (fun x ↦ words x.1.device) dev.Executes) s calls := by
  intro tty nowMs
  have hclock : Undisturbed (fun x : Link δ × π ↦ x.1.Idle) (fun x ↦ words x.1.device)
      fun x ↦ (nowMs x).2 := fun x hx ↦ ⟨hx, rfl⟩
  exact calls_held (sensorLine_link hk hp).beside hclock hs calls

/-- A brightness of 101 is refused, and the mode that was set is the mode of the sensor. -/
theorem settings_follow_sensor_bank :
    Held (fun x : Link (UInt16 → UInt16) × Unit ↦ x.1.Idle) (fun x ↦ x.1.device)
      (exec (made (Link.tty bank soon).beside fun x ↦ (0, x)) (fresh.1, fresh.2, ())
        [.setFusionMode .thermalOnly, .setInfraredBrightness 101, .queryOutputMode]) := by
  have hs : Held (fun x : Link (UInt16 → UInt16) × Unit ↦ x.1.Idle) (fun x ↦ id x.1.device)
      (fresh.1, fresh.2, ()) :=
    ⟨⟨rfl, rfl⟩, ⟨rfl, rfl, rfl⟩, .inl rfl, fun _ _ _ ↦ UInt16.zero_le⟩
  exact (settings_follow_sensor bank_keeps soon_prompt (fun p : Unit ↦ (0, p)) hs _).1

end CompositeSensorController

end TriFusion.DeviceControl
