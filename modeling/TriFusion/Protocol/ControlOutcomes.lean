import TriFusion.Protocol.PrivateControlHandlers

namespace TriFusion.Protocol

open Foundation PrivateControlServer

variable {σ β : Type}

abbrev Outcome := ControlCallback × Bool

namespace ControlCallbacks

def noting (note : Outcome → β) (callbacks : ControlCallbacks σ) :
    ControlCallbacks (σ × List β) where
  mode := callbacks.mode.map fun callback targetMode y ↦
    ((callback targetMode y.1).1, (callback targetMode y.1).2,
      y.2 ++ [note (.mode targetMode, (callback targetMode y.1).1.ok)])
  composite := callbacks.composite.map fun callback req y ↦
    ((callback req y.1).1, (callback req y.1).2,
      y.2 ++ [note (.composite req, (callback req y.1).1.ok)])
  configQuery := callbacks.configQuery.map fun callback y ↦
    ((callback y.1).1, (callback y.1).2, y.2 ++ [note (.configQuery, (callback y.1).1.ok)])

def outcomeOf (callbacks : ControlCallbacks σ) (x : σ) : ControlCallback → Option Outcome
  | .mode targetMode => callbacks.mode.map fun callback ↦
    (.mode targetMode, (callback targetMode x).1.ok)
  | .composite req => callbacks.composite.map fun callback ↦ (.composite req, (callback req x).1.ok)
  | .configQuery => callbacks.configQuery.map fun callback ↦ (.configQuery, (callback x).1.ok)

theorem outcomeOf_fst {callbacks : ControlCallbacks σ} {x : σ} {call : ControlCallback}
    {outcome : Outcome} (h : callbacks.outcomeOf x call = some outcome) : outcome.1 = call := by
  cases call with
  | mode targetMode =>
    obtain ⟨callback, -, rfl⟩ := Option.map_eq_some_iff.mp h
    rfl
  | composite req =>
    obtain ⟨callback, -, rfl⟩ := Option.map_eq_some_iff.mp h
    rfl
  | configQuery =>
    obtain ⟨callback, -, rfl⟩ := Option.map_eq_some_iff.mp h
    rfl

end ControlCallbacks

namespace PrivateControlServer

def commit (s : PrivateControlServer) : Outcome → PrivateControlServer
  | (_, false) => s
  | (.mode targetMode, true) => { s with currentMode := targetMode }
  | (.composite req, true) => s.withComposite req
  | (.configQuery, true) => s

variable (note : Outcome → β) (callbacks : ControlCallbacks σ) (method : Text)
  (s : PrivateControlServer) (x : σ) (log : List β)

/-- What a handler does: it makes at most one call, keeps what comes of it, and a note of the
call changes nothing else. -/
structure Handles (call : Option ControlCallback) (r : Text × PrivateControlServer × σ)
    (r' : Text × PrivateControlServer × σ × List β) : Prop where
  state : r.2.1 = (call.bind (callbacks.outcomeOf x)).elim s s.commit
  noted : r' = (r.1, r.2.1, r.2.2,
    log ++ ((call.bind (callbacks.outcomeOf x)).map note).toList)

variable {note callbacks s x log} in
theorem Handles.quiet (reply : Text) :
    Handles note callbacks s x log none (reply, s, x) (reply, s, x, log) :=
  ⟨rfl, by simp⟩

theorem passesMethod_cases (method : Text) :
    (method ≠ "POST".toList ∧ method ≠ "GET".toList) ∧ ¬passesMethod method = true ∨
      ¬(method ≠ "POST".toList ∧ method ≠ "GET".toList) ∧ passesMethod method = true := by
  rw [passesMethod_iff, ← not_or, not_not]
  exact (em _).symm.imp (fun h ↦ ⟨h, h⟩) fun h ↦ ⟨h, h⟩

variable {note callbacks s x log} in
theorem Handles.called {call : ControlCallback} {ok : Bool} (reply : Text) (x' : σ)
    (h : callbacks.outcomeOf x call = some (call, ok)) :
    Handles note callbacks s x log (some call) (reply, s.commit (call, ok), x')
      (reply, s.commit (call, ok), x', log ++ [note (call, ok)]) := by
  refine ⟨?_, ?_⟩
  · rw [Option.bind_some, h]
    rfl
  · rw [Option.bind_some, h]
    rfl

variable {note callbacks s x log} in
theorem Handles.uncalled {call : ControlCallback} (reply : Text)
    (h : callbacks.outcomeOf x call = none) :
    Handles note callbacks s x log (some call) (reply, s, x) (reply, s, x, log) := by
  refine ⟨?_, ?_⟩
  · rw [Option.bind_some, h]
    rfl
  · rw [Option.bind_some, h, Option.map_none, Option.toList_none, List.append_nil]

theorem commit_mode (targetMode : PrivateWorkMode) (ok : Bool) :
    (if ok then { s with currentMode := targetMode } else s) = s.commit (.mode targetMode, ok) := by
  cases ok <;> rfl

theorem commit_composite (req : PrivateCompositeControlRequest) (ok : Bool) :
    (if ok then s.withComposite req else s) = s.commit (.composite req, ok) := by
  cases ok <;> rfl

theorem handleModeRequest_handles (modeName : Text) :
    Handles note callbacks s x log (modeCallbackOf method modeName)
      (handleModeRequest callbacks.mode method modeName s x)
      (handleModeRequest (callbacks.noting note).mode method modeName s (x, log)) := by
  unfold handleModeRequest modeCallbackOf ControlCallbacks.noting
  rcases passesMethod_cases method with ⟨hm, hp⟩ | ⟨hm, hp⟩
  · rw [if_pos hm, if_pos hm, if_neg hp]
    exact .quiet _
  · rw [if_neg hm, if_neg hm, if_pos hp]
    cases PrivateWorkMode.fromCommandName modeName with
    | none => exact .quiet _
    | some targetMode =>
      cases hcb : callbacks.mode with
      | none => exact .uncalled _ (by rw [ControlCallbacks.outcomeOf, hcb]; rfl)
      | some callback =>
        dsimp only [Option.map_some]
        rw [commit_mode]
        exact .called _ _ (by rw [ControlCallbacks.outcomeOf, hcb]; rfl)

theorem handleCompositeRequest_handles (subPath : Text) :
    Handles note callbacks s x log (compositeCallbackOf method subPath)
      (handleCompositeRequest callbacks.composite method subPath s x)
      (handleCompositeRequest (callbacks.noting note).composite method subPath s (x, log)) := by
  unfold handleCompositeRequest compositeCallbackOf ControlCallbacks.noting
  rcases passesMethod_cases method with ⟨hm, hp⟩ | ⟨hm, hp⟩
  · rw [if_pos hm, if_pos hm, if_neg hp]
    exact .quiet _
  · rw [if_neg hm, if_neg hm, if_pos hp]
    cases parseCompositeControlPath subPath with
    | none => exact .quiet _
    | some req =>
      cases hcb : callbacks.composite with
      | none => exact .uncalled _ (by rw [ControlCallbacks.outcomeOf, hcb]; rfl)
      | some callback =>
        dsimp only [Option.map_some]
        rw [commit_composite]
        exact .called _ _ (by rw [ControlCallbacks.outcomeOf, hcb]; rfl)

theorem handleCompositeConfigRequest_handles :
    let r := handleCompositeConfigRequest callbacks.configQuery method x
    let r' := handleCompositeConfigRequest (callbacks.noting note).configQuery method (x, log)
    Handles note callbacks s x log (configCallbackOf method) (r.1, s, r.2) (r'.1, s, r'.2) := by
  unfold handleCompositeConfigRequest configCallbackOf ControlCallbacks.noting
  rcases passesMethod_cases method with ⟨hm, hp⟩ | ⟨hm, hp⟩ <;> rw [and_comm] at hm
  · rw [if_pos hm, if_pos hm, if_neg hp]
    exact .quiet _
  · rw [if_neg hm, if_neg hm, if_pos hp]
    cases hcb : callbacks.configQuery with
    | none => exact .uncalled _ (by rw [ControlCallbacks.outcomeOf, hcb]; rfl)
    | some callback =>
      have hout : callbacks.outcomeOf x .configQuery = some (.configQuery, (callback x).1.ok) := by
        rw [ControlCallbacks.outcomeOf, hcb]
        rfl
      have hcommit : s.commit (.configQuery, (callback x).1.ok) = s := by
        cases (callback x).1.ok <;> rfl
      have h := @Handles.called σ β note callbacks s x log _ _ (configReply (callback x).1)
        (callback x).2 hout
      rwa [hcommit] at h

theorem handleHttpRequest_handles (request : Text) :
    Handles note callbacks s x log (callbackOf request) (handleHttpRequest callbacks request s x)
      (handleHttpRequest (callbacks.noting note) request s (x, log)) := by
  unfold handleHttpRequest callbackOf
  dsimp only
  split
  · exact .quiet _
  split
  · exact handleModeRequest_handles note callbacks _ s x log _
  by_cases hc : isConfigPath (parsePath request) = true
  · rw [if_pos hc, if_pos hc, if_pos (isConfigPath_iff.mp hc)]
    exact handleCompositeConfigRequest_handles note callbacks _ s x log
  · rw [if_neg hc, if_neg hc, if_neg fun h ↦ hc (isConfigPath_iff.mpr h)]
    split
    · exact handleCompositeRequest_handles note callbacks _ s x log _
    · exact .quiet _

end PrivateControlServer

end TriFusion.Protocol
