import TriFusion.Protocol.ReplyDocuments

namespace TriFusion.Protocol.PrivateControlServer

open Foundation Library Library.Json

section Records

variable {β : Type}

def modeOf : Outcome → Option PrivateWorkMode
  | (.mode targetMode, true) => some targetMode
  | _ => none

def settingOf (kind : PrivateCompositeControlKind) : Outcome → Option Text
  | (.composite req, true) => if req.kind = kind then some req.valueName else none
  | _ => none

def lastOf (value : Outcome → Option β) (initial : β) (log : List Outcome) : β :=
  (log.filterMap value).getLast?.getD initial

theorem commit_currentMode (s : PrivateControlServer) (outcome : Outcome) :
    (s.commit outcome).currentMode = (modeOf outcome).getD s.currentMode := by
  obtain ⟨call, ok⟩ := outcome
  cases ok with
  | false => cases call <;> rfl
  | true =>
    cases call with
    | mode targetMode => rfl
    | configQuery => rfl
    | composite req =>
      obtain ⟨kind, name, valueName, value⟩ := req
      cases kind <;> rfl

def setting : PrivateCompositeControlKind → PrivateControlServer → Text
  | .fusionColor, s => s.currentFusionColor
  | .contourMode, s => s.currentContourMode
  | .infraredPolarity, s => s.currentInfraredPolarity
  | .unknown, _ => []

theorem commit_setting {kind : PrivateCompositeControlKind} (hk : kind ≠ .unknown)
    (s : PrivateControlServer) (outcome : Outcome) :
    (s.commit outcome).setting kind = (settingOf kind outcome).getD (s.setting kind) := by
  obtain ⟨call, ok⟩ := outcome
  cases ok with
  | false => cases call <;> rfl
  | true =>
    cases call with
    | mode targetMode => cases kind <;> rfl
    | configQuery => rfl
    | composite req =>
      obtain ⟨kind', name, valueName, value⟩ := req
      cases kind <;> cases kind' <;> first | rfl | exact absurd rfl hk

end Records

variable {σ : Type} (callbacks : ControlCallbacks σ) (port : UInt16) (x : σ)

/-- The request has a method that passes, and its path is a route to the call. -/
def Asks (request : Text) (call : ControlCallback) : Prop :=
  (parseMethod request = "POST".toList ∨ parseMethod request = "GET".toList) ∧
    Routes (parsePath request) call

def Reports (reply : Text) (mode : PrivateWorkMode) (fusionColor contour infraredPolarity : Text) :
    Prop :=
  ∃ doc composite, Denotes (bodyOf reply) doc ∧
    doc.member "current_mode" = some (.ofText mode.toText) ∧
      doc.member "current_composite" = some composite ∧
        composite.member "fusion_color" = some (.ofText fusionColor) ∧
          composite.member "contour" = some (.ofText contour) ∧
            composite.member "infrared_polarity" = some (.ofText infraredPolarity)

theorem status_reports {s : PrivateControlServer} (hs : EscapableState s) :
    Reports s.handleStatusRequest s.currentMode s.currentFusionColor s.currentContourMode
      s.currentInfraredPolarity := by
  rw [Reports, statusDocument_text s hs, bodyOf_httpJson (by decide)]
  exact ⟨_, _, Written.denotes _, rfl, rfl, rfl, rfl, rfl⟩

def recorded (requests : List Text) : PrivateControlServer × σ × List Outcome :=
  served (callbacks.noting id) port (x, []) requests

theorem asks_of_callbackOf {request : Text} {call : ControlCallback}
    (h : callbackOf request = some call) : Asks request call := by
  obtain ⟨hm, hr⟩ := callbackOf_eq_some_iff.mp h
  exact ⟨passesMethod_iff.mp hm, hr⟩

theorem serve_recorded (y : PrivateControlServer × σ × List Outcome) (request : Text) :
    ∃ outcomes : List Outcome, outcomes.length ≤ 1 ∧ (∀ o ∈ outcomes, Asks request o.1) ∧
      (serve callbacks (y.1, y.2.1) request).2.1 = Runs.exec commit y.1 outcomes ∧
        serve (callbacks.noting id) y request =
          ((serve callbacks (y.1, y.2.1) request).1, (serve callbacks (y.1, y.2.1) request).2.1,
            (serve callbacks (y.1, y.2.1) request).2.2, y.2.2 ++ outcomes) := by
  obtain ⟨hstate, hnoted⟩ := handleHttpRequest_handles id callbacks y.1 y.2.1 y.2.2 request
  rw [Option.map_id_fun, id] at hnoted
  refine ⟨((callbackOf request).bind (callbacks.outcomeOf y.2.1)).toList,
    Option.length_toList_le, ?_, ?_, hnoted⟩
  · intro o ho
    obtain ⟨call, hcall, hout⟩ := Option.bind_eq_some_iff.mp (Option.mem_toList.mp ho)
    obtain rfl := ControlCallbacks.outcomeOf_fst hout
    exact asks_of_callbackOf hcall
  · refine hstate.trans ?_
    cases (callbackOf request).bind (callbacks.outcomeOf y.2.1) <;> rfl

theorem noting_simulates : Simulation.Simulates
    (fun (y : PrivateControlServer × σ) (z : PrivateControlServer × σ × List Outcome) ↦
      y = (z.1, z.2.1)) (serve callbacks) (serve (callbacks.noting id)) := by
  refine ⟨?_, ?_⟩
  · intro y z request hy
    obtain ⟨outcomes, -, -, -, hz⟩ := serve_recorded callbacks z request
    rw [hy, hz]
  · intro y z request hy
    obtain ⟨outcomes, -, -, -, hz⟩ := serve_recorded callbacks z request
    rw [Simulation.next, Simulation.next, hy, hz]

theorem served_eq_recorded (requests : List Text) :
    served callbacks port x requests =
      ((recorded callbacks port x requests).1, (recorded callbacks port x requests).2.1) :=
  (noting_simulates callbacks).exec_related (s := ({ port := port }, x))
    (t := ({ port := port }, x, [])) rfl requests

theorem recorded_state (requests : List Text) :
    (recorded callbacks port x requests).1 =
      Runs.exec commit { port := port } (recorded callbacks port x requests).2.2 := by
  have hstep : ∀ (z : PrivateControlServer × σ × List Outcome) (request : Text),
      z.1 = Runs.exec commit { port := port } z.2.2 →
        (Simulation.next (serve (callbacks.noting id)) z request).1 =
          Runs.exec commit { port := port }
            (Simulation.next (serve (callbacks.noting id)) z request).2.2 := by
    intro z request hz
    obtain ⟨outcomes, -, -, hstate, hserve⟩ := serve_recorded callbacks z request
    rw [Simulation.next, hserve, Runs.exec_append, ← hz]
    exact hstate
  exact Runs.exec_invariant hstep rfl requests

theorem recorded_currentMode (requests : List Text) :
    (recorded callbacks port x requests).1.currentMode =
      lastOf modeOf .lowlightThermalComposite (recorded callbacks port x requests).2.2 := by
  rw [recorded_state]
  exact Runs.exec_last commit_currentMode { port := port } _

theorem recorded_setting (requests : List Text) (kind : PrivateCompositeControlKind)
    (hk : kind ≠ .unknown) :
    (recorded callbacks port x requests).1.setting kind =
      lastOf (settingOf kind) (({ port := port } : PrivateControlServer).setting kind)
        (recorded callbacks port x requests).2.2 := by
  rw [recorded_state]
  exact Runs.exec_last (commit_setting hk) { port := port } _

theorem recorded_reports (requests : List Text) {request : Text}
    (h : parsePath request = "/api/v1/status".toList) :
    let z := recorded callbacks port x requests
    Reports (serve callbacks (z.1, z.2.1) request).1
      (lastOf modeOf .lowlightThermalComposite z.2.2)
      (lastOf (settingOf .fusionColor) "forest" z.2.2)
      (lastOf (settingOf .contourMode) "off" z.2.2)
      (lastOf (settingOf .infraredPolarity) "white_hot" z.2.2) := by
  have hreply (y : PrivateControlServer × σ) :
      (serve callbacks y request).1 = y.1.handleStatusRequest := by
    unfold serve handleHttpRequest
    dsimp only
    rw [if_pos h]
  have hreports := status_reports (served_escapable (callbacks.noting id) port (x, []) requests)
  have hcolor := recorded_setting callbacks port x requests .fusionColor (by decide)
  have hcontour := recorded_setting callbacks port x requests .contourMode (by decide)
  have hpolarity := recorded_setting callbacks port x requests .infraredPolarity (by decide)
  dsimp only
  rw [hreply, ← recorded_currentMode]
  exact hcolor ▸ hcontour ▸ hpolarity ▸ hreports

/-- A request makes at most one call, one that it asks for, and after any requests the status
reports the last values that a callback has accepted. -/
theorem dispatch_and_tracking (requests : List Text) :
    let z := recorded callbacks port x requests
    served callbacks port x requests = (z.1, z.2.1) ∧
      (∀ request, ∃ outcomes, (serve (callbacks.noting id) z request).2.2.2 = z.2.2 ++ outcomes ∧
        outcomes.length ≤ 1 ∧ ∀ o ∈ outcomes, Asks request o.1) ∧
      ∀ request, parsePath request = "/api/v1/status".toList →
        Reports (serve callbacks (z.1, z.2.1) request).1
          (lastOf modeOf .lowlightThermalComposite z.2.2)
          (lastOf (settingOf .fusionColor) "forest" z.2.2)
          (lastOf (settingOf .contourMode) "off" z.2.2)
          (lastOf (settingOf .infraredPolarity) "white_hot" z.2.2) := by
  intro z
  refine ⟨served_eq_recorded callbacks port x requests, ?_, fun request hpath ↦
    recorded_reports callbacks port x requests hpath⟩
  intro request
  obtain ⟨outcomes, hlength, hasks, -, hserve⟩ := serve_recorded callbacks z request
  exact ⟨outcomes, by rw [hserve], hlength, hasks⟩

end TriFusion.Protocol.PrivateControlServer
