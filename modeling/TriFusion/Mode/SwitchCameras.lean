import TriFusion.Device.CameraManager
import TriFusion.Mode.SwitchOrdering

namespace TriFusion.Mode

open Foundation Algorithm Hardware Device DeviceControl Media

variable {ω : Type}

/-- The same cameras, but for the answers of those that a plan does not require
when they are opened. -/
def answering (plan : ModeSwitchPlan) (answers : CameraId → Result Unit)
    (cameras : CameraBank ω) : CameraBank ω :=
  { cameras with
    «open» := fun id w ↦
      if id ∈ plan.requiredCameras then cameras.open id w
      else (answers id, (cameras.open id w).2) }

section Answers

variable {plan : ModeSwitchPlan} {answers : CameraId → Result Unit} {cameras : CameraBank ω}
  {id : CameraId} {u : ω}

theorem answering_required
    (h : (cameras.status id u).enabled = true → id ∈ plan.requiredCameras) :
    (answering plan answers cameras).openEnabled id u = cameras.openEnabled id u := by
  unfold CameraBank.openEnabled
  by_cases he : (cameras.status id u).enabled = true
  · have ho : (answering plan answers cameras).open id u = cameras.open id u := if_pos (h he)
    have hs : (answering plan answers cameras).status = cameras.status := rfl
    rw [hs, if_pos he, if_pos he, ho]
    rfl
  · rw [if_neg he]
    exact if_neg he

structure OpensOnlyRequired (cameras : CameraBank ω) (plan : ModeSwitchPlan) (u : ω) : Prop where
  visible : (cameras.status .visible u).enabled = true → .visible ∈ plan.requiredCameras
  composite : (cameras.openEnabled .visible u).1 = .ok () →
    (cameras.status .compositeLowThermal (cameras.openEnabled .visible u).2).enabled = true →
      .compositeLowThermal ∈ plan.requiredCameras

theorem OpensOnlyRequired.openAllEnabled (h : OpensOnlyRequired cameras plan u)
    (answers : CameraId → Result Unit) :
    (answering plan answers cameras).openAllEnabled u = cameras.openAllEnabled u := by
  have hi : (answering plan answers cameras).initialized = cameras.initialized := rfl
  unfold CameraBank.openAllEnabled
  rw [hi, answering_required h.visible]
  split
  · rfl
  · cases hv : cameras.openEnabled .visible u with
    | mk ret u' =>
      cases ret with
      | error e => rfl
      | ok =>
        have hc := h.composite
        rw [hv] at hc
        exact answering_required (hc rfl)

end Answers

namespace ModeSwitchExecutor

variable (io : ModeIo ω)

def opening (plan : ModeSwitchPlan) (x : ModeSwitchExecutor) (w : ModeWorld ω) :
    Result (ModeSwitchExecutor × ModeWorld ω) :=
  if !x.initialized then .fail .notInitialized "mode switch executor is not initialized"
  else
    match x.validateContext plan with
    | .error e => .error e
    | .ok () =>
      let (x, w) := x.stop io w
      match prepareFusion io plan w with
      | (.error e, _) => .error e
      | (.ok (), w) =>
        match switchCompositeSensor io plan w with
        | (.error e, _) => .error e
        | (.ok (), w) => .ok (x, w)

variable {io} {cameras : CameraBank ω} {plan : ModeSwitchPlan} {x y : ModeSwitchExecutor}
  {w v : ModeWorld ω}

end ModeSwitchExecutor

end TriFusion.Mode
