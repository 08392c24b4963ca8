import TriFusion.Device.CameraDevice
import TriFusion.Foundation.Event

namespace TriFusion.Device

open Foundation Hardware

variable {ω : Type}

def CameraId.toText : CameraId → Text
  | .visible => "visible"
  | .compositeLowThermal => "composite_low_thermal"

def CameraKind.toText : CameraKind → Text
  | .visibleUvc => "visible_uvc"
  | .compositeLowThermalUvc => "composite_low_thermal_uvc"

def CameraLifecycleState.toText : CameraLifecycleState → Text
  | .uninitialized => "uninitialized"
  | .initialized => "initialized"
  | .opened => "opened"
  | .streaming => "streaming"
  | .error => "error"

/-- What a camera manager needs of the cameras it holds, of its flag and of the event
bus; `publish` does nothing where the bus is null. -/
structure CameraBank (ω : Type) where
  initialized : ω → Bool
  status : CameraId → ω → CameraStatus
  «open» : CameraId → ω → Result Unit × ω
  publish : Event → ω → ω

def cameraEvent (status : CameraStatus) (online : Bool) : Event where
  type := if online then .cameraOnline else .cameraOffline
  name := if online then "camera_online" else "camera_offline"
  fields :=
    let lastError : List (Text × Text) :=
      if status.lastErrorMessage = [] then [] else [("last_error", status.lastErrorMessage)]
    ("camera_id", status.id.toText) :: ("camera_kind", status.kind.toText) ::
      ("state", status.state.toText) :: ("online", if online then "true" else "false") ::
      ("streaming", if status.streaming then "true" else "false") :: lastError

namespace CameraBank

variable (b : CameraBank ω)

def publishCameraEvent (id : CameraId) (online : Bool) (w : ω) : ω :=
  b.publish (cameraEvent (b.status id w) online) w

def openEnabled (id : CameraId) (w : ω) : Result Unit × ω :=
  if (b.status id w).enabled then
    let (ret, w) := b.open id w
    (ret, b.publishCameraEvent id ret.succeeded w)
  else (.ok (), w)

def openAllEnabled (w : ω) : Result Unit × ω :=
  if !b.initialized w then (.fail .notInitialized "camera manager is not initialized", w)
  else
    match b.openEnabled .visible w with
    | (.error e, w) => (.error e, w)
    | (.ok (), w) => b.openEnabled .compositeLowThermal w

end CameraBank

/-- `events` is what has been published on the bus. -/
structure CameraManager where
  config : CameraConfig := {}
  eventBus : Bool := false
  visible : CameraDevice := {}
  composite : CameraDevice := {}
  initialized : Bool := false
  events : List Event := []
  deriving DecidableEq

namespace CameraManager

def init (config : CameraConfig) (eventBus : Bool) (m : CameraManager) :
    Result Unit × CameraManager :=
  let m := { m with config := config, eventBus := eventBus }
  match CameraDevice.init VisibleCameraDevice config.visible m.visible with
  | (.error e, visible) => (.error e, { m with visible := visible })
  | (.ok (), visible) =>
    let m := { m with visible := visible }
    match CameraDevice.init CompositeLowThermalCameraDevice config.compositeLowThermal
      m.composite with
    | (.error e, composite) => (.error e, { m with composite := composite })
    | (.ok (), composite) => (.ok (), { m with composite := composite, initialized := true })

def select (m : CameraManager) : CameraId → CameraDevice
  | .visible => m.visible
  | .compositeLowThermal => m.composite

def openDevice (drv : V4L2Driver ω) (uvc : UvcNodes ω) (id : CameraId) (m : CameraManager)
    (w : ω) : Result Unit × CameraManager × ω :=
  match id with
  | .visible =>
    let (ret, c, w) := CameraDevice.open VisibleCameraDevice drv uvc m.visible w
    (ret, { m with visible := c }, w)
  | .compositeLowThermal =>
    let (ret, c, w) := CameraDevice.open CompositeLowThermalCameraDevice drv uvc m.composite w
    (ret, { m with composite := c }, w)

def bank (drv : V4L2Driver ω) (uvc : UvcNodes ω) : CameraBank (CameraManager × ω) where
  initialized x := x.1.initialized
  status id x := (x.1.select id).status
  «open» id x := x.1.openDevice drv uvc id x.2
  publish e x := if x.1.eventBus then ({ x.1 with events := x.1.events ++ [e] }, x.2) else x

theorem init_enabled (drv : V4L2Driver ω) (uvc : UvcNodes ω) {config : CameraConfig}
    {eventBus : Bool} {m m' : CameraManager} (h : m.init config eventBus = (.ok (), m')) (w : ω) :
    ((bank drv uvc).status .visible (m', w)).enabled = config.visible.enable ∧
      ((bank drv uvc).status .compositeLowThermal (m', w)).enabled =
        config.compositeLowThermal.enable := by
  have hd (k : CameraClass) (c : CameraEndpointConfig) (d : CameraDevice) :
      (CameraDevice.init k c d).2.status.enabled = c.enable := by
    unfold CameraDevice.init
    dsimp only
    split
    · rfl
    · split <;> rfl
  have hv := hd VisibleCameraDevice config.visible m.visible
  have hc := hd CompositeLowThermalCameraDevice config.compositeLowThermal m.composite
  unfold init at h
  dsimp only at h
  split at h
  · cases (Prod.mk.inj h).1
  · rename_i visible hx
    rw [hx] at hv
    split at h
    · cases (Prod.mk.inj h).1
    · rename_i composite hy
      rw [hy] at hc
      obtain ⟨-, rfl⟩ := Prod.mk.inj h
      exact ⟨hv, hc⟩

end CameraManager

end TriFusion.Device
