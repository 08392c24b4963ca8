import TriFusion.Device.CameraManager
import TriFusion.Device.LifecycleStatus

namespace TriFusion.Device

open Foundation Hardware

variable {ω : Type}

namespace CameraDevice

variable {k : CameraClass} {drv : V4L2Driver ω} {uvc : UvcNodes ω} {c c' : CameraDevice}
  {w w' : ω} {e : Status}

variable (drv c w) in
theorem describeNode_v4l2 : (describeNode drv c w).1.v4l2 = c.v4l2 := by
  obtain ⟨capability, hc⟩ := describeNode_capability drv c w
  rw [hc]

variable (uvc c w) in
theorem tryOpenMetadataNode_v4l2 : (tryOpenMetadataNode uvc c w).1.v4l2 = c.v4l2 := by
  unfold tryOpenMetadataNode
  dsimp only
  split
  · rfl
  · split
    · rfl
    · split
      · rfl
      · split <;> rfl

variable (drv) in
theorem abandonOpen_streaming (e : Status) (c : CameraDevice) (w : ω) :
    (abandonOpen drv e c w).2.1.v4l2.streaming = false :=
  congrArg V4L2Device.streaming (V4L2Device.closeDevice_node drv c.v4l2 w)

variable (k drv uvc w) in
theorem configureNode_streaming (hs : c.v4l2.streaming = false) :
    (configureNode k drv uvc c w).2.1.v4l2.streaming = false := by
  have hd := describeNode_v4l2 drv c w
  unfold configureNode
  rcases hx : describeNode drv c w with ⟨c₁, w₁⟩
  rw [hx] at hd
  have hc₁ : c₁.v4l2.streaming = false := (congrArg V4L2Device.streaming hd).trans hs
  dsimp only
  rcases c₁.v4l2.setFormat drv c₁.captureFormat w₁ with ⟨r, w₂⟩
  cases r with
  | error e => exact abandonOpen_streaming drv e c₁ w₂
  | ok u =>
    have hsame := (V4L2Device.requestBuffers_sameNode drv 4 c₁.v4l2 w₂).2
    dsimp only
    rcases hy : c₁.v4l2.requestBuffers drv 4 w₂ with ⟨r, d, w₃⟩
    rw [hy] at hsame
    cases r with
    | error e => exact abandonOpen_streaming drv e _ w₃
    | ok u =>
      dsimp only
      split
      · rw [tryOpenMetadataNode_v4l2]
        exact hsame.trans hc₁
      · exact hsame.trans hc₁

variable (k drv uvc w) in
theorem open_streaming (hs : c.v4l2.streaming = false) :
    (CameraDevice.open k drv uvc c w).2.1.v4l2.streaming = false := by
  unfold CameraDevice.open
  split
  · exact hs
  · split
    · exact hs
    · split
      · exact hs
      · split
        · exact hs
        · split
          · exact hs
          · split
            · rename_i hx
              rw [V4L2Device.openDevice_error hx]
              exact hs
            · rename_i hx
              exact configureNode_streaming k drv uvc _
                ((V4L2Device.openDevice_ok hx).2.trans hs)

theorem startStreaming_error (h : startStreaming drv c w = (.error e, c', w')) :
    c'.v4l2 = c.v4l2 ∧ c.v4l2.streaming = false := by
  unfold startStreaming at h
  split at h
  · rename_i hx
    cases h
    exact V4L2Device.startStream_error hx
  · cases h

theorem startStreaming_ok (h : startStreaming drv c w = (.ok (), c', w'))
    (hs : c.v4l2.streaming = false) : c'.v4l2.isOpen = true := by
  unfold startStreaming at h
  split at h
  · cases h
  · rename_i hx
    cases h
    obtain ⟨hd, hopen⟩ := V4L2Device.startStream_ok hx
    rw [hd]
    exact hopen hs

theorem start_error (h : CameraDevice.start k drv uvc c w = (.error e, c', w')) :
    (c.v4l2.streaming = false → c'.v4l2.streaming = false) ∧
      (c.v4l2.isOpen = true → c'.v4l2.isOpen = true) := by
  unfold CameraDevice.start at h
  split at h
  · rename_i hclosed
    have hno : c.v4l2.isOpen ≠ true := by simpa using hclosed
    refine ⟨fun hs ↦ ?_, fun ho ↦ absurd ho hno⟩
    have hopen := open_streaming k drv uvc w hs
    split at h <;> rename_i hx <;> rw [hx] at hopen
    · cases h
      exact hopen
    · rw [(startStreaming_error h).1]
      exact hopen
  · have hc := (startStreaming_error h).1
    rw [hc]
    exact ⟨id, id⟩

theorem start_ok (h : CameraDevice.start k drv uvc c w = (.ok (), c', w'))
    (hs : c.v4l2.streaming = false) : c'.v4l2.isOpen = true := by
  unfold CameraDevice.start at h
  split at h
  · have hopen := open_streaming k drv uvc w hs
    split at h <;> rename_i hx <;> rw [hx] at hopen
    · cases h
    · exact startStreaming_ok h hopen
  · exact startStreaming_ok h hs

variable (drv w) in
theorem stop_streaming (ho : c.v4l2.isOpen = true) :
    (stop drv c w).2.1.v4l2.streaming = false := by
  have hd := V4L2Device.stopStream_node drv c.v4l2 w
  unfold stop
  rw [ho]
  simp only [Bool.not_true, Bool.false_eq_true, if_false]
  rcases hx : c.v4l2.stopStream drv w with ⟨r, d, w₁⟩
  rw [hx] at hd
  obtain rfl : d = { c.v4l2 with streaming := false } := hd
  cases r <;> rfl

def identity (c : CameraDevice) : CameraId × CameraKind := (c.status.id, c.status.kind)

variable (drv c w) in
theorem describeNode_identity : (describeNode drv c w).1.identity = c.identity := by
  obtain ⟨capability, hc⟩ := describeNode_capability drv c w
  rw [hc]
  rfl

variable (uvc c w) in
theorem tryOpenMetadataNode_identity : (tryOpenMetadataNode uvc c w).1.identity = c.identity := by
  unfold tryOpenMetadataNode
  dsimp only
  split
  · rfl
  · split
    · rfl
    · split
      · rfl
      · split <;> rfl

variable (k drv uvc c w) in
theorem configureNode_identity : (configureNode k drv uvc c w).2.1.identity = c.identity := by
  have hd := describeNode_identity drv c w
  unfold configureNode
  rcases hx : describeNode drv c w with ⟨c₁, w₁⟩
  rw [hx] at hd
  dsimp only
  split
  · exact hd
  · split
    · exact hd
    · dsimp only
      split
      · rw [tryOpenMetadataNode_identity]
        exact hd
      · exact hd

variable (k drv uvc c w) in
theorem open_identity : (CameraDevice.open k drv uvc c w).2.1.identity = c.identity := by
  unfold CameraDevice.open
  split
  · rfl
  · split
    · rfl
    · split
      · rfl
      · split
        · rfl
        · split
          · rfl
          · split
            · rfl
            · rw [configureNode_identity]
              rfl

variable (drv c w) in
theorem startStreaming_identity : (startStreaming drv c w).2.1.identity = c.identity := by
  unfold startStreaming
  split <;> rfl

variable (k drv uvc c w) in
theorem start_identity : (CameraDevice.start k drv uvc c w).2.1.identity = c.identity := by
  have hopen := open_identity k drv uvc c w
  unfold CameraDevice.start
  split
  · split <;> rename_i hx <;> rw [hx] at hopen
    · exact hopen
    · rw [startStreaming_identity]
      exact hopen
  · exact startStreaming_identity drv c w

variable (drv c w) in
theorem stop_identity : (stop drv c w).2.1.identity = c.identity := by
  unfold stop
  split
  · rfl
  · dsimp only
    split <;> rfl

end CameraDevice

namespace CameraManager

def cameraClass : CameraId → CameraClass
  | .visible => VisibleCameraDevice
  | .compositeLowThermal => CompositeLowThermalCameraDevice

def update (id : CameraId) (c : CameraDevice) (m : CameraManager) : CameraManager :=
  match id with
  | .visible => { m with visible := c }
  | .compositeLowThermal => { m with composite := c }

def publishCameraEvent (status : CameraStatus) (online : Bool) (m : CameraManager) :
    CameraManager :=
  if m.eventBus then { m with events := m.events ++ [cameraEvent status online] } else m

variable (drv : CameraId → V4L2Driver ω) (uvc : UvcNodes ω)

def startCamera (id : CameraId) (m : CameraManager) (w : ω) : Result Unit × CameraManager × ω :=
  if !m.initialized then (.fail .notInitialized "camera manager is not initialized", m, w)
  else
    let (ret, c, w) := CameraDevice.start (cameraClass id) (drv id) uvc (m.select id) w
    (ret, (m.update id c).publishCameraEvent c.status ret.succeeded, w)

def stopCamera (id : CameraId) (m : CameraManager) (w : ω) : Result Unit × CameraManager × ω :=
  let (ret, c, w) := CameraDevice.stop (drv id) (m.select id) w
  (ret, (m.update id c).publishCameraEvent c.status false, w)

def readFrame (id : CameraId) (timeoutMs : Int32) (m : CameraManager) (w : ω) :
    Result CameraFrame × CameraManager × ω :=
  let (ret, c, w) := CameraDevice.readFrame (cameraClass id) (drv id) uvc timeoutMs (m.select id) w
  (ret, m.update id c, w)

def streaming (id : CameraId) (m : CameraManager) : Bool := (m.select id).v4l2.streaming

def isOpen (id : CameraId) (m : CameraManager) : Bool := (m.select id).v4l2.isOpen

variable {id other : CameraId} {m m' : CameraManager} {w w' : ω} {e : Status}

@[simp] theorem select_publishCameraEvent (status : CameraStatus) (online : Bool) :
    (m.publishCameraEvent status online).select id = m.select id := by
  unfold publishCameraEvent
  split <;> cases id <;> rfl

@[simp] theorem select_update_self (c : CameraDevice) : (m.update id c).select id = c := by
  cases id <;> rfl

theorem select_update_of_ne (h : other ≠ id) (c : CameraDevice) :
    (m.update id c).select other = m.select other := by
  cases id <;> cases other <;> first | rfl | exact absurd rfl h

def About (c : CameraDevice) (event : Event) : Prop :=
  ∃ status online, event = cameraEvent status online ∧ (status.id, status.kind) = c.identity

/-- What a manager has published more are its reports about cameras it was asked for. -/
structure Reports (asked : CameraId → Prop) (m m' : CameraManager) : Prop where
  identity : ∀ id, (m'.select id).identity = (m.select id).identity
  events : ∃ new, m'.events = m.events ++ new ∧
    ∀ event ∈ new, ∃ id, asked id ∧ About (m.select id) event

variable {asked asked' : CameraId → Prop}

theorem Reports.refl (asked : CameraId → Prop) (m : CameraManager) : Reports asked m m :=
  ⟨fun _ ↦ rfl, [], (List.append_nil _).symm, fun _ h ↦ absurd h List.not_mem_nil⟩

theorem Reports.trans {m₁ : CameraManager} (h : Reports asked m m₁) (h' : Reports asked m₁ m') :
    Reports asked m m' := by
  obtain ⟨new, hn, ht⟩ := h.events
  obtain ⟨new', hn', ht'⟩ := h'.events
  refine ⟨fun id ↦ (h'.identity id).trans (h.identity id), new ++ new', ?_, fun event he ↦ ?_⟩
  · rw [hn', hn, List.append_assoc]
  rcases List.mem_append.mp he with he | he
  · exact ht event he
  · obtain ⟨id, hid, status, online, hevent, hstatus⟩ := ht' event he
    exact ⟨id, hid, status, online, hevent, hstatus.trans (h.identity id)⟩

theorem Reports.mono (h : Reports asked m m') (ha : ∀ id, asked id → asked' id) :
    Reports asked' m m' := by
  obtain ⟨new, hn, ht⟩ := h.events
  refine ⟨h.identity, new, hn, fun event he ↦ ?_⟩
  obtain ⟨id, hid, habout⟩ := ht event he
  exact ⟨id, ha id hid, habout⟩

theorem update_reports {c : CameraDevice} (hc : c.identity = (m.select id).identity)
    (online : Bool) :
    Reports (· = id) m ((m.update id c).publishCameraEvent c.status online) := by
  have hu : (m.update id c).events = m.events := by cases id <;> rfl
  refine ⟨fun other ↦ ?_, ?_⟩
  · rw [select_publishCameraEvent]
    by_cases ho : other = id
    · rw [ho, select_update_self]
      exact hc
    · rw [select_update_of_ne ho]
  · unfold publishCameraEvent
    split
    · refine ⟨[cameraEvent c.status online], congrArg (· ++ _) hu, fun event he ↦ ?_⟩
      exact ⟨id, rfl, c.status, online, List.mem_singleton.mp he, hc⟩
    · exact ⟨[], hu.trans (List.append_nil _).symm, fun _ h ↦ absurd h List.not_mem_nil⟩

variable (id m w) in
theorem startCamera_reports : Reports (· = id) m (m.startCamera drv uvc id w).2.1 := by
  unfold startCamera
  split
  · exact .refl _ m
  · exact update_reports (CameraDevice.start_identity _ _ _ _ _) _

variable (id m w) in
theorem stopCamera_reports : Reports (· = id) m (m.stopCamera drv id w).2.1 :=
  update_reports (CameraDevice.stop_identity _ _ _) _

variable {drv uvc}

theorem startCamera_other {r : Result Unit} (h : m.startCamera drv uvc id w = (r, m', w'))
    (hne : other ≠ id) : m'.select other = m.select other := by
  unfold startCamera at h
  split at h
  · cases h
    rfl
  · cases h
    rw [select_publishCameraEvent, select_update_of_ne hne]

theorem stopCamera_other (hne : other ≠ id) :
    (m.stopCamera drv id w).2.1.select other = m.select other := by
  unfold stopCamera
  rw [select_publishCameraEvent, select_update_of_ne hne]

/-- A camera that could not be started is not left streaming, and no camera is closed. -/
theorem startCamera_error (h : m.startCamera drv uvc id w = (.error e, m', w'))
    (other : CameraId) :
    (m.streaming other = false → m'.streaming other = false) ∧
      (m.isOpen other = true → m'.isOpen other = true) := by
  by_cases ho : other = id
  · subst ho
    unfold startCamera at h
    split at h
    · cases h
      exact ⟨fun hs ↦ hs, fun hs ↦ hs⟩
    · rcases hx : CameraDevice.start (cameraClass other) (drv other) uvc (m.select other) w with
        ⟨r, c, w₁⟩
      rw [hx] at h
      cases h
      unfold streaming isOpen
      rw [select_publishCameraEvent, select_update_self]
      exact CameraDevice.start_error hx
  · unfold streaming isOpen
    rw [startCamera_other h ho]
    exact ⟨fun hs ↦ hs, fun hs ↦ hs⟩

theorem startCamera_ok (h : m.startCamera drv uvc id w = (.ok (), m', w'))
    (hs : m.streaming id = false) : m'.isOpen id = true := by
  unfold startCamera at h
  split at h
  · cases h
  · rcases hx : CameraDevice.start (cameraClass id) (drv id) uvc (m.select id) w with ⟨r, c, w₁⟩
    rw [hx] at h
    cases h
    unfold isOpen
    rw [select_publishCameraEvent, select_update_self]
    exact CameraDevice.start_ok hx hs

theorem stopCamera_streaming (ho : m.isOpen id = true) :
    (m.stopCamera drv id w).2.1.streaming id = false := by
  unfold stopCamera streaming
  rw [select_publishCameraEvent, select_update_self]
  exact CameraDevice.stop_streaming (drv id) w ho

end CameraManager

end TriFusion.Device
