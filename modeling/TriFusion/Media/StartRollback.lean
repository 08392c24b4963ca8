import TriFusion.Device.CameraStreams
import TriFusion.Media.WorkerHandle

namespace TriFusion.Media

open Foundation Hardware Device

abbrev WithCameras (ω : Type) := CameraManager × ω

variable {ω α : Type}

def besideCameras (f : ω → α × ω) (w : WithCameras ω) : α × WithCameras ω :=
  ((f w.2).1, w.1, (f w.2).2)

/-- The calls of a pipeline whose capture nodes work on a `CameraManager`; each
camera has a driver of its own. -/
def MediaIo.onCameras (io : MediaIo ω) (drv : CameraId → V4L2Driver ω) (uvc : UvcNodes ω) :
    MediaIo (WithCameras ω) where
  startCamera id w := w.1.startCamera drv uvc id w.2
  stopCamera id w := w.1.stopCamera drv id w.2
  readFrame id timeoutMs w := w.1.readFrame drv uvc id timeoutMs w.2
  decoderInit codec := besideCameras (io.decoderInit codec)
  decode packet := besideCameras (io.decode packet)
  decoderRelease w := (w.1, io.decoderRelease w.2)
  encoderInit config := besideCameras (io.encoderInit config)
  encodeNv12 data ptsMs := besideCameras (io.encodeNv12 data ptsMs)
  encoderRelease w := (w.1, io.encoderRelease w.2)
  imcvtcolor src dst := besideCameras (io.imcvtcolor src dst)
  nowMs := besideCameras io.nowMs

namespace MediaPipeline

variable {io : MediaIo ω} {drv : CameraId → V4L2Driver ω} {uvc : UvcNodes ω} {p p' : MediaPipeline}
  {s s' s₁ : Shared (WithCameras ω)} {node : Option CaptureNode} {e : Status}

def NoneBegun (s s' : Shared (WithCameras ω)) : Prop :=
  ∀ id, s.outside.1.streaming id = false → s'.outside.1.streaming id = false

theorem startNode_error (h : startNode (io.onCameras drv uvc) node s = (.error e, s')) :
    NoneBegun s s' ∧ ∀ id, s.outside.1.isOpen id = true → s'.outside.1.isOpen id = true := by
  cases node with
  | none => cases h
  | some node =>
    have hcall := Shared.call_eq h
    unfold CaptureNode.start at hcall
    split at hcall
    · have hsame : s.outside = s'.outside := congrArg Prod.snd hcall
      unfold NoneBegun
      rw [← hsame]
      exact ⟨fun _ ↦ id, fun _ ↦ id⟩
    · have herr := CameraManager.startCamera_error hcall
      exact ⟨fun id ↦ (herr id).1, fun id ↦ (herr id).2⟩

theorem startNode_ok (h : startNode (io.onCameras drv uvc) node s = (.ok (), s')) :
    (node = none ∧ s' = s) ∨ ∃ n, node = some n ∧ n.manager ≠ none ∧
      (s.outside.1.streaming n.cameraId = false → s'.outside.1.isOpen n.cameraId = true) ∧
      ∀ id, id ≠ n.cameraId → s'.outside.1.select id = s.outside.1.select id := by
  cases node with
  | none =>
    cases h
    exact .inl ⟨rfl, rfl⟩
  | some n =>
    have hcall := Shared.call_eq h
    unfold CaptureNode.start at hcall
    split at hcall
    · cases (Prod.mk.inj hcall).1
    · rename_i hmanager
      exact .inr ⟨n, rfl, hmanager, CameraManager.startCamera_ok hcall,
        fun id ↦ CameraManager.startCamera_other hcall⟩

theorem stopNode_other {n : CaptureNode} {id : CameraId} (hid : id ≠ n.cameraId) :
    (stopNode (io.onCameras drv uvc) (some n) s).outside.1.select id =
      s.outside.1.select id := by
  unfold stopNode Shared.call CaptureNode.stop
  dsimp only
  split
  · rfl
  · exact CameraManager.stopCamera_other hid

theorem stopNode_streaming {n : CaptureNode} (hm : n.manager ≠ none)
    (ho : s.outside.1.isOpen n.cameraId = true) :
    (stopNode (io.onCameras drv uvc) (some n) s).outside.1.streaming n.cameraId = false := by
  unfold stopNode Shared.call CaptureNode.stop
  dsimp only
  rw [if_neg hm]
  exact CameraManager.stopCamera_streaming ho

theorem stopNode_rollback (hstart : startNode (io.onCameras drv uvc) node s = (.ok (), s₁))
    (hkept : NoneBegun s₁ s' ∧
      ∀ id, s₁.outside.1.isOpen id = true → s'.outside.1.isOpen id = true) :
    NoneBegun s (stopNode (io.onCameras drv uvc) node s') := by
  obtain ⟨hbegun, hopen⟩ := hkept
  rcases startNode_ok hstart with ⟨rfl, rfl⟩ | ⟨n, rfl, hm, hstarted, hother⟩
  · exact hbegun
  · intro id hs
    by_cases hid : id = n.cameraId
    · subst hid
      exact stopNode_streaming hm (hopen _ (hstarted hs))
    · have hs₁ : s₁.outside.1.streaming id = false := by
        unfold CameraManager.streaming at hs ⊢
        rw [hother id hid]
        exact hs
      have hs' := hbegun id hs₁
      unfold CameraManager.streaming at hs' ⊢
      rw [stopNode_other hid]
      exact hs'

theorem startCaptureNodes_error
    (h : p.startCaptureNodes (io.onCameras drv uvc) s = (.error e, s')) : NoneBegun s s' := by
  unfold startCaptureNodes at h
  split at h
  · rename_i hx
    cases h
    exact (startNode_error hx).1
  · rename_i hx
    split at h
    · rename_i hy
      cases h
      exact stopNode_rollback hx (startNode_error hy)
    · cases h

def Asks (p : MediaPipeline) (id : CameraId) : Prop :=
  ∃ node, (p.visibleCapture = some node ∨ p.compositeCapture = some node) ∧ node.cameraId = id

variable (io drv uvc) in
theorem startNode_reports (node : Option CaptureNode) (s : Shared (WithCameras ω)) :
    CameraManager.Reports (fun id ↦ ∃ n, node = some n ∧ n.cameraId = id) s.outside.1
      (startNode (io.onCameras drv uvc) node s).2.outside.1 := by
  cases node with
  | none => exact .refl _ _
  | some n =>
    unfold startNode Shared.call CaptureNode.start
    dsimp only
    split
    · exact .refl _ _
    · refine (CameraManager.startCamera_reports drv uvc _ _ _).mono ?_
      rintro id rfl
      exact ⟨n, rfl, rfl⟩

variable (io drv uvc) in
theorem stopNode_reports (node : Option CaptureNode) (s : Shared (WithCameras ω)) :
    CameraManager.Reports (fun id ↦ ∃ n, node = some n ∧ n.cameraId = id) s.outside.1
      (stopNode (io.onCameras drv uvc) node s).outside.1 := by
  cases node with
  | none => exact .refl _ _
  | some n =>
    unfold stopNode Shared.call CaptureNode.stop
    dsimp only
    split
    · exact .refl _ _
    · refine (CameraManager.stopCamera_reports drv _ _ _).mono ?_
      rintro id rfl
      exact ⟨n, rfl, rfl⟩

variable (io drv uvc) in
theorem startCaptureNodes_reports (p : MediaPipeline) (s : Shared (WithCameras ω)) :
    CameraManager.Reports p.Asks s.outside.1
      (p.startCaptureNodes (io.onCameras drv uvc) s).2.outside.1 := by
  have hvisible : ∀ id, (∃ n, p.visibleCapture = some n ∧ n.cameraId = id) → p.Asks id :=
    fun _ ⟨n, hn, hid⟩ ↦ ⟨n, .inl hn, hid⟩
  have hcomposite : ∀ id, (∃ n, p.compositeCapture = some n ∧ n.cameraId = id) → p.Asks id :=
    fun _ ⟨n, hn, hid⟩ ↦ ⟨n, .inr hn, hid⟩
  have hv := (startNode_reports io drv uvc p.visibleCapture s).mono hvisible
  unfold startCaptureNodes
  split
  · rename_i hx
    rw [hx] at hv
    exact hv
  · rename_i s₁ hx
    rw [hx] at hv
    have hc := (startNode_reports io drv uvc p.compositeCapture s₁).mono hcomposite
    split
    · rename_i hy
      rw [hy] at hc
      exact (hv.trans hc).trans ((stopNode_reports io drv uvc _ _).mono hvisible)
    · rename_i hy
      rw [hy] at hc
      exact hv.trans hc

theorem start_error_nodes (h : p.start (io.onCameras drv uvc) s = (.error e, p', s')) :
    s' = s ∨ p.startCaptureNodes (io.onCameras drv uvc) s = (.error e, s') := by
  unfold start at h
  split at h
  · cases h
    exact .inl rfl
  · split at h
    · rename_i hx
      cases h
      exact .inr hx
    · split at h
      · cases h
      · dsimp only at h
        split at h <;> cases h

/-- A `start` that fails leaves the object and everything it shares as they were,
but for the cameras: none has begun to stream, and their manager has published reports
about those the pipeline asked for and nothing else. -/
theorem start_rolled_back (h : p.start (io.onCameras drv uvc) s = (.error e, p', s')) :
    p' = p ∧ s'.mainStream = s.mainStream ∧ s'.events = s.events ∧ s'.crashed = s.crashed ∧
      (∀ id, s.outside.1.streaming id = false → s'.outside.1.streaming id = false) ∧
      CameraManager.Reports p.Asks s.outside.1 s'.outside.1 := by
  obtain ⟨hp, hs⟩ := start_failed h
  refine ⟨hp, hs.mainStream, by rw [hs], by rw [hs], ?_⟩
  rcases start_error_nodes h with rfl | hnodes
  · exact ⟨fun _ ↦ id, .refl _ _⟩
  · have hreports := startCaptureNodes_reports io drv uvc p s
    rw [hnodes] at hreports
    exact ⟨startCaptureNodes_error hnodes, hreports⟩

def attached : V4L2Driver Unit where
  openNode _ _ w := (.ok (), w)
  closeNode := id
  queryCap w := (.ok {}, w)
  enumFmt w := (.ok [], w)
  setFmt format w := (.ok format, w)
  setParm _ w := (.ok (), w)
  reqBufs count w := (.ok count.toNat, w)
  queryBuf _ w := (.ok 0, w)
  mmap _ w := (.ok (), w)
  qBuf _ w := (.ok (), w)
  dqBuf w := (.error "no frame", w)
  streamOn w := (.ok (), w)
  streamOff w := (.ok (), w)
  poll _ w := (.ok false, w)

def visibleNodeOnly : UvcNodes Unit where
  probe path w :=
    (if path = "/dev/tri_visible_video" then .ok { capabilities := 1 }
      else .error (.openNode "No such file or directory"), w)
  openNode _ w := (.error "No such file or directory", w)
  closeNode := id
  poll _ w := (.ok false, w)
  read _ w := (.ok [], w)
  nowMs w := (0, w)

def twoCameras : CameraManager :=
  (CameraManager.init
    { visible :=
        { enable := true, videoNode := "/dev/tri_visible_video", width := 640, height := 480,
          fps := 30, format := "mjpeg" }
      compositeLowThermal :=
        { enable := true, videoNode := "/dev/tri_composite_video", width := 640, height := 480,
          fps := 30, format := "mjpeg" } } true {}).2

def compositeGone : MediaIo (WithCameras Unit) :=
  PipelineSystem.unplugged.onCameras (fun _ ↦ attached) visibleNodeOnly

def bothCameras : MediaPipeline × Shared (WithCameras Unit) :=
  (MediaPipeline.init compositeGone { requireVisible := true }
    { cameraManager := some {}, mainStream := true } {} { outside := (twoCameras, ()) }).2

theorem start_rolled_back_composite :
    let y := bothCameras.1.start compositeGone bothCameras.2
    y.2.1 = bothCameras.1 ∧ y.2.2.mainStream = bothCameras.2.mainStream ∧
      y.2.2.events = bothCameras.2.events ∧ y.2.2.crashed = bothCameras.2.crashed ∧
      (∀ id, bothCameras.2.outside.1.streaming id = false →
        y.2.2.outside.1.streaming id = false) ∧
      CameraManager.Reports bothCameras.1.Asks bothCameras.2.outside.1 y.2.2.outside.1 := by
  have h : (bothCameras.1.start compositeGone bothCameras.2).1 = .error
      ⟨.ioError, "open /dev/tri_composite_video: No such file or directory"⟩ := by decide +kernel
  exact start_rolled_back (Prod.ext h rfl)

/-- The visible camera is reported as it comes and goes, and the composite one as missing. -/
theorem start_rolled_back_reported :
    let y := bothCameras.1.start compositeGone bothCameras.2
    bothCameras.1.state = .initialized ∧
      (∀ id, bothCameras.2.outside.1.streaming id = false) ∧ y.1.succeeded = false ∧
      bothCameras.2.outside.1.events = [] ∧
      y.2.2.outside.1.events.map Event.type = [.cameraOnline, .cameraOffline, .cameraOffline] := by
  refine ⟨by decide +kernel, fun id ↦ ?_, by decide +kernel, by decide +kernel, by decide +kernel⟩
  cases id <;> decide +kernel

end MediaPipeline

end TriFusion.Media
