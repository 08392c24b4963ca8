import TriFusion.Device.BufferOwnership

namespace TriFusion.Hardware.V4L2Device

open Foundation

variable {ω : Type} (drv : V4L2Driver ω)

def SameNode (d d' : V4L2Device) : Prop := d'.fdOpen = d.fdOpen ∧ d'.streaming = d.streaming

theorem SameNode.refl (d : V4L2Device) : SameNode d d := ⟨rfl, rfl⟩

variable {drv} {d d' : V4L2Device} {w w' : ω}

theorem openDevice_ok {path : Text} {nonBlock : Bool}
    (h : d.openDevice drv path nonBlock w = (.ok (), d', w')) :
    d'.fdOpen = true ∧ d'.streaming = d.streaming := by
  unfold openDevice at h
  split_ifs at h with ho hp
  · cases h
  · cases h
  rcases hx : drv.openNode path nonBlock w with ⟨r, w₁⟩
  rw [hx] at h
  cases r with
  | error errno => cases h
  | ok u =>
    cases h
    exact ⟨rfl, rfl⟩

theorem openDevice_error {path : Text} {nonBlock : Bool} {e : Status}
    (h : d.openDevice drv path nonBlock w = (.error e, d', w')) : d' = d := by
  unfold openDevice at h
  split_ifs at h with ho hp
  · cases h
    rfl
  · cases h
    rfl
  rcases hx : drv.openNode path nonBlock w with ⟨r, w₁⟩
  rw [hx] at h
  cases r with
  | error errno =>
    cases h
    rfl
  | ok u => cases h

variable (drv) in
theorem mapBuffers_sameNode (n i : ℕ) (d : V4L2Device) (w : ω) :
    SameNode d (mapBuffers drv n i d w).2.1 := by
  induction n generalizing i d w with
  | zero => exact SameNode.refl d
  | succ n ih =>
    rw [mapBuffers]
    rcases d.xioctl (drv.queryBuf i) w with ⟨r, w₁⟩
    cases r with
    | error e => exact SameNode.refl d
    | ok length =>
      dsimp only
      rcases drv.mmap i w₁ with ⟨r, w₂⟩
      cases r with
      | error errno => exact SameNode.refl d
      | ok u =>
        dsimp only
        rcases enqueueBuffer drv i { d with buffers := d.buffers.set i ⟨true, length⟩ } w₂
          with ⟨r, w₃⟩
        cases r with
        | error e => exact SameNode.refl d
        | ok u => exact ih (i + 1) { d with buffers := d.buffers.set i ⟨true, length⟩ } w₃

variable (drv) in
theorem requestBuffers_sameNode (count : UInt32) (d : V4L2Device) (w : ω) :
    SameNode d (requestBuffers drv count d w).2.1 := by
  unfold requestBuffers
  split_ifs with hc
  · exact SameNode.refl d
  rcases d.xioctl (drv.reqBufs count) w with ⟨r, w₁⟩
  cases r with
  | error e => exact SameNode.refl d
  | ok granted =>
    dsimp only
    split_ifs with hg
    · exact SameNode.refl d
    · exact mapBuffers_sameNode drv granted 0 _ w₁

theorem startStream_ok (h : d.startStream drv w = (.ok (), d', w')) :
    d' = { d with streaming := true } ∧ (d.streaming = false → d.fdOpen = true) := by
  unfold startStream at h
  split_ifs at h with hs
  · cases h
    exact ⟨by rw [← hs], fun hf ↦ absurd hs (hf ▸ Bool.false_ne_true)⟩
  cases ho : d.fdOpen with
  | false =>
    have hc : d.xioctl drv.streamOn w = (.fail .notInitialized "V4L2 device not open", w) :=
      if_pos (by rw [isOpen, ho]; rfl)
    rw [hc] at h
    cases h
  | true =>
    rcases hx : d.xioctl drv.streamOn w with ⟨r, w₁⟩
    rw [hx] at h
    cases r with
    | error e => cases h
    | ok u =>
      cases h
      exact ⟨by rw [ho], fun _ ↦ rfl⟩

theorem startStream_error {e : Status} (h : d.startStream drv w = (.error e, d', w')) :
    d' = d ∧ d.streaming = false := by
  unfold startStream at h
  split_ifs at h with hs
  · cases h
  rcases hx : d.xioctl drv.streamOn w with ⟨r, w₁⟩
  rw [hx] at h
  cases r with
  | error e =>
    cases h
    exact ⟨rfl, eq_false_of_ne_true hs⟩
  | ok u => cases h

variable (drv) in
theorem stopStream_node (d : V4L2Device) (w : ω) :
    (d.stopStream drv w).2.1 = { d with streaming := false } := by
  unfold stopStream
  split_ifs with hs
  · have hf : d.streaming = false := by simpa using hs
    rw [← hf]
  · rfl

variable (drv) in
theorem closeDevice_node (d : V4L2Device) (w : ω) :
    (d.closeDevice drv w).1 =
      { fdOpen := false, path := [], buffers := [], streaming := false } := by
  unfold closeDevice
  cases hs : d.streaming with
  | true =>
    simp only [↓reduceIte, stopStream_node drv]
  | false => simp only [Bool.false_eq_true, ↓reduceIte, hs]

end TriFusion.Hardware.V4L2Device

namespace TriFusion.Device

open Foundation Hardware Library.Runs

variable {ω : Type}

inductive LifecycleCall
  | init (config : CameraEndpointConfig)
  | run (call : CameraCall)

namespace CameraDevice

variable (k : CameraClass) (drv : V4L2Driver ω) (uvc : UvcNodes ω)

def lifecycle (s : CameraDevice × ω) : LifecycleCall → CameraDevice × ω
  | .init config => ((s.1.init k config).2, s.2)
  | .run .open => (CameraDevice.open k drv uvc s.1 s.2).2
  | .run .start => (CameraDevice.start k drv uvc s.1 s.2).2
  | .run (.readFrame timeoutMs) => (readFrame k drv uvc timeoutMs s.1 s.2).2
  | .run .stop => (stop drv s.1 s.2).2
  | .run .close => close k drv uvc s.1 s.2

/-- The status says what the device and the metadata reader are doing. -/
structure Truthful (c : CameraDevice) : Prop where
  opened : c.status.opened = c.v4l2.isOpen
  online : c.status.online = c.v4l2.isOpen
  streaming : c.status.streaming = c.v4l2.streaming
  streamingOpen : c.v4l2.streaming = true → c.v4l2.isOpen = true
  state : c.status.state = .streaming ↔ c.v4l2.streaming = true
  metadata : k.hasMetadata = true → c.status.metadataAvailable = c.metadataReader.isOpen
  metadataOpen : k.hasMetadata = true → c.metadataReader.isOpen = true → c.v4l2.isOpen = true
  ready : c.v4l2.isOpen = true → c.status.configured = true ∧ c.status.enabled = true

/-- The status of a camera that is not open, whatever its node is doing just now. -/
structure Idle (c : CameraDevice) : Prop where
  opened : c.status.opened = false
  online : c.status.online = false
  streaming : c.status.streaming = false
  state : c.status.state ≠ .streaming
  metadata : k.hasMetadata = true →
    c.status.metadataAvailable = false ∧ c.metadataReader.isOpen = false

variable {k drv uvc} {c : CameraDevice} {w : ω}

theorem Idle.truthful (h : Idle k c) (ho : c.v4l2.fdOpen = false)
    (hs : c.v4l2.streaming = false) : Truthful k c := by
  have hopen : c.v4l2.isOpen = false := ho
  refine ⟨h.opened.trans hopen.symm, h.online.trans hopen.symm, h.streaming.trans hs.symm,
    fun ht ↦ ?_, iff_of_false h.state ?_, fun hk ↦ ?_, fun hk hr ↦ ?_, fun ht ↦ ?_⟩
  · rw [hs] at ht
    cases ht
  · rw [hs]
    exact Bool.false_ne_true
  · rw [(h.metadata hk).1, (h.metadata hk).2]
  · rw [(h.metadata hk).2] at hr
    cases hr
  · rw [hopen] at ht
    cases ht

theorem Truthful.streaming_closed (h : Truthful k c) (ho : c.v4l2.isOpen = false) :
    c.v4l2.streaming = false := by
  cases hs : c.v4l2.streaming with
  | false => rfl
  | true => exact absurd (h.streamingOpen hs) (ho ▸ Bool.false_ne_true)

theorem Truthful.idle (h : Truthful k c) (ho : c.v4l2.isOpen = false) : Idle k c := by
  have hs := h.streaming_closed ho
  refine ⟨h.opened.trans ho, h.online.trans ho, h.streaming.trans hs, fun ht ↦ ?_, fun hk ↦ ?_⟩
  · exact absurd (h.state.mp ht) (hs ▸ Bool.false_ne_true)
  · have hr : c.metadataReader.isOpen = false := by
      cases hr : c.metadataReader.isOpen with
      | false => rfl
      | true => exact absurd (h.metadataOpen hk hr) (ho ▸ Bool.false_ne_true)
    exact ⟨(h.metadata hk).trans hr, hr⟩

theorem Idle.setError (h : Idle k c) (code : ErrorCode) (message : Text) :
    Idle k (c.setError code message) :=
  ⟨h.opened, h.online, h.streaming, by simp [CameraDevice.setError], h.metadata⟩

theorem Truthful.setError (h : Truthful k c) (hs : c.v4l2.streaming = false) (code : ErrorCode)
    (message : Text) : Truthful k (c.setError code message) := by
  refine ⟨h.opened, h.online, h.streaming, h.streamingOpen, ?_, h.metadata, h.metadataOpen,
    h.ready⟩
  apply iff_of_false
  · simp [CameraDevice.setError]
  · intro ht
    exact absurd ht (hs ▸ Bool.false_ne_true)

theorem init_truthful (h : Truthful k c) (ho : c.v4l2.isOpen = false)
    (config : CameraEndpointConfig) : Truthful k (c.init k config).2 := by
  have hs := h.streaming_closed ho
  have hm := (h.idle ho).metadata
  unfold init
  dsimp only
  by_cases he : (!config.enable) = true
  · rw [if_pos he]
    exact Idle.truthful ⟨rfl, rfl, rfl, by simp, fun hk ↦ ⟨rfl, (hm hk).2⟩⟩ ho hs
  · rw [if_neg he]
    cases makeCaptureFormat config with
    | error e =>
      exact Idle.truthful ⟨rfl, rfl, rfl, by simp [CameraDevice.setError],
        fun hk ↦ ⟨rfl, (hm hk).2⟩⟩ ho hs
    | ok fmt =>
      exact Idle.truthful ⟨rfl, rfl, rfl, by simp [clearError],
        fun hk ↦ ⟨rfl, (hm hk).2⟩⟩ ho hs

variable (drv) in
theorem abandonOpen_truthful (h : Idle k c) (e : Status) (w : ω) :
    Truthful k (abandonOpen drv e c w).2.1 := by
  have hnode := V4L2Device.closeDevice_node drv c.v4l2 w
  have hidle : Idle k { c with v4l2 := (c.v4l2.closeDevice drv w).1 } :=
    ⟨h.opened, h.online, h.streaming, h.state, h.metadata⟩
  refine (hidle.setError e.code e.describe).truthful ?_ ?_
  · exact congrArg V4L2Device.fdOpen hnode
  · exact congrArg V4L2Device.streaming hnode

variable (drv) in
theorem describeNode_capability (c : CameraDevice) (w : ω) :
    ∃ capability, (describeNode drv c w).1 = { c with capability := capability } := by
  unfold describeNode
  rcases c.v4l2.queryCapability drv w with ⟨cap, w₁⟩
  cases cap with
  | error e =>
    dsimp only
    rcases c.v4l2.enumFormats drv w₁ with ⟨formats, w₂⟩
    cases formats with
    | error e => exact ⟨_, rfl⟩
    | ok formats => exact ⟨_, rfl⟩
  | ok info =>
    dsimp only
    rcases c.v4l2.enumFormats drv w₁ with ⟨formats, w₂⟩
    cases formats with
    | error e => exact ⟨_, rfl⟩
    | ok formats => exact ⟨_, rfl⟩

variable (uvc) in
theorem tryOpenMetadataNode_status (hr : c.metadataReader.isOpen = false) (w : ω) :
    ∃ reader available capability, (tryOpenMetadataNode uvc c w).1 = { c with
        metadataReader := reader
        capability := capability
        status.metadataAvailable := available } ∧ available = reader.isOpen := by
  unfold tryOpenMetadataNode
  dsimp only
  split_ifs with hn
  · exact ⟨_, _, _, rfl, hr.symm⟩
  rcases UvcDevice.inspectNode uvc c.config.metadataNode w with ⟨r, w₁⟩
  cases r with
  | error e => exact ⟨_, _, _, rfl, hr.symm⟩
  | ok info =>
    dsimp only
    split_ifs with hi
    · exact ⟨_, _, _, rfl, hr.symm⟩
    have hclosed : ¬c.metadataReader.isOpen = true := hr ▸ Bool.false_ne_true
    rw [UvcMetadataReader.openNode, if_neg hclosed, if_neg hn]
    rcases uvc.openNode c.config.metadataNode w₁ with ⟨r, w₂⟩
    cases r with
    | error errno => exact ⟨_, _, _, rfl, hr.symm⟩
    | ok u => exact ⟨_, _, _, rfl, rfl⟩

theorem opened_truthful (hidle : Idle k c) (ho : c.v4l2.fdOpen = true)
    (hs : c.v4l2.streaming = false) (hr : c.status.configured = true ∧ c.status.enabled = true)
    (w : ω) :
    let c' := clearError { c with
      capability.hasVideoNode := true
      status.opened := true
      status.online := true
      status.state := .opened }
    Truthful k (if k.hasMetadata then tryOpenMetadataNode uvc c' w else (c', w)).1 := by
  intro c'
  have hopen : c.v4l2.isOpen = true := ho
  have hoff : c.v4l2.streaming ≠ true := hs ▸ Bool.false_ne_true
  have hst : CameraLifecycleState.opened = .streaming ↔ c.v4l2.streaming = true :=
    iff_of_false (by simp) hoff
  split_ifs with hk
  · obtain ⟨reader, available, capability, he, ha⟩ :=
      tryOpenMetadataNode_status uvc (c := c') (hidle.metadata hk).2 w
    rw [he]
    exact ⟨hopen.symm, hopen.symm, hidle.streaming.trans hs.symm, fun ht ↦ absurd ht hoff, hst,
      fun _ ↦ ha, fun _ _ ↦ hopen, fun _ ↦ hr⟩
  · exact ⟨hopen.symm, hopen.symm, hidle.streaming.trans hs.symm, fun ht ↦ absurd ht hoff, hst,
      fun hk' ↦ absurd hk' hk, fun hk' ↦ absurd hk' hk, fun _ ↦ hr⟩

theorem configureNode_truthful (hidle : Idle k c) (ho : c.v4l2.fdOpen = true)
    (hs : c.v4l2.streaming = false) (hr : c.status.configured = true ∧ c.status.enabled = true)
    (w : ω) : Truthful k (configureNode k drv uvc c w).2.1 := by
  obtain ⟨capability, hc⟩ := describeNode_capability drv c w
  unfold configureNode
  rcases hd : describeNode drv c w with ⟨c₁, w₁⟩
  rw [hd] at hc
  obtain rfl : c₁ = { c with capability := capability } := hc
  have hidle' : Idle k { c with capability := capability } :=
    ⟨hidle.opened, hidle.online, hidle.streaming, hidle.state, hidle.metadata⟩
  dsimp only
  rcases c.v4l2.setFormat drv c.captureFormat w₁ with ⟨r, w₂⟩
  cases r with
  | error e => exact abandonOpen_truthful drv hidle' e w₂
  | ok u =>
    dsimp only
    have hsame := V4L2Device.requestBuffers_sameNode drv 4 c.v4l2 w₂
    rcases hx : c.v4l2.requestBuffers drv 4 w₂ with ⟨r, d, w₃⟩
    rw [hx] at hsame
    obtain ⟨hfd, hstream⟩ := hsame
    have hidle'' : Idle k { c with capability := capability, v4l2 := d } :=
      ⟨hidle.opened, hidle.online, hidle.streaming, hidle.state, hidle.metadata⟩
    cases r with
    | error e => exact abandonOpen_truthful drv hidle'' e w₃
    | ok u => exact opened_truthful hidle'' (hfd.trans ho) (hstream.trans hs) hr w₃

variable (drv uvc) in
theorem open_truthful (h : Truthful k c) (w : ω) :
    Truthful k (CameraDevice.open k drv uvc c w).2.1 := by
  unfold CameraDevice.open
  cases hready : c.v4l2.isOpen with
  | true =>
    obtain ⟨hconf, hen⟩ := h.ready hready
    simp only [hconf, hen, Bool.not_true, Bool.false_eq_true, ↓reduceIte]
    exact h
  | false =>
    have hs := h.streaming_closed hready
    have hidle := h.idle hready
    simp only [Bool.false_eq_true, ↓reduceIte]
    split_ifs with hconf hen
    · exact h.setError hs _ _
    · exact h.setError hs _ _
    rcases UvcDevice.inspectNode uvc c.config.videoNode w with ⟨r, w₁⟩
    cases r with
    | error e => exact h.setError hs _ _
    | ok info =>
      dsimp only
      split_ifs with hi
      · exact h.setError hs _ _
      rcases hx : c.v4l2.openDevice drv c.config.videoNode false w₁ with ⟨r, d, w₂⟩
      cases r with
      | error e =>
        obtain rfl := V4L2Device.openDevice_error hx
        exact h.setError hs _ _
      | ok u =>
        obtain ⟨ho, hstream⟩ := V4L2Device.openDevice_ok hx
        have hr : c.status.configured = true ∧ c.status.enabled = true := by
          simpa using And.intro hconf hen
        have hidle' : Idle k { c with v4l2 := d } :=
          ⟨hidle.opened, hidle.online, hidle.streaming, hidle.state, hidle.metadata⟩
        exact configureNode_truthful hidle' ho (hstream.trans hs) hr w₂

theorem startStreaming_truthful (h : Truthful k c) (w : ω) :
    Truthful k (startStreaming drv c w).2.1 := by
  unfold startStreaming
  rcases hx : c.v4l2.startStream drv w with ⟨r, d, w₁⟩
  cases r with
  | error e =>
    obtain ⟨rfl, hs⟩ := V4L2Device.startStream_error hx
    exact h.setError hs _ _
  | ok u =>
    obtain ⟨rfl, hopen⟩ := V4L2Device.startStream_ok hx
    have ho : c.v4l2.isOpen = true := by
      cases hs : c.v4l2.streaming with
      | false => exact hopen hs
      | true => exact h.streamingOpen hs
    exact ⟨h.opened, h.online, rfl, fun _ ↦ ho, iff_of_true rfl rfl, h.metadata, h.metadataOpen,
      h.ready⟩

theorem start_truthful (h : Truthful k c) (w : ω) :
    Truthful k (CameraDevice.start k drv uvc c w).2.1 := by
  unfold CameraDevice.start
  split_ifs with ho
  · have hopened := open_truthful drv uvc h w
    rcases hx : CameraDevice.open k drv uvc c w with ⟨r, c₁, w₁⟩
    rw [hx] at hopened
    cases r with
    | error e => exact hopened
    | ok u => exact startStreaming_truthful hopened w₁
  · exact startStreaming_truthful h w

def SameStatus (c c' : CameraDevice) : Prop :=
  ∃ sequence framesRead packets dropped code message, c' = { c with
    sequence := sequence
    status.framesRead := framesRead
    status.metadataPacketsRead := packets
    status.droppedFrames := dropped
    status.lastErrorCode := code
    status.lastErrorMessage := message }

theorem SameStatus.truthful {c' : CameraDevice} (hc : SameStatus c c') (h : Truthful k c) :
    Truthful k c' := by
  obtain ⟨sequence, framesRead, packets, dropped, code, message, rfl⟩ := hc
  exact ⟨h.opened, h.online, h.streaming, h.streamingOpen, h.state, h.metadata, h.metadataOpen,
    h.ready⟩

variable (uvc) in
theorem attachMetadata_sameStatus (frame : CameraFrame) (w : ω) :
    ∃ packets, (attachMetadata k uvc frame c w).2.1 =
      { c with status.metadataPacketsRead := packets } := by
  unfold attachMetadata tryAttachMetadata
  split_ifs with hk ha
  · exact ⟨_, rfl⟩
  · rcases c.metadataReader.readPacket uvc 1 4096 w with ⟨r, w₁⟩
    cases r with
    | error e => exact ⟨_, rfl⟩
    | ok packet => exact ⟨_, rfl⟩
  · exact ⟨_, rfl⟩

theorem readFrame_sameStatus (timeoutMs : Int32) (c : CameraDevice) (w : ω) :
    SameStatus c (readFrame k drv uvc timeoutMs c w).2.1 := by
  unfold readFrame
  split_ifs with hs
  · exact ⟨_, _, _, _, _, _, rfl⟩
  rcases c.v4l2.dequeueBuffer drv timeoutMs w with ⟨r, w₁⟩
  cases r with
  | error e => exact ⟨_, _, _, _, _, _, rfl⟩
  | ok view =>
    obtain ⟨packets, hc⟩ := attachMetadata_sameStatus uvc (k := k)
      (c := { c with sequence := c.sequence + 1 }) (frameOf k view (uvc.nowMs w₁).1 c)
      (uvc.nowMs w₁).2
    dsimp only
    rcases hx : attachMetadata k uvc (frameOf k view (uvc.nowMs w₁).1 c)
      { c with sequence := c.sequence + 1 } (uvc.nowMs w₁).2 with ⟨frame, c₁, w₂⟩
    rw [hx] at hc
    subst hc
    rcases c.v4l2.enqueueBuffer drv view.index w₂ with ⟨r, w₃⟩
    cases r with
    | error e => exact ⟨_, _, _, _, _, _, rfl⟩
    | ok u => exact ⟨_, _, _, _, _, _, rfl⟩

def stopped (c : CameraDevice) : CameraDevice :=
  { c with
    v4l2.streaming := false
    status.streaming := false
    status.state := if c.status.opened then .opened else .initialized }

variable (drv) in
theorem stop_device (c : CameraDevice) (w : ω) :
    c.v4l2.isOpen = false ∧ (stop drv c w).2.1 = c ∨
      ((stop drv c w).2.1 = c.stopped ∨
        ∃ code message, (stop drv c w).2.1 = c.stopped.setError code message) := by
  unfold stop
  by_cases ho : (!c.v4l2.isOpen) = true
  · rw [if_pos ho]
    exact .inl ⟨by simpa using ho, rfl⟩
  · rw [if_neg ho]
    have hnode := V4L2Device.stopStream_node drv c.v4l2 w
    rcases hx : c.v4l2.stopStream drv w with ⟨r, d, w₁⟩
    rw [hx] at hnode
    subst hnode
    cases r with
    | error e => exact .inr (.inr ⟨e.code, e.describe, rfl⟩)
    | ok u => exact .inr (.inl rfl)

theorem Truthful.stopped (h : Truthful k c) : Truthful k c.stopped := by
  refine ⟨h.opened, h.online, rfl, fun ht ↦ ?_, iff_of_false ?_ Bool.false_ne_true, h.metadata,
    h.metadataOpen, h.ready⟩
  · cases ht
  · rw [CameraDevice.stopped]
    split_ifs <;> simp

theorem stop_truthful (h : Truthful k c) (w : ω) : Truthful k (stop drv c w).2.1 := by
  rcases stop_device drv c w with ⟨-, he⟩ | he | ⟨code, message, he⟩
  · rw [he]
    exact h
  · rw [he]
    exact h.stopped
  · rw [he]
    exact h.stopped.setError rfl code message

variable (drv) in
theorem stop_metadataReader (c : CameraDevice) (w : ω) :
    (stop drv c w).2.1.metadataReader = c.metadataReader := by
  rcases stop_device drv c w with ⟨-, he⟩ | he | ⟨code, message, he⟩
  · rw [he]
  · rw [he]
    rfl
  · rw [he]
    rfl

variable (drv) in
theorem closeVideo_off (c : CameraDevice) (w : ω)
    (hoff : c.v4l2.isOpen = false → c.v4l2.streaming = false) :
    (closeVideo drv c w).1.v4l2.isOpen = false ∧ (closeVideo drv c w).1.v4l2.streaming = false ∧
      (closeVideo drv c w).1.metadataReader = c.metadataReader := by
  unfold closeVideo
  split_ifs with ho
  · have hreader := stop_metadataReader drv c w
    rcases hx : stop drv c w with ⟨r, c₁, w₁⟩
    rw [hx] at hreader
    have hnode := V4L2Device.closeDevice_node drv c₁.v4l2 w₁
    exact ⟨congrArg V4L2Device.isOpen hnode, congrArg V4L2Device.streaming hnode, hreader⟩
  · have hopen := eq_false_of_ne_true ho
    exact ⟨hopen, hoff hopen, rfl⟩

variable (uvc) in
theorem closeMetadata_off (c : CameraDevice) (w : ω) :
    (closeMetadata k uvc c w).1.v4l2 = c.v4l2 ∧
      (k.hasMetadata = true → (closeMetadata k uvc c w).1.metadataReader.isOpen = false) := by
  unfold closeMetadata
  split_ifs with hk
  · exact ⟨rfl, fun _ ↦ rfl⟩
  · exact ⟨rfl, fun hk' ↦ absurd hk' hk⟩

theorem close_truthful (h : Truthful k c) (w : ω) : Truthful k (close k drv uvc c w).1 := by
  unfold close
  obtain ⟨hv, hr⟩ := closeMetadata_off uvc (k := k) c w
  rcases hm : closeMetadata k uvc c w with ⟨c₁, w₁⟩
  rw [hm] at hv hr
  dsimp only at hv hr ⊢
  obtain ⟨hopen, hstream, hreader⟩ := closeVideo_off drv c₁ w₁ (by
    rw [hv]
    exact h.streaming_closed)
  rcases hx : closeVideo drv c₁ w₁ with ⟨c₂, w₂⟩
  rw [hx] at hopen hstream hreader
  refine Idle.truthful ⟨rfl, rfl, rfl, ?_, fun hk ↦ ⟨if_pos hk, ?_⟩⟩ hopen hstream
  · dsimp only
    split_ifs <;> simp
  · dsimp only at hreader ⊢
    rw [hreader]
    exact hr hk

theorem lifecycle_truthful (s : CameraDevice × ω) (a : LifecycleCall) (h : Truthful k s.1)
    (ha : ∀ config, a = .init config → s.1.v4l2.isOpen = false) :
    Truthful k (lifecycle k drv uvc s a).1 := by
  cases a with
  | init config => exact init_truthful h (ha config rfl) config
  | run call =>
    cases call with
    | «open» => exact open_truthful drv uvc h s.2
    | start => exact start_truthful h s.2
    | readFrame timeoutMs => exact (readFrame_sameStatus timeoutMs s.1 s.2).truthful h
    | stop => exact stop_truthful h s.2
    | close => exact close_truthful h s.2

variable (k drv uvc)

/-- In every run that initialises the camera only while it is closed, the status tells
what the video node, its stream and the metadata reader are doing. -/
theorem status_truthful (w : ω) (calls : List LifecycleCall)
    (hinit : Along (lifecycle k drv uvc)
      (fun s a ↦ ∀ config, a = .init config → s.1.v4l2.isOpen = false) ({}, w) calls) :
    let c := (exec (lifecycle k drv uvc) ({}, w) calls).1
    (c.status.opened = c.v4l2.isOpen ∧ c.status.online = c.v4l2.isOpen) ∧
      (c.status.streaming = c.v4l2.streaming ∧ (c.v4l2.streaming = true → c.status.opened = true)) ∧
      (c.status.state = .streaming ↔ c.status.streaming = true) ∧
      (k.hasMetadata = true → c.status.metadataAvailable = c.metadataReader.isOpen) := by
  intro c
  have hstart : Truthful k ({} : CameraDevice) :=
    Idle.truthful ⟨rfl, rfl, rfl, by simp, fun _ ↦ ⟨rfl, rfl⟩⟩ rfl rfl
  have h : Truthful k c := hinit.invariant (I := fun s ↦ Truthful k s.1) lifecycle_truthful hstart
  refine ⟨⟨h.opened, h.online⟩, ⟨h.streaming, fun hs ↦ ?_⟩, ?_, h.metadata⟩
  · rw [h.opened]
    exact h.streamingOpen hs
  · rw [h.streaming]
    exact h.state

theorem status_truthful_started :
    let c := (exec (lifecycle VisibleCameraDevice (CaptureKernel.driver willing)
      (CaptureKernel.nodes willing)) ({}, {}) [.init camera, .run .start]).1
    c.v4l2.streaming = true ∧ c.status.opened = true ∧ c.status.state = .streaming := by
  have hinit : Along (lifecycle VisibleCameraDevice (CaptureKernel.driver willing)
      (CaptureKernel.nodes willing))
      (fun s a ↦ ∀ config, a = .init config → s.1.v4l2.isOpen = false) ({}, {})
      [.init camera, .run .start] := by
    refine ⟨fun _ _ ↦ rfl, ?_⟩
    refine ⟨fun _ hc ↦ ?_, trivial⟩
    cases hc
  have h := status_truthful VisibleCameraDevice (CaptureKernel.driver willing)
    (CaptureKernel.nodes willing) {} [.init camera, .run .start] hinit
  have hs : (exec (lifecycle VisibleCameraDevice (CaptureKernel.driver willing)
      (CaptureKernel.nodes willing)) ({}, {}) [.init camera, .run .start]).1.v4l2.streaming =
        true := by decide +kernel
  exact ⟨hs, h.2.1.2 hs, h.2.2.1.mpr (h.2.1.1.trans hs)⟩

end CameraDevice

end TriFusion.Device
