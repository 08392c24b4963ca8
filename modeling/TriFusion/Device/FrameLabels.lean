import TriFusion.Device.CameraStreams
import TriFusion.Hardware.FormatRecord

namespace TriFusion.Device

open Foundation Hardware Library.Runs

variable {ω : Type}

def CameraFrame.LabelledAs (frame : CameraFrame) (f : CaptureFormat) : Prop :=
  frame.width = f.width ∧ frame.height = f.height ∧ frame.pixelformat = f.pixelformat

namespace CameraDevice

variable (k : CameraClass) (drv : V4L2Driver ω) (uvc : UvcNodes ω)

/-- A camera, and the format its driver last settled on. -/
abbrev Negotiating (ω : Type) := CameraDevice × Recorded ω

/-- An open camera labels its frames with the format of its negotiation. -/
def Labels (s : Negotiating ω) : Prop :=
  s.1.v4l2.isOpen = true → ∃ f, s.2.2 = some f ∧ ∀ view now, (frameOf k view now s.1).LabelledAs f

/-- The call leaves the camera labelling its frames with the negotiated format,
and a frame it returns is labelled so. -/
def StepLabels (s : Negotiating ω) (a : LifecycleCall) : Prop :=
  Labels k (lifecycle k drv.recording uvc.recording s a) ∧
    ∀ timeoutMs frame, a = .run (.readFrame timeoutMs) →
      (readFrame k drv.recording uvc.recording timeoutMs s.1 s.2).1 = .ok frame →
        ∃ f, s.2.2 = some f ∧ frame.LabelledAs f

def InitKeeps (s : Negotiating ω) (a : LifecycleCall) : Prop :=
  ∀ config fmt, a = .init config → s.1.v4l2.isOpen = true → config.enable = true →
    makeCaptureFormat config = .ok fmt →
      fmt.width = s.1.captureFormat.width ∧ fmt.height = s.1.captureFormat.height ∧
        fmt.pixelformat = s.1.captureFormat.pixelformat

/-- A call that opens the camera is granted the size that was asked for. -/
def OpenGranted (s : Negotiating ω) (a : LifecycleCall) : Prop :=
  a = .run .open ∨ a = .run .start → s.1.v4l2.isOpen = false →
    let s' := lifecycle k drv.recording uvc.recording s a
    s'.1.v4l2.isOpen = true → ∀ f, s'.2.2 = some f →
      f.width = s.1.captureFormat.width ∧ f.height = s.1.captureFormat.height

structure Steady (s s' : Negotiating ω) : Prop where
  isOpen : s'.1.v4l2.isOpen = s.1.v4l2.isOpen
  captureFormat : s'.1.captureFormat = s.1.captureFormat
  record : s'.2.2 = s.2.2

structure Opened (s s' : Negotiating ω) : Prop where
  wasClosed : s.1.v4l2.isOpen = false
  isOpen : s'.1.v4l2.isOpen = true
  captureFormat : s'.1.captureFormat = s.1.captureFormat
  record : ∃ f, s'.2.2 = some f ∧ f.pixelformat = s.1.captureFormat.pixelformat

variable {k drv uvc} {s s' s'' : Negotiating ω}

theorem Steady.refl (s : Negotiating ω) : Steady s s := ⟨rfl, rfl, rfl⟩

theorem Steady.trans (h : Steady s s') (h' : Steady s' s'') : Steady s s'' :=
  ⟨h'.isOpen.trans h.isOpen, h'.captureFormat.trans h.captureFormat, h'.record.trans h.record⟩

theorem Opened.steady (h : Opened s s') (h' : Steady s' s'') : Opened s s'' := by
  refine ⟨h.wasClosed, h'.isOpen.trans h.isOpen, h'.captureFormat.trans h.captureFormat, ?_⟩
  rw [h'.record]
  exact h.record

theorem labels_iff : Labels k s ↔ (s.1.v4l2.isOpen = true → ∃ f, s.2.2 = some f ∧
    s.1.captureFormat.width = f.width ∧ s.1.captureFormat.height = f.height ∧
      s.1.captureFormat.pixelformat = f.pixelformat) := by
  refine imp_congr_right fun _ ↦ exists_congr fun f ↦ and_congr_right fun _ ↦ ?_
  constructor
  · intro h
    exact h ⟨0, none, 0, 0, 0⟩ 0
  · intro h view now
    exact h

theorem Labels.steady (h : Labels k s) (hs : Steady s s') : Labels k s' := by
  rw [labels_iff] at h ⊢
  rw [hs.isOpen, hs.captureFormat, hs.record]
  exact h

theorem labels_of_closed (h : s.1.v4l2.isOpen = false) : Labels k s := by
  intro ho
  rw [h] at ho
  cases ho

variable (uvc) in
theorem tryOpenMetadataNode_steady (c : CameraDevice) (w : Recorded ω) :
    Steady (c, w) (tryOpenMetadataNode uvc.recording c w) := by
  unfold tryOpenMetadataNode
  dsimp only
  split
  · exact ⟨rfl, rfl, rfl⟩
  rcases hi : UvcDevice.inspectNode uvc.recording c.config.metadataNode w with ⟨r, w₁⟩
  have hw₁ : w₁.2 = w.2 := (inspectNode_keepsRecord uvc c.config.metadataNode).of_eq hi
  cases r with
  | error e => exact ⟨rfl, rfl, hw₁⟩
  | ok info =>
    dsimp only
    split
    · exact ⟨rfl, rfl, hw₁⟩
    have ho := openNode_record uvc c.config.metadataNode c.metadataReader w₁
    rcases hx : c.metadataReader.openNode uvc.recording c.config.metadataNode w₁
      with ⟨r, reader, w₂⟩
    rw [hx] at ho
    cases r <;> exact ⟨rfl, rfl, ho.trans hw₁⟩

variable (drv) in
theorem abandonOpen_closed_node (e : Status) (c : CameraDevice) (w : Recorded ω) :
    (abandonOpen drv.recording e c w).2.1.v4l2.isOpen = false :=
  congrArg V4L2Device.isOpen (V4L2Device.closeDevice_node drv.recording c.v4l2 w)

variable (drv uvc) in
theorem configureNode_cases {c : CameraDevice} (ho : c.v4l2.isOpen = true) (w : Recorded ω) :
    let s' := (configureNode k drv.recording uvc.recording c w).2
    s'.1.v4l2.isOpen = false ∨
      s'.1.v4l2.isOpen = true ∧ s'.1.captureFormat = c.captureFormat ∧
        ∃ f, s'.2.2 = some f ∧ f.pixelformat = c.captureFormat.pixelformat := by
  intro s'
  have hs' : s' = (configureNode k drv.recording uvc.recording c w).2 := rfl
  obtain ⟨capability, hc⟩ := describeNode_capability drv.recording c w
  unfold configureNode at hs'
  rcases hd : describeNode drv.recording c w with ⟨c₁, w₁⟩
  rw [hd] at hc hs'
  obtain rfl : c₁ = { c with capability := capability } := hc
  dsimp only at hs'
  rcases hf : c.v4l2.setFormat drv.recording c.captureFormat w₁ with ⟨r, w₂⟩
  rw [hf] at hs'
  cases r with
  | error e =>
    left
    rw [hs']
    exact abandonOpen_closed_node drv e _ w₂
  | ok u =>
    obtain ⟨f, hrec, hp⟩ := V4L2Device.setFormat_record hf
    dsimp only at hs'
    have hsame := V4L2Device.requestBuffers_sameNode drv.recording 4 c.v4l2 w₂
    have hq := V4L2Device.requestBuffers_record drv c.v4l2 4 w₂
    rcases hx : c.v4l2.requestBuffers drv.recording 4 w₂ with ⟨r, d, w₃⟩
    rw [hx] at hsame hq hs'
    cases r with
    | error e =>
      left
      rw [hs']
      exact abandonOpen_closed_node drv e _ w₃
    | ok u =>
      right
      dsimp only at hs'
      have hopen : d.isOpen = true := hsame.1.trans ho
      split at hs'
      · have hm := tryOpenMetadataNode_steady uvc (clearError
          { c with
            v4l2 := d
            capability := { capability with hasVideoNode := true }
            status := { c.status with opened := true, online := true, state := .opened } }) w₃
        rw [hs']
        exact ⟨hm.isOpen.trans hopen, hm.captureFormat, f, hm.record.trans (hq.trans hrec), hp⟩
      · rw [hs']
        exact ⟨hopen, rfl, f, hq.trans hrec, hp⟩

def Ends (s s' : Negotiating ω) : Prop :=
  s'.1.v4l2.isOpen = false ∨ Steady s s' ∨ Opened s s'

theorem Ends.steady (h : Ends s s') (h' : Steady s' s'') : Ends s s'' := by
  rcases h with h | h | h
  · exact .inl (h'.isOpen.trans h)
  · exact .inr (.inl (h.trans h'))
  · exact .inr (.inr (h.steady h'))

variable (drv uvc) in
theorem open_ends (c : CameraDevice) (w : Recorded ω) :
    Ends (c, w) (CameraDevice.open k drv.recording uvc.recording c w).2 := by
  unfold CameraDevice.open
  split
  · exact .inr (.inl ⟨rfl, rfl, rfl⟩)
  split
  · exact .inr (.inl ⟨rfl, rfl, rfl⟩)
  split
  · exact .inr (.inl (.refl _))
  rename_i ho
  have hclosed : c.v4l2.isOpen = false := by simpa using ho
  rcases hi : UvcDevice.inspectNode uvc.recording c.config.videoNode w with ⟨r, w₁⟩
  cases r with
  | error e => exact .inl hclosed
  | ok info =>
    dsimp only
    split
    · exact .inl hclosed
    rcases hx : c.v4l2.openDevice drv.recording c.config.videoNode false w₁ with ⟨r, d, w₂⟩
    cases r with
    | error e =>
      obtain rfl := V4L2Device.openDevice_error hx
      exact .inl hclosed
    | ok u =>
      have hd : ({ c with v4l2 := d } : CameraDevice).v4l2.isOpen = true :=
        (V4L2Device.openDevice_ok hx).1
      rcases configureNode_cases (k := k) drv uvc hd w₂ with h | ⟨hopen, hf, hr⟩
      · exact .inl h
      · exact .inr (.inr ⟨hclosed, hopen, hf, hr⟩)

variable (drv) in
theorem startStreaming_steady (c : CameraDevice) (w : Recorded ω) :
    Steady (c, w) (startStreaming drv.recording c w).2 := by
  have hr := V4L2Device.startStream_record drv c.v4l2 w
  unfold startStreaming
  rcases hx : c.v4l2.startStream drv.recording w with ⟨r, d, w₁⟩
  rw [hx] at hr
  cases r with
  | error e =>
    obtain ⟨rfl, -⟩ := V4L2Device.startStream_error hx
    exact ⟨rfl, rfl, hr⟩
  | ok u =>
    obtain ⟨rfl, -⟩ := V4L2Device.startStream_ok hx
    exact ⟨rfl, rfl, hr⟩

variable (drv uvc) in
theorem start_ends (c : CameraDevice) (w : Recorded ω) :
    Ends (c, w) (CameraDevice.start k drv.recording uvc.recording c w).2 := by
  unfold CameraDevice.start
  split
  · have hopen := open_ends (k := k) drv uvc c w
    rcases hx : CameraDevice.open k drv.recording uvc.recording c w with ⟨r, c₁, w₁⟩
    rw [hx] at hopen
    cases r with
    | error e => exact hopen
    | ok u => exact hopen.steady (startStreaming_steady drv c₁ w₁)
  · exact .inr (.inl (startStreaming_steady drv c w))

variable (uvc) in
theorem attachMetadata_keeps (frame : CameraFrame) (c : CameraDevice) (w : Recorded ω) :
    let r := attachMetadata k uvc.recording frame c w
    (∀ f, r.1.LabelledAs f ↔ frame.LabelledAs f) ∧ Steady (c, w) r.2 := by
  intro r
  have hr : r = attachMetadata k uvc.recording frame c w := rfl
  unfold attachMetadata tryAttachMetadata at hr
  split at hr
  · split at hr
    · rw [hr]
      exact ⟨fun _ ↦ Iff.rfl, .refl _⟩
    · rcases hx : c.metadataReader.readPacket uvc.recording 1 4096 w with ⟨p, w₁⟩
      have hw₁ : w₁.2 = w.2 := (readPacket_keepsRecord uvc 1 4096 c.metadataReader).of_eq hx
      rw [hx] at hr
      cases p <;>
      · rw [hr]
        exact ⟨fun _ ↦ Iff.rfl, rfl, rfl, hw₁⟩
  · rw [hr]
    exact ⟨fun _ ↦ Iff.rfl, .refl _⟩

variable (k drv uvc) in
theorem readFrame_keeps (timeoutMs : Int32) (c : CameraDevice) (w : Recorded ω) :
    let r := readFrame k drv.recording uvc.recording timeoutMs c w
    (∀ frame, r.1 = .ok frame → c.v4l2.streaming = true ∧ frame.LabelledAs c.captureFormat) ∧
      Steady (c, w) r.2 := by
  intro r
  have hr : r = readFrame k drv.recording uvc.recording timeoutMs c w := rfl
  unfold readFrame at hr
  split at hr
  · rw [hr]
    refine ⟨fun frame hf ↦ ?_, .refl _⟩
    cases hf
  rename_i hstreaming
  rcases hx : c.v4l2.dequeueBuffer drv.recording timeoutMs w with ⟨v, w₁⟩
  have hw₁ : w₁.2 = w.2 := (V4L2Device.dequeueBuffer_keepsRecord drv c.v4l2 timeoutMs).of_eq hx
  rw [hx] at hr
  cases v with
  | error e =>
    rw [hr]
    refine ⟨fun frame hf ↦ ?_, rfl, rfl, hw₁⟩
    cases hf
  | ok view =>
    dsimp only at hr
    obtain ⟨hlabel, hsteady⟩ := attachMetadata_keeps uvc (k := k)
      (frameOf k view (uvc.recording.nowMs w₁).1 c) { c with sequence := c.sequence + 1 }
      (uvc.recording.nowMs w₁).2
    rcases ha : attachMetadata k uvc.recording (frameOf k view (uvc.recording.nowMs w₁).1 c)
      { c with sequence := c.sequence + 1 } (uvc.recording.nowMs w₁).2 with ⟨frame, c₁, w₂⟩
    rw [ha] at hlabel hsteady hr
    dsimp only at hlabel hr
    have hw₂ : w₂.2 = w.2 := hsteady.record.trans hw₁
    rcases hq : c₁.v4l2.enqueueBuffer drv.recording view.index w₂ with ⟨q, w₃⟩
    have hw₃ : w₃.2 = w.2 :=
      ((V4L2Device.enqueueBuffer_keepsRecord drv c₁.v4l2 view.index).of_eq hq).trans hw₂
    rw [hq] at hr
    have hs₃ : Steady (c, w) (c₁, w₃) := ⟨hsteady.isOpen, hsteady.captureFormat, hw₃⟩
    cases q with
    | error e =>
      rw [hr]
      refine ⟨fun frame hf ↦ ?_, hs₃⟩
      cases hf
    | ok u =>
      rw [hr]
      refine ⟨fun frame' hf ↦ ?_, hs₃.isOpen, hs₃.captureFormat, hs₃.record⟩
      obtain rfl : frame = frame' := Except.ok.inj hf
      exact ⟨by simpa using hstreaming, (hlabel c.captureFormat).mpr ⟨rfl, rfl, rfl⟩⟩

variable (drv) in
theorem stop_steady (c : CameraDevice) (w : Recorded ω) :
    Steady (c, w) (stop drv.recording c w).2 := by
  have hr := V4L2Device.stopStream_record drv c.v4l2 w
  have hn := V4L2Device.stopStream_node drv.recording c.v4l2 w
  unfold stop
  split
  · exact .refl _
  rcases hx : c.v4l2.stopStream drv.recording w with ⟨r, d, w₁⟩
  rw [hx] at hr hn
  dsimp only at hn
  subst hn
  cases r with
  | error e => exact ⟨rfl, rfl, hr⟩
  | ok u => exact ⟨rfl, rfl, hr⟩

def StreamOpen (c : CameraDevice) : Prop := c.v4l2.streaming = true → c.v4l2.isOpen = true

section Streams

variable (k) (drv : V4L2Driver ω) (uvc : UvcNodes ω) {c : CameraDevice} {w : ω}

theorem StreamOpen.off (h : StreamOpen c) (ho : c.v4l2.isOpen = false) :
    c.v4l2.streaming = false := by
  cases hs : c.v4l2.streaming with
  | false => rfl
  | true => exact absurd (h hs) (ho ▸ Bool.false_ne_true)

theorem streamOpen_of_off (h : c.v4l2.streaming = false) : StreamOpen c := by
  intro hs
  rw [h] at hs
  cases hs

theorem open_streamOpen (h : StreamOpen c) :
    StreamOpen (CameraDevice.open k drv uvc c w).2.1 := by
  cases hs : c.v4l2.streaming with
  | false => exact streamOpen_of_off (open_streaming k drv uvc w hs)
  | true =>
    unfold CameraDevice.open
    split
    · exact h
    split
    · exact h
    split
    · exact h
    · rename_i ho
      exact absurd (h hs) ho

theorem startStreaming_streamOpen (h : StreamOpen c) :
    StreamOpen (startStreaming drv c w).2.1 := by
  unfold startStreaming
  rcases hx : c.v4l2.startStream drv w with ⟨r, d, w₁⟩
  cases r with
  | error e =>
    obtain ⟨rfl, -⟩ := V4L2Device.startStream_error hx
    exact h
  | ok u =>
    obtain ⟨rfl, hopen⟩ := V4L2Device.startStream_ok hx
    intro _
    cases hs : c.v4l2.streaming with
    | false => exact hopen hs
    | true => exact h hs

theorem start_streamOpen (h : StreamOpen c) :
    StreamOpen (CameraDevice.start k drv uvc c w).2.1 := by
  unfold CameraDevice.start
  split
  · have hopen := open_streamOpen k drv uvc h (w := w)
    rcases hx : CameraDevice.open k drv uvc c w with ⟨r, c₁, w₁⟩
    rw [hx] at hopen
    cases r with
    | error e => exact hopen
    | ok u => exact startStreaming_streamOpen drv hopen
  · exact startStreaming_streamOpen drv h

theorem stop_streamOpen (h : StreamOpen c) : StreamOpen (stop drv c w).2.1 := by
  rcases stop_device drv c w with ⟨-, he⟩ | he | ⟨code, message, he⟩
  · rw [he]
    exact h
  · rw [he]
    exact streamOpen_of_off rfl
  · rw [he]
    exact streamOpen_of_off rfl

theorem close_off (h : StreamOpen c) :
    (close k drv uvc c w).1.v4l2.isOpen = false ∧
      (close k drv uvc c w).1.v4l2.streaming = false := by
  unfold close
  obtain ⟨hv, -⟩ := closeMetadata_off uvc (k := k) c w
  rcases hm : closeMetadata k uvc c w with ⟨c₁, w₁⟩
  rw [hm] at hv
  dsimp only at hv ⊢
  obtain ⟨hopen, hoff, -⟩ := closeVideo_off drv c₁ w₁ (by
    rw [hv]
    exact h.off)
  rcases hx : closeVideo drv c₁ w₁ with ⟨c₂, w₂⟩
  rw [hx] at hopen hoff
  exact ⟨hopen, hoff⟩

theorem init_v4l2 (config : CameraEndpointConfig) (c : CameraDevice) :
    (c.init k config).2.v4l2 = c.v4l2 := by
  unfold init
  dsimp only
  split
  · rfl
  · cases makeCaptureFormat config <;> rfl

theorem lifecycle_streamOpen (s : CameraDevice × ω) (a : LifecycleCall) (h : StreamOpen s.1) :
    StreamOpen (lifecycle k drv uvc s a).1 := by
  cases a with
  | init config =>
    change StreamOpen (s.1.init k config).2
    rw [StreamOpen, init_v4l2]
    exact h
  | run call =>
    cases call with
    | «open» => exact open_streamOpen k drv uvc h
    | start => exact start_streamOpen k drv uvc h
    | readFrame timeoutMs =>
      obtain ⟨_, _, _, _, _, _, he⟩ :
        SameStatus s.1 (readFrame k drv uvc timeoutMs s.1 s.2).2.1 :=
        readFrame_sameStatus timeoutMs s.1 s.2
      change StreamOpen (readFrame k drv uvc timeoutMs s.1 s.2).2.1
      rw [he]
      exact h
    | stop => exact stop_streamOpen drv h
    | close => exact streamOpen_of_off (close_off k drv uvc h).2

theorem init_captureFormat_of_ok {config : CameraEndpointConfig} {fmt : CaptureFormat}
    (he : config.enable = true) (hf : makeCaptureFormat config = .ok fmt) :
    (c.init k config).2.captureFormat = fmt := by
  simp [init, he, hf, clearError]

theorem init_captureFormat_of_not {config : CameraEndpointConfig}
    (h : ∀ fmt, config.enable = true → makeCaptureFormat config ≠ .ok fmt) :
    (c.init k config).2.captureFormat = c.captureFormat := by
  unfold init
  dsimp only
  split
  · rfl
  · rename_i he
    cases hf : makeCaptureFormat config with
    | error e => rfl
    | ok fmt => exact absurd hf (h fmt (by simpa using he))

end Streams

theorem init_labels_iff (config : CameraEndpointConfig) (h : Labels k s) :
    Labels k ((s.1.init k config).2, s.2) ↔ InitKeeps s (.init config) := by
  rw [labels_iff] at h ⊢
  dsimp only
  rw [init_v4l2]
  constructor
  · intro hl config' fmt hc ho he hf
    obtain rfl : config = config' := LifecycleCall.init.inj hc
    obtain ⟨f, hr, hw, hh, hp⟩ := h ho
    obtain ⟨f', hr', hw', hh', hp'⟩ := hl ho
    obtain rfl : f = f' := Option.some.inj (hr.symm.trans hr')
    rw [init_captureFormat_of_ok k he hf] at hw' hh' hp'
    exact ⟨hw'.trans hw.symm, hh'.trans hh.symm, hp'.trans hp.symm⟩
  · intro hk ho
    obtain ⟨f, hr, hw, hh, hp⟩ := h ho
    refine ⟨f, hr, ?_⟩
    by_cases hf : ∃ fmt, config.enable = true ∧ makeCaptureFormat config = .ok fmt
    · obtain ⟨fmt, he, hf⟩ := hf
      obtain ⟨hkw, hkh, hkp⟩ := hk config fmt rfl ho he hf
      rw [init_captureFormat_of_ok k he hf]
      exact ⟨hkw.trans hw, hkh.trans hh, hkp.trans hp⟩
    · rw [init_captureFormat_of_not k fun fmt he hfmt ↦ hf ⟨fmt, he, hfmt⟩]
      exact ⟨hw, hh, hp⟩

/-- A camera that has just been opened labels its frames with the negotiated format exactly
when it was granted the size it asked for. -/
theorem Ends.labels_iff (hl : Labels k s) (h : Ends s s') :
    Labels k s' ↔ (s.1.v4l2.isOpen = false → s'.1.v4l2.isOpen = true → ∀ f, s'.2.2 = some f →
      f.width = s.1.captureFormat.width ∧ f.height = s.1.captureFormat.height) := by
  rcases h with hclosed | hsteady | hopened
  · refine iff_of_true (labels_of_closed hclosed) fun _ ho ↦ ?_
    rw [hclosed] at ho
    cases ho
  · refine iff_of_true (hl.steady hsteady) fun hclosed ho ↦ ?_
    rw [hsteady.isOpen, hclosed] at ho
    cases ho
  · rw [CameraDevice.labels_iff, hopened.captureFormat]
    obtain ⟨f, hr, hp⟩ := hopened.record
    constructor
    · intro h _ ho f' hr'
      obtain ⟨f'', hr'', hw, hh, -⟩ := h ho
      obtain rfl : f' = f'' := Option.some.inj (hr'.symm.trans hr'')
      exact ⟨hw.symm, hh.symm⟩
    · intro h ho
      obtain ⟨hw, hh⟩ := h hopened.wasClosed ho f hr
      exact ⟨f, hr, hw.symm, hh.symm, hp.symm⟩

theorem initKeeps_run (call : CameraCall) : InitKeeps s (.run call) := by
  intro config fmt h
  cases h

theorem openGranted_init (config : CameraEndpointConfig) :
    OpenGranted k drv uvc s (.init config) := by
  intro h
  rcases h with h | h <;> cases h

theorem openGranted_run {call : CameraCall} (h : call ≠ .open ∧ call ≠ .start) :
    OpenGranted k drv uvc s (.run call) := by
  intro ha
  rcases ha with ha | ha
  · exact absurd (LifecycleCall.run.inj ha) h.1
  · exact absurd (LifecycleCall.run.inj ha) h.2

theorem stepLabels_iff_labels {a : LifecycleCall}
    (h : ∀ timeoutMs, a ≠ .run (.readFrame timeoutMs)) :
    StepLabels k drv uvc s a ↔ Labels k (lifecycle k drv.recording uvc.recording s a) :=
  and_iff_left fun timeoutMs _ ha ↦ absurd ha (h timeoutMs)

/-- One call keeps the labels true exactly when it neither reformats an open camera nor
opens one in another size than the one asked for. -/
theorem stepLabels_iff (hl : Labels k s) (hs : StreamOpen s.1) (a : LifecycleCall) :
    StepLabels k drv uvc s a ↔ InitKeeps s a ∧ OpenGranted k drv uvc s a := by
  cases a with
  | init config =>
    rw [stepLabels_iff_labels fun _ h ↦ LifecycleCall.noConfusion h,
      and_iff_left (openGranted_init config)]
    exact init_labels_iff config hl
  | run call =>
    rw [and_iff_right (initKeeps_run call)]
    cases call with
    | «open» =>
      rw [stepLabels_iff_labels (by simp)]
      refine ((open_ends drv uvc s.1 s.2).labels_iff hl).trans ?_
      exact ⟨fun h _ ↦ h, fun h ↦ h (.inl rfl)⟩
    | start =>
      rw [stepLabels_iff_labels (by simp)]
      refine ((start_ends drv uvc s.1 s.2).labels_iff hl).trans ?_
      exact ⟨fun h _ ↦ h, fun h ↦ h (.inr rfl)⟩
    | readFrame timeoutMs =>
      obtain ⟨hframe, hsteady⟩ := readFrame_keeps k drv uvc timeoutMs s.1 s.2
      refine iff_of_true ⟨hl.steady hsteady, fun t frame ht hr ↦ ?_⟩ (openGranted_run (by simp))
      obtain rfl : timeoutMs = t := by simpa using ht
      obtain ⟨hon, hw, hh, hp⟩ := hframe frame hr
      obtain ⟨f, hrec, hfw, hfh, hfp⟩ := labels_iff.mp hl (hs hon)
      exact ⟨f, hrec, hw.trans hfw, hh.trans hfh, hp.trans hfp⟩
    | stop =>
      rw [stepLabels_iff_labels (by simp)]
      exact iff_of_true (hl.steady (stop_steady drv s.1 s.2)) (openGranted_run (by simp))
    | close =>
      rw [stepLabels_iff_labels (by simp)]
      exact iff_of_true (labels_of_closed (close_off k drv.recording uvc.recording hs).1)
        (openGranted_run (by simp))

variable (k drv uvc)

/-- In a run of either camera from power on, over any driver, every frame is labelled with the
format negotiated by the open it was read under exactly when the driver grants each open the
size asked for and no `init` reformats an open camera. -/
theorem frames_labelled_iff (w : ω) (calls : List LifecycleCall) :
    Along (lifecycle k drv.recording uvc.recording) (StepLabels k drv uvc) ({}, w, none) calls ↔
      Along (lifecycle k drv.recording uvc.recording)
        (fun s a ↦ InitKeeps s a ∧ OpenGranted k drv uvc s a) ({}, w, none) calls := by
  have hI : ∀ (s : Negotiating ω) a, Labels k s ∧ StreamOpen s.1 → StepLabels k drv uvc s a →
      Labels k (lifecycle k drv.recording uvc.recording s a) ∧
        StreamOpen (lifecycle k drv.recording uvc.recording s a).1 :=
    fun s a hi hstep ↦ ⟨hstep.1, lifecycle_streamOpen k drv.recording uvc.recording s a hi.2⟩
  have h0 : Labels k (({}, w, none) : Negotiating ω) ∧ StreamOpen ({} : CameraDevice) :=
    ⟨labels_of_closed rfl, streamOpen_of_off rfl⟩
  constructor
  · intro h
    refine h.transfer (I := fun s ↦ Labels k s ∧ StreamOpen s.1) (fun s a hi hstep ↦ ?_) h0
    exact ⟨hI s a hi hstep, (stepLabels_iff hi.1 hi.2 a).mp hstep⟩
  · intro h
    refine h.transfer (I := fun s ↦ Labels k s ∧ StreamOpen s.1) (fun s a hi hc ↦ ?_) h0
    have hstep := (stepLabels_iff hi.1 hi.2 a).mpr hc
    exact ⟨hI s a hi hstep, hstep⟩

def adjusting (_ : ℕ) : CaptureKernel.Answer where
  cap := { capabilities := UvcDevice.V4L2_CAP_VIDEO_CAPTURE }
  format := { width := 1920, height := 1080, pixelformat := V4L2_PIX_FMT_MJPEG }

theorem adjusted_size_unlabelled :
    ¬∀ (k : CameraClass) (drv : V4L2Driver CaptureKernel.Kernel)
      (uvc : UvcNodes CaptureKernel.Kernel) (calls : List LifecycleCall) (timeoutMs : Int32)
      (frame : CameraFrame),
      let s := exec (lifecycle k drv.recording uvc.recording) ({}, {}, none) calls
      (readFrame k drv.recording uvc.recording timeoutMs s.1 s.2).1 = .ok frame →
        ∃ f, s.2.2 = some f ∧ frame.LabelledAs f := by
  intro h
  let s := exec (lifecycle VisibleCameraDevice (CaptureKernel.driver adjusting).recording
    (CaptureKernel.nodes adjusting).recording) ({}, {}, none) [.init camera, .run .start]
  let frame := frameOf VisibleCameraDevice ⟨0, some [], 0, 0, 0⟩ 0 s.1
  obtain ⟨f, hr, hw, -⟩ := h VisibleCameraDevice (CaptureKernel.driver adjusting)
    (CaptureKernel.nodes adjusting) [.init camera, .run .start] 100 frame (by decide +kernel)
  have hf : s.2.2 = some ⟨1920, 1080, V4L2_PIX_FMT_MJPEG, 30⟩ := by decide +kernel
  obtain rfl := Option.some.inj (hr.symm.trans hf)
  exact absurd hw (by decide +kernel)

end CameraDevice

end TriFusion.Device
