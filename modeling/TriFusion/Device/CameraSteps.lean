import TriFusion.Device.CameraDevice
import TriFusion.Hardware.CaptureKernel

namespace TriFusion.Device.CameraDevice

open Foundation Hardware Hardware.CaptureKernel

variable {k : CameraClass} {answers : ℕ → Answer} {c c' : CameraDevice} {n n' : Kernel}
  {r : Result Unit}

theorem abandonOpen_closed {e : Status}
    (he : c.abandonOpen (driver answers) e n = (r, c', n')) (hn : n'.ioctlFailed = false) :
    n.ioctlFailed = false ∧ Closed c'.v4l2 := by
  simp only [CameraDevice.abandonOpen, CameraDevice.rememberError, Prod.mk.injEq] at he
  obtain ⟨-, rfl, rfl⟩ := he
  exact closeDevice_closed rfl hn

theorem describeNode_device (he : c.describeNode (driver answers) n = (c', n')) :
    c'.v4l2 = c.v4l2 ∧ (n'.ioctlFailed = false → n.ioctlFailed = false) := by
  unfold CameraDevice.describeNode at he
  cases hx : c.v4l2.queryCapability (driver answers) n with
  | mk x n₁ =>
  rw [hx] at he
  have hcap (hn₁ : n₁.ioctlFailed = false) : n.ioctlFailed = false :=
    (xioctl_done (f := fun a q ↦ some (a.cap, q)) hx hn₁).1
  cases x <;>
  · dsimp only at he
    cases hy : c.v4l2.enumFormats (driver answers) n₁ with
    | mk y n₂ =>
    rw [hy] at he
    cases y <;>
    · obtain ⟨rfl, rfl⟩ := Prod.mk.inj he
      exact ⟨rfl, fun hn ↦ hcap (enumFormats_flag hy hn)⟩

theorem tryOpenMetadataNode_untouched
    (he : c.tryOpenMetadataNode (nodes answers) n = (c', n')) :
    Untouched n n' ∧ c'.v4l2 = c.v4l2 := by
  unfold CameraDevice.tryOpenMetadataNode at he
  dsimp only at he
  split at he
  · obtain ⟨rfl, rfl⟩ := Prod.mk.inj he
    exact ⟨⟨rfl, rfl⟩, rfl⟩
  · cases hi : UvcDevice.inspectNode (nodes answers) c.config.metadataNode n with
    | mk x n₁ =>
    have hu := inspectNode_untouched hi
    rw [hi] at he
    cases x with
    | error e =>
      obtain ⟨rfl, rfl⟩ := Prod.mk.inj he
      exact ⟨hu, rfl⟩
    | ok info =>
      dsimp only at he
      split at he
      · obtain ⟨rfl, rfl⟩ := Prod.mk.inj he
        exact ⟨hu, rfl⟩
      · cases hr : c.metadataReader.openNode (nodes answers) c.config.metadataNode n₁ with
        | mk y p =>
        obtain ⟨reader, n₂⟩ := p
        have hu₂ := hu.trans (openNode_untouched hr)
        rw [hr] at he
        cases y with
        | error e =>
          obtain ⟨rfl, rfl⟩ := Prod.mk.inj he
          exact ⟨hu₂, rfl⟩
        | ok u =>
          obtain ⟨rfl, rfl⟩ := Prod.mk.inj he
          exact ⟨hu₂, rfl⟩

theorem configureNode_fresh (ho : c.v4l2.fdOpen = true) (hst : c.v4l2.streaming = false)
    (hb : c.v4l2.buffers = [])
    (he : c.configureNode k (driver answers) (nodes answers) n = (r, c', n'))
    (hn : n'.ioctlFailed = false) : n.ioctlFailed = false ∧ Fresh c'.v4l2 n'.queue := by
  unfold CameraDevice.configureNode at he
  cases hd : c.describeNode (driver answers) n with
  | mk c₁ n₁ =>
  rw [hd] at he
  obtain ⟨hc₁, hdescribe⟩ := describeNode_device hd
  cases hf : c₁.v4l2.setFormat (driver answers) c₁.captureFormat n₁ with
  | mk x n₂ =>
  simp only [hf] at he
  cases x with
  | error e =>
    obtain ⟨hn₂, hc⟩ := abandonOpen_closed he hn
    exact ⟨hdescribe (setFormat_flag hf hn₂), .inl hc⟩
  | ok u =>
    cases hq : c₁.v4l2.requestBuffers (driver answers) 4 n₂ with
    | mk y p =>
    obtain ⟨d₃, n₃⟩ := p
    rw [hc₁] at hq hf
    simp only [hc₁, hq] at he
    have hrequest := requestBuffers_fresh ho hst hb hq
    cases y with
    | error e =>
      obtain ⟨hn₃, hc⟩ := abandonOpen_closed he hn
      exact ⟨hdescribe (setFormat_flag hf (hrequest hn₃).1), .inl hc⟩
    | ok u =>
      dsimp only at he
      split at he
      · cases hm : CameraDevice.tryOpenMetadataNode (nodes answers) _ n₃ with
        | mk c₄ n₄ =>
        rw [hm] at he
        obtain ⟨-, hp⟩ := Prod.mk.inj he
        obtain ⟨rfl, rfl⟩ := Prod.mk.inj hp
        obtain ⟨⟨hflag, hqueue⟩, hv⟩ := tryOpenMetadataNode_untouched hm
        obtain ⟨hn₂, hfresh⟩ := hrequest (hflag.symm.trans hn)
        rw [hv, hqueue]
        exact ⟨hdescribe (setFormat_flag hf hn₂), hfresh rfl⟩
      · obtain ⟨-, hp⟩ := Prod.mk.inj he
        obtain ⟨rfl, rfl⟩ := Prod.mk.inj hp
        obtain ⟨hn₂, hfresh⟩ := hrequest hn
        exact ⟨hdescribe (setFormat_flag hf hn₂), hfresh rfl⟩

theorem open_fresh (hs : Sound c.v4l2 n.queue)
    (he : CameraDevice.open k (driver answers) (nodes answers) c n = (r, c', n'))
    (hn : n'.ioctlFailed = false) :
    n.ioctlFailed = false ∧
      (Fresh c'.v4l2 n'.queue ∨ c'.v4l2 = c.v4l2 ∧ n'.queue = n.queue) := by
  unfold CameraDevice.open at he
  by_cases hcfg : c.status.configured = true
  · by_cases hen : c.status.enabled = true
    · by_cases ho : c.v4l2.isOpen = true
      · simp only [hcfg, hen, ho, Bool.not_true, Bool.false_eq_true, ↓reduceIte,
          Prod.mk.injEq] at he
        obtain ⟨-, rfl, rfl⟩ := he
        exact ⟨hn, .inr ⟨rfl, rfl⟩⟩
      · cases hi : UvcDevice.inspectNode (nodes answers) c.config.videoNode n with
        | mk x n₁ =>
        obtain ⟨hflag, hqueue⟩ := inspectNode_untouched hi
        simp only [hcfg, hen, ho, Bool.not_true, Bool.false_eq_true, ↓reduceIte, hi] at he
        cases x with
        | error e =>
          simp only [CameraDevice.rememberError, Prod.mk.injEq] at he
          obtain ⟨-, rfl, rfl⟩ := he
          exact ⟨hflag.symm.trans hn, .inr ⟨rfl, hqueue⟩⟩
        | ok info =>
          dsimp only at he
          split at he
          · simp only [CameraDevice.rememberError, Prod.mk.injEq] at he
            obtain ⟨-, rfl, rfl⟩ := he
            exact ⟨hflag.symm.trans hn, .inr ⟨rfl, hqueue⟩⟩
          · have hclosed : c.v4l2.fdOpen = false := by simpa [V4L2Device.isOpen] using ho
            obtain ⟨hst, hb⟩ := hs.closed hclosed
            cases hd : c.v4l2.openDevice (driver answers) c.config.videoNode false n₁ with
            | mk y p =>
            obtain ⟨d₂, n₂⟩ := p
            rw [hd] at he
            have hopen := openDevice_done hd
            cases y with
            | error e =>
              obtain ⟨hflag', hqueue', hd₂⟩ := hopen.1 e rfl
              simp only [CameraDevice.rememberError, Prod.mk.injEq] at he
              obtain ⟨-, rfl, rfl⟩ := he
              exact ⟨(hflag'.trans hflag).symm.trans hn, .inr ⟨hd₂, hqueue'.trans hqueue⟩⟩
            | ok u =>
              obtain ⟨hflag', hd₂⟩ := hopen.2 rfl
              have ho₂ : d₂.fdOpen = true := by rw [hd₂]
              have hst₂ : d₂.streaming = false := by rw [hd₂]; exact hst
              have hb₂ : d₂.buffers = [] := by rw [hd₂]; exact hb
              dsimp only at he
              generalize hc₂ : ({ c with v4l2 := d₂ } : CameraDevice) = c₂ at he
              have hv₂ : c₂.v4l2 = d₂ := by rw [← hc₂]
              rw [← hv₂] at ho₂ hst₂ hb₂
              obtain ⟨hn₂, hfresh⟩ := configureNode_fresh ho₂ hst₂ hb₂ he hn
              exact ⟨(hflag'.trans hflag).symm.trans hn₂, .inl hfresh⟩
    · simp only [hcfg, hen, Bool.not_true, Bool.not_false, Bool.false_eq_true, ↓reduceIte,
        CameraDevice.rememberError, Prod.mk.injEq] at he
      obtain ⟨-, rfl, rfl⟩ := he
      exact ⟨hn, .inr ⟨rfl, rfl⟩⟩
  · simp only [hcfg, Bool.not_false, ↓reduceIte, CameraDevice.rememberError, Prod.mk.injEq] at he
    obtain ⟨-, rfl, rfl⟩ := he
    exact ⟨hn, .inr ⟨rfl, rfl⟩⟩

theorem startStreaming_done (ho : c.v4l2.fdOpen = true)
    (he : c.startStreaming (driver answers) n = (r, c', n')) (hn : n'.ioctlFailed = false) :
    n.ioctlFailed = false ∧ c'.v4l2 = { c.v4l2 with streaming := true } ∧ n'.queue = n.queue := by
  unfold CameraDevice.startStreaming V4L2Device.startStream at he
  by_cases hst : c.v4l2.streaming = true
  · simp only [hst, ↓reduceIte, CameraDevice.clearError, Prod.mk.injEq] at he
    obtain ⟨-, rfl, rfl⟩ := he
    exact ⟨hn, by rw [← hst], rfl⟩
  · cases hx : c.v4l2.xioctl (driver answers).streamOn n with
    | mk x n₁ =>
    simp only [hst, Bool.false_eq_true, ↓reduceIte, hx] at he
    cases x with
    | error e =>
      simp only [CameraDevice.rememberError, Prod.mk.injEq] at he
      obtain ⟨-, rfl, rfl⟩ := he
      obtain ⟨v, hv, -⟩ := xioctl_open (f := fun _ q ↦ some ((), q)) ho hx hn
      exact (nomatch hv)
    | ok u =>
      simp only [CameraDevice.clearError, Prod.mk.injEq] at he
      obtain ⟨-, rfl, rfl⟩ := he
      obtain ⟨v, -, hq⟩ := xioctl_open (f := fun _ q ↦ some ((), q)) ho hx hn
      have hn₀ := (xioctl_done (f := fun _ q ↦ some ((), q)) hx hn).1
      exact ⟨hn₀, rfl, (Prod.mk.inj (Option.some.inj hq)).2.symm⟩

theorem tryAttachMetadata_untouched {frame frame' : CameraFrame}
    (he : c.tryAttachMetadata (nodes answers) frame n = (frame', c', n')) :
    Untouched n n' ∧ c'.v4l2 = c.v4l2 := by
  unfold CameraDevice.tryAttachMetadata at he
  split at he
  · simp only [Prod.mk.injEq] at he
    obtain ⟨-, rfl, rfl⟩ := he
    exact ⟨⟨rfl, rfl⟩, rfl⟩
  · cases hx : c.metadataReader.readPacket (nodes answers) 1 4096 n with
    | mk x n₁ =>
    rw [hx] at he
    have hu := readPacket_untouched hx
    cases x with
    | error e =>
      simp only [Prod.mk.injEq] at he
      obtain ⟨-, rfl, rfl⟩ := he
      exact ⟨hu, rfl⟩
    | ok pkt =>
      simp only [Prod.mk.injEq] at he
      obtain ⟨-, rfl, rfl⟩ := he
      exact ⟨hu, rfl⟩

theorem attachMetadata_untouched {frame frame' : CameraFrame}
    (he : c.attachMetadata k (nodes answers) frame n = (frame', c', n')) :
    Untouched n n' ∧ c'.v4l2 = c.v4l2 := by
  unfold CameraDevice.attachMetadata at he
  split at he
  · exact tryAttachMetadata_untouched he
  · simp only [Prod.mk.injEq] at he
    obtain ⟨-, rfl, rfl⟩ := he
    exact ⟨⟨rfl, rfl⟩, rfl⟩

theorem readFrame_sound {timeoutMs : Int32} {r : Result CameraFrame}
    (hs : Sound c.v4l2 n.queue)
    (he : c.readFrame k (driver answers) (nodes answers) timeoutMs n = (r, c', n'))
    (hn : n'.ioctlFailed = false) :
    n.ioctlFailed = false ∧ c'.v4l2 = c.v4l2 ∧ Sound c'.v4l2 n'.queue ∧
      n'.queue.streamedOff = n.queue.streamedOff := by
  unfold CameraDevice.readFrame at he
  by_cases hst : c.v4l2.streaming = true
  · cases hx : c.v4l2.dequeueBuffer (driver answers) timeoutMs n with
    | mk x n₁ =>
    simp only [hst, Bool.not_true, Bool.false_eq_true, ↓reduceIte, hx] at he
    have hdq := dequeueBuffer_done hs hx
    cases x with
    | error e =>
      simp only [Prod.mk.injEq] at he
      obtain ⟨-, rfl, rfl⟩ := he
      obtain ⟨hn₀, ⟨-, hq⟩ | ⟨view, hv, -⟩⟩ := hdq hn
      · refine ⟨hn₀, rfl, ?_, by rw [hq]⟩
        rw [hq]
        exact hs
      · exact (nomatch hv)
    | ok view =>
      dsimp only at he
      cases ha : CameraDevice.attachMetadata k (nodes answers)
          (CameraDevice.frameOf k view ((nodes answers).nowMs n₁).1 c)
          { c with sequence := c.sequence + 1 } ((nodes answers).nowMs n₁).2 with
      | mk frame p =>
      obtain ⟨c₂, n₂⟩ := p
      obtain ⟨⟨hflag, hqueue⟩, hv⟩ := attachMetadata_untouched ha
      rw [ha] at he
      cases hz : c₂.v4l2.enqueueBuffer (driver answers) view.index n₂ with
      | mk z n₃ =>
      have hend : n₃ = n' ∧ c'.v4l2 = c.v4l2 := by
        simp only [hz] at he
        cases z <;>
        · simp only [Prod.mk.injEq] at he
          obtain ⟨-, rfl, rfl⟩ := he
          exact ⟨rfl, hv⟩
      obtain ⟨rfl, hc'⟩ := hend
      have hn₁ : n₁.ioctlFailed = false := hflag.symm.trans (enqueueBuffer_done hz hn).1
      have hq₂ : n₂.queue = n₁.queue := hqueue
      obtain ⟨hn₀, ⟨⟨e, hv'⟩, -⟩ | ⟨view', hv', hmem, hq₁⟩⟩ := hdq hn₁
      · exact (nomatch hv')
      · obtain rfl := Except.ok.inj hv'
        have ho := hs.fdOpen hst
        have hput := hs.putBack hmem
        have hlt : view.index < c₂.v4l2.buffers.length := by
          rw [hv]
          cases hoff : n.queue.streamedOff with
          | false => exact (hs.queued ho hoff view.index).mp hmem
          | true =>
            rw [hs.emptied ho hoff] at hmem
            exact (nomatch hmem)
        have ho₂ : c₂.v4l2.fdOpen = true := by
          rw [hv]
          exact ho
        have hq₃ := (enqueueBuffer_open ho₂ hlt hz hn).2
        rw [hq₂, hq₁] at hq₃
        refine ⟨hn₀, hc', ?_, by rw [hq₃]⟩
        rw [hc', hq₃]
        exact hput
  · simp only [hst, Bool.not_false, ↓reduceIte, Prod.mk.injEq] at he
    obtain ⟨-, rfl, rfl⟩ := he
    exact ⟨hn, rfl, hs, rfl⟩

theorem stop_sound (hs : Sound c.v4l2 n.queue)
    (he : c.stop (driver answers) n = (r, c', n')) (hn : n'.ioctlFailed = false) :
    n.ioctlFailed = false ∧ Sound c'.v4l2 n'.queue ∧ c'.v4l2.streaming = false := by
  unfold CameraDevice.stop at he
  by_cases ho : c.v4l2.isOpen = true
  · cases hx : c.v4l2.stopStream (driver answers) n with
    | mk x p =>
    obtain ⟨d₁, n₁⟩ := p
    simp only [ho, Bool.not_true, Bool.false_eq_true, ↓reduceIte, hx] at he
    have hend : n₁ = n' ∧ c'.v4l2 = d₁ := by
      cases x <;>
      · simp only [CameraDevice.rememberError, CameraDevice.setError, Prod.mk.injEq] at he
        obtain ⟨-, rfl, rfl⟩ := he
        exact ⟨rfl, rfl⟩
    obtain ⟨rfl, hd⟩ := hend
    rw [hd]
    exact stopStream_sound hs hx hn
  · simp only [ho, Bool.not_false, ↓reduceIte, Prod.mk.injEq] at he
    obtain ⟨-, rfl, rfl⟩ := he
    have hclosed : c.v4l2.fdOpen = false := by simpa [V4L2Device.isOpen] using ho
    exact ⟨hn, hs, (hs.closed hclosed).1⟩

theorem closeVideo_closed (hs : Sound c.v4l2 n.queue)
    (he : c.closeVideo (driver answers) n = (c', n')) (hn : n'.ioctlFailed = false) :
    n.ioctlFailed = false ∧ Closed c'.v4l2 := by
  unfold CameraDevice.closeVideo at he
  by_cases ho : c.v4l2.isOpen = true
  · cases hx : c.stop (driver answers) n with
    | mk x p =>
    obtain ⟨c₁, n₁⟩ := p
    cases hy : c₁.v4l2.closeDevice (driver answers) n₁ with
    | mk d₂ n₂ =>
    simp only [ho, ↓reduceIte, hx, hy, Prod.mk.injEq] at he
    obtain ⟨rfl, rfl⟩ := he
    obtain ⟨hn₁, hc⟩ := closeDevice_closed hy hn
    exact ⟨(stop_sound hs hx hn₁).1, hc⟩
  · simp only [ho, Bool.false_eq_true, ↓reduceIte, Prod.mk.injEq] at he
    obtain ⟨rfl, rfl⟩ := he
    have hclosed : c.v4l2.fdOpen = false := by simpa [V4L2Device.isOpen] using ho
    exact ⟨hn, hclosed, hs.closed hclosed⟩

theorem close_closed (hs : Sound c.v4l2 n.queue)
    (he : c.close k (driver answers) (nodes answers) n = (c', n')) (hn : n'.ioctlFailed = false) :
    n.ioctlFailed = false ∧ Closed c'.v4l2 := by
  unfold CameraDevice.close at he
  cases hx : c.closeMetadata k (nodes answers) n with
  | mk c₁ n₁ =>
  have hm : c₁.v4l2 = c.v4l2 ∧ n₁ = n := by
    unfold CameraDevice.closeMetadata UvcMetadataReader.closeNode at hx
    split at hx
    · obtain ⟨rfl, rfl⟩ := Prod.mk.inj hx
      exact ⟨rfl, ite_self n⟩
    · obtain ⟨rfl, rfl⟩ := Prod.mk.inj hx
      exact ⟨rfl, rfl⟩
  obtain ⟨hv, rfl⟩ := hm
  cases hy : c₁.closeVideo (driver answers) n₁ with
  | mk c₂ n₂ =>
  simp only [hx, hy, Prod.mk.injEq] at he
  obtain ⟨rfl, rfl⟩ := he
  have hclosed := closeVideo_closed (hv ▸ hs) hy hn
  exact hclosed

end TriFusion.Device.CameraDevice
