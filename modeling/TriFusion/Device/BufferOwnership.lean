import TriFusion.Device.CameraSteps
import TriFusion.Library.Runs

namespace TriFusion.Device

open Foundation Hardware Hardware.CaptureKernel Library.Runs

inductive CameraCall
  | «open»
  | start
  | readFrame (timeoutMs : Int32)
  | stop
  | close
  deriving DecidableEq

namespace CameraDevice

variable (k : CameraClass) (answers : ℕ → Answer)

def call (s : CameraDevice × Kernel) : CameraCall → CameraDevice × Kernel
  | .open => (CameraDevice.open k (driver answers) (nodes answers) s.1 s.2).2
  | .start => (CameraDevice.start k (driver answers) (nodes answers) s.1 s.2).2
  | .readFrame timeoutMs => (readFrame k (driver answers) (nodes answers) timeoutMs s.1 s.2).2
  | .stop => (stop (driver answers) s.1 s.2).2
  | .close => close k (driver answers) (nodes answers) s.1 s.2

/-- A streaming device has every mapped buffer queued to the driver. -/
def Owned (s : CameraDevice × Kernel) : Prop :=
  s.1.v4l2.streaming = true → ∀ i < s.1.v4l2.buffers.length, i ∈ s.2.queue.queued

/-- A start on a device that is still open after a STREAMOFF. -/
def Restart (s : CameraDevice × Kernel) (a : CameraCall) : Prop :=
  a = .start ∧ s.1.v4l2.fdOpen = true ∧ s.1.v4l2.streaming = false ∧
    s.2.queue.streamedOff = true

def Kept (s : CameraDevice × Kernel) : Prop :=
  Sound s.1.v4l2 s.2.queue ∧ (s.1.v4l2.streaming = true → s.2.queue.streamedOff = false)

theorem Kept.owned {s : CameraDevice × Kernel} (h : Kept s) : Owned s := by
  intro hst i hi
  exact (h.1.queued (h.1.fdOpen hst) (h.2 hst) i).mpr hi

variable {k answers} {s : CameraDevice × Kernel}

theorem startStreaming_closed {c c' : CameraDevice} {n n' : Kernel} {r : Result Unit}
    (ho : c.v4l2.fdOpen = false) (he : c.startStreaming (driver answers) n = (r, c', n')) :
    c'.v4l2 = c.v4l2 ∧ n' = n := by
  cases hst : c.v4l2.streaming with
  | true =>
    simp only [startStreaming, V4L2Device.startStream, hst, ↓reduceIte, clearError,
      Prod.mk.injEq] at he
    obtain ⟨-, rfl, rfl⟩ := he
    exact ⟨by rw [← hst], rfl⟩
  | false =>
    simp only [startStreaming, V4L2Device.startStream, V4L2Device.xioctl, V4L2Device.isOpen, ho,
      hst, Bool.not_false, Bool.false_eq_true, ↓reduceIte, Result.fail, rememberError, setError,
      Prod.mk.injEq] at he
    obtain ⟨-, rfl, rfl⟩ := he
    exact ⟨rfl, rfl⟩

theorem kept_of_fresh {c : CameraDevice} {n : Kernel} (h : Fresh c.v4l2 n.queue) : Kept (c, n) := by
  refine ⟨h.sound, fun hst ↦ ?_⟩
  rcases h with ⟨-, hoff, -⟩ | ⟨-, hoff, -⟩ <;>
  · rw [hoff] at hst
    exact (nomatch hst)

theorem start_done {c c' : CameraDevice} {n n' : Kernel} {r : Result Unit}
    (hs : Sound c.v4l2 n.queue)
    (he : CameraDevice.start k (driver answers) (nodes answers) c n = (r, c', n'))
    (hn : n'.ioctlFailed = false) :
    n.ioctlFailed = false ∧
      (c.v4l2.fdOpen = true ∧ c'.v4l2 = { c.v4l2 with streaming := true } ∧ n'.queue = n.queue ∨
        c.v4l2.fdOpen = false ∧ Kept (c', n')) := by
  unfold CameraDevice.start at he
  by_cases ho : c.v4l2.isOpen = true
  · simp only [ho, Bool.not_true, Bool.false_eq_true, ↓reduceIte] at he
    obtain ⟨hn₀, hv, hq⟩ := startStreaming_done ho he hn
    exact ⟨hn₀, .inl ⟨ho, hv, hq⟩⟩
  · have hclosed : c.v4l2.fdOpen = false := by simpa [V4L2Device.isOpen] using ho
    cases hx : CameraDevice.open k (driver answers) (nodes answers) c n with
    | mk x p =>
    obtain ⟨c₁, n₁⟩ := p
    simp only [ho, Bool.not_false, ↓reduceIte, hx] at he
    have hfresh (hn₁ : n₁.ioctlFailed = false) :
        n.ioctlFailed = false ∧ Fresh c₁.v4l2 n₁.queue := by
      obtain ⟨hn₀, h | ⟨hv, -⟩⟩ := open_fresh hs hx hn₁
      · exact ⟨hn₀, h⟩
      · refine ⟨hn₀, .inl ?_⟩
        rw [hv]
        exact ⟨hclosed, hs.closed hclosed⟩
    cases x with
    | error e =>
      simp only [Prod.mk.injEq] at he
      obtain ⟨-, rfl, rfl⟩ := he
      obtain ⟨hn₀, h⟩ := hfresh hn
      exact ⟨hn₀, .inr ⟨hclosed, kept_of_fresh h⟩⟩
    | ok u =>
      dsimp only at he
      cases ho₁ : c₁.v4l2.fdOpen with
      | true =>
        obtain ⟨hn₁, hv, hq⟩ := startStreaming_done ho₁ he hn
        obtain ⟨hn₀, hf⟩ := hfresh hn₁
        have hoff : n₁.queue.streamedOff = false := by
          rcases hf with ⟨hc, -⟩ | ⟨-, -, -, hoff, -⟩
          · rw [hc] at ho₁
            cases ho₁
          · exact hoff
        refine ⟨hn₀, .inr ⟨hclosed, ?_, fun _ ↦ hq ▸ hoff⟩⟩
        rw [hv, hq]
        exact hf.sound.turnOn ho₁
      | false =>
        obtain ⟨hv, rfl⟩ := startStreaming_closed ho₁ he
        obtain ⟨hn₀, hf⟩ := hfresh hn
        rw [← hv] at hf
        exact ⟨hn₀, .inr ⟨hclosed, kept_of_fresh hf⟩⟩

/-- One call made without a failed ioctl: only a restart makes the driver lose buffers. -/
theorem call_kept (a : CameraCall) (hs : Sound s.1.v4l2 s.2.queue)
    (hn : (call k answers s a).2.ioctlFailed = false) :
    s.2.ioctlFailed = false ∧ Sound (call k answers s a).1.v4l2 (call k answers s a).2.queue ∧
      (Kept s → ¬ Restart s a → Kept (call k answers s a)) ∧
      (Restart s a → ¬ Owned (call k answers s a)) := by
  obtain ⟨c, n⟩ := s
  dsimp only at hs
  cases a with
  | «open» =>
    cases he : CameraDevice.open k (driver answers) (nodes answers) c n with
    | mk r p =>
    obtain ⟨c', n'⟩ := p
    simp only [call, he] at hn ⊢
    obtain ⟨hn₀, h⟩ := open_fresh hs he hn
    rcases h with h | ⟨hv, hq⟩
    · exact ⟨hn₀, h.sound, fun _ _ ↦ kept_of_fresh h, fun h ↦ (nomatch h.1)⟩
    · rw [hv, hq]
      refine ⟨hn₀, hs, fun hk _ ↦ ?_, fun h ↦ (nomatch h.1)⟩
      rw [Kept, hv, hq]
      exact hk
  | start =>
    cases he : CameraDevice.start k (driver answers) (nodes answers) c n with
    | mk r p =>
    obtain ⟨c', n'⟩ := p
    simp only [call, he] at hn ⊢
    obtain ⟨hn₀, ⟨ho, hv, hq⟩ | ⟨ho, h⟩⟩ := start_done hs he hn
    · have hon := hs.turnOn ho
      rw [← hv, ← hq] at hon
      refine ⟨hn₀, hon, fun hk hr ↦ ⟨hon, fun _ ↦ ?_⟩, fun hr hown ↦ ?_⟩
      · rw [hq]
        cases hst : c.v4l2.streaming with
        | true => exact hk.2 hst
        | false => exact Bool.not_eq_true _ ▸ fun h ↦ hr ⟨rfl, ho, hst, h⟩
      · rw [Owned, hv, hq] at hown
        have hlen : 0 < c.v4l2.buffers.length := Nat.lt_of_lt_of_le Nat.two_pos (hs.buffers ho)
        have hmem := hown rfl 0 hlen
        rw [hs.emptied ho hr.2.2.2] at hmem
        exact (nomatch hmem)
    · refine ⟨hn₀, h.1, fun _ _ ↦ h, fun hr ↦ ?_⟩
      have hopen : c.v4l2.fdOpen = true := hr.2.1
      rw [ho] at hopen
      exact (nomatch hopen)
  | readFrame timeoutMs =>
    cases he : readFrame k (driver answers) (nodes answers) timeoutMs c n with
    | mk r p =>
    obtain ⟨c', n'⟩ := p
    simp only [call, he] at hn ⊢
    obtain ⟨hn₀, hv, h, hstreamed⟩ := readFrame_sound hs he hn
    refine ⟨hn₀, h, fun hk _ ↦ ⟨h, ?_⟩, fun h ↦ (nomatch h.1)⟩
    rw [hv, hstreamed]
    exact hk.2
  | stop =>
    cases he : stop (driver answers) c n with
    | mk r p =>
    obtain ⟨c', n'⟩ := p
    simp only [call, he] at hn ⊢
    obtain ⟨hn₀, h, hst⟩ := stop_sound hs he hn
    refine ⟨hn₀, h, fun _ _ ↦ ⟨h, fun hst' ↦ ?_⟩, fun h ↦ (nomatch h.1)⟩
    rw [hst] at hst'
    exact (nomatch hst')
  | close =>
    cases he : close k (driver answers) (nodes answers) c n with
    | mk c' n' =>
    simp only [call, he] at hn ⊢
    obtain ⟨hn₀, h⟩ := close_closed hs he hn
    exact ⟨hn₀, h.sound _, fun _ _ ↦ kept_of_fresh (.inl h), fun h ↦ (nomatch h.1)⟩

variable (k answers)

def IoctlsSucceed (s : CameraDevice × Kernel) (calls : List CameraCall) : Prop :=
  Along (call k answers) (fun s a ↦ (call k answers s a).2.ioctlFailed = false) s calls

theorem owned_iff_of_kept {s : CameraDevice × Kernel} (hs : Kept s) (calls : List CameraCall)
    (hok : IoctlsSucceed k answers s calls) :
    (∀ before after, calls = before ++ after → Owned (exec (call k answers) s before)) ↔
      Along (call k answers) (fun s a ↦ ¬ Restart s a) s calls := by
  induction calls generalizing s with
  | nil =>
    refine ⟨fun _ ↦ trivial, fun _ before after he ↦ ?_⟩
    obtain ⟨rfl, -⟩ := List.append_eq_nil_iff.mp he.symm
    exact hs.owned
  | cons a rest ih =>
    obtain ⟨-, -, hkept, hbad⟩ := call_kept a hs.1 hok.1
    rw [along_cons]
    constructor
    · intro h
      have hr : ¬ Restart s a := fun hr ↦ hbad hr (h [a] rest rfl)
      refine ⟨hr, (ih (hkept hs hr) hok.2).mp fun before after he ↦ ?_⟩
      exact h (a :: before) after (by rw [he]; rfl)
    · rintro ⟨hr, hrest⟩ before after he
      cases before with
      | nil => exact hs.owned
      | cons b before =>
        rw [List.cons_append] at he
        obtain ⟨rfl, htail⟩ := List.cons.inj he
        exact (ih (hkept hs hr) hok.2).mpr hrest before after htail

def initialised (config : CameraEndpointConfig) : CameraDevice × Kernel :=
  ((init k config {}).2, {})

theorem initialised_kept (config : CameraEndpointConfig) : Kept (initialised k config) := by
  have hc : Closed (init k config {}).2.v4l2 := by
    cases he : config.enable with
    | false =>
      simp only [init, he, Bool.not_false, ↓reduceIte]
      exact ⟨rfl, rfl, rfl⟩
    | true =>
      cases hf : makeCaptureFormat config <;>
      · simp only [init, he, Bool.not_true, Bool.false_eq_true, ↓reduceIte, hf]
        exact ⟨rfl, rfl, rfl⟩
  exact kept_of_fresh (.inl hc)

/-- The streaming device has every buffer queued at every moment of a run of either
camera exactly when no start of the run finds it open after a STREAMOFF. -/
theorem buffers_queued_iff (config : CameraEndpointConfig) (calls : List CameraCall)
    (hok : IoctlsSucceed k answers (initialised k config) calls) :
    (∀ before after, calls = before ++ after →
        Owned (exec (call k answers) (initialised k config) before)) ↔
      Along (call k answers) (fun s a ↦ ¬ Restart s a) (initialised k config) calls :=
  owned_iff_of_kept k answers (initialised_kept k config) calls hok

def camera : CameraEndpointConfig where
  enable := true
  videoNode := "/dev/video2"
  width := 640
  height := 480
  fps := 30
  format := "mjpeg"

def willing (_ : ℕ) : Answer where
  cap := { capabilities := UvcDevice.V4L2_CAP_VIDEO_CAPTURE }

theorem buffers_queued_reopened :
    IoctlsSucceed VisibleCameraDevice willing (initialised VisibleCameraDevice camera)
        [.start, .readFrame 100, .stop, .close, .start] ∧
      ∀ before after, [.start, .readFrame 100, .stop, .close, .start] = before ++ after →
        Owned (exec (call VisibleCameraDevice willing) (initialised VisibleCameraDevice camera)
          before) := by
  have hok : IoctlsSucceed VisibleCameraDevice willing (initialised VisibleCameraDevice camera)
      [.start, .readFrame 100, .stop, .close, .start] :=
    ⟨by decide +kernel, by decide +kernel, by decide +kernel, by decide +kernel,
      by decide +kernel, trivial⟩
  refine ⟨hok, (buffers_queued_iff VisibleCameraDevice willing camera _ hok).mpr ?_⟩
  unfold Restart
  exact ⟨by decide +kernel, by decide +kernel, by decide +kernel, by decide +kernel,
    by decide +kernel, trivial⟩

theorem restart_loses_buffers :
    ¬ ∀ (k : CameraClass) (answers : ℕ → Answer) (config : CameraEndpointConfig)
      (calls : List CameraCall), IoctlsSucceed k answers (initialised k config) calls →
      ∀ before after, calls = before ++ after →
        Owned (exec (call k answers) (initialised k config) before) := by
  intro h
  have hok : IoctlsSucceed VisibleCameraDevice willing (initialised VisibleCameraDevice camera)
      [.start, .stop, .start] :=
    ⟨by decide +kernel, by decide +kernel, by decide +kernel, trivial⟩
  have howned := h VisibleCameraDevice willing camera _ hok [.start, .stop, .start] [] rfl
  have hmem := howned (by decide +kernel) 0 (by decide +kernel)
  exact absurd hmem (by decide +kernel)

end CameraDevice

end TriFusion.Device
