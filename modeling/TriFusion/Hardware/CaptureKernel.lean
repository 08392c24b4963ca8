import TriFusion.Hardware.UvcNodes

namespace TriFusion.Hardware.CaptureKernel

open Foundation

variable {α : Type}

/-- The driver's side of a capture descriptor: the buffers it granted, those in its
queues, and whether a STREAMOFF has emptied the queues since the node was opened. -/
structure BufferQueue where
  granted : ℕ := 0
  queued : List ℕ := []
  streamedOff : Bool := false
  deriving DecidableEq

/-- The kernel: `calls` counts the calls made, `ioctlFailed` whether one of the
ioctls on the capture descriptor has failed. -/
structure Kernel where
  queue : BufferQueue := {}
  calls : ℕ := 0
  ioctlFailed : Bool := false
  deriving DecidableEq

structure Answer where
  errno : Option Text := none
  cap : V4L2CapabilityInfo := {}
  formats : List V4L2FormatDesc := []
  format : CaptureFormat := {}
  granted : ℕ := 4
  length : UInt32 := 0
  pick : ℕ := 0
  ready : Bool := true
  bytes : List UInt8 := []
  time : ℤ := 0

variable (answers : ℕ → Answer)

/-- A call that may fail and changes no queue. -/
def plainCall (f : Answer → BufferQueue → α × BufferQueue) (n : Kernel) : Except Text α × Kernel :=
  match (answers n.calls).errno with
  | some errno => (.error errno, { n with calls := n.calls + 1 })
  | none =>
    let (r, queue) := f (answers n.calls) n.queue
    (.ok r, { n with queue := queue, calls := n.calls + 1 })

/-- An ioctl on the capture descriptor; it fails where `f` is undefined. -/
def ioctl (f : Answer → BufferQueue → Option (α × BufferQueue)) (n : Kernel) :
    Except Text α × Kernel :=
  match (answers n.calls).errno, f (answers n.calls) n.queue with
  | none, some (r, queue) => (.ok r, { n with queue := queue, calls := n.calls + 1 })
  | some errno, _ => (.error errno, { n with calls := n.calls + 1, ioctlFailed := true })
  | none, none => (.error "EINVAL", { n with calls := n.calls + 1, ioctlFailed := true })

def enqueue (i : ℕ) (q : BufferQueue) : Option (Unit × BufferQueue) :=
  if i < q.granted ∧ i ∉ q.queued then some ((), { q with queued := q.queued ++ [i] }) else none

def dequeue (a : Answer) (q : BufferQueue) : Option (DequeuedBuffer × BufferQueue) :=
  (q.queued[a.pick]?).map fun i ↦ (⟨i, a.bytes, a.time⟩, { q with queued := q.queued.erase i })

def streamOff (q : BufferQueue) : BufferQueue := { q with queued := [], streamedOff := true }

/-- The calls of `V4L2Device` under the V4L2 rules for buffers. -/
def driver : V4L2Driver Kernel where
  openNode _ _ := plainCall answers fun _ _ ↦ ((), {})
  closeNode n := { n with queue := {} }
  queryCap := ioctl answers fun a q ↦ some (a.cap, q)
  enumFmt := ioctl answers fun a q ↦ some (a.formats, q)
  setFmt _ := ioctl answers fun a q ↦ some (a.format, q)
  setParm _ := ioctl answers fun _ q ↦ some ((), q)
  reqBufs _ := ioctl answers fun a _ ↦ some (a.granted, { granted := a.granted })
  queryBuf i := ioctl answers fun a q ↦ if i < q.granted then some (a.length, q) else none
  mmap _ := plainCall answers fun _ q ↦ ((), q)
  qBuf i := ioctl answers fun _ q ↦ enqueue i q
  dqBuf := ioctl answers dequeue
  streamOn := ioctl answers fun _ q ↦ some ((), q)
  streamOff := ioctl answers fun _ q ↦ some ((), streamOff q)
  poll _ := plainCall answers fun a q ↦ (a.ready, q)

def nodes : UvcNodes Kernel where
  probe _ n :=
    match plainCall answers (fun a q ↦ (a.cap, q)) n with
    | (.error errno, n) => (.error (.openNode errno), n)
    | (.ok cap, n) => (.ok cap, n)
  openNode _ := plainCall answers fun _ q ↦ ((), q)
  closeNode n := n
  poll _ := plainCall answers fun a q ↦ (a.ready, q)
  read _ := plainCall answers fun a q ↦ (a.bytes, q)
  nowMs n := ((answers n.calls).time, { n with calls := n.calls + 1 })

theorem ioctl_done {answers : ℕ → Answer} {f : Answer → BufferQueue → Option (α × BufferQueue)}
    {n n' : Kernel} {r : Except Text α} (he : ioctl answers f n = (r, n'))
    (hn : n'.ioctlFailed = false) :
    n.ioctlFailed = false ∧ ∃ v, r = .ok v ∧ f (answers n.calls) n.queue = some (v, n'.queue) := by
  unfold ioctl at he
  split at he
  · next v queue herr hf =>
    obtain ⟨rfl, rfl⟩ := Prod.mk.inj he
    exact ⟨hn, v, rfl, hf⟩
  · obtain ⟨rfl, rfl⟩ := Prod.mk.inj he
    exact absurd hn (fun h ↦ (nomatch h))
  · obtain ⟨rfl, rfl⟩ := Prod.mk.inj he
    exact absurd hn (fun h ↦ (nomatch h))

theorem plainCall_done {answers : ℕ → Answer} {f : Answer → BufferQueue → α × BufferQueue}
    {n n' : Kernel} {r : Except Text α} (he : plainCall answers f n = (r, n')) :
    n'.ioctlFailed = n.ioctlFailed ∧
      ((∃ e, r = .error e) ∧ n'.queue = n.queue ∨
        ∃ v, r = .ok v ∧ (v, n'.queue) = f (answers n.calls) n.queue) := by
  unfold plainCall at he
  split at he
  · obtain ⟨rfl, rfl⟩ := Prod.mk.inj he
    exact ⟨rfl, .inl ⟨⟨_, rfl⟩, rfl⟩⟩
  · obtain ⟨rfl, rfl⟩ := Prod.mk.inj he
    exact ⟨rfl, .inr ⟨_, rfl, rfl⟩⟩

variable {answers} {d d' : V4L2Device} {n n' : Kernel} {r : Result Unit}

theorem xioctl_done {f : Answer → BufferQueue → Option (α × BufferQueue)} {r : Result α}
    (he : d.xioctl (ioctl answers f) n = (r, n')) (hn : n'.ioctlFailed = false) :
    n.ioctlFailed = false ∧
      ((∃ e, r = .error e) ∧ n' = n ∨
        ∃ v, r = .ok v ∧ f (answers n.calls) n.queue = some (v, n'.queue)) := by
  unfold V4L2Device.xioctl at he
  by_cases ho : d.isOpen = true
  · simp only [ho, Bool.not_true, Bool.false_eq_true, ↓reduceIte] at he
    cases hx : ioctl answers f n with
    | mk x n₁ =>
      rw [hx] at he
      cases x with
      | error errno =>
        obtain ⟨rfl, rfl⟩ := Prod.mk.inj he
        obtain ⟨-, v, hv, -⟩ := ioctl_done hx hn
        exact (nomatch hv)
      | ok v =>
        obtain ⟨rfl, rfl⟩ := Prod.mk.inj he
        obtain ⟨hn₀, v', hv, hf⟩ := ioctl_done hx hn
        obtain rfl := Except.ok.inj hv
        exact ⟨hn₀, .inr ⟨v, rfl, hf⟩⟩
  · simp only [ho, Bool.not_false, ↓reduceIte] at he
    obtain ⟨rfl, rfl⟩ := Prod.mk.inj he
    exact ⟨hn, .inl ⟨⟨_, rfl⟩, rfl⟩⟩

theorem xioctl_open {f : Answer → BufferQueue → Option (α × BufferQueue)} {r : Result α}
    (ho : d.fdOpen = true) (he : d.xioctl (ioctl answers f) n = (r, n'))
    (hn : n'.ioctlFailed = false) :
    ∃ v, r = .ok v ∧ f (answers n.calls) n.queue = some (v, n'.queue) := by
  obtain ⟨-, ⟨⟨e, rfl⟩, rfl⟩ | hv⟩ := xioctl_done he hn
  · simp only [V4L2Device.xioctl, V4L2Device.isOpen, ho, Bool.not_true, Bool.false_eq_true,
      ↓reduceIte] at he
    cases hx : ioctl answers f n' with
    | mk x n₁ =>
    rw [hx] at he
    cases x with
    | error errno =>
      obtain ⟨-, rfl⟩ := Prod.mk.inj he
      obtain ⟨-, v, hv, -⟩ := ioctl_done hx hn
      exact (nomatch hv)
    | ok v => exact (nomatch (Prod.mk.inj he).1)
  · exact hv

/-- What the driver holds of an open device's buffers between calls: all of them,
until a STREAMOFF has taken them out, and then none. -/
structure Sound (d : V4L2Device) (q : BufferQueue) : Prop where
  closed : d.fdOpen = false → d.streaming = false ∧ d.buffers = []
  buffers : d.fdOpen = true → 2 ≤ d.buffers.length
  queued : d.fdOpen = true → q.streamedOff = false → ∀ i, i ∈ q.queued ↔ i < d.buffers.length
  emptied : d.fdOpen = true → q.streamedOff = true → q.queued = []

theorem stopStream_sound {r : Result Unit} (hs : Sound d n.queue)
    (he : d.stopStream (driver answers) n = (r, d', n')) (hn : n'.ioctlFailed = false) :
    n.ioctlFailed = false ∧ Sound d' n'.queue ∧ d'.streaming = false := by
  unfold V4L2Device.stopStream at he
  by_cases hst : d.streaming = true
  · cases hx : d.xioctl (driver answers).streamOff n with
    | mk x n₁ =>
    simp only [hst, Bool.not_true, Bool.false_eq_true, ↓reduceIte, hx, Prod.mk.injEq] at he
    obtain ⟨rfl, rfl, rfl⟩ := he
    obtain ⟨hn₀, hr⟩ := xioctl_done (f := fun _ q ↦ some ((), streamOff q)) hx hn
    refine ⟨hn₀, ?_, rfl⟩
    rcases hr with ⟨-, rfl⟩ | ⟨v, -, hf⟩
    · exact ⟨fun h ↦ ⟨rfl, (hs.closed h).2⟩, hs.buffers, hs.queued, hs.emptied⟩
    · obtain ⟨-, hq⟩ := Prod.mk.inj (Option.some.inj hf)
      rw [← hq]
      exact ⟨fun h ↦ ⟨rfl, (hs.closed h).2⟩, hs.buffers, fun _ h ↦ (nomatch h), fun _ _ ↦ rfl⟩
  · simp only [hst, Bool.not_false, ↓reduceIte, Prod.mk.injEq] at he
    obtain ⟨rfl, rfl, rfl⟩ := he
    exact ⟨hn, hs, Bool.eq_false_iff.mpr hst⟩

def Closed (d : V4L2Device) : Prop := d.fdOpen = false ∧ d.streaming = false ∧ d.buffers = []

theorem Closed.sound (h : Closed d) (q : BufferQueue) : Sound d q := by
  obtain ⟨ho, hs⟩ := h
  have hne : d.fdOpen ≠ true := by rw [ho]; decide
  exact ⟨fun _ ↦ hs, fun h ↦ absurd h hne, fun h ↦ absurd h hne, fun h ↦ absurd h hne⟩

theorem closeDevice_closed (he : d.closeDevice (driver answers) n = (d', n'))
    (hn : n'.ioctlFailed = false) : n.ioctlFailed = false ∧ Closed d' := by
  unfold V4L2Device.closeDevice at he
  by_cases hst : d.streaming = true
  · cases hx : d.xioctl (driver answers).streamOff n with
    | mk x n₁ =>
      simp only [hst, ↓reduceIte, V4L2Device.stopStream, Bool.not_true, Bool.false_eq_true, hx,
        Prod.mk.injEq] at he
      obtain ⟨rfl, hn'⟩ := he
      have hn₁ : n₁.ioctlFailed = false := by
        rw [← hn, ← hn']
        split <;> rfl
      exact ⟨(xioctl_done (f := fun _ q ↦ some ((), streamOff q)) hx hn₁).1, rfl, rfl, rfl⟩
  · simp only [hst, Bool.false_eq_true, ↓reduceIte, Prod.mk.injEq] at he
    obtain ⟨rfl, hn'⟩ := he
    refine ⟨?_, rfl, rfl, rfl⟩
    rw [← hn, ← hn']
    split <;> rfl

/-- A device whose buffers have just been queued, or one whose opening failed. -/
def Fresh (d : V4L2Device) (q : BufferQueue) : Prop :=
  Closed d ∨ d.fdOpen = true ∧ d.streaming = false ∧ 2 ≤ d.buffers.length ∧
    q.streamedOff = false ∧ ∀ i, i ∈ q.queued ↔ i < d.buffers.length

theorem Fresh.sound {q : BufferQueue} (h : Fresh d q) : Sound d q := by
  rcases h with h | ⟨ho, -, hlen, hoff, hq⟩
  · exact h.sound q
  · refine ⟨fun hc ↦ ?_, fun _ ↦ hlen, fun _ _ ↦ hq, fun _ h ↦ ?_⟩
    · rw [ho] at hc
      exact (nomatch hc)
    · rw [hoff] at h
      exact (nomatch h)

theorem enqueueBuffer_done {r : Result Unit} {i : ℕ}
    (he : d.enqueueBuffer (driver answers) i n = (r, n')) (hn : n'.ioctlFailed = false) :
    n.ioctlFailed = false ∧ ((∃ e, r = .error e) ∧ n' = n ∨
      r = .ok () ∧ i ∉ n.queue.queued ∧
        n'.queue = { n.queue with queued := n.queue.queued ++ [i] }) := by
  unfold V4L2Device.enqueueBuffer at he
  by_cases hi : d.buffers.length ≤ i
  · simp only [hi, ↓reduceIte, Prod.mk.injEq] at he
    obtain ⟨rfl, rfl⟩ := he
    exact ⟨hn, .inl ⟨⟨_, rfl⟩, rfl⟩⟩
  · simp only [hi, ↓reduceIte] at he
    obtain ⟨hn₀, hr⟩ := xioctl_done (f := fun _ q ↦ enqueue i q) he hn
    refine ⟨hn₀, hr.imp id ?_⟩
    rintro ⟨u, rfl, hf⟩
    unfold enqueue at hf
    split at hf
    · next hmem =>
      obtain ⟨-, hq⟩ := Prod.mk.inj (Option.some.inj hf)
      exact ⟨rfl, hmem.2, hq.symm⟩
    · exact (nomatch hf)

theorem mapped_queue {i : ℕ} {length : UInt32} {n₁ n₂ : Kernel} {mapped : Except Text Unit}
    (hx : d.xioctl ((driver answers).queryBuf i) n = (.ok length, n₁))
    (hm : (driver answers).mmap i n₁ = (mapped, n₂)) (hn : n₂.ioctlFailed = false) :
    n.ioctlFailed = false ∧ n₂.queue = n.queue := by
  obtain ⟨hflag, hmap⟩ := plainCall_done (f := fun _ q ↦ ((), q)) hm
  have hqueue : n₂.queue = n₁.queue := by
    rcases hmap with ⟨-, h⟩ | ⟨v, -, h⟩
    · exact h
    · exact (Prod.mk.inj h).2
  obtain ⟨hn₀, ⟨⟨e, he⟩, -⟩ | ⟨v, -, hf⟩⟩ := xioctl_done
    (f := fun a q ↦ if i < q.granted then some (a.length, q) else none) hx (hflag.symm.trans hn)
  · cases he
  · split at hf
    · exact ⟨hn₀, hqueue.trans (Prod.mk.inj (Option.some.inj hf)).2.symm⟩
    · cases hf

theorem mapBuffers_queued {r : Result Unit} (m i : ℕ) (hlen : i + m = d.buffers.length)
    (hq : n.ioctlFailed = false → ∀ j, j ∈ n.queue.queued ↔ j < i)
    (he : d.mapBuffers (driver answers) m i n = (r, d', n')) (hn : n'.ioctlFailed = false) :
    n.ioctlFailed = false ∧ d'.fdOpen = d.fdOpen ∧ d'.streaming = d.streaming ∧
      n'.queue.streamedOff = n.queue.streamedOff ∧
      (r = .ok () → d'.buffers.length = d.buffers.length ∧
        ∀ j, j ∈ n'.queue.queued ↔ j < d.buffers.length) := by
  induction m generalizing d n i with
  | zero =>
    simp only [V4L2Device.mapBuffers, Prod.mk.injEq] at he
    obtain ⟨rfl, rfl, rfl⟩ := he
    exact ⟨hn, rfl, rfl, rfl, fun _ ↦ ⟨rfl, by rw [← hlen]; exact hq hn⟩⟩
  | succ m ih =>
    rw [V4L2Device.mapBuffers] at he
    cases hx : d.xioctl ((driver answers).queryBuf i) n with
    | mk x n₁ =>
    rw [hx] at he
    cases x with
    | error e =>
      simp only [Prod.mk.injEq] at he
      obtain ⟨rfl, rfl, rfl⟩ := he
      obtain ⟨hn₀, ⟨-, rfl⟩ | ⟨v, hv, -⟩⟩ := xioctl_done
        (f := fun a q ↦ if i < q.granted then some (a.length, q) else none) hx hn
      · exact ⟨hn₀, rfl, rfl, rfl, fun h ↦ (nomatch h)⟩
      · exact (nomatch hv)
    | ok length =>
      cases hm : (driver answers).mmap i n₁ with
      | mk y n₂ =>
      simp only [hm] at he
      cases y with
      | error errno =>
        simp only [Prod.mk.injEq] at he
        obtain ⟨rfl, rfl, rfl⟩ := he
        obtain ⟨hn₀, hq₂⟩ := mapped_queue hx hm hn
        exact ⟨hn₀, rfl, rfl, by rw [hq₂], fun h ↦ (nomatch h)⟩
      | ok u =>
        cases hz : V4L2Device.enqueueBuffer (driver answers) i
            { d with buffers := d.buffers.set i ⟨true, length⟩ } n₂ with
        | mk z n₃ =>
        simp only [hz] at he
        cases z with
        | error e =>
          simp only [Prod.mk.injEq] at he
          obtain ⟨rfl, rfl, rfl⟩ := he
          obtain ⟨hn₂, ⟨-, rfl⟩ | ⟨hv, -⟩⟩ := enqueueBuffer_done hz hn
          · obtain ⟨hn₀, hq₂⟩ := mapped_queue hx hm hn₂
            exact ⟨hn₀, rfl, rfl, by rw [hq₂], fun h ↦ (nomatch h)⟩
          · exact (nomatch hv)
        | ok u =>
          have hstep (hn₃ : n₃.ioctlFailed = false) : n.ioctlFailed = false ∧
              n₃.queue = { n.queue with queued := n.queue.queued ++ [i] } := by
            obtain ⟨hn₂, ⟨⟨e, hv⟩, -⟩ | ⟨-, -, hq₃⟩⟩ := enqueueBuffer_done hz hn₃
            · exact (nomatch hv)
            · obtain ⟨hn₀, hq₂⟩ := mapped_queue hx hm hn₂
              exact ⟨hn₀, by rw [hq₃, hq₂]⟩
          have hlen' : i + 1 + m = (d.buffers.set i ⟨true, length⟩).length := by
            rw [List.length_set]
            omega
          obtain ⟨hn₃, ho, hst, hoff, hall⟩ := ih (i + 1) hlen' (fun hn₃ j ↦ by
            obtain ⟨hn₀, hq₃⟩ := hstep hn₃
            rw [hq₃, List.mem_append, hq hn₀, List.mem_singleton]
            omega) he
          obtain ⟨hn₀, hq₃⟩ := hstep hn₃
          rw [List.length_set] at hall
          exact ⟨hn₀, ho, hst, by rw [hoff, hq₃], hall⟩

theorem requestBuffers_fresh {r : Result Unit} {count : UInt32} (ho : d.fdOpen = true)
    (hst : d.streaming = false) (hb : d.buffers = [])
    (he : d.requestBuffers (driver answers) count n = (r, d', n'))
    (hn : n'.ioctlFailed = false) :
    n.ioctlFailed = false ∧ (r = .ok () → Fresh d' n'.queue) := by
  unfold V4L2Device.requestBuffers at he
  by_cases hc : count < 2
  · simp only [hc, ↓reduceIte, Prod.mk.injEq] at he
    obtain ⟨rfl, rfl, rfl⟩ := he
    exact ⟨hn, fun h ↦ (nomatch h)⟩
  · cases hx : d.xioctl ((driver answers).reqBufs count) n with
    | mk x n₁ =>
    simp only [hc, ↓reduceIte, hx] at he
    have hreq := xioctl_done (f := fun a _ ↦ some (a.granted, { granted := a.granted })) hx
    cases x with
    | error e =>
      simp only [Prod.mk.injEq] at he
      obtain ⟨rfl, rfl, rfl⟩ := he
      exact ⟨(hreq hn).1, fun h ↦ (nomatch h)⟩
    | ok granted =>
      by_cases hg : granted < 2
      · simp only [hg, ↓reduceIte, Prod.mk.injEq] at he
        obtain ⟨rfl, rfl, rfl⟩ := he
        exact ⟨(hreq hn).1, fun h ↦ (nomatch h)⟩
      · simp only [hg, ↓reduceIte, hb, List.take_nil, List.nil_append, List.length_nil,
          Nat.sub_zero] at he
        have hempty (hn₁ : n₁.ioctlFailed = false) :
            n.ioctlFailed = false ∧ n₁.queue = { granted := granted } := by
          obtain ⟨hn₀, ⟨⟨e, hv⟩, -⟩ | ⟨v, hv, hf⟩⟩ := hreq hn₁
          · exact (nomatch hv)
          · obtain ⟨hg, hq⟩ := Prod.mk.inj (Option.some.inj hf)
            exact ⟨hn₀, by rw [← hq, hg, Except.ok.inj hv]⟩
        have hlen : 0 + granted = (List.replicate granted ({} : MappedBuffer)).length := by simp
        obtain ⟨hn₁, ho', hst', hoff, hall⟩ := mapBuffers_queued granted 0 hlen
          (fun hn₁ j ↦ by simp [(hempty hn₁).2]) he hn
        obtain ⟨hn₀, hq₁⟩ := hempty hn₁
        refine ⟨hn₀, fun hr ↦ .inr ⟨ho'.trans ho, hst'.trans hst, ?_, ?_, ?_⟩⟩
        · rw [(hall hr).1, List.length_replicate]
          omega
        · rw [hoff, hq₁]
        · rw [(hall hr).1]
          exact (hall hr).2

theorem enumFormats_flag {r : Result (List V4L2FormatDesc)}
    (he : d.enumFormats (driver answers) n = (r, n')) (hn : n'.ioctlFailed = false) :
    n.ioctlFailed = false := by
  unfold V4L2Device.enumFormats at he
  by_cases ho : d.isOpen = true
  · cases hx : (driver answers).enumFmt n with
    | mk x n₁ =>
    have hx' : ioctl answers (fun a q ↦ some (a.formats, q)) n = (x, n₁) := hx
    simp only [ho, Bool.not_true, Bool.false_eq_true, ↓reduceIte, hx] at he
    cases x with
    | error errno =>
      obtain ⟨-, rfl⟩ := Prod.mk.inj he
      exact (ioctl_done hx' hn).1
    | ok formats =>
      obtain ⟨-, rfl⟩ := Prod.mk.inj he
      exact (ioctl_done hx' hn).1
  · simp only [ho, Bool.not_false, ↓reduceIte] at he
    obtain ⟨-, rfl⟩ := Prod.mk.inj he
    exact hn

theorem setFormat_flag {fmt : CaptureFormat}
    (he : d.setFormat (driver answers) fmt n = (r, n')) (hn : n'.ioctlFailed = false) :
    n.ioctlFailed = false := by
  unfold V4L2Device.setFormat at he
  split at he
  · obtain ⟨-, rfl⟩ := Prod.mk.inj he
    exact hn
  · cases hx : d.xioctl ((driver answers).setFmt fmt) n with
    | mk x n₁ =>
    have hset := xioctl_done (f := fun a q ↦ some (a.format, q)) hx
    rw [hx] at he
    cases x with
    | error e =>
      obtain ⟨-, rfl⟩ := Prod.mk.inj he
      exact (hset hn).1
    | ok f =>
      dsimp only at he
      split at he
      · obtain ⟨-, rfl⟩ := Prod.mk.inj he
        exact (hset hn).1
      · unfold V4L2Device.setFrameRate at he
        split at he
        · obtain ⟨-, rfl⟩ := Prod.mk.inj he
          exact (hset hn).1
        · exact (hset (xioctl_done (f := fun _ q ↦ some ((), q)) he hn).1).1

/-- The calls outside the capture descriptor leave its queues alone. -/
def Untouched (n n' : Kernel) : Prop := n'.ioctlFailed = n.ioctlFailed ∧ n'.queue = n.queue

theorem Untouched.trans {n₁ : Kernel} (h : Untouched n n₁) (h' : Untouched n₁ n') :
    Untouched n n' := ⟨h'.1.trans h.1, h'.2.trans h.2⟩

theorem plainCall_untouched {g : Answer → α} {r : Except Text α}
    (he : plainCall answers (fun a q ↦ (g a, q)) n = (r, n')) : Untouched n n' := by
  obtain ⟨hflag, ⟨-, hq⟩ | ⟨v, -, hq⟩⟩ := plainCall_done he
  · exact ⟨hflag, hq⟩
  · exact ⟨hflag, (Prod.mk.inj hq).2⟩

theorem inspectNode_untouched {path : Text} {r : Result UvcNodeInfo}
    (he : UvcDevice.inspectNode (nodes answers) path n = (r, n')) : Untouched n n' := by
  unfold UvcDevice.inspectNode at he
  split at he
  · obtain ⟨-, rfl⟩ := Prod.mk.inj he
    exact ⟨rfl, rfl⟩
  · cases hx : plainCall answers (fun a q ↦ (a.cap, q)) n with
    | mk x n₁ =>
    simp only [nodes, hx] at he
    have hu := plainCall_untouched hx
    cases x with
    | error errno =>
      obtain ⟨-, rfl⟩ := Prod.mk.inj he
      exact hu
    | ok cap =>
      obtain ⟨-, rfl⟩ := Prod.mk.inj he
      exact hu

theorem openNode_untouched {reader reader' : UvcMetadataReader} {path : Text}
    (he : reader.openNode (nodes answers) path n = (r, reader', n')) : Untouched n n' := by
  unfold UvcMetadataReader.openNode at he
  split at he
  · obtain ⟨-, hp⟩ := Prod.mk.inj he
    obtain ⟨-, rfl⟩ := Prod.mk.inj hp
    exact ⟨rfl, rfl⟩
  · split at he
    · obtain ⟨-, hp⟩ := Prod.mk.inj he
      obtain ⟨-, rfl⟩ := Prod.mk.inj hp
      exact ⟨rfl, rfl⟩
    · cases hx : (nodes answers).openNode path n with
      | mk x n₁ =>
      have hx' : plainCall answers (fun _ q ↦ ((), q)) n = (x, n₁) := hx
      have hu := plainCall_untouched hx'
      rw [hx] at he
      cases x with
      | error errno =>
        obtain ⟨-, hp⟩ := Prod.mk.inj he
        obtain ⟨-, rfl⟩ := Prod.mk.inj hp
        exact hu
      | ok u =>
        obtain ⟨-, hp⟩ := Prod.mk.inj he
        obtain ⟨-, rfl⟩ := Prod.mk.inj hp
        exact hu

theorem openDevice_done {path : Text} {nonBlock : Bool}
    (he : d.openDevice (driver answers) path nonBlock n = (r, d', n')) :
    (∀ e, r = .error e → n'.ioctlFailed = n.ioctlFailed ∧ n'.queue = n.queue ∧ d' = d) ∧
      (r = .ok () → n'.ioctlFailed = n.ioctlFailed ∧
        d' = { d with fdOpen := true, path := path }) := by
  unfold V4L2Device.openDevice at he
  split at he
  · simp only [Prod.mk.injEq] at he
    obtain ⟨rfl, rfl, rfl⟩ := he
    exact ⟨fun _ _ ↦ ⟨rfl, rfl, rfl⟩, fun h ↦ (nomatch h)⟩
  · split at he
    · simp only [Prod.mk.injEq] at he
      obtain ⟨rfl, rfl, rfl⟩ := he
      exact ⟨fun _ _ ↦ ⟨rfl, rfl, rfl⟩, fun h ↦ (nomatch h)⟩
    · cases hx : (driver answers).openNode path nonBlock n with
      | mk x n₁ =>
      have hx' : plainCall answers (fun _ _ ↦ ((), {})) n = (x, n₁) := hx
      obtain ⟨hflag, hdone⟩ := plainCall_done hx'
      rw [hx] at he
      cases x with
      | error errno =>
        simp only [Prod.mk.injEq] at he
        obtain ⟨rfl, rfl, rfl⟩ := he
        refine ⟨fun _ _ ↦ ⟨hflag, ?_, rfl⟩, fun h ↦ (nomatch h)⟩
        rcases hdone with ⟨-, hq⟩ | ⟨v, hv, -⟩
        · exact hq
        · exact (nomatch hv)
      | ok u =>
        simp only [Prod.mk.injEq] at he
        obtain ⟨rfl, rfl, rfl⟩ := he
        exact ⟨fun e h ↦ (nomatch h), fun _ ↦ ⟨hflag, rfl⟩⟩

theorem Sound.fdOpen {q : BufferQueue} (hs : Sound d q) (hst : d.streaming = true) :
    d.fdOpen = true := by
  cases ho : d.fdOpen with
  | true => rfl
  | false =>
    rw [(hs.closed ho).1] at hst
    exact (nomatch hst)

theorem Sound.turnOn {q : BufferQueue} (hs : Sound d q) (ho : d.fdOpen = true) :
    Sound { d with streaming := true } q := by
  refine ⟨fun h ↦ ?_, hs.buffers, hs.queued, hs.emptied⟩
  rw [ho] at h
  exact (nomatch h)

theorem dequeueBuffer_done {timeoutMs : Int32} {r : Result V4L2BufferView}
    (hs : Sound d n.queue) (he : d.dequeueBuffer (driver answers) timeoutMs n = (r, n'))
    (hn : n'.ioctlFailed = false) :
    n.ioctlFailed = false ∧ ((∃ e, r = .error e) ∧ n'.queue = n.queue ∨
      ∃ view, r = .ok view ∧ view.index ∈ n.queue.queued ∧
        n'.queue = { n.queue with queued := n.queue.queued.erase view.index }) := by
  unfold V4L2Device.dequeueBuffer at he
  by_cases hst : d.streaming = true
  · cases hx : (driver answers).poll timeoutMs n with
    | mk x n₁ =>
    have hx' : plainCall answers (fun a q ↦ (a.ready, q)) n = (x, n₁) := hx
    obtain ⟨hflag, hqueue⟩ := plainCall_untouched hx'
    simp only [hst, Bool.not_true, Bool.false_eq_true, ↓reduceIte, hx] at he
    cases x with
    | error errno =>
      obtain ⟨rfl, rfl⟩ := Prod.mk.inj he
      exact ⟨hflag.symm.trans hn, .inl ⟨⟨_, rfl⟩, hqueue⟩⟩
    | ok ready =>
      cases ready with
      | false =>
        obtain ⟨rfl, rfl⟩ := Prod.mk.inj he
        exact ⟨hflag.symm.trans hn, .inl ⟨⟨_, rfl⟩, hqueue⟩⟩
      | true =>
        cases hy : (driver answers).dqBuf n₁ with
        | mk y n₂ =>
        have hy' : ioctl answers dequeue n₁ = (y, n₂) := hy
        simp only [hy] at he
        have hn₂ : n₂.ioctlFailed = false := by
          rw [← hn]
          cases y with
          | error errno => rw [(Prod.mk.inj he).2]
          | ok buf =>
            dsimp only at he
            split at he <;> rw [(Prod.mk.inj he).2]
        obtain ⟨hn₁, buf, rfl, hf⟩ := ioctl_done hy' hn₂
        have hn₀ := hflag.symm.trans hn₁
        unfold dequeue at hf
        rw [Option.map_eq_some_iff] at hf
        obtain ⟨i, hi, hf⟩ := hf
        obtain ⟨rfl, hq₂⟩ := Prod.mk.inj hf
        have hmem : i ∈ n.queue.queued := hqueue ▸ List.mem_of_getElem? hi
        have ho := hs.fdOpen hst
        have hoff : n.queue.streamedOff = false := by
          cases hoff : n.queue.streamedOff with
          | false => rfl
          | true =>
            rw [hs.emptied ho hoff] at hmem
            exact (nomatch hmem)
        have hlt := (hs.queued ho hoff i).mp hmem
        simp only [List.getElem?_eq_getElem hlt] at he
        obtain ⟨rfl, rfl⟩ := Prod.mk.inj he
        exact ⟨hn₀, .inr ⟨_, rfl, hmem, by rw [← hq₂, hqueue]⟩⟩
  · simp only [hst, Bool.not_false, ↓reduceIte] at he
    obtain ⟨rfl, rfl⟩ := Prod.mk.inj he
    exact ⟨hn, .inl ⟨⟨_, rfl⟩, rfl⟩⟩

theorem Sound.putBack {q : BufferQueue} {i : ℕ} (hs : Sound d q) (hi : i ∈ q.queued) :
    Sound d { q with queued := q.queued.erase i ++ [i] } := by
  refine ⟨hs.closed, hs.buffers, fun ho hoff j ↦ ?_, fun ho hoff ↦ ?_⟩
  · have hq := hs.queued ho hoff
    rw [List.mem_append, List.mem_singleton, ← hq j]
    by_cases hji : j = i
    · subst hji
      simp [hi]
    · rw [List.mem_erase_of_ne hji]
      simp [hji]
  · rw [hs.emptied ho hoff] at hi
    exact (nomatch hi)

theorem readPacket_untouched {reader : UvcMetadataReader} {timeoutMs : Int32} {maxBytes : ℕ}
    {r : Result UvcMetadataPacket}
    (he : reader.readPacket (nodes answers) timeoutMs maxBytes n = (r, n')) : Untouched n n' := by
  unfold UvcMetadataReader.readPacket at he
  split at he
  · obtain ⟨-, rfl⟩ := Prod.mk.inj he
    exact ⟨rfl, rfl⟩
  · split at he
    · obtain ⟨-, rfl⟩ := Prod.mk.inj he
      exact ⟨rfl, rfl⟩
    · cases hx : (nodes answers).poll timeoutMs n with
      | mk x n₁ =>
      have hx' : plainCall answers (fun a q ↦ (a.ready, q)) n = (x, n₁) := hx
      have hu := plainCall_untouched hx'
      rw [hx] at he
      cases x with
      | error errno =>
        obtain ⟨-, rfl⟩ := Prod.mk.inj he
        exact hu
      | ok ready =>
        cases ready with
        | false =>
          obtain ⟨-, rfl⟩ := Prod.mk.inj he
          exact hu
        | true =>
          cases hy : (nodes answers).read maxBytes n₁ with
          | mk y n₂ =>
          have hy' : plainCall answers (fun a q ↦ (a.bytes, q)) n₁ = (y, n₂) := hy
          have hu₂ := hu.trans (plainCall_untouched hy')
          simp only [hy] at he
          cases y with
          | error errno =>
            obtain ⟨-, rfl⟩ := Prod.mk.inj he
            exact hu₂
          | ok bytes =>
            obtain ⟨-, rfl⟩ := Prod.mk.inj he
            exact hu₂

theorem enqueueBuffer_open {i : ℕ} (ho : d.fdOpen = true) (hi : i < d.buffers.length)
    (he : d.enqueueBuffer (driver answers) i n = (r, n')) (hn : n'.ioctlFailed = false) :
    r = .ok () ∧ n'.queue = { n.queue with queued := n.queue.queued ++ [i] } := by
  obtain ⟨-, ⟨⟨e, rfl⟩, rfl⟩ | ⟨hr, -, hq⟩⟩ := enqueueBuffer_done he hn
  · simp only [V4L2Device.enqueueBuffer, Nat.not_le.mpr hi, ↓reduceIte] at he
    obtain ⟨v, hv, -⟩ := xioctl_open (f := fun _ q ↦ enqueue i q) ho he hn
    exact (nomatch hv)
  · exact ⟨hr, hq⟩

end TriFusion.Hardware.CaptureKernel
