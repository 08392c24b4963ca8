import TriFusion.Hardware.UvcNodes

namespace TriFusion.Hardware

open Foundation

variable {ω α : Type}

/-- A world with the last format that the driver settled on. The program does not see it. -/
abbrev Recorded (ω : Type) := ω × Option CaptureFormat

def beside (call : ω → α × ω) (w : Recorded ω) : α × Recorded ω :=
  ((call w.1).1, (call w.1).2, w.2)

/-- The same driver, with each format it settles on put on record. -/
def V4L2Driver.recording (drv : V4L2Driver ω) : V4L2Driver (Recorded ω) where
  openNode path nonBlock := beside (drv.openNode path nonBlock)
  closeNode w := (drv.closeNode w.1, w.2)
  queryCap := beside drv.queryCap
  enumFmt := beside drv.enumFmt
  setFmt fmt w :=
    match drv.setFmt fmt w.1 with
    | (.error errno, w') => (.error errno, w', w.2)
    | (.ok f, w') => (.ok f, w', some f)
  setParm fps := beside (drv.setParm fps)
  reqBufs count := beside (drv.reqBufs count)
  queryBuf i := beside (drv.queryBuf i)
  mmap i := beside (drv.mmap i)
  qBuf i := beside (drv.qBuf i)
  dqBuf := beside drv.dqBuf
  streamOn := beside drv.streamOn
  streamOff := beside drv.streamOff
  poll timeoutMs := beside (drv.poll timeoutMs)

def UvcNodes.recording (uvc : UvcNodes ω) : UvcNodes (Recorded ω) where
  probe path := beside (uvc.probe path)
  openNode path := beside (uvc.openNode path)
  closeNode w := (uvc.closeNode w.1, w.2)
  poll timeoutMs := beside (uvc.poll timeoutMs)
  read n := beside (uvc.read n)
  nowMs := beside uvc.nowMs

def KeepsRecord (call : Recorded ω → α × Recorded ω) : Prop := ∀ w, (call w).2.2 = w.2

theorem KeepsRecord.of_eq {call : Recorded ω → α × Recorded ω} (h : KeepsRecord call)
    {w w' : Recorded ω} {a : α} (he : call w = (a, w')) : w'.2 = w.2 := by
  have hw := h w
  rw [he] at hw
  exact hw

theorem beside_keepsRecord (call : ω → α × ω) : KeepsRecord (beside call) := fun _ ↦ rfl

variable {w w' : Recorded ω}

namespace V4L2Device

variable (drv : V4L2Driver ω) (d : V4L2Device)

variable {drv} in
theorem recording_setFmt {fmt f : CaptureFormat}
    (h : drv.recording.setFmt fmt w = (.ok f, w')) : w'.2 = some f := by
  simp only [V4L2Driver.recording] at h
  rcases hs : drv.setFmt fmt w.1 with ⟨r, w₁⟩
  rw [hs] at h
  cases r with
  | error errno => cases h
  | ok f' =>
    cases h
    rfl

theorem xioctl_keepsRecord {call : Recorded ω → Except Text α × Recorded ω}
    (h : KeepsRecord call) : KeepsRecord (d.xioctl call) := by
  intro w
  unfold xioctl
  split
  · rfl
  · rcases hc : call w with ⟨r, w₁⟩
    cases r <;> exact h.of_eq hc

theorem setFrameRate_keepsRecord (fps : UInt32) :
    KeepsRecord (setFrameRate drv.recording fps d) := by
  intro w
  unfold setFrameRate
  split
  · rfl
  · exact xioctl_keepsRecord d (beside_keepsRecord _) w

variable {drv d} in
theorem setFormat_record {fmt : CaptureFormat}
    (h : d.setFormat drv.recording fmt w = (.ok (), w')) :
    ∃ f, w'.2 = some f ∧ f.pixelformat = fmt.pixelformat := by
  unfold setFormat at h
  split at h
  · cases h
  rcases hx : d.xioctl (drv.recording.setFmt fmt) w with ⟨r, w₁⟩
  rw [hx] at h
  cases r with
  | error e => cases h
  | ok f =>
    dsimp only at h
    split at h
    · cases h
    · rename_i hp
      refine ⟨f, ?_, by simpa using hp⟩
      rw [(setFrameRate_keepsRecord drv d fmt.fps).of_eq h]
      unfold xioctl at hx
      split at hx
      · cases hx
      · rcases hs : drv.recording.setFmt fmt w with ⟨r, w₂⟩
        rw [hs] at hx
        cases r with
        | error errno => cases hx
        | ok f' =>
          cases hx
          exact recording_setFmt hs

theorem enqueueBuffer_keepsRecord (index : ℕ) :
    KeepsRecord (enqueueBuffer drv.recording index d) := by
  intro w
  unfold enqueueBuffer
  split
  · rfl
  · exact xioctl_keepsRecord d (beside_keepsRecord _) w

theorem mapBuffers_record (n i : ℕ) (d : V4L2Device) (w : Recorded ω) :
    (mapBuffers drv.recording n i d w).2.2.2 = w.2 := by
  induction n generalizing i d w with
  | zero => rfl
  | succ n ih =>
    rw [mapBuffers]
    rcases hx : d.xioctl (drv.recording.queryBuf i) w with ⟨r, w₁⟩
    have hw₁ : w₁.2 = w.2 := (xioctl_keepsRecord d (beside_keepsRecord (drv.queryBuf i))).of_eq hx
    cases r with
    | error e => exact hw₁
    | ok length =>
      dsimp only
      rcases hm : drv.recording.mmap i w₁ with ⟨r, w₂⟩
      have hw₂ : w₂.2 = w.2 := ((beside_keepsRecord (drv.mmap i)).of_eq hm).trans hw₁
      cases r with
      | error errno => exact hw₂
      | ok u =>
        dsimp only
        rcases hq : enqueueBuffer drv.recording i
          { d with buffers := d.buffers.set i ⟨true, length⟩ } w₂ with ⟨r, w₃⟩
        have hw₃ : w₃.2 = w.2 := ((enqueueBuffer_keepsRecord drv _ i).of_eq hq).trans hw₂
        cases r with
        | error e => exact hw₃
        | ok u => exact (ih _ _ _).trans hw₃

theorem requestBuffers_record (count : UInt32) (w : Recorded ω) :
    (requestBuffers drv.recording count d w).2.2.2 = w.2 := by
  unfold requestBuffers
  split
  · rfl
  rcases hx : d.xioctl (drv.recording.reqBufs count) w with ⟨r, w₁⟩
  have hw₁ : w₁.2 = w.2 := (xioctl_keepsRecord d (beside_keepsRecord (drv.reqBufs count))).of_eq hx
  cases r with
  | error e => exact hw₁
  | ok granted =>
    dsimp only
    split
    · exact hw₁
    · exact (mapBuffers_record drv granted 0 _ w₁).trans hw₁

theorem startStream_record (w : Recorded ω) : (d.startStream drv.recording w).2.2.2 = w.2 := by
  unfold startStream
  split
  · rfl
  rcases hx : d.xioctl drv.recording.streamOn w with ⟨r, w₁⟩
  have hw₁ : w₁.2 = w.2 := (xioctl_keepsRecord d (beside_keepsRecord drv.streamOn)).of_eq hx
  cases r <;> exact hw₁

theorem stopStream_record (w : Recorded ω) : (d.stopStream drv.recording w).2.2.2 = w.2 := by
  unfold stopStream
  split
  · rfl
  · exact xioctl_keepsRecord d (beside_keepsRecord drv.streamOff) w

theorem dequeueBuffer_keepsRecord (timeoutMs : Int32) :
    KeepsRecord (dequeueBuffer drv.recording timeoutMs d) := by
  intro w
  unfold dequeueBuffer
  split
  · rfl
  rcases hp : drv.recording.poll timeoutMs w with ⟨r, w₁⟩
  have hw₁ : w₁.2 = w.2 := (beside_keepsRecord (drv.poll timeoutMs)).of_eq hp
  rcases r with errno | ready
  · exact hw₁
  cases ready with
  | false => exact hw₁
  | true =>
    dsimp only
    rcases hd : drv.recording.dqBuf w₁ with ⟨r, w₂⟩
    have hw₂ : w₂.2 = w.2 := ((beside_keepsRecord drv.dqBuf).of_eq hd).trans hw₁
    cases r with
    | error errno => exact hw₂
    | ok buf =>
      dsimp only
      split <;> exact hw₂

end V4L2Device

variable (uvc : UvcNodes ω)

theorem inspectNode_keepsRecord (path : Text) :
    KeepsRecord (UvcDevice.inspectNode uvc.recording path) := by
  intro w
  unfold UvcDevice.inspectNode
  split
  · rfl
  rcases hp : uvc.recording.probe path w with ⟨r, w₁⟩
  have hw₁ : w₁.2 = w.2 := (beside_keepsRecord (uvc.probe path)).of_eq hp
  rcases r with (_ | _) | cap <;> exact hw₁

theorem openNode_record (path : Text) (r : UvcMetadataReader) (w : Recorded ω) :
    (r.openNode uvc.recording path w).2.2.2 = w.2 := by
  unfold UvcMetadataReader.openNode
  split
  · rfl
  split
  · rfl
  rcases ho : uvc.recording.openNode path w with ⟨r, w₁⟩
  have hw₁ : w₁.2 = w.2 := (beside_keepsRecord (uvc.openNode path)).of_eq ho
  cases r <;> exact hw₁

theorem readPacket_keepsRecord (timeoutMs : Int32) (maxBytes : ℕ) (r : UvcMetadataReader) :
    KeepsRecord (r.readPacket uvc.recording timeoutMs maxBytes) := by
  intro w
  unfold UvcMetadataReader.readPacket
  split
  · rfl
  split
  · rfl
  rcases hp : uvc.recording.poll timeoutMs w with ⟨r, w₁⟩
  have hw₁ : w₁.2 = w.2 := (beside_keepsRecord (uvc.poll timeoutMs)).of_eq hp
  rcases r with errno | ready
  · exact hw₁
  cases ready with
  | false => exact hw₁
  | true =>
    dsimp only
    rcases hr : uvc.recording.read maxBytes w₁ with ⟨r, w₂⟩
    have hw₂ : w₂.2 = w.2 := ((beside_keepsRecord (uvc.read maxBytes)).of_eq hr).trans hw₁
    cases r <;> exact hw₂

end TriFusion.Hardware
