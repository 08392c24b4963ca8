import TriFusion.DeviceControl.RegisterFrames

namespace TriFusion.DeviceControl

open Foundation Library.Words

namespace CompositeSensorCommandParser

open CompositeSensorStatusWord

theorem parseWriteRegisterAck_accepts {bytes : List UInt8} :
    (∃ ack, parseWriteRegisterAck bytes = .ok ack) ↔
      bytes = line (writeAckWords executableWord) := by
  constructor
  · rintro ⟨ack, h⟩
    exact (parseWriteRegisterAck_ok_iff.mp h).1
  · intro h
    exact ⟨writeAck, parseWriteRegisterAck_ok_iff.mpr ⟨h, rfl⟩⟩

theorem parseReadRegisterAck_accepts {bytes : List UInt8} {data : UInt16} :
    (∃ ack, parseReadRegisterAck bytes = .ok ack ∧ ack.data = data) ↔
      bytes = line (readAckWords executableWord data) := by
  constructor
  · rintro ⟨ack, h, rfl⟩
    obtain ⟨data, hb, rfl⟩ := parseReadRegisterAck_ok_iff.mp h
    exact hb
  · intro h
    exact ⟨readAck data, parseReadRegisterAck_ok_iff.mpr ⟨data, h, rfl⟩, rfl⟩

def Accepted (bytes : List UInt8) : Prop :=
  (∃ ack, parseWriteRegisterAck bytes = .ok ack) ∨ ∃ ack, parseReadRegisterAck bytes = .ok ack

theorem accepted_iff {bytes : List UInt8} :
    Accepted bytes ↔ bytes = line (writeAckWords executableWord) ∨
      ∃ data, bytes = line (readAckWords executableWord data) := by
  apply or_congr parseWriteRegisterAck_accepts
  constructor
  · rintro ⟨ack, h⟩
    exact ⟨ack.data, parseReadRegisterAck_accepts.mp ⟨ack, h, rfl⟩⟩
  · rintro ⟨data, h⟩
    obtain ⟨ack, ha, -⟩ := parseReadRegisterAck_accepts.mpr h
    exact ⟨ack, ha⟩

theorem data_of_readAck (data : UInt16) :
    be16 (line (readAckWords executableWord data)) 8 = data := be16_line _ 4

theorem checksum_of_readAck (data : UInt16) :
    be16 (line (readAckWords executableWord data)) 10 =
      kReadAckLength + 0x5AF8 + executableWord + data := be16_line _ 5

theorem readAck_data_of_set {data data' : UInt16} {i : ℕ} {v : UInt8}
    (h : (line (readAckWords executableWord data)).set i v =
      line (readAckWords executableWord data')) : data = data' := by
  by_cases hi : i / 2 = 4
  · have hc := wordAt_set (line (readAckWords executableWord data)) v (show i / 2 ≠ 5 by omega)
    rw [h] at hc
    have hsum : kReadAckLength + 0x5AF8 + executableWord + data' =
        kReadAckLength + 0x5AF8 + executableWord + data := by
      rw [← checksum_of_readAck data', ← checksum_of_readAck data]
      exact hc
    exact (UInt16.add_right_inj _ |>.mp hsum).symm
  · have hd := wordAt_set (line (readAckWords executableWord data)) v hi
    rw [h] at hd
    rw [← data_of_readAck data, ← data_of_readAck data']
    exact hd.symm

theorem set_rejected {bytes : List UInt8} (h : Accepted bytes) {i : ℕ} (hi : i < bytes.length)
    {v : UInt8} (hv : v ≠ bytes[i]) : ¬Accepted (bytes.set i v) := by
  have hne : bytes.set i v ≠ bytes := by
    intro he
    apply hv
    rw [← List.getElem_set_self (a := v) (l := bytes) (by rwa [List.length_set])]
    simp only [he]
  intro h'
  have hlen : (bytes.set i v).length = bytes.length := List.length_set
  rcases accepted_iff.mp h with rfl | ⟨data, rfl⟩
  · rcases accepted_iff.mp h' with he | ⟨data', he⟩
    · exact hne he
    · rw [he] at hlen
      simp only [length_line, readAckWords, writeAckWords, List.length_cons,
        List.length_nil] at hlen
      omega
  · rcases accepted_iff.mp h' with he | ⟨data', he⟩
    · rw [he] at hlen
      simp only [length_line, readAckWords, writeAckWords, List.length_cons,
        List.length_nil] at hlen
      omega
    · obtain rfl := readAck_data_of_set he
      exact hne he

/-- Each parser takes one frame, or one for each data word, and no frame is one
byte away from another. -/
theorem ack_frames_exact :
    (∀ bytes, (∃ ack, parseWriteRegisterAck bytes = .ok ack) ↔
      bytes = line [0x55AA, 0x0006, CompositeSensorCommandCode.writeRegister.word, executableWord,
        0x0006 + CompositeSensorCommandCode.writeRegister.word + executableWord]) ∧
    (∀ bytes data, (∃ ack, parseReadRegisterAck bytes = .ok ack ∧ ack.data = data) ↔
      bytes = line [0x55AA, 0x0008, CompositeSensorCommandCode.readRegister.word, executableWord,
        data, 0x0008 + CompositeSensorCommandCode.readRegister.word + executableWord + data]) ∧
    ∀ bytes, Accepted bytes → ∀ i (hi : i < bytes.length) (v : UInt8), v ≠ bytes[i] →
      ¬Accepted (bytes.set i v) :=
  ⟨fun _ ↦ parseWriteRegisterAck_accepts, fun _ _ ↦ parseReadRegisterAck_accepts,
    fun _ h _ hi _ hv ↦ set_rejected h hi hv⟩

end CompositeSensorCommandParser

end TriFusion.DeviceControl
