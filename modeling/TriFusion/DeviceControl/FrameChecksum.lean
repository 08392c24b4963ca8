import TriFusion.Hardware.SerialProtocol
import TriFusion.DeviceControl.RegisterFrames
import Mathlib.Data.UInt

namespace TriFusion.DeviceControl

open Foundation Foundation.Bytes Hardware Hardware.SerialProtocol
open Library.Words Library.PairSum CompositeSensorCommandBuilder

theorem checksum16_line (ws : List UInt16) : checksum16 (line ws) = ws.sum := by
  have hpair : ∀ ws : List UInt16,
      pairSum 256 ((line ws).map UInt8.toNat) % 2 ^ 16 = ws.sum.toNat := by
    intro ws
    induction ws with
    | nil => rfl
    | cons w rest ih =>
      have hw : w.toNat < 2 ^ 16 := w.toNat_lt
      rw [line_cons, wordBytes_eq, List.sum_cons, UInt16.toNat_add, ← ih]
      simp only [List.cons_append, List.nil_append, List.map_cons, pairSum, UInt8.toNat_ofNat']
      omega
  apply UInt16.toNat_inj.mp
  rw [checksum16_toNat, hpair]

theorem parseWithChecksumBE_line {ws : List UInt16} (hws : ws ≠ []) {word : UInt16}
    (h : word = ws.sum) :
    parseWithChecksumBE ((line (kHeader :: ws ++ [word])).drop 2) = .ok ⟨line ws⟩ := by
  have hne : line ws ≠ [] := by
    intro hn
    apply hws
    have hl := congrArg List.length hn
    rw [length_line] at hl
    exact List.length_eq_zero_iff.mp (by simpa using hl)
  have hd : (line (kHeader :: ws ++ [word])).drop 2 = line ws ++ wordBytes word := by
    rw [List.cons_append, line_cons]
    simp [line, wordBytes]
  rw [hd, parseWithChecksumBE_append hne, if_neg]
  rw [checksum16_line, h]
  exact not_not_intro rfl

/-- Frames survive their checksum, a changed byte does not, and the register frames carry
the checksum the parser computes. -/
theorem serial_frame_codec :
    (∀ payload : List UInt8, payload ≠ [] →
      parseWithChecksumBE (appendChecksumBE payload).payload = .ok ⟨payload⟩ ∧
      ∀ (i : ℕ) (hi : i < (appendChecksumBE payload).payload.length) (b : UInt8),
        b ≠ (appendChecksumBE payload).payload[i] →
          ∃ e, parseWithChecksumBE ((appendChecksumBE payload).payload.set i b) = .error e) ∧
    (∀ address : UInt16, ∃ frame, buildReadRegister true address = .ok frame ∧
      ∃ accepted, parseWithChecksumBE (frame.drop 2) = .ok accepted) ∧
    ∀ address value : UInt16, ∃ frame, buildWriteRegister true address value = .ok frame ∧
      ∃ accepted, parseWithChecksumBE (frame.drop 2) = .ok accepted := by
  refine ⟨fun payload hp ↦ ⟨parseWithChecksumBE_appendChecksumBE hp, ?_⟩, ?_, ?_⟩
  · intro i hi b hb
    exact ⟨_, parseWithChecksumBE_set hp b hi hb⟩
  · intro address
    refine ⟨_, buildReadRegister_ok address, _,
      parseWithChecksumBE_line (List.cons_ne_nil kReadLength [0x5AF8, address]) ?_⟩
    simp [UInt16.add_assoc]
  · intro address value
    refine ⟨_, buildWriteRegister_ok address value, _,
      parseWithChecksumBE_line (List.cons_ne_nil kWriteLength [0x5AF9, address, value]) ?_⟩
    simp [UInt16.add_assoc]

end TriFusion.DeviceControl
