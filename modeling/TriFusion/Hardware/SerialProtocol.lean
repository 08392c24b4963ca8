import TriFusion.Foundation.ByteUtils
import TriFusion.Foundation.Result

namespace TriFusion.Hardware

open Foundation Foundation.Bytes Library.Words

structure SerialFrame where
  payload : List UInt8
  deriving DecidableEq

namespace SerialProtocol

def appendChecksumBE (payload : List UInt8) : SerialFrame :=
  let sum := checksum16 payload
  { payload := Bytes.appendBe16 payload sum }

def parseWithChecksumBE (frame : List UInt8) : Result SerialFrame :=
  if frame.length < 3 then .fail .invalidArgument "serial frame too short"
  else
    let payload := frame.take (frame.length - 2)
    let expected := Bytes.be16 (frame.drop (frame.length - 2))
    let actual := checksum16 payload
    if expected ≠ actual then .fail .serialAckInvalid "serial checksum mismatch"
    else .ok { payload := payload }

variable {payload : List UInt8}

theorem parseWithChecksumBE_append (hp : payload ≠ []) (word : UInt16) :
    parseWithChecksumBE (payload ++ wordBytes word) =
      if word ≠ checksum16 payload then .fail .serialAckInvalid "serial checksum mismatch"
      else .ok { payload := payload } := by
  have hpos : 0 < payload.length := List.length_pos_iff.mpr hp
  have hlen : (payload ++ wordBytes word).length - 2 = payload.length := by simp
  have hshort : ¬(payload ++ wordBytes word).length < 3 := by
    rw [List.length_append, length_wordBytes]
    omega
  have hword : Bytes.be16 (wordBytes word) = word := by
    rw [wordBytes_eq]
    exact wordOf_wordBytes word
  rw [parseWithChecksumBE, if_neg hshort]
  simp only [hlen, List.take_left, List.drop_left, hword]

theorem appendChecksumBE_eq (payload : List UInt8) :
    (appendChecksumBE payload).payload = payload ++ wordBytes (checksum16 payload) :=
  appendBe16_eq payload _

theorem parseWithChecksumBE_appendChecksumBE (hp : payload ≠ []) :
    parseWithChecksumBE (appendChecksumBE payload).payload = .ok { payload := payload } := by
  rw [appendChecksumBE_eq, parseWithChecksumBE_append hp, if_neg (not_not_intro rfl)]

theorem parseWithChecksumBE_set (hp : payload ≠ []) {i : ℕ} (b : UInt8)
    (hi : i < (appendChecksumBE payload).payload.length)
    (hb : b ≠ (appendChecksumBE payload).payload[i]) :
    parseWithChecksumBE ((appendChecksumBE payload).payload.set i b) =
      .fail .serialAckInvalid "serial checksum mismatch" := by
  simp only [appendChecksumBE_eq] at hi hb ⊢
  by_cases hin : i < payload.length
  · have hne : payload.set i b ≠ [] := by
      intro h
      rw [List.set_eq_nil_iff] at h
      exact hp h
    rw [List.set_append_left _ _ hin, parseWithChecksumBE_append hne]
    rw [if_pos]
    intro heq
    rw [List.getElem_append_left hin] at hb
    exact hb (checksum16_set payload b hin heq.symm)
  · have hend : i - payload.length < (wordBytes (checksum16 payload)).length := by
      rw [List.length_append] at hi
      omega
    have hset : ∃ word, (wordBytes (checksum16 payload)).set (i - payload.length) b =
        wordBytes word := by
      rw [wordBytes_eq]
      rw [length_wordBytes] at hend
      generalize i - payload.length = k at hend
      rcases k with _ | _ | k
      · exact ⟨_, (wordBytes_wordOf b _).symm⟩
      · exact ⟨_, (wordBytes_wordOf _ b).symm⟩
      · omega
    obtain ⟨word, hword⟩ := hset
    rw [List.set_append_right _ _ (by omega), hword, parseWithChecksumBE_append hp, if_pos]
    rintro rfl
    rw [List.getElem_append_right (by omega)] at hb
    apply hb
    have hat := congrArg (·[i - payload.length]?) hword
    simp only [List.getElem?_set_self hend, List.getElem?_eq_getElem hend] at hat
    exact Option.some.inj hat

end SerialProtocol

end TriFusion.Hardware
