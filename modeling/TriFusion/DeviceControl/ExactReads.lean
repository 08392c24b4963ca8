import TriFusion.DeviceControl.Controller

namespace TriFusion.DeviceControl

open Foundation Hardware

namespace CompositeSensorController

variable {ω : Type}

/-- As long as bytes are there, a read of the open port delivers some of them, as many as
were asked for at most. -/
def CutsStream (tty : Tty ω) (timeoutMs : Int32) (unread : ω → List UInt8) : Prop :=
  ∀ (w : ω) (maxBytes : ℕ), maxBytes ≠ 0 → unread w ≠ [] → ∃ chunk w',
    SerialPort.readBytes tty true maxBytes timeoutMs w = (.ok chunk, w') ∧
      chunk ≠ [] ∧ chunk.length ≤ maxBytes ∧ unread w = chunk ++ unread w'

variable {tty : Tty ω} {timeoutMs : Int32} {unread : ω → List UInt8}

theorem readExactLoop_cuts (h : CutsStream tty timeoutMs unread) (missing : ℕ)
    (out : List UInt8) (w : ω) (hw : missing ≤ (unread w).length) :
    ∃ w', readExactLoop tty true timeoutMs missing out w =
        (.ok (out ++ (unread w).take missing), w') ∧
      unread w' = (unread w).drop missing := by
  induction missing using Nat.strong_induction_on generalizing out w with
  | _ missing ih =>
    rw [readExactLoop]
    by_cases hm : missing = 0
    · refine ⟨w, ?_, ?_⟩
      · rw [if_pos hm, hm, List.take_zero, List.append_nil]
      · rw [hm, List.drop_zero]
    · have hne : unread w ≠ [] := by
        intro hn
        rw [hn, List.length_nil] at hw
        omega
      obtain ⟨chunk, w₁, hr, hc, hlen, hu⟩ := h w missing hm hne
      have hpos : 0 < chunk.length := List.length_pos_iff.mpr hc
      have hleft : missing - chunk.length ≤ (unread w₁).length := by
        rw [hu, List.length_append] at hw
        omega
      obtain ⟨w', he, hd⟩ := ih (missing - chunk.length) (by omega) (out ++ chunk) w₁ hleft
      refine ⟨w', ?_, ?_⟩
      · simp only [if_neg hm, hr, if_neg hc, he]
        rw [hu, List.take_append, List.take_of_length_le hlen, List.append_assoc]
      · rw [hd, hu, List.drop_append, List.drop_of_length_le hlen, List.nil_append]

/-- However the stream is cut, `readExact` takes the bytes asked for and no more. -/
theorem readExact_cuts (h : CutsStream tty timeoutMs unread) (expectedBytes : ℕ) (w : ω)
    (hw : expectedBytes ≤ (unread w).length) :
    ∃ w', readExact tty true expectedBytes timeoutMs w =
        (.ok ((unread w).take expectedBytes), w') ∧
      unread w' = (unread w).drop expectedBytes := by
  have hloop := readExactLoop_cuts h expectedBytes [] w hw
  simpa only [readExact, List.nil_append] using hloop

section Cuts

structure Incoming where
  unread : List UInt8
  reads : ℕ := 0

def cutLine (cut : ℕ → ℕ+) : Tty Incoming where
  write bytes w := (.ok bytes.length.succPNat, w)
  poll _ w := (.ok !w.unread.isEmpty, w)
  read maxBytes w :=
    (.ok (w.unread.take (min (cut w.reads) maxBytes)),
      ⟨w.unread.drop (min (cut w.reads) maxBytes), w.reads + 1⟩)

theorem cutLine_cuts (cut : ℕ → ℕ+) (timeoutMs : Int32) :
    CutsStream (cutLine cut) timeoutMs Incoming.unread := by
  intro w maxBytes hm hne
  have hpos : 0 < min (cut w.reads : ℕ) maxBytes := by
    have hc := (cut w.reads).pos
    omega
  have hunread : 0 < w.unread.length := List.length_pos_iff.mpr hne
  have hpoll : (!w.unread.isEmpty) = true := by simpa using hne
  have hshort : (w.unread.take (min (cut w.reads) maxBytes)).length ≤ maxBytes := by
    rw [List.length_take]
    omega
  refine ⟨w.unread.take (min (cut w.reads) maxBytes),
    ⟨w.unread.drop (min (cut w.reads) maxBytes), w.reads + 1⟩, ?_, ?_, hshort, ?_⟩
  · simp only [SerialPort.readBytes, cutLine, hpoll, if_neg hm, Bool.not_true, Bool.false_eq_true,
      if_false, List.take_of_length_le hshort]
  · intro hn
    have hl := congrArg List.length hn
    rw [List.length_take, List.length_nil] at hl
    omega
  · exact (List.take_append_drop _ _).symm

theorem readExact_cuts_pairs :
    ∃ w', readExact (cutLine fun _ ↦ 2) true 3 100 ⟨[1, 2, 3, 4, 5], 0⟩ = (.ok [1, 2, 3], w') ∧
      w'.unread = [4, 5] :=
  readExact_cuts (cutLine_cuts (fun _ ↦ 2) 100) 3 ⟨[1, 2, 3, 4, 5], 0⟩ (by decide)

end Cuts

end CompositeSensorController

end TriFusion.DeviceControl
