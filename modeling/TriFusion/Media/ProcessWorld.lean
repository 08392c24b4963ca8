import TriFusion.Media.GStreamerPipeline

namespace TriFusion.Media

open Foundation

variable {ω π : Type}

namespace ProcessIo

structure Keeps (io : ProcessIo ω) (I : ω → Prop) : Prop where
  fork : ∀ args w, I w → I (io.fork args w).2
  waitpid : ∀ pid w, I w → I (io.waitpid pid w).2
  kill : ∀ pid signal w, I w → I (io.kill pid signal w)
  polls : ∀ timeoutMs w, I w → I (io.polls timeoutMs w).2

def behind (io : ProcessIo π) : ProcessIo (ω × π) where
  fork args x := ((io.fork args x.2).1, x.1, (io.fork args x.2).2)
  waitpid pid x := ((io.waitpid pid x.2).1, x.1, (io.waitpid pid x.2).2)
  kill pid signal x := (x.1, io.kill pid signal x.2)
  polls timeoutMs x := ((io.polls timeoutMs x.2).1, x.1, (io.polls timeoutMs x.2).2)

theorem behind_keeps (io : ProcessIo π) (I : ω → Prop) :
    io.behind.Keeps fun x : ω × π ↦ I x.1 :=
  ⟨fun _ _ h ↦ h, fun _ _ h ↦ h, fun _ _ _ h ↦ h, fun _ _ h ↦ h⟩

end ProcessIo

variable {io : ProcessIo ω} {I : ω → Prop} {w : ω}

namespace GStreamerProcess

theorem isRunning_keeps (h : io.Keeps I) (p : GStreamerProcess) (hw : I w) :
    I (p.isRunning io w).2.2 := by
  have hpid := h.waitpid p.pid w hw
  unfold isRunning
  split
  · exact hw
  · generalize io.waitpid p.pid w = r at hpid ⊢
    obtain ⟨answer, w'⟩ := r
    cases answer <;> exact hpid

theorem start_keeps (h : io.Keeps I) (args : List Text) (p : GStreamerProcess) (hw : I w) :
    I (p.start io args w).2.2 := by
  have hrun := isRunning_keeps h p hw
  unfold start
  split
  · exact hw
  · generalize p.isRunning io w = r at hrun ⊢
    obtain ⟨running, p₁, w₁⟩ := r
    cases running with
    | true => exact hrun
    | false =>
      have hfork := h.fork args w₁ hrun
      dsimp only
      generalize io.fork args w₁ = r at hfork ⊢
      obtain ⟨errno | child, w₂⟩ := r
      · exact hfork
      · have hnew := isRunning_keeps h { pid := child, exitCode := -1, lastError := [] } hfork
        dsimp only
        generalize isRunning io { pid := child, exitCode := -1, lastError := [] } w₂ = r
          at hnew ⊢
        obtain ⟨running, p₃, w₃⟩ := r
        cases running <;> exact hnew

theorem pollExit_keeps (h : io.Keeps I) (n : ℕ) (p : GStreamerProcess) (hw : I w) :
    I (p.pollExit io n w).2.2 := by
  induction n generalizing p w with
  | zero => exact hw
  | succ n ih =>
    have hrun := isRunning_keeps h p hw
    rw [pollExit]
    generalize p.isRunning io w = r at hrun ⊢
    obtain ⟨running, p₁, w₁⟩ := r
    cases running with
    | false => exact hrun
    | true => exact ih p₁ hrun

theorem askToEnd_keeps (h : io.Keeps I) (signal : StopSignal) (timeoutMs : Int32)
    (p : GStreamerProcess) (hw : I w) : I (p.askToEnd io signal timeoutMs w).2.2 := by
  have hkill := h.kill p.pid signal w hw
  have hwait : I (p.waitForExit io timeoutMs (io.kill p.pid signal w)).2.2 := by
    have hpolls := h.polls timeoutMs _ hkill
    unfold waitForExit
    generalize io.polls timeoutMs (io.kill p.pid signal w) = r at hpolls ⊢
    obtain ⟨n, w₁⟩ := r
    have hexit := pollExit_keeps h n p hpolls
    dsimp only
    generalize p.pollExit io n w₁ = r at hexit ⊢
    obtain ⟨gone, p₂, w₂⟩ := r
    cases gone with
    | true => exact hexit
    | false => exact isRunning_keeps h p₂ hexit
  unfold askToEnd
  generalize p.waitForExit io timeoutMs (io.kill p.pid signal w) = r at hwait ⊢
  obtain ⟨gone, p₁, w₁⟩ := r
  cases gone <;> exact hwait

theorem stop_keeps (h : io.Keeps I) (timeoutMs : Int32) (p : GStreamerProcess) (hw : I w) :
    I (p.stop io timeoutMs w).2.2 := by
  have hrun := isRunning_keeps h p hw
  unfold stop
  split
  · exact hw
  generalize p.isRunning io w = r at hrun ⊢
  obtain ⟨running, p₁, w₁⟩ := r
  cases running with
  | false => exact hrun
  | true =>
    have hint := askToEnd_keeps h .sigint timeoutMs p₁ hrun
    dsimp only
    generalize p₁.askToEnd io .sigint timeoutMs w₁ = r at hint ⊢
    obtain ⟨gone, p₂, w₂⟩ := r
    cases gone with
    | true => exact hint
    | false =>
      have hterm := askToEnd_keeps h .sigterm 500 p₂ hint
      dsimp only
      generalize p₂.askToEnd io .sigterm 500 w₂ = r at hterm ⊢
      obtain ⟨gone, p₃, w₃⟩ := r
      cases gone with
      | true => exact hterm
      | false =>
        have hkill := askToEnd_keeps h .sigkill 500 p₃ hterm
        dsimp only
        generalize p₃.askToEnd io .sigkill 500 w₃ = r at hkill ⊢
        obtain ⟨gone, p₄, w₄⟩ := r
        cases gone <;> exact hkill

end GStreamerProcess

namespace GStreamerPipeline

theorem start_keeps (h : io.Keeps I) (p : GStreamerPipeline) (hw : I w) :
    I (p.start io w).2.2 := by
  have hstart := GStreamerProcess.start_keeps h
    (GStreamerPipelineBuilder.buildUdpMpegTsH264Args p.config) p.process hw
  unfold start
  generalize p.process.start io (GStreamerPipelineBuilder.buildUdpMpegTsH264Args p.config) w = r
    at hstart ⊢
  obtain ⟨started, process, w'⟩ := r
  cases started <;> exact hstart

theorem stop_keeps (h : io.Keeps I) (p : GStreamerPipeline) (hw : I w) :
    I (p.stop io w).2.2 := by
  have hstop := GStreamerProcess.stop_keeps h p.config.stopTimeoutMs p.process hw
  unfold stop
  generalize p.process.stop io p.config.stopTimeoutMs w = r at hstop ⊢
  obtain ⟨stopped, process, w'⟩ := r
  cases stopped <;> exact hstop

end GStreamerPipeline

end TriFusion.Media
