import TriFusion.Library.Runs
import TriFusion.Protocol.UdpMpegTsPublisher

namespace TriFusion.Protocol

open Foundation Library Library.Runs Library.ChildTable Library.ThreadHandle

namespace UdpMpegTsPublisher

variable {p : UdpMpegTsPublisher} {table : List Child}

structure Untouched (p p' : UdpMpegTsPublisher) : Prop where
  running : p'.running = p.running
  senderThread : p'.senderThread = p.senderThread
  childPid : p'.childPid = p.childPid
  streamService : p.streamService = true → p'.streamService = true

/-- What a `start` leaves that has forked `child`: an error after a child that ended at once,
and else a sender thread, unless there was one. -/
inductive Spawned (p : UdpMpegTsPublisher) (table : List Child) (child : ℤ) :
    Option (Result Unit) × UdpMpegTsPublisher × List Child → Prop
  | ended {e : Status} {p' : UdpMpegTsPublisher} {table' : List Child}
      (hrunning : p'.running = false) (hthread : p'.senderThread = p.senderThread)
      (hpid : p'.childPid = -1) (hservice : p'.streamService = true)
      (htable : pids table' = pids table) :
      Spawned p table child (some (.error e), p', table')
  | started {p' : UdpMpegTsPublisher} {table' : List Child}
      (hrunning : p'.running = true) (hempty : p.senderThread = none)
      (hthread : p'.senderThread = some .check) (hpid : p'.childPid = child)
      (hservice : p'.streamService = true) (htable : pids table' = child :: pids table) :
      Spawned p table child (some (.ok ()), p', table')
  | crashed {p' : UdpMpegTsPublisher} {table' : List Child}
      (hjoinable : p.senderThread ≠ none) (hpid : p'.childPid = child)
      (htable : pids table' = child :: pids table) : Spawned p table child (none, p', table')

def Forks (config : UdpMpegTsPublisherConfig) (streamService : Bool) (io : SpawnIo)
    (p : UdpMpegTsPublisher) (table : List Child) : Prop :=
  p.running = false ∧ streamService = true ∧ config.udpUrl ≠ [] ∧ io.pipe = .ok () ∧
    ∃ child table', ChildTable.fork "Resource temporarily unavailable".toList
      (io.fork (buildFfmpegArgs config)) table = (.ok child, table')

theorem startFfmpeg_spawned {io : SpawnIo} (hpipe : io.pipe = .ok ()) {child : ℕ+}
    (hfork : ChildTable.fork "Resource temporarily unavailable".toList
      (io.fork (buildFfmpegArgs p.config)) table = (.ok child, { pid := child } :: table))
    (hfree : (child : ℤ) ∉ pids table) :
    (∃ e table', p.startFfmpeg io table =
        (.error e, { p with childPid := -1, writeFd := false }, table') ∧
        pids table' = pids table) ∨
      ∃ table', p.startFfmpeg io table =
        (.ok (), { p with childPid := child, writeFd := true }, table') ∧
        pids table' = (child : ℤ) :: pids table := by
  have hp : pids (expire io.ends ({ pid := child } :: table)) = (child : ℤ) :: pids table := by
    rw [pids_expire]
    rfl
  unfold startFfmpeg
  simp only [hpipe, hfork]
  rcases wait_cases child (expire io.ends ({ pid := child } :: table)) with
    ⟨hw, -⟩ | ⟨hw, -⟩ | ⟨ending, hw, -⟩
  · rw [hw]
    exact .inr ⟨_, rfl, hp⟩
  · rw [hw]
    exact .inr ⟨_, rfl, hp⟩
  · rw [hw]
    refine .inl ⟨_, _, rfl, ?_⟩
    rw [pids_filter, hp, List.filter_cons_of_neg (by simp), List.filter_eq_self]
    intro q hq
    simpa using fun he : q = child ↦ hfree (he ▸ hq)

theorem start_cases (config : UdpMpegTsPublisherConfig) (streamService : Bool) (io : SpawnIo)
    (p : UdpMpegTsPublisher) (table : List Child) :
    (¬Forks config streamService io p table ∧ ∃ result p',
        p.start config streamService io table = (some result, p', table) ∧ Untouched p p') ∨
      Forks config streamService io p table ∧ ∃ child : ℤ, 1 < child ∧ child ∉ pids table ∧
        Spawned p table child (p.start config streamService io table) := by
  unfold start
  by_cases hon : p.running = true
  · rw [if_pos hon]
    exact .inl ⟨fun h ↦ by simp [Forks, hon] at h, _, p, rfl, rfl, rfl, rfl, id⟩
  · have hrun : p.running = false := by simpa using hon
    rw [if_neg hon]
    cases hservice : streamService with
    | false => exact .inl ⟨fun h ↦ by simp [Forks] at h, _, p, rfl, rfl, rfl, rfl, id⟩
    | true =>
      rw [if_neg (by decide)]
      by_cases hurl : config.udpUrl = []
      · rw [if_pos hurl]
        exact .inl ⟨fun h ↦ h.2.2.1 hurl, _, p, rfl, rfl, rfl, rfl, id⟩
      · rw [if_neg hurl]
        dsimp only
        cases hpipe : io.pipe with
        | error errno =>
          simp only [startFfmpeg, hpipe]
          refine .inl ⟨fun h ↦ ?_, _, _, rfl, rfl, rfl, rfl, fun _ ↦ rfl⟩
          rw [Forks, hpipe] at h
          cases h.2.2.2.1
        | ok u =>
          rcases fork_cases "Resource temporarily unavailable".toList
            (io.fork (buildFfmpegArgs config)) table with ⟨errno, hf⟩ | ⟨child, hf, hone, hfree⟩
          · simp only [startFfmpeg, hpipe, hf]
            refine .inl ⟨fun h ↦ ?_, _, _, rfl, rfl, rfl, rfl, fun _ ↦ rfl⟩
            obtain ⟨-, -, -, -, child, table', hc⟩ := h
            rw [hf] at hc
            cases hc
          · refine .inr ⟨⟨hrun, rfl, hurl, hpipe, child, _, hf⟩, child, hone, hfree, ?_⟩
            rcases startFfmpeg_spawned (p := { p with
                config := config, streamService := true, stats := {} }) hpipe hf hfree with
              ⟨e, table', hs, hp⟩ | ⟨table', hs, hp⟩
            · rw [hs]
              exact .ended hrun rfl rfl rfl hp
            · rw [hs]
              dsimp only
              cases hthread : p.senderThread with
              | none => exact .started rfl hthread rfl rfl rfl hp
              | some phase => exact .crashed (by simp [hthread]) rfl hp

theorem waitChildIfExited_cases (p : UdpMpegTsPublisher) (table : List Child) :
    (p.waitChildIfExited table = (p, table) ∧
        (p.childPid < 0 ∨ ¬∃ ending, (wait p.childPid table).1 = .ended ending)) ∨
      (0 ≤ p.childPid ∧ ∃ ending, wait p.childPid table =
          (.ended ending, table.filter (·.pid != p.childPid))) ∧
        p.waitChildIfExited table = ({ p with childPid := -1, writeFd := false },
          table.filter (·.pid != p.childPid)) := by
  by_cases hp : p.childPid < 0
  · exact .inl ⟨if_pos hp, .inl hp⟩
  · unfold waitChildIfExited
    rw [if_neg hp]
    rcases wait_cases p.childPid table with ⟨hw, -⟩ | ⟨hw, -⟩ | ⟨ending, hw, -⟩
    · rw [hw]
      exact .inl ⟨rfl, .inr (by simp)⟩
    · rw [hw]
      exact .inl ⟨rfl, .inr (by simp)⟩
    · rw [hw]
      exact .inr ⟨⟨by omega, ending, rfl⟩, rfl⟩

end UdpMpegTsPublisher

namespace PublisherRun

open UdpMpegTsPublisher

/-- Every child that has been forked and not been reaped is `childPid_`. -/
def Tracked (r : PublisherRun) : Prop := ∀ pid ∈ pids r.table, pid = r.publisher.childPid

def Joins (r : PublisherRun) (input : PublisherInput) : Prop :=
  input = .join ∧ r.crashed = false ∧ r.joins = true

def Spawns (r : PublisherRun) : PublisherInput → Prop
  | .start config streamService io =>
    r.crashed = false ∧ r.stopping = false ∧ Forks config streamService io r.publisher r.table
  | _ => False

def WriteFails (r : PublisherRun) : PublisherInput → Prop
  | .sender _ written => r.crashed = false ∧
    (∃ bytes, r.publisher.senderThread = some (.write bytes)) ∧
      (r.publisher.writeFd && written) = false
  | _ => False

/-- What the state of the publisher says of its child and of its sender thread. -/
structure Sound (r : PublisherRun) : Prop where
  nodup : (pids r.table).Nodup
  positive : ∀ pid ∈ pids r.table, 0 < pid
  child : 0 ≤ r.publisher.childPid → r.publisher.childPid ∈ pids r.table
  returned : r.crashed = false → r.publisher.senderThread = some .returned →
    r.publisher.running = false
  running : r.crashed = false → r.stopping = false → ∀ phase ≠ .returned,
    r.publisher.senderThread = some phase → r.publisher.running = true
  service : r.crashed = false → ∀ phase ≠ .returned,
    r.publisher.senderThread = some phase → r.publisher.streamService = true
  writing : r.crashed = false → ∀ bytes, r.publisher.senderThread = some .frame ∨
    r.publisher.senderThread = some (.write bytes) → 0 ≤ r.publisher.childPid

variable {r : PublisherRun}

theorem step_start (hc : r.crashed = false) (hs : r.stopping = false)
    (config : UdpMpegTsPublisherConfig) (streamService : Bool) (io : SpawnIo) :
    r.step (.start config streamService io) = { r with
      publisher := (r.publisher.start config streamService io r.table).2.1
      table := (r.publisher.start config streamService io r.table).2.2
      crashed := (r.publisher.start config streamService io r.table).1.isNone } := by
  unfold step
  rw [if_neg (by simp [hc])]
  exact if_neg (by simp [hs])

theorem step_sender (hc : r.crashed = false) (frame : Option (List UInt8)) (written : Bool) :
    r.step (.sender frame written) = { r with
      publisher := (r.publisher.senderStep frame written r.table).1
      table := (r.publisher.senderStep frame written r.table).2 } := by
  unfold step
  exact if_neg (by simp [hc])

theorem step_join (hc : r.crashed = false) (hj : r.joins = true) :
    r.step .join = { r with
      publisher := (r.publisher.join r.table).1
      table := (r.publisher.join r.table).2
      stopping := false } := by
  unfold step
  rw [if_neg (by simp [hc])]
  exact if_pos hj

theorem step_stop (hc : r.crashed = false) (hs : r.stopping = false) :
    r.step .stop = { r with publisher := r.publisher.stop, stopping := true } := by
  unfold step
  rw [if_neg (by simp [hc])]
  exact if_neg (by simp [hs])

theorem step_ends (hc : r.crashed = false) (ends : ℤ → Option Ending) :
    r.step (.ends ends) = { r with table := expire ends r.table } := by
  unfold step
  exact if_neg (by simp [hc])

theorem step_crashed (hc : r.crashed = true) (input : PublisherInput) : r.step input = r := by
  unfold step
  exact if_pos hc

theorem step_busy (hs : r.stopping = true) {input : PublisherInput}
    (h : input = .stop ∨ ∃ config streamService io, input = .start config streamService io) :
    r.step input = r := by
  unfold step
  by_cases hc : r.crashed = true
  · exact if_pos hc
  · rw [if_neg hc]
    rcases h with rfl | ⟨config, streamService, io, rfl⟩
    · exact if_pos hs
    · exact if_pos hs

theorem step_join_waits (hj : r.joins = false) : r.step .join = r := by
  unfold step
  by_cases hc : r.crashed = true
  · exact if_pos hc
  · rw [if_neg hc]
    exact if_neg (by simp [hj])

theorem sound_initial : Sound {} := by
  constructor <;> simp

theorem filter_sound (h : Sound r) (pid : ℤ) :
    (pids (r.table.filter (·.pid != pid))).Nodup ∧
      ∀ q ∈ pids (r.table.filter (·.pid != pid)), 0 < q := by
  rw [pids_filter]
  exact ⟨h.nodup.filter _, fun q hq ↦ h.positive q (List.mem_of_mem_filter hq)⟩

theorem Sound.start (h : Sound r) (hc : r.crashed = false) (hs : r.stopping = false)
    (config : UdpMpegTsPublisherConfig) (streamService : Bool) (io : SpawnIo) :
    Sound (r.step (.start config streamService io)) := by
  rw [step_start hc hs]
  rcases start_cases config streamService io r.publisher r.table with
    ⟨-, result, p', hstart, hu⟩ | ⟨hf, child, hone, hfree, hsp⟩
  · rw [hstart]
    refine ⟨h.nodup, h.positive, ?_, ?_, ?_, ?_, ?_⟩
    · rw [hu.childPid]
      exact h.child
    · rw [hu.senderThread, hu.running]
      exact fun _ ↦ h.returned hc
    · rw [hu.senderThread, hu.running]
      exact fun _ ↦ h.running hc
    · rw [hu.senderThread]
      exact fun _ phase hne hp ↦ hu.streamService (h.service hc phase hne hp)
    · rw [hu.senderThread, hu.childPid]
      exact fun _ ↦ h.writing hc
  · generalize r.publisher.start config streamService io r.table = out at hsp
    cases hsp with
    | ended hrunning hthread hpid hservice htable =>
      have hover : ∀ phase, r.publisher.senderThread = some phase → phase = .returned := by
        intro phase hp
        by_contra hne
        have hon := h.running hc hs phase hne hp
        rw [hf.1] at hon
        cases hon
      refine ⟨by rw [htable]; exact h.nodup, by rw [htable]; exact h.positive, ?_, ?_, ?_, ?_, ?_⟩
      · intro hpos
        rw [hpid] at hpos
        exact absurd hpos (by decide)
      · exact fun _ _ ↦ hrunning
      · rw [hthread]
        exact fun _ _ phase hne hp ↦ absurd (hover phase hp) hne
      · exact fun _ _ _ _ ↦ hservice
      · rw [hthread]
        rintro - bytes (hp | hp)
        · cases hover _ hp
        · cases hover _ hp
    | started hrunning hempty hthread hpid hservice htable =>
      refine ⟨?_, ?_, ?_, ?_, ?_, ?_, ?_⟩
      · rw [htable]
        exact List.nodup_cons.mpr ⟨hfree, h.nodup⟩
      · rw [htable]
        intro q hq
        rcases List.mem_cons.mp hq with rfl | hq
        · omega
        · exact h.positive q hq
      · rw [htable, hpid]
        exact fun _ ↦ List.mem_cons_self
      · rw [hthread]
        intro _ hp
        cases hp
      · exact fun _ _ _ _ _ ↦ hrunning
      · exact fun _ _ _ _ ↦ hservice
      · rw [hthread]
        rintro - bytes (hp | hp)
        · cases hp
        · cases hp
    | crashed hjoinable hpid htable =>
      refine ⟨?_, ?_, ?_, ?_, ?_, ?_, ?_⟩
      · rw [htable]
        exact List.nodup_cons.mpr ⟨hfree, h.nodup⟩
      · rw [htable]
        intro q hq
        rcases List.mem_cons.mp hq with rfl | hq
        · omega
        · exact h.positive q hq
      · rw [htable, hpid]
        exact fun _ ↦ List.mem_cons_self
      all_goals
        intro hcrash
        cases hcrash

theorem reaped_child (h : Sound r) :
    (pids (r.publisher.waitChildIfExited r.table).2).Nodup ∧
      (∀ q ∈ pids (r.publisher.waitChildIfExited r.table).2, 0 < q) ∧
      (0 ≤ (r.publisher.waitChildIfExited r.table).1.childPid →
        (r.publisher.waitChildIfExited r.table).1.childPid ∈
          pids (r.publisher.waitChildIfExited r.table).2) := by
  rcases waitChildIfExited_cases r.publisher r.table with ⟨he, -⟩ | ⟨-, he⟩
  · rw [he]
    exact ⟨h.nodup, h.positive, h.child⟩
  · rw [he]
    obtain ⟨hn, hp⟩ := filter_sound h r.publisher.childPid
    exact ⟨hn, hp, fun hpos : 0 ≤ (-1 : ℤ) ↦ absurd hpos (by decide)⟩

theorem waitChildIfExited_running (p : UdpMpegTsPublisher) (table : List Child) :
    (p.waitChildIfExited table).1.running = p.running ∧
      (p.waitChildIfExited table).1.senderThread = p.senderThread ∧
      (p.waitChildIfExited table).1.streamService = p.streamService := by
  rcases waitChildIfExited_cases p table with ⟨he, -⟩ | ⟨-, he⟩
  · rw [he]
    exact ⟨rfl, rfl, rfl⟩
  · rw [he]
    exact ⟨rfl, rfl, rfl⟩

theorem Sound.moved (h : Sound r) {p : UdpMpegTsPublisher}
    (hpid : p.childPid = r.publisher.childPid)
    (hover : p.senderThread = some .returned → p.running = false)
    (hrunning : r.stopping = false → ∀ phase ≠ .returned, p.senderThread = some phase →
      p.running = true)
    (hservice : ∀ phase ≠ .returned, p.senderThread = some phase → p.streamService = true)
    (hwriting : ∀ bytes, p.senderThread = some .frame ∨ p.senderThread = some (.write bytes) →
      0 ≤ p.childPid) : Sound { r with publisher := p } :=
  ⟨h.nodup, h.positive, by rw [hpid]; exact h.child, fun _ ↦ hover, fun _ ↦ hrunning,
    fun _ ↦ hservice, fun _ ↦ hwriting⟩

theorem Sound.reap (h : Sound r) (hc : r.crashed = false)
    (hphase : r.publisher.senderThread = some .reap) (frame : Option (List UInt8))
    (written : Bool) : Sound (r.step (.sender frame written)) := by
  have hservice := h.service hc .reap (by simp) hphase
  have hon : r.stopping = false → r.publisher.running = true :=
    fun hs ↦ h.running hc hs .reap (by simp) hphase
  obtain ⟨hrun, hthread, hserv⟩ := waitChildIfExited_running r.publisher r.table
  obtain ⟨hn, hp, hchild⟩ := reaped_child h
  rw [step_sender hc]
  simp only [senderStep, hphase, hservice, Bool.not_true, Bool.false_eq_true, if_false]
  by_cases hpid : (r.publisher.waitChildIfExited r.table).1.childPid < 0
  · rw [if_pos hpid]
    refine ⟨hn, hp, hchild, ?_, ?_, ?_, ?_⟩
    · intro _ hp
      cases hp
    · exact fun _ hs _ _ _ ↦ hrun.trans (hon hs)
    · exact fun _ _ _ _ ↦ hserv.trans hservice
    · rintro _ bytes (hp | hp)
      · cases hp
      · cases hp
  · rw [if_neg hpid]
    refine ⟨hn, hp, hchild, ?_, ?_, ?_, ?_⟩
    · intro _ hp
      cases hp
    · exact fun _ hs _ _ _ ↦ hrun.trans (hon hs)
    · exact fun _ _ _ _ ↦ hserv.trans hservice
    · intro _ _ _
      simpa using hpid

theorem Sound.sender (h : Sound r) (hc : r.crashed = false) (frame : Option (List UInt8))
    (written : Bool) : Sound (r.step (.sender frame written)) := by
  cases hphase : r.publisher.senderThread with
  | none =>
    rw [step_sender hc]
    simp only [senderStep, hphase]
    exact h
  | some phase =>
    have hlive : phase ≠ .returned → r.publisher.streamService = true ∧
        (r.stopping = false → r.publisher.running = true) := fun hne ↦
      ⟨h.service hc phase hne hphase, fun hs ↦ h.running hc hs phase hne hphase⟩
    cases phase with
    | check =>
      obtain ⟨hservice, hon⟩ := hlive (by simp)
      rw [step_sender hc]
      simp only [senderStep, hphase]
      refine h.moved rfl ?_ (fun hs _ _ _ ↦ hon hs) (fun _ _ _ ↦ hservice) ?_
      · cases r.publisher.running <;> simp
      · cases r.publisher.running <;> simp
    | reap => exact h.reap hc hphase frame written
    | frame =>
      obtain ⟨hservice, hon⟩ := hlive (by simp)
      have hpid := h.writing hc [] (.inl hphase)
      rw [step_sender hc]
      simp only [senderStep, hphase]
      cases frame with
      | none =>
        refine h.moved rfl ?_ (fun hs _ _ _ ↦ hon hs) (fun _ _ _ ↦ hservice) fun _ _ ↦ hpid
        simp
      | some bytes =>
        refine h.moved rfl ?_ (fun hs _ _ _ ↦ hon hs) (fun _ _ _ ↦ hservice) fun _ _ ↦ hpid
        by_cases hb : bytes = [] <;> simp [hb]
    | write bytes =>
      obtain ⟨hservice, hon⟩ := hlive (by simp)
      have hpid := h.writing hc bytes (.inr hphase)
      rw [step_sender hc]
      simp only [senderStep, hphase]
      by_cases hw : (r.publisher.writeFd && written) = true
      · rw [if_pos hw]
        refine h.moved rfl ?_ (fun hs _ _ _ ↦ hon hs) (fun _ _ _ ↦ hservice) fun _ _ ↦ hpid
        simp
      · rw [if_neg hw]
        refine h.moved rfl ?_ (fun hs _ _ _ ↦ hon hs) (fun _ _ _ ↦ hservice) fun _ _ ↦ hpid
        simp
    | ending =>
      rw [step_sender hc]
      simp only [senderStep, hphase]
      refine h.moved rfl (fun _ ↦ rfl) ?_ ?_ ?_
      · intro _ phase hne hp
        exact absurd (Option.some.inj hp).symm hne
      · intro phase hne hp
        exact absurd (Option.some.inj hp).symm hne
      · simp
    | returned =>
      rw [step_sender hc]
      simp only [senderStep, hphase]
      exact h

theorem join_senderThread (p : UdpMpegTsPublisher) (table : List Child) :
    (p.join table).1.senderThread = none :=
  (waitChildIfExited_running (closeWritePipe { p with senderThread := none }) table).2.1

theorem Sound.joined (h : Sound r) :
    Sound { r with publisher := closeWritePipe { r.publisher with senderThread := none } } := by
  refine h.moved rfl ?_ ?_ ?_ ?_
  all_goals simp [closeWritePipe]

theorem Sound.join (h : Sound r) (hc : r.crashed = false) (hj : r.joins = true) :
    Sound (r.step .join) := by
  obtain ⟨hn, hp, hchild⟩ := reaped_child h.joined
  have hnone := join_senderThread r.publisher r.table
  rw [step_join hc hj]
  refine ⟨hn, hp, hchild, ?_, ?_, ?_, ?_⟩
  · intro _ hphase
    rw [hnone] at hphase
    cases hphase
  · intro _ _ _ _ hphase
    rw [hnone] at hphase
    cases hphase
  · intro _ _ _ hphase
    rw [hnone] at hphase
    cases hphase
  · rintro _ _ (hphase | hphase)
    · rw [hnone] at hphase
      cases hphase
    · rw [hnone] at hphase
      cases hphase

theorem Sound.step (h : Sound r) (input : PublisherInput) : Sound (r.step input) := by
  by_cases hcrash : r.crashed = true
  · rw [step_crashed hcrash]
    exact h
  have hc : r.crashed = false := by simpa using hcrash
  cases input with
  | start config streamService io =>
    by_cases hs : r.stopping = true
    · rw [step_busy hs (.inr ⟨config, streamService, io, rfl⟩)]
      exact h
    · exact h.start hc (by simpa using hs) config streamService io
  | stop =>
    by_cases hs : r.stopping = true
    · rw [step_busy hs (.inl rfl)]
      exact h
    · rw [step_stop hc (by simpa using hs)]
      refine ⟨h.nodup, h.positive, h.child, fun _ _ ↦ rfl, ?_, h.service, h.writing⟩
      intro _ hidle
      cases hidle
  | join =>
    by_cases hj : r.joins = true
    · exact h.join hc hj
    · rw [step_join_waits (by simpa using hj)]
      exact h
  | sender frame written => exact h.sender hc frame written
  | ends ends =>
    rw [step_ends hc]
    exact ⟨by simpa using h.nodup, by simpa using h.positive, by simpa using h.child, h.returned,
      h.running, h.service, h.writing⟩

theorem exec_sound (inputs : List PublisherInput) : Sound (exec PublisherRun.step {} inputs) :=
  exec_invariant (fun _ input h ↦ h.step input) sound_initial inputs

end PublisherRun

end TriFusion.Protocol
