import TriFusion.Protocol.PublisherChildren

namespace TriFusion.Protocol

open Foundation Library Library.Runs Library.ChildTable Library.ThreadHandle

namespace PublisherRun

open UdpMpegTsPublisher

variable {r : PublisherRun} {input : PublisherInput}

/-- The sender loop is done, and `childPid_` still names a child. -/
def Abandoned (r : PublisherRun) : Prop :=
  (r.publisher.senderThread = some .ending ∨ r.publisher.senderThread = some .returned) ∧
    0 ≤ r.publisher.childPid

theorem spawns_cases (h : Spawns r input) :
    ∃ child : ℤ, 1 < child ∧ child ∉ pids r.table ∧
      ∃ out, Spawned r.publisher r.table child out ∧
        r.step input =
          { r with publisher := out.2.1, table := out.2.2, crashed := out.1.isNone } := by
  cases input with
  | start config streamService io =>
    obtain ⟨hc, hs, hf⟩ := h
    rcases start_cases config streamService io r.publisher r.table with
      ⟨hn, -⟩ | ⟨-, child, hone, hfree, hsp⟩
    · exact absurd hf hn
    · exact ⟨child, hone, hfree, _, hsp, step_start hc hs config streamService io⟩
  | stop => exact h.elim
  | join => exact h.elim
  | sender frame written => exact h.elim
  | ends ends => exact h.elim

theorem spawn_untracks (h : Sound r) (hpid : 0 ≤ r.publisher.childPid) (hs : Spawns r input) :
    ¬Tracked (r.step input) := by
  obtain ⟨child, hone, hfree, out, hsp, he⟩ := spawns_cases hs
  have hm := h.child hpid
  rw [he]
  intro ht
  cases hsp with
  | ended hrunning hthread hchild hservice htable =>
    have hlost : r.publisher.childPid = -1 := (ht _ (htable ▸ hm)).trans hchild
    omega
  | started hrunning hempty hthread hchild hservice htable =>
    have hlost : r.publisher.childPid = child :=
      (ht _ (htable ▸ List.mem_cons_of_mem child hm)).trans hchild
    exact hfree (hlost ▸ hm)
  | crashed hjoinable hchild htable =>
    have hlost : r.publisher.childPid = child :=
      (ht _ (htable ▸ List.mem_cons_of_mem child hm)).trans hchild
    exact hfree (hlost ▸ hm)

theorem step_start_untouched {config : UdpMpegTsPublisherConfig} {streamService : Bool}
    {io : SpawnIo} (hs : ¬Spawns r (.start config streamService io)) :
    (r.step (.start config streamService io)).table = r.table ∧
      Untouched r.publisher (r.step (.start config streamService io)).publisher ∧
      (r.step (.start config streamService io)).stopping = r.stopping ∧
      (r.step (.start config streamService io)).crashed = r.crashed := by
  have hsame : Untouched r.publisher r.publisher := ⟨rfl, rfl, rfl, id⟩
  by_cases hcrash : r.crashed = true
  · rw [step_crashed hcrash]
    exact ⟨rfl, hsame, rfl, rfl⟩
  by_cases hstop : r.stopping = true
  · rw [step_busy hstop (.inr ⟨config, streamService, io, rfl⟩)]
    exact ⟨rfl, hsame, rfl, rfl⟩
  have hc : r.crashed = false := by simpa using hcrash
  have hidle : r.stopping = false := by simpa using hstop
  rw [step_start hc hidle]
  rcases start_cases config streamService io r.publisher r.table with
    ⟨-, result, p', he, hu⟩ | ⟨hf, -⟩
  · rw [he]
    exact ⟨rfl, hu, rfl, hc.symm⟩
  · exact absurd ⟨hc, hidle, hf⟩ hs

theorem Abandoned.kept (h : Abandoned r) (hj : ¬Joins r input) (hs : ¬Spawns r input) :
    Abandoned (r.step input) := by
  by_cases hcrash : r.crashed = true
  · rw [step_crashed hcrash]
    exact h
  have hc : r.crashed = false := by simpa using hcrash
  cases input with
  | start config streamService io =>
    obtain ⟨-, hu, -, -⟩ := step_start_untouched hs
    rw [Abandoned, hu.senderThread, hu.childPid]
    exact h
  | stop =>
    by_cases hstop : r.stopping = true
    · rw [step_busy hstop (.inl rfl)]
      exact h
    · rw [step_stop hc (by simpa using hstop)]
      exact h
  | join =>
    have hw : r.joins = false := by simpa [Joins, hc] using hj
    rw [step_join_waits hw]
    exact h
  | sender frame written =>
    rw [step_sender hc]
    obtain ⟨hphase | hphase, hpid⟩ := h
    · simp only [senderStep, hphase]
      exact ⟨.inr rfl, hpid⟩
    · simp only [senderStep, hphase]
      exact ⟨.inr hphase, hpid⟩
  | ends ends =>
    rw [step_ends hc]
    exact h

theorem WriteFails.abandons (h : Sound r) (hw : WriteFails r input) : Abandoned (r.step input) := by
  cases input with
  | sender frame written =>
    obtain ⟨hc, ⟨bytes, hphase⟩, hfail⟩ := hw
    have hpid := h.writing hc bytes (.inr hphase)
    rw [step_sender hc]
    simp only [senderStep, hphase, hfail, Bool.false_eq_true, if_false]
    exact ⟨.inl rfl, hpid⟩
  | start config streamService io => exact hw.elim
  | stop => exact hw.elim
  | join => exact hw.elim
  | ends ends => exact hw.elim

/-- Between two stops the loop leaves its child only when a write fails. -/
theorem abandoned_step (h : Sound r)
    (ha : Abandoned (r.step input) ∧ (r.step input).stopping = false ∧
      (r.step input).crashed = false) :
    WriteFails r input ∨
      (Abandoned r ∧ r.stopping = false ∧ r.crashed = false) ∧ ¬Joins r input := by
  by_cases hcrash : r.crashed = true
  · rw [step_crashed hcrash] at ha
    rw [ha.2.2] at hcrash
    cases hcrash
  have hc : r.crashed = false := by simpa using hcrash
  cases input with
  | start config streamService io =>
    have hj : ¬Joins r (.start config streamService io) := fun hj ↦ by cases hj.1
    by_cases hs : Spawns r (.start config streamService io)
    · obtain ⟨child, hone, hfree, out, hsp, he⟩ := spawns_cases hs
      rw [he] at ha
      obtain ⟨⟨hphase, hpid⟩, -, halive⟩ := ha
      cases hsp with
      | ended hrunning hthread hchild hservice htable =>
        rw [hchild] at hpid
        exact absurd hpid (by decide)
      | started hrunning hempty hthread hchild hservice htable =>
        rw [hthread] at hphase
        rcases hphase with hphase | hphase
        · cases hphase
        · cases hphase
      | crashed hjoinable hchild htable => cases halive
    · obtain ⟨-, hu, hstop, -⟩ := step_start_untouched hs
      rw [hstop, Abandoned, hu.senderThread, hu.childPid] at ha
      exact .inr ⟨⟨ha.1, ha.2.1, hc⟩, hj⟩
  | stop =>
    by_cases hstop : r.stopping = true
    · rw [step_busy hstop (.inl rfl)] at ha
      rw [ha.2.1] at hstop
      cases hstop
    · rw [step_stop hc (by simpa using hstop)] at ha
      cases ha.2.1
  | join =>
    by_cases hjoins : r.joins = true
    · rw [step_join hc hjoins] at ha
      have hnone := join_senderThread r.publisher r.table
      obtain ⟨⟨hphase, -⟩, -⟩ := ha
      rw [hnone] at hphase
      rcases hphase with hphase | hphase
      · cases hphase
      · cases hphase
    · have hw : r.joins = false := by simpa using hjoins
      rw [step_join_waits hw] at ha
      exact .inr ⟨ha, fun hj ↦ hjoins hj.2.2⟩
  | ends ends =>
    rw [step_ends hc] at ha
    exact .inr ⟨ha, fun hj ↦ by cases hj.1⟩
  | sender frame written =>
    have hj : ¬Joins r (.sender frame written) := fun hj ↦ by cases hj.1
    have hidle : r.stopping = false := by
      rw [step_sender hc] at ha
      exact ha.2.1
    obtain ⟨⟨hphase', hpid'⟩, -⟩ := ha
    rw [step_sender hc] at hphase' hpid'
    cases hphase : r.publisher.senderThread with
    | none =>
      simp [senderStep, hphase] at hphase'
    | some phase =>
      cases phase with
      | check =>
        have hon := h.running hc hidle .check (by simp) hphase
        simp [senderStep, hphase, hon] at hphase'
      | reap =>
        have hservice := h.service hc .reap (by simp) hphase
        simp only [senderStep, hphase, hservice, Bool.not_true, Bool.false_eq_true,
          if_false] at hphase' hpid'
        by_cases hlost : (r.publisher.waitChildIfExited r.table).1.childPid < 0
        · rw [if_pos hlost] at hpid'
          exact absurd hpid' (by simpa using hlost)
        · rw [if_neg hlost] at hphase'
          simp at hphase'
      | frame =>
        cases frame with
        | none => simp [senderStep, hphase] at hphase'
        | some bytes => by_cases hb : bytes = [] <;> simp [senderStep, hphase, hb] at hphase'
      | write bytes =>
        by_cases hw : (r.publisher.writeFd && written) = true
        · simp only [senderStep, hphase, hw, if_true] at hphase'
          simp at hphase'
        · exact .inl ⟨hc, ⟨bytes, hphase⟩, by simpa using hw⟩
      | ending =>
        simp only [senderStep, hphase] at hpid'
        exact .inr ⟨⟨⟨.inl hphase, hpid'⟩, hidle, hc⟩, hj⟩
      | returned =>
        simp only [senderStep, hphase] at hpid'
        exact .inr ⟨⟨⟨.inr hphase, hpid'⟩, hidle, hc⟩, hj⟩

structure Clean (r : PublisherRun) : Prop where
  tracked : Tracked r
  empty : r.crashed = false → r.stopping = false → r.publisher.senderThread = none → r.table = []

theorem clean_initial : Clean {} := ⟨fun _ h ↦ by simp at h, fun _ _ _ ↦ rfl⟩

theorem Tracked.table_nil (h : Tracked r) (hs : Sound r) (hp : r.publisher.childPid < 0) :
    r.table = [] := by
  rw [← pids_eq_nil, List.eq_nil_iff_forall_not_mem]
  intro pid hm
  have hpos := hs.positive pid hm
  rw [h pid hm] at hpos
  omega

theorem Tracked.reaped (h : Tracked r) (hs : Sound r) :
    (r.publisher.waitChildIfExited r.table).2 = [] ∨
      (r.publisher.waitChildIfExited r.table).2 = r.table ∧
        (r.publisher.waitChildIfExited r.table).1.childPid = r.publisher.childPid ∧
        ∃ c ∈ r.table, c.ending = none := by
  rcases pids_of_forall hs.nodup h with hnil | hone
  · left
    rw [pids_eq_nil] at hnil
    rcases waitChildIfExited_cases r.publisher r.table with ⟨he, -⟩ | ⟨-, he⟩
    · rw [he]
      exact hnil
    · rw [he, hnil]
      rfl
  · have hpid : ¬r.publisher.childPid < 0 := by
      have hpos := hs.positive r.publisher.childPid (by simp [hone])
      omega
    unfold waitChildIfExited
    rw [if_neg hpid]
    rcases wait_single hone with ⟨hw, hrunning⟩ | ⟨⟨ending, hw⟩, -⟩
    · rw [hw]
      exact .inr ⟨rfl, rfl, hrunning⟩
    · rw [hw]
      exact .inl rfl

theorem join_table (h : Sound r) (ht : Tracked r) (hc : r.crashed = false)
    (hj : r.joins = true) :
    (r.step .join).table = [] ↔ ∀ c ∈ r.table, c.ending ≠ none := by
  have htable : (r.step .join).table = ((closeWritePipe
      { r.publisher with senderThread := none }).waitChildIfExited r.table).2 := by
    rw [step_join hc hj]
    rfl
  have htracked : Tracked
      { r with publisher := closeWritePipe { r.publisher with senderThread := none } } := ht
  rw [htable]
  constructor
  · intro hnil c hm he
    rcases pids_of_forall h.nodup ht with hnone | hone
    · rw [pids_eq_nil] at hnone
      rw [hnone] at hm
      cases hm
    · rcases htracked.reaped h.joined with hgone | ⟨hsame, -⟩
      · rcases wait_single hone with ⟨hw, -⟩ | ⟨-, hall⟩
        · have hpid : ¬r.publisher.childPid < 0 := by
            have hpos := h.positive r.publisher.childPid (by simp [hone])
            omega
          simp only [waitChildIfExited, closeWritePipe, if_neg hpid, hw] at hgone
          rw [hgone] at hm
          cases hm
        · exact hall c hm he
      · rw [hsame] at hnil
        rw [hnil] at hm
        cases hm
  · intro hall
    rcases htracked.reaped h.joined with hgone | ⟨-, -, c, hm, he⟩
    · exact hgone
    · exact absurd he (hall c hm)

theorem Clean.start (h : Clean r) (hs : Sound r) {config : UdpMpegTsPublisherConfig}
    {streamService : Bool} {io : SpawnIo}
    (hspawn : Spawns r (.start config streamService io) → ¬Abandoned r) :
    Clean (r.step (.start config streamService io)) := by
  by_cases hsp : Spawns r (.start config streamService io)
  · have hnil : r.table = [] := by
      have hc : r.crashed = false := hsp.1
      have hidle : r.stopping = false := hsp.2.1
      have hrunning : r.publisher.running = false := hsp.2.2.1
      cases hphase : r.publisher.senderThread with
      | none => exact h.empty hc hidle hphase
      | some phase =>
        have hover : phase = .returned := by
          by_contra hne
          have hon := hs.running hc hidle phase hne hphase
          rw [hrunning] at hon
          cases hon
        subst hover
        apply h.tracked.table_nil hs
        by_contra hpid
        exact hspawn hsp ⟨.inr hphase, by omega⟩
    obtain ⟨child, -, -, out, hout, he⟩ := spawns_cases hsp
    rw [hnil] at hout
    rw [he]
    cases hout with
    | ended hrunning hthread hchild hservice htable =>
      rw [pids_nil, pids_eq_nil] at htable
      exact ⟨fun pid hm ↦ by simp [htable] at hm, fun _ _ _ ↦ htable⟩
    | started hrunning hempty hthread hchild hservice htable =>
      refine ⟨fun pid hm ↦ ?_, fun _ _ hnone ↦ ?_⟩
      · rw [htable] at hm
        exact (List.mem_singleton.mp hm).trans hchild.symm
      · rw [hthread] at hnone
        cases hnone
    | crashed hjoinable hchild htable =>
      refine ⟨fun pid hm ↦ ?_, fun hc ↦ by cases hc⟩
      rw [htable] at hm
      exact (List.mem_singleton.mp hm).trans hchild.symm
  · obtain ⟨htable, hu, hstop, hcrash⟩ := step_start_untouched hsp
    refine ⟨?_, ?_⟩
    · rw [Tracked, htable, hu.childPid]
      exact h.tracked
    · rw [htable, hstop, hcrash, hu.senderThread]
      exact h.empty

theorem Clean.sender (h : Clean r) (hs : Sound r) (hc : r.crashed = false)
    (frame : Option (List UInt8)) (written : Bool) : Clean (r.step (.sender frame written)) := by
  rw [step_sender hc]
  cases hphase : r.publisher.senderThread with
  | none =>
    simp only [senderStep, hphase]
    exact h
  | some phase =>
    cases phase with
    | check =>
      simp only [senderStep, hphase]
      exact ⟨h.tracked, fun _ _ hn ↦ by cases hn⟩
    | reap =>
      have hservice := hs.service hc .reap (by simp) hphase
      simp only [senderStep, hphase, hservice, Bool.not_true, Bool.false_eq_true, if_false]
      have htracked : ∀ pid ∈ pids (r.publisher.waitChildIfExited r.table).2,
          pid = (r.publisher.waitChildIfExited r.table).1.childPid := by
        rcases h.tracked.reaped hs with hnil | ⟨hsame, hpid, -⟩
        · intro pid hm
          simp [hnil] at hm
        · rw [hsame, hpid]
          exact h.tracked
      by_cases hlost : (r.publisher.waitChildIfExited r.table).1.childPid < 0
      · rw [if_pos hlost]
        exact ⟨htracked, fun _ _ hn ↦ by cases hn⟩
      · rw [if_neg hlost]
        exact ⟨htracked, fun _ _ hn ↦ by cases hn⟩
    | frame =>
      simp only [senderStep, hphase]
      cases frame with
      | none => exact ⟨h.tracked, fun _ _ hn ↦ by cases hn⟩
      | some bytes => exact ⟨h.tracked, fun _ _ hn ↦ by cases hn⟩
    | write bytes =>
      simp only [senderStep, hphase]
      by_cases hw : (r.publisher.writeFd && written) = true
      · rw [if_pos hw]
        exact ⟨h.tracked, fun _ _ hn ↦ by cases hn⟩
      · rw [if_neg hw]
        exact ⟨h.tracked, fun _ _ hn ↦ by cases hn⟩
    | ending =>
      simp only [senderStep, hphase]
      exact ⟨h.tracked, fun _ _ hn ↦ by cases hn⟩
    | returned =>
      simp only [senderStep, hphase]
      exact h

theorem Clean.step (h : Clean r) (hs : Sound r)
    (hjoin : Joins r input → ∀ c ∈ r.table, c.ending ≠ none)
    (hspawn : Spawns r input → ¬Abandoned r) :
    Clean (r.step input) ∧ (Joins r input → (r.step input).table = []) := by
  by_cases hcrash : r.crashed = true
  · rw [step_crashed hcrash]
    refine ⟨h, fun hj ↦ ?_⟩
    rw [hj.2.1] at hcrash
    cases hcrash
  have hc : r.crashed = false := by simpa using hcrash
  cases input with
  | start config streamService io =>
    exact ⟨h.start hs hspawn, fun hj ↦ by cases hj.1⟩
  | stop =>
    refine ⟨?_, fun hj ↦ by cases hj.1⟩
    by_cases hstop : r.stopping = true
    · rw [step_busy hstop (.inl rfl)]
      exact h
    · rw [step_stop hc (by simpa using hstop)]
      exact ⟨h.tracked, fun _ hidle ↦ by cases hidle⟩
  | join =>
    by_cases hj : r.joins = true
    · have hnil := (join_table hs h.tracked hc hj).mpr (hjoin ⟨rfl, hc, hj⟩)
      refine ⟨⟨fun pid hm ↦ ?_, fun _ _ _ ↦ hnil⟩, fun _ ↦ hnil⟩
      rw [hnil] at hm
      cases hm
    · rw [step_join_waits (by simpa using hj)]
      exact ⟨h, fun hjoins ↦ absurd hjoins.2.2 hj⟩
  | sender frame written => exact ⟨h.sender hs hc frame written, fun hj ↦ by cases hj.1⟩
  | ends ends =>
    refine ⟨?_, fun hj ↦ by cases hj.1⟩
    rw [step_ends hc]
    refine ⟨fun pid hm ↦ h.tracked pid (by simpa using hm), fun _ hidle hnone ↦ ?_⟩
    have hnil := h.empty hc hidle hnone
    simp [hnil, expire]

/-- After every step the unreaped children are `childPid_`, and after a `stop` there is none. -/
def ChildrenTracked (inputs : List PublisherInput) : Prop :=
  Along step (fun r input ↦ Tracked (r.step input) ∧
    (Joins r input → (r.step input).table = [])) {} inputs

def StopsFindEnded (inputs : List PublisherInput) : Prop :=
  Along step (fun r input ↦ Joins r input → ∀ c ∈ r.table, c.ending ≠ none) {} inputs

theorem clean_of_conditions (inputs : List PublisherInput) (hstops : StopsFindEnded inputs)
    (hfollows : ¬Follows step WriteFails Joins Spawns {} inputs) :
    ChildrenTracked inputs ∧ Clean (exec step {} inputs) := by
  induction inputs using List.reverseRecOn with
  | nil => exact ⟨trivial, clean_initial⟩
  | append_singleton inputs input ih =>
    rw [StopsFindEnded, along_append, along_singleton] at hstops
    obtain ⟨htracked, hclean⟩ := ih hstops.1 fun hf ↦ hfollows (hf.append [input])
    have hs := exec_sound inputs
    have hspawn : Spawns (exec step {} inputs) input → ¬Abandoned (exec step {} inputs) := by
      intro hsp ha
      have hidle : (exec step {} inputs).stopping = false ∧
          (exec step {} inputs).crashed = false := by
        cases input with
        | start config streamService io => exact ⟨hsp.2.1, hsp.1⟩
        | stop => exact hsp.elim
        | join => exact hsp.elim
        | sender frame written => exact hsp.elim
        | ends ends => exact hsp.elim
      have hsounds : Along step (fun r _ ↦ Sound r) {} inputs := by
        rw [along_iff]
        intro before _ _ _
        exact exec_sound before
      have hinitial : ¬(Abandoned ({} : PublisherRun) ∧
          ({} : PublisherRun).stopping = false ∧ ({} : PublisherRun).crashed = false) := by
        rintro ⟨⟨hphase | hphase, -⟩, -⟩
        · cases hphase
        · cases hphase
      obtain ⟨before, a, middle, he, hw, hm⟩ := exists_since
        (H := fun r ↦ Abandoned r ∧ r.stopping = false ∧ r.crashed = false)
        (fun _ _ hs ha ↦ abandoned_step hs ha) hinitial inputs hsounds ⟨ha, hidle⟩
      refine hfollows ⟨before, a, middle, input, [], by rw [he], hw, hm, ?_⟩
      rw [← he]
      exact hsp
    obtain ⟨hnext, hnil⟩ := hclean.step hs hstops.2 hspawn
    rw [ChildrenTracked, along_append, along_singleton, exec_append]
    exact ⟨⟨htracked, hnext.tracked, hnil⟩, hnext⟩

theorem not_follows_of_tracked (inputs : List PublisherInput) (h : ChildrenTracked inputs) :
    ¬Follows step WriteFails Joins Spawns {} inputs := by
  rintro ⟨before, a, middle, b, after, rfl, hw, hm, hb⟩
  have hsplit : before ++ a :: middle ++ b :: after = before ++ [a] ++ (middle ++ b :: after) := by
    simp
  rw [hsplit, ChildrenTracked, along_append] at h
  obtain ⟨-, hrest⟩ := h
  rw [along_append] at hrest
  obtain ⟨hmiddle, hrest⟩ := hrest
  have hlast : exec step {} (before ++ [a]) = (exec step {} before).step a :=
    exec_append step {} before [a]
  have hstart : Sound (exec step {} (before ++ [a])) ∧
      Abandoned (exec step {} (before ++ [a])) := by
    refine ⟨exec_sound _, ?_⟩
    rw [hlast]
    exact hw.abandons (exec_sound before)
  have hboth : Along step (fun r c ↦ ¬Joins r c ∧ Tracked (r.step c))
      (exec step {} (before ++ [a])) middle := by
    rw [along_iff] at hm hmiddle ⊢
    exact fun b c rest he ↦ ⟨hm b c rest he, (hmiddle b c rest he).1⟩
  have hkept := Along.invariant (I := fun r ↦ Sound r ∧ Abandoned r)
    (fun r c ⟨hs, ha⟩ ⟨hj, ht⟩ ↦ ⟨hs.step c, ha.kept hj fun hsp ↦ spawn_untracks hs ha.2 hsp ht⟩)
    hboth hstart
  have hstate : exec step (exec step {} (before ++ [a])) middle =
      exec step {} (before ++ a :: middle) := by
    rw [← exec_append]
    simp
  rw [hstate] at hkept hrest
  exact spawn_untracks hkept.1 hkept.2.2 hb hrest.1.1

theorem stopsFindEnded_of_tracked (inputs : List PublisherInput) (h : ChildrenTracked inputs) :
    StopsFindEnded inputs := by
  rw [ChildrenTracked, along_iff] at h
  rw [StopsFindEnded, along_iff]
  intro before input after he hj
  obtain ⟨rfl, hc, hjoins⟩ := hj
  have htracked : Tracked (exec step {} before) := by
    rcases List.eq_nil_or_concat before with rfl | ⟨first, last, rfl⟩
    · exact clean_initial.tracked
    · rw [List.concat_eq_append] at he ⊢
      rw [exec_append]
      exact (h first last (.join :: after) (by rw [he]; simp)).1
  exact (join_table (exec_sound before) htracked hc hjoins).mp
    ((h before .join after he).2 ⟨rfl, hc, hjoins⟩)

/-- The runs that track their children are those in which `stop` never comes before the end
of ffmpeg, and no `start` after a failed write comes before a `stop`. -/
theorem childrenTracked_iff (inputs : List PublisherInput) :
    ChildrenTracked inputs ↔
      StopsFindEnded inputs ∧ ¬Follows step WriteFails Joins Spawns {} inputs :=
  ⟨fun h ↦ ⟨stopsFindEnded_of_tracked inputs h, not_follows_of_tracked inputs h⟩,
    fun h ↦ (clean_of_conditions inputs h.1 h.2).1⟩

def spawning : SpawnIo where
  pipe := .ok ()
  fork _ := .ok 4242
  ends _ := none

/-- The child of a publisher that is started and stopped is left behind. -/
theorem stopped_child_unreaped :
    ¬ChildrenTracked [.start {} true spawning, .stop, .sender none false, .sender none false,
      .join] := by
  intro h
  obtain ⟨-, -, -, -, ⟨-, hjoin⟩, -⟩ := h
  have hnil := hjoin ⟨rfl, by decide, by decide⟩
  exact absurd hnil (by decide)

end PublisherRun

end TriFusion.Protocol
