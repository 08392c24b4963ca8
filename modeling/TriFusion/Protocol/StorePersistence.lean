import TriFusion.Protocol.StoreUpdates

namespace TriFusion.Protocol

open Foundation Library

def StoreCall.Persists (x : Endpoint) : StoreCall → Prop
  | .update y _ persist => y = x ∧ persist = true
  | .updateGb28181Server _ persist => x = .gb28181 ∧ persist = true

def UpdatePhase.Saves : UpdatePhase → Prop
  | .saving _ _ => True
  | .entering | .merged _ | .returned _ => False

namespace StoreCall

variable {ω : Type} {io : FileIo ω} {x : Endpoint} {call : StoreCall} {s : ProtocolConfigStore}
  {w : ω} {phase : UpdatePhase}

/-- What a step of a persisting update does to the store, to the files and to the call. -/
inductive Advanced (io : FileIo ω) (x : Endpoint) (s : ProtocolConfigStore) (w : ω) :
    UpdatePhase → (ProtocolConfigStore × ω) × UpdatePhase → Prop
  | wrote {phase : UpdatePhase} (c : x.Config) (hphase : ¬phase.Saves)
      (hret : ∀ ret, phase ≠ .returned ret) :
      Advanced io x s w phase ((s.write x c, w), .saving x c)
  | saved (c : x.Config) :
      Advanced io x s w (.saving x c) ((s, (x.save io (s.pathOf x.filename) c w).2),
        .returned (x.save io (s.pathOf x.filename) c w).1)
  | refused {phase : UpdatePhase} (e : Status) (hphase : ¬phase.Saves)
      (hret : ∀ ret, phase ≠ .returned ret) :
      Advanced io x s w phase ((s, w), .returned (.error e))
  | merged (next : Gb28181Config) :
      Advanced io x s w .entering ((s, w), .merged next)
  | idle (ret : Result Unit) :
      Advanced io x s w (.returned ret) ((s, w), .returned ret)

theorem commit_advanced (c : x.Config) (hphase : ¬phase.Saves)
    (hret : ∀ ret, phase ≠ .returned ret) :
    Advanced io x s w phase (commit x c true (s, w)) := by
  unfold commit
  cases x.validate c with
  | error e => exact .refused e hphase hret
  | ok u => exact .wrote c hphase hret

theorem Persists.advanced (h : call.Persists x) (hmerge : call.Merges phase)
    (hsave : ∀ y c, phase = .saving y c → y = x) :
    Advanced io x s w phase (call.advance io (s, w) phase) := by
  cases phase with
  | returned ret => exact .idle ret
  | saving y c =>
    obtain rfl := hsave y c rfl
    exact .saved c
  | entering =>
    cases call with
    | update y c persist =>
      obtain ⟨rfl, rfl⟩ := h
      exact commit_advanced c id fun _ hn ↦ nomatch hn
    | updateGb28181Server server persist => exact .merged _
  | merged next =>
    obtain ⟨server, persist, rfl, -⟩ := hmerge next rfl
    obtain ⟨rfl, rfl⟩ := h
    have hn (ret : Result Unit) : UpdatePhase.merged next ≠ .returned ret := fun hn ↦ nomatch hn
    exact commit_advanced (show Endpoint.gb28181.Config from next) id hn

variable {r : (ProtocolConfigStore × ω) × UpdatePhase}

theorem Advanced.endpoint_eq (h : Advanced io x s w phase r) {y : Endpoint} {c : y.Config}
    (hr : r.2 = .saving y c) : y = x := by
  cases h with
  | wrote c' hphase hret =>
    cases hr
    rfl
  | saved c' => exact nomatch hr
  | refused e hphase hret => exact nomatch hr
  | merged next => exact nomatch hr
  | idle ret => exact nomatch hr

theorem Advanced.quiet (h : Advanced io x s w phase r) (hn : ¬phase.Saves) :
    r.1.2 = w ∧ (r.1.1 = s ∨ r.2.Saves) ∧
      (r.2 = .returned (.ok ()) → phase = .returned (.ok ())) := by
  cases h with
  | wrote c hphase hret => exact ⟨rfl, .inr trivial, fun hr ↦ nomatch hr⟩
  | saved c => exact absurd trivial hn
  | refused e hphase hret => exact ⟨rfl, .inl rfl, fun hr ↦ nomatch hr⟩
  | merged next => exact ⟨rfl, .inl rfl, fun hr ↦ nomatch hr⟩
  | idle ret => exact ⟨rfl, .inl rfl, id⟩

theorem Advanced.saved_ok {c : x.Config} (h : Advanced io x s w (.saving x c) r)
    (hr : r.2 = .returned (.ok ())) :
    r.1.1 = s ∧ io.read (s.pathOf x.filename) r.1.2 = some (x.text c) := by
  cases h with
  | wrote c' hphase hret => exact absurd trivial hphase
  | refused e hphase hret => exact absurd trivial hphase
  | saved =>
    have hsave : (x.save io (s.pathOf x.filename) c w).1 = .ok () := UpdatePhase.returned.inj hr
    rw [Endpoint.save_eq] at hsave ⊢
    have hw := (ProtocolConfigLoader.save_ok (Prod.ext hsave rfl)).2
    exact ⟨rfl, FileIo.readText_eq_ok.mp hw⟩

end StoreCall

namespace StorePool

variable {ι ω : Type} [DecidableEq ι] {io : FileIo ω} {calls : ι → StoreCall} {x : Endpoint}
  {p q : StorePool ι ω} {i : ι} {s : ProtocolConfigStore} {w : ω} {schedule : List ι}

/-- The file of the endpoint holds what a save of the memory would write. -/
def Agrees (io : FileIo ω) (x : Endpoint) (p : StorePool ι ω) : Prop :=
  io.read (p.shared.1.pathOf x.filename) p.shared.2 =
    some (x.text (Endpoint.get p.shared.1.config x))

structure Focused (calls : ι → StoreCall) (x : Endpoint) (p : StorePool ι ω) : Prop where
  merging : Merging calls p
  saving : ∀ i y c, p.locals i = .saving y c → y = x

variable (io) in
theorem step_advanced (hx : ∀ i, (calls i).Persists x) (h : Focused calls x p) (i : ι) :
    StoreCall.Advanced io x p.shared.1 p.shared.2 (p.locals i)
      ((step io calls p i).shared, (step io calls p i).locals i) := by
  have hself : (step io calls p i).locals i =
      ((calls i).advance io p.shared (p.locals i)).2 := Pool.step_self _ p i
  rw [hself]
  exact (hx i).advanced (h.merging i) (h.saving i)

theorem Focused.step (hx : ∀ i, (calls i).Persists x) (h : Focused calls x p) (i : ι) :
    Focused calls x (step io calls p i) := by
  refine ⟨h.merging.step i, fun j y c hj ↦ ?_⟩
  by_cases hji : j = i
  · subst hji
    exact (step_advanced io hx h j).endpoint_eq hj
  · rw [StorePool.step, Pool.step_other _ p hji] at hj
    exact h.saving j y c hj

omit [DecidableEq ι] in
theorem focused_start : Focused calls x (start ι s w) :=
  ⟨merging_start, fun _ _ _ h ↦ nomatch h⟩

theorem Focused.run (hx : ∀ i, (calls i).Persists x) (h : Focused calls x p)
    (schedule : List ι) : Focused calls x (run io calls p schedule) :=
  Runs.exec_invariant (fun _ i hp ↦ hp.step hx i) h schedule

structure Quiet (calls : ι → StoreCall) (x : Endpoint) (p q : StorePool ι ω) : Prop where
  focused : Focused calls x q
  files : q.shared.2 = p.shared.2
  memory : q.shared.1 = p.shared.1 ∨ ∃ i, (q.locals i).Saves
  returned : ∀ i, q.locals i = .returned (.ok ()) → p.locals i = .returned (.ok ())

theorem Quiet.step (hx : ∀ i, (calls i).Persists x) (h : Quiet calls x p q) {i : ι}
    (hi : ¬(q.locals i).Saves) : Quiet calls x p (step io calls q i) := by
  have hother (j : ι) (hj : j ≠ i) : (StorePool.step io calls q i).locals j = q.locals j :=
    Pool.step_other _ q hj
  obtain ⟨hfiles, hmemory, hreturned⟩ := (step_advanced io hx h.focused i).quiet hi
  refine ⟨h.focused.step hx i, hfiles.trans h.files, ?_, ?_⟩
  · rcases h.memory with hm | ⟨j, hj⟩
    · exact hmemory.elim (fun hs ↦ .inl (hs.trans hm)) fun hs ↦ .inr ⟨i, hs⟩
    · have hji : j ≠ i := fun hji ↦ hi (hji ▸ hj)
      exact .inr ⟨j, hother j hji ▸ hj⟩
  · intro j hj
    by_cases hji : j = i
    · subst hji
      exact h.returned j (hreturned hj)
    · exact h.returned j (hother j hji ▸ hj)

theorem quiet_run (hx : ∀ i, (calls i).Persists x) (h : Focused calls x p)
    (hq : Runs.Along (step io calls) (fun p i ↦ ¬(p.locals i).Saves) p schedule) :
    Quiet calls x p (run io calls p schedule) :=
  hq.invariant (fun _ _ hp hi ↦ hp.step hx hi) ⟨h, rfl, .inl rfl, fun _ ↦ id⟩

/-- In `q` the run makes its last file write, of `c`. -/
def LastSave (io : FileIo ω) (calls : ι → StoreCall) (p : StorePool ι ω) (schedule : List ι)
    (q : StorePool ι ω) (c : x.Config) : Prop :=
  ∃ before i after, schedule = before ++ i :: after ∧ q = run io calls p before ∧
    q.locals i = .saving x c ∧
    Runs.Along (step io calls) (fun p i ↦ ¬(p.locals i).Saves) (step io calls q i) after

theorem agrees_of_last (hx : ∀ i, (calls i).Persists x) (hp : Focused calls x p)
    (hdone : ∀ i ∈ schedule, (run io calls p schedule).locals i = .returned (.ok ()))
    (hidle : ∀ i, i ∉ schedule → ¬(p.locals i).Saves) {c : x.Config}
    (h : LastSave io calls p schedule q c) :
    Agrees io x (run io calls p schedule) ↔
      x.text c = x.text (Endpoint.get q.shared.1.config x) := by
  obtain ⟨before, i, after, rfl, rfl, hi, hquiet⟩ := h
  have hq : Focused calls x (run io calls p before) := hp.run hx before
  have hrun : run io calls p (before ++ i :: after) =
      run io calls (step io calls (run io calls p before) i) after :=
    Runs.exec_append _ p before (i :: after)
  have hout (j : ι) (hj : j ∉ before ++ i :: after) :
      (run io calls p (before ++ i :: after)).locals j = p.locals j := Pool.run_other _ p hj
  rw [hrun] at hdone hout ⊢
  have hend := quiet_run hx (hq.step hx i) hquiet
  have hret := hend.returned i (hdone i (List.mem_append_right _ List.mem_cons_self))
  have hsaved := step_advanced io hx hq i
  rw [hi] at hsaved
  generalize run io calls p before = q at *
  obtain ⟨hstore, hfile⟩ := hsaved.saved_ok hret
  have hmemory : (run io calls (step io calls q i) after).shared.1 = q.shared.1 := by
    rcases hend.memory with hm | ⟨j, hj⟩
    · exact hm.trans hstore
    · by_cases hmem : j ∈ before ++ i :: after
      · rw [hdone j hmem] at hj
        exact hj.elim
      · exact absurd (hout j hmem ▸ hj) (hidle j hmem)
  rw [Agrees, hmemory, hend.files, hfile]
  exact ⟨Option.some.inj, congrArg some⟩

def crossing (x : Endpoint) (a b : x.Config) : Bool → StoreCall
  | false => .update x a true
  | true => .update x b true

theorem crossed (x : Endpoint) {a b : x.Config} (ha : x.validate a = .ok ())
    (hb : x.validate b = .ok ()) (s : ProtocolConfigStore) (w : List (Text × Text)) :
    let q := run Endpoint.memoryFiles (crossing x a b) (start Bool s w) [false, true, true, false]
    (∀ i, q.locals i = .returned (.ok ())) ∧ Endpoint.get q.shared.1.config x = b ∧
      Endpoint.memoryFiles.read (q.shared.1.pathOf x.filename) q.shared.2 = some (x.text a) := by
  intro q
  have hsave (path : Text) (c : x.Config) (hc : x.validate c = .ok ()) (w : List (Text × Text)) :
      x.save Endpoint.memoryFiles path c w = (.ok (), (path, x.text c) :: w) := by
    rw [Endpoint.save_eq, ProtocolConfigLoader.save, hc]
    rfl
  have hq : q = ⟨((s.write x a).write x b, (s.pathOf x.filename, x.text a) ::
      (s.pathOf x.filename, x.text b) :: w), fun _ ↦ .returned (.ok ())⟩ := by
    have hne : true ≠ false := by decide
    simp only [q, run, start, step, Pool.step, Runs.exec_cons, Runs.exec_nil, StoreCall.advance,
      crossing, StoreCall.commit, ha, hb, Function.update_self, Function.update_of_ne hne,
      Function.update_of_ne hne.symm, hsave _ _ ha, hsave _ _ hb, if_true]
    congr 1
    funext i
    cases i <;> rfl
  rw [hq]
  exact ⟨fun _ ↦ rfl, Endpoint.get_put _ x b, List.lookup_cons_self⟩

/-- When persisting updates of an endpoint have all returned in success, its file agrees
with the memory exactly when the last file write of the run found in memory what it wrote,
or, if there was no update, when the file agreed before. -/
theorem file_agrees_iff (hx : ∀ i, (calls i).Persists x)
    (hdone : ∀ i ∈ schedule,
      (run io calls (start ι s w) schedule).locals i = .returned (.ok ())) :
    Agrees io x (run io calls (start ι s w) schedule) ↔
      (schedule = [] → Agrees io x (start ι s w)) ∧
        ∀ q (c : x.Config), LastSave io calls (start ι s w) schedule q c →
          x.text c = x.text (Endpoint.get q.shared.1.config x) := by
  have hidle (i : ι) (_ : i ∉ schedule) : ¬((start ι s w).locals i).Saves := id
  constructor
  · intro h
    refine ⟨?_, fun q c hl ↦ (agrees_of_last hx focused_start hdone hidle hl).mp h⟩
    rintro rfl
    exact h
  · rintro ⟨hempty, hlast⟩
    rcases Runs.along_not_or_last (step io calls) (fun p i ↦ (p.locals i).Saves)
      (start ι s w) schedule with hnone | ⟨before, i, after, hsplit, hsaves, hquiet⟩
    · cases schedule with
      | nil => exact hempty rfl
      | cons i rest =>
        have hret := (quiet_run hx focused_start hnone).returned i (hdone i List.mem_cons_self)
        exact nomatch hret
    · have hq : Focused calls x (run io calls (start ι s w) before) := focused_start.run hx before
      obtain ⟨c, hc⟩ : ∃ c, (run io calls (start ι s w) before).locals i = .saving x c := by
        change ((run io calls (start ι s w) before).locals i).Saves at hsaves
        cases hl : (run io calls (start ι s w) before).locals i with
        | saving y c =>
          obtain rfl := hq.saving i y c hl
          exact ⟨c, rfl⟩
        | entering | merged | returned =>
          rw [hl] at hsaves
          exact hsaves.elim
      have hl : LastSave io calls (start ι s w) schedule (run io calls (start ι s w) before) c := by
        refine ⟨before, i, after, hsplit, rfl, hc, ?_⟩
        rw [Runs.exec_append] at hquiet
        exact hquiet
      exact (agrees_of_last hx focused_start hdone hidle hl).mpr (hlast _ c hl)

theorem file_agrees_iff_sequential :
    Agrees Endpoint.memoryFiles .rtsp (run Endpoint.memoryFiles
        (crossing .rtsp ({} : RtspConfig) ({ port := 554 } : RtspConfig))
        (start Bool {} []) [false, false, true, true]) ↔
      (([false, false, true, true] : List Bool) = [] →
          Agrees Endpoint.memoryFiles .rtsp (start Bool {} [])) ∧
        ∀ q (c : Endpoint.rtsp.Config), LastSave Endpoint.memoryFiles
          (crossing .rtsp ({} : RtspConfig) ({ port := 554 } : RtspConfig))
          (start Bool {} []) [false, false, true, true] q c →
          Endpoint.rtsp.text c = Endpoint.rtsp.text (Endpoint.get q.shared.1.config .rtsp) := by
  refine file_agrees_iff ?_ ?_
  · intro i
    cases i <;> exact ⟨rfl, rfl⟩
  · intro i _
    cases i <;> rfl

/-- The port of the second call is in memory, that of the first in the file. -/
theorem stale_file :
    let q := run Endpoint.memoryFiles
      (crossing .rtsp ({} : RtspConfig) ({ port := 554 } : RtspConfig))
      (start Bool {} []) [false, true, true, false]
    (∀ i, q.locals i = .returned (.ok ())) ∧ ¬Agrees Endpoint.memoryFiles .rtsp q := by
  intro q
  obtain ⟨hdone, hmemory, hfile⟩ := crossed .rtsp (a := ({} : RtspConfig))
    (b := ({ port := 554 } : RtspConfig)) rfl rfl {} []
  refine ⟨hdone, fun h ↦ ?_⟩
  rw [Agrees, hmemory, hfile] at h
  have hne : ProtocolConfigLoader.rtspText {} ≠ ProtocolConfigLoader.rtspText { port := 554 } := by
    decide +kernel
  exact hne (Option.some.inj h)

end StorePool

end TriFusion.Protocol
