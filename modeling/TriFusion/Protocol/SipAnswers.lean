import TriFusion.Foundation.ConfigReload
import TriFusion.Protocol.SipDialogue

namespace TriFusion.Protocol

open Foundation Library Gb28181PlayProbe

namespace SipProbe

variable {β : Type}

def observed (view : SipSent → Option β) (log : List SipEvent) : List β :=
  log.filterMap fun event ↦ event.said.bind view

def heard (log : List SipEvent) : List Text := log.filterMap SipEvent.heard

section Observed

variable (view : SipSent → Option β)

@[simp] theorem observed_nil : observed view [] = [] := rfl

@[simp] theorem observed_append (first second : List SipEvent) :
    observed view (first ++ second) = observed view first ++ observed view second :=
  List.filterMap_append

@[simp] theorem observed_received (received : List Text) :
    observed view (received.map .received) = [] := by
  rw [observed, List.filterMap_map, List.filterMap_eq_nil_iff]
  exact fun _ _ ↦ rfl

@[simp] theorem observed_cons_received (msg : Text) (log : List SipEvent) :
    observed view (.received msg :: log) = observed view log := List.filterMap_cons_none rfl

@[simp] theorem observed_cons_registered (log : List SipEvent) :
    observed view (.registered :: log) = observed view log := List.filterMap_cons_none rfl

theorem observed_sends {text : Text} {m : SipSent}
    (hread : (SipMessage.ofText text).sent = some m) (refused : Bool) :
    observed view (sends refused text) = if refused then [] else (view m).toList := by
  have hsaid : (SipEvent.sent text).said = some m := hread
  cases refused with
  | true => rfl
  | false =>
    rw [sends, if_neg (by decide), if_neg (by decide), observed]
    cases hv : view m with
    | none => rw [List.filterMap_cons_none (by rw [hsaid, Option.bind_some, hv])]; rfl
    | some b => rw [List.filterMap_cons_some (by rw [hsaid, Option.bind_some, hv])]; rfl

@[simp] theorem heard_append (first second : List SipEvent) :
    heard (first ++ second) = heard first ++ heard second := List.filterMap_append

@[simp] theorem heard_received (received : List Text) :
    heard (received.map .received) = received := by
  rw [heard, List.filterMap_map]
  exact List.filterMap_some

@[simp] theorem heard_nil : heard [] = [] := rfl

@[simp] theorem heard_cons_received (msg : Text) (log : List SipEvent) :
    heard (.received msg :: log) = msg :: heard log := List.filterMap_cons_some rfl

@[simp] theorem heard_cons_registered (log : List SipEvent) :
    heard (.registered :: log) = heard log := List.filterMap_cons_none rfl

@[simp] theorem heard_sends (refused : Bool) (text : Text) : heard (sends refused text) = [] := by
  cases refused <;> rfl

end Observed

/-- Positive numbers that increase and are below a bound. -/
def Increasing (numbers : List Int32) (bound : Int32) : Prop :=
  numbers.Pairwise (· < ·) ∧ ∀ n ∈ numbers, 0 < n ∧ n < bound

theorem increasing_nil (bound : Int32) : Increasing [] bound :=
  ⟨.nil, fun _ h ↦ absurd h List.not_mem_nil⟩

theorem Increasing.append {numbers : List Int32} {bound next : Int32} (h : Increasing numbers bound)
    (hpos : 0 < bound) (hnext : bound < next) (refused : Bool) :
    Increasing (numbers ++ if refused then [] else [bound]) next := by
  have hmono : ∀ n ∈ numbers, 0 < n ∧ n < next :=
    fun n hn ↦ ⟨(h.2 n hn).1, Int32.lt_trans (h.2 n hn).2 hnext⟩
  cases refused with
  | true =>
    rw [if_pos rfl, List.append_nil]
    exact ⟨h.1, hmono⟩
  | false =>
    rw [if_neg Bool.false_ne_true]
    refine ⟨List.pairwise_append.mpr ⟨h.1, List.pairwise_singleton _ _, ?_⟩, ?_⟩
    · intro n hn m hm
      rw [List.mem_singleton.mp hm]
      exact (h.2 n hn).2
    · intro n hn
      rcases List.mem_append.mp hn with hn | hn
      · exact hmono n hn
      · rw [List.mem_singleton.mp hn]
        exact ⟨hpos, hnext⟩

theorem toInt_succ {n : Int32} (h : n.toInt + 1 < 2 ^ 31) : (n + 1).toInt = n.toInt + 1 := by
  have hlo := n.le_toInt
  have hone : (1 : Int32).toInt = 1 := rfl
  rw [Int32.toInt_add, hone]
  exact Int.bmod_eq_of_le (by omega) (by omega)

theorem lt_succ {n : Int32} (h : n.toInt + 1 < 2 ^ 31) : n < n + 1 := by
  rw [Int32.lt_iff_toInt_lt, toInt_succ h]
  exact Int.lt_succ n.toInt

/-- A counter that began at a number has gone up by one in each of so many turns at most. -/
def Counted (first k : ℕ) (n : Int32) : Prop := 0 < n.toInt ∧ n.toInt ≤ first + k

theorem Counted.pos {first k : ℕ} {n : Int32} (h : Counted first k n) : 0 < n :=
  Int32.lt_iff_toInt_lt.mpr h.1

variable {cfg : Gb28181Config} {t : SipTurn} {s s' : SipProbe}

theorem Turned.phase_ne_starting (h : Turned cfg t s s') : s'.phase ≠ .starting := by
  cases h with
  | stays h => exact h.1
  | starts => dsimp only; split <;> simp
  | fails => simp
  | registers => simp
  | authenticates => dsimp only; split <;> simp
  | passes h => exact h.started
  | keepsAlive h => simp [h]
  | answers h => exact h.started
  | notifies h => exact h.started
  | accepts => dsimp only; split <;> simp

theorem Turned.requests (h : Turned cfg t s s') (hfresh : s.phase = .starting → s.log = [])
    (hpos : 0 < s.cseq) (hfits : s.cseq.toInt + 2 < 2 ^ 31)
    (hs : Increasing (observed SipSent.request s.log) (s.cseq + 1)) :
    Increasing (observed SipSent.request s'.log) (s'.cseq + 1) := by
  have hcseq : s.cseq < s.cseq + 1 := lt_succ (by omega)
  have hfits' : (s.cseq + 1).toInt + 1 < 2 ^ 31 := by
    rw [toInt_succ (by omega)]
    omega
  have hnext := hs.append (Int32.lt_trans hpos hcseq) (lt_succ hfits') (t.refused 0)
  cases h with
  | stays => exact hs
  | starts h hid hread =>
    have hfirst := (increasing_nil s.cseq).append hpos hcseq (t.refused 0)
    simpa [hfresh h, observed_sends _ hread, SipSent.request] using hfirst
  | fails => simpa using hs
  | registers => simpa using hs
  | authenticates h hm hread => simpa [observed_sends _ hread, SipSent.request] using hnext
  | passes => simpa using hs
  | keepsAlive h hread => simpa [observed_sends _ hread, SipSent.request] using hnext
  | answers h hm hdue hinvited hread => simpa [observed_sends _ hread, SipSent.request] using hs
  | notifies h hm hdue hinvited hread hresponse =>
    simpa [observed_sends _ hread, observed_sends _ hresponse, SipSent.request] using hs
  | accepts h hm hdue hinvited hread => simpa [observed_sends _ hread, SipSent.request] using hs

theorem Turned.notifications (h : Turned cfg t s s') (hpos : 0 < s.responseCseq)
    (hfits : s.responseCseq.toInt + 1 < 2 ^ 31)
    (hs : Increasing (observed SipSent.notification s.log) s.responseCseq) :
    Increasing (observed SipSent.notification s'.log) s'.responseCseq := by
  have hnext := hs.append hpos (lt_succ hfits) (t.refused 1)
  cases h with
  | stays => exact hs
  | starts h hid hread => simpa [observed_sends _ hread, SipSent.notification] using hs
  | fails => simpa using hs
  | registers => simpa using hs
  | authenticates h hm hread => simpa [observed_sends _ hread, SipSent.notification] using hs
  | passes => simpa using hs
  | keepsAlive h hread => simpa [observed_sends _ hread, SipSent.notification] using hs
  | answers h hm hdue hinvited hread =>
    simpa [observed_sends _ hread, SipSent.notification] using hs
  | notifies h hm hdue hinvited hread hresponse =>
    simpa [observed_sends _ hread, observed_sends _ hresponse, SipSent.notification] using hnext
  | accepts h hm hdue hinvited hread =>
    simpa [observed_sends _ hread, SipSent.notification] using hs

def KeepalivesNumbered (log : List SipEvent) (bound : Int32) : Prop :=
  ∃ numbers, observed SipSent.keepaliveSn log = numbers.map intText ∧ Increasing numbers bound

theorem Turned.keepalives (h : Turned cfg t s s') (hpos : 0 < s.sn)
    (hfits : s.sn.toInt + 1 < 2 ^ 31) (hs : KeepalivesNumbered s.log s.sn) :
    KeepalivesNumbered s'.log s'.sn := by
  obtain ⟨numbers, he, hn⟩ := hs
  cases h with
  | stays => exact ⟨numbers, he, hn⟩
  | starts h hid hread =>
    exact ⟨numbers, by simpa [observed_sends _ hread, SipSent.keepaliveSn] using he, hn⟩
  | fails => exact ⟨numbers, by simpa using he, hn⟩
  | registers => exact ⟨numbers, by simpa using he, hn⟩
  | authenticates h hm hread =>
    exact ⟨numbers, by simpa [observed_sends _ hread, SipSent.keepaliveSn] using he, hn⟩
  | passes => exact ⟨numbers, by simpa using he, hn⟩
  | keepsAlive h hread =>
    refine ⟨numbers ++ if t.refused 0 then [] else [s.sn], ?_,
      hn.append hpos (lt_succ hfits) (t.refused 0)⟩
    rw [observed_append, he, observed_sends _ hread, List.map_append]
    cases t.refused 0 <;> rfl
  | answers h hm hdue hinvited hread =>
    exact ⟨numbers, by simpa [observed_sends _ hread, SipSent.keepaliveSn] using he, hn⟩
  | notifies h hm hdue hinvited hread hresponse =>
    refine ⟨numbers, ?_, hn⟩
    simpa [observed_sends _ hread, observed_sends _ hresponse, SipSent.keepaliveSn] using he
  | accepts h hm hdue hinvited hread =>
    exact ⟨numbers, by simpa [observed_sends _ hread, SipSent.keepaliveSn] using he, hn⟩

structure Numbered (k : ℕ) (s : SipProbe) : Prop where
  cseq : Counted 1 k s.cseq
  sn : Counted 1 k s.sn
  responseCseq : Counted 1000 k s.responseCseq
  requests : Increasing (observed SipSent.request s.log) (s.cseq + 1)
  notifications : Increasing (observed SipSent.notification s.log) s.responseCseq
  keepalives : KeepalivesNumbered s.log s.sn

theorem registered_not_mem_sends (refused : Bool) (text : Text) :
    .registered ∉ sends refused text := by
  cases refused <;> simp [sends]

theorem forall_said_sends {P : SipSent → Prop} {text : Text} {m : SipSent}
    (hread : (SipMessage.ofText text).sent = some m) (hm : P m) (refused : Bool) :
    ∀ m ∈ observed some (sends refused text), P m := by
  rw [observed_sends _ hread]
  cases refused
  · exact List.forall_mem_singleton.mpr hm
  · exact fun _ h ↦ absurd h List.not_mem_nil

structure Ordered (s : SipProbe) : Prop where
  offline : s.phase = .starting ∨ s.phase.Listening → .registered ∉ s.log
  serving : s.phase.Serving → .registered ∈ s.log
  before : ∀ m ∈ observed some (before s.log), m.IsRegister
  since : ∀ m ∈ observed some (since s.log), ¬m.IsRegister

theorem Ordered.offline_append (hs : Ordered s) {more : List SipEvent}
    (hoff : s.phase = .starting ∨ s.phase.Listening) (hlog : s'.log = s.log ++ more)
    (hmore : .registered ∉ more) (hserving : ¬s'.phase.Serving)
    (hsaid : ∀ m ∈ observed some more, m.IsRegister) : Ordered s' := by
  have hnot := hs.offline hoff
  have hnot' : .registered ∉ s'.log := by
    rw [hlog]
    exact List.not_mem_append hnot hmore
  refine ⟨fun _ ↦ hnot', fun h ↦ absurd h hserving, ?_, ?_⟩
  · have hbefore := hs.before
    rw [before_of_not_mem hnot] at hbefore
    rw [before_of_not_mem hnot', hlog, observed_append]
    exact List.forall_mem_append.mpr ⟨hbefore, hsaid⟩
  · rw [since_of_not_mem hnot']
    exact fun _ h ↦ absurd h List.not_mem_nil

theorem Ordered.serving_append (hs : Ordered s) {more : List SipEvent}
    (hserving : s.phase.Serving) (hlog : s'.log = s.log ++ more)
    (hnext : s'.phase ≠ .starting ∧ ¬s'.phase.Listening)
    (hsaid : ∀ m ∈ observed some more, ¬m.IsRegister) : Ordered s' := by
  have hmem := hs.serving hserving
  refine ⟨fun h ↦ absurd h (not_or.mpr hnext), fun _ ↦ ?_, ?_, ?_⟩
  · rw [hlog]
    exact List.mem_append_left _ hmem
  · rw [hlog, before_append hmem]
    exact hs.before
  · rw [hlog, since_append hmem, observed_append]
    exact List.forall_mem_append.mpr ⟨hs.since, hsaid⟩

theorem Turned.ordered (h : Turned cfg t s s') (hs : Ordered s) : Ordered s' := by
  have hnone {P : SipSent → Prop} : ∀ m ∈ ([] : List SipSent), P m :=
    fun _ h ↦ absurd h List.not_mem_nil
  cases h with
  | stays => exact hs
  | starts h hid hread =>
    refine hs.offline_append (.inl h) rfl (registered_not_mem_sends _ _) ?_
      (forall_said_sends hread ⟨_, rfl⟩ _)
    dsimp only
    split <;> exact id
  | fails h => exact hs.offline_append (.inr h) rfl (by simp) id (by simp)
  | @registers msg h hm =>
    have hnot : .registered ∉ s.log ++ [.received msg] := by simp [hs.offline (.inr h)]
    refine ⟨?_, fun _ ↦ by simp, ?_, ?_⟩
    · rintro (he | he | he) <;> cases he
    · have hbefore := hs.before
      rw [before_of_not_mem (hs.offline (.inr h))] at hbefore
      dsimp only
      rw [before_append_registered hnot]
      simpa using hbefore
    · dsimp only
      rw [since_append_registered hnot]
      exact hnone
  | authenticates h hm hread =>
    refine hs.offline_append (.inr (.inl h)) (List.append_assoc _ _ _) ?_ ?_ ?_
    · simp [registered_not_mem_sends]
    · dsimp only
      split <;> exact id
    · rw [observed_append]
      exact List.forall_mem_append.mpr ⟨hnone, forall_said_sends hread ⟨_, rfl⟩ _⟩
  | passes h => exact hs.serving_append h.serving rfl ⟨h.started, h.answered⟩ (by simp)
  | keepsAlive h hread =>
    have hleads : s.phase.Leads cfg s.phase := leads_online h
    refine hs.serving_append hleads.serving rfl ⟨hleads.started, hleads.answered⟩ ?_
    exact forall_said_sends hread (by rintro ⟨_, ⟨⟩⟩) _
  | answers h hm hdue hinvited hread =>
    refine hs.serving_append h.serving (List.append_assoc _ _ _) ⟨h.started, h.answered⟩ ?_
    rw [observed_append]
    exact List.forall_mem_append.mpr ⟨hnone, forall_said_sends hread (by rintro ⟨_, ⟨⟩⟩) _⟩
  | @notifies phase msg text response cmdType sn h hm hdue hinvited hread hresponse =>
    have hlog := List.append_assoc (s.log ++ [.received msg]) (sends (t.refused 0) text)
      (sends (t.refused 1) response)
    refine hs.serving_append h.serving (hlog.trans (List.append_assoc _ _ _))
      ⟨h.started, h.answered⟩ ?_
    rw [observed_append, observed_append]
    refine List.forall_mem_append.mpr ⟨hnone, List.forall_mem_append.mpr ⟨?_, ?_⟩⟩
    · exact forall_said_sends hread (by rintro ⟨_, ⟨⟩⟩) _
    · exact forall_said_sends hresponse (by rintro ⟨_, ⟨⟩⟩) _
  | accepts h hm hdue hinvited hread =>
    have hleads : s.phase.Leads cfg s.phase := leads_online h
    refine hs.serving_append hleads.serving (List.append_assoc _ _ _) ?_ ?_
    · dsimp only
      split <;> exact ⟨by simp, by rintro (he | he) <;> cases he⟩
    · rw [observed_append]
      exact List.forall_mem_append.mpr ⟨hnone, forall_said_sends hread (by rintro ⟨_, ⟨⟩⟩) _⟩

theorem Ordered.since_offline (hs : Ordered s) (h : s.phase = .starting ∨ s.phase.Listening)
    {more : List SipEvent} (hmore : .registered ∉ more) : SipProbe.since (s.log ++ more) = [] :=
  since_of_not_mem (List.not_mem_append (hs.offline h) hmore)

theorem Ordered.since_serving (hs : Ordered s) (h : s.phase.Serving) (more : List SipEvent) :
    SipProbe.since (s.log ++ more) = SipProbe.since s.log ++ more :=
  since_append (hs.serving h) more

theorem Ordered.since_registers (hs : Ordered s) (h : s.phase.Listening) (msg : Text) :
    SipProbe.since (s.log ++ [.received msg] ++ [.registered]) = [.registered] :=
  since_append_registered (List.not_mem_append (hs.offline (.inr h)) (by simp))

/-- What is given is a part of what is due, and all of it where the condition holds. -/
def Given (complete : Prop) (given due : List β) : Prop :=
  given.Sublist due ∧ (complete → given = due)

section Giving

variable {complete : Prop}

theorem given_nil : Given complete ([] : List β) [] := ⟨.slnil, fun _ ↦ rfl⟩

theorem Given.append {given given' due due' : List β} (h : Given complete given due)
    (h' : Given complete given' due') : Given complete (given ++ given') (due ++ due') :=
  ⟨h.1.append h'.1, fun hc ↦ by rw [h.2 hc, h'.2 hc]⟩

theorem given_sends (ht : complete → ∀ n, t.refused n = false) (n : ℕ) (b : β) :
    Given complete (if t.refused n then [] else [b]) [b] := by
  refine ⟨?_, fun hc ↦ by rw [ht hc n, if_neg Bool.false_ne_true]⟩
  split
  · exact List.nil_sublist [b]
  · exact List.Sublist.refl [b]

def Answers (complete : Prop) (log : List SipEvent) : Prop :=
  Given complete (observed SipSent.answer log) ((heard log).flatMap due)

theorem Turned.answers_due (h : Turned cfg t s s') (ht : complete → ∀ n, t.refused n = false)
    (hs : Ordered s) (ha : Answers complete (since s.log)) : Answers complete (since s'.log) := by
  have hkeep {more : List SipEvent} (hserving : s.phase.Serving)
      (hmore : Answers complete more) : Answers complete (since (s.log ++ more)) := by
    rw [hs.since_serving hserving]
    unfold Answers at ha hmore ⊢
    rw [observed_append, heard_append, List.flatMap_append]
    exact ha.append hmore
  cases h with
  | stays => exact ha
  | starts h hid hread =>
    dsimp only
    rw [hs.since_offline (.inl h) (registered_not_mem_sends _ _)]
    exact given_nil
  | fails h =>
    dsimp only
    rw [hs.since_offline (.inr h) (by simp)]
    exact given_nil
  | registers h =>
    dsimp only
    rw [hs.since_registers h]
    exact given_nil
  | authenticates h hm hread =>
    dsimp only
    rw [List.append_assoc, hs.since_offline (.inr (.inl h)) (by simp [registered_not_mem_sends])]
    exact given_nil
  | passes h hdue hinvited =>
    refine hkeep h.serving ?_
    have hnil : (heard (t.received.toList.map .received)).flatMap due = [] := by
      rw [heard_received]
      exact List.flatMap_eq_nil_iff.mpr fun msg hm ↦ hdue msg (Option.mem_toList.mp hm)
    unfold Answers
    rw [hnil, observed_received]
    exact given_nil
  | keepsAlive h hread =>
    have hleads : s.phase.Leads cfg s.phase := leads_online h
    refine hkeep hleads.serving ?_
    unfold Answers
    rw [heard_sends, observed_sends _ hread]
    simp [SipSent.answer, given_nil]
  | @answers phase msg text h hm hdue hinvited hread =>
    have hgiven := given_sends ht 0 (SipAnswer.ok (messageTransaction msg))
    dsimp only
    rw [List.append_assoc]
    refine hkeep h.serving ?_
    unfold Answers
    simpa [hdue, observed_sends _ hread, SipSent.answer] using hgiven
  | @notifies phase msg text response cmdType sn h hm hdue hinvited hread hresponse =>
    have hgiven := (given_sends ht 0 (SipAnswer.ok (messageTransaction msg))).append
      (given_sends ht 1 (SipAnswer.notify cmdType sn))
    dsimp only
    rw [List.append_assoc, List.append_assoc]
    refine hkeep h.serving ?_
    unfold Answers
    simpa [hdue, observed_sends _ hread, observed_sends _ hresponse, SipSent.answer] using hgiven
  | accepts h hm hdue hinvited hread =>
    have hleads : s.phase.Leads cfg s.phase := leads_online h
    dsimp only
    rw [List.append_assoc]
    refine hkeep hleads.serving ?_
    unfold Answers
    simp [hdue, observed_sends _ hread, SipSent.answer, given_nil]

def invitation (log : List SipEvent) : Option InviteInfo := (heard log).findSome? invited

theorem invitation_append (first second : List SipEvent) :
    invitation (first ++ second) = (invitation first).or (invitation second) := by
  rw [invitation, heard_append, List.findSome?_append]
  rfl

/-- The device accepts the first invitation, waits for it while it is online and streams to where it
says. -/
structure Accepting (cfg : Gb28181Config) (complete : Prop) (s : SipProbe) : Prop where
  given : Given complete (observed SipSent.accepted (since s.log))
    ((invitation (since s.log)).toList.map (acceptance cfg))
  waits : s.phase.Serving → (s.phase = .online ↔ invitation (since s.log) = none)
  plays : s.phase.target cfg = none ∨ ∃ inv, invitation (since s.log) = some inv ∧
    s.phase.target cfg = some (target cfg inv) ∧
      observed SipSent.accepted (since s.log) = [acceptance cfg inv]

theorem accepting_offline (hoff : since s.log = [])
    (hphase : ¬s.phase.Serving ∧ s.phase.target cfg = none) : Accepting cfg complete s := by
  refine ⟨?_, fun h ↦ absurd h hphase.1, .inl hphase.2⟩
  rw [hoff]
  exact given_nil

theorem Accepting.append (ha : Accepting cfg complete s) (hs : Ordered s)
    (hl : s.phase.Leads cfg s'.phase) {more : List SipEvent} (hlog : s'.log = s.log ++ more)
    (hsaid : observed SipSent.accepted more = [])
    (hinvited : s.phase = .online → invitation more = none) : Accepting cfg complete s' := by
  have hsame : invitation (since s'.log) = invitation (since s.log) := by
    rw [hlog, hs.since_serving hl.serving, invitation_append]
    by_cases ho : s.phase = .online
    · rw [hinvited ho, Option.or_none]
    · have hsome := mt (ha.waits hl.serving).mpr ho
      obtain ⟨accepted, he⟩ := Option.ne_none_iff_exists'.mp hsome
      rw [he, Option.some_or]
  have haccepted : observed SipSent.accepted (since s'.log) =
      observed SipSent.accepted (since s.log) := by
    rw [hlog, hs.since_serving hl.serving, observed_append, hsaid, List.append_nil]
  constructor
  · rw [hsame, haccepted]
    exact ha.given
  · intro hserving
    rw [hsame, hl.kept hserving]
    exact ha.waits hl.serving
  · rw [hsame, haccepted]
    rcases hl.plays with hnone | hplays
    · exact .inl hnone
    · rw [hplays]
      exact ha.plays

theorem Accepting.accept (ha : Accepting cfg complete s) (hs : Ordered s) (ho : s.phase = .online)
    {more : List SipEvent} (hlog : s'.log = s.log ++ more) {inv : InviteInfo}
    (hinvited : invitation more = some inv)
    (hgiven : Given complete (observed SipSent.accepted more) [acceptance cfg inv])
    (hnext : s'.phase ≠ .online)
    (hplays : s'.phase.target cfg = none ∨ s'.phase.target cfg = some (target cfg inv) ∧
      observed SipSent.accepted more = [acceptance cfg inv]) : Accepting cfg complete s' := by
  have hleads : s.phase.Leads cfg s.phase := leads_online ho
  have hnone := (ha.waits hleads.serving).mp ho
  have hfound : invitation (since s'.log) = some inv := by
    rw [hlog, hs.since_serving hleads.serving, invitation_append, hnone, hinvited]
    rfl
  have hempty : observed SipSent.accepted (since s.log) = [] := by
    have hsublist := ha.given.1
    rw [hnone] at hsublist
    exact List.sublist_nil.mp hsublist
  have haccepted : observed SipSent.accepted (since s'.log) = observed SipSent.accepted more := by
    rw [hlog, hs.since_serving hleads.serving, observed_append, hempty, List.nil_append]
  constructor
  · rw [haccepted, hfound]
    exact hgiven
  · intro _
    rw [hfound]
    exact iff_of_false hnext (Option.some_ne_none inv)
  · rw [haccepted, hfound]
    rcases hplays with hend | ⟨htarget, hsaid⟩
    · exact .inl hend
    · exact .inr ⟨inv, rfl, htarget, hsaid⟩

theorem Turned.accepting (h : Turned cfg t s s') (ht : complete → ∀ n, t.refused n = false)
    (hs : Ordered s) (ha : Accepting cfg complete s) : Accepting cfg complete s' := by
  cases h with
  | stays => exact ha
  | starts h hid hread =>
    refine accepting_offline (hs.since_offline (.inl h) (registered_not_mem_sends _ _)) ?_
    dsimp only
    split <;> exact ⟨id, rfl⟩
  | fails h => exact accepting_offline (hs.since_offline (.inr h) (by simp)) ⟨id, rfl⟩
  | @registers msg h hm =>
    have hsince := hs.since_registers h msg
    constructor
    · dsimp only
      rw [hsince]
      exact given_nil
    · intro _
      dsimp only
      rw [hsince]
      exact iff_of_true rfl rfl
    · exact .inl rfl
  | authenticates h hm hread =>
    refine accepting_offline ?_ ?_
    · dsimp only
      rw [List.append_assoc, hs.since_offline (.inr (.inl h)) (by simp [registered_not_mem_sends])]
    · dsimp only
      split <;> exact ⟨id, rfl⟩
  | passes h hdue hinvited =>
    refine ha.append hs h rfl (by simp) fun ho ↦ ?_
    rw [invitation, heard_received, List.findSome?_eq_none_iff]
    exact fun msg hm ↦ hinvited ho msg (Option.mem_toList.mp hm)
  | keepsAlive h hread =>
    refine ha.append hs (leads_online h) rfl ?_ fun _ ↦ ?_
    · simp [observed_sends _ hread, SipSent.accepted]
    · rw [invitation, heard_sends]
      rfl
  | answers h hm hdue hinvited hread =>
    refine ha.append hs h (List.append_assoc _ _ _) ?_ fun _ ↦ ?_
    · simp [observed_sends _ hread, SipSent.accepted]
    · simp [invitation, hinvited]
  | @notifies phase msg text response cmdType sn h hm hdue hinvited hread hresponse =>
    have hlog := List.append_assoc (s.log ++ [.received msg]) (sends (t.refused 0) text)
      (sends (t.refused 1) response)
    refine ha.append hs h (hlog.trans (List.append_assoc _ _ _)) ?_ fun _ ↦ ?_
    · simp [observed_sends _ hread, observed_sends _ hresponse, SipSent.accepted]
    · simp [invitation, hinvited]
  | @accepts msg text inv h hm hdue hinvited hread =>
    have hgiven := given_sends ht 0 (acceptance cfg inv)
    have hsaid : observed SipSent.accepted ([.received msg] ++ sends (t.refused 0) text) =
        if t.refused 0 then [] else [acceptance cfg inv] := by
      simp [observed_sends _ hread, SipSent.accepted]
    refine ha.accept hs h (List.append_assoc _ _ _) (by simp [invitation, hinvited])
      (hsaid ▸ hgiven) ?_ ?_
    · dsimp only
      split <;> simp
    · rw [hsaid]
      cases t.refused 0 with
      | true => exact .inl rfl
      | false => exact .inr ⟨rfl, rfl⟩

theorem understood_sends {text : Text} {m : SipSent}
    (hread : (SipMessage.ofText text).sent = some m) (refused : Bool) :
    ∀ event ∈ sends refused text, event.Understood := by
  cases refused
  · exact List.forall_mem_singleton.mpr ⟨m, hread⟩
  · exact fun _ h ↦ absurd h List.not_mem_nil

theorem Turned.understood (h : Turned cfg t s s') (hs : ∀ event ∈ s.log, event.Understood) :
    ∀ event ∈ s'.log, event.Understood := by
  have hreceived : ∀ event ∈ t.received.toList.map SipEvent.received, event.Understood := by
    rintro _ he
    obtain ⟨msg, -, rfl⟩ := List.mem_map.mp he
    trivial
  have hheard (msg : Text) : ∀ event ∈ s.log ++ [.received msg], event.Understood :=
    List.forall_mem_append.mpr ⟨hs, List.forall_mem_singleton.mpr trivial⟩
  cases h with
  | stays => exact hs
  | starts h hid hread => exact List.forall_mem_append.mpr ⟨hs, understood_sends hread _⟩
  | fails => exact List.forall_mem_append.mpr ⟨hs, hreceived⟩
  | registers =>
    exact List.forall_mem_append.mpr ⟨hheard _, List.forall_mem_singleton.mpr trivial⟩
  | authenticates h hm hread =>
    exact List.forall_mem_append.mpr ⟨hheard _, understood_sends hread _⟩
  | passes => exact List.forall_mem_append.mpr ⟨hs, hreceived⟩
  | keepsAlive h hread => exact List.forall_mem_append.mpr ⟨hs, understood_sends hread _⟩
  | answers h hm hdue hinvited hread =>
    exact List.forall_mem_append.mpr ⟨hheard _, understood_sends hread _⟩
  | notifies h hm hdue hinvited hread hresponse =>
    refine List.forall_mem_append.mpr ⟨?_, understood_sends hresponse _⟩
    exact List.forall_mem_append.mpr ⟨hheard _, understood_sends hread _⟩
  | accepts h hm hdue hinvited hread =>
    exact List.forall_mem_append.mpr ⟨hheard _, understood_sends hread _⟩

theorem Turned.callId_lined (h : Turned cfg t s s') (hs : '\n' ∉ s.registerCallId) :
    '\n' ∉ s'.registerCallId := by
  cases h with
  | starts h hid => exact hid
  | stays | fails | registers | authenticates | passes | keepsAlive | answers | notifies
  | accepts => exact hs

structure Kept (cfg : Gb28181Config) (complete : Prop) (s : SipProbe) : Prop where
  callId : '\n' ∉ s.registerCallId
  fresh : s.phase = .starting → s.log = []
  understood : ∀ event ∈ s.log, event.Understood
  ordered : Ordered s
  answers : Answers complete (since s.log)
  accepting : Accepting cfg complete s

theorem kept_initial : Kept cfg complete {} where
  callId := List.not_mem_nil
  fresh _ := rfl
  understood _ h := absurd h List.not_mem_nil
  ordered := ⟨fun _ ↦ List.not_mem_nil, False.elim, fun _ h ↦ absurd h List.not_mem_nil,
    fun _ h ↦ absurd h List.not_mem_nil⟩
  answers := given_nil
  accepting := accepting_offline rfl ⟨id, rfl⟩

theorem Kept.step (h : Kept cfg complete s) (hcfg : cfg.Lined) (md5 : Text → List UInt8)
    (ht : complete → ∀ n, t.refused n = false) : Kept cfg complete (s.step cfg md5 t) := by
  have hturn := turned_step (t := t) md5 hcfg h.callId
  exact
    { callId := hturn.callId_lined h.callId
      fresh := fun hphase ↦ absurd hphase hturn.phase_ne_starting
      understood := hturn.understood h.understood
      ordered := hturn.ordered h.ordered
      answers := hturn.answers_due ht h.ordered h.answers
      accepting := hturn.accepting ht h.ordered h.accepting }

theorem Kept.exec (h : Kept cfg complete s) (hcfg : cfg.Lined) (md5 : Text → List UInt8)
    {turns : List SipTurn} (hturns : ∀ t ∈ turns, complete → ∀ n, t.refused n = false) :
    Kept cfg complete (Runs.exec (SipProbe.step cfg md5) s turns) := by
  induction turns generalizing s with
  | nil => exact h
  | cons t turns ih =>
    obtain ⟨ht, hturns⟩ := List.forall_mem_cons.mp hturns
    exact ih (h.step hcfg md5 ht) hturns

end Giving

end SipProbe

end TriFusion.Protocol
