import TriFusion.DeviceControl.PromptLink

namespace TriFusion.DeviceControl

open Foundation Library CompositeSensorController

namespace RegisterCommand

/-- Bytes in front of the ACKs of a call that its attempts get past: whole blocks,
fewer than there are attempts, and none that the parser takes. -/
structure Absorbs (c : RegisterCommand) (attempts : ℕ) (left : List UInt8) : Prop where
  whole : c.ackFormat.width ∣ left.length
  fewer : left.length / c.ackFormat.width < attempts
  rejected : ∀ i < left.length / c.ackFormat.width, ¬ c.Accepts (c.ackFormat.block left i)

theorem absorbs_nil (c : RegisterCommand) {attempts : ℕ} (h : 0 < attempts) :
    c.Absorbs attempts [] := by
  refine ⟨Dvd.intro 0 rfl, ?_, ?_⟩
  · rwa [List.length_nil, Nat.zero_div]
  · intro i hi
    rw [List.length_nil, Nat.zero_div] at hi
    exact absurd hi i.not_lt_zero

theorem accepts_ack (c : RegisterCommand) {r : Reply} (h : r.accepted = true) :
    c.Accepts (c.ack r) := by
  obtain ⟨accepted, data⟩ := r
  obtain rfl : accepted = true := h
  exact ⟨data, rfl⟩

end RegisterCommand

namespace Link

variable {δ : Type} {l₀ l l' : Link δ} {c : RegisterCommand} {replies : List Reply} {α : Type}
  {shows : α → List UInt8 → Prop} {result : Result α}

/-- The last bytes read were the ACK of a command answered after `l₀`: what is
unread is what was answered later. -/
def LastRead (l₀ l : Link δ) (c : RegisterCommand) (r : Reply) : Prop :=
  ∃ k, l₀.answered.length ≤ k ∧ l.answered[k]? = some (c, r) ∧
    l.unread.length = ((l.answered.drop (k + 1)).flatMap fun a ↦ a.1.ack a.2).length

theorem lastRead_iff (h : Exchanged c l₀ replies l) {r : Reply} :
    LastRead l₀ l c r ↔ ∃ i, replies[i]? = some r ∧
      l₀.unread.length = c.ackFormat.width * (replies.length - (i + 1)) := by
  have hacks (i : ℕ) : ((l.answered.drop (l₀.answered.length + (i + 1))).flatMap
      fun a ↦ a.1.ack a.2).length = c.ackFormat.width * (replies.length - (i + 1)) := by
    have hd : l.answered.drop (l₀.answered.length + (i + 1)) =
        (replies.drop (i + 1)).map (c, ·) := by
      rw [h.answered, ← List.drop_drop, List.drop_left, List.map_drop]
    have hs : ((replies.drop (i + 1)).map (c, ·)).flatMap (fun a ↦ a.1.ack a.2) =
        c.ackFormat.stream (replies.drop (i + 1)) := List.flatMap_map ..
    rw [hd, hs, Records.length_stream, List.length_drop]
  have hget (i : ℕ) : l.answered[l₀.answered.length + i]? = some (c, r) ↔
      replies[i]? = some r := by
    rw [h.answered, List.getElem?_append_right (Nat.le_add_right _ _), Nat.add_sub_cancel_left,
      List.getElem?_map]
    simp
  constructor
  · rintro ⟨k, hk, hr, hu⟩
    obtain ⟨i, rfl⟩ := Nat.exists_eq_add_of_le hk
    refine ⟨i, (hget i).mp hr, ?_⟩
    rw [← h.length_unread, hu, ← hacks i, Nat.add_assoc]
  · rintro ⟨i, hr, hu⟩
    refine ⟨l₀.answered.length + i, Nat.le_add_right _ _, (hget i).mpr hr, ?_⟩
    rw [h.length_unread, hu, ← hacks i, Nat.add_assoc]

def received (l₀ : Link δ) (c : RegisterCommand) (replies : List Reply) (i : ℕ) : List UInt8 :=
  c.ackFormat.block (l₀.unread ++ c.ackFormat.stream replies) i

theorem received_left {i : ℕ} (h : c.ackFormat.width * (i + 1) ≤ l₀.unread.length) :
    l₀.received c replies i = c.ackFormat.block l₀.unread i :=
  Records.block_append_left _ h _

theorem received_own {count : ℕ} (h : l₀.unread.length = c.ackFormat.width * count) (r : Reply)
    (rest : List Reply) : l₀.received c (r :: rest) count = c.ack r := by
  have hb := Records.block_append_right c.ackFormat h (c.ackFormat.stream (r :: rest)) 0
  rw [Records.stream_cons, Records.block_encode] at hb
  exact hb

theorem received_append {i : ℕ} (h : i < replies.length) (more : List Reply) :
    l₀.received c (replies ++ more) i = l₀.received c replies i := by
  rw [received, received, Records.stream_append, ← List.append_assoc]
  apply Records.block_append_left
  rw [List.length_append, Records.length_stream]
  exact (Nat.mul_le_mul_left _ h).trans (Nat.le_add_left _ _)

/-- The attempts of a call so far: each was answered, and none of the first
`count` blocks was an ACK. -/
structure Tried (c : RegisterCommand) (l₀ : Link δ) (replies : List Reply) (count : ℕ)
    (l : Link δ) : Prop extends Exchanged c l₀ replies l where
  executed : ∀ r ∈ replies, r.accepted = true
  rejected : ∀ i < count, ¬ c.Accepts (l₀.received c replies i)

/-- One attempt: it reads the oldest block, and fails when that is no ACK. -/
inductive Attempted (shows : α → List UInt8 → Prop) (c : RegisterCommand) (l l' : Link δ) :
    Result α → Prop
  | taken (r : Reply) (a : α) (executed : r.accepted = true) (exchanged : Exchanged c l [r] l')
      (shown : shows a ((l.unread ++ c.ack r).take c.ackFormat.width)) :
      Attempted shows c l l' (.ok a)
  | refused (r : Reply) (e : Status) (executed : r.accepted = true)
      (exchanged : Exchanged c l [r] l')
      (refused : ¬ c.Accepts ((l.unread ++ c.ack r).take c.ackFormat.width)) :
      Attempted shows c l l' (.error e)

inductive Called (shows : α → List UInt8 → Prop) (n : ℕ) (c : RegisterCommand) (l₀ l : Link δ) :
    Result α → Prop
  | answered (replies : List Reply) (r : Reply) (a : α) (short : replies.length < n)
      (tried : Tried c l₀ (replies ++ [r]) replies.length l)
      (shown : shows a (l₀.received c (replies ++ [r]) replies.length)) :
      Called shows n c l₀ l (.ok a)
  | failed (replies : List Reply) (e : Status) (spent : replies.length = n)
      (tried : Tried c l₀ replies n l) : Called shows n c l₀ l (.error e)

theorem Tried.refl (hq : l.toDevice = []) : Tried c l [] 0 l :=
  ⟨.refl c hq, fun _ hr ↦ absurd hr List.not_mem_nil, fun i hi ↦ absurd hi i.not_lt_zero⟩

theorem Tried.next {r : Reply} (h : Tried c l₀ replies replies.length l) (hr : r.accepted = true)
    (hx : Exchanged c l [r] l') : Tried c l₀ (replies ++ [r]) replies.length l' := by
  refine ⟨h.toExchanged.trans hx, ?_, ?_⟩
  · intro r' hr'
    rcases List.mem_append.mp hr' with hr' | hr'
    · exact h.executed r' hr'
    · rw [List.mem_singleton.mp hr']
      exact hr
  · intro i hi
    rw [received_append hi]
    exact h.rejected i hi

theorem Tried.refuse {r : Reply} (h : Tried c l₀ (replies ++ [r]) replies.length l)
    (hr : ¬ c.Accepts (l₀.received c (replies ++ [r]) replies.length)) :
    Tried c l₀ (replies ++ [r]) (replies ++ [r]).length l := by
  refine ⟨h.toExchanged, h.executed, ?_⟩
  intro i hi
  rw [List.length_append, List.length_singleton] at hi
  rcases Nat.lt_succ_iff_lt_or_eq.mp hi with hi | rfl
  · exact h.rejected i hi
  · exact hr

theorem retryLoop_called {failure : Text} {attempt : Link δ → Result α × Link δ}
    (hattempt : ∀ l result l', l.toDevice = [] → attempt l = (result, l') →
      Attempted shows c l l' result)
    (n : ℕ) (hq : l₀.toDevice = []) (he : retryLoop failure attempt n none l₀ = (result, l)) :
    Called shows n c l₀ l result ∧
      ∀ e, result = .error e → e.code = .compositeModeSwitchFailed := by
  have hok (k : ℕ) (w : Link δ) (a : α) (w' : Link δ)
      (hi : ∃ replies, replies.length = k ∧ Tried c l₀ replies replies.length w)
      (hx : attempt w = (.ok a, w')) :
      ∃ replies r, replies.length = k ∧ Tried c l₀ (replies ++ [r]) replies.length w' ∧
        shows a (l₀.received c (replies ++ [r]) replies.length) := by
    obtain ⟨replies, hk, ht⟩ := hi
    cases hattempt w _ w' ht.quiet hx with
    | taken r _ hr hx hs =>
      rw [ht.toExchanged.block] at hs
      exact ⟨replies, r, hk, ht.next hr hx, hs⟩
  have herr (k : ℕ) (w : Link δ) (e : Status) (w' : Link δ)
      (hi : ∃ replies, replies.length = k ∧ Tried c l₀ replies replies.length w)
      (hx : attempt w = (.error e, w')) :
      ∃ replies, replies.length = k + 1 ∧ Tried c l₀ replies replies.length w' := by
    obtain ⟨replies, hk, ht⟩ := hi
    cases hattempt w _ w' ht.quiet hx with
    | refused r _ hr hx hs =>
      rw [ht.toExchanged.block] at hs
      refine ⟨replies ++ [r], ?_, (ht.next hr hx).refuse hs⟩
      rw [List.length_append, hk, List.length_singleton]
  rcases retryLoop_counted hok herr n none ⟨[], rfl, .refl hq⟩ he with
    ⟨t, a, ht, rfl, replies, r, hk, htried, hs⟩ | ⟨e, rfl, hc, replies, hk, htried⟩
  · rw [List.length_nil, Nat.zero_add] at hk
    exact ⟨.answered replies r a (hk ▸ ht) htried hs, fun e he ↦ (nomatch he)⟩
  · rw [List.length_nil, Nat.zero_add] at hk
    refine ⟨.failed replies e hk (hk ▸ htried), fun e' he' ↦ ?_⟩
    obtain rfl := Except.error.inj he'
    exact hc

/-- A call returns the reply to a command of its own exactly when its attempts
get past the bytes that were unread before it. -/
theorem called_iff {n : ℕ} (hs : ∀ a bytes, shows a bytes → c.Accepts bytes)
    (h : Called shows n c l₀ l result) :
    (∃ a, result = .ok a ∧ ∃ r, shows a (c.ack r) ∧ LastRead l₀ l c r) ↔
      c.Absorbs n l₀.unread := by
  have hpos := c.ackFormat.width_pos
  constructor
  · rintro ⟨a, rfl, r', -, hlast⟩
    cases h with
    | answered replies r _ short tried shown =>
      obtain ⟨i, hi, hu⟩ := (lastRead_iff tried.toExchanged).mp hlast
      have hilt := (List.getElem?_eq_some_iff.mp hi).1
      rw [List.length_append, List.length_singleton] at hu hilt
      rw [Nat.add_sub_add_right] at hu
      have hdiv : l₀.unread.length / c.ackFormat.width = replies.length - i := by
        rw [hu, Nat.mul_div_cancel_left _ hpos]
      refine ⟨⟨_, hu⟩, ?_, ?_⟩
      · omega
      · intro j hj
        rw [hdiv] at hj
        have hfit : c.ackFormat.width * (j + 1) ≤ l₀.unread.length := by
          rw [hu]
          exact Nat.mul_le_mul_left _ hj
        rw [← received_left hfit]
        exact tried.rejected j (by omega)
  · rintro ⟨⟨count, hu⟩, hlt, hrej⟩
    rw [hu, Nat.mul_div_cancel_left _ hpos] at hlt hrej
    have hown (r : Reply) (rest : List Reply) (hr : r.accepted = true) :
        c.Accepts (l₀.received c (r :: rest) count) := by
      rw [received_own hu]
      exact c.accepts_ack hr
    cases h with
    | failed replies e spent tried =>
      cases replies with
      | nil =>
        rw [← spent] at hlt
        exact absurd hlt (Nat.not_lt_zero _)
      | cons r rest =>
        exact absurd (hown r rest (tried.executed r List.mem_cons_self)) (tried.rejected count hlt)
    | answered replies r a short tried shown =>
      obtain ⟨r₀, rest, hcons⟩ : ∃ r₀ rest, replies ++ [r] = r₀ :: rest :=
        List.exists_cons_of_ne_nil (List.append_ne_nil_of_right_ne_nil _ (List.cons_ne_nil _ _))
      have hx := tried.toExchanged
      have hacc := tried.executed r₀ (hcons ▸ List.mem_cons_self)
      rcases Nat.lt_trichotomy count replies.length with hlt' | rfl | hgt
      · have hno := tried.rejected count hlt'
        rw [hcons] at hno
        exact absurd (hown r₀ rest hacc) hno
      · rw [hcons, received_own hu] at shown
        refine ⟨a, rfl, r₀, shown, (lastRead_iff hx).mpr ⟨0, by rw [hcons]; rfl, ?_⟩⟩
        rw [hu, List.length_append, List.length_singleton, Nat.add_sub_cancel]
      · have hfit : c.ackFormat.width * (replies.length + 1) ≤ l₀.unread.length := by
          rw [hu]
          exact Nat.mul_le_mul_left _ hgt
        rw [received_left hfit] at shown
        exact absurd (hs a _ shown) (hrej _ hgt)

theorem Called.behind {n : ℕ} (hn : 0 < n) (h : Called shows n c l₀ l result) :
    ∃ replies r, r.accepted = true ∧ Exchanged c l₀ (replies ++ [r]) l := by
  cases h with
  | answered replies r a _ tried _ =>
    exact ⟨replies, r, tried.executed r (List.mem_append_right _ List.mem_cons_self),
      tried.toExchanged⟩
  | failed replies e spent tried =>
    have hne : replies ≠ [] := by
      rintro rfl
      exact absurd hn (spent ▸ Nat.lt_irrefl 0)
    have hsplit := List.dropLast_append_getLast hne
    refine ⟨replies.dropLast, replies.getLast hne, tried.executed _ (List.getLast_mem hne), ?_⟩
    rw [hsplit]
    exact tried.toExchanged

theorem Exchanged.last {r : Reply} (h : Exchanged c l₀ (replies ++ [r]) l)
    (hle : c.ackFormat.width ≤ l.unread.length) :
    l.unread.drop (l.unread.length - c.ackFormat.width) = c.ack r := by
  have hlen := h.length_unread
  have hstream : (l₀.unread ++ c.ackFormat.stream replies).length =
      c.ackFormat.width * (replies ++ [r]).length +
        (l.unread.length - c.ackFormat.width) := by
    rw [List.length_append, Records.length_stream, List.length_append, List.length_singleton,
      Nat.mul_succ]
    omega
  have hd := congrArg (List.drop (l.unread.length - c.ackFormat.width)) h.unread
  rw [List.drop_drop, ← hstream, Records.stream_append, ← List.append_assoc, List.drop_left,
    Records.stream_singleton] at hd
  exact hd

/-- A call never gets past the ACK of the call of that command before it. -/
theorem Exchanged.not_absorbs {r : Reply} (h : Exchanged c l₀ (replies ++ [r]) l)
    (hr : r.accepted = true) (hne : l.unread ≠ []) (n : ℕ) : ¬ c.Absorbs n l.unread := by
  rintro ⟨⟨count, hu⟩, -, hrej⟩
  have hpos := c.ackFormat.width_pos
  rw [hu, Nat.mul_div_cancel_left _ hpos] at hrej
  cases count with
  | zero => exact hne (List.length_eq_zero_iff.mp (hu.trans (Nat.mul_zero _)))
  | succ count =>
    have hle : c.ackFormat.width ≤ l.unread.length := by
      rw [hu, Nat.mul_succ]
      exact Nat.le_add_left _ _
    have hblock : c.ackFormat.block l.unread count = c.ack r := by
      have hlast := h.last hle
      rw [hu, Nat.mul_succ, Nat.add_sub_cancel] at hlast
      rw [Records.Format.block, hlast]
      exact List.take_of_length_le (c.length_ack r).le
    apply hrej count (Nat.lt_succ_self count)
    rw [hblock]
    exact c.accepts_ack hr

end Link

end TriFusion.DeviceControl
