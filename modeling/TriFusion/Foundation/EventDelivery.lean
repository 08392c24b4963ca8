import TriFusion.Foundation.EventBus
import TriFusion.Foundation.PoolTasks
import Mathlib.Data.List.Nodup

namespace TriFusion.Foundation

open Library

variable {α κ : Type} [DecidableEq α] [DecidableEq κ]

namespace ThreadPool

def pending (p : ThreadPool α) (task : α) : ℕ :=
  p.tasks.queue.count task + p.workers.count (.run task)

variable {p : ThreadPool α}

theorem pending_start (workerCount : ℕ) (task : α) :
    (p.start workerCount).2.pending task = p.pending task := by
  unfold start
  split
  · rfl
  · split
    · rfl
    · simp [pending, List.count_replicate]

theorem pending_submit {p' : ThreadPool α} {new : α} (h : p.submit new = some p') (task : α) :
    p'.pending task ≤ p.pending task + if new = task then 1 else 0 := by
  obtain ⟨tasks, hpush, rfl⟩ := Option.map_eq_some_iff.mp h
  unfold BlockingQueue.push at hpush
  split at hpush
  · split at hpush
    · obtain rfl := Option.some_inj.mp hpush
      exact Nat.le_add_right _ _
    · obtain rfl := Option.some_inj.mp hpush
      simp only [pending, List.count_append, List.count_singleton, beq_iff_eq]
      omega
  · cases hpush

theorem pending_stop (task : α) : p.stop.pending task = p.pending task := by
  unfold stop
  split <;> rfl

theorem pending_stopStep (task : α) : p.stopStep.pending task ≤ p.pending task := by
  unfold stopStep
  cases p.caller with
  | idle => exact Nat.le_refl _
  | closing => exact Nat.le_refl _
  | joining =>
    dsimp only
    split
    · simp [pending]
    · exact Nat.le_refl _

theorem pending_workerStep (i : ℕ) (task : α) :
    (p.workerStep i).1.toList.count task + (p.workerStep i).2.pending task ≤ p.pending task := by
  unfold workerStep
  cases hw : p.workers[i]? with
  | none => simp
  | some phase =>
    cases phase with
    | check =>
      have hc := PoolRun.count_set hw (if p.running then .pop else .exited) (.run task)
      have hne : (if p.running then WorkerPhase.pop else .exited) ≠ .run task := by
        split <;> simp
      simp only [reduceCtorEq, if_false, if_neg hne] at hc
      simp only [pending, Option.toList_none, List.count_nil]
      omega
    | pop =>
      cases hq : p.tasks.queue with
      | nil =>
        have hpop : p.tasks.pop = if p.tasks.closed then some (none, p.tasks) else none := by
          rw [BlockingQueue.pop, hq]
        cases hclosed : p.tasks.closed with
        | false => simp [hpop, hclosed]
        | true =>
          have hc := PoolRun.count_set hw .exited (.run task)
          simp only [reduceCtorEq, if_false] at hc
          simp only [hpop, hclosed, if_true, pending, Option.toList_none, List.count_nil]
          omega
      | cons first rest =>
        have hpop : p.tasks.pop = some (some first, { p.tasks with queue := rest }) := by
          rw [BlockingQueue.pop, hq]
        have hc := PoolRun.count_set hw (.run first) (.run task)
        simp only [reduceCtorEq, if_false, WorkerPhase.run.injEq] at hc
        simp only [hpop, pending, Option.toList_none, List.count_nil, hq, List.count_cons,
          beq_iff_eq]
        omega
    | run done =>
      have hc := PoolRun.count_set hw .check (.run task)
      simp only [reduceCtorEq, if_false, WorkerPhase.run.injEq] at hc
      simp only [pending, Option.toList_some, List.count_singleton, beq_iff_eq]
      omega
    | exited => simp

end ThreadPool

namespace BusRun

variable {s : BusRun κ}

structure Delivers (s : BusRun κ) : Prop where
  subscribers : ∀ type, s.bus.subscribers type = BusCommit.live type s.history
  nextId : s.bus.nextId = UInt64.ofNat ((s.history.filterMap BusCommit.newId).length + 1)
  ids : s.history.filterMap BusCommit.newId =
    (List.range (s.history.filterMap BusCommit.newId).length).map fun k ↦ UInt64.ofNat (k + 1)
  copied : ∀ n p, s.publications[n]? = some p → ∃ before after,
    s.history = before ++ .published n p.event :: after ∧
      p.callbacks = BusCommit.live p.event.type before
  handed : ∀ n p, s.publications[n]? = some p → ∃ done, p.callbacks = done ++ p.rest ∧
    s.handed.filter (fun d ↦ d.call = n) = done.map fun c ↦ ⟨n, c, p.event⟩
  known : ∀ d ∈ s.handed, d.call < s.publications.length
  ran : ∀ d, s.ran.count d + s.bus.pool.pending d ≤ s.handed.count d

theorem start_delivers : Delivers ({} : BusRun κ) := by
  constructor <;> simp [BusCommit.live, ThreadPool.pending]

theorem Delivers.frame (h : s.Delivers) {s' : BusRun κ}
    (hs : s'.bus.subscribers = s.bus.subscribers) (hn : s'.bus.nextId = s.bus.nextId)
    (hp : s'.publications = s.publications) (hh : s'.history = s.history)
    (hd : s'.handed = s.handed)
    (hr : ∀ d, s'.ran.count d + s'.bus.pool.pending d ≤ s.ran.count d + s.bus.pool.pending d) :
    s'.Delivers := by
  constructor
  case subscribers => rw [hs, hh]; exact h.subscribers
  case nextId => rw [hn, hh]; exact h.nextId
  case ids => rw [hh]; exact h.ids
  case copied => rw [hp, hh]; exact h.copied
  case handed => rw [hp, hd]; exact h.handed
  case known => rw [hd, hp]; exact h.known
  case ran =>
    intro d
    rw [hd]
    exact Nat.le_trans (hr d) (h.ran d)

theorem Delivers.commit (h : s.Delivers) {bus : EventBus κ} {c : BusCommit κ}
    (hpool : bus.pool = s.bus.pool)
    (hs : ∀ type, bus.subscribers type = BusCommit.live type (s.history ++ [c]))
    (hid : bus.nextId = s.bus.nextId + UInt64.ofNat c.newId.toList.length)
    (hnew : ∀ id, c.newId = some id → id = s.bus.nextId) :
    Delivers { s with bus := bus, history := s.history ++ [c] } := by
  have hnews : (s.history ++ [c]).filterMap BusCommit.newId =
      s.history.filterMap BusCommit.newId ++ c.newId.toList := by
    rw [List.filterMap_append]
    cases hc : c.newId with
    | none => rw [List.filterMap_cons_none hc]; rfl
    | some id => rw [List.filterMap_cons_some hc]; rfl
  constructor
  case subscribers => exact hs
  case nextId =>
    dsimp only
    rw [hid, hnews, h.nextId, List.length_append, ← UInt64.ofNat_add]
    congr 1
    omega
  case ids =>
    dsimp only
    rw [hnews, List.length_append]
    cases hc : c.newId with
    | none =>
      rw [Option.toList_none, List.append_nil, List.length_nil, Nat.add_zero]
      exact h.ids
    | some id =>
      rw [Option.toList_some, List.length_singleton, List.range_succ, List.map_append, ← h.ids,
        hnew id hc, h.nextId]
      rfl
  case copied =>
    intro n p hp
    obtain ⟨before, after, he, hc⟩ := h.copied n p hp
    refine ⟨before, after ++ [c], ?_, hc⟩
    dsimp only
    rw [he, List.append_assoc, List.cons_append]
  case handed => exact h.handed
  case known => exact h.known
  case ran =>
    intro d
    dsimp only
    rw [hpool]
    exact h.ran d

theorem Delivers.subscribe (h : s.Delivers) (type : EventType) (callback : κ) :
    (s.step (.subscribe type callback)).Delivers := by
  refine h.commit rfl ?_ rfl ?_
  · intro type'
    rw [BusCommit.live_append_subscribed, ← h.subscribers]
    by_cases ht : type' = type
    · subst ht
      simp [EventBus.subscribe]
    · simp [EventBus.subscribe, Function.update_of_ne ht, Ne.symm ht]
  · intro id hid
    exact (Option.some_inj.mp hid).symm

theorem Delivers.unsubscribe (h : s.Delivers) (id : UInt64) :
    (s.step (.unsubscribe id)).Delivers := by
  refine h.commit rfl ?_ ?_ ?_
  · intro type
    rw [BusCommit.live_append_unsubscribed, ← h.subscribers]
    rfl
  · exact (UInt64.add_zero _).symm
  · intro id' hid
    cases hid

theorem Delivers.clear (h : s.Delivers) : (s.step .clear).Delivers := by
  refine h.commit rfl ?_ ?_ ?_
  · intro type
    rw [BusCommit.live_append_cleared]
    rfl
  · exact (UInt64.add_zero _).symm
  · intro id hid
    cases hid

theorem Delivers.publish (h : s.Delivers) (event : Event) :
    (s.step (.publish event)).Delivers := by
  have hnews : (s.history ++ [BusCommit.published s.publications.length event]).filterMap
      BusCommit.newId =
      s.history.filterMap BusCommit.newId := by
    rw [List.filterMap_append, List.filterMap_cons_none rfl, List.filterMap_nil, List.append_nil]
  have hcases {n : ℕ} {p : Publication κ}
      (hp : (s.step (.publish event)).publications[n]? = some p) :
      s.publications[n]? = some p ∨ n = s.publications.length ∧
        p = ⟨event, s.bus.callbacks event, s.bus.callbacks event⟩ := by
    dsimp only [step] at hp
    rw [List.getElem?_append] at hp
    split at hp
    · exact .inl hp
    · right
      rename_i hn
      rw [List.getElem?_singleton] at hp
      split at hp
      · exact ⟨by omega, (Option.some_inj.mp hp).symm⟩
      · cases hp
  constructor
  case subscribers =>
    intro type
    rw [step, BusCommit.live_append_published]
    exact h.subscribers type
  case nextId => rw [step, hnews]; exact h.nextId
  case ids => rw [step, hnews]; exact h.ids
  case copied =>
    intro n p hp
    rcases hcases hp with hp | ⟨rfl, rfl⟩
    · obtain ⟨before, after, he, hc⟩ := h.copied n p hp
      refine ⟨before, after ++ [.published s.publications.length event], ?_, hc⟩
      rw [step, he, List.append_assoc, List.cons_append]
    · exact ⟨s.history, [], rfl, h.subscribers event.type⟩
  case handed =>
    intro n p hp
    rcases hcases hp with hp | ⟨rfl, rfl⟩
    · exact h.handed n p hp
    · refine ⟨[], rfl, ?_⟩
      rw [List.map_nil, List.filter_eq_nil_iff]
      intro d hd
      have hlt := h.known d hd
      simp only [decide_eq_true_eq]
      omega
  case known =>
    intro d hd
    have hlt := h.known d hd
    rw [step, List.length_append]
    omega
  case ran => exact h.ran

theorem Delivers.handed_next (h : s.Delivers) {call : ℕ} {p : Publication κ}
    {subscriber : Subscriber κ} {rest : List (Subscriber κ)} (hp : s.publications[call]? = some p)
    (hrest : p.rest = subscriber :: rest) {s' : BusRun κ}
    (hs : s'.bus.subscribers = s.bus.subscribers) (hn : s'.bus.nextId = s.bus.nextId)
    (hpub : s'.publications = s.publications.set call { p with rest := rest })
    (hh : s'.history = s.history) (hd : s'.handed = s.handed ++ [⟨call, subscriber, p.event⟩])
    (hr : ∀ d, s'.ran.count d + s'.bus.pool.pending d ≤ s.ran.count d + s.bus.pool.pending d +
      if ⟨call, subscriber, p.event⟩ = d then 1 else 0) : s'.Delivers := by
  have hlt : call < s.publications.length := (List.getElem?_eq_some_iff.mp hp).1
  have hcases {n : ℕ} {q : Publication κ} (hq : s'.publications[n]? = some q) :
      (n ≠ call ∧ s.publications[n]? = some q) ∨ n = call ∧ q = { p with rest := rest } := by
    rw [hpub] at hq
    by_cases hc : call = n
    · subst hc
      rw [List.getElem?_set_self hlt] at hq
      exact .inr ⟨rfl, (Option.some_inj.mp hq).symm⟩
    · rw [List.getElem?_set_ne hc] at hq
      exact .inl ⟨Ne.symm hc, hq⟩
  constructor
  case subscribers => rw [hs, hh]; exact h.subscribers
  case nextId => rw [hn, hh]; exact h.nextId
  case ids => rw [hh]; exact h.ids
  case copied =>
    intro n q hq
    rw [hh]
    rcases hcases hq with ⟨-, hq⟩ | ⟨rfl, rfl⟩
    · exact h.copied n q hq
    · exact h.copied n p hp
  case handed =>
    intro n q hq
    rw [hd, List.filter_append]
    rcases hcases hq with ⟨hne, hq⟩ | ⟨rfl, rfl⟩
    · obtain ⟨done, hc, hf⟩ := h.handed n q hq
      refine ⟨done, hc, ?_⟩
      rw [hf, List.filter_cons_of_neg (by simpa using Ne.symm hne), List.filter_nil,
        List.append_nil]
    · obtain ⟨done, hc, hf⟩ := h.handed n p hp
      refine ⟨done ++ [subscriber], ?_, ?_⟩
      · rw [hc, hrest, List.append_assoc, List.singleton_append]
      · rw [hf, List.filter_cons_of_pos (by simp), List.filter_nil, List.map_append,
          List.map_singleton]
  case known =>
    intro d hmem
    rw [hd] at hmem
    rw [hpub, List.length_set]
    rcases List.mem_append.mp hmem with hmem | hmem
    · exact h.known d hmem
    · rw [List.mem_singleton.mp hmem]
      exact hlt
  case ran =>
    intro d
    have hcount := h.ran d
    have hnext := hr d
    rw [hd, List.count_append, List.count_singleton]
    simp only [beq_iff_eq]
    omega

theorem Delivers.turn (h : s.Delivers) (call : ℕ) : (s.turn call).Delivers := by
  unfold BusRun.turn
  cases hp : s.publications[call]? with
  | none => exact h
  | some p =>
    dsimp only
    cases hrest : p.rest with
    | nil => exact h
    | cons subscriber rest =>
      dsimp only
      split
      · cases hsub : s.bus.pool.submit ⟨call, subscriber, p.event⟩ with
        | none => exact h
        | some pool =>
          refine h.handed_next hp hrest rfl rfl rfl rfl rfl ?_
          intro d
          have hpend := ThreadPool.pending_submit hsub d
          dsimp only
          omega
      · refine h.handed_next hp hrest rfl rfl rfl rfl rfl ?_
        intro d
        dsimp only
        rw [List.count_append, List.count_singleton]
        simp only [beq_iff_eq]
        omega

theorem init_frame (b : EventBus κ) (async : Bool) (workers : ℕ) :
    (b.init async workers).2.subscribers = b.subscribers ∧
      (b.init async workers).2.nextId = b.nextId ∧
        ∀ d, (b.init async workers).2.pool.pending d = b.pool.pending d := by
  unfold EventBus.init
  split
  · exact ⟨rfl, rfl, fun d ↦ rfl⟩
  · split
    · have hstart := fun d ↦ ThreadPool.pending_start (p := b.pool) workers d
      dsimp only
      generalize b.pool.start workers = started at hstart
      obtain ⟨result, pool⟩ := started
      cases result with
      | ok => exact ⟨rfl, rfl, hstart⟩
      | error status => exact ⟨rfl, rfl, hstart⟩
    · exact ⟨rfl, rfl, fun d ↦ rfl⟩

theorem Delivers.step (h : s.Delivers) (move : BusMove κ) : (s.step move).Delivers := by
  cases move with
  | init async workers =>
    obtain ⟨hs, hn, hpend⟩ := init_frame s.bus async workers
    refine h.frame hs hn rfl rfl rfl ?_
    intro d
    rw [BusRun.step]
    exact Nat.add_le_add_left (Nat.le_of_eq (hpend d)) _
  | subscribe type callback => exact h.subscribe type callback
  | unsubscribe id => exact h.unsubscribe id
  | publish event => exact h.publish event
  | turn call => exact h.turn call
  | clear => exact h.clear
  | stop =>
    rw [BusRun.step]
    split
    · exact h
    · refine h.frame rfl rfl rfl rfl rfl ?_
      intro d
      exact Nat.add_le_add_left (Nat.le_of_eq (ThreadPool.pending_stop d)) _
  | caller =>
    refine h.frame rfl rfl rfl rfl rfl ?_
    intro d
    exact Nat.add_le_add_left (ThreadPool.pending_stopStep d) _
  | worker i =>
    have hpend := fun d ↦ ThreadPool.pending_workerStep (p := s.bus.pool) i d
    rw [BusRun.step]
    generalize s.bus.pool.workerStep i = next at hpend
    obtain ⟨finished, pool⟩ := next
    cases finished with
    | none =>
      refine h.frame rfl rfl rfl rfl rfl ?_
      intro d
      have hd := hpend d
      simp only [Option.toList_none, List.count_nil] at hd
      dsimp only
      omega
    | some done =>
      refine h.frame rfl rfl rfl rfl rfl ?_
      intro d
      have hd := hpend d
      simp only [Option.toList_some, List.count_singleton] at hd
      dsimp only
      rw [List.count_append, List.count_singleton]
      omega

theorem run_delivers (moves : List (BusMove κ)) : (run moves).Delivers :=
  Runs.exec_invariant (fun _ move h ↦ h.step move) start_delivers moves

theorem Delivers.ids_nodup (h : s.Delivers)
    (hcount : (s.history.filterMap BusCommit.newId).length < 2 ^ 64) :
    (s.history.filterMap BusCommit.newId).Nodup := by
  rw [h.ids]
  refine List.Nodup.map_on ?_ List.nodup_range
  intro j hj k hk he
  rw [List.mem_range] at hj hk
  have heq := congrArg UInt64.toNat he
  rw [UInt64.toNat_ofNat', UInt64.toNat_ofNat', Nat.mod_eq_of_lt (by omega),
    Nat.mod_eq_of_lt (by omega)] at heq
  omega

/-- A bus without workers calls every callback in the turn that hands it the event. -/
structure Direct (s : BusRun κ) : Prop where
  async : s.bus.async = false
  workers : s.bus.pool.workers = []
  ran : s.ran = s.handed

theorem Direct.step (h : s.Direct) {move : BusMove κ} (hm : ∀ workers, move ≠ .init true workers) :
    (s.step move).Direct := by
  have ha := h.async
  have hw := h.workers
  cases move with
  | init async workers =>
    cases async with
    | true => exact absurd rfl (hm workers)
    | false =>
      rw [BusRun.step, EventBus.init]
      split
      · exact ⟨ha, hw, h.ran⟩
      · exact ⟨rfl, hw, h.ran⟩
  | turn call =>
    rw [BusRun.step, BusRun.turn]
    cases hp : s.publications[call]? with
    | none => exact h
    | some p =>
      dsimp only
      cases hrest : p.rest with
      | nil => exact h
      | cons subscriber rest =>
        dsimp only
        rw [ha, if_neg Bool.false_ne_true]
        exact ⟨ha, hw, congrArg (· ++ _) h.ran⟩
  | stop =>
    rw [BusRun.step, ThreadPool.stop]
    split
    · exact h
    · split <;> exact ⟨ha, hw, h.ran⟩
  | caller =>
    refine ⟨ha, ?_, h.ran⟩
    rw [BusRun.step, ThreadPool.stopStep]
    dsimp only
    split
    · exact hw
    · exact hw
    · split
      · rfl
      · exact hw
  | worker i =>
    have hnone : s.bus.pool.workerStep i = (none, s.bus.pool) := by
      rw [ThreadPool.workerStep, hw, List.getElem?_nil]
    rw [BusRun.step, hnone]
    exact ⟨ha, hw, h.ran⟩
  | subscribe type callback => exact ⟨ha, hw, h.ran⟩
  | unsubscribe id => exact ⟨ha, hw, h.ran⟩
  | publish event => exact ⟨ha, hw, h.ran⟩
  | clear => exact ⟨ha, hw, h.ran⟩

theorem run_direct {moves : List (BusMove κ)} (h : ∀ workers, .init true workers ∉ moves) :
    (run moves).Direct := by
  induction moves using List.reverseRecOn with
  | nil => exact ⟨rfl, rfl, rfl⟩
  | append_singleton moves move ih =>
    have hprefix := ih fun workers hmem ↦ h workers (List.mem_append_left _ hmem)
    rw [run, Runs.exec_append]
    refine hprefix.step ?_
    rintro workers rfl
    exact h workers (List.mem_append_right _ (List.mem_singleton_self _))

/-- Whichever way the calls on the bus interleave, an event is handed, in the order of their
subscription, to those who are subscribed to its type when its publication takes the lock: to none
of them twice, and to nobody else. No callback runs more often than it was handed the event, and on
a bus without workers each runs when it is. -/
theorem events_reach_subscribers (moves : List (BusMove κ)) :
    (∀ call p, (run moves).publications[call]? = some p → ∃ before after done,
      (run moves).history = before ++ .published call p.event :: after ∧
      BusCommit.live p.event.type before = done ++ p.rest ∧
      (run moves).handed.filter (fun d ↦ d.call = call) =
        done.map fun subscriber ↦ ⟨call, subscriber, p.event⟩) ∧
    (((run moves).history.filterMap BusCommit.newId).length < 2 ^ 64 →
      ((run moves).history.filterMap BusCommit.newId).Nodup ∧ (run moves).handed.Nodup) ∧
    (∀ d, (run moves).ran.count d ≤ (run moves).handed.count d) ∧
    ((∀ workers, .init true workers ∉ moves) → (run moves).ran = (run moves).handed) := by
  have h := run_delivers moves
  refine ⟨?_, ?_, ?_, ?_⟩
  · intro call p hp
    obtain ⟨before, after, hhistory, hcopied⟩ := h.copied call p hp
    obtain ⟨done, hdone, hhanded⟩ := h.handed call p hp
    exact ⟨before, after, done, hhistory, hcopied.symm.trans hdone, hhanded⟩
  · intro hcount
    have hids := h.ids_nodup hcount
    refine ⟨hids, ?_⟩
    rw [List.nodup_iff_count_le_one]
    intro d
    by_cases hd : d ∈ (run moves).handed
    · obtain ⟨p, hp⟩ : ∃ p, (run moves).publications[d.call]? = some p :=
        ⟨_, List.getElem?_eq_getElem (h.known d hd)⟩
      obtain ⟨before, after, hhistory, hcopied⟩ := h.copied d.call p hp
      obtain ⟨done, hdone, hhanded⟩ := h.handed d.call p hp
      have hsub : List.Sublist (done.map Subscriber.id)
          ((run moves).history.filterMap BusCommit.newId) := by
        have hlive := BusCommit.live_sublist p.event.type before
        rw [← hcopied, hdone, List.map_append] at hlive
        rw [hhistory, List.filterMap_append]
        exact ((List.sublist_append_left _ _).trans hlive).trans (List.sublist_append_left _ _)
      have hnodup : ((run moves).handed.filter fun d' ↦ d'.call = d.call).Nodup := by
        rw [hhanded]
        refine List.Nodup.map ?_ (List.Nodup.of_map _ (hids.sublist hsub))
        intro a b hab
        exact congrArg Delivery.subscriber hab
      have hone := List.nodup_iff_count_le_one.mp hnodup d
      rw [List.count_filter (by simp)] at hone
      exact hone
    · rw [List.count_eq_zero_of_not_mem hd]
      exact Nat.zero_le _
  · intro d
    exact Nat.le_trans (Nat.le_add_right _ _) (h.ran d)
  · intro hmoves
    exact (run_direct hmoves).ran

end BusRun

end TriFusion.Foundation
