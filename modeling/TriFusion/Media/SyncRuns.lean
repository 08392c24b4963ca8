import TriFusion.Library.Backlog
import TriFusion.Library.Runs
import TriFusion.Media.FrameSync

namespace TriFusion.Media

open Library Library.Backlog Library.Runs

inductive SyncCall
  | pushVisible (frame : VideoFrame)
  | pushComposite (frame : VideoFrame)
  | trySync
  | clear
  deriving DecidableEq

namespace SyncCall

def visible? : SyncCall → Option VideoFrame
  | pushVisible frame => some frame
  | _ => none

def composite? : SyncCall → Option VideoFrame
  | pushComposite frame => some frame
  | _ => none

theorem visible?_eq_some {c : SyncCall} {frame : VideoFrame} :
    c.visible? = some frame ↔ c = .pushVisible frame := by
  cases c <;> simp [visible?]

theorem composite?_eq_some {c : SyncCall} {frame : VideoFrame} :
    c.composite? = some frame ↔ c = .pushComposite frame := by
  cases c <;> simp [composite?]

theorem mem_visible {calls : List SyncCall} {frame : VideoFrame} :
    frame ∈ calls.filterMap visible? ↔ .pushVisible frame ∈ calls := by
  simp only [List.mem_filterMap, visible?_eq_some, exists_eq_right]

theorem mem_composite {calls : List SyncCall} {frame : VideoFrame} :
    frame ∈ calls.filterMap composite? ↔ .pushComposite frame ∈ calls := by
  simp only [List.mem_filterMap, composite?_eq_some, exists_eq_right]

end SyncCall

structure Emitted where
  visibleAt : ℕ
  compositeAt : ℕ
  group : SyncedFrameGroup

structure SyncRun where
  sync : FrameSync
  visiblePushed : List VideoFrame := []
  compositePushed : List VideoFrame := []
  groups : List Emitted := []

namespace SyncRun

def ofCapacity (maxDeltaMs : Int64) (capacity : ℕ) : SyncRun :=
  { sync := .ofCapacity maxDeltaMs capacity }

def step (r : SyncRun) : SyncCall → SyncRun
  | .pushVisible frame =>
    { r with sync := r.sync.pushVisible frame, visiblePushed := r.visiblePushed ++ [frame] }
  | .pushComposite frame =>
    { r with sync := r.sync.pushComposite frame, compositePushed := r.compositePushed ++ [frame] }
  | .trySync =>
    match r.sync.trySync with
    | (none, s) => { r with sync := s }
    | (some group, s) =>
      { r with
        sync := s
        groups := r.groups ++ [⟨lastLeft r.visiblePushed s.visible,
          lastLeft r.compositePushed s.composite, group⟩] }
  | .clear => { r with sync := r.sync.clear }

theorem exec_visiblePushed (r : SyncRun) (calls : List SyncCall) :
    (exec step r calls).visiblePushed = r.visiblePushed ++ calls.filterMap SyncCall.visible? := by
  apply exec_log
  intro r c
  cases c with
  | pushVisible frame => rfl
  | pushComposite frame => exact (List.append_nil _).symm
  | clear => exact (List.append_nil _).symm
  | trySync =>
    rw [step]
    split <;> exact (List.append_nil _).symm

theorem exec_compositePushed (r : SyncRun) (calls : List SyncCall) :
    (exec step r calls).compositePushed =
      r.compositePushed ++ calls.filterMap SyncCall.composite? := by
  apply exec_log
  intro r c
  cases c with
  | pushComposite frame => rfl
  | pushVisible frame => exact (List.append_nil _).symm
  | clear => exact (List.append_nil _).symm
  | trySync =>
    rw [step]
    split <;> exact (List.append_nil _).symm

structure Placed (maxDeltaMs : Int64) (r : SyncRun) (e : Emitted) : Prop where
  visible : r.visiblePushed[e.visibleAt]? = some e.group.visible
  composite : r.compositePushed[e.compositeAt]? = some e.group.composite
  visibleLeft : Left r.visiblePushed r.sync.visible e.visibleAt
  compositeLeft : Left r.compositePushed r.sync.composite e.compositeAt
  delta : e.group.deltaMs = distance e.group.visible e.group.composite
  close : ¬maxDeltaMs < e.group.deltaMs

structure Logged (maxDeltaMs : Int64) (capacity : ℕ) (r : SyncRun) : Prop where
  maxDelta : r.sync.maxDeltaMs = maxDeltaMs
  capacity : r.sync.capacity = if capacity = 0 then 1 else capacity
  visible : r.sync.visible <:+ r.visiblePushed
  composite : r.sync.composite <:+ r.compositePushed
  visibleFits : r.sync.visible.length ≤ r.sync.capacity
  compositeFits : r.sync.composite.length ≤ r.sync.capacity
  placed : ∀ e ∈ r.groups, Placed maxDeltaMs r e
  ordered : r.groups.Pairwise fun e e' ↦ e.visibleAt < e'.visibleAt ∧ e.compositeAt < e'.compositeAt

variable {maxDeltaMs : Int64} {capacity : ℕ} {r : SyncRun}

theorem trim_push {queue log : List VideoFrame} (h : queue <:+ log) (n : ℕ) (frame : VideoFrame) :
    FrameSync.trim n (queue ++ [frame]) <:+ log ++ [frame] ∧
      (FrameSync.trim n (queue ++ [frame])).length ≤ queue.length + 1 := by
  have htrim := FrameSync.trim_suffix n (queue ++ [frame])
  obtain ⟨past, rfl⟩ := h
  refine ⟨htrim.trans ?_, ?_⟩
  · rw [List.append_assoc]
    exact List.suffix_append past _
  · have hlen := htrim.length_le
    rwa [List.length_append, List.length_singleton] at hlen

theorem getElem?_push {log : List VideoFrame} {i : ℕ} {frame : VideoFrame}
    (h : log[i]? = some frame) (frame' : VideoFrame) : (log ++ [frame'])[i]? = some frame := by
  rw [List.getElem?_append_left (List.getElem?_eq_some_iff.mp h).1]
  exact h

theorem pushVisible_logged (h : Logged maxDeltaMs capacity r) (frame : VideoFrame) :
    Logged maxDeltaMs capacity (r.step (.pushVisible frame)) := by
  obtain ⟨hs, hlen⟩ := trim_push h.visible r.sync.capacity frame
  refine ⟨h.maxDelta, h.capacity, hs, h.composite, FrameSync.length_trim_le _ _, h.compositeFits,
    ?_, h.ordered⟩
  intro e he
  have hp := h.placed e he
  exact ⟨getElem?_push hp.visible frame, hp.composite, hp.visibleLeft.push hlen frame,
    hp.compositeLeft, hp.delta, hp.close⟩

theorem pushComposite_logged (h : Logged maxDeltaMs capacity r) (frame : VideoFrame) :
    Logged maxDeltaMs capacity (r.step (.pushComposite frame)) := by
  obtain ⟨hs, hlen⟩ := trim_push h.composite r.sync.capacity frame
  refine ⟨h.maxDelta, h.capacity, h.visible, hs, h.visibleFits, FrameSync.length_trim_le _ _,
    ?_, h.ordered⟩
  intro e he
  have hp := h.placed e he
  exact ⟨hp.visible, getElem?_push hp.composite frame, hp.visibleLeft,
    hp.compositeLeft.push hlen frame, hp.delta, hp.close⟩

theorem Logged.shrink (h : Logged maxDeltaMs capacity r) {visible composite : List VideoFrame}
    (hv : visible <:+ r.sync.visible) (hc : composite <:+ r.sync.composite) :
    Logged maxDeltaMs capacity
      { r with sync := { r.sync with visible := visible, composite := composite } } := by
  have hvlen := hv.length_le
  have hclen := hc.length_le
  refine ⟨h.maxDelta, h.capacity, hv.trans h.visible, hc.trans h.composite,
    hvlen.trans h.visibleFits, hclen.trans h.compositeFits, ?_, h.ordered⟩
  intro e he
  have hp := h.placed e he
  exact ⟨hp.visible, hp.composite, hp.visibleLeft.shrink hvlen, hp.compositeLeft.shrink hclen,
    hp.delta, hp.close⟩

theorem matched_logged (h : Logged maxDeltaMs capacity r) {v b : VideoFrame} {k : ℕ}
    (hv : r.sync.visible[0]? = some v) (hb : r.sync.composite[k]? = some b)
    (hd : ¬maxDeltaMs < distance v b) :
    Logged maxDeltaMs capacity { r with
      sync := { r.sync with
        visible := r.sync.visible.drop 1
        composite := r.sync.composite.drop (k + 1) }
      groups := r.groups ++ [⟨lastLeft r.visiblePushed (r.sync.visible.drop 1),
        lastLeft r.compositePushed (r.sync.composite.drop (k + 1)), v, b, distance v b⟩] } := by
  have hvlen := (List.getElem?_eq_some_iff.mp hv).1
  have hclen := (List.getElem?_eq_some_iff.mp hb).1
  have hs := h.shrink (List.drop_suffix 1 r.sync.visible)
    (List.drop_suffix (k + 1) r.sync.composite)
  refine ⟨h.maxDelta, h.capacity, hs.visible, hs.composite, hs.visibleFits, hs.compositeFits,
    ?_, ?_⟩
  · intro e he
    rcases List.mem_append.mp he with he | he
    · have hp := hs.placed e he
      exact ⟨hp.visible, hp.composite, hp.visibleLeft, hp.compositeLeft, hp.delta, hp.close⟩
    · obtain rfl := List.mem_singleton.mp he
      exact ⟨entry_lastLeft h.visible hv, entry_lastLeft h.composite hb,
        left_lastLeft h.visible hvlen, left_lastLeft h.composite hclen, rfl, hd⟩
  · refine List.pairwise_append.mpr ⟨h.ordered, List.pairwise_singleton _ _, ?_⟩
    intro e he e' he'
    obtain rfl := List.mem_singleton.mp he'
    have hp := h.placed e he
    exact ⟨hp.visibleLeft.lt_lastLeft hvlen, hp.compositeLeft.lt_lastLeft hclen⟩

theorem trySync_logged (h : Logged maxDeltaMs capacity r) :
    Logged maxDeltaMs capacity (r.step .trySync) := by
  have ho := r.sync.trySync_outcome
  rw [step]
  generalize r.sync.trySync = out at ho
  cases ho with
  | idle _ => exact h
  | @visibleDropped v c b vs cs k hv hc hb hd hlt =>
    have hsuffix := List.suffix_cons v vs
    rw [← hv] at hsuffix
    exact h.shrink hsuffix (List.suffix_refl _)
  | @compositeDropped v c b vs cs k hv hc hb hd hlt =>
    have hsuffix := List.suffix_cons c cs
    rw [← hc] at hsuffix
    exact h.shrink (List.suffix_refl _) hsuffix
  | @matched v b vs k hv hb hd =>
    have hfront : r.sync.visible[0]? = some v := by rw [hv]; rfl
    have hrest : vs = r.sync.visible.drop 1 := by rw [hv]; rfl
    rw [h.maxDelta] at hd
    rw [hrest]
    exact matched_logged h hfront hb.entry hd

theorem step_logged (r : SyncRun) (c : SyncCall) (h : Logged maxDeltaMs capacity r) :
    Logged maxDeltaMs capacity (r.step c) := by
  cases c with
  | pushVisible frame => exact pushVisible_logged h frame
  | pushComposite frame => exact pushComposite_logged h frame
  | trySync => exact trySync_logged h
  | clear => exact h.shrink (List.nil_suffix) (List.nil_suffix)

theorem run_logged (maxDeltaMs : Int64) (capacity : ℕ) (calls : List SyncCall) :
    Logged maxDeltaMs capacity (exec step (ofCapacity maxDeltaMs capacity) calls) := by
  apply exec_invariant step_logged
  refine ⟨rfl, rfl, List.nil_suffix, List.nil_suffix, Nat.zero_le _, Nat.zero_le _, ?_,
    List.Pairwise.nil⟩
  intro e he
  cases he

theorem mem_visible {calls : List SyncCall} {frame : VideoFrame}
    (h : frame ∈ (exec step (ofCapacity maxDeltaMs capacity) calls).visiblePushed) :
    .pushVisible frame ∈ calls := by
  rw [exec_visiblePushed] at h
  exact SyncCall.mem_visible.mp h

theorem mem_composite {calls : List SyncCall} {frame : VideoFrame}
    (h : frame ∈ (exec step (ofCapacity maxDeltaMs capacity) calls).compositePushed) :
    .pushComposite frame ∈ calls := by
  rw [exec_compositePushed] at h
  exact SyncCall.mem_composite.mp h

/-- The differences of the pushed timestamps fit in 64 bits. -/
def Fits (calls : List SyncCall) : Prop :=
  ∀ v c, .pushVisible v ∈ calls → .pushComposite c ∈ calls →
    -2 ^ 63 ≤ v.ptsMs.toInt - c.ptsMs.toInt ∧ v.ptsMs.toInt - c.ptsMs.toInt < 2 ^ 63

/-- No queued composite frame is exactly 2^63 ms later than the oldest visible one. -/
def Measurable (s : FrameSync) : Prop :=
  ∀ v ∈ s.visible.head?, ∀ c ∈ s.composite, v.ptsMs.toInt - c.ptsMs.toInt ≠ -2 ^ 63

instance (s : FrameSync) : Decidable (Measurable s) := by
  unfold Measurable
  infer_instance

def Exact (g : SyncedFrameGroup) : Prop :=
  g.deltaMs.toInt = |g.visible.ptsMs.toInt - g.composite.ptsMs.toInt|

/-- What a call of `trySync` is meant to do: a group it returns has the oldest visible frame, the
first of the closest composite ones and their distance, and something leaves the queues. -/
structure Chosen (s : FrameSync) : Prop where
  group : ∀ group s', s.trySync = (some group, s') →
    Exact group ∧ s.visible.head? = some group.visible ∧
      ∃ k, FirstMin (fun c ↦ |group.visible.ptsMs.toInt - c.ptsMs.toInt|) s.composite k
        group.composite
  progress : s.visible ≠ [] → s.composite ≠ [] →
    s.trySync.2.visible.length + s.trySync.2.composite.length <
      s.visible.length + s.composite.length

theorem trySync_some {s s' : FrameSync} {group : SyncedFrameGroup}
    (h : s.trySync = (some group, s')) :
    s.visible.head? = some group.visible ∧ group.deltaMs = distance group.visible group.composite ∧
      ∃ k, FirstMin (fun c ↦ (distance group.visible c).toInt) s.composite k group.composite := by
  have ho := s.trySync_outcome
  generalize s.trySync = out at ho h
  cases ho with
  | idle _ => cases h
  | visibleDropped hv hc hb hd hlt => cases h
  | compositeDropped hv hc hb hd hlt => cases h
  | matched hv hb hd =>
    cases h
    exact ⟨congrArg List.head? hv, rfl, _, hb⟩

theorem trySync_removes {s : FrameSync} (hv : s.visible ≠ []) (hc : s.composite ≠ []) :
    s.trySync.2.visible.length + s.trySync.2.composite.length <
      s.visible.length + s.composite.length := by
  have ho := s.trySync_outcome
  generalize s.trySync = out at ho
  cases ho with
  | idle h => exact absurd h (not_or.mpr ⟨hv, hc⟩)
  | visibleDropped hv hc hb hd hlt =>
    dsimp only
    rw [hv, List.length_cons]
    omega
  | compositeDropped hv hc hb hd hlt =>
    dsimp only
    rw [hc, List.length_cons]
    omega
  | matched hv hb hd =>
    dsimp only
    rw [hv, List.length_cons, List.length_drop]
    omega

theorem chosen_of_measurable {s : FrameSync} (hm : Measurable s)
    (hfit : ∀ v ∈ s.visible, ∀ c ∈ s.composite,
      -2 ^ 63 ≤ v.ptsMs.toInt - c.ptsMs.toInt ∧ v.ptsMs.toInt - c.ptsMs.toInt < 2 ^ 63) :
    Chosen s := by
  refine ⟨fun group s' hs ↦ ?_, trySync_removes⟩
  obtain ⟨hhead, hdelta, k, hk⟩ := trySync_some hs
  have hdist : ∀ c ∈ s.composite, (distance group.visible c).toInt =
      |group.visible.ptsMs.toInt - c.ptsMs.toInt| := by
    intro c hc
    have hne := hm group.visible hhead c hc
    have hrange := hfit group.visible (List.mem_of_mem_head? hhead) c hc
    apply distance_toInt
    rw [abs_lt]
    omega
  refine ⟨?_, hhead, k, hk.congr fun b hb c hc ↦ ?_⟩
  · rw [Exact, hdelta]
    exact hdist _ hk.mem
  · rw [hdist b hb, hdist c hc]

/-- A distance that is lost is the least of all, and passes for one within the limit. -/
theorem measurable_of_chosen {s : FrameSync} (h : Chosen s) : Measurable s := by
  intro v hv c hc hlow
  have hlowest := distance_lowest hlow
  have ho := s.trySync_outcome
  have hgroup := h.group
  have hleast {a : VideoFrame} {k : ℕ}
      (hb : FirstMin (fun c ↦ (distance v c).toInt) s.composite k a) :
      (distance v a).toInt = -2 ^ 63 := by
    have hle := hb.least c hc
    have hlo := (distance v a).le_toInt
    omega
  have hnever {a : VideoFrame} {k : ℕ}
      (hb : FirstMin (fun c ↦ (distance v c).toInt) s.composite k a) :
      ¬s.maxDeltaMs < distance v a := by
    rw [Int64.lt_iff_toInt_lt, hleast hb]
    have hlo := s.maxDeltaMs.le_toInt
    omega
  have hfront {v' : VideoFrame} {vs : List VideoFrame} (he : s.visible = v' :: vs) : v' = v := by
    rw [he] at hv
    exact Option.some.inj hv
  generalize s.trySync = out at ho hgroup
  cases ho with
  | idle he =>
    rcases he with he | he
    · rw [he] at hv
      cases hv
    · rw [he] at hc
      cases hc
  | visibleDropped he hc' hb hd hlt =>
    obtain rfl := hfront he
    exact hnever hb hd
  | compositeDropped he hc' hb hd hlt =>
    obtain rfl := hfront he
    exact hnever hb hd
  | @matched v' b vs k he hb hd =>
    obtain rfl := hfront he
    have hexact := (hgroup _ _ rfl).1
    rw [Exact, hleast hb] at hexact
    have hpos := abs_nonneg (v'.ptsMs.toInt - b.ptsMs.toInt)
    rw [← hexact] at hpos
    exact absurd hpos (by decide)

theorem step_exact {r : SyncRun} {call : SyncCall} (h : ∀ e ∈ r.groups, Exact e.group)
    (hc : call = .trySync → Chosen r.sync) : ∀ e ∈ (r.step call).groups, Exact e.group := by
  cases call with
  | pushVisible frame => exact h
  | pushComposite frame => exact h
  | clear => exact h
  | trySync =>
    have hgroup := (hc rfl).group
    rw [step]
    split
    · exact h
    · rename_i group s hs
      intro e he
      rcases List.mem_append.mp he with he | he
      · exact h e he
      · rw [List.mem_singleton.mp he]
        exact (hgroup group s hs).1

/-- In every run whose differences fit: the returned groups hold the distance of their frames and
keep within the limit, their frames come in push order and never twice, the queues keep within
their bound, and each call of `trySync` chooses as it is meant to, exactly if none of these calls
finds a composite frame 2^63 ms later than the oldest visible one. -/
theorem groups_emitted_iff (maxDeltaMs : Int64) (capacity : ℕ) (calls : List SyncCall)
    (hfit : Fits calls) :
    let start := ofCapacity maxDeltaMs capacity
    let r := exec step start calls
    ((∀ e ∈ r.groups,
      e.group.deltaMs.toInt = |e.group.visible.ptsMs.toInt - e.group.composite.ptsMs.toInt| ∧
        e.group.deltaMs ≤ maxDeltaMs ∧
        r.visiblePushed[e.visibleAt]? = some e.group.visible ∧
        r.compositePushed[e.compositeAt]? = some e.group.composite) ∧
    r.groups.Pairwise (fun e e' ↦ e.visibleAt < e'.visibleAt ∧ e.compositeAt < e'.compositeAt) ∧
    (r.sync.visible.length ≤ (if capacity = 0 then 1 else capacity) ∧
      r.sync.composite.length ≤ (if capacity = 0 then 1 else capacity)) ∧
    Along step (fun r call ↦ call = .trySync → Chosen r.sync) start calls) ↔
      Along step (fun r call ↦ call = .trySync → Measurable r.sync) start calls := by
  intro start r
  have h : Logged maxDeltaMs capacity r := run_logged maxDeltaMs capacity calls
  constructor
  · rintro ⟨-, -, -, hchosen⟩
    rw [along_iff] at hchosen ⊢
    intro before call after he ht
    exact measurable_of_chosen (hchosen before call after he ht)
  · intro hmeasurable
    have hchosen : Along step (fun r call ↦ call = .trySync → Chosen r.sync) start calls := by
      rw [along_iff] at hmeasurable ⊢
      intro before call after he ht
      have hb : Logged maxDeltaMs capacity (exec step start before) :=
        run_logged maxDeltaMs capacity before
      refine chosen_of_measurable (hmeasurable before call after he ht) fun v hv c hc ↦ ?_
      have hmem {a : SyncCall} (ha : a ∈ before) : a ∈ calls := by
        rw [he]
        exact List.mem_append_left _ ha
      exact hfit v c (hmem (mem_visible (hb.visible.subset hv)))
        (hmem (mem_composite (hb.composite.subset hc)))
    have hexact : ∀ e ∈ r.groups, Exact e.group :=
      hchosen.invariant (fun r call hr hc ↦ step_exact hr hc) fun e he ↦ (nomatch he)
    refine ⟨fun e he ↦ ?_, h.ordered, ⟨h.capacity ▸ h.visibleFits, h.capacity ▸ h.compositeFits⟩,
      hchosen⟩
    have hp := h.placed e he
    refine ⟨hexact e he, ?_, hp.visible, hp.composite⟩
    exact Int64.le_iff_toInt_le.mpr (not_lt.mp fun hlt ↦ hp.close (Int64.lt_iff_toInt_lt.mpr hlt))

def pairCalls : List SyncCall :=
  [.pushVisible { ptsMs := 1000 }, .pushComposite { ptsMs := 1018 }, .trySync]

theorem pairCalls_fits : Fits pairCalls := by
  intro v c hv hc
  simp only [pairCalls, List.mem_cons, SyncCall.pushVisible.injEq, SyncCall.pushComposite.injEq,
    reduceCtorEq, List.not_mem_nil, or_false, false_or] at hv hc
  rw [hv, hc]
  decide

theorem groups_emitted_iff_pair :
    let r := exec step (ofCapacity 30 8) pairCalls
    r.groups.map (·.group.deltaMs) = [18] ∧ ∀ e ∈ r.groups,
      r.visiblePushed[e.visibleAt]? = some e.group.visible ∧ e.group.deltaMs ≤ 30 := by
  refine ⟨by decide, fun e he ↦ ?_⟩
  have hm : Along step (fun r call ↦ call = .trySync → Measurable r.sync) (ofCapacity 30 8)
      pairCalls := ⟨by decide, by decide, fun _ ↦ by decide, trivial⟩
  have h := ((groups_emitted_iff 30 8 pairCalls pairCalls_fits).mpr hm).1 e he
  exact ⟨h.2.2.1, h.2.1⟩

def lowestCalls : List SyncCall :=
  [.pushVisible { ptsMs := Int64.minValue }, .pushComposite { ptsMs := 0 }, .trySync]

/-- Their difference fits, and they make a group with a negative distance. -/
theorem lowest_grouped :
    Fits lowestCalls ∧ ∃ e ∈ (exec step (ofCapacity 40 8) lowestCalls).groups,
      e.group.deltaMs.toInt ≠ |e.group.visible.ptsMs.toInt - e.group.composite.ptsMs.toInt| ∧
        e.group.deltaMs < 0 := by
  refine ⟨?_, _, List.mem_singleton_self _, by decide, by decide⟩
  intro v c hv hc
  simp only [lowestCalls, List.mem_cons, SyncCall.pushVisible.injEq, SyncCall.pushComposite.injEq,
    reduceCtorEq, List.not_mem_nil, or_false, false_or] at hv hc
  rw [hv, hc]
  decide

/-- Timestamps as a camera gives them: not negative and not decreasing. -/
def Ordered (frames : List VideoFrame) : Prop :=
  (∀ f ∈ frames, 0 ≤ f.ptsMs.toInt) ∧ frames.Pairwise fun f g ↦ f.ptsMs.toInt ≤ g.ptsMs.toInt

instance (frames : List VideoFrame) : Decidable (Ordered frames) := instDecidableAnd

theorem Ordered.sublist {frames frames' : List VideoFrame} (h : Ordered frames)
    (hs : frames'.Sublist frames) : Ordered frames' :=
  ⟨fun f hf ↦ h.1 f (hs.subset hf), h.2.sublist hs⟩

theorem visible_ordered {calls later : List SyncCall}
    (h : Ordered ((calls ++ later).filterMap SyncCall.visible?)) :
    Ordered ((exec step (ofCapacity maxDeltaMs capacity) calls).sync.visible ++
      later.filterMap SyncCall.visible?) := by
  have hsuffix := (run_logged maxDeltaMs capacity calls).visible
  rw [exec_visiblePushed] at hsuffix
  rw [List.filterMap_append] at h
  exact h.sublist (hsuffix.sublist.append_right _)

theorem composite_ordered {calls later : List SyncCall}
    (h : Ordered ((calls ++ later).filterMap SyncCall.composite?)) :
    Ordered ((exec step (ofCapacity maxDeltaMs capacity) calls).sync.composite ++
      later.filterMap SyncCall.composite?) := by
  have hsuffix := (run_logged maxDeltaMs capacity calls).composite
  rw [exec_compositePushed] at hsuffix
  rw [List.filterMap_append] at h
  exact h.sublist (hsuffix.sublist.append_right _)

theorem distance_ordered {v c : VideoFrame} (hv : 0 ≤ v.ptsMs.toInt) (hc : 0 ≤ c.ptsMs.toInt) :
    (distance v c).toInt = |v.ptsMs.toInt - c.ptsMs.toInt| := by
  have hvlt := v.ptsMs.toInt_lt
  have hclt := c.ptsMs.toInt_lt
  apply distance_toInt
  rw [abs_lt]
  omega

theorem ne_cons_self {α : Type*} {a : α} {l l' : List α} (h : l = a :: l') : l ≠ l' := by
  intro he
  have hlen := congrArg List.length h
  rw [he, List.length_cons] at hlen
  omega

theorem visible_dropped {s : FrameSync} {v : VideoFrame} {rest : List VideoFrame}
    (hv : s.visible = v :: rest) (h : s.trySync = (none, { s with visible := rest })) :
    ∃ c ∈ s.composite, v.ptsMs < c.ptsMs ∧
      ∀ c ∈ s.composite, s.maxDeltaMs.toInt < (distance v c).toInt := by
  have ho := s.trySync_outcome
  generalize s.trySync = out at ho h
  cases ho with
  | idle _ => exact absurd (congrArg (·.2.visible) h) (ne_cons_self hv)
  | compositeDropped hv' hc hb hd hlt => exact absurd (congrArg (·.2.visible) h) (ne_cons_self hv)
  | matched hv' hb hd => cases h
  | @visibleDropped v' c b vs cs k hv' hc hb hd hlt =>
    obtain rfl : v' = v := (List.cons.inj (hv'.symm.trans hv)).1
    refine ⟨c, hc ▸ List.mem_cons_self, hlt, ?_⟩
    intro c' hc'
    exact (Int64.lt_iff_toInt_lt.mp hd).trans_le (hb.least c' hc')

theorem composite_dropped {s : FrameSync} {c : VideoFrame} {rest : List VideoFrame}
    (hc : s.composite = c :: rest) (h : s.trySync = (none, { s with composite := rest })) :
    ∃ v vs, s.visible = v :: vs ∧ ¬v.ptsMs < c.ptsMs ∧
      s.maxDeltaMs.toInt < (distance v c).toInt := by
  have ho := s.trySync_outcome
  generalize s.trySync = out at ho h
  cases ho with
  | idle _ => exact absurd (congrArg (·.2.composite) h) (ne_cons_self hc)
  | visibleDropped hv hc' hb hd hlt =>
    exact absurd (congrArg (·.2.composite) h) (ne_cons_self hc)
  | matched hv hb hd => cases h
  | @compositeDropped v c' b vs cs k hv hc' hb hd hlt =>
    obtain rfl : c' = c := (List.cons.inj (hc'.symm.trans hc)).1
    refine ⟨v, vs, hv, hlt, ?_⟩
    exact (Int64.lt_iff_toInt_lt.mp hd).trans_le (hb.least c' (hc' ▸ List.mem_cons_self))

/-- With cameras whose clocks do not run backwards, a frame dropped without a match
matches nothing that is queued or comes later. -/
theorem unmatched_dropped (maxDeltaMs : Int64) (capacity : ℕ) (calls later : List SyncCall)
    (hvisible : Ordered ((calls ++ later).filterMap SyncCall.visible?))
    (hcomposite : Ordered ((calls ++ later).filterMap SyncCall.composite?)) :
    let s := (exec step (ofCapacity maxDeltaMs capacity) calls).sync
    (∀ v rest, s.visible = v :: rest → s.trySync = (none, { s with visible := rest }) →
      ∀ c, c ∈ s.composite ∨ .pushComposite c ∈ later →
        maxDeltaMs.toInt < |v.ptsMs.toInt - c.ptsMs.toInt|) ∧
    ∀ c rest, s.composite = c :: rest → s.trySync = (none, { s with composite := rest }) →
      ∀ v, v ∈ s.visible ∨ .pushVisible v ∈ later →
        maxDeltaMs.toInt < |v.ptsMs.toInt - c.ptsMs.toInt| := by
  intro s
  have hmax : s.maxDeltaMs = maxDeltaMs := (run_logged maxDeltaMs capacity calls).maxDelta
  have hV : Ordered (s.visible ++ later.filterMap SyncCall.visible?) := visible_ordered hvisible
  have hC : Ordered (s.composite ++ later.filterMap SyncCall.composite?) :=
    composite_ordered hcomposite
  constructor
  · intro v rest hv hs c hc
    obtain ⟨c₀, hc₀, hlt, hall⟩ := visible_dropped hv hs
    have hvpos := hV.1 v (List.mem_append_left _ (hv ▸ List.mem_cons_self))
    have hdist : ∀ c ∈ s.composite, maxDeltaMs.toInt < |v.ptsMs.toInt - c.ptsMs.toInt| := by
      intro c hc
      have hd := hall c hc
      rwa [hmax, distance_ordered hvpos (hC.1 c (List.mem_append_left _ hc))] at hd
    rcases hc with hc | hc
    · exact hdist c hc
    · have hlater := (List.pairwise_append.mp hC.2).2.2 c₀ hc₀ c (SyncCall.mem_composite.mpr hc)
      have hd := hdist c₀ hc₀
      rw [Int64.lt_iff_toInt_lt] at hlt
      rw [abs_of_neg (by omega)] at hd ⊢
      omega
  · intro c rest hc hs v hv
    obtain ⟨v₀, vs, hv₀, hlt, hd⟩ := composite_dropped hc hs
    rw [hv₀, List.cons_append] at hV
    have hge : v₀.ptsMs.toInt ≤ v.ptsMs.toInt := by
      have hmem : v ∈ v₀ :: (vs ++ later.filterMap SyncCall.visible?) := by
        rw [← List.cons_append, ← hv₀]
        exact List.mem_append.mpr (hv.imp_right SyncCall.mem_visible.mpr)
      rcases List.mem_cons.mp hmem with rfl | hmem
      · exact le_rfl
      · exact (List.pairwise_cons.mp hV.2).1 v hmem
    have hcpos := hC.1 c (List.mem_append_left _ (hc ▸ List.mem_cons_self))
    rw [hmax, distance_ordered (hV.1 v₀ List.mem_cons_self) hcpos] at hd
    rw [Int64.lt_iff_toInt_lt] at hlt
    rw [abs_of_nonneg (by omega)] at hd ⊢
    omega

def lateCalls : List SyncCall := [.pushVisible {}, .pushComposite { ptsMs := 100 }]

theorem unmatched_dropped_late :
    let s := (exec step (ofCapacity 40 8) lateCalls).sync
    s.visible = [{}] ∧ s.trySync = (none, { s with visible := [] }) ∧
      (40 : Int64).toInt < |(0 : Int64).toInt - (100 : Int64).toInt| ∧
      (40 : Int64).toInt < |(0 : Int64).toInt - (130 : Int64).toInt| := by
  have h := (unmatched_dropped 40 8 lateCalls [.trySync, .pushComposite { ptsMs := 130 }]
    (by decide) (by decide)).1 {} [] rfl rfl
  exact ⟨rfl, rfl, h { ptsMs := 100 } (.inl (by decide)), h { ptsMs := 130 } (.inr (by decide))⟩

end SyncRun

end TriFusion.Media
