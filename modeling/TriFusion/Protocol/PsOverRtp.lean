import TriFusion.Library.Delimited
import TriFusion.Library.Sending
import TriFusion.Protocol.PsPacks
import TriFusion.Protocol.RtpPackets

namespace TriFusion.Protocol

open Foundation Library Library.Fragments Library.Sending

variable {ω : Type}

/-! What a receiver reads in a packet whose payload follows the fixed header. -/

namespace RtpPacket

def payload (p : List UInt8) : List UInt8 := p.drop 12

def payloadType (p : List UInt8) : UInt8 := p.getD 1 0 &&& 0x7f

def endsGroup (group : List (List UInt8)) : Bool := group.getLast?.any marker

def brought (group : List (List UInt8)) : ℕ × List UInt8 :=
  (timestamp (group.headD []), (group.map payload).flatten)

/-- A receiver puts the payloads together up to each marker. -/
def received (packets : List (List UInt8)) : List (ℕ × List UInt8) :=
  (Delimited.pieces endsGroup packets).map brought

end RtpPacket

namespace Gb28181PlayProbe

open RtpPacket

section Packet

variable (data : List UInt8) (seq : UInt16) (ts ssrc : UInt32) (mark : Bool)

theorem payload_makeRtpPacket : payload (makeRtpPacket data seq ts ssrc mark) = data := by
  rfl

theorem marker_makeRtpPacket : marker (makeRtpPacket data seq ts ssrc mark) = mark := by
  cases mark <;> rfl

theorem payloadType_makeRtpPacket : payloadType (makeRtpPacket data seq ts ssrc mark) = 96 := by
  have hv : payloadType (makeRtpPacket data seq ts ssrc mark) =
      ((if mark then 0x80 else 0x00) ||| 96) &&& 0x7f := rfl
  rw [hv]
  cases mark <;> decide

theorem sequenceNumber_makeRtpPacket :
    sequenceNumber (makeRtpPacket data seq ts ssrc mark) = seq.toNat := by
  have hv : sequenceNumber (makeRtpPacket data seq ts ssrc mark) =
      BigEndian.value (RtspServer.writeBe16 seq) := rfl
  rw [hv, RtspServer.writeBe16_eq, BigEndian.value_bytes]
  exact Nat.mod_eq_of_lt seq.toNat_lt

theorem timestamp_makeRtpPacket :
    timestamp (makeRtpPacket data seq ts ssrc mark) = ts.toNat := by
  have hv : timestamp (makeRtpPacket data seq ts ssrc mark) =
      BigEndian.value (RtspServer.writeBe32 ts) := rfl
  rw [hv, RtspServer.writeBe32_eq, BigEndian.value_bytes]
  exact Nat.mod_eq_of_lt ts.toNat_lt

theorem ssrc_makeRtpPacket :
    RtpPacket.ssrc (makeRtpPacket data seq ts ssrc mark) = ssrc.toNat := by
  have hv : RtpPacket.ssrc (makeRtpPacket data seq ts ssrc mark) =
      BigEndian.value (RtspServer.writeBe32 ssrc) := rfl
  rw [hv, RtspServer.writeBe32_eq, BigEndian.value_bytes]
  exact Nat.mod_eq_of_lt ssrc.toNat_lt

end Packet

def packets (ts ssrc : UInt32) : UInt16 → List (Fragment UInt8) → List (List UInt8)
  | _, [] => []
  | seq, f :: rest => makeRtpPacket f.data seq ts ssrc f.last :: packets ts ssrc (seq + 1) rest

def datagrams (ssrc : UInt32) : UInt16 → List (UInt32 × List UInt8) → List (List UInt8)
  | _, [] => []
  | seq, (ts, ps) :: rest =>
    let pieces := cut maxPayload true 0 ps
    packets ts ssrc seq pieces ++ datagrams ssrc (seq + UInt16.ofNat pieces.length) rest

def stamped (pack : List UInt8 → UInt64 → List UInt8) (fps : Int32) :
    UInt64 → List (List UInt8) → List (UInt32 × List UInt8)
  | _, [] => []
  | frameIndex, frame :: rest =>
    ((to90k frameIndex fps).toUInt32, pack frame frameIndex) ::
      stamped pack fps (frameIndex + 1) rest

theorem maxPayload_pos : 0 < maxPayload := by
  decide

theorem seq_add_succ (seq : UInt16) (n : ℕ) :
    seq + 1 + UInt16.ofNat n = seq + UInt16.ofNat (n + 1) := by
  rw [UInt16.ofNat_add, UInt16.add_assoc, UInt16.add_comm 1]
  rfl

@[simp] theorem length_packets (ts ssrc : UInt32) (seq : UInt16) (pieces : List (Fragment UInt8)) :
    (packets ts ssrc seq pieces).length = pieces.length := by
  induction pieces generalizing seq with
  | nil => rfl
  | cons f rest ih => rw [packets, List.length_cons, ih, List.length_cons]

section Sending

variable (net : RtpSocket ω) (dst : Destination)

theorem sendPack_eq (ts ssrc : UInt32) (ps : List UInt8) (first : Bool) (offset : ℕ) (seq : UInt16)
    (w : ω) :
    ∃ seq', sendPack net dst ts ssrc ps offset seq w =
        ((sendEach (net.sendto dst)
            (packets ts ssrc seq (cut maxPayload first offset (ps.drop offset))) w).1, seq',
          (sendEach (net.sendto dst)
            (packets ts ssrc seq (cut maxPayload first offset (ps.drop offset))) w).2) ∧
      ((sendPack net dst ts ssrc ps offset seq w).1 = true →
        seq' = seq + UInt16.ofNat (cut maxPayload first offset (ps.drop offset)).length) := by
  induction hn : ps.length - offset using Nat.strong_induction_on
    generalizing first offset seq w with
  | h n ih =>
    by_cases ho : offset < ps.length
    · have hd : ps.drop offset ≠ [] := by
        intro h
        have hle := List.drop_eq_nil_iff.mp h
        omega
      generalize hc : min maxPayload (ps.length - offset) = chunk
      have hpos : 0 < chunk := by
        have hm := maxPayload_pos
        omega
      have htake : (ps.drop offset).take maxPayload = (ps.drop offset).take chunk := by
        rw [← hc, ← List.length_drop, Nat.min_comm, List.take_eq_take_min]
        exact congrArg (fun k ↦ List.take k _) (Nat.min_comm _ _)
      have hlen : ((ps.drop offset).take maxPayload).length = chunk := by
        rw [List.length_take, List.length_drop, hc]
      have hlast : ((ps.drop offset).drop maxPayload).isEmpty =
          decide (ps.length ≤ offset + chunk) := by
        rw [Bool.eq_iff_iff, List.isEmpty_iff, decide_eq_true_iff, List.drop_eq_nil_iff,
          List.length_drop]
        omega
      have hdrop : (ps.drop offset).drop maxPayload = ps.drop (offset + chunk) := by
        by_cases hm : maxPayload ≤ ps.length - offset
        · rw [List.drop_drop, ← hc, Nat.min_eq_left hm]
        · rw [List.drop_drop, List.drop_eq_nil_of_le, List.drop_eq_nil_of_le]
          · omega
          · omega
      rw [sendPack, if_pos ho, cut_of_ne_nil maxPayload_pos _ _ hd, packets, hlast, hlen, hdrop,
        sendEach, htake, hc]
      dsimp only
      cases hs : net.sendto dst (makeRtpPacket ((ps.drop offset).take chunk) seq ts ssrc
          (decide (ps.length ≤ offset + chunk))) w with
      | mk ok outside =>
        cases ok with
        | false =>
          refine ⟨seq + 1, rfl, ?_⟩
          exact fun h ↦ absurd h Bool.false_ne_true
        | true =>
          obtain ⟨seq', he, hseq⟩ := ih _ (by omega) false (offset + chunk) (seq + 1) outside rfl
          refine ⟨seq', he, ?_⟩
          intro h
          rw [List.length_cons, ← seq_add_succ]
          exact hseq h
    · have hd : ps.drop offset = [] := List.drop_eq_nil_of_le (Nat.le_of_not_lt ho)
      rw [sendPack, if_neg ho, hd, cut_nil, packets, sendEach]
      refine ⟨seq, rfl, ?_⟩
      intro
      simp

theorem length_datagrams_cons (ssrc : UInt32) (seq : UInt16) (u : UInt32 × List UInt8)
    (rest : List (UInt32 × List UInt8)) :
    (datagrams ssrc seq (u :: rest)).length = (cut maxPayload true 0 u.2).length +
      (datagrams ssrc (seq + UInt16.ofNat (cut maxPayload true 0 u.2).length) rest).length := by
  rw [datagrams, List.length_append, length_packets]

theorem datagrams_append (ssrc : UInt32) (seq : UInt16)
    (first second : List (UInt32 × List UInt8)) :
    datagrams ssrc seq (first ++ second) = datagrams ssrc seq first ++
      datagrams ssrc (seq + UInt16.ofNat (datagrams ssrc seq first).length) second := by
  induction first generalizing seq with
  | nil => simp [datagrams]
  | cons u first ih =>
    rw [length_datagrams_cons, UInt16.ofNat_add, ← UInt16.add_assoc, List.cons_append, datagrams,
      ih, datagrams, List.append_assoc]

theorem stamped_append (pack : List UInt8 → UInt64 → List UInt8) (fps : Int32) (frameIndex : UInt64)
    (first second : List (List UInt8)) :
    stamped pack fps frameIndex (first ++ second) = stamped pack fps frameIndex first ++
      stamped pack fps (frameIndex + UInt64.ofNat first.length) second := by
  induction first generalizing frameIndex with
  | nil => simp [stamped]
  | cons frame first ih =>
    rw [List.cons_append, stamped, ih, stamped, List.cons_append, List.length_cons,
      Nat.add_comm first.length, UInt64.ofNat_add, ← UInt64.add_assoc]
    rfl

variable (pack : List UInt8 → UInt64 → List UInt8) (ssrc : UInt32) (fps : Int32)

theorem sendPacks_eq (frames : List (List UInt8)) (seq : UInt16) (frameIndex : UInt64) (w : ω) :
    ∃ seq' frameIndex', sendPacks net dst pack ssrc fps frames seq frameIndex w =
        ((sendEach (net.sendto dst) (datagrams ssrc seq (stamped pack fps frameIndex frames)) w).1,
          seq', frameIndex',
          (sendEach (net.sendto dst)
            (datagrams ssrc seq (stamped pack fps frameIndex frames)) w).2) ∧
      ((sendPacks net dst pack ssrc fps frames seq frameIndex w).1 = true →
        seq' = seq + UInt16.ofNat (datagrams ssrc seq (stamped pack fps frameIndex frames)).length ∧
          frameIndex' = frameIndex + UInt64.ofNat frames.length) := by
  induction frames generalizing seq frameIndex w with
  | nil =>
    refine ⟨seq, frameIndex, rfl, ?_⟩
    intro
    simp [stamped, datagrams]
  | cons frame rest ih =>
    obtain ⟨seq₁, he, hseq⟩ := sendPack_eq net dst (to90k frameIndex fps).toUInt32 ssrc
      (pack frame frameIndex) true 0 seq w
    rw [List.drop_zero] at he hseq
    rw [sendPacks, stamped, length_datagrams_cons, datagrams, sendEach_append]
    generalize hcut : cut maxPayload true 0 (pack frame frameIndex) = pieces at he hseq ⊢
    generalize hp : sendPack net dst (to90k frameIndex fps).toUInt32 ssrc (pack frame frameIndex) 0
      seq w = sent at he hseq ⊢
    subst he
    cases hs : sendEach (net.sendto dst) (packets (to90k frameIndex fps).toUInt32 ssrc seq pieces)
        w with
    | mk ok outside =>
      rw [hs] at hseq
      cases ok with
      | false =>
        refine ⟨seq₁, frameIndex, rfl, ?_⟩
        exact fun h ↦ absurd h Bool.false_ne_true
      | true =>
        obtain rfl := hseq rfl
        obtain ⟨seq₂, frameIndex₂, he, hnext⟩ :=
          ih (seq + UInt16.ofNat pieces.length) (frameIndex + 1) outside
        refine ⟨seq₂, frameIndex₂, he, ?_⟩
        intro h
        obtain ⟨hs₂, hf₂⟩ := hnext h
        rw [hs₂, hf₂, List.length_cons, Nat.add_comm rest.length, UInt16.ofNat_add,
          UInt64.ofNat_add, UInt16.add_assoc, UInt64.add_assoc]
        exact ⟨rfl, rfl⟩

/-- All rounds send what one round over the repeated frames would. -/
theorem sendRounds_eq (frames : List (List UInt8)) (rounds : ℕ) (seq : UInt16)
    (frameIndex : UInt64) (w : ω) :
    sendRounds net dst pack ssrc fps frames rounds seq frameIndex w =
      sendEach (net.sendto dst) (datagrams ssrc seq
        (stamped pack fps frameIndex (List.replicate rounds frames).flatten)) w := by
  induction rounds generalizing seq frameIndex w with
  | zero => rfl
  | succ rounds ih =>
    obtain ⟨seq₁, frameIndex₁, he, hnext⟩ :=
      sendPacks_eq net dst pack ssrc fps frames seq frameIndex w
    rw [sendRounds, List.replicate_succ, List.flatten_cons, stamped_append, datagrams_append,
      sendEach_append]
    generalize sendPacks net dst pack ssrc fps frames seq frameIndex w = sent at he hnext ⊢
    subst he
    cases hs : sendEach (net.sendto dst)
        (datagrams ssrc seq (stamped pack fps frameIndex frames)) w with
    | mk ok outside =>
      rw [hs] at hnext
      cases ok with
      | false => rfl
      | true =>
        obtain ⟨rfl, rfl⟩ := hnext rfl
        exact ih _ _ outside

end Sending

section Received

variable {ts ssrc : UInt32} {seq : UInt16}

theorem map_payload_packets (pieces : List (Fragment UInt8)) :
    (packets ts ssrc seq pieces).map payload = pieces.map Fragment.data := by
  induction pieces generalizing seq with
  | nil => rfl
  | cons f rest ih => rw [packets, List.map_cons, List.map_cons, ih, payload_makeRtpPacket]

theorem map_marker_packets (pieces : List (Fragment UInt8)) :
    (packets ts ssrc seq pieces).map marker = pieces.map Fragment.last := by
  induction pieces generalizing seq with
  | nil => rfl
  | cons f rest ih => rw [packets, List.map_cons, List.map_cons, ih, marker_makeRtpPacket]

theorem map_timestamp_packets (pieces : List (Fragment UInt8)) :
    (packets ts ssrc seq pieces).map timestamp = pieces.map fun _ ↦ ts.toNat := by
  induction pieces generalizing seq with
  | nil => rfl
  | cons f rest ih => rw [packets, List.map_cons, List.map_cons, ih, timestamp_makeRtpPacket]

def group (ssrc : UInt32) (seq : UInt16) (u : UInt32 × List UInt8) : List (List UInt8) :=
  packets u.1 ssrc seq (cut maxPayload true 0 u.2)

theorem group_ne_nil (ssrc : UInt32) (seq : UInt16) {u : UInt32 × List UInt8} (hu : u.2 ≠ []) :
    group ssrc seq u ≠ [] := by
  rw [group, cut_of_ne_nil maxPayload_pos true 0 hu, packets]
  exact List.cons_ne_nil _ _

theorem firstEnd_group (ssrc : UInt32) (seq : UInt16) {u : UInt32 × List UInt8} (hu : u.2 ≠ []) :
    Delimited.FirstEnd endsGroup (group ssrc seq u) := by
  refine Delimited.firstEnd_of_marked (group_ne_nil ssrc seq hu) ?_
  intro k hk
  have hlen : (group ssrc seq u).length = (cut maxPayload true 0 u.2).length :=
    length_packets _ _ _ _
  have hmark : ((group ssrc seq u).map marker)[k]? =
      ((cut maxPayload true 0 u.2).map Fragment.last)[k]? := by
    rw [group, map_marker_packets]
  rw [List.getElem?_map, List.getElem?_map, List.getElem?_eq_getElem hk,
    List.getElem?_eq_getElem (hlen ▸ hk), Option.map_some, Option.map_some,
    Option.some_inj] at hmark
  rw [hmark, (cut_cut maxPayload_pos true 0 u.2).last_eq, hlen]

theorem timestamp_of_mem_group {p : List UInt8} {u : UInt32 × List UInt8}
    (hp : p ∈ group ssrc seq u) : timestamp p = u.1.toNat := by
  have hmem := List.mem_map_of_mem (f := timestamp) hp
  rw [group, map_timestamp_packets] at hmem
  obtain ⟨f, -, hf⟩ := List.mem_map.mp hmem
  exact hf.symm

theorem brought_group {u : UInt32 × List UInt8} (hu : u.2 ≠ []) :
    brought (group ssrc seq u) = (u.1.toNat, u.2) := by
  have hdata : ((group ssrc seq u).map payload).flatten = u.2 := by
    rw [group, map_payload_packets, (cut_cut maxPayload_pos true 0 u.2).flatten]
  obtain ⟨p, rest, hg⟩ := List.exists_cons_of_ne_nil (group_ne_nil ssrc seq hu)
  have hp : timestamp p = u.1.toNat := by
    apply timestamp_of_mem_group
    rw [hg]
    exact List.mem_cons_self
  rw [brought, hdata, hg, List.headD_cons, hp]

def groups (ssrc : UInt32) : UInt16 → List (UInt32 × List UInt8) → List (List (List UInt8))
  | _, [] => []
  | seq, u :: rest =>
    group ssrc seq u :: groups ssrc (seq + UInt16.ofNat (cut maxPayload true 0 u.2).length) rest

theorem flatten_groups (ssrc : UInt32) (seq : UInt16) (units : List (UInt32 × List UInt8)) :
    (groups ssrc seq units).flatten = datagrams ssrc seq units := by
  induction units generalizing seq with
  | nil => rfl
  | cons u rest ih => rw [groups, List.flatten_cons, ih, datagrams, group]

theorem firstEnd_of_mem_groups {units : List (UInt32 × List UInt8)} (hu : ∀ u ∈ units, u.2 ≠ [])
    {g : List (List UInt8)} (hg : g ∈ groups ssrc seq units) :
    Delimited.FirstEnd endsGroup g := by
  induction units generalizing seq with
  | nil => exact absurd hg List.not_mem_nil
  | cons u rest ih =>
    rcases List.mem_cons.mp hg with rfl | hg
    · exact firstEnd_group ssrc seq (hu u List.mem_cons_self)
    · exact ih (fun v hv ↦ hu v (List.mem_cons_of_mem u hv)) hg

theorem map_brought_groups {units : List (UInt32 × List UInt8)} (hu : ∀ u ∈ units, u.2 ≠ []) :
    (groups ssrc seq units).map brought = units.map fun u ↦ (u.1.toNat, u.2) := by
  induction units generalizing seq with
  | nil => rfl
  | cons u rest ih =>
    rw [groups, List.map_cons, List.map_cons, brought_group (hu u List.mem_cons_self),
      ih fun v hv ↦ hu v (List.mem_cons_of_mem u hv)]

theorem pieces_datagrams {units : List (UInt32 × List UInt8)} (hu : ∀ u ∈ units, u.2 ≠ []) :
    Delimited.pieces endsGroup (datagrams ssrc seq units) = groups ssrc seq units := by
  rw [← flatten_groups]
  exact Delimited.pieces_flatten rfl fun g hg ↦ firstEnd_of_mem_groups hu hg

theorem sequenceNumber_packets (pieces : List (Fragment UInt8)) (k : ℕ)
    (hk : k < (packets ts ssrc seq pieces).length) :
    sequenceNumber (packets ts ssrc seq pieces)[k] = (seq + UInt16.ofNat k).toNat := by
  induction pieces generalizing seq k with
  | nil => exact absurd hk (Nat.not_lt_zero k)
  | cons f rest ih =>
    cases k with
    | zero =>
      simp only [packets, List.getElem_cons_zero, sequenceNumber_makeRtpPacket]
      simp
    | succ k =>
      simp only [packets, List.getElem_cons_succ]
      rw [ih k (Nat.lt_of_succ_lt_succ hk), seq_add_succ]

theorem sequenceNumber_datagrams (units : List (UInt32 × List UInt8)) (k : ℕ)
    (hk : k < (datagrams ssrc seq units).length) :
    sequenceNumber (datagrams ssrc seq units)[k] = (seq + UInt16.ofNat k).toNat := by
  induction units generalizing seq k with
  | nil => exact absurd hk (Nat.not_lt_zero k)
  | cons u rest ih =>
    have hlen := length_packets u.1 ssrc seq (cut maxPayload true 0 u.2)
    simp only [datagrams]
    rw [List.getElem_append]
    split
    · exact sequenceNumber_packets _ _ _
    · rename_i hge
      rw [ih, UInt16.add_assoc, ← UInt16.ofNat_add, hlen, Nat.add_sub_cancel' (by omega)]

theorem mem_packets {p : List UInt8} {pieces : List (Fragment UInt8)}
    (hp : p ∈ packets ts ssrc seq pieces) :
    ∃ f ∈ pieces, ∃ seq', p = makeRtpPacket f.data seq' ts ssrc f.last := by
  induction pieces generalizing seq with
  | nil => exact absurd hp List.not_mem_nil
  | cons f rest ih =>
    rcases List.mem_cons.mp hp with rfl | hp
    · exact ⟨f, List.mem_cons_self, seq, rfl⟩
    · obtain ⟨f', hf, seq', he⟩ := ih hp
      exact ⟨f', List.mem_cons_of_mem f hf, seq', he⟩

theorem mem_datagrams {p : List UInt8} {units : List (UInt32 × List UInt8)}
    (hp : p ∈ datagrams ssrc seq units) :
    ∃ data seq' ts mark, p = makeRtpPacket data seq' ts ssrc mark ∧ data ≠ [] ∧
      data.length ≤ maxPayload := by
  induction units generalizing seq with
  | nil => exact absurd hp List.not_mem_nil
  | cons u rest ih =>
    rcases List.mem_append.mp hp with hp | hp
    · obtain ⟨f, hf, seq', he⟩ := mem_packets hp
      obtain ⟨hne, hfit⟩ := (cut_cut maxPayload_pos true 0 u.2).fits hf
      exact ⟨f.data, seq', u.1, f.last, he, hne, hfit⟩
    · exact ih hp

end Received

/-- What a receiver can rely on in a stream of packets of one source. -/
structure Streams (ssrc : UInt32) (units : List (ℕ × List UInt8)) (full : List (List UInt8)) :
    Prop where
  received : received full = units
  times : ∀ g ∈ Delimited.pieces endsGroup full, ∀ p ∈ g, timestamp p = (brought g).1
  sequence : ∀ k (hk : k < full.length), sequenceNumber full[k] = k % 2 ^ 16
  source : ∀ p ∈ full, RtpPacket.ssrc p = ssrc.toNat ∧ payloadType p = 96
  size : ∀ p ∈ full, payload p ≠ [] ∧ (payload p).length ≤ 1200

theorem datagrams_stream (ssrc : UInt32) {units : List (UInt32 × List UInt8)}
    (hu : ∀ u ∈ units, u.2 ≠ []) :
    Streams ssrc (units.map fun u ↦ (u.1.toNat, u.2)) (datagrams ssrc 0 units) := by
  constructor
  case received => rw [RtpPacket.received, pieces_datagrams hu, map_brought_groups hu]
  case times =>
    intro g hg p hp
    rw [pieces_datagrams hu] at hg
    obtain ⟨u, seq, hmem, rfl⟩ : ∃ u seq, u ∈ units ∧ g = group ssrc seq u := by
      clear hu
      generalize (0 : UInt16) = seq at hg
      induction units generalizing seq with
      | nil => exact absurd hg List.not_mem_nil
      | cons u rest ih =>
        rcases List.mem_cons.mp hg with rfl | hg
        · exact ⟨u, seq, List.mem_cons_self, rfl⟩
        · obtain ⟨v, seq', hv, he⟩ := ih _ hg
          exact ⟨v, seq', List.mem_cons_of_mem u hv, he⟩
    rw [brought_group (hu u hmem), timestamp_of_mem_group hp]
  case sequence =>
    intro k hk
    rw [sequenceNumber_datagrams, UInt16.zero_add, UInt16.toNat_ofNat']
  case source =>
    intro p hp
    obtain ⟨data, seq, ts, mark, rfl, -, -⟩ := mem_datagrams hp
    exact ⟨ssrc_makeRtpPacket _ _ _ _ _, payloadType_makeRtpPacket _ _ _ _ _⟩
  case size =>
    intro p hp
    obtain ⟨data, seq, ts, mark, rfl, hne, hfit⟩ := mem_datagrams hp
    rw [payload_makeRtpPacket]
    exact ⟨hne, hfit⟩

theorem stamped_eq (pack : List UInt8 → UInt64 → List UInt8) (fps : Int32) (n : ℕ)
    (frames : List (List UInt8)) :
    stamped pack fps (UInt64.ofNat n) frames = (frames.zipIdx n).map fun f ↦
      ((to90k (UInt64.ofNat f.2) fps).toUInt32, pack f.1 (UInt64.ofNat f.2)) := by
  induction frames generalizing n with
  | nil => rfl
  | cons frame rest ih =>
    have hn : UInt64.ofNat n + 1 = UInt64.ofNat (n + 1) := (UInt64.ofNat_add n 1).symm
    rw [stamped, hn, ih, List.zipIdx_cons, List.map_cons]

def RtpSocket.recorded (net : RtpSocket ω) : RtpSocket (ω × List (List UInt8)) where
  socket := fun w ↦ ((net.socket w.1).1, (net.socket w.1).2, w.2)
  inetPton := net.inetPton
  sendto := fun dst ↦ taken (net.sendto dst)

def rounds (pack : List UInt8 → UInt64 → List UInt8) (fps : Int32) (frames : List (List UInt8))
    (rounds : ℕ) : List (ℕ × List UInt8) :=
  (List.replicate rounds frames).flatten.zipIdx.map fun f ↦
    ((to90k (UInt64.ofNat f.2) fps).toNat % 2 ^ 32, pack f.1 (UInt64.ofNat f.2))

/-- A run of the sender: the datagrams that are taken are the first ones of a full stream, and
all of it exactly when it answers that it has succeeded. -/
def StreamsFrames (net : RtpSocket ω) (dstIp : Text) (fps : Int32) (ssrc : UInt32)
    (units : List (ℕ × List UInt8)) (w : ω) (run : Option Bool × ω × List (List UInt8)) : Prop :=
  ∃ full, Streams ssrc units full ∧ run.2.2 <+: full ∧
    (run.1 = some true ↔
      (net.socket w).1 = true ∧ net.inetPton dstIp = true ∧ fps ≠ 0 ∧ run.2.2 = full)

theorem streamFrames_streams (net : RtpSocket ω) (pack : List UInt8 → UInt64 → List UInt8)
    {frames : List (List UInt8)}
    (hpack : ∀ frame ∈ frames, ∀ frameIndex, pack frame frameIndex ≠ [])
    (dstIp : Text) (dstPort : Int32) (ssrcText : Text) (fps loopCount : Int32) (w : ω) :
    StreamsFrames net dstIp fps (parseSsrc ssrcText)
      (rounds pack fps frames loopCount.toInt.toNat) w
      (streamFrames net.recorded pack frames dstIp dstPort ssrcText fps loopCount (w, [])) := by
  generalize hall : (List.replicate loopCount.toInt.toNat frames).flatten = all
  have hunits : ∀ u ∈ stamped pack fps 0 all, u.2 ≠ [] := by
    intro u hu
    rw [show (0 : UInt64) = UInt64.ofNat 0 from rfl, stamped_eq] at hu
    obtain ⟨⟨frame, k⟩, hf, rfl⟩ := List.mem_map.mp hu
    have hmem := (List.mem_zipIdx' hf).2
    refine hpack frame ?_ _
    have hframe : frame ∈ all := by
      rw [hmem]
      exact List.getElem_mem _
    rw [← hall] at hframe
    obtain ⟨l, hl, hfl⟩ := List.mem_flatten.mp hframe
    rw [(List.mem_replicate.mp hl).2] at hfl
    exact hfl
  have hstream := datagrams_stream (parseSsrc ssrcText) hunits
  have hrounds : (stamped pack fps 0 all).map (fun u ↦ (u.1.toNat, u.2)) =
      rounds pack fps frames loopCount.toInt.toNat := by
    rw [show (0 : UInt64) = UInt64.ofNat 0 from rfl, stamped_eq, rounds, hall, List.map_map]
    refine List.map_congr_left fun f hf ↦ ?_
    simp
  rw [hrounds] at hstream
  refine ⟨_, hstream, ?_⟩
  unfold streamFrames
  have hsocket : net.recorded.socket (w, []) = ((net.socket w).1, (net.socket w).2, []) := rfl
  rw [hsocket]
  cases hs : (net.socket w).1 with
  | false =>
    refine ⟨List.nil_prefix, ?_⟩
    simp
  | true =>
    have hpton : net.recorded.inetPton dstIp = net.inetPton dstIp := rfl
    dsimp only
    rw [hpton]
    cases hp : net.inetPton dstIp with
    | false =>
      refine ⟨List.nil_prefix, ?_⟩
      simp
    | true =>
      rw [if_pos rfl]
      by_cases hfps : fps = 0
      · rw [if_pos hfps]
        refine ⟨List.nil_prefix, ?_⟩
        simp [hfps]
      · rw [if_neg hfps, sendRounds_eq, hall]
        obtain ⟨sent, hsent, hlog, hend⟩ :=
          sendEach_taken (net.sendto ⟨dstIp, dstPort.toInt16.toUInt16⟩)
            (datagrams (parseSsrc ssrcText) 0 (stamped pack fps 0 all)) (net.socket w).2 []
        rw [List.nil_append] at hlog
        have hsendto : net.recorded.sendto = fun dst ↦ taken (net.sendto dst) := rfl
        rw [hsendto]
        dsimp only
        rw [hlog, Option.some_inj, hend]
        refine ⟨hsent, ?_⟩
        simp [hfps]

/-- A program stream file reaches a receiver pack by pack: whatever the network does, the
datagrams it takes are the first ones of a stream in which a receiver reads the packs of the file
once in each round, each with its time, and the answer is success exactly when all were taken. -/
theorem ps_file_reaches_receiver (net : RtpSocket ω) (loadFile : Text → List UInt8)
    (psPath dstIp : Text) (dstPort : Int32) (ssrcText : Text) (fps loopCount : Int32) (w : ω)
    (hfile : loadFile psPath ≠ []) :
    ∃ packs, Packed (loadFile psPath) packs ∧
      StreamsFrames net dstIp fps (parseSsrc ssrcText)
        (rounds (fun pack _ ↦ pack) fps packs loopCount.toInt.toNat) w
        (streamPsFileAsRtp net.recorded loadFile psPath dstIp dstPort ssrcText fps loopCount
          (w, [])) := by
  have hpacked := splitPsPacks_iff.mp (Eq.refl (splitPsPacks (loadFile psPath)))
  refine ⟨_, hpacked, ?_⟩
  unfold streamPsFileAsRtp
  dsimp only
  rw [if_neg hfile, if_neg hpacked.ne_nil]
  exact streamFrames_streams net _ (fun p hp _ ↦ hpacked.pack_ne_nil hfile hp) _ _ _ _ _ w

def openNetwork : RtpSocket Unit where
  socket := fun w ↦ (true, w)
  inetPton := fun _ ↦ true
  sendto := fun _ _ w ↦ (true, w)

theorem ps_file_reaches_receiver_open :
    ∃ packs, Packed [0x00, 0x00, 0x01, 0xBA, 0x05, 0x00, 0x00, 0x01, 0xBA, 0x06] packs ∧
      StreamsFrames openNetwork "192.168.1.10" 25 (parseSsrc "0100000001")
        (rounds (fun pack _ ↦ pack) 25 packs 2) ()
        (streamPsFileAsRtp openNetwork.recorded
          (fun _ ↦ [0x00, 0x00, 0x01, 0xBA, 0x05, 0x00, 0x00, 0x01, 0xBA, 0x06]) "play.ps"
          "192.168.1.10" 30000 "0100000001" 25 2 ((), [])) :=
  ps_file_reaches_receiver openNetwork
    (fun _ ↦ [0x00, 0x00, 0x01, 0xBA, 0x05, 0x00, 0x00, 0x01, 0xBA, 0x06]) "play.ps" "192.168.1.10"
    30000 "0100000001" 25 2 () (by decide)

end Gb28181PlayProbe

end TriFusion.Protocol
