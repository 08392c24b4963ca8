import TriFusion.Library.Runs
import TriFusion.Service.StreamService
import Mathlib.Logic.Function.Basic

namespace TriFusion.Protocol

open Foundation Media Service Library

variable {κ : Type} [DecidableEq κ]

/-- The pipeline pushes a frame, or a call of `waitFrame` that a playing client has
made comes to its end. -/
inductive PlayEvent (κ : Type)
  | push (frame : EncodedFrame)
  | wait (client : κ)
  deriving DecidableEq

structure Playing (κ : Type) where
  stream : MainStream
  service : StreamService := { mainStream := true }
  pushed : List EncodedFrame := []
  received : κ → List EncodedFrame := fun _ ↦ []

namespace Playing

/-- Clients wait for at most 1000 ms, as `streamMjpegOverTcp` does. -/
def step (p : Playing κ) : PlayEvent κ → Playing κ
  | .push frame =>
    match p.stream.push frame with
    | (.ok (), stream) => { p with stream := stream, pushed := p.pushed ++ [frame] }
    | (.error _, stream) => { p with stream := stream }
  | .wait client =>
    match p.service.waitFrame 1000 p.stream with
    | none => p
    | some (.error _, stream) => { p with stream := stream }
    | some (.ok frame, stream) =>
      { p with
        stream := stream
        received := Function.update p.received client (p.received client ++ [frame]) }

def run (p : Playing κ) (events : List (PlayEvent κ)) : Playing κ := Runs.exec step p events

def fresh (config : MediaConfig) (stream : MainStream) : Playing κ where
  stream := (stream.init config).2.start

/-- The client's wait comes before the next push, and there is one. -/
def WaitsBeforePush (client : κ) : List (PlayEvent κ) → Prop
  | [] => False
  | .push _ :: _ => False
  | .wait other :: rest => other = client ∨ WaitsBeforePush client rest

/-- The client waits for a frame between every two pushes, and after the last. -/
def Attentive (client : κ) : List (PlayEvent κ) → Prop
  | [] => True
  | .push _ :: rest => WaitsBeforePush client rest ∧ Attentive client rest
  | .wait _ :: rest => Attentive client rest

def WaitsNext (client : κ) : List (PlayEvent κ) → Prop
  | .wait other :: _ => other = client
  | _ => False

/-- After each push the client is the first whose wait ends. -/
def AlwaysFirst (client : κ) : List (PlayEvent κ) → Prop
  | [] => True
  | .push _ :: rest => WaitsNext client rest ∧ AlwaysFirst client rest
  | .wait _ :: rest => AlwaysFirst client rest

structure Drained (p : Playing κ) : Prop where
  running : p.stream.state = .running
  served : p.service.mainStream = true
  frames : p.stream.frames = []

omit [DecidableEq κ] in
theorem fresh_drained (config : MediaConfig) (stream : MainStream) :
    Drained (fresh config stream : Playing κ) := ⟨rfl, rfl, rfl⟩

variable {p : Playing κ} {client other : κ} {frame : EncodedFrame} {events : List (PlayEvent κ)}

omit [DecidableEq κ] in
theorem waitFrame_eq (h : p.service.mainStream = true) :
    p.service.waitFrame 1000 p.stream =
      some (match p.stream.takeFrame with
        | (none, m) => (.fail .timeout "wait main stream frame timeout", m)
        | (some frame, m) => (.ok frame, m)) := by
  have hw : p.stream.waitFrame 1000 = some p.stream.takeFrame := if_neg (by simp)
  simp only [StreamService.waitFrame, h, Bool.not_true, Bool.false_eq_true, if_false, hw]
  cases p.stream.takeFrame with
  | mk frame m => cases frame <;> rfl

theorem Drained.wait (h : Drained p) (other : κ) : p.step (.wait other) = p := by
  have ht : p.stream.takeFrame = (none, p.stream) := by
    simp [MainStream.takeFrame, h.frames]
  simp only [step, waitFrame_eq h.served, ht]
  rfl

theorem Drained.push (h : Drained p) (frame : EncodedFrame) :
    (p.step (.push frame)).stream.frames = [frame] ∧
      (p.step (.push frame)).service.mainStream = true ∧
      (p.step (.push frame)).stream.state = .running ∧
      (p.step (.push frame)).pushed = p.pushed ++ [frame] ∧
      (p.step (.push frame)).received = p.received := by
  simp [step, MainStream.push, h.running, h.frames, MainStream.makeRoom, h.served]

theorem Drained.push_wait (h : Drained p) (frame : EncodedFrame) (other : κ) :
    Drained ((p.step (.push frame)).step (.wait other)) ∧
      ((p.step (.push frame)).step (.wait other)).pushed = p.pushed ++ [frame] ∧
      ((p.step (.push frame)).step (.wait other)).received =
        Function.update p.received other (p.received other ++ [frame]) := by
  obtain ⟨hf, hs, hr, hp, hg⟩ := h.push frame
  have ht : (p.step (.push frame)).stream.takeFrame =
      (some frame, { (p.step (.push frame)).stream with frames := [] }) := by
    simp [MainStream.takeFrame, hf]
  have he : (p.step (.push frame)).step (.wait other) =
      { p.step (.push frame) with
        stream := { (p.step (.push frame)).stream with frames := [] }
        received := Function.update p.received other (p.received other ++ [frame]) } := by
    simp only [step.eq_2, waitFrame_eq hs, ht, hg]
  rw [he]
  exact ⟨⟨hr, hs, rfl⟩, hp, rfl⟩

structure Share (client : κ) (first : Prop) (p p' : Playing κ) (sent got : List EncodedFrame) :
    Prop where
  pushed : p'.pushed = p.pushed ++ sent
  received : p'.received client = p.received client ++ got
  length : got.length ≤ sent.length
  all : first → got = sent
  missed : ¬ first → got.length < sent.length

theorem run_share (events : List (PlayEvent κ)) (p : Playing κ) (hd : Drained p)
    (ha : Attentive client events) :
    ∃ sent got, Share client (AlwaysFirst client events) p (p.run events) sent got := by
  match events with
  | [] =>
    exact ⟨[], [], by simp [run], by simp [run], le_rfl, fun _ ↦ rfl, fun h ↦ absurd trivial h⟩
  | .wait other :: rest =>
    have hr : p.run (.wait other :: rest) = p.run rest :=
      congrArg (Runs.exec step · rest) (hd.wait other)
    rw [hr]
    exact run_share rest p hd ha
  | .push frame :: [] => exact absurd ha.1 id
  | .push frame :: .push _ :: _ => exact absurd ha.1 id
  | .push frame :: .wait other :: rest =>
    obtain ⟨hd', hp, hg⟩ := hd.push_wait frame other
    obtain ⟨sent, got, h⟩ := run_share rest ((p.step (.push frame)).step (.wait other)) hd' ha.2
    have hr : p.run (.push frame :: .wait other :: rest) =
        run ((p.step (.push frame)).step (.wait other)) rest := rfl
    rw [hr]
    by_cases hc : other = client
    · subst hc
      refine ⟨frame :: sent, frame :: got, ?_, ?_, Nat.succ_le_succ h.length, ?_, ?_⟩
      · rw [h.pushed, hp, List.append_assoc]
        rfl
      · rw [h.received, hg, Function.update_self, List.append_assoc]
        rfl
      · intro hf
        rw [h.all hf.2]
      · intro hf
        exact Nat.succ_lt_succ (h.missed fun hrest ↦ hf ⟨rfl, hrest⟩)
    · refine ⟨frame :: sent, got, ?_, ?_, Nat.le_succ_of_le h.length, ?_, ?_⟩
      · rw [h.pushed, hp, List.append_assoc]
        rfl
      · rw [h.received, hg, Function.update_of_ne (Ne.symm hc)]
      · intro hf
        exact absurd hf.1 hc
      · intro _
        exact Nat.lt_succ_of_le h.length

/-- A client that waits for a frame between every two pushes gets all of them
exactly when, after each push, no other client's wait ends before its own. -/
theorem receives_all_iff (config : MediaConfig) (stream : MainStream)
    (ha : Attentive client events) :
    ((fresh config stream).run events).received client = ((fresh config stream).run events).pushed ↔
      AlwaysFirst client events := by
  obtain ⟨sent, got, h⟩ := run_share events (fresh config stream) (fresh_drained config stream) ha
  have hp : ((fresh config stream).run events).pushed = sent := h.pushed
  have hg : ((fresh config stream).run events).received client = got := h.received
  rw [hp, hg]
  constructor
  · intro he
    by_contra hf
    have hlt := h.missed hf
    rw [he] at hlt
    exact Nat.lt_irrefl _ hlt
  · exact h.all

theorem receives_all_one :
    let events : List (PlayEvent (Fin 2)) := [.push {}, .wait 0, .wait 1, .push {}, .wait 0]
    ((fresh {} {}).run events).received 0 = ((fresh {} {}).run events).pushed :=
  (receives_all_iff {} {} (by simp [Attentive, WaitsBeforePush])).mpr
    (by simp [AlwaysFirst, WaitsNext])

theorem frame_stolen :
    let events : List (PlayEvent (Fin 2)) := [.push { data := [1] }, .wait 1, .wait 0]
    Attentive 0 events ∧ ((fresh {} {}).run events).pushed = [{ data := [1] }] ∧
      ((fresh {} {}).run events).received 0 = [] ∧
      ((fresh {} {}).run events).received 1 = [{ data := [1] }] := by
  refine ⟨by simp [Attentive, WaitsBeforePush], ?_⟩
  decide +kernel

end Playing

end TriFusion.Protocol
