import TriFusion.Library.Runs
import TriFusion.Service.ProtocolService

namespace TriFusion.Service

open Foundation Commands Library

inductive ServiceCall
  | init (config : ProtocolConfig)
  | acquire (source : CommandSource)
  | release (source : CommandSource)

namespace ProtocolService

def perform (s : ProtocolService) : ServiceCall → ProtocolService
  | .init config => (s.init config).2
  | .acquire source => (s.acquire source).2
  | .release source => s.release source

def OwnedByActive (s : ProtocolService) : Prop :=
  s.config.active ≠ [] → s.activeOwner = [] ∨ s.activeOwner = s.config.active

variable {s : ProtocolService} {source : CommandSource}

theorem isActive_iff_acquire : s.isActive source = true ↔ (s.acquire source).1 = .ok () := by
  constructor
  · intro h
    rw [acquire_of_isActive h]
  · intro h
    by_contra hn
    obtain ⟨e, he⟩ := acquire_of_not_isActive hn
    rw [he] at h
    cases h

theorem acquire_refused {e : Status} (h : (s.acquire source).1 = .error e) :
    (s.acquire source).2 = s := by
  by_cases ha : s.isActive source = true
  · rw [acquire_of_isActive ha] at h
    cases h
  · obtain ⟨e', he⟩ := acquire_of_not_isActive ha
    rw [he]

theorem ownedByActive_fresh : OwnedByActive {} := by
  intro _
  left
  rfl

theorem OwnedByActive.acquire (hs : s.OwnedByActive) : (s.acquire source).2.OwnedByActive := by
  by_cases ha : s.isActive source = true
  · rw [acquire_of_isActive ha]
    obtain ⟨_, _, hc, _⟩ := isActive_iff.mp ha
    intro hne
    right
    exact (hc.resolve_left hne).symm
  · obtain ⟨e, he⟩ := acquire_of_not_isActive ha
    rw [he]
    exact hs

theorem OwnedByActive.release (hs : s.OwnedByActive) : (s.release source).OwnedByActive := by
  by_cases ho : s.activeOwner = protocolName source
  · rw [release_of_eq ho]
    intro _
    left
    rfl
  · rw [release_of_ne ho]
    exact hs

theorem OwnedByActive.perform (call : ServiceCall) (hs : s.OwnedByActive) :
    (s.perform call).OwnedByActive := by
  cases call with
  | init config =>
    intro _
    left
    rfl
  | acquire source => exact hs.acquire
  | release source => exact hs.release

/-- In every state a run of calls reaches, `isActive` foretells `acquire`, a
refused call leaves the owner, and only the configured protocol owns. -/
theorem isActive_predicts_acquire (calls : List ServiceCall) (source : CommandSource) :
    let s := Runs.exec perform {} calls
    (s.isActive source = true ↔ (s.acquire source).1 = .ok ()) ∧
      (∀ e, (s.acquire source).1 = .error e →
        (s.acquire source).2.activeOwner = s.activeOwner) ∧
      (s.config.active ≠ [] → s.activeOwner = [] ∨ s.activeOwner = s.config.active) := by
  intro s
  refine ⟨isActive_iff_acquire, ?_, ?_⟩
  · intro e he
    rw [acquire_refused he]
  · exact Runs.exec_invariant (fun _ call ↦ OwnedByActive.perform call) ownedByActive_fresh calls

end ProtocolService

end TriFusion.Service
