import TriFusion.Commands.Command
import TriFusion.Foundation.Config

namespace TriFusion.Service

open Foundation Commands

structure ProtocolService where
  config : ProtocolConfig := {}
  activeOwner : Text := []
  initialized : Bool := false
  deriving DecidableEq

namespace ProtocolService

def protocolName : CommandSource → Text
  | .gb28181 => "gb28181"
  | .onvif => "onvif"
  | .privateApi => "private"
  | .rtsp => "rtsp"
  | .localCli => "local"
  | .internal => "internal"
  | .unknown => []

def init (config : ProtocolConfig) (_s : ProtocolService) : Result Unit × ProtocolService :=
  (.ok (), { config := config, activeOwner := [], initialized := true })

def acquire (source : CommandSource) (s : ProtocolService) : Result Unit × ProtocolService :=
  if !s.initialized then (.fail .notInitialized "protocol service is not initialized", s)
  else
    let name := protocolName source
    if name = [] then (.fail .invalidArgument "invalid protocol source", s)
    else if !s.config.allowMultiOnline ∧ s.activeOwner ≠ [] ∧ s.activeOwner ≠ name then
      (.fail .protocolBusy
        ("active protocol is ".toList ++ s.activeOwner ++ ", reject ".toList ++ name), s)
    else if s.config.active ≠ [] ∧ s.config.active ≠ name then
      (.fail .protocolNotActive ("protocol is not active: ".toList ++ name), s)
    else (.ok (), { s with activeOwner := name })

def release (source : CommandSource) (s : ProtocolService) : ProtocolService :=
  if s.activeOwner = protocolName source then { s with activeOwner := [] } else s

def isActive (source : CommandSource) (s : ProtocolService) : Bool :=
  let name := protocolName source
  if !s.initialized ∨ name = [] then false
  else if s.config.active ≠ [] ∧ s.config.active ≠ name then false
  else if !s.config.allowMultiOnline ∧ s.activeOwner ≠ [] ∧ s.activeOwner ≠ name then false
  else true

variable {s s' : ProtocolService} {source other : CommandSource}

@[simp] theorem protocolName_eq_nil : protocolName source = [] ↔ source = .unknown := by
  cases source <;> decide

theorem protocolName_injective : Function.Injective protocolName := by
  intro source other h
  cases source <;> cases other <;> first | rfl | exact absurd h (by decide)

theorem isActive_iff :
    s.isActive source = true ↔ s.initialized = true ∧ source ≠ .unknown ∧
      (s.config.active = [] ∨ s.config.active = protocolName source) ∧
      (s.config.allowMultiOnline = true ∨ s.activeOwner = [] ∨
        s.activeOwner = protocolName source) := by
  simp only [isActive, protocolName_eq_nil]
  cases s.initialized <;> cases s.config.allowMultiOnline <;>
    by_cases hu : source = .unknown <;> by_cases ha : s.config.active = [] <;>
    by_cases hn : s.config.active = protocolName source <;> simp_all

theorem acquire_of_isActive (h : s.isActive source = true) :
    s.acquire source = (.ok (), { s with activeOwner := protocolName source }) := by
  obtain ⟨hi, hu, hc, ho⟩ := isActive_iff.mp h
  have hn : protocolName source ≠ [] := fun he ↦ hu (protocolName_eq_nil.mp he)
  have hb : ¬((!s.config.allowMultiOnline) = true ∧ s.activeOwner ≠ [] ∧
      s.activeOwner ≠ protocolName source) := by
    rintro ⟨hm, h₁, h₂⟩
    rcases ho with ho | ho | ho
    · rw [ho] at hm
      exact nomatch hm
    · exact h₁ ho
    · exact h₂ ho
  have ha : ¬(s.config.active ≠ [] ∧ s.config.active ≠ protocolName source) := by
    rintro ⟨h₁, h₂⟩
    exact hc.elim h₁ h₂
  simp only [acquire, hi, hn, hb, ha, Bool.not_true, Bool.false_eq_true, if_false]

theorem acquire_of_not_isActive (h : s.isActive source ≠ true) :
    ∃ e, s.acquire source = (.error e, s) := by
  unfold acquire
  split
  · exact ⟨_, rfl⟩
  · rename_i hi
    dsimp only
    split
    · exact ⟨_, rfl⟩
    · rename_i hn
      split
      · exact ⟨_, rfl⟩
      · rename_i hb
        split
        · exact ⟨_, rfl⟩
        · rename_i ha
          refine absurd (isActive_iff.mpr ⟨by simpa using hi, ?_, ?_, ?_⟩) h
          · exact fun he ↦ hn (protocolName_eq_nil.mpr he)
          · exact or_iff_not_imp_left.mpr fun he ↦ by_contra fun hne ↦ ha ⟨he, hne⟩
          · by_cases hm : s.config.allowMultiOnline = true
            · exact .inl hm
            · refine .inr (or_iff_not_imp_left.mpr fun he ↦ by_contra fun hne ↦ hb ⟨?_, he, hne⟩)
              simpa using hm

@[simp] theorem release_config : (s.release source).config = s.config := by
  unfold release
  split <;> rfl

@[simp] theorem release_initialized : (s.release source).initialized = s.initialized := by
  unfold release
  split <;> rfl

theorem release_of_eq (h : s.activeOwner = protocolName source) :
    s.release source = { s with activeOwner := [] } :=
  if_pos h

theorem release_of_ne (h : s.activeOwner ≠ protocolName source) : s.release source = s :=
  if_neg h

end ProtocolService

end TriFusion.Service
