import TriFusion.Protocol.ProtocolTypes
import TriFusion.Service.ProtocolService

namespace TriFusion.Protocol

open Foundation Commands Service

/-- `service` tells whether the guard has been given the service. -/
structure ActiveProtocolGuard where
  service : Bool := false
  deriving DecidableEq

namespace ActiveProtocolGuard

def init (service : Bool) (guard : ActiveProtocolGuard) : Result Unit × ActiveProtocolGuard :=
  if !service then (.fail .invalidArgument "protocol service is null", guard)
  else (.ok (), { service := true })

def acquire (guard : ActiveProtocolGuard) (source : CommandSource) (s : ProtocolService) :
    Result Unit × ProtocolService :=
  if !guard.service then (.fail .notInitialized "active protocol guard is not initialized", s)
  else s.acquire source

def release (guard : ActiveProtocolGuard) (source : CommandSource) (s : ProtocolService) :
    ProtocolService :=
  if guard.service then s.release source else s

def isActive (guard : ActiveProtocolGuard) (source : CommandSource) (s : ProtocolService) : Bool :=
  guard.service && s.isActive source

variable {guard : ActiveProtocolGuard} {source : CommandSource} {s : ProtocolService}

theorem acquire_of_isActive (h : guard.isActive source s = true) :
    guard.acquire source s =
      (.ok (), { s with activeOwner := ProtocolService.protocolName source }) := by
  obtain ⟨hg, hs⟩ := Bool.and_eq_true_iff.mp h
  simp only [acquire, hg, Bool.not_true, Bool.false_eq_true, if_false]
  exact ProtocolService.acquire_of_isActive hs

theorem acquire_of_not_isActive (h : guard.isActive source s ≠ true) :
    ∃ e, guard.acquire source s = (.error e, s) := by
  cases hg : guard.service with
  | false =>
    refine ⟨⟨.notInitialized, "active protocol guard is not initialized"⟩, ?_⟩
    simp only [acquire, hg, Bool.not_false, if_true, Result.fail]
  | true =>
    have hs : s.isActive source ≠ true := fun hs ↦ h (by rw [isActive, hg, hs, Bool.and_true])
    obtain ⟨e, he⟩ := ProtocolService.acquire_of_not_isActive hs
    refine ⟨e, ?_⟩
    simp only [acquire, hg, Bool.not_true, Bool.false_eq_true, if_false]
    exact he

end ActiveProtocolGuard

structure ProtocolCommandAdapter (ω : Type) where
  kind : ProtocolKind := .unknown
  source : CommandSource := .unknown
  bus : Option (CommandBus ω) := none
  guard : Option ActiveProtocolGuard := none
  source_eq : source = commandSourceOf kind := by rfl

namespace ProtocolCommandAdapter

variable {ω : Type}

def init (kind : ProtocolKind) (bus : Option (CommandBus ω))
    (guard : Option ActiveProtocolGuard) (a : ProtocolCommandAdapter ω) :
    Result Unit × ProtocolCommandAdapter ω :=
  if kind = .unknown then (.fail .invalidArgument "invalid protocol kind", a)
  else if bus.isNone then (.fail .invalidArgument "command bus is null", a)
  else (.ok (), { kind := kind, source := commandSourceOf kind, bus := bus, guard := guard })

def respond (ret : Result CommandResult) : Result ProtocolResponse :=
  match ret with
  | .error e => Result.rethrow e
  | .ok result => .ok (fromCommandResult result)

def command (a : ProtocolCommandAdapter ω) (type : CommandType) (params : CommandParams) :
    Command :=
  makeCommand type a.source params a.kind.toString

/-- The owner is taken for the call and let go when the answer is there. -/
def submit (a : ProtocolCommandAdapter ω) (type : CommandType) (params : CommandParams)
    (s : ProtocolService) (w : ω) : Result ProtocolResponse × ProtocolService × ω :=
  match a.bus with
  | none => (.fail .notInitialized "protocol command adapter is not initialized", s, w)
  | some bus =>
    if a.source = .unknown then (.fail .invalidArgument "invalid protocol command source", s, w)
    else
      match a.guard with
      | none =>
        let (ret, w) := bus (a.command type params) w
        (respond ret, s, w)
      | some guard =>
        match guard.acquire a.source s with
        | (.error e, s) => (Result.rethrow e, s, w)
        | (.ok (), s) =>
          let (ret, w) := bus (a.command type params) w
          (respond ret, guard.release a.source s, w)

end ProtocolCommandAdapter

end TriFusion.Protocol
