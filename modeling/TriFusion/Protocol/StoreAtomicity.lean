import TriFusion.Foundation.ConfigReload
import TriFusion.Protocol.StoreUpdates

namespace TriFusion.Protocol

open Foundation

namespace Endpoint

theorem put_eq_self (set : ProtocolEndpointConfigSet) (x : Endpoint) (c : x.Config) :
    put set x c = set ↔ c = get set x := by
  constructor
  · intro h
    rw [← h, get_put]
  · intro h
    subst h
    cases x <;> rfl

end Endpoint

namespace StoreCall

variable {ω : Type} (io : FileIo ω)

def result (call : StoreCall) (s : ProtocolConfigStore) (w : ω) :
    Result Unit × ProtocolConfigStore × ω :=
  match call with
  | .update x c persist => ProtocolConfigStore.update io x c persist s w
  | .updateGb28181Server server persist =>
    ProtocolConfigStore.updateGb28181Server io server persist s w

def persists : StoreCall → Bool
  | .update _ _ persist | .updateGb28181Server _ persist => persist

def AtomicOnError (call : StoreCall) (s : ProtocolConfigStore) (w : ω) : Prop :=
  call.persists = true → ∀ e, (call.result io s w).1 = .error e →
    (call.result io s w).2.1.snapshot = s.snapshot

/-- The value is refused before it is stored, its file can be written, or it is stored already. -/
def Safe (x : Endpoint) (c : x.Config) (s : ProtocolConfigStore) (w : ω) : Prop :=
  x.validate c ≠ .ok () ∨ (io.write (s.pathOf x.filename) (x.text c) w).isSome = true ∨
    c = Endpoint.get s.config x

def SafeIn (call : StoreCall) (s : ProtocolConfigStore) (w : ω) : Prop :=
  call.persists = false ∨
    match call with
    | .update x c _ => Safe io x c s w
    | .updateGb28181Server server _ =>
      Safe io .gb28181 { s.config.gb28181 with server := server } s w

variable {io} {x : Endpoint} {c : x.Config} {persist : Bool} {s : ProtocolConfigStore} {w : ω}

theorem save_error_iff (io : FileIo ω) (w : ω) (hv : x.validate c = .ok ()) (path : Text) :
    (∃ e, (x.save io path c w).1 = .error e) ↔ (io.write path (x.text c) w).isSome = false := by
  rw [Endpoint.save_eq, ProtocolConfigLoader.save, hv]
  cases hw : io.write path (x.text c) w with
  | none => simp [FileIo.writeText, hw, Result.fail]
  | some w' => simp [FileIo.writeText, hw]

theorem update_refused {e : Status} (hv : x.validate c = .error e) :
    ProtocolConfigStore.update io x c persist s w = (.error e, s, w) := by
  simp only [ProtocolConfigStore.update, hv]

theorem update_accepted (io : FileIo ω) (s : ProtocolConfigStore) (w : ω)
    (hv : x.validate c = .ok ()) :
    (ProtocolConfigStore.update io x c true s w).1 =
        (x.save io (s.pathOf x.filename) c w).1 ∧
      (ProtocolConfigStore.update io x c true s w).2.1.snapshot =
        Endpoint.put s.config x c := by
  simp only [ProtocolConfigStore.update, hv, if_true]
  exact ⟨rfl, rfl⟩

theorem update_atomic_iff :
    (∀ e, (ProtocolConfigStore.update io x c true s w).1 = .error e →
        (ProtocolConfigStore.update io x c true s w).2.1.snapshot = s.snapshot) ↔
      Safe io x c s w := by
  cases hv : x.validate c with
  | error e =>
    refine iff_of_true ?_ (.inl fun h ↦ ?_)
    · intro e' _
      rw [update_refused hv]
    · rw [hv] at h
      cases h
  | ok u =>
    obtain ⟨hr, hs⟩ := update_accepted io s w hv
    have hput : Endpoint.put s.config x c = s.snapshot ↔ c = Endpoint.get s.config x :=
      Endpoint.put_eq_self s.config x c
    have he := save_error_iff io w hv (s.pathOf x.filename)
    simp only [hr, hs, hput]
    constructor
    · intro h
      right
      rw [or_iff_not_imp_left]
      intro hw
      obtain ⟨e, hsave⟩ := he.mpr (Bool.eq_false_of_not_eq_true hw)
      exact h e hsave
    · intro h e hsave
      rcases h with h | h | h
      · exact absurd hv h
      · rw [he.mp ⟨e, hsave⟩] at h
        cases h
      · exact h

/-- A persistent update is atomic on error exactly when it is refused, its file
can be opened for writing, or it changes nothing. -/
theorem atomic_on_error_iff (io : FileIo ω) (call : StoreCall) (s : ProtocolConfigStore) (w : ω) :
    call.AtomicOnError io s w ↔ call.SafeIn io s w := by
  unfold AtomicOnError SafeIn
  cases hp : call.persists with
  | false => simp
  | true =>
    simp only [true_implies, Bool.true_eq_false, false_or]
    cases call with
    | update x c persist =>
      obtain rfl : persist = true := hp
      exact update_atomic_iff
    | updateGb28181Server server persist =>
      obtain rfl : persist = true := hp
      exact update_atomic_iff

theorem unwritten_path_active :
    ¬(StoreCall.update .rtsp ({ enable := false, path := "/other" } : RtspConfig)
      true).AtomicOnError (ConfigManager.disk fun _ ↦ none) {} () := by
  intro h
  exact absurd (h rfl _ rfl) (by decide)

end StoreCall

end TriFusion.Protocol
