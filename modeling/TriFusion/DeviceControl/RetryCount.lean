import TriFusion.DeviceControl.LinkStatus
import TriFusion.Foundation.ConfigValidator

namespace TriFusion.DeviceControl

open Foundation Hardware

namespace CompositeSensorController

variable {ω α : Type}

inductive Attempts (attempt : ω → Result α × ω) : ω → List (Result α) → ω → Prop
  | nil (w : ω) : Attempts attempt w [] w
  | cons {w w₁ w₂ : ω} {r : Result α} {results : List (Result α)}
      (h : attempt w = (r, w₁)) (hs : Attempts attempt w₁ results w₂) :
      Attempts attempt w (r :: results) w₂

/-- A call with at most `limit` attempts: it ends with the first that succeeds, or all of
them have failed. -/
def Retried (limit : ℕ) (attempt : ω → Result α × ω) (call : ω → Result α × ω) : Prop :=
  ∀ w, ∃ results, Attempts attempt w results (call w).2 ∧
    results ≠ [] ∧ results.length ≤ limit ∧
    (∀ r ∈ results.dropLast, r.succeeded = false) ∧
    (∀ a, results.getLast? = some (.ok a) → (call w).1 = .ok a) ∧
    ((call w).1.succeeded = false ↔ results.length = limit ∧ ∀ r ∈ results, r.succeeded = false)

/-- What the retries of a configuration promise: their number is computed without overflow,
and both calls keep to it. -/
structure RetriesCounted (config : SerialConfig) : Prop where
  inRange : config.retryCount.toInt + 1 ≤ Int32.maxValue.toInt
  write : ∀ {ω : Type} (tty : Tty ω) (c : CompositeSensorController) (command : List UInt8),
    c.config = config → Retried (max 1 (config.retryCount.toInt + 1)).toNat
      (sendWriteOnce tty c command) (sendWriteCommandWithRetry tty c command)
  read : ∀ {ω : Type} (tty : Tty ω) (c : CompositeSensorController) (command : List UInt8),
    c.config = config → Retried (max 1 (config.retryCount.toInt + 1)).toNat
      (sendReadOnce tty c command) (sendReadCommandWithRetry tty c command)

variable {failure : Text} {attempt : ω → Result α × ω}

theorem retryLoop_attempts (n : ℕ) (last : Option Status) (w : ω) :
    ∃ results, Attempts attempt w results (retryLoop failure attempt (n + 1) last w).2 ∧
      results ≠ [] ∧ results.length ≤ n + 1 ∧
      (∀ r ∈ results.dropLast, r.succeeded = false) ∧
      (∀ a, results.getLast? = some (.ok a) →
        (retryLoop failure attempt (n + 1) last w).1 = .ok a) ∧
      ((retryLoop failure attempt (n + 1) last w).1.succeeded = false ↔
        results.length = n + 1 ∧ ∀ r ∈ results, r.succeeded = false) := by
  induction n generalizing last w with
  | zero =>
    rw [retryLoop]
    rcases hx : attempt w with ⟨e | a, w₁⟩
    · refine ⟨[.error e], .cons hx (.nil w₁), by simp, by simp, by simp, ?_, ?_⟩
      · intro a ha
        simp at ha
      · simp [retryLoop, Result.fail]
    · refine ⟨[.ok a], .cons hx (.nil w₁), by simp, by simp, by simp, ?_, ?_⟩
      · intro b hb
        simpa using hb
      · simp
  | succ n ih =>
    rw [retryLoop]
    rcases hx : attempt w with ⟨e | a, w₁⟩
    · obtain ⟨results, hs, hne, hlen, hfail, hok, hiff⟩ := ih (some e) w₁
      refine ⟨.error e :: results, .cons hx hs, by simp, by simpa using hlen, ?_, ?_, ?_⟩
      · intro r hr
        rw [List.dropLast_cons_of_ne_nil hne] at hr
        rcases List.mem_cons.mp hr with rfl | hr
        · rfl
        · exact hfail r hr
      · intro a ha
        rw [List.getLast?_cons_of_ne_nil hne] at ha
        exact hok a ha
      · simpa using hiff
    · refine ⟨[.ok a], .cons hx (.nil w₁), by simp, by simp, by simp, ?_, ?_⟩
      · intro b hb
        simpa using hb
      · simp

theorem attempts_toNat {c : CompositeSensorController}
    (h : c.config.retryCount ≠ 2147483647) :
    c.attempts.toNatClampNeg = (max 1 (c.config.retryCount.toInt + 1)).toNat := by
  have hmax : c.config.retryCount.toInt ≠ 2147483647 := by
    intro he
    exact h (Int32.toInt_inj.mp he)
  have hle := c.config.retryCount.toInt_lt
  have hge := c.config.retryCount.le_toInt
  have hsum : (c.config.retryCount + 1).toInt = c.config.retryCount.toInt + 1 := by
    rw [Int32.toInt_add]
    change (c.config.retryCount.toInt + 1).bmod (2 ^ 32) = _
    rw [Int.bmod_eq_of_le (by omega) (by omega)]
  have hattempts : c.attempts.toInt = max 1 (c.config.retryCount.toInt + 1) := by
    change (if 1 ≤ c.config.retryCount + 1 then c.config.retryCount + 1 else 1).toInt = _
    have hone : (1 : Int32).toInt = 1 := rfl
    have hiff : 1 ≤ c.config.retryCount + 1 ↔ 1 ≤ c.config.retryCount.toInt + 1 := by
      rw [Int32.le_iff_toInt_le, hsum, hone]
    by_cases hp : 1 ≤ c.config.retryCount + 1
    · rw [if_pos hp, hsum, max_eq_right (hiff.mp hp)]
    · rw [if_neg hp, hone, max_eq_left]
      have hn := mt hiff.mpr hp
      omega
  rw [← hattempts]
  rfl

theorem retried_retryLoop {c : CompositeSensorController}
    (h : c.config.retryCount ≠ 2147483647) :
    Retried (max 1 (c.config.retryCount.toInt + 1)).toNat attempt
      (retryLoop failure attempt c.attempts.toNatClampNeg none) := by
  intro w
  rw [← attempts_toNat h]
  obtain ⟨n, hn⟩ := Nat.exists_eq_succ_of_ne_zero (Nat.ne_of_gt c.attempts_pos)
  rw [hn]
  exact retryLoop_attempts n none w

/-- The retries are counted exactly when the count can be raised by one. -/
theorem retriesCounted_iff (config : SerialConfig)
    (h : ConfigValidator.validateSerial config = .ok ()) :
    RetriesCounted config ↔ config.retryCount ≠ 2147483647 := by
  constructor
  · rintro hc he
    have hr := hc.inRange
    rw [he] at hr
    exact absurd hr (by decide)
  · intro hne
    refine ⟨?_, ?_, ?_⟩
    · have hlt := config.retryCount.toInt_lt
      have hmax : config.retryCount.toInt ≠ 2147483647 := fun he ↦ hne (Int32.toInt_inj.mp he)
      change config.retryCount.toInt + 1 ≤ 2147483647
      omega
    · rintro ω tty c command rfl
      exact retried_retryLoop hne
    · rintro ω tty c command rfl
      exact retried_retryLoop hne

theorem retriesCounted_iff_default :
    RetriesCounted { dev := "/dev/ttyS4" } ↔ (3 : Int32) ≠ 2147483647 :=
  retriesCounted_iff { dev := "/dev/ttyS4" } (by decide)

def endless : SerialConfig := { dev := "/dev/ttyS4", retryCount := 2147483647 }

theorem endless_accepted_overflows :
    ConfigValidator.validateSerial endless = .ok () ∧ ¬RetriesCounted endless := by
  refine ⟨by decide, ?_⟩
  intro hc
  exact absurd hc.inRange (by decide)

end CompositeSensorController

end TriFusion.DeviceControl
