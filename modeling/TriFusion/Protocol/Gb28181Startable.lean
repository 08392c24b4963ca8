import TriFusion.Protocol.Gb28181Service

namespace TriFusion.Protocol

open Foundation Media Commands Service

variable {ω : Type}

structure Startable (p : GbDeviceProfile) : Prop where
  deviceId : p.deviceId ≠ []
  domain : p.domain ≠ []
  ip : p.ip ≠ []
  port : p.port ≠ 0
  serverId : p.serverId ≠ []
  serverIp : p.serverIp ≠ []
  serverPort : p.serverPort ≠ 0
  keepalive : 0 < p.keepaliveIntervalSec

namespace ProtocolConfigLoader

theorem checks_ok {check : Result Unit} {rest : Unit → Result Unit}
    (h : (check >>= rest) = .ok ()) : check = .ok () ∧ rest () = .ok () := by
  cases check with
  | error e => cases h
  | ok => exact ⟨rfl, h⟩

theorem checkNotEmpty_ok {value name : Text} (h : checkNotEmpty value name = .ok ()) :
    value ≠ [] := by
  rintro rfl
  cases h

theorem checkPort_ok {port : UInt16} {name : Text} (h : checkPort port name = .ok ()) :
    port ≠ 0 := by
  rintro rfl
  cases h

theorem validateGb28181_startable {config : Gb28181Config} (he : config.enable = true)
    (h : validateGb28181 config = .ok ()) : Startable (makeGbDeviceProfile config) := by
  simp only [validateGb28181, he, Bool.not_true, Bool.false_eq_true, if_false] at h
  obtain ⟨hdevice, h⟩ := checks_ok h
  obtain ⟨hdomain, h⟩ := checks_ok h
  obtain ⟨hip, h⟩ := checks_ok h
  obtain ⟨hport, h⟩ := checks_ok h
  obtain ⟨hserver, h⟩ := checks_ok h
  obtain ⟨-, h⟩ := checks_ok h
  obtain ⟨hserverIp, h⟩ := checks_ok h
  obtain ⟨hserverPort, h⟩ := checks_ok h
  split at h
  · cases (checks_ok h).1
  split at h
  · cases (checks_ok h).1
  rename_i hinterval
  exact ⟨checkNotEmpty_ok hdevice, checkNotEmpty_ok hdomain, checkNotEmpty_ok hip,
    checkPort_ok hport,
    checkNotEmpty_ok hserver, checkNotEmpty_ok hserverIp, checkPort_ok hserverPort,
    Int32.not_le.mp hinterval⟩

end ProtocolConfigLoader

namespace Gb28181Service

variable {p : GbDeviceProfile} {bus : Option (CommandBus ω)} {streamService : Option StreamService}
  {guard : Option ActiveProtocolGuard} {g : Gb28181Service ω}

theorem initProfile_ok (h : Startable p) (hb : bus.isSome = true) (hs : streamService ≠ none)
    (guard : Option ActiveProtocolGuard) (g : Gb28181Service ω) :
    ∃ control : GbControlAdapter ω, g.initProfile p bus streamService guard =
      (.ok (),
        { g with
          profile := p
          sip := { g.sip with profile := p, configured := true }
          reg := { g.reg with profile := p }
          control := control
          sender := { g.sender with streamService := streamService }
          invite := { sender := true }
          initialized := true }) := by
  have hsip : g.sip.init p = (.ok (), { g.sip with profile := p, configured := true }) := by
    rw [SipClient.init, if_neg h.deviceId, if_neg h.domain, if_neg h.ip, if_neg h.port,
      if_neg h.serverId, if_neg h.serverIp, if_neg h.serverPort]
  have hreg : g.reg.init p = (.ok (), { g.reg with profile := p }) := by
    rw [GbRegister.init, if_neg h.deviceId, if_neg h.serverId, if_neg h.serverIp]
  have hcontrol : ∃ control, g.control.init bus guard = (.ok (), control) := by
    refine ⟨_, Prod.ext ?_ rfl⟩
    obtain ⟨b, rfl⟩ := Option.isSome_iff_exists.mp hb
    rfl
  obtain ⟨control, hcontrol⟩ := hcontrol
  have hnone : bus.isNone = false := by
    obtain ⟨b, rfl⟩ := Option.isSome_iff_exists.mp hb
    rfl
  refine ⟨control, ?_⟩
  simp only [initProfile, hnone, Bool.false_eq_true, if_false, if_neg hs, hsip, hreg, hcontrol,
    GbRtpSender.init]
  rfl

theorem start_ok (hi : g.initialized = true) (hc : g.sip.configured = true)
    (hd : g.reg.profile.deviceId ≠ []) (hk : 0 < g.profile.keepaliveIntervalSec) :
    g.start =
      (.ok (),
        { g with
          sip.running := true
          reg.registered := true
          keepalive :=
            { intervalSeconds := g.profile.keepaliveIntervalSec, running := true } }) := by
  have hk : ¬g.profile.keepaliveIntervalSec ≤ 0 := Int32.not_le.mpr hk
  simp only [start, hi, SipClient.start, hc, GbRegister.registerDevice, hd, GbKeepalive.start, hk,
    Bool.not_true, Bool.false_eq_true, if_false]

theorem startable_starts (h : Startable p) (hb : bus.isSome = true) (hs : streamService ≠ none)
    (guard : Option ActiveProtocolGuard) (g : Gb28181Service ω) :
    ∃ set started, g.initProfile p bus streamService guard = (.ok (), set) ∧
      set.start = (.ok (), started) ∧ started.sip.running = true ∧
      started.reg.registered = true ∧ started.keepalive.running = true := by
  obtain ⟨control, hset⟩ := initProfile_ok h hb hs guard g
  exact ⟨_, _, hset, start_ok rfl rfl h.deviceId h.keepalive, rfl, rfl, rfl⟩

theorem sip_init_ok {c : SipClient} (h : (c.init p).1 = .ok ()) (hk : 0 < p.keepaliveIntervalSec) :
    Startable p := by
  unfold SipClient.init at h
  split_ifs at h with h₁ h₂ h₃ h₄ h₅ h₆ h₇
  · cases h
  · cases h
  · cases h
  · cases h
  · cases h
  · cases h
  · cases h
  · exact ⟨h₁, h₂, h₃, h₄, h₅, h₆, h₇, hk⟩

theorem initProfile_sip {set : Gb28181Service ω}
    (h : g.initProfile p bus streamService guard = (.ok (), set)) :
    bus.isSome = true ∧ streamService ≠ none ∧ (g.sip.init p).1 = .ok () ∧ set.profile = p := by
  unfold initProfile at h
  split_ifs at h with hb hs
  · cases (Prod.mk.inj h).1
  · cases (Prod.mk.inj h).1
  · have hb : bus.isSome = true := by
      cases bus with
      | none => exact absurd rfl hb
      | some b => rfl
    refine ⟨hb, hs, ?_⟩
    dsimp only at h
    split at h <;> rename_i hsip
    · cases (Prod.mk.inj h).1
    refine ⟨congrArg Prod.fst hsip, ?_⟩
    split at h
    · cases (Prod.mk.inj h).1
    split at h
    · cases (Prod.mk.inj h).1
    split at h
    · cases (Prod.mk.inj h).1
    split at h
    · cases (Prod.mk.inj h).1
    rw [← (Prod.mk.inj h).2]

theorem start_interval (h : g.start.1 = .ok ()) : 0 < g.profile.keepaliveIntervalSec := by
  unfold start at h
  split at h
  · cases h
  · split at h
    · cases h
    · dsimp only at h
      split at h
      · cases h
      · unfold GbKeepalive.start at h
        split at h <;> rename_i hk
        · cases h
        · exact Int32.not_le.mp hk

theorem starts_iff (p : GbDeviceProfile) (bus : Option (CommandBus ω))
    (streamService : Option StreamService) (guard : Option ActiveProtocolGuard)
    (g : Gb28181Service ω) :
    (∃ set started, g.initProfile p bus streamService guard = (.ok (), set) ∧
      set.start = (.ok (), started)) ↔ bus.isSome = true ∧ streamService ≠ none ∧ Startable p := by
  constructor
  · rintro ⟨set, started, hset, hstart⟩
    obtain ⟨hb, hs, hsip, hprofile⟩ := initProfile_sip hset
    have hk := start_interval (congrArg Prod.fst hstart)
    rw [hprofile] at hk
    exact ⟨hb, hs, sip_init_ok hsip hk⟩
  · rintro ⟨hb, hs, hp⟩
    obtain ⟨set, started, hset, hstart, -⟩ := startable_starts hp hb hs guard g
    exact ⟨set, started, hset, hstart⟩

/-- A service in any condition can be set up and started with an enabled
configuration that the validator accepts. -/
theorem validated_starts (config : Gb28181Config) (bus : CommandBus ω)
    (streamService : StreamService) (guard : Option ActiveProtocolGuard) (g : Gb28181Service ω)
    (he : config.enable = true) (hv : ProtocolConfigLoader.validateGb28181 config = .ok ()) :
    ∃ set started, g.init config (some bus) (some streamService) guard = (.ok (), set) ∧
      set.start = (.ok (), started) ∧ started.sip.running = true ∧
      started.reg.registered = true ∧ started.keepalive.running = true :=
  startable_starts (ProtocolConfigLoader.validateGb28181_startable he hv) rfl
    (Option.some_ne_none streamService) guard g

theorem validated_starts_default :
    ∃ set started : Gb28181Service Unit,
      ({} : Gb28181Service Unit).init {} (some fun _ w ↦ (.ok {}, w)) (some ⟨true⟩) none =
        (.ok (), set) ∧ set.start = (.ok (), started) ∧ started.sip.running = true ∧
      started.reg.registered = true ∧ started.keepalive.running = true :=
  validated_starts {} _ ⟨true⟩ none {} rfl (by decide)

end Gb28181Service

end TriFusion.Protocol
