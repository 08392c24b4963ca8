import TriFusion.Protocol.Endpoint

namespace TriFusion.Protocol

open Foundation

structure ProtocolConfigStore where
  configDir : Text := []
  config : ProtocolEndpointConfigSet := {}
  loaded : Bool := false
  deriving DecidableEq

namespace ProtocolConfigStore

variable {ω : Type} (io : FileIo ω)

def pathOf (s : ProtocolConfigStore) (filename : Text) : Text :=
  ProtocolConfigLoader.joinPath s.configDir filename

def load (configDir : Text) (s : ProtocolConfigStore) (w : ω) :
    Result Unit × ProtocolConfigStore :=
  match ProtocolConfigLoader.loadAll io configDir w with
  | .error e => (Result.rethrow e, s)
  | .ok cfg => (.ok (), { configDir := configDir, config := cfg, loaded := true })

def save (s : ProtocolConfigStore) (w : ω) : Result Unit × ω :=
  if !s.loaded then (.fail .notInitialized "protocol config store is not loaded", w)
  else
    match ProtocolConfigLoader.saveGb28181 io (s.pathOf "gb28181.yaml") s.config.gb28181 w with
    | (.error e, w) => (.error e, w)
    | (.ok (), w) =>
      match ProtocolConfigLoader.saveOnvif io (s.pathOf "onvif.yaml") s.config.onvif w with
      | (.error e, w) => (.error e, w)
      | (.ok (), w) =>
        match ProtocolConfigLoader.savePrivateApi io (s.pathOf "private_api.yaml")
            s.config.privateApi w with
        | (.error e, w) => (.error e, w)
        | (.ok (), w) => ProtocolConfigLoader.saveRtsp io (s.pathOf "rtsp.yaml") s.config.rtsp w

def snapshot (s : ProtocolConfigStore) : ProtocolEndpointConfigSet := s.config

def write (x : Endpoint) (c : x.Config) (s : ProtocolConfigStore) : ProtocolConfigStore :=
  { s with config := Endpoint.put s.config x c }

/-- The frame that the four full updates share: validate, write, save. -/
def update (x : Endpoint) (c : x.Config) (persist : Bool) (s : ProtocolConfigStore) (w : ω) :
    Result Unit × ProtocolConfigStore × ω :=
  match x.validate c with
  | .error e => (.error e, s, w)
  | .ok () =>
    let s := s.write x c
    if persist then
      let (ret, w) := x.save io (s.pathOf x.filename) c w
      (ret, s, w)
    else (.ok (), s, w)

def updateGb28181 (config : Gb28181Config) (persist : Bool) (s : ProtocolConfigStore) (w : ω) :
    Result Unit × ProtocolConfigStore × ω :=
  update io .gb28181 config persist s w

def updateGb28181Server (server : Gb28181ServerConfig) (persist : Bool)
    (s : ProtocolConfigStore) (w : ω) : Result Unit × ProtocolConfigStore × ω :=
  updateGb28181 io { s.config.gb28181 with server := server } persist s w

def updateOnvif (config : OnvifConfig) (persist : Bool) (s : ProtocolConfigStore) (w : ω) :
    Result Unit × ProtocolConfigStore × ω :=
  update io .onvif config persist s w

def updatePrivateApi (config : PrivateApiConfig) (persist : Bool) (s : ProtocolConfigStore)
    (w : ω) : Result Unit × ProtocolConfigStore × ω :=
  update io .privateApi config persist s w

def updateRtsp (config : RtspConfig) (persist : Bool) (s : ProtocolConfigStore) (w : ω) :
    Result Unit × ProtocolConfigStore × ω :=
  update io .rtsp config persist s w

variable {io} {x : Endpoint} {c : x.Config} {persist : Bool} {s : ProtocolConfigStore} {w : ω}

@[simp] theorem write_pathOf (filename : Text) :
    (s.write x c).pathOf filename = s.pathOf filename :=
  rfl

theorem update_store :
    (update io x c persist s w).2.1 = if x.validate c = .ok () then s.write x c else s := by
  unfold update
  cases hv : x.validate c with
  | error e => simp only [reduceCtorEq, if_false]
  | ok u =>
    simp only [if_true]
    cases persist <;> rfl

end ProtocolConfigStore

end TriFusion.Protocol
