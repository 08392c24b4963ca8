import TriFusion.Commands.Command
import TriFusion.Service.ModeService
import TriFusion.Service.StreamService

namespace TriFusion.Commands

open Foundation Media Mode Service

variable {ω : Type}

structure SetWorkModeHandler where
  service : Option ModeService := none
  deriving DecidableEq

def modeText (command : Command) : Text :=
  if command.param "mode" = [] then command.param "work_mode" else command.param "mode"

def SetWorkModeHandler.handle (io : ModeIo ω) (command : Command) (h : SetWorkModeHandler)
    (x : ModeSystem ω) : Result CommandResult × ModeSystem ω :=
  match h.service with
  | none => (.fail .notInitialized "set-work-mode handler service is null", x)
  | some service =>
    if modeText command = [] then
      (.fail .invalidCommand "SET_WORK_MODE requires param: mode", x)
    else
      let mode := WorkMode.fromString (modeText command)
      if mode = .unknown then
        (.fail .unsupportedWorkMode ("unsupported work mode: ".toList ++ modeText command), x)
      else
        match service.setWorkMode io mode x with
        | (.error e, x) => (.rethrow e, x)
        | (.ok (), x) =>
          (.ok (.ok [("work_mode", mode.toText), ("command", "SET_WORK_MODE")]), x)

def stateText (state : Result StreamState) : Text :=
  match state with
  | .error _ => "UNKNOWN"
  | .ok state => streamStateText state

structure StartStreamHandler where
  service : Option StreamService := none
  deriving DecidableEq

/-- The services and the pipelines share one main stream. -/
def withMainStream (m : MainStream) (x : ModeSystem ω) : ModeSystem ω :=
  { x with world := { x.world with shared := { x.world.shared with mainStream := m } } }

def StartStreamHandler.handle (h : StartStreamHandler) (x : ModeSystem ω) :
    Result CommandResult × ModeSystem ω :=
  match h.service with
  | none => (.fail .notInitialized "start-stream handler service is null", x)
  | some service =>
    match service.startMainStream x.world.mainStream with
    | (.error e, m) => (.rethrow e, withMainStream m x)
    | (.ok (), m) =>
      (.ok (.ok [("stream", "main"), ("state", stateText (service.state m)),
        ("command", "START_STREAM")]), withMainStream m x)

structure StopStreamHandler where
  streamService : Option StreamService := none
  mediaService : Option MediaService := none
  deriving DecidableEq

def StopStreamHandler.stopPipeline (io : ModeIo ω) (h : StopStreamHandler) (x : ModeSystem ω) :
    Result Unit × ModeSystem ω :=
  match h.mediaService with
  | none => (.ok (), x)
  | some service => service.stopCurrentPipeline io x

def StopStreamHandler.handle (io : ModeIo ω) (h : StopStreamHandler) (x : ModeSystem ω) :
    Result CommandResult × ModeSystem ω :=
  match h.streamService with
  | none => (.fail .notInitialized "stop-stream handler stream service is null", x)
  | some service =>
    match h.stopPipeline io x with
    | (.error e, x) => (.rethrow e, x)
    | (.ok (), x) =>
      match service.stopMainStream x.world.mainStream with
      | (.error e, m) => (.rethrow e, withMainStream m x)
      | (.ok (), m) =>
        (.ok (.ok [("stream", "main"), ("state", stateText (service.state m)),
          ("command", "STOP_STREAM")]), withMainStream m x)

end TriFusion.Commands
