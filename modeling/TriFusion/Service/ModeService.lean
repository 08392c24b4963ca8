import TriFusion.Mode.ModeManager

namespace TriFusion.Service

open Foundation Mode

variable {ω : Type}

/-- `modeManager` says that the pointer is not null; the manager itself is passed along. -/
structure ModeService where
  modeManager : Bool := false
  deriving DecidableEq

namespace ModeService

def init (modeManager : Bool) (s : ModeService) : Result Unit × ModeService :=
  if !modeManager then (.fail .invalidArgument "mode manager is null", s)
  else (.ok (), { modeManager := true })

def setWorkMode (io : ModeIo ω) (mode : WorkMode) (s : ModeService) (x : ModeSystem ω) :
    Result Unit × ModeSystem ω :=
  if !s.modeManager then (.fail .notInitialized "mode service is not initialized", x)
  else if mode = .unknown then (.fail .unsupportedWorkMode "unknown work mode", x)
  else
    let (ret, manager, world) := x.manager.switchTo io mode x.world
    (ret, { manager := manager, world := world })

end ModeService

structure MediaService where
  modeManager : Bool := false
  deriving DecidableEq

namespace MediaService

def init (modeManager : Bool) (s : MediaService) : Result Unit × MediaService :=
  if !modeManager then (.fail .invalidArgument "mode manager is null", s)
  else (.ok (), { modeManager := true })

def stopCurrentPipeline (io : ModeIo ω) (s : MediaService) (x : ModeSystem ω) :
    Result Unit × ModeSystem ω :=
  if !s.modeManager then (.fail .notInitialized "media service is not initialized", x)
  else
    let (manager, world) := x.manager.stop io x.world
    (.ok (), { manager := manager, world := world })

end MediaService

end TriFusion.Service
