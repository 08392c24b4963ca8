import TriFusion.Foundation.Text

namespace TriFusion.Foundation

inductive EventType
  | unknown
  | systemStarted
  | systemStopping
  | configReloaded
  | cameraOnline
  | cameraOffline
  | modeChanged
  | pipelineStarted
  | pipelineStopped
  | protocolError
  | faultDetected
  deriving DecidableEq, Repr

structure Event where
  type : EventType
  name : Text
  fields : List (Text × Text)
  deriving DecidableEq, Repr

end TriFusion.Foundation
