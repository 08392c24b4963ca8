import TriFusion.Foundation.Text

namespace TriFusion.Foundation

inductive ErrorCode
  | ok
  | invalidArgument
  | notInitialized
  | alreadyInitialized
  | notFound
  | timeout
  | busy
  | ioError
  | permissionDenied
  | parseError
  | configError
  | internalError
  | unsupported
  | invalidCommand
  | unsupportedWorkMode
  | protocolNotActive
  | protocolBusy
  | visibleCameraOffline
  | compositeCameraOffline
  | compositeCameraOpenFailed
  | compositeMetadataOpenFailed
  | serialOpenFailed
  | serialWriteFailed
  | serialReadTimeout
  | serialAckInvalid
  | compositeModeSwitchFailed
  | pipelineBuildFailed
  | pipelineStartFailed
  | mjpegDecodeFailed
  | frameSyncTimeout
  | imageRegistrationFailed
  | fusionProcessFailed
  | encoderInitFailed
  | mainStreamNotReady
  deriving DecidableEq, Repr

def errorMessage : ErrorCode → Text
  | .ok => "OK"
  | .invalidArgument => "invalid argument"
  | .notInitialized => "not initialized"
  | .alreadyInitialized => "already initialized"
  | .notFound => "not found"
  | .timeout => "timeout"
  | .busy => "busy"
  | .ioError => "I/O error"
  | .permissionDenied => "permission denied"
  | .parseError => "parse error"
  | .configError => "configuration error"
  | .internalError => "internal error"
  | .unsupported => "unsupported"
  | .invalidCommand => "invalid command"
  | .unsupportedWorkMode => "unsupported work mode"
  | .protocolNotActive => "protocol not active"
  | .protocolBusy => "protocol busy"
  | .visibleCameraOffline => "visible camera offline"
  | .compositeCameraOffline => "composite camera offline"
  | .compositeCameraOpenFailed => "composite camera open failed"
  | .compositeMetadataOpenFailed => "composite metadata open failed"
  | .serialOpenFailed => "serial open failed"
  | .serialWriteFailed => "serial write failed"
  | .serialReadTimeout => "serial read timeout"
  | .serialAckInvalid => "serial ACK invalid"
  | .compositeModeSwitchFailed => "composite sensor mode switch failed"
  | .pipelineBuildFailed => "pipeline build failed"
  | .pipelineStartFailed => "pipeline start failed"
  | .mjpegDecodeFailed => "MJPEG decode failed"
  | .frameSyncTimeout => "frame sync timeout"
  | .imageRegistrationFailed => "image registration failed"
  | .fusionProcessFailed => "fusion process failed"
  | .encoderInitFailed => "encoder init failed"
  | .mainStreamNotReady => "main stream not ready"

/-- The status of a failed call. A successful call is the `ok` of `Result`, so
the code here is never `ok`. -/
structure Status where
  code : ErrorCode
  message : Text
  deriving DecidableEq, Repr

def Status.describe (s : Status) : Text :=
  if s.message ≠ [] then s.message else errorMessage s.code

abbrev Result (α : Type) := Except Status α

namespace Result

variable {α : Type}

/-- `Result<T>::error(code, message)`. -/
def fail (code : ErrorCode) (message : Text) : Result α := .error ⟨code, message⟩

/-- `Result<T>::error(status.code(), status.describe())`, as callers pass a failure on. -/
def rethrow (s : Status) : Result α := fail s.code s.describe

def succeeded : Result α → Bool
  | .ok _ => true
  | .error _ => false

@[simp] theorem succeeded_ok (a : α) : succeeded (.ok a) = true := rfl

@[simp] theorem succeeded_error (s : Status) : succeeded (.error s : Result α) = false := rfl

end Result

end TriFusion.Foundation
