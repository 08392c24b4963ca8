import TriFusion.Commands.Command

namespace TriFusion.Protocol

open Foundation Commands

inductive ProtocolKind
  | unknown
  | gb28181
  | onvif
  | privateApi
  | rtsp
  deriving DecidableEq, Repr

inductive ProtocolEndpointState
  | stopped
  | running
  | error
  deriving DecidableEq, Repr

structure ProtocolResponse where
  code : ℕ := 200
  message : Text := "OK"
  fields : List (Text × Text) := []
  deriving DecidableEq

def ProtocolResponse.ok (out : List (Text × Text)) : ProtocolResponse :=
  { code := 200, message := "OK", fields := out }

def ProtocolResponse.error (code : ℕ) (message : Text) : ProtocolResponse :=
  { code := code, message := message }

def ProtocolKind.toString : ProtocolKind → Text
  | .gb28181 => "gb28181"
  | .onvif => "onvif"
  | .privateApi => "private"
  | .rtsp => "rtsp"
  | .unknown => "unknown"

def protocolKindFromString (text : Text) : ProtocolKind :=
  let s := normalize text
  if s = "GB28181" ∨ s = "GB" then .gb28181
  else if s = "ONVIF" then .onvif
  else if s = "PRIVATE" ∨ s = "PRIVATEAPI" ∨ s = "HTTP" then .privateApi
  else if s = "RTSP" then .rtsp
  else .unknown

def commandSourceOf : ProtocolKind → CommandSource
  | .gb28181 => .gb28181
  | .onvif => .onvif
  | .privateApi => .privateApi
  | .rtsp => .rtsp
  | .unknown => .unknown

def protocolCodeFromError : ErrorCode → ℕ
  | .ok => 200
  | .invalidArgument | .invalidCommand | .unsupportedWorkMode => 400
  | .protocolNotActive => 403
  | .notFound => 404
  | .protocolBusy | .busy => 409
  | .timeout | .serialReadTimeout => 504
  | .unsupported => 501
  | _ => 500

def fromCommandResult (result : CommandResult) : ProtocolResponse :=
  if result.accepted ∧ result.status.code = .ok then .ok result.fields
  else .error (protocolCodeFromError result.status.code) result.status.describe

@[simp] theorem commandSourceOf_eq_unknown {kind : ProtocolKind} :
    commandSourceOf kind = .unknown ↔ kind = .unknown := by
  cases kind <;> decide

end TriFusion.Protocol
