import TriFusion.Foundation.Result

namespace TriFusion.Commands

open Foundation

inductive CommandType
  | unknown
  | setWorkMode
  | getWorkMode
  | startStream
  | stopStream
  | queryStatus
  | setVideoParam
  | setFusionParam
  deriving DecidableEq, Repr

inductive CommandSource
  | unknown
  | gb28181
  | onvif
  | privateApi
  | rtsp
  | localCli
  | «internal»
  deriving DecidableEq, Repr

abbrev CommandParams := List (Text × Text)

/-- A command, less the number and the time that every command gets anew. -/
structure Command where
  type : CommandType := .unknown
  source : CommandSource := .unknown
  sourceName : Text := []
  params : CommandParams := []
  deriving DecidableEq

/-- An absent parameter is read as empty. -/
def Command.param (key : Text) (c : Command) : Text := (c.params.lookup key).getD []

def makeCommand (type : CommandType) (source : CommandSource) (params : CommandParams)
    (sourceName : Text) : Command :=
  { type := type, source := source, sourceName := sourceName, params := params }

structure CommandResult where
  accepted : Bool := false
  status : Status := ⟨.ok, []⟩
  fields : List (Text × Text) := []
  deriving DecidableEq

def CommandResult.ok (out : List (Text × Text)) : CommandResult :=
  { accepted := true, fields := out }

/-- `CommandBus::submit`: the handlers behind it are the world's. -/
abbrev CommandBus (ω : Type) := Command → ω → Result CommandResult × ω

end TriFusion.Commands
