import TriFusion.Media.MainStream

namespace TriFusion.Service

open Foundation Media

def streamStateText : StreamState → Text
  | .stopped => "STOPPED"
  | .running => "RUNNING"
  | .error => "ERROR"

/-- `mainStream` says that the pointer is not null; the stream itself is passed along. -/
structure StreamService where
  mainStream : Bool := false
  deriving DecidableEq

namespace StreamService

def init (mainStream : Bool) (s : StreamService) : Result Unit × StreamService :=
  if !mainStream then (.fail .invalidArgument "main stream is null", s)
  else (.ok (), { s with mainStream := true })

def uninitialized {α : Type} : Result α :=
  .fail .notInitialized "stream service is not initialized"

def startMainStream (s : StreamService) (m : MainStream) : Result Unit × MainStream :=
  if !s.mainStream then (uninitialized, m) else (.ok (), m.start)

def stopMainStream (s : StreamService) (m : MainStream) : Result Unit × MainStream :=
  if !s.mainStream then (uninitialized, m) else (.ok (), m.stop)

def state (s : StreamService) (m : MainStream) : Result StreamState :=
  if !s.mainStream then uninitialized else .ok m.state

def waitFrame (timeoutMs : Int32) (s : StreamService) (m : MainStream) :
    Option (Result EncodedFrame × MainStream) :=
  if !s.mainStream then some (uninitialized, m)
  else
    match m.waitFrame timeoutMs with
    | none => none
    | some (none, m) => some (.fail .timeout "wait main stream frame timeout", m)
    | some (some frame, m) => some (.ok frame, m)

end StreamService

end TriFusion.Service
