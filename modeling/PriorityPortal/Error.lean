import PriorityPortal.Settings.Fault
/-!
# How a request fails

A request ends in a value or in one of these errors. The text of an error is all that a caller
reads; its causes go to the log.
-/
namespace PriorityPortal

inductive MappingError where
  /-- No process can have this pid. -/
  | outOfRange (pid : UInt64)
  /-- No process of the sandbox has this pid. -/
  | notFound (pid : UInt64)
  /-- The process that stands for the sandbox has ended. -/
  | sandboxGone (pid : UInt32)
  /-- A caller that is in no sandbox. -/
  | noInstance (caller : String)
  | io (e : IoError)
  deriving DecidableEq, Repr

namespace MappingError

def message : MappingError → String
  | outOfRange pid => s!"pid {pid} out of range"
  | notFound pid => s!"process {pid} not found in sandbox"
  | sandboxGone pid => s!"sandbox process {pid} is gone"
  | noInstance caller => s!"caller {caller} has no sandbox instance"
  | io e => "I/O error: " ++ e.message

def causes : MappingError → List String
  | io e => [e.message]
  | _ => []

end MappingError

structure DownstreamError where
  name : String
  message : Option String
  deriving DecidableEq, Repr

def DownstreamError.text (e : DownstreamError) : String :=
  match e.message with
  | some message => e.name ++ ": " ++ message
  | none => e.name

inductive RealtimeError where
  | pidMapping (e : MappingError)
  | downstream (e : DownstreamError)
  /-- RealtimeKit answered with a value of another type. -/
  | invalidResponse (signature : String)
  | unavailable (reason : String)
  | settings (e : SettingsError)
  | io (e : IoError)
  deriving DecidableEq, Repr

namespace RealtimeError

/-- The error in words. A value of the wrong type is not shown. -/
def message : RealtimeError → String
  | pidMapping e => "Could not map pid: " ++ e.message
  | downstream e => e.text
  | invalidResponse _ => "Invalid response type received"
  | unavailable reason => "RealtimeKit unavailable: " ++ reason
  | settings e => "configuration error: " ++ e.message
  | io e => "I/O error: " ++ e.message

def causes : RealtimeError → List String
  | pidMapping e => e.message :: e.causes
  | io e => [e.message]
  | _ => []

def isDownstream : RealtimeError → Bool
  | downstream _ => true
  | _ => false

def isMappingFailure : RealtimeError → Bool
  | pidMapping _ => true
  | _ => false

end RealtimeError

end PriorityPortal
