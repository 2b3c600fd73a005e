/-!
# Callers

Who asks: the bus name of the caller, and whether it runs on the host or in a sandbox.
-/
namespace PriorityPortal

inductive Origin where
  | host
  /-- In a Flatpak sandbox: the application, and the host's pid of a process of the instance. -/
  | flatpak (application : String) (instancePid : UInt32)
  deriving DecidableEq, Repr

namespace Origin

def isHost : Origin → Bool
  | host => true
  | flatpak .. => false

def application : Origin → String
  | host => ""
  | flatpak application _ => application

def instancePid? : Origin → Option UInt32
  | host => none
  | flatpak _ pid => some pid

def text : Origin → String
  | host => "host"
  | flatpak application _ => "flatpak:" ++ application

end Origin

structure Caller where
  sender : String
  origin : Origin
  deriving DecidableEq, Repr

namespace Caller

def onHost (sender : String) : Caller := ⟨sender, .host⟩

end Caller

end PriorityPortal
