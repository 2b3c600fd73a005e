import PriorityPortal.DBus.Message
import PriorityPortal.Portal.Error
/-!
# The bus itself

What is asked of a bus: to be let on, to own a name, and which process a sender belongs to.
-/
namespace PriorityPortal.DBus.Bus

def name : String := "org.freedesktop.DBus"

def path : String := "/org/freedesktop/DBus"

def call (member : String) (args : List Value) : Call :=
  ⟨none, some name, path, some name, member, args⟩

def hello : Call := call "Hello" []

/-- The call that asks for a name: no waiting for it, and taking it over if that is allowed. -/
def requestName (name : String) : Call := call "RequestName" [.string name, .uint32 6]

def requestPid (sender : String) : Call := call "GetConnectionUnixProcessID" [.string sender]

/-- Whether the answer to a request for a name grants it: the name is owned now, waited for or
owned already. -/
def grantsName : Answer → Bool
  | .reply [.uint32 code] => code == 1 || code == 2 || code == 4
  | _ => false

def pid : Answer → Except PortalError UInt32
  | .reply [.uint32 pid] => .ok pid
  | .reply _ => .error (.bus .value)
  | .failure name args => .error (.refused name (errorMessage? args))

def pidOf (bus : Peer) (sender : String) : Except PortalError UInt32 :=
  pid (bus.answer (requestPid sender))

end PriorityPortal.DBus.Bus
