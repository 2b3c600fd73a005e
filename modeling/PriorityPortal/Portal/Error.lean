import PriorityPortal.DBus.Fault
import PriorityPortal.DBus.Name
import PriorityPortal.DBus.StandardError
import PriorityPortal.Error
import PriorityPortal.Process.Identity
/-!
# What a caller of the portal is told

An error of RealtimeKit reaches the caller under its own name and with its own message. All other
errors go by one name, with the error in words.
-/
namespace PriorityPortal

inductive PortalError where
  | realtime (e : RealtimeError)
  | caller (e : IdentityError)
  | bus (fault : DBus.Fault)
  /-- The bus answered with an error. -/
  | refused (name : String) (message : Option String)
  deriving DecidableEq, Repr

structure ErrorReply where
  name : String
  destination : Option String
  text : Option String
  deriving DecidableEq, Repr

namespace PortalError

def ownName : String := "org.freedesktop.portal.Error.Failed"

def message : PortalError → String
  | realtime e => e.message
  | caller e => "could not identify caller: " ++ e.message
  | bus fault => fault.message
  | refused name message => "D-Bus error: " ++ DBus.errorReport name message

/-- The name under which the error is sent: that of RealtimeKit's error if it can be sent. -/
def name : PortalError → String
  | realtime (.downstream e) => if DBus.isErrorName e.name then e.name else ownName
  | _ => ownName

/-- What is known of the reason, apart from how the portal words it. -/
def description? : PortalError → Option String
  | realtime (.downstream e) => e.message
  | caller e => some e.message
  | _ => none

def replyText? : PortalError → Option String
  | realtime (.downstream e) => e.message
  | e => some e.message

/-- The reply to a call from `sender`. Text with a U+0000 in it cannot be sent. -/
def reply (e : PortalError) (sender : Option String) : Except DBus.Fault ErrorReply :=
  match e.replyText? with
  | some text =>
    if text.toList.contains '\x00' then .error .value else .ok ⟨e.name, sender, some text⟩
  | none => .ok ⟨e.name, sender, none⟩

end PortalError

end PriorityPortal
