import PriorityPortal.DBus.ObjectTree
import PriorityPortal.Relay
/-!
# Calls of the portal

The portal has one interface, with a method for either kind of priority and one for properties.
-/
namespace PriorityPortal

inductive PortalCall where
  | thread (process thread : UInt64) (priority : Priority)
  | property (name : String)
  deriving DecidableEq, Repr

namespace PortalCall

def interface : DBus.Interface :=
  ⟨"org.freedesktop.portal.Realtime", [("version", .uint32 1)]⟩

def ofMessage (member : String) (args : List DBus.Value) : Except DBus.Answer PortalCall :=
  match member, DBus.unpacked args with
  | "MakeThreadRealtimeWithPID", [.uint64 process, .uint64 task, .uint32 level] =>
    .ok (.thread process task (.realtime level))
  | "MakeThreadHighPriorityWithPID", [.uint64 process, .uint64 task, .int32 nice] =>
    .ok (.thread process task (.highPriority nice))
  | "GetProperty", [.string name] => .ok (.property name)
  | "MakeThreadRealtimeWithPID", _ | "MakeThreadHighPriorityWithPID", _ | "GetProperty", _ =>
    .error .wrongArguments
  | _, _ => .error (.unknownMethod member)

end PortalCall

end PriorityPortal
