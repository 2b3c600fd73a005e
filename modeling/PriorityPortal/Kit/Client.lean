import PriorityPortal.DBus.ObjectTree
import PriorityPortal.DBus.Fault
import PriorityPortal.DBus.Name
import PriorityPortal.Kit.Failure
import PriorityPortal.Relay
import PriorityPortal.Settings.Basic
/-!
# The client of RealtimeKit

Calls of RealtimeKit are sent as messages, and errors in answer keep their name and message.
-/
namespace PriorityPortal

structure KitClient where
  service : String
  path : String
  interface : String
  deriving DecidableEq, Repr

namespace KitClient

def ofSettings (s : KitSettings) : Except DBus.Fault KitClient :=
  if !DBus.isBusName s.service then .error .name
  else if !DBus.isObjectPath s.objectPath then .error .value
  else if !DBus.isInterfaceName s.interface then .error .name
  else .ok ⟨s.service, s.objectPath, s.interface⟩

def message (client : KitClient) (interface member : String) (args : List DBus.Value) :
    DBus.Call :=
  ⟨none, some client.service, client.path, some interface, member, args⟩

def send (client : KitClient) : KitCall → DBus.Call
  | .thread process thread (.realtime level) =>
    client.message client.interface "MakeThreadRealtimeWithPID"
      [.uint64 process, .uint64 thread, .uint32 level]
  | .thread process thread (.highPriority nice) =>
    client.message client.interface "MakeThreadHighPriorityWithPID"
      [.uint64 process, .uint64 thread, .int32 nice]
  | .property name =>
    client.message DBus.propertiesName "Get" [.string client.interface, .string name]

def mismatch (got expected : String) : CallFailure :=
  .other ("Signature mismatch: got `" ++ got ++ "`, expected `" ++ expected ++ "`")

def failureOf (name : String) (args : List DBus.Value) : CallFailure :=
  .answered name (DBus.errorMessage? args)

def granted : DBus.Answer → Except DownstreamError Unit
  | .failure name args => .error (failureOf name args).downstream
  | .reply args =>
    let got := DBus.Value.bodySignature args
    if DBus.signaturesAgree got "" then .ok () else .error (mismatch got "").downstream

/-- The answer to the reading of a property; the value comes in a variant. Failures come in their
standard form. -/
def propertyValue : DBus.Answer → Except DownstreamError Property
  | .failure name args => .error (StandardFailure.ofCall (failureOf name args)).downstream
  | .reply args =>
    let got := DBus.Value.bodySignature args
    match DBus.signaturesAgree got "v", DBus.unpacked args with
    | true, [.variant value] => .ok value.asProperty
    | _, _ => .error (StandardFailure.ofCall (mismatch got "v")).downstream

def kit (client : KitClient) (peer : DBus.Peer) : Kit where
  setPriority process thread priority :=
    some (granted (peer.answer (client.send (.thread process thread priority))))
  readProperty name := some (propertyValue (peer.answer (client.send (.property name))))

end KitClient

end PriorityPortal
