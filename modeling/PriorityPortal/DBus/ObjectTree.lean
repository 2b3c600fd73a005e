import PriorityPortal.DBus.Message
import PriorityPortal.DBus.Name
import PriorityPortal.File.Fault
/-!
# Object trees

A connection serves interfaces at object paths. All paths above them exist too, and the root does
in any case. At each path that exists properties can be read through an interface of their own.
-/
namespace PriorityPortal.DBus

structure Interface where
  name : String
  properties : List (String × Value)
  deriving Repr

def propertiesName : String := "org.freedesktop.DBus.Properties"

def peerName : String := "org.freedesktop.DBus.Peer"

def introspectableName : String := "org.freedesktop.DBus.Introspectable"

def commonInterfaces : List String := [peerName, introspectableName, propertiesName]

def isAbove (path below : String) : Bool :=
  path == below || path == "/" || (path ++ "/").toList.isPrefixOf below.toList

namespace Answer

def wrongArguments : Answer := .failure otherError []

def unknownObject (path : String) : Answer :=
  .standard "UnknownObject" ("Unknown object '" ++ path ++ "'")

def unknownInterface (name : String) : Answer :=
  .standard "UnknownInterface" ("Unknown interface '" ++ name ++ "'")

def unknownMethod (member : String) : Answer :=
  .standard "UnknownMethod" ("Unknown method '" ++ member ++ "'")

def unknownProperty (name : String) : Answer :=
  .standard "UnknownProperty" ("Unknown property '" ++ name ++ "'")

def noMachineId : Answer :=
  .standard "IOError" ("Failed to read from /var/lib/dbus/machine-id or /etc/machine-id: " ++
    OsError.notFound.message)

end Answer

abbrev ObjectTree := List (String × Interface)

namespace ObjectTree

def pathExists (objects : ObjectTree) (path : String) : Bool :=
  path == "/" || objects.any fun (below, _) => isAbove path below

def interface? (objects : ObjectTree) (path name : String) : Option Interface :=
  (objects.find? fun (place, interface) => place == path && interface.name == name).map (·.2)

def knows (objects : ObjectTree) (path name : String) : Bool :=
  (objects.interface? path name).isSome || commonInterfaces.contains name

def propertiesOf (objects : ObjectTree) (path name : String) : List (String × Value) :=
  ((objects.interface? path name).map (·.properties)).getD []

def answerProperties (objects : ObjectTree) (path member : String) (args : List Value) : Answer :=
  let answer (name : String) (known : Answer) : Answer :=
    if !isInterfaceName name then .wrongArguments
    else if !objects.knows path name then .unknownInterface name
    else known
  match member, unpacked args with
  | "Get", [.string name, .string property] =>
    answer name <| match (objects.propertiesOf path name).lookup property with
      | some value => .reply [.variant value]
      | none => .unknownProperty property
  | "GetAll", [.string name] => answer name (.reply [.dictionary (objects.propertiesOf path name)])
  | "Set", [.string name, .string property, .variant _] => answer name (.unknownProperty property)
  | "Get", _ | "GetAll", _ | "Set", _ => .wrongArguments
  | _, _ => .unknownMethod member

/-- The answer of one of the interfaces that every path has. The machine has no identifier, and no
object has a description. -/
def answerCommon (objects : ObjectTree) (path name member : String) (args : List Value) :
    Answer :=
  if name = propertiesName then objects.answerProperties path member args
  else if name = peerName ∧ member = "Ping" then .reply []
  else if name = peerName ∧ member = "GetMachineId" then .noMachineId
  else if name = introspectableName ∧ member = "Introspect" then
    if args.isEmpty then .reply [.string ""] else .wrongArguments
  else .unknownMethod member

/-- The interface that a call reaches, or the answer to a call that reaches none of those served. -/
def route (objects : ObjectTree) (call : Call) : Except Answer Interface :=
  match call.interface with
  | none => .error (.standard "Failed" "Missing interface")
  | some name =>
    if !objects.pathExists call.path then .error (.unknownObject call.path)
    else match objects.interface? call.path name with
      | some interface => .ok interface
      | none =>
        if commonInterfaces.contains name then
          .error (objects.answerCommon call.path name call.member call.args)
        else .error (.unknownInterface name)

end ObjectTree

end PriorityPortal.DBus
