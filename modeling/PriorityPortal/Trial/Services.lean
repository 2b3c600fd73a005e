import PriorityPortal.Process.PidMap
import PriorityPortal.Relay
/-!
# Services for trials

Services that answer by settings, which may change between any two events: whether they let a
request wait, the error they fail with if they do, and else what they know.
-/
namespace PriorityPortal

/-- The settings of stand-in services. What was added last counts. -/
structure StandIn where
  failure : Option DownstreamError
  properties : List (String × Property)
  stalled : Bool
  pids : List (UInt64 × UInt64)
  mappingFailure : Option MappingError
  mapperStalled : Bool
  deriving Repr

namespace StandIn

def initial : StandIn := ⟨none, [], false, [], none, false⟩

def unknownProperty (name : String) : DownstreamError :=
  ⟨"org.freedesktop.DBus.Error.InvalidArgs", some ("No such property '" ++ name ++ "'")⟩

def grant (s : StandIn) : Except DownstreamError Unit :=
  match s.failure with
  | some e => .error e
  | none => .ok ()

def property (s : StandIn) (name : String) : Except DownstreamError Property :=
  match s.failure, s.properties.lookup name with
  | some e, _ => .error e
  | none, some value => .ok value
  | none, none => .error (unknownProperty name)

def mapPid (s : StandIn) (pid : UInt64) : Except MappingError UInt64 :=
  match s.mappingFailure, s.pids.lookup pid with
  | some e, _ => .error e
  | none, some hostPid => .ok hostPid
  | none, none => .error (.notFound pid)

def kit (s : StandIn) : Kit where
  setPriority _ _ _ := if s.stalled then none else some s.grant
  readProperty name := if s.stalled then none else some (s.property name)

def services (s : StandIn) (table : Option ProcessTable) : Services where
  toKit := s.kit
  mapPid origin pid :=
    match table with
    | some table => some (table.hostPidFor origin pid)
    | none => if s.mapperStalled then none else some (s.mapPid pid)
  now := ⟨0⟩

end StandIn

end PriorityPortal
