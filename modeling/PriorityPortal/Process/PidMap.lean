import PriorityPortal.Caller
import PriorityPortal.Error
import PriorityPortal.File.Tree
import PriorityPortal.Process.Status
/-!
# Pids of a sandbox on the host

A pid that a sandboxed process names belongs to its own pid namespace. The process it means is the
one in that namespace whose innermost pid is this one, and the host knows it by the name of its
directory in the process table.
-/
namespace PriorityPortal

/-- A process table: a directory of a file tree with a directory for each process, named by its
pid, and one named `self`. -/
structure ProcessTable where
  tree : FileTree
  root : String
  deriving Repr

namespace ProcessTable

def within (table : ProcessTable) (names : List String) : List String :=
  Path.names table.root ++ names

def pidNamespace (table : ProcessTable) (process : String) : Except IoError String :=
  table.tree.readLink (table.within [process, "ns", "pid"])

/-- The number by which an entry of the table names a process of namespace `space` whose innermost
pid is `pid`. A process that ends meanwhile, or cannot be read, is no match. -/
def matching? (table : ProcessTable) (space : String) (pid : UInt64) (name : FileName) :
    Option UInt64 :=
  match name.text? with
  | none => none
  | some text =>
    match Text.uint64? text.toList with
    | none => none
    | some hostPid =>
      match table.pidNamespace (toString hostPid) with
      | .error _ => none
      | .ok found =>
        if found ≠ space then none
        else match table.tree.readText (table.within [text, "status"]) with
          | .error _ => none
          | .ok status => if Status.innermostPid? status = some pid then some hostPid else none

def greatestPid : UInt64 := 2147483647

/-- The host's pid of the process that a sandbox knows as `pid`; `instancePid` is the host's pid of
some process of the sandbox. In a sandbox without a pid namespace of its own the pids are the
same. -/
def hostPid (table : ProcessTable) (instancePid : UInt32) (pid : UInt64) :
    Except MappingError UInt64 :=
  if pid = 0 ∨ greatestPid < pid then .error (.outOfRange pid)
  else match table.pidNamespace (toString instancePid) with
    | .error e => .error (if e.isNotFound then .sandboxGone instancePid else .io e)
    | .ok space =>
      match table.pidNamespace "self" with
      | .error e => .error (.io e)
      | .ok own =>
        if own = space then .ok pid
        else match table.tree.list (table.within []) with
          | .error e => .error (.io e)
          | .ok entries =>
            match entries.findSome? fun entry => table.matching? space pid entry.1 with
            | some found => .ok found
            | none => .error (.notFound pid)

/-- The host's pid of the process that a caller names; there is none for a caller on the host. -/
def hostPidFor (table : ProcessTable) (origin : Origin) (pid : UInt64) :
    Except MappingError UInt64 :=
  match origin with
  | .host => .error (.noInstance origin.text)
  | .flatpak _ instancePid => table.hostPid instancePid pid

def mapPid (table : ProcessTable) (origin : Origin) (pid : UInt64) :
    Except MappingError UInt64 :=
  if origin.isHost then .ok pid else table.hostPidFor origin pid

end ProcessTable

end PriorityPortal
