import PriorityPortal.Process.Keyfile
import PriorityPortal.Process.PidMap
/-!
# Where a process runs

A process in a sandbox has the sandbox's keyfile at the root of its file system. Without one it
runs on the host.
-/
namespace PriorityPortal

inductive IdentityError where
  | noSender
  | processGone (pid : UInt32)
  | unreadable (path : String) (e : IoError)
  | nameless (path : String)
  /-- Any other reason, in words. -/
  | other (text : String)
  deriving DecidableEq, Repr

def IdentityError.message : IdentityError → String
  | noSender => "message has no sender"
  | processGone pid => s!"process {pid} is gone"
  | unreadable path e => "cannot read " ++ path ++ ": " ++ e.message
  | nameless path => "no application name in " ++ path
  | other text => text

namespace ProcessTable

/-- The path of a sandbox's keyfile, as a process of the sandbox has it. -/
def keyfilePath (table : ProcessTable) (pid : UInt32) : String :=
  [toString pid, "root", ".flatpak-info"].foldl Path.join table.root

def origin (table : ProcessTable) (pid : UInt32) : Except IdentityError Origin :=
  if !table.tree.resolves (table.within [toString pid]) then .error (.processGone pid)
  else
    match table.tree.readText (table.within [toString pid, "root", ".flatpak-info"]) with
    | .error e =>
      if e.isNotFound then .ok .host else .error (.unreadable (table.keyfilePath pid) e)
    | .ok text =>
      match Keyfile.applicationName? text with
      | some name => .ok (.flatpak name pid)
      | none => .error (.nameless (table.keyfilePath pid))

end ProcessTable

end PriorityPortal
