import PriorityPortal.CommandLine.Service
/-!
# The program

Buses cannot be reached from here: every attempt to connect ends as if nobody listened.
-/
namespace PriorityPortal.CommandLine

def readText (path : String) : IO (Except IoError String) := do
  try
    let bytes ← IO.FS.readBinFile path
    match Text.decode? bytes.toList with
    | some text => return .ok text
    | none => return .error .notText
  catch
    | .noFileOrDirectory .. => return .error (.os .notFound)
    | .inappropriateType .. => return .error (.os .isDirectory)
    | e => return .error (.other (toString e))

def environment (words : List String) : IO Environment := do
  let config := match Arguments.read words with
    | .ok a => a.config
    | .error _ => none
  let text ← match config with
    | some path => readText path
    | none => pure (.error (.os .notFound))
  let absent : Except DBus.Fault DBus.Peer := .error (.io (.os .notFound))
  return ⟨fun _ => text, ⟨⟨[]⟩, []⟩, absent, absent, ← IO.getEnv "RUST_LOG"⟩

end PriorityPortal.CommandLine

open PriorityPortal.CommandLine

def main (words : List String) : IO UInt32 := do
  let env ← environment words
  match (env.start words).started with
  | .helped =>
    IO.print help
    return 0
  | .failed e =>
    IO.eprint e.text
    return 1
  | .serving _ => return 0
