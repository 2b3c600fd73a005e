/-!
# Arguments

The arguments are options, one of which takes the argument after it, whatever that is.
-/
namespace PriorityPortal.CommandLine

structure Arguments where
  config : Option String
  verbose : Bool
  noName : Bool
  help : Bool
  deriving DecidableEq, Repr

inductive ArgumentsError where
  | unknown (argument : String)
  | noPath
  deriving DecidableEq, Repr

def ArgumentsError.message : ArgumentsError → String
  | unknown argument => "unknown argument: " ++ argument
  | noPath => "--config needs a path"

namespace Arguments

def initial : Arguments := ⟨none, false, false, false⟩

def readOnto (a : Arguments) : List String → Except ArgumentsError Arguments
  | [] => .ok a
  | word :: rest =>
    match word with
    | "--config" | "-c" =>
      match rest with
      | [] => .error .noPath
      | path :: rest => readOnto { a with config := some path } rest
    | "--verbose" | "-v" => readOnto { a with verbose := true } rest
    | "--no-name" => readOnto { a with noName := true } rest
    | "--help" | "-h" => readOnto { a with help := true } rest
    | _ => .error (.unknown word)

def read (words : List String) : Except ArgumentsError Arguments := readOnto initial words

end Arguments

end PriorityPortal.CommandLine
