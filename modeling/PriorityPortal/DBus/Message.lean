import PriorityPortal.DBus.StandardError
import PriorityPortal.DBus.Wire
/-!
# Messages

A method call, and the answer to it: a reply with arguments, or an error with a name.
-/
namespace PriorityPortal.DBus

structure Call where
  sender : Option String
  destination : Option String
  path : String
  interface : Option String
  member : String
  args : List Value
  deriving Repr

inductive Answer where
  | reply (args : List Value)
  | failure (name : String) (args : List Value)
  deriving Repr

structure Peer where
  name : String
  /-- The answer to each call. -/
  answer : Call → Answer

namespace Answer

def refusal (name text : String) : Answer := .failure name [.string text]

def standard (ending text : String) : Answer := refusal (standardError ending) text

end Answer

/-- The message of an error: its first argument, if that is a string. Arguments of other types are
taken for a string as far as their bytes can be read as one. -/
def errorMessage? : List Value → Option String
  | .string message :: _ => some message
  | args => Wire.leadingText? (Wire.body args)

def unpacked : List Value → List Value
  | [.struct fields] => unpacked fields
  | args => args

end PriorityPortal.DBus
