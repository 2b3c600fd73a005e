import PriorityPortal.DBus.StandardError
import PriorityPortal.Error
/-!
# How calls of RealtimeKit fail

A call fails with the error that came in answer to it, or for a reason of the connection's own. A
standard error has a second form, in which its message is never missing; either form may hold the
other.
-/
namespace PriorityPortal

mutual

inductive CallFailure where
  | answered (name : String) (message : Option String)
  | standard (failure : StandardFailure)
  /-- Any other reason, in words. -/
  | other (reason : String)

inductive StandardFailure where
  /-- A standard error, by what follows the common stem of their names. -/
  | known (ending message : String)
  | call (failure : CallFailure)

end

mutual

/-- The error that the caller is told of. A reason without a name goes by the standard one. -/
def CallFailure.downstream : CallFailure → DownstreamError
  | .answered name message => ⟨name, message⟩
  | .standard failure => failure.downstream
  | .other reason => ⟨DBus.standardError "Failed", some reason⟩

def StandardFailure.downstream : StandardFailure → DownstreamError
  | .known ending message => ⟨DBus.standardError ending, some message⟩
  | .call failure => failure.downstream

end

/-- A failure in its standard form, in which a missing message is an empty one. -/
def StandardFailure.ofCall : CallFailure → StandardFailure
  | .answered name message =>
    match DBus.standardEnds.find? fun ending => DBus.standardError ending == name with
    | some ending => .known ending (message.getD "")
    | none => .call (.answered name message)
  | failure => .call failure

end PriorityPortal
