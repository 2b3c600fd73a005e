/-!
# Property values

What RealtimeKit answers when one of its properties is read. Only the two integer types that its
limits come in are kept; of any other value the type signature is.
-/
namespace PriorityPortal

inductive Property where
  | int64 (value : Int64)
  | int32 (value : Int32)
  | other (signature : String)
  deriving DecidableEq, Repr

namespace Property

def asInt64? : Property → Option Int64
  | int64 value => some value
  | int32 value => some value.toInt64
  | other _ => none

def signature : Property → String
  | int64 _ => "x"
  | int32 _ => "i"
  | other signature => signature

end Property

end PriorityPortal
