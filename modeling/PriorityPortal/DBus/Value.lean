import PriorityPortal.DBus.Signature
import PriorityPortal.Number.Binary64
import PriorityPortal.Property
/-!
# Values

The values that travel in messages, each with its type.
-/
namespace PriorityPortal.DBus

inductive Value where
  | byte (value : UInt8)
  | boolean (value : Bool)
  | int16 (value : Int16)
  | uint16 (value : UInt16)
  | int32 (value : Int32)
  | uint32 (value : UInt32)
  | int64 (value : Int64)
  | uint64 (value : UInt64)
  | double (value : Binary64)
  | string (value : String)
  | path (value : String)
  | signature (value : String)
  | variant (value : Value)
  | array (element : Kind) (items : List Value)
  | struct (fields : List Value)
  | entry (key value : Value)
  deriving Repr, Inhabited

namespace Value

mutual

def kind : Value → Kind
  | byte _ => .byte
  | boolean _ => .boolean
  | int16 _ => .int16
  | uint16 _ => .uint16
  | int32 _ => .int32
  | uint32 _ => .uint32
  | int64 _ => .int64
  | uint64 _ => .uint64
  | double _ => .double
  | string _ => .string
  | path _ => .path
  | signature _ => .signature
  | variant _ => .variant
  | array element _ => .array element
  | struct fields => .struct (kinds fields)
  | entry key value => .entry key.kind value.kind

def kinds : List Value → List Kind
  | [] => []
  | value :: rest => value.kind :: kinds rest

end

def bodySignature (args : List Value) : String := Kind.textAll (kinds args)

def dictionary (entries : List (String × Value)) : Value :=
  .array (.entry .string .variant)
    (entries.map fun (name, value) => .entry (.string name) (.variant value))

/-- The value as that of a property. Only a bare integer of 64 or 32 bits with a sign counts as
one. -/
def asProperty : Value → Property
  | int64 value => .int64 value
  | int32 value => .int32 value
  | other => .other other.kind.text

end Value

end PriorityPortal.DBus
