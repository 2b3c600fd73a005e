import PriorityPortal.File.Fault
/-!
# Why a connection could not be used
-/
namespace PriorityPortal.DBus

inductive Fault where
  /-- An address that is not well formed, or of a kind that is not supported. -/
  | address
  | io (e : IoError)
  /-- A value that cannot be sent: a malformed object path, or text with a U+0000 in it. -/
  | value
  /-- A malformed name. -/
  | name
  | other
  deriving DecidableEq, Repr

/-- The fault in words; only a fault of input or output is told in full. -/
def Fault.message : Fault → String
  | io e => "D-Bus error: I/O error: " ++ e.message
  | _ => "D-Bus error"

end PriorityPortal.DBus
