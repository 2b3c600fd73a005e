/-!
# Names

The names by which buses, interfaces, errors and objects are addressed. A name that a message is
sent with must pass these checks.
-/
namespace PriorityPortal.DBus

def isLetterOrDigit (c : Char) : Bool :=
  ('a' ≤ c && c ≤ 'z') || ('A' ≤ c && c ≤ 'Z') || ('0' ≤ c && c ≤ '9')

inductive Before where
  /-- The start of the name, or a dot. -/
  | boundary
  | inside
  deriving DecidableEq, Repr

/-- Whether no dot stands at the start or after a dot, no digit does unless `digits`, and every
other character is a letter, a digit, an underscore or one of `more`. -/
def elementsFit (digits : Bool) (more : List Char) : Before → List Char → Bool
  | _, [] => true
  | before, c :: rest =>
    if c = '.' then before == .inside && elementsFit digits more .boundary rest
    else if '0' ≤ c ∧ c ≤ '9' ∧ !digits ∧ before = .boundary then false
    else (isLetterOrDigit c || c == '_' || more.contains c) && elementsFit digits more .inside rest

def isDotted (least : Nat) (name : String) : Bool :=
  least ≤ name.utf8ByteSize && name.utf8ByteSize ≤ 255 && name.toList.contains '.'

/-- Whether a name may be the name of an error. The last element may be empty. -/
def isErrorName (name : String) : Bool :=
  isDotted 3 name && elementsFit false [] .boundary name.toList

def isInterfaceName (name : String) : Bool := isErrorName name

def isWellKnownName (name : String) : Bool :=
  isDotted 3 name && elementsFit false ['-'] .boundary name.toList

/-- Whether a name may be one that a bus gives to a connection. A dot may follow the colon in front,
so the shortest has two bytes. The bus's own name counts too. -/
def isUniqueName (name : String) : Bool :=
  name == "org.freedesktop.DBus" ||
    (isDotted 2 name && name.toList.head? == some ':' &&
      elementsFit true ['-'] .inside name.toList.tail)

def isBusName (name : String) : Bool := isUniqueName name || isWellKnownName name

def pathFits : Before → List Char → Bool
  | before, [] => before == .inside
  | before, c :: rest =>
    if c = '/' then before == .inside && pathFits .boundary rest
    else (isLetterOrDigit c || c == '_') && pathFits .inside rest

def isObjectPath (path : String) : Bool :=
  path == "/" ||
    match path.toList with
    | '/' :: rest => pathFits .boundary rest
    | _ => false

end PriorityPortal.DBus
