import PriorityPortal.Pattern.Class
import PriorityPortal.Text.Alphanumeric
/-!
# Patterns

Which texts are patterns that can be used. Groups, classes and repetitions may be nested 250 deep.
-/
namespace PriorityPortal.Pattern

/-- What is to be returned to at the end of a group: the mode, and how deep the branches and the
parts before it are. -/
structure Outside where
  mode : Mode
  branches : List Nat
  parts : List (Option Nat)
  deriving Repr

structure Reading where
  mode : Mode
  /-- How deep each branch before the last bar is. -/
  branches : List Nat
  /-- How deep each part of the last branch is, the last part first; flags are none. -/
  parts : List (Option Nat)
  outer : List Outside
  /-- The names of groups. -/
  names : List String
  deriving Repr

namespace Reading

def initial : Reading := ⟨.initial, [], [], [], []⟩

def branch (r : Reading) : Nat := sideBySide (r.parts.map (·.getD 0))

def depth (r : Reading) : Nat := sideBySide (r.branch :: r.branches)

def add (r : Reading) (depth : Nat) : Reading := { r with parts := some depth :: r.parts }

def enter (r : Reading) (mode : Mode) : Reading :=
  { r with
    mode := mode
    branches := []
    parts := []
    outer := ⟨r.mode, r.branches, r.parts⟩ :: r.outer }

def leave? (r : Reading) : Option Reading :=
  match r.outer with
  | [] => none
  | outside :: outer =>
    some { r with
      mode := outside.mode
      branches := outside.branches
      parts := some (1 + r.depth) :: outside.parts
      outer := outer }

/-- The last part repeated. Flags and nothing cannot be repeated. -/
def repeat? (r : Reading) : Option Reading :=
  match r.parts with
  | some depth :: parts => some { r with parts := some (1 + depth) :: parts }
  | _ => none

end Reading

def isGroupName : List Char → Bool
  | [] => false
  | c :: rest =>
    (c == '_' || Text.isLetter c) &&
      rest.all fun c => ['_', '.', '[', ']'].contains c || Text.isAlphanumeric c

def readName (r : Reading) (cs : List Char) : Option (Reading × List Char) :=
  let name := cs.takeWhile (· != '>')
  match cs.dropWhile (· != '>') with
  | [] => none
  | _ :: rest =>
    if isGroupName name ∧ !r.names.contains (String.ofList name) then
      some ({ r with names := String.ofList name :: r.names }.enter r.mode, rest)
    else none

/-- The mode that flags lead to. No flag stands twice; those behind the hyphen are turned off, and
there is at least one. -/
def Mode.setAll? (m : Mode) (flags : List Char) : Option Mode :=
  if flags.all (fun c => c == '-' || Mode.flags.contains c) ∧ flags.Nodup ∧
      flags.getLast? ≠ some '-' then
    let on := flags.takeWhile (· != '-')
    let off := (flags.dropWhile (· != '-')).tail
    some (off.foldl (fun m c => m.set c false) (on.foldl (fun m c => m.set c true) m))
  else none

/-- Reads flags, and goes into the group they are for, or on in the mode they lead to. -/
def readFlags (r : Reading) (cs : List Char) : Option (Reading × List Char) :=
  let isFlag (c : Char) : Bool := c != ':' && c != ')'
  let flags := cs.takeWhile isFlag
  (r.mode.setAll? flags).bind fun mode =>
    match cs.dropWhile isFlag with
    | ':' :: rest => some (r.enter mode, rest)
    | ')' :: rest =>
      if flags.isEmpty then none
      else some ({ r with mode := mode, parts := none :: r.parts }, rest)
    | _ => none

/-- Reads what follows the opening parenthesis of a group. Groups that look ahead or back are not
supported. -/
def readGroup (r : Reading) (cs : List Char) : Option (Reading × List Char) :=
  match r.mode.skip cs with
  | '?' :: '=' :: _ | '?' :: '!' :: _ | '?' :: '<' :: '=' :: _ | '?' :: '<' :: '!' :: _ => none
  | '?' :: 'P' :: '<' :: rest | '?' :: '<' :: rest => readName r rest
  | '?' :: rest => readFlags r rest
  | rest => some (r.enter r.mode, rest)

/-- Reads the next part of a pattern. A counted repetition is none: the brace that would close it
cannot be part of a pattern. -/
def readPart (r : Reading) (cs : List Char) : Option (Reading × List Char) :=
  match cs with
  | '(' :: rest => readGroup r rest
  | ')' :: rest => r.leave?.map fun r => (r, rest)
  | '|' :: rest => some ({ r with branches := r.branch :: r.branches, parts := [] }, rest)
  | '[' :: rest => (readClass r.mode rest).map fun (depth, rest) => (r.add depth, rest)
  | '?' :: rest | '*' :: rest | '+' :: rest =>
    r.repeat?.map fun r => (r, if rest.head? = some '?' then rest.tail else rest)
  | '\x7b' :: _ => none
  | cs =>
    (readPiece r.mode cs).bind fun (piece, rest) =>
      if piece.isUsable r.mode then some (r.add 0, rest) else none

def readParts : Nat → Reading → List Char → Option Reading
  | 0, _, _ => none
  | fuel + 1, r, cs =>
    match r.mode.skip cs with
    | [] => some r
    | cs => (readPart r cs).bind fun (r, rest) => readParts fuel r rest

def isPattern (cs : List Char) : Bool :=
  match readParts (cs.length + 1) .initial cs with
  | none => false
  | some r => r.outer.isEmpty && r.depth ≤ 250

end PriorityPortal.Pattern
