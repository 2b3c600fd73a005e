import PriorityPortal.Pattern.Piece
/-!
# Classes in patterns

A class is a set of characters in brackets. Its members stand side by side, on either side of
operators, or in classes within it.
-/
namespace PriorityPortal.Pattern

/-- How deep the parts of something are nested, given how deep each of them is: one part alone is
not nested in anything. -/
def sideBySide : List Nat → Nat
  | [] => 0
  | [depth] => depth
  | depths => 1 + depths.foldl max 0

structure OpenClass where
  /-- How deep what stands before the last operator is. -/
  left : Option Nat
  /-- How deep each member behind it is. -/
  members : List Nat
  deriving Repr

namespace OpenClass

def start (members : Nat) : OpenClass := ⟨none, List.replicate members 0⟩

def add (c : OpenClass) (depth : Nat) : OpenClass := { c with members := depth :: c.members }

def depth (c : OpenClass) : Nat :=
  match c.left with
  | none => sideBySide c.members
  | some left => 1 + max left (sideBySide c.members)

def operate (c : OpenClass) : OpenClass := ⟨some c.depth, []⟩

end OpenClass

def classNames : List String :=
  ["alnum", "alpha", "ascii", "blank", "cntrl", "digit", "graph", "lower", "print", "punct",
   "space", "upper", "word", "xdigit"]

/-- What a named class is and what follows it, given what follows its first bracket: whether the
class is that of all other characters. -/
def namedClass? : List Char → Option (Bool × List Char)
  | ':' :: rest =>
    let negated := rest.head? == some '^'
    let rest := if negated then rest.tail else rest
    let name := rest.takeWhile (· != ':')
    match rest.dropWhile (· != ':') with
    | ':' :: ']' :: rest =>
      if classNames.contains (String.ofList name) then some (negated, rest) else none
    | _ => none
  | _ => none

/-- The character to come, beyond blanks and up to one number sign in a spaced pattern. -/
def Mode.next? (m : Mode) (cs : List Char) : Option Char :=
  if m.spaced then
    match cs.dropWhile Text.isBlank with
    | '#' :: rest => (rest.dropWhile Text.isBlank).head?
    | rest => rest.head?
  else cs.head?

/-- Reads a member of a class: a character, a shorthand or a range. A hyphen before another or
before a bracket makes no range. -/
def readMember (m : Mode) (cs : List Char) : Option (List Char) := do
  let (first, rest) ← readMemberPiece m cs
  match m.skip rest with
  | [] => none
  | '-' :: after =>
    if m.next? after = some ']' ∨ m.next? after = some '-' then
      if first.isMember m then some ('-' :: after) else none
    else
      let (last, rest) ← readMemberPiece m (m.skip after)
      match first, last with
      | .literal least _, .literal greatest _ =>
        if least ≤ greatest ∧ first.isMember m ∧ last.isMember m then some rest else none
      | _, _ => none
  | rest => if first.isMember m then some rest else none

def hyphens (m : Mode) : Nat → List Char → Nat × List Char
  | fuel + 1, '-' :: rest =>
    let (more, rest) := hyphens m fuel (m.skip rest)
    (more + 1, rest)
  | _, cs => (0, cs)

/-- Reads what follows an opening bracket: hyphens, or a closing bracket, are members here. Counts
them. A class of what is not in it would match parts of characters in ASCII mode. -/
def readOpening (m : Mode) (cs : List Char) : Option (Nat × List Char) :=
  let cs := m.skip cs
  let negated := cs.head? == some '^'
  let cs := if negated then m.skip cs.tail else cs
  let (count, cs) := hyphens m cs.length cs
  let (count, cs) :=
    if count = 0 ∧ cs.head? = some ']' then (1, m.skip cs.tail) else (count, cs)
  if (negated && !m.unicode) || (0 < count && m.unicode && m.ignoresCase) then none
  else some (count, cs)

def readMembers (m : Mode) : Nat → List OpenClass → OpenClass → List Char →
    Option (Nat × List Char)
  | 0, _, _, _ => none
  | fuel + 1, outer, c, cs =>
    match m.skip cs, outer with
    | [], _ => none
    | '[' :: rest, outer =>
      match namedClass? rest with
      | some (negated, rest) =>
        if (negated && !m.unicode) || (m.unicode && m.ignoresCase) then none
        else readMembers m fuel outer (c.add 0) rest
      | none =>
        (readOpening m rest).bind fun (count, rest) =>
          readMembers m fuel (c :: outer) (.start count) rest
    | ']' :: rest, [] => some (1 + c.depth, rest)
    | ']' :: rest, above :: outer => readMembers m fuel outer (above.add (1 + c.depth)) rest
    | '&' :: '&' :: rest, outer | '-' :: '-' :: rest, outer | '~' :: '~' :: rest, outer =>
      readMembers m fuel outer c.operate rest
    | cs, outer => (readMember m cs).bind fun rest => readMembers m fuel outer (c.add 0) rest

def readClass (m : Mode) (cs : List Char) : Option (Nat × List Char) :=
  (readOpening m cs).bind fun (count, rest) =>
    readMembers m (rest.length + 1) [] (.start count) rest

end PriorityPortal.Pattern
