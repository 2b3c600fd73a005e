import PriorityPortal.Text.Blank
import PriorityPortal.Text.Hex
/-!
# Pieces of patterns

A pattern is a regular expression. What is known of Unicode is the characters and their order, but
no property of theirs, so that letters cannot be taken for those of the other case and there are no
shorthands for classes and no words. All these are there in ASCII mode, where in return nothing may
match a part of a character.
-/
namespace PriorityPortal.Pattern

structure Mode where
  ignoresCase : Bool
  unicode : Bool
  /-- Blanks and comments mean nothing. -/
  spaced : Bool
  deriving DecidableEq, Repr

namespace Mode

def initial : Mode := ⟨false, true, false⟩

def flags : List Char := ['i', 'm', 's', 'U', 'u', 'R', 'x']

/-- Turns a flag on or off. Those that only change what is matched do not matter here. -/
def set (m : Mode) (flag : Char) (on : Bool) : Mode :=
  match flag with
  | 'i' => { m with ignoresCase := on }
  | 'u' => { m with unicode := on }
  | 'x' => { m with spaced := on }
  | _ => m

end Mode

/-- Drops blanks and comments. A comment, of which this may be the middle, ends with its line. -/
def skipBlanks : Bool → List Char → List Char
  | _, [] => []
  | true, c :: rest => skipBlanks (c != '\n') rest
  | false, c :: rest =>
    if Text.isBlank c then skipBlanks false rest
    else if c = '#' then skipBlanks true rest
    else c :: rest

def Mode.skip (m : Mode) (cs : List Char) : List Char :=
  if m.spaced then skipBlanks false cs else cs

inductive Piece where
  /-- A character by its code, which may be written as that of a byte. -/
  | literal (code : Nat) (byte : Bool)
  /-- Any character. -/
  | any
  /-- The edge of a line or of the text. -/
  | edge
  /-- The edge of a word, or no such edge. -/
  | wordEdge
  /-- A shorthand for a class. -/
  | shorthand
  deriving DecidableEq, Repr

namespace Piece

def isUsable (m : Mode) : Piece → Bool
  | literal code byte => if m.unicode then !m.ignoresCase else !byte || code ≤ 0x7F
  | any => m.unicode
  | edge => true
  | wordEdge | shorthand => !m.unicode

def isMember (m : Mode) : Piece → Bool
  | literal code _ => if m.unicode then !m.ignoresCase else code ≤ 0x7F
  | shorthand => !m.unicode
  | any | edge | wordEdge => false

end Piece

def readHex (m : Mode) : Nat → Nat → List Char → Option (Nat × List Char)
  | 0, value, cs => some (value, cs)
  | digits + 1, value, cs =>
    match m.skip cs with
    | [] => none
    | c :: rest => (Text.hexDigit? c).bind fun digit => readHex m digits (16 * value + digit) rest

def readCode (m : Mode) (digits : Nat) (cs : List Char) : Option (Piece × List Char) :=
  (readHex m digits 0 cs).bind fun (code, rest) =>
    if code.isValidChar then some (.literal code (digits = 2), rest) else none

/-- Reads what follows a backslash. A shorthand for what is not in a class would match parts of
characters in ASCII mode, so there are none of these. -/
def readEscaped (m : Mode) : List Char → Option (Piece × List Char)
  | [] => none
  | c :: rest =>
    let code (n : Nat) : Option (Piece × List Char) := some (.literal n false, rest)
    match c with
    | 'x' => readCode m 2 rest
    | 'u' => readCode m 4 rest
    | 'U' => readCode m 8 rest
    | 'd' | 's' | 'w' => some (.shorthand, rest)
    | 'a' => code 0x07
    | 't' => code 0x09
    | 'n' => code 0x0A
    | 'v' => code 0x0B
    | 'f' => code 0x0C
    | 'r' => code 0x0D
    | 'A' | 'z' => some (.edge, rest)
    | 'b' | 'B' | '<' | '>' => some (.wordEdge, rest)
    | c => if c.toNat ≤ 0x7F ∧ !c.isAlphanum then code c.toNat else none

def readMemberPiece (m : Mode) : List Char → Option (Piece × List Char)
  | [] => none
  | '\\' :: rest => readEscaped m rest
  | c :: rest => some (.literal c.toNat false, rest)

def readPiece (m : Mode) : List Char → Option (Piece × List Char)
  | '.' :: rest => some (.any, rest)
  | '^' :: rest | '$' :: rest => some (.edge, rest)
  | cs => readMemberPiece m cs

end PriorityPortal.Pattern
