/-!
# UTF-8

Bytes are cut into encoded characters and damaged stretches. Reading is strict (text or nothing) or
lossy (each damaged stretch becomes U+FFFD, where a stretch is the longest start of a character
that the bytes give, at least one byte).
-/
namespace PriorityPortal.Text

inductive Piece where
  | char (c : Char)
  | damage
  deriving DecidableEq, Repr

/-- What a lead byte calls for: the bits it holds, the least and greatest byte that may follow,
and how many more bytes come after that one. -/
def lead? (byte : UInt8) : Option (Nat × UInt8 × UInt8 × Nat) :=
  let n := byte.toNat
  if byte < 0xC2 then none
  else if byte ≤ 0xDF then some (n - 0xC0, 0x80, 0xBF, 0)
  else if byte = 0xE0 then some (n - 0xE0, 0xA0, 0xBF, 1)
  else if byte = 0xED then some (n - 0xE0, 0x80, 0x9F, 1)
  else if byte ≤ 0xEF then some (n - 0xE0, 0x80, 0xBF, 1)
  else if byte = 0xF0 then some (n - 0xF0, 0x90, 0xBF, 2)
  else if byte ≤ 0xF3 then some (n - 0xF0, 0x80, 0xBF, 2)
  else if byte = 0xF4 then some (n - 0xF0, 0x80, 0x8F, 2)
  else none

/-- A character still to be completed: the bits so far, the range of the next byte, and how many
come after it. -/
structure Pending where
  bits : Nat
  least : UInt8
  greatest : UInt8
  more : Nat

def Pending.start (byte : UInt8) (found : List Piece) : Option Pending × List Piece :=
  if byte < 0x80 then (none, .char (Char.ofNat byte.toNat) :: found)
  else match lead? byte with
    | none => (none, .damage :: found)
    | some (bits, least, greatest, more) => (some ⟨bits, least, greatest, more⟩, found)

/-- What a byte does inside a character: it completes it, brings it further or breaks it off. -/
def Pending.next (p : Pending) (byte : UInt8) (found : List Piece) :
    Option Pending × List Piece :=
  if p.least ≤ byte ∧ byte ≤ p.greatest then
    let bits := p.bits * 64 + (byte.toNat - 0x80)
    match p.more with
    | 0 => (none, .char (Char.ofNat bits) :: found)
    | more + 1 => (some ⟨bits, 0x80, 0xBF, more⟩, found)
  else Pending.start byte (.damage :: found)

/-- Cuts bytes into pieces; the pieces found so far stand in reverse. -/
def cut : Option Pending → List Piece → List UInt8 → List Piece
  | none, found, [] => found.reverse
  | some _, found, [] => (.damage :: found).reverse
  | none, found, byte :: bytes =>
    let (pending, found) := Pending.start byte found
    cut pending found bytes
  | some p, found, byte :: bytes =>
    let (pending, found) := p.next byte found
    cut pending found bytes

def pieces (bytes : List UInt8) : List Piece := cut none [] bytes

def Piece.char? : Piece → Option Char
  | .char c => some c
  | .damage => none

def decode? (bytes : List UInt8) : Option String :=
  ((pieces bytes).mapM Piece.char?).map String.ofList

/-- Reads bytes as text, with U+FFFD in place of each damaged stretch. -/
def decodeLossy (bytes : List UInt8) : String :=
  String.ofList ((pieces bytes).map fun piece => piece.char?.getD '\uFFFD')

def encode (text : String) : List UInt8 := text.toUTF8.data.toList

end PriorityPortal.Text
