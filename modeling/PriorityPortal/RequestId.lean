import PriorityPortal.Text.Hex
/-!
# Request identifiers

Each request carries a UUID in its log lines. It is written as hexadecimal digits in groups of
8, 4, 4, 4 and 12, and read in that form or without hyphens, in braces or as a URN.
-/
namespace PriorityPortal

/-- A UUID. -/
structure RequestId where
  bits : BitVec 128
  deriving DecidableEq, Repr

namespace RequestId

def ofHex? (digits : List Char) : Option RequestId :=
  if digits.length = 32 then
    (digits.mapM Text.hexDigit?).map fun values =>
      ⟨BitVec.ofNat 128 (values.foldl (fun value digit => 16 * value + digit) 0)⟩
  else none

def ofHyphenated? (cs : List Char) : Option RequestId :=
  let hyphenAt (i : Nat) : Bool := cs[i]? == some '-'
  if cs.length = 36 ∧ hyphenAt 8 ∧ hyphenAt 13 ∧ hyphenAt 18 ∧ hyphenAt 23 then
    ofHex? (cs.take 8 ++ (cs.drop 9).take 4 ++ (cs.drop 14).take 4 ++ (cs.drop 19).take 4 ++
      cs.drop 24)
  else none

def parse? (text : String) : Option RequestId :=
  let cs := text.toList
  let urn := "urn:uuid:".toList
  if cs.length = 32 then ofHex? cs
  else if cs.length = 38 ∧ cs.head? = some '\x7b' ∧ cs.getLast? = some '\x7d' then
    ofHyphenated? (cs.tail.dropLast)
  else if cs.length = 45 ∧ urn.isPrefixOf (cs.map Char.toLower) then
    ofHyphenated? (cs.drop urn.length)
  else ofHyphenated? cs

def text (id : RequestId) : String :=
  let digits := (List.range 32).map fun i => Nat.digitChar ((id.bits.toNat >>> (4 * (31 - i))) % 16)
  String.ofList (digits.take 8) ++ "-" ++ String.ofList ((digits.drop 8).take 4) ++ "-" ++
    String.ofList ((digits.drop 12).take 4) ++ "-" ++ String.ofList ((digits.drop 16).take 4) ++
    "-" ++ String.ofList (digits.drop 20)

def version (id : RequestId) : Nat := (id.bits.toNat >>> 76) % 16

def isNil (id : RequestId) : Bool := id.bits == 0

/-- The identifier of version 4 made of random bits: six of them give way to version and variant. -/
def ofRandom (random : BitVec 128) : RequestId :=
  let free : BitVec 128 := ~~~(BitVec.ofNat 128 (0xF <<< 76 ||| 0x3 <<< 62))
  ⟨(random &&& free) ||| BitVec.ofNat 128 (4 <<< 76 ||| 2 <<< 62)⟩

end RequestId

end PriorityPortal
