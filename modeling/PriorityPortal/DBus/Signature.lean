/-!
# Types and their signatures

Each D-Bus type is written as a signature, a short code of one or more characters. A message's body
is described by the signatures of its arguments, one after another.
-/
namespace PriorityPortal.DBus

/-- The types of values. A dictionary is an array of entries. -/
inductive Kind where
  | byte
  | boolean
  | int16
  | uint16
  | int32
  | uint32
  | int64
  | uint64
  | double
  | string
  | path
  | signature
  | variant
  | array (element : Kind)
  | struct (fields : List Kind)
  | entry (key value : Kind)
  deriving Repr, BEq

namespace Kind

mutual

def text : Kind → String
  | byte => "y"
  | boolean => "b"
  | int16 => "n"
  | uint16 => "q"
  | int32 => "i"
  | uint32 => "u"
  | int64 => "x"
  | uint64 => "t"
  | double => "d"
  | string => "s"
  | path => "o"
  | signature => "g"
  | variant => "v"
  | array element => "a" ++ element.text
  | struct fields => "(" ++ textAll fields ++ ")"
  | entry key value => "\x7b" ++ key.text ++ value.text ++ "\x7d"

def textAll : List Kind → String
  | [] => ""
  | kind :: rest => kind.text ++ textAll rest

end

def ofLetter? : Char → Option Kind
  | 'y' => some byte
  | 'b' => some boolean
  | 'n' => some int16
  | 'q' => some uint16
  | 'i' => some int32
  | 'u' => some uint32
  | 'x' => some int64
  | 't' => some uint64
  | 'd' => some double
  | 's' => some string
  | 'o' => some path
  | 'g' => some signature
  | 'v' => some variant
  | _ => none

/-- Reads one type off the front, or the types up to the end of a struct or entry; nested at most
as deep as the first argument says. -/
def readFrom : Nat → Bool → List Char → Option (List Kind × List Char)
  | 0, _, _ => none
  | depth + 1, many, cs =>
    let onward (kind : Kind) (rest : List Char) : Option (List Kind × List Char) :=
      if many then (readFrom depth true rest).map fun (kinds, rest) => (kind :: kinds, rest)
      else some ([kind], rest)
    match cs with
    | [] => if many then some ([], []) else none
    | 'a' :: rest =>
      match readFrom depth false rest with
      | some ([element], rest) => onward (.array element) rest
      | _ => none
    | '(' :: rest =>
      match readFrom depth true rest with
      | some (fields, ')' :: rest) => onward (.struct fields) rest
      | _ => none
    | '\x7b' :: rest =>
      match readFrom depth true rest with
      | some ([key, value], '\x7d' :: rest) => onward (.entry key value) rest
      | _ => none
    | c :: rest =>
      if many ∧ (c = ')' ∨ c = '\x7d') then some ([], cs)
      else match ofLetter? c with
        | some kind => onward kind rest
        | none => none

def ofText? (text : String) : Option Kind :=
  match readFrom (text.length + 2) false text.toList with
  | some ([kind], []) => some kind
  | _ => none

end Kind

/-- The parentheses around `cs` taken off as long as `cs` is longer than `size`; `tries` bounds
their number. -/
def peel (size : Nat) : Nat → List Char → List Char
  | 0, cs => cs
  | tries + 1, cs =>
    if size < cs.length ∧ cs.head? = some '(' ∧ cs.getLast? = some ')' then
      peel size tries cs.tail.dropLast
    else cs

/-- Whether a body of signature `got` is taken where one of signature `expected` belongs:
parentheses around the longer of the two do not count. -/
def signaturesAgree (got expected : String) : Bool :=
  let got := got.toList
  let expected := expected.toList
  peel expected.length got.length got == peel got.length expected.length expected

end PriorityPortal.DBus
