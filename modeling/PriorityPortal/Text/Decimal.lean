/-!
# Unsigned decimals

A number is read from one or more decimal digits, with a plus sign in front or not; leading zeros
do not matter, and a number that does not fit its word is none.
-/
namespace PriorityPortal.Text

def digit? (c : Char) : Option Nat :=
  if '0' ≤ c ∧ c ≤ '9' then some (c.toNat - '0'.toNat) else none

def ofDigits (base : Nat) (digits : List Nat) : Nat :=
  digits.foldl (fun value digit => base * value + digit) 0

def digits? (cs : List Char) : Option Nat :=
  if cs.isEmpty then none else (cs.mapM digit?).map (ofDigits 10)

def natural? : List Char → Option Nat
  | '+' :: cs => digits? cs
  | cs => digits? cs

def uint64? (cs : List Char) : Option UInt64 :=
  (natural? cs).bind fun n => if n < UInt64.size then some (UInt64.ofNat n) else none

def decimal (n : Nat) : List Char := Nat.toDigits 10 n

end PriorityPortal.Text
