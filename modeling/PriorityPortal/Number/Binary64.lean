/-!
# Double-precision numbers

Numbers of IEEE 754's binary64 format, as their 64 bits: read from a decimal, rounded to the nearest
and in a tie to the even one, and written with the fewest digits that read back as the same number.
-/
namespace PriorityPortal

structure Binary64 where
  bits : UInt64
  deriving DecidableEq, Repr

namespace Binary64

def twoTo (n : Nat) : Nat := 1 <<< n

def tenTo (n : Nat) : Nat := Nat.pow 10 n

def infinityBits : Nat := 0x7FF * twoTo 52

def ofSign (negative : Bool) (magnitude : Nat) : Binary64 :=
  ⟨UInt64.ofNat (if negative then twoTo 63 + magnitude else magnitude)⟩

def infinity (negative : Bool) : Binary64 := ofSign negative infinityBits

def nan (negative : Bool) : Binary64 := ofSign negative (infinityBits + twoTo 51)

def roundEven (num den : Nat) : Nat :=
  let quotient := num / den
  let twice := 2 * (num % den)
  if twice < den then quotient
  else if twice = den then quotient + quotient % 2
  else quotient + 1

/-- The 63 bits of the double nearest to a positive quotient. The significand has 53 bits unless the
exponent is at its least; a significand rounded up to 2⁵³ carries into the exponent, and anything
past the largest double is infinity. -/
def magnitudeOfRatio (num den : Nat) : Nat :=
  let scaled (q : Int) : Nat × Nat := (num * twoTo (-q).toNat, den * twoTo q.toNat)
  let guess : Int := (num.log2 : Int) - (den.log2 : Int) - 52
  let q := if (scaled guess).1 < (scaled guess).2 * twoTo 52 then guess - 1 else guess
  let q := max q (-1074)
  min ((q + 1074).toNat * twoTo 52 + roundEven (scaled q).1 (scaled q).2) infinityBits

def ofDecimal (negative : Bool) (digits : Nat) (exponent : Int) : Binary64 :=
  let size : Int := (Nat.toDigits 10 digits).length + exponent
  if digits = 0 ∨ size < -400 then ofSign negative 0
  else if 400 < size then infinity negative
  else ofSign negative (magnitudeOfRatio (digits * tenTo exponent.toNat) (tenTo (-exponent).toNat))

def isNegative (x : Binary64) : Bool := twoTo 63 ≤ x.bits.toNat

def magnitude (x : Binary64) : Nat := x.bits.toNat % twoTo 63

/-- Significand and exponent of a finite number: its absolute value is `s · 2 ^ q`. -/
def parts (x : Binary64) : Nat × Int :=
  let exponent : Nat := x.magnitude / twoTo 52
  let fraction := x.magnitude % twoTo 52
  if exponent = 0 then (fraction, -1074) else (fraction + twoTo 52, (exponent : Int) - 1075)

/-- Which of two neighbours a number half way between them goes to. -/
inductive Tie where
  | greater
  | even
  deriving DecidableEq, Repr

/-- Whether the lower neighbour `below` stands for a number that is `rest / step` above it. -/
def Tie.keepsBelow (tie : Tie) (below rest step : Nat) : Bool :=
  match tie with
  | greater => 2 * rest < step
  | even => 2 * rest < step || (2 * rest = step && below % 2 = 0)

/-- On the grid of multiples of `10 ^ j`, the neighbour of `s · 2 ^ q` that rounds to it, the nearer
one if both do. The numbers that round to it reach half way to the next double on either side,
ends included if the significand is even. -/
def onGrid? (tie : Tie) (s : Nat) (q j : Int) : Option Nat :=
  let unit := twoTo (q - 2).toNat * tenTo (-j).toNat
  let step := twoTo (2 - q).toNat * tenTo j.toNat
  let least := (4 * s - (if s = twoTo 52 ∧ -1074 < q then 1 else 2)) * unit
  let greatest := (4 * s + 2) * unit
  let reads (d : Nat) : Bool :=
    0 < d && (if s % 2 = 0 then least ≤ d * step && d * step ≤ greatest
      else least < d * step && d * step < greatest)
  let below := 4 * s * unit / step
  match reads below, reads (below + 1) with
  | true, true =>
    some (if tie.keepsBelow below (4 * s * unit % step) step then below else below + 1)
  | true, false => some below
  | false, true => some (below + 1)
  | false, false => none

def shortestFrom (tie : Tie) (s : Nat) (q : Int) : Nat → Int → Nat × Int
  | 0, j => (0, j)
  | tries + 1, j =>
    match onGrid? tie s q j with
    | some digits => (digits, j)
    | none => shortestFrom tie s q tries (j - 1)

/-- The fewest digits that read back as a positive finite number, and the power of ten they
are multiplied by. -/
def shortest (tie : Tie) (x : Binary64) : Nat × Int := shortestFrom tie x.parts.1 x.parts.2 700 309

/-- Digits times a power of ten in positional notation, with at least one digit on either side of
the point. -/
def positional (digits : Nat) (exponent : Int) : String :=
  let shown := Nat.toDigits 10 digits
  match exponent with
  | .ofNat zeros => String.ofList (shown ++ List.replicate zeros '0') ++ ".0"
  | .negSucc less =>
    let places := less + 1
    let shown := List.replicate (places + 1 - shown.length) '0' ++ shown
    let whole := shown.length - places
    String.ofList (shown.take whole) ++ "." ++ String.ofList (shown.drop whole)

/-- Digits times a power of ten with one digit before the point, and the exponent with its sign;
no point stands behind a single digit. -/
def scientific (digits : Nat) (exponent : Int) : String :=
  let shown := Nat.toDigits 10 digits
  let fraction := if shown.tail.isEmpty then "" else "." ++ String.ofList shown.tail
  let power : Int := exponent + shown.tail.length
  String.ofList (shown.take 1) ++ fraction ++ "e" ++ (if power < 0 then "" else "+") ++
    toString power

def written (finite : Binary64 → String) (x : Binary64) : String :=
  if infinityBits < x.magnitude then "NaN"
  else (if x.isNegative then "-" else "") ++
    if x.magnitude = infinityBits then "inf"
    else if x.magnitude = 0 then "0.0"
    else finite x

/-- A number in positional notation; of two decimals equally near, the greater in absolute value. -/
def text : Binary64 → String :=
  written fun x => positional (x.shortest .greater).1 (x.shortest .greater).2

/-- A number in positional notation if it has at most 16 digits before the point and at most four
zeros behind it, and else with an exponent; of two decimals equally near, the even one. -/
def compactText : Binary64 → String :=
  written fun x =>
    let (digits, exponent) := x.shortest .even
    let whole : Int := (Nat.toDigits 10 digits).length + exponent
    if -5 < whole ∧ whole ≤ 16 then positional digits exponent else scientific digits exponent

end Binary64

end PriorityPortal
