import PriorityPortal.Text.Blank
import PriorityPortal.Text.Decimal
import PriorityPortal.Text.Hex
import PriorityPortal.Toml.Value
/-!
# Numbers, truth values and dates

The values that are written as one word, without quotes or brackets. A date and a time may also be
written as two words.
-/
namespace PriorityPortal.Toml

def isWordChar (c : Char) : Bool :=
  c.isAlphanum || c == '_' || c == '-' || c == '+' || c == '.' || c == ':'

/-- The value of digits in a base below 17, with single underscores between them or not. -/
def digitRun? (base : Nat) (cs : List Char) : Option (List Nat) :=
  let runs := Text.splitBy (· == '_') cs
  if runs.any List.isEmpty then none
  else (runs.flatten.mapM Text.hexDigit?).filter fun digits => digits.all (· < base)

def whole? (cs : List Char) : Option Nat :=
  if cs.head? = some '0' ∧ cs ≠ ['0'] then none else (digitRun? 10 cs).map (Text.ofDigits 10)

/-- Splits a sign off; `true` is a minus. -/
def signed : List Char → Bool × List Char
  | '-' :: cs => (true, cs)
  | '+' :: cs => (false, cs)
  | cs => (false, cs)

def integer? (n : Int) : Option Value :=
  if Int64.minValue.toInt ≤ n ∧ n ≤ Int64.maxValue.toInt then some (.integer (Int64.ofInt n))
  else none

def readInteger? : List Char → Option Value
  | '0' :: 'x' :: cs => (digitRun? 16 cs).bind fun digits => integer? (Text.ofDigits 16 digits)
  | '0' :: 'o' :: cs => (digitRun? 8 cs).bind fun digits => integer? (Text.ofDigits 8 digits)
  | '0' :: 'b' :: cs => (digitRun? 2 cs).bind fun digits => integer? (Text.ofDigits 2 digits)
  | cs =>
    let (negative, cs) := signed cs
    (whole? cs).bind fun n => integer? (if negative then -n else n)

def partAt (p : Char → Bool) (cs : List Char) : List Char × Option (List Char) :=
  (cs.takeWhile (!p ·), (cs.dropWhile (!p ·)).tail?)

def exponent? (cs : List Char) : Option Int :=
  let (negative, cs) := signed cs
  (digitRun? 10 cs).map fun digits =>
    let n : Int := Text.ofDigits 10 digits
    if negative then -n else n

/-- A number with a fraction, an exponent or both. One that is too great is refused, while one too
far below zero is negative infinity. -/
def readFloat? (cs : List Char) : Option Value := do
  let (negative, cs) := signed cs
  if cs = "inf".toList then return .float (.infinity negative)
  if cs = "nan".toList then return .float (.nan negative)
  let (mantissa, exponent) := partAt (fun c => c == 'e' || c == 'E') cs
  let (before, behind) := partAt (· == '.') mantissa
  if exponent.isNone ∧ behind.isNone then none
  let n ← whole? before
  let places ← match behind with
    | none => some []
    | some cs => digitRun? 10 cs
  let power ← match exponent with
    | none => some 0
    | some cs => exponent? cs
  let digits := places.foldl (fun n digit => 10 * n + digit) n
  let x := Binary64.ofDecimal negative digits (power - places.length)
  if x = .infinity false then none
  return .float x

def fixedDigits? (count : Nat) (cs : List Char) : Option Nat :=
  if cs.length = count then Text.digits? cs else none

def daysIn (year month : Nat) : Nat :=
  if month = 2 then
    if year % 4 = 0 ∧ (year % 100 ≠ 0 ∨ year % 400 = 0) then 29 else 28
  else if month = 4 ∨ month = 6 ∨ month = 9 ∨ month = 11 then 30
  else 31

def isDate (cs : List Char) : Bool :=
  match (Text.splitBy (· == '-') cs) with
  | [year, month, day] =>
    match fixedDigits? 4 year, fixedDigits? 2 month, fixedDigits? 2 day with
    | some year, some month, some day =>
      1 ≤ month && month ≤ 12 && 1 ≤ day && day ≤ daysIn year month
    | _, _, _ => false
  | _ => false

def isClock (cs : List Char) : Bool :=
  match (Text.splitBy (· == ':') cs).map (fixedDigits? 2) with
  | [some hour, some minute] => hour ≤ 23 && minute ≤ 59
  | _ => false

def isTime (cs : List Char) : Bool :=
  let (time, fraction) := partAt (· == '.') cs
  let second := time.drop 6
  isClock (time.take 5) && time[5]? == some ':' && (fixedDigits? 2 second).any (· ≤ 60) &&
    (match fraction with
      | none => true
      | some digits => (Text.digits? digits).isSome)

def isTimeWithOffset (cs : List Char) : Bool :=
  let (time, offset) := partAt (fun c => c == '+' || c == '-') cs
  match offset, time.getLast? with
  | some offset, _ => isTime time && isClock offset
  | none, some 'Z' | none, some 'z' => isTime time.dropLast
  | none, _ => isTime time

def isDatetime (cs : List Char) : Bool :=
  isTime cs || isDate cs ||
    (isDate (cs.take 10) && (cs[10]? == some 'T' || cs[10]? == some 't') &&
      isTimeWithOffset (cs.drop 11))

def ofWord? (cs : List Char) : Option Value :=
  if cs = "true".toList then some (.boolean true)
  else if cs = "false".toList then some (.boolean false)
  else if isDatetime cs then some (.datetime (String.ofList cs))
  else (readInteger? cs).orElse fun _ => readFloat? cs

def timeAfter (date cs : List Char) : Option (Value × List Char) :=
  let time := cs.takeWhile isWordChar
  if isTimeWithOffset time then
    some (.datetime (String.ofList (date ++ ' ' :: time)), cs.dropWhile isWordChar)
  else none

def word (cs : List Char) : Option (Value × List Char) :=
  let first := cs.takeWhile isWordChar
  let rest := cs.dropWhile isWordChar
  let alone := (ofWord? first).map fun value => (value, rest)
  match rest with
  | ' ' :: c :: more => if isDate first ∧ c.isDigit then timeAfter first (c :: more) else alone
  | _ => alone

end PriorityPortal.Toml
