import PriorityPortal.Pattern.Basic
import PriorityPortal.Text.Decimal
/-!
# Log filters

A filter is a list of directives with commas between them. A directive is a level, or a target with
a span and its field in brackets, any of which may be left out, and then a level behind an equals
sign or not.
-/
namespace PriorityPortal.CommandLine.LogFilter

inductive State where
  | start
  /-- A level or a target. -/
  | word
  | span
  | field (place : Nat)
  /-- Behind the field. -/
  | spanEnd
  /-- Behind the brackets. -/
  | target
  | level (place : Nat)
  deriving DecidableEq, Repr

def startsWord (c : Char) : Bool := c == '-' || c == ':' || c == '_' || Text.isAlphanumeric c

def isNumber (cs : List Char) : Bool :=
  let unsigned (cs : List Char) : List Char :=
    if cs.head? = some '+' ∨ cs.head? = some '-' then cs.tail else cs
  let isDigits (cs : List Char) : Bool := !cs.isEmpty && cs.all Char.isDigit
  let number := (unsigned cs).map Char.toLower
  let isExponent (c : Char) : Bool := c == 'e'
  let (whole, fraction) := match Text.splitBy (· == '.') (number.takeWhile (!isExponent ·)) with
    | [whole] => (whole, [])
    | [whole, fraction] => (whole, fraction)
    | _ => ([], [])
  ["inf", "infinity", "nan"].any (·.toList == number) ||
    (isDigits (whole ++ fraction) &&
      match number.dropWhile (!isExponent ·) with
      | [] => true
      | _ :: exponent => isDigits (unsigned exponent))

/-- Whether a text is a field: a name, and behind an equals sign or not a number or a pattern. What
stands behind another equals sign does not matter. -/
def isField (cs : List Char) : Bool :=
  !cs.isEmpty &&
    match Text.splitBy (· == '=') cs with
    | _ :: value :: _ => isNumber value || Pattern.isPattern value
    | _ => true

def State.next (directive : List Char) (i : Nat) (c : Char) : State → Option State
  | start => if c = '[' then some span else if startsWord c then some word else none
  | word => some (if c = '=' then level (i + 1) else if c = '[' then span else word)
  | span => some (if c = ']' then target else if c = '\x7b' then field (i + 1) else span)
  | field place =>
    if c ≠ '\x7d' then some (field place)
    else if isField ((directive.take i).drop place) then some spanEnd
    else none
  | spanEnd => if c = ']' then some target else none
  | target => if c = '=' then some (level (i + 1)) else none
  | level place => some (level place)

def levels : List String := ["off", "error", "warn", "info", "debug", "trace"]

def isLevel (cs : List Char) : Bool :=
  cs.isEmpty || (Text.natural? cs).any (· ≤ 5) ||
    levels.any fun name => name.toList == cs.map Char.toLower

/-- Whether a directive can be read. The places that are found in the directive without the blanks
around it are counted from its very start. -/
def isDirective (cs : List Char) : Bool :=
  match (Text.trim cs).zipIdx.foldlM (fun state (c, i) => state.next cs i c) State.start with
  | some .word | some .target => true
  | some (.level place) => isLevel (cs.drop place)
  | _ => false

def isFilter (filter : String) : Bool :=
  (Text.splitBy (· == ',') filter.toList).all fun cs => cs.isEmpty || isDirective cs

/-- Whether there is a filter: the one from outside, or else the one to fall back on. -/
def isUsable (outside : Option String) (fallback : String) : Bool :=
  outside.any isFilter || isFilter fallback

end PriorityPortal.CommandLine.LogFilter
