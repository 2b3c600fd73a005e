import PriorityPortal.Text.Lines
/-!
# Keyfiles

A keyfile has groups, each under a header in brackets, of entries with a key and a value. Blank
lines and lines that start with `#` mean nothing, and neither does white space around a line.
-/
namespace PriorityPortal.Keyfile

inductive Line where
  | header (group : List Char)
  | entry (key value : List Char)
  | other
  deriving DecidableEq, Repr

def header? (line : List Char) : Option (List Char) :=
  match line with
  | '[' :: rest => if rest.getLast? = some ']' then some rest.dropLast else none
  | _ => none

def Line.ofTrimmed (line : List Char) : Line :=
  if line.head? = some '#' then .other
  else match header? line with
    | some group => .header group
    | none =>
      match line.dropWhile (· != '=') with
      | [] => .other
      | _ :: value => .entry (Text.trim (line.takeWhile (· != '='))) (Text.trim value)

def lines (text : String) : List Line :=
  (Text.lines text.toList).map fun line => Line.ofTrimmed (Text.trim line)

/-- The value of the first entry in a group of the given name that has the given key and a value
that is not empty; `inside` says whether the lines start in such a group. -/
def value? (group key : List Char) (inside : Bool) : List Line → Option (List Char)
  | [] => none
  | .header found :: rest => value? group key (found == group) rest
  | .entry found value :: rest =>
    if inside && found == key && !value.isEmpty then some value else value? group key inside rest
  | .other :: rest => value? group key inside rest

def applicationName? (text : String) : Option String :=
  (value? "Application".toList "name".toList false (lines text)).map String.ofList

end PriorityPortal.Keyfile
