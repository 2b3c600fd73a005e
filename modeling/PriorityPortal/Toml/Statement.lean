import PriorityPortal.Toml.Node
import PriorityPortal.Toml.Quoted
import PriorityPortal.Toml.Scalar
/-!
# Statements

A document is a series of statements, one on a line: a header opens a table, and a pair gives a
value to a key. Keys have parts with dots between them. Comments start with `#` and go to the end
of the line.
-/
namespace PriorityPortal.Toml

/-- A key with its value; `path` holds the parts of the key before the last. -/
structure Pair where
  path : List String
  name : String
  value : Value
  deriving Repr

structure Header where
  path : List String
  name : String
  row : Bool
  deriving DecidableEq, Repr

inductive Statement where
  | header (h : Header)
  | pair (p : Pair)
  deriving Repr

def Nodes.putAll (pairs : List Pair) (nodes : Nodes) : Option Nodes :=
  pairs.foldlM (fun nodes pair => nodes.put pair.name pair.value pair.path) nodes

def isBareChar (c : Char) : Bool := c.isAlphanum || c == '_' || c == '-'

def dropSpaces (cs : List Char) : List Char := cs.dropWhile isSpace

def dropComment : List Char → List Char
  | '#' :: rest => rest.dropWhile isPlain
  | cs => cs

def afterLine? (cs : List Char) : Option (List Char) :=
  match dropComment (dropSpaces cs) with
  | [] => some []
  | cs => afterLineEnd? cs

def keyPart (cs : List Char) : Read :=
  match cs with
  | '"' :: _ | '\'' :: _ => quotedLine cs
  | _ =>
    match cs.takeWhile isBareChar with
    | [] => none
    | part => some (part, cs.dropWhile isBareChar)

def keyParts : Nat → List Char → Option (List String × List Char)
  | 0, _ => none
  | most + 1, cs => do
    let (part, rest) ← keyPart (dropSpaces cs)
    match dropSpaces rest with
    | '.' :: rest =>
      let (parts, rest) ← keyParts most rest
      return (String.ofList part :: parts, rest)
    | rest => return ([String.ofList part], rest)

def greatestDepth : Nat := 79

def key (cs : List Char) : Option (List String × String × List Char) := do
  let (parts, rest) ← keyParts greatestDepth cs
  let last ← parts.getLast?
  return (parts.dropLast, last, rest)

def dropBlank : Nat → List Char → List Char
  | 0, cs => cs
  | fuel + 1, cs =>
    match dropComment (dropSpaces cs) with
    | [] => []
    | cs =>
      match afterLineEnd? cs with
      | some rest => dropBlank fuel rest
      | none => cs

mutual

/-- Reads a value. `fuel` bounds the steps, and `depth` how deep values may still stand within each
other. -/
def readValue : Nat → Nat → List Char → Option (Value × List Char)
  | 0, _, _ => none
  | fuel + 1, depth, cs =>
    match cs with
    | '"' :: _ | '\'' :: _ => (quoted cs).map fun (s, rest) => (.string (String.ofList s), rest)
    | '[' :: rest =>
      if depth = 0 then none
      else (readItems fuel (depth - 1) rest).map fun (items, rest) => (.array items, rest)
    | '\x7b' :: rest =>
      if depth = 0 then none
      else match dropSpaces rest with
        | '\x7d' :: rest => some (.table [], rest)
        | rest => do
          let (pairs, rest) ← readPairs fuel (depth - 1) rest
          let nodes ← Nodes.putAll pairs []
          return (.table (Nodes.finish nodes), rest)
    | _ => word cs

def readItems : Nat → Nat → List Char → Option (List Value × List Char)
  | 0, _, _ => none
  | fuel + 1, depth, cs =>
    match dropBlank cs.length cs with
    | ']' :: rest => some ([], rest)
    | cs => do
      let (item, rest) ← readValue fuel depth cs
      match dropBlank rest.length rest with
      | ',' :: rest =>
        let (items, rest) ← readItems fuel depth rest
        return (item :: items, rest)
      | ']' :: rest => return ([item], rest)
      | _ => none

def readPairs : Nat → Nat → List Char → Option (List Pair × List Char)
  | 0, _, _ => none
  | fuel + 1, depth, cs => do
    let (path, name, rest) ← key cs
    match rest with
    | '=' :: rest =>
      let (value, rest) ← readValue fuel depth (dropSpaces rest)
      match dropSpaces rest with
      | ',' :: rest =>
        let (pairs, rest) ← readPairs fuel depth rest
        return (⟨path, name, value⟩ :: pairs, rest)
      | '\x7d' :: rest => return ([⟨path, name, value⟩], rest)
      | _ => none
    | _ => none

end

def readHeader (row : Bool) (cs : List Char) : Option (Statement × List Char) := do
  let (path, name, rest) ← key cs
  match row, rest with
  | false, ']' :: rest => return (.header ⟨path, name, false⟩, rest)
  | true, ']' :: ']' :: rest => return (.header ⟨path, name, true⟩, rest)
  | _, _ => none

def readPair (cs : List Char) : Option (Statement × List Char) := do
  let (path, name, rest) ← key cs
  match rest with
  | '=' :: rest =>
    let (value, rest) ← readValue (2 * rest.length + 2) greatestDepth (dropSpaces rest)
    return (.pair ⟨path, name, value⟩, rest)
  | _ => none

def readStatement : List Char → Option (Statement × List Char)
  | '[' :: '[' :: rest => readHeader true rest
  | '[' :: rest => readHeader false rest
  | cs => readPair cs

def readStatements : Nat → List Char → Option (List Statement)
  | 0, _ => none
  | lines + 1, cs =>
    match dropComment (dropSpaces cs) with
    | [] => some []
    | start =>
      match afterLineEnd? start with
      | some rest => readStatements lines rest
      | none => do
        let (statement, rest) ← readStatement (dropSpaces cs)
        let rest ← afterLine? rest
        let statements ← readStatements lines rest
        return statement :: statements

/-- Reads the statements of a text. A byte order mark at its start does not count. -/
def statements? (text : String) : Option (List Statement) :=
  match text.toList with
  | '\uFEFF' :: cs => readStatements (cs.length + 1) cs
  | cs => readStatements (cs.length + 1) cs

end PriorityPortal.Toml
