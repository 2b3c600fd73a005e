import PriorityPortal.Toml.Quoted
/-!
# Writing

A document of tables that hold strings and truth values is written table by table. A string gets
the plainest quotes that it needs no escapes for.
-/
namespace PriorityPortal.Toml

inductive Style where
  | basic
  | literal
  | basicLines
  | literalLines
  deriving DecidableEq, Repr

def needsCode (c : Char) : Bool :=
  c ≠ '\t' && c ≠ '\n' && (c.toNat < 0x20 || c.toNat = 0x7F)

def longestRun (q : Char) (cs : List Char) : Nat :=
  (cs.foldl (fun (run, longest) c =>
    let run := if c = q then run + 1 else 0
    (run, max longest run)) (0, 0)).2

def Style.of (cs : List Char) : Style :=
  let codes := cs.any needsCode
  let lines := cs.contains '\n'
  let backslash := cs.contains '\\'
  if !codes ∧ !lines ∧ !backslash ∧ !cs.contains '"' then .basic
  else if !codes ∧ !lines ∧ !cs.contains '\'' then .literal
  else if !codes ∧ !backslash ∧ longestRun '"' cs ≤ 2 then .basicLines
  else if !codes ∧ longestRun '\'' cs ≤ 2 then .literalLines
  else if lines then .basicLines
  else .basic

def fourDigits (n : Nat) : List Char :=
  [12, 8, 4, 0].map fun shift => (Nat.digitChar ((n >>> shift) % 16)).toUpper

/-- The escape of a character other than the quote, if it has one. A line feed is escaped on a
single line only. -/
def escape? (manyLines : Bool) (c : Char) : Option (List Char) :=
  if c = '\x08' then some ['\\', 'b']
  else if c = '\t' then some ['\\', 't']
  else if c = '\n' then if manyLines then none else some ['\\', 'n']
  else if c = '\x0c' then some ['\\', 'f']
  else if c = '\r' then some ['\\', 'r']
  else if c = '\\' then some ['\\', '\\']
  else if c.toNat < 0x20 ∨ c.toNat = 0x7F then some ('\\' :: 'u' :: fourDigits c.toNat)
  else none

/-- A string with its escapes; of quotes in a row no more than `most` stand without one, and `run`
of them stand just before. -/
def escapeFrom (manyLines : Bool) (most run : Nat) : List Char → List Char
  | [] => []
  | c :: rest =>
    if c = '"' then
      if run < most then c :: escapeFrom manyLines most (run + 1) rest
      else '\\' :: '"' :: escapeFrom manyLines most 0 rest
    else match escape? manyLines c with
      | some escaped => escaped ++ escapeFrom manyLines most 0 rest
      | none => c :: escapeFrom manyLines most 0 rest

def lead (cs : List Char) : List Char := if cs.contains '\n' then ['\n'] else []

def write (cs : List Char) : List Char :=
  match Style.of cs with
  | .basic => ['"'] ++ escapeFrom false 0 0 cs ++ ['"']
  | .literal => ['\''] ++ cs ++ ['\'']
  | .basicLines => ['"', '"', '"'] ++ lead cs ++ escapeFrom true 2 0 cs ++ ['"', '"', '"']
  | .literalLines => ['\'', '\'', '\''] ++ lead cs ++ cs ++ ['\'', '\'', '\'']

inductive Leaf where
  | string (s : String)
  | boolean (b : Bool)
  deriving DecidableEq, Repr

def Leaf.text : Leaf → List Char
  | string s => write s.toList
  | boolean b => (toString b).toList

structure Block where
  name : String
  entries : List (String × Leaf)
  deriving DecidableEq, Repr

def Block.text (block : Block) : List Char :=
  '[' :: block.name.toList ++ [']', '\n'] ++
    block.entries.flatMap fun (name, leaf) =>
      name.toList ++ [' ', '=', ' '] ++ leaf.text ++ ['\n']

def writeBlocks (blocks : List Block) : String :=
  String.ofList (['\n'].intercalate (blocks.map Block.text))

end PriorityPortal.Toml
