import PriorityPortal.Toml.Value
/-!
# Tables under construction

While a document is read its tables grow, and how a table came to be decides what may still be put
into it: a dotted key goes only through tables that dotted keys or the headers of tables below
have made, and ends only in one that dotted keys have made.
-/
namespace PriorityPortal.Toml

inductive Made where
  | byHeader
  /-- On the way to a table that a header names. -/
  | onTheWay
  | byDots
  deriving DecidableEq, Repr

inductive Node where
  | value (v : Value)
  | table (made : Made) (entries : List (String × Node))
  | rows (rows : List (List (String × Node)))
  deriving Repr

abbrev Nodes := List (String × Node)

namespace Nodes

def replace (nodes : Nodes) (name : String) (node : Node) : Nodes :=
  nodes.map fun entry => if entry.1 == name then (name, node) else entry

def put (name : String) (v : Value) : List String → Nodes → Option Nodes
  | [], nodes =>
    match nodes.lookup name with
    | none => some (nodes ++ [(name, .value v)])
    | some _ => none
  | part :: path, nodes =>
    match nodes.lookup part with
    | none => (put name v path []).map fun below => nodes ++ [(part, .table .byDots below)]
    | some (.table made below) =>
      if made = .byHeader ∨ (path.isEmpty ∧ made ≠ .byDots) then none
      else (put name v path below).map fun below => nodes.replace part (.table made below)
    | some (.rows rows) =>
      if path.isEmpty then none
      else (put name v path (rows.getLast?.getD [])).map fun last =>
        nodes.replace part (.rows (rows.dropLast ++ [last]))
    | some (.value _) => none

/-- Changes the table that the parts of a header lead to. Tables are made on the way, and of an
array of tables the last row is meant. -/
def change (f : Nodes → Option Nodes) : List String → Nodes → Option Nodes
  | [], nodes => f nodes
  | part :: path, nodes =>
    match nodes.lookup part with
    | none => (change f path []).map fun below => nodes ++ [(part, .table .onTheWay below)]
    | some (.table made below) =>
      (change f path below).map fun below => nodes.replace part (.table made below)
    | some (.rows rows) =>
      (change f path (rows.getLast?.getD [])).map fun last =>
        nodes.replace part (.rows (rows.dropLast ++ [last]))
    | some (.value _) => none

/-- Opens a table under a name and fills it. Only a table made on the way may be opened, and it
becomes the last. -/
def openTable (name : String) (fill : Nodes → Option Nodes) (nodes : Nodes) : Option Nodes :=
  let others := nodes.filter (·.1 != name)
  match nodes.lookup name with
  | none => (fill []).map fun below => others ++ [(name, .table .byHeader below)]
  | some (.table .onTheWay below) =>
    (fill below).map fun below => others ++ [(name, .table .byHeader below)]
  | some _ => none

def openRow (name : String) (fill : Nodes → Option Nodes) (nodes : Nodes) : Option Nodes :=
  match nodes.lookup name with
  | none => (fill []).map fun row => nodes ++ [(name, .rows [row])]
  | some (.rows rows) => (fill []).map fun row => nodes.replace name (.rows (rows ++ [row]))
  | some _ => none

mutual

def finishNode : Node → Value
  | .value v => v
  | .table _ entries => .table (finish entries)
  | .rows rows => .array (finishRows rows)

def finish : Nodes → Table
  | [] => []
  | (name, node) :: rest => (name, finishNode node) :: finish rest

def finishRows : List Nodes → List Value
  | [] => []
  | row :: rest => .table (finish row) :: finishRows rest

end

end Nodes

end PriorityPortal.Toml
