import PriorityPortal.Toml.Statement
/-!
# Documents

The statements of a document make up its table: each header opens a table for the pairs that
follow it, and the pairs before the first header belong to the document itself.
-/
namespace PriorityPortal.Toml

def sections (statements : List Statement) : List Pair × List (Header × List Pair) :=
  statements.foldr (fun statement (pairs, sections) =>
    match statement with
    | .pair p => (p :: pairs, sections)
    | .header h => ([], (h, pairs) :: sections)) ([], [])

def Nodes.attach (nodes : Nodes) (header : Header) (pairs : List Pair) : Option Nodes :=
  let opened := if header.row then Nodes.openRow header.name else Nodes.openTable header.name
  Nodes.change (opened (Nodes.putAll pairs)) header.path nodes

def ofStatements? (statements : List Statement) : Option Table := do
  let (pairs, sections) := sections statements
  let nodes ← Nodes.putAll pairs []
  let nodes ← sections.foldlM (fun nodes (header, pairs) => nodes.attach header pairs) nodes
  return nodes.finish

def parse? (text : String) : Option Table := (statements? text).bind ofStatements?

end PriorityPortal.Toml
