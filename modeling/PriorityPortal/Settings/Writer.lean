import PriorityPortal.Settings.Basic
import PriorityPortal.Toml.Writer
/-!
# Settings as a document
-/
namespace PriorityPortal.Settings

open Toml (Block Leaf)

def blocks (s : Settings) : List Block :=
  let address (a : Option String) : List (String × Leaf) :=
    a.toList.map fun a => ("bus_address", .string a)
  [⟨"portal",
    [("object_path", .string s.portal.objectPath), ("bus_name", .string s.portal.busName),
     ("request_name", .boolean s.portal.requestName)] ++ address s.portal.busAddress⟩,
   ⟨"realtimekit",
    [("service", .string s.kit.service), ("object_path", .string s.kit.objectPath),
     ("interface", .string s.kit.interface),
     ("high_priority_routing", .string s.kit.routing.text)] ++ address s.kit.busAddress⟩,
   ⟨"sandbox", [("proc_root", .string s.sandbox.procRoot)]⟩,
   ⟨"logging", [("filter", .string s.logging.filter)]⟩]

def text (s : Settings) : String := Toml.writeBlocks s.blocks

end PriorityPortal.Settings
