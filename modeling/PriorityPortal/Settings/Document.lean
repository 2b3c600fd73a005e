import PriorityPortal.File.Tree
import PriorityPortal.Settings.Validation
import PriorityPortal.Toml.Document
/-!
# Settings from a document

A document gives settings by section and name; what it leaves out keeps its default, and what it
holds beyond the settings does not count. A section may also be given as a list of its settings in
order. The first value of a wrong type, in the order of the document, is the one reported.
-/
namespace PriorityPortal

abbrev FromDocument (α : Type) := Except DocumentFault α

/-- The shape of a value. Dates and times count as tables. -/
def Toml.Value.shape : Toml.Value → Shape
  | .string s => .string s
  | .integer n => .integer n
  | .float x => .float x
  | .boolean b => .boolean b
  | .datetime _ => .map
  | .array _ => .sequence
  | .table _ => .map

namespace Settings

def readString : Toml.Value → FromDocument String
  | .string s => .ok s
  | v => .error (.unexpected v.shape .string)

def readBoolean : Toml.Value → FromDocument Bool
  | .boolean b => .ok b
  | v => .error (.unexpected v.shape .boolean)

def readFilePath : Toml.Value → FromDocument String
  | .string s => .ok s
  | v => .error (.unexpected v.shape .path)

def routingOf (name : String) : FromDocument Routing :=
  match Routing.ofText? name with
  | some routing => .ok routing
  | none => .error (.unknownRouting name)

/-- Reads a routing: its name, or a table of that name alone with nothing in it. -/
def readRouting : Toml.Value → FromDocument Routing
  | .string name => routingOf name
  | .table [(name, v)] => do
    let routing ← routingOf name
    match v with
    | .table [] | .array [] => .ok routing
    | _ => .error .routingTable
  | .table _ => .error .routingTable
  | _ => .error .routingShape

/-- Reads a section into the defaults of its settings by `set`, which gives one setting by name;
`names` are the names in order. -/
def readSection {σ : Type} (place : Section) (names : List String)
    (set : σ → String → Toml.Value → FromDocument σ) (unset : σ) : Toml.Value → FromDocument σ
  | .table entries => entries.foldlM (fun s (name, v) => set s name v) unset
  | .array items => (names.zip items).foldlM (fun s (name, v) => set s name v) unset
  | .datetime _ => .ok unset
  | v => .error (.unexpected v.shape (.fields place))

end Settings

namespace PortalSettings

def names : List String := ["object_path", "bus_name", "request_name", "bus_address"]

def set (s : PortalSettings) (name : String) (v : Toml.Value) : FromDocument PortalSettings :=
  match name with
  | "object_path" => (Settings.readString v).map fun path => { s with objectPath := path }
  | "bus_name" => (Settings.readString v).map fun name => { s with busName := name }
  | "request_name" => (Settings.readBoolean v).map fun b => { s with requestName := b }
  | "bus_address" => (Settings.readString v).map fun a => { s with busAddress := some a }
  | _ => .ok s

end PortalSettings

namespace KitSettings

def names : List String :=
  ["service", "object_path", "interface", "high_priority_routing", "bus_address"]

def set (s : KitSettings) (name : String) (v : Toml.Value) : FromDocument KitSettings :=
  match name with
  | "service" => (Settings.readString v).map fun name => { s with service := name }
  | "object_path" => (Settings.readString v).map fun path => { s with objectPath := path }
  | "interface" => (Settings.readString v).map fun name => { s with interface := name }
  | "high_priority_routing" => (Settings.readRouting v).map fun r => { s with routing := r }
  | "bus_address" => (Settings.readString v).map fun a => { s with busAddress := some a }
  | _ => .ok s

end KitSettings

namespace SandboxSettings

def names : List String := ["proc_root"]

def set (s : SandboxSettings) (name : String) (v : Toml.Value) : FromDocument SandboxSettings :=
  match name with
  | "proc_root" => (Settings.readFilePath v).map fun path => { s with procRoot := path }
  | _ => .ok s

end SandboxSettings

namespace LoggingSettings

def names : List String := ["filter"]

def set (s : LoggingSettings) (name : String) (v : Toml.Value) : FromDocument LoggingSettings :=
  match name with
  | "filter" => (Settings.readString v).map fun filter => { s with filter := filter }
  | _ => .ok s

end LoggingSettings

namespace Settings

def set (s : Settings) (name : String) (v : Toml.Value) : FromDocument Settings :=
  match name with
  | "portal" =>
    (readSection .portal PortalSettings.names PortalSettings.set .unset v).map fun portal =>
      { s with portal := portal }
  | "realtimekit" =>
    (readSection .realtimekit KitSettings.names KitSettings.set .unset v).map fun kit =>
      { s with kit := kit }
  | "sandbox" =>
    (readSection .sandbox SandboxSettings.names SandboxSettings.set .unset v).map fun sandbox =>
      { s with sandbox := sandbox }
  | "logging" =>
    (readSection .logging LoggingSettings.names LoggingSettings.set .unset v).map fun logging =>
      { s with logging := logging }
  | _ => .ok s

def ofTable (document : Toml.Table) : FromDocument Settings :=
  document.foldlM (fun s (name, v) => s.set name v) .standard

def ofDocument (document : Toml.Table) : Except SettingsError Settings :=
  match ofTable document with
  | .error fault => .error (.document fault)
  | .ok s => s.validate.map fun _ => s

theorem ofDocument_ok_iff {document : Toml.Table} {s : Settings} :
    ofDocument document = .ok s ↔ ofTable document = .ok s ∧ s.validate = .ok () := by
  unfold ofDocument
  cases ofTable document with
  | error fault => simp
  | ok given =>
    simp only [Except.ok.injEq]
    cases hvalid : given.validate with
    | error e =>
      refine ⟨fun h => (nomatch h), ?_⟩
      rintro ⟨rfl, hs⟩
      cases hvalid.symm.trans hs
    | ok =>
      refine ⟨fun h => ?_, fun h => congrArg _ h.1⟩
      obtain rfl := Except.ok.inj h
      exact ⟨rfl, hvalid⟩

def parse (text : String) : Except SettingsError Settings :=
  match Toml.parse? text with
  | none => .error (.document .malformed)
  | some document => ofDocument document

def ofFile : Except IoError String → Except SettingsError Settings
  | .error e => .error (.unreadable e)
  | .ok text => parse text

def load (tree : FileTree) (path : String) : Except SettingsError Settings :=
  ofFile (tree.readPath path)

end Settings

end PriorityPortal
