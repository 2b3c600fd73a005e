import PriorityPortal.File.Fault
import PriorityPortal.Number.Binary64
import PriorityPortal.Text.Quoted
/-!
# What can be wrong with settings

Settings cannot be read, are no well-formed document, hold a value of the wrong type, or hold a
name or path that cannot be used.
-/
namespace PriorityPortal

inductive Section where
  | portal
  | realtimekit
  | sandbox
  | logging
  deriving DecidableEq, Repr

def Section.typeName : Section → String
  | portal => "ExportConfig"
  | realtimekit => "RealtimeKitConfig"
  | sandbox => "SandboxConfig"
  | logging => "LoggingConfig"

inductive Shape where
  | integer (n : Int64)
  | boolean (b : Bool)
  | float (x : Binary64)
  | string (s : String)
  | sequence
  | map
  deriving DecidableEq, Repr

def Shape.text : Shape → String
  | integer n => s!"integer `{n}`"
  | boolean b => s!"boolean `{b}`"
  | float x => "floating point `" ++ x.text ++ "`"
  | string s => "string " ++ Text.quoted s
  | sequence => "sequence"
  | map => "map"

inductive Wanted where
  | string
  | boolean
  | path
  | fields (s : Section)
  deriving DecidableEq, Repr

def Wanted.text : Wanted → String
  | string => "a string"
  | boolean => "a boolean"
  | path => "path string"
  | fields s => "struct " ++ s.typeName

inductive DocumentFault where
  /-- The text is no document of the format. -/
  | malformed
  | unexpected (found : Shape) (wanted : Wanted)
  | unknownRouting (name : String)
  /-- A routing that is neither a string nor a table. -/
  | routingShape
  /-- A routing that is a table, but not of one known name without a value. -/
  | routingTable
  deriving DecidableEq, Repr

def DocumentFault.detail? : DocumentFault → Option String
  | malformed => none
  | unexpected found wanted => some ("invalid type: " ++ found.text ++ ", expected " ++ wanted.text)
  | unknownRouting name => some ("unknown variant `" ++ name ++ "`, expected `native` or `legacy`")
  | routingShape => some "wanted string or table"
  | routingTable => none

inductive Field where
  | portalPath
  | portalName
  | kitService
  | kitPath
  | kitInterface
  | procRoot
  deriving DecidableEq, Repr

def Field.name : Field → String
  | portalPath => "portal.object_path"
  | portalName => "portal.bus_name"
  | kitService => "realtimekit.service"
  | kitPath => "realtimekit.object_path"
  | kitInterface => "realtimekit.interface"
  | procRoot => "sandbox.proc_root"

inductive FieldFault where
  | notAbsolute
  | endsInSlash
  | strayCharacter
  | empty
  | notDotted
  deriving DecidableEq, Repr

def FieldFault.text : FieldFault → String
  | notAbsolute => "must be an absolute object path"
  | endsInSlash => "must not end with '/'"
  | strayCharacter => "may contain only [A-Za-z0-9_/]"
  | empty => "cannot be empty"
  | notDotted => "must be a dotted name"

inductive SettingsError where
  | unreadable (e : IoError)
  | document (fault : DocumentFault)
  | field (place : Field) (fault : FieldFault)
  /-- Any other reason, in words. -/
  | other (text : String)
  deriving DecidableEq, Repr

namespace SettingsError

def message : SettingsError → String
  | unreadable e => "failed to read config: " ++ e.message
  | document _ => "failed to parse config"
  | field place fault => place.name ++ " " ++ fault.text
  | other text => text

def detail? : SettingsError → Option String
  | document fault => fault.detail?
  | _ => none

end SettingsError

end PriorityPortal
