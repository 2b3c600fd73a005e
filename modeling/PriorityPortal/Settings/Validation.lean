import PriorityPortal.DBus.Name
import PriorityPortal.Settings.Basic
import PriorityPortal.Settings.Fault
import PriorityPortal.Text.Blank
/-!
# Validation

Settings are checked before they are used. The checks look for slips and are weaker than the rules
for names and paths.
-/
namespace PriorityPortal

abbrev Check := Except SettingsError Unit

def isPathChar (c : Char) : Bool := DBus.isLetterOrDigit c || c == '_' || c == '/'

/-- Checks an object path: it starts with a slash, does not end in one unless it is the root, and
has only letters, digits, underscores and slashes. -/
def checkPath (field : Field) (path : String) : Check :=
  let cs := path.toList
  if cs.head? ≠ some '/' then .error (.field field .notAbsolute)
  else if 1 < cs.length ∧ cs.getLast? = some '/' then .error (.field field .endsInSlash)
  else if !cs.all isPathChar then .error (.field field .strayCharacter)
  else .ok ()

def checkName (field : Field) (name : String) : Check :=
  let parts := Text.splitBy (· == '.') name.toList
  if name.isEmpty then .error (.field field .empty)
  else if parts.length < 2 ∨ parts.any List.isEmpty then .error (.field field .notDotted)
  else .ok ()

def PortalSettings.validate (s : PortalSettings) : Check := do
  checkPath .portalPath s.objectPath
  checkName .portalName s.busName

def KitSettings.validate (s : KitSettings) : Check := do
  checkName .kitService s.service
  checkPath .kitPath s.objectPath
  checkName .kitInterface s.interface

def SandboxSettings.validate (s : SandboxSettings) : Check :=
  if s.procRoot.isEmpty then .error (.field .procRoot .empty) else .ok ()

def Settings.validate (s : Settings) : Check := do
  s.portal.validate
  s.kit.validate
  s.sandbox.validate

end PriorityPortal
