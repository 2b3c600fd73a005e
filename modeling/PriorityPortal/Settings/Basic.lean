import PriorityPortal.Routing
/-!
# Settings

What can be set, in sections, and the defaults of all settings.
-/
namespace PriorityPortal

structure PortalSettings where
  objectPath : String
  busName : String
  /-- Whether the portal asks the bus for its name. -/
  requestName : Bool
  /-- The bus that the portal is on, if it is not the session's. -/
  busAddress : Option String
  deriving DecidableEq, Repr

structure KitSettings where
  service : String
  objectPath : String
  interface : String
  routing : Routing
  /-- The bus that RealtimeKit is on, if it is not the system's. -/
  busAddress : Option String
  deriving DecidableEq, Repr

structure SandboxSettings where
  procRoot : String
  deriving DecidableEq, Repr

structure LoggingSettings where
  filter : String
  deriving DecidableEq, Repr

structure Settings where
  portal : PortalSettings
  kit : KitSettings
  sandbox : SandboxSettings
  logging : LoggingSettings
  deriving DecidableEq, Repr

def kitName : String := "org.freedesktop.RealtimeKit1"

def kitPath : String := "/org/freedesktop/RealtimeKit1"

def portalPath : String := "/org/freedesktop/portal/desktop"

def portalName : String := "org.freedesktop.portal.Desktop"

/-! A section that is given has a default for each setting that it leaves out; a section that is
not given has a default as a whole. -/

def PortalSettings.unset : PortalSettings where
  objectPath := portalPath
  busName := portalName
  requestName := true
  busAddress := none

def PortalSettings.standard : PortalSettings := ⟨portalPath, portalName, true, none⟩

def KitSettings.unset : KitSettings where
  service := kitName
  objectPath := kitPath
  interface := kitName
  routing := .native
  busAddress := none

def KitSettings.standard : KitSettings := ⟨kitName, kitPath, kitName, .native, none⟩

def SandboxSettings.unset : SandboxSettings where
  procRoot := "/proc"

def SandboxSettings.standard : SandboxSettings := ⟨"/proc"⟩

def LoggingSettings.unset : LoggingSettings where
  filter := "info"

def LoggingSettings.standard : LoggingSettings := ⟨"info"⟩

def Settings.standard : Settings := ⟨.standard, .standard, .standard, .standard⟩

theorem PortalSettings.unset_eq : unset = standard := rfl

theorem KitSettings.unset_eq : unset = standard := rfl

theorem SandboxSettings.unset_eq : unset = standard := rfl

theorem LoggingSettings.unset_eq : unset = standard := rfl

end PriorityPortal
