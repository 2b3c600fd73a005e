/-!
# Standard errors

The errors that every D-Bus peer knows.
-/
namespace PriorityPortal.DBus

def standardStem : String := "org.freedesktop.DBus.Error."

def standardEnds : List String :=
  ["Failed", "NoMemory", "ServiceUnknown", "NameHasNoOwner", "NoReply", "IOError", "BadAddress",
   "NotSupported", "LimitsExceeded", "AccessDenied", "AuthFailed", "NoServer", "Timeout",
   "NoNetwork", "AddressInUse", "Disconnected", "InvalidArgs", "FileNotFound", "FileExists",
   "UnknownMethod", "UnknownObject", "UnknownInterface", "UnknownProperty", "PropertyReadOnly",
   "TimedOut", "MatchRuleNotFound", "MatchRuleInvalid", "Spawn.ExecFailed", "Spawn.ForkFailed",
   "Spawn.ChildExited", "Spawn.ChildSignaled", "Spawn.Failed", "Spawn.FailedToSetup",
   "Spawn.ConfigInvalid", "Spawn.ServiceNotValid", "Spawn.ServiceNotFound",
   "Spawn.PermissionsInvalid", "Spawn.FileInvalid", "Spawn.NoMemory", "UnixProcessIdUnknown",
   "InvalidSignature", "InvalidFileContent", "SELinuxSecurityContextUnknown",
   "AdtAuditDataUnknown", "ObjectPathInUse", "InconsistentMessage",
   "InteractiveAuthorizationRequired", "NotContainer"]

def isStandardError (name : String) : Bool :=
  standardEnds.any fun ending => standardStem ++ ending == name

def standardError (ending : String) : String := standardStem ++ ending

def otherError : String := "org.freedesktop.zbus.Error"

def errorReport (name : String) (message : Option String) : String :=
  if isStandardError name then name ++ ": " ++ message.getD ""
  else otherError ++ ": " ++ message.getD "no description"

end PriorityPortal.DBus
