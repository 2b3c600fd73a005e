/-!
# Why a file or socket could not be used
-/
namespace PriorityPortal

inductive OsError where
  | notFound
  | noDevice
  | notDirectory
  | isDirectory
  | invalidArgument
  | nameTooLong
  | tooManyLinks
  | networkUnreachable
  | connectionRefused
  deriving DecidableEq, Repr

namespace OsError

def code : OsError → Nat
  | notFound => 2
  | noDevice => 6
  | notDirectory => 20
  | isDirectory => 21
  | invalidArgument => 22
  | nameTooLong => 36
  | tooManyLinks => 40
  | networkUnreachable => 101
  | connectionRefused => 111

def description : OsError → String
  | notFound => "No such file or directory"
  | noDevice => "No such device or address"
  | notDirectory => "Not a directory"
  | isDirectory => "Is a directory"
  | invalidArgument => "Invalid argument"
  | nameTooLong => "File name too long"
  | tooManyLinks => "Too many levels of symbolic links"
  | networkUnreachable => "Network is unreachable"
  | connectionRefused => "Connection refused"

def message (e : OsError) : String := s!"{e.description} (os error {e.code})"

end OsError

inductive IoError where
  | os (e : OsError)
  /-- The bytes read are not text. -/
  | notText
  /-- A path, or the name of a host, with a U+0000 in it. -/
  | nulInPath
  /-- The path of a socket with a U+0000 in it. -/
  | nulInSocketPath
  | socketPathTooLong
  | socketNameTooLong
  /-- Nobody knows the address of a host. -/
  | unknownHost
  /-- Any other reason, in words. -/
  | other (text : String)
  deriving DecidableEq, Repr

namespace IoError

def message : IoError → String
  | os e => e.message
  | notText => "stream did not contain valid UTF-8"
  | nulInPath => "file name contained an unexpected NUL byte"
  | nulInSocketPath => "paths must not contain interior null bytes"
  | socketPathTooLong => "path must be shorter than SUN_LEN"
  | socketNameTooLong => "abstract socket name must be shorter than SUN_LEN"
  | unknownHost =>
    "failed to lookup address information: Temporary failure in name resolution"
  | other text => text

def isNotFound : IoError → Bool
  | os .notFound => true
  | _ => false

end IoError

end PriorityPortal
