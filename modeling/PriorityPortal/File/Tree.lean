import PriorityPortal.File.Fault
import PriorityPortal.Text.Blank
import PriorityPortal.Text.Utf8
/-!
# File trees

A tree of files, directories, symbolic links and sockets that does not change while it is read, and
the lookup of paths in it. A link counts from the directory it stands in, or from the root if its
target is absolute; a lookup that meets more than forty of them fails.
-/
namespace PriorityPortal

/-- A name in a directory, which need not be text. -/
structure FileName where
  bytes : List UInt8
  deriving DecidableEq, Repr

namespace FileName

def ofText (text : String) : FileName := ⟨Text.encode text⟩

instance : Coe String FileName := ⟨ofText⟩

def text? (name : FileName) : Option String := Text.decode? name.bytes

end FileName

/-- What a name in a directory stands for. A directory lists its entries in order. -/
inductive Entry where
  | file (bytes : List UInt8)
  | link (target : List UInt8)
  | directory (entries : List (FileName × Entry))
  /-- A socket, with the name of who listens there. -/
  | socket (listener : String)
  deriving Repr

abbrev Directory := List (FileName × Entry)

namespace Directory

/-- Puts an entry where names lead, with the directories above it; a directory that is there
already stays as it is. -/
def put (directory : Directory) : List String → Entry → Directory
  | [], _ => directory
  | text :: rest, entry =>
    let name := FileName.ofText text
    let others := directory.filter (·.1 != name)
    match directory.lookup name, rest, entry with
    | some (.directory _), [], .directory _ => directory
    | _, [], entry => others ++ [(name, entry)]
    | some (.directory below), rest, entry => others ++ [(name, .directory (put below rest entry))]
    | _, rest, entry => others ++ [(name, .directory (put [] rest entry))]

end Directory

namespace Path

/-- The names a path consists of; an empty one means the directory reached so far. -/
def names (path : String) : List String :=
  (Text.splitBy (· == '/') path.toList).map String.ofList

def namesOfBytes (bytes : List UInt8) : List FileName :=
  (Text.splitBy (· == 0x2F) bytes).map FileName.mk

def size (names : List String) : Nat := (String.intercalate "/" names).utf8ByteSize

def join (directory name : String) : String :=
  if directory.toList.getLast? = some '/' then directory ++ name else directory ++ "/" ++ name

end Path

/-- A directory within a tree, with the directories above it, the nearest first. -/
structure Place where
  here : Directory
  above : List Directory
  deriving Repr

namespace Place

def parent : Place → Place
  | ⟨here, []⟩ => ⟨here, []⟩
  | ⟨_, up :: above⟩ => ⟨up, above⟩

def root (p : Place) : Place := ⟨(p.above.getLast?).getD p.here, []⟩

def enter (p : Place) (entries : Directory) : Place := ⟨entries, p.here :: p.above⟩

end Place

inductive Found where
  | file (bytes : List UInt8)
  | link (target : List UInt8)
  | directory (place : Place)
  | socket (listener : String)
  deriving Repr

/-- Whether a lookup whose last name is a symbolic link goes on to what the link names. -/
inductive LastLink where
  | follow
  | keep
  deriving DecidableEq, Repr

/-- Looks names up one after another; `onward` takes over where a link is followed. -/
def walkWith (last : LastLink) (onward : Place → List FileName → Except OsError Found) :
    Place → List FileName → Except OsError Found
  | place, [] => .ok (.directory place)
  | place, name :: rest =>
    if name = "" ∨ name = "." then walkWith last onward place rest
    else if name = ".." then walkWith last onward place.parent rest
    else if 255 < name.bytes.length then .error .nameTooLong
    else match place.here.lookup name with
      | none => .error .notFound
      | some (.directory entries) => walkWith last onward (place.enter entries) rest
      | some (.file bytes) => if rest.isEmpty then .ok (.file bytes) else .error .notDirectory
      | some (.socket listener) =>
        if rest.isEmpty then .ok (.socket listener) else .error .notDirectory
      | some (.link target) =>
        if rest.isEmpty ∧ last = .keep then .ok (.link target)
        else
          onward (if target.head? = some 0x2F then place.root else place)
            (Path.namesOfBytes target ++ rest)

/-- A lookup that may follow as many links as its first argument says. -/
def walk (last : LastLink) : Nat → Place → List FileName → Except OsError Found
  | 0 => walkWith last fun _ _ => .error .tooManyLinks
  | links + 1 => walkWith last (walk last links)

/-- A tree as a program sees it: its root is also the directory that relative paths start from. -/
structure FileTree where
  root : Directory
  deriving Repr

namespace FileTree

/-- What names lead to, one after another from the root. A path has less than 4096 bytes. -/
def find (tree : FileTree) (names : List String) (last : LastLink) : Except IoError Found :=
  if names.any (fun name => name.toList.contains '\x00') then .error .nulInPath
  else if 4096 ≤ Path.size names then .error (.os .nameTooLong)
  else match walk last 40 ⟨tree.root, []⟩ (names.map FileName.ofText) with
    | .ok found => .ok found
    | .error e => .error (.os e)

def resolves (tree : FileTree) (names : List String) : Bool :=
  match tree.find names .follow with
  | .ok _ => true
  | .error _ => false

def readLink (tree : FileTree) (names : List String) : Except IoError String :=
  match tree.find names .keep with
  | .ok (.link target) => .ok (Text.decodeLossy target)
  | .ok _ => .error (.os .invalidArgument)
  | .error e => .error e

def readText (tree : FileTree) (names : List String) : Except IoError String :=
  match tree.find names .follow with
  | .ok (.file bytes) =>
    match Text.decode? bytes with
    | some text => .ok text
    | none => .error .notText
  | .ok (.socket _) => .error (.os .noDevice)
  | .ok _ => .error (.os .isDirectory)
  | .error e => .error e

def list (tree : FileTree) (names : List String) : Except IoError Directory :=
  match tree.find names .follow with
  | .ok (.directory place) => .ok place.here
  | .ok _ => .error (.os .notDirectory)
  | .error e => .error e

/-- The text of the file at a path; the empty path leads nowhere. -/
def readPath (tree : FileTree) (path : String) : Except IoError String :=
  if path = "" then .error (.os .notFound) else tree.readText (Path.names path)

end FileTree

end PriorityPortal
