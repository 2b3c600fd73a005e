import PriorityPortal.DBus.Fault
import PriorityPortal.DBus.Message
import PriorityPortal.File.Tree
import PriorityPortal.Text.Decimal
import PriorityPortal.Text.Hex
/-!
# Addresses

An address names a transport and its options. Of the transports, sockets in the file system can be
connected to; nobody listens at any other, and no network reaches a host.
-/
namespace PriorityPortal.DBus

inductive Transport where
  | socket (path : String)
  | abstractSocket (name : String)
  /-- A directory to make a socket in, which is no use for connecting. -/
  | directory (path : String)
  /-- A host on the internet protocol. -/
  | internet (host : String)
  deriving DecidableEq, Repr

structure Address where
  transport : Transport
  guid : Option String
  deriving DecidableEq, Repr

namespace Address

def splitAt? (c : Char) (cs : List Char) : Option (List Char × List Char) :=
  match cs.dropWhile (· != c) with
  | [] => none
  | _ :: rest => some (cs.takeWhile (· != c), rest)

def options? (cs : List Char) : Option (List (String × String)) := do
  let pairs ← (Text.splitBy (· == ',') cs).mapM (splitAt? '=')
  let options := pairs.map fun (name, value) => (String.ofList name, String.ofList value)
  if (options.map (·.1)).Pairwise (· ≠ ·) then some options else none

def socket? (options : List (String × String)) : Option Transport :=
  match options.lookup "path", options.lookup "abstract", options.lookup "dir",
    options.lookup "tmpdir" with
  | some path, none, none, none => some (.socket path)
  | none, some name, none, none => some (.abstractSocket name)
  | none, none, some path, none => some (.directory path)
  | none, none, none, some path => some (.directory path)
  | _, _, _, _ => none

def families : List String := ["ipv4", "ipv6"]

def isPlain (c : Char) : Bool := c.isAlphanum || ['-', '_', '/', '.', '\\', '*'].contains c

def isPercentEncoded : List Char → Bool
  | [] => true
  | '%' :: high :: low :: rest =>
    (Text.hexDigit? high).isSome && (Text.hexDigit? low).isSome && isPercentEncoded rest
  | c :: rest => isPlain c && isPercentEncoded rest

def internet? (options : List (String × String)) : Option Transport := do
  let host ← options.lookup "host"
  let number ← (options.lookup "port").bind fun digits => Text.natural? digits.toList
  if number < UInt16.size ∧ (options.lookup "bind").isNone ∧
      (options.lookup "family").all families.contains ∧
      (options.lookup "noncefile").all (fun path => isPercentEncoded path.toList) then
    some (.internet host)
  else none

def transport? (name : String) (options : List (String × String)) : Option Transport :=
  match name with
  | "unix" => socket? options
  | "tcp" => internet? options
  | "nonce-tcp" => if (options.lookup "noncefile").isSome then internet? options else none
  | _ => none

def isGuid (guid : String) : Bool :=
  guid.toList.length = 32 && guid.toList.all fun c => (Text.hexDigit? c).isSome

def parse (text : String) : Except Fault Address :=
  match splitAt? ':' text.toList with
  | none => .error .address
  | some (name, rest) =>
    match if rest.isEmpty then some [] else options? rest with
    | none => .error .address
    | some options =>
      let guid := options.lookup "guid"
      if !guid.all isGuid then .error .other
      else match transport? (String.ofList name) options with
        | none => .error .address
        | some transport => .ok ⟨transport, guid⟩

end Address

/-- What can be connected to: the peers that listen at the sockets in a tree of files. -/
structure Network where
  tree : FileTree
  peers : List Peer

namespace Network

def connectSocket (n : Network) (path : String) : Except IoError Peer :=
  if path.toList.contains '\x00' then .error .nulInSocketPath
  else if 108 ≤ path.utf8ByteSize then .error .socketPathTooLong
  else if path = "" then .error (.os .invalidArgument)
  else match n.tree.find (Path.names path) .follow with
    | .error e => .error e
    | .ok (.socket listener) =>
      match n.peers.find? fun peer => peer.name == listener with
      | some peer => .ok peer
      | none => .error (.os .connectionRefused)
    | .ok _ => .error (.os .connectionRefused)

def abstractSocketError (name : String) : IoError :=
  if 108 ≤ name.utf8ByteSize then .socketNameTooLong else .os .connectionRefused

def isHostAddress (host : String) : Bool :=
  host == "localhost" || host.toList.contains ':' ||
    (host.toList.any Char.isDigit && host.toList.all fun c => c.isDigit || c == '.')

def hostError (host : String) : IoError :=
  if host.toList.contains '\x00' then .nulInPath
  else if isHostAddress host then .os .networkUnreachable
  else .unknownHost

/-- Connects to an address. A peer that is to be a certain one is not found to be it. -/
def connect (n : Network) (text : String) : Except Fault Peer := do
  let address ← Address.parse text
  match address.transport with
  | .socket path =>
    match n.connectSocket path with
    | .error e => .error (.io e)
    | .ok peer => if address.guid.isSome then .error .other else .ok peer
  | .abstractSocket name => .error (.io (abstractSocketError name))
  | .internet host => .error (.io (hostError host))
  | .directory _ => .error .other

end Network

end PriorityPortal.DBus
