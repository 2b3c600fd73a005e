import PriorityPortal.Link
import PriorityPortal.Portal.Basic
/-!
# Exports

A connection serves at most one portal at each object path, the one that came first.
-/
namespace PriorityPortal

/-- The portals of a connection in order, and which of them is served at a path. -/
structure Exports (κ : Type) where
  portals : List (Portal κ)
  served : List (String × Nat)
  deriving Repr

structure ExportsStep (κ : Type) where
  exports : Exports κ
  /-- The answer, unless it cannot be sent or is not there yet. -/
  answer : Option DBus.Answer
  lookups : List String
  mappings : List (Origin × UInt64)
  /-- The calls of RealtimeKit, each with the handle that it was made through. -/
  calls : List (κ × KitCall)

def Reply.message? (sender : Option String) : Except PortalError Reply → Option DBus.Answer
  | .ok .granted => some (.reply [])
  | .ok (.value n) => some (.reply [.int64 n])
  | .error e =>
    match e.reply sender with
    | .ok reply => some (.failure reply.name (reply.text.toList.map .string))
    | .error _ => none

namespace Exports

variable {κ : Type}

def empty : Exports κ := ⟨[], []⟩

def paths (e : Exports κ) : List String := e.served.map (·.1)

def objects (e : Exports κ) : DBus.ObjectTree :=
  e.paths.map fun path => (path, PortalCall.interface)

/-- Adds a portal and serves it at a path if nothing is served there; tells the portal's number and
whether it is served. -/
def add (e : Exports κ) (portal : Portal κ) (path : String) :
    Except DBus.Fault (Exports κ × Nat × Bool) :=
  let number := e.portals.length
  if !DBus.isObjectPath path then .error .value
  else if e.paths.contains path then .ok (⟨e.portals ++ [portal], e.served⟩, number, false)
  else .ok (⟨e.portals ++ [portal], e.served ++ [(path, number)]⟩, number, true)

def addIfReady (e : Exports κ) (link : Link κ) (s : Settings) (tree : FileTree) :
    Except DBus.Fault (Exports κ × Option Nat) :=
  match link.handle? with
  | none => .ok (e, none)
  | some kit =>
    (e.add (.ofSettings s tree kit) s.portal.objectPath).map fun (e, number, _) =>
      (e, some number)

def counters? (e : Exports κ) (number : Nat) : Option Counters :=
  (e.portals[number]?).map (·.relay.counters)

def answerHere (e : Exports κ) (around : Surroundings κ) (message : DBus.Call) : ExportsStep κ :=
  match PortalCall.ofMessage message.member message.args with
  | .error answer => ⟨e, some answer, [], [], []⟩
  | .ok call =>
    match (e.served.lookup message.path).bind fun number =>
        (e.portals[number]?).map fun portal => (number, portal) with
    | none => ⟨e, some (.unknownObject message.path), [], [], []⟩
    | some (number, portal) =>
      let step := portal.answer around message.sender call
      let answer := match step.seen with
        | .done result => Reply.message? message.sender result
        | _ => none
      ⟨{ e with portals := e.portals.set number step.portal }, answer, step.lookups,
        step.mappings, step.calls.map fun call => (portal.kit, call)⟩

def answer (e : Exports κ) (around : Surroundings κ) (message : DBus.Call) : ExportsStep κ :=
  match DBus.ObjectTree.route e.objects message with
  | .error answer => ⟨e, some answer, [], [], []⟩
  | .ok _ => e.answerHere around message

end Exports

end PriorityPortal
