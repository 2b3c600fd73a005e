import PriorityPortal.Portal.Call
import PriorityPortal.Portal.Error
import PriorityPortal.Settings.Basic
/-!
# The portal

The portal asks the bus for the pid of a caller, finds out where that process runs, and hands the
request to its relay. The value of a property may be asked for by anyone.
-/
namespace PriorityPortal

structure Portal (κ : Type) where
  kit : κ
  table : ProcessTable
  relay : Relay
  /-- How many requests the relay was given; each has its number as key. -/
  taken : Nat
  deriving Repr

/-- What a portal finds around it at one moment. -/
structure Surroundings (κ : Type) where
  /-- The pid that the bus reports for a sender. -/
  pidOf : String → Except PortalError UInt32
  kit : κ → Kit
  now : Duration

structure PortalStep (κ : Type) where
  portal : Portal κ
  seen : Seen (Except PortalError Reply)
  /-- The senders that the bus was asked about. -/
  lookups : List String
  /-- What the process table was asked to map. -/
  mappings : List (Origin × UInt64)
  calls : List KitCall

def Result.ofRelay : Result → Except PortalError Reply
  | .ok reply => .ok reply
  | .error e => .error (.realtime e)

namespace Portal

variable {κ : Type}

def ofSettings (s : Settings) (tree : FileTree) (kit : κ) : Portal κ :=
  ⟨kit, ⟨tree, s.sandbox.procRoot⟩, .initial s.kit.routing, 0⟩

/-- The services that the relay is given: RealtimeKit as it is, and the process table. -/
def services (p : Portal κ) (around : Surroundings κ) : Services where
  toKit := around.kit p.kit
  mapPid origin pid := some (p.table.hostPidFor origin pid)
  now := around.now

def identify (p : Portal κ) (around : Surroundings κ) (sender : String) :
    Except PortalError Caller :=
  match around.pidOf sender with
  | .error e => .error e
  | .ok pid =>
    match p.table.origin pid with
    | .error e => .error (.caller e)
    | .ok origin => .ok ⟨sender, origin⟩

def take (p : Portal κ) (around : Surroundings κ) (lookups : List String) (request : Request) :
    PortalStep κ :=
  let step := p.relay.next (p.services around) (.start p.taken request)
  let seen : Seen (Except PortalError Reply) :=
    match step.seen with
    | .nothing => .nothing
    | .pending => .pending
    | .done result => .done result.ofRelay
  ⟨{ p with relay := step.relay, taken := p.taken + 1 }, seen, lookups, step.effects.mappings,
    step.effects.calls⟩

def answer (p : Portal κ) (around : Surroundings κ) (sender : Option String) :
    PortalCall → PortalStep κ
  | .property name => p.take around [] (.property (sender.getD "") name)
  | .thread process task priority =>
    match sender with
    | none => ⟨p, .done (.error (.caller .noSender)), [], [], []⟩
    | some sender =>
      match p.identify around sender with
      | .error e => ⟨p, .done (.error e), [sender], [], []⟩
      | .ok caller => p.take around [sender] (.thread caller process task priority)

end Portal

end PriorityPortal
