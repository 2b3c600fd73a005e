import PriorityPortal.Caller
import PriorityPortal.Error
import PriorityPortal.Property
import PriorityPortal.Routing
import PriorityPortal.Seen
import PriorityPortal.Tally.Counters
/-!
# The relay

The relay takes requests and passes them on to RealtimeKit. The pid in a request from a sandbox is
mapped to the host's first, and only the host's pid is ever passed on. A request waits where a
service has not answered yet, may be dropped while it waits, and is counted once by how it ends.
-/
namespace PriorityPortal

inductive Request where
  /-- A priority for a thread, with the process as the caller knows it. -/
  | thread (caller : Caller) (process thread : UInt64) (priority : Priority)
  /-- The value of a property of RealtimeKit. -/
  | property (sender name : String)
  deriving DecidableEq, Repr

/-- A call of RealtimeKit. Processes are given by the host's pid. -/
inductive KitCall where
  | thread (process thread : UInt64) (priority : Priority)
  | property (name : String)
  deriving DecidableEq, Repr

inductive Reply where
  | granted
  | value (n : Int64)
  deriving DecidableEq, Repr

abbrev Result := Except RealtimeError Reply

/-- RealtimeKit as it is at one moment; an answer that is not there yet is `none`. -/
structure Kit where
  setPriority : UInt64 → UInt64 → Priority → Option (Except DownstreamError Unit)
  readProperty : String → Option (Except DownstreamError Property)

structure Services extends Kit where
  mapPid : Origin → UInt64 → Option (Except MappingError UInt64)
  now : Duration

inductive Stage where
  | mapping (origin : Origin) (process thread : UInt64) (priority : Priority)
  | calling (call : KitCall)
  deriving DecidableEq, Repr

inductive Progress where
  | waiting (stage : Stage)
  | ended (result : Result)
  deriving Repr

structure Effects where
  mappings : List (Origin × UInt64)
  calls : List KitCall
  deriving DecidableEq, Repr

namespace Effects

def none : Effects := ⟨[], []⟩

end Effects

def Property.result (value : Property) : Result :=
  match value.asInt64? with
  | some n => .ok (.value n)
  | none => .error (.invalidResponse value.signature)

namespace Kit

def answer (kit : Kit) : KitCall → Option Result
  | .thread process thread priority =>
    (kit.setPriority process thread priority).map fun
      | .ok _ => .ok .granted
      | .error e => .error (.downstream e)
  | .property name =>
    (kit.readProperty name).map fun
      | .ok value => value.result
      | .error e => .error (.downstream e)

def settle (kit : Kit) (call : KitCall) : Progress :=
  match kit.answer call with
  | none => .waiting (.calling call)
  | some result => .ended result

end Kit

def Routing.call (routing : Routing) (process thread : UInt64) (priority : Priority) : KitCall :=
  .thread process thread (routing.pass priority)

def Stage.advance (routing : Routing) (services : Services) : Stage → Progress × Effects
  | .calling call => (services.toKit.settle call, .none)
  | .mapping origin process thread priority =>
    match services.mapPid origin process with
    | none => (.waiting (.mapping origin process thread priority), .none)
    | some (.error e) => (.ended (.error (.pidMapping e)), .none)
    | some (.ok hostPid) =>
      let call := routing.call hostPid thread priority
      (services.toKit.settle call, ⟨[], [call]⟩)

def Request.begin (routing : Routing) (services : Services) : Request → Progress × Effects
  | .property _ name => (services.toKit.settle (.property name), ⟨[], [.property name]⟩)
  | .thread caller process task priority =>
    if caller.origin.isHost then
      let call := routing.call process task priority
      (services.toKit.settle call, ⟨[], [call]⟩)
    else
      let (progress, effects) :=
        (Stage.mapping caller.origin process task priority).advance routing services
      (progress, { effects with mappings := [(caller.origin, process)] })

def Outcome.ofResult : Result → Outcome
  | .ok _ => .success
  | .error (.pidMapping _) => .mappingFailed
  | .error (.invalidResponse _) => .invalidResponse
  | .error _ => .downstreamFailed

structure Pending where
  key : Nat
  stage : Stage
  since : Duration
  deriving DecidableEq, Repr

structure Relay where
  routing : Routing
  counters : Counters
  pending : List Pending
  deriving DecidableEq, Repr

/-- What is done with requests. Each has a key of its own. -/
inductive RelayEvent where
  /-- A new request, which is looked at once. A key in use starts nothing. -/
  | start (key : Nat) (request : Request)
  /-- The request is looked at again. -/
  | poll (key : Nat)
  | drop (key : Nat)
  deriving DecidableEq, Repr

structure RelayStep where
  relay : Relay
  seen : Seen Result
  effects : Effects
  deriving Repr

namespace Relay

def initial (routing : Routing) : Relay := ⟨routing, .zero, []⟩

def find? (r : Relay) (key : Nat) : Option Pending := r.pending.find? (·.key == key)

def remove (r : Relay) (key : Nat) : Relay :=
  { r with pending := r.pending.filter (·.key != key) }

def finish (r : Relay) (outcome : Outcome) (since now : Duration) : Relay :=
  { r with counters := r.counters.countOutcome outcome ⟨now.nanoseconds - since.nanoseconds⟩ }

def add (r : Relay) (pending : Pending) : Relay := { r with pending := r.pending ++ [pending] }

def move (r : Relay) (key : Nat) (stage : Stage) : Relay :=
  { r with pending := r.pending.map fun p => if p.key = key then { p with stage := stage } else p }

/-- The relay after an event, with what the event shows of its request and asks of the services. -/
def next (r : Relay) (services : Services) : RelayEvent → RelayStep
  | .start key request =>
    match r.find? key with
    | some _ => ⟨r, .nothing, .none⟩
    | none =>
      let counted : Relay := { r with counters := r.counters.countRequest }
      match request.begin r.routing services with
      | (.waiting stage, effects) => ⟨counted.add ⟨key, stage, services.now⟩, .pending, effects⟩
      | (.ended result, effects) =>
        ⟨counted.finish (.ofResult result) services.now services.now, .done result, effects⟩
  | .poll key =>
    match r.find? key with
    | none => ⟨r, .nothing, .none⟩
    | some pending =>
      match pending.stage.advance r.routing services with
      | (.waiting stage, effects) => ⟨r.move key stage, .pending, effects⟩
      | (.ended result, effects) =>
        ⟨(r.remove key).finish (.ofResult result) pending.since services.now, .done result, effects⟩
  | .drop key =>
    match r.find? key with
    | none => ⟨r, .nothing, .none⟩
    | some pending => ⟨(r.remove key).finish .abandoned pending.since services.now, .nothing, .none⟩

def run (r : Relay) (history : List (Services × RelayEvent)) : Relay :=
  history.foldl (fun r moment => (r.next moment.1 moment.2).relay) r

def steps (r : Relay) : List (Services × RelayEvent) → List RelayStep
  | [] => []
  | (services, event) :: rest =>
    let step := r.next services event
    step :: step.relay.steps rest

def text (r : Relay) : String :=
  let outcomes := [Outcome.success, .mappingFailed, .downstreamFailed, .invalidResponse,
    .abandoned].map fun outcome => toString (r.counters.count outcome)
  "RealtimeForwarder \x7b routing: " ++ r.routing.name ++
    ", metrics: ForwarderMetrics \x7b inner: Counters \x7b received: " ++
    toString r.counters.requests ++ ", outcomes: [" ++ String.intercalate ", " outcomes ++ "]"

def mapperText : String := "PidTranslator \x7b .. \x7d"

end Relay

end PriorityPortal
