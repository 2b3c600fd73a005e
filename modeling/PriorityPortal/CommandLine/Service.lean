import PriorityPortal.CommandLine.Arguments
import PriorityPortal.CommandLine.LogFilter
import PriorityPortal.DBus.Address
import PriorityPortal.DBus.Bus
import PriorityPortal.Kit.Client
import PriorityPortal.Portal.Exports
import PriorityPortal.Settings.Document
/-!
# The service

The program reads its arguments and settings, connects to the bus that the portal is on, tries to
reach RealtimeKit, exports the portal if it could, and asks for its name. Then it serves calls
until it is told to stop.
-/
namespace PriorityPortal.CommandLine

open DBus (Peer Network Call Answer)

structure Environment where
  /-- Reads the file at a path. -/
  read : String → Except IoError String
  network : Network
  sessionBus : Except DBus.Fault Peer
  systemBus : Except DBus.Fault Peer
  /-- The log filter from outside, if there is one. -/
  logFilter : Option String

inductive StartError where
  | arguments (e : ArgumentsError)
  | settings (path : String) (e : SettingsError)
  | logFilter (filter : String)
  | portalBus (fault : DBus.Fault)
  | exporting (fault : DBus.Fault)
  | owning (name : String)
  deriving DecidableEq, Repr

/-- The error as it is printed; faults of the bus and of filters are not told. -/
def StartError.text : StartError → String
  | arguments e => "Error: " ++ e.message ++ "\n"
  | settings path e =>
    "Error: cannot load " ++ path ++ "\n\nCaused by:\n    " ++ (RealtimeError.settings e).message ++
      "\n"
  | logFilter filter => "Error: invalid log filter: " ++ filter ++ "\n"
  | portalBus _ => "Error: cannot connect to the portal bus\n"
  | exporting _ => "Error: cannot export the realtime interface\n"
  | owning name => "Error: cannot own " ++ name ++ "\n"

def help : String :=
  "rtportal - realtime scheduling portal\n\nUsage: rtportal [OPTIONS]\n\nOptions:\n" ++
  "  -c, --config <PATH>  Load configuration from a TOML file\n" ++
  "  -v, --verbose        Log at debug level unless RUST_LOG is set\n" ++
  "      --no-name        Do not request the portal bus name\n" ++
  "  -h, --help           Show this help\n"

structure KitLink where
  client : KitClient
  peer : Peer

structure Service where
  exports : Exports KitLink
  portalBus : Peer

inductive Started where
  | failed (e : StartError)
  | helped
  | serving (service : Service)

structure Made where
  peer : String
  call : Call
  deriving Repr

def Made.of (peer : Peer) (call : Call) : Made := ⟨peer.name, call⟩

structure Start where
  started : Started
  calls : List Made

def Start.fail (e : StartError) (calls : List Made) : Start := ⟨.failed e, calls⟩

def Environment.connect (env : Environment) (address : Option String)
    (bus : Except DBus.Fault Peer) : Except DBus.Fault Peer :=
  match address with
  | some address => env.network.connect address
  | none => bus

def Environment.connectKit (env : Environment) (s : KitSettings) :
    List Made × Except DBus.Fault KitLink :=
  match env.connect s.busAddress env.systemBus with
  | .error fault => ([], .error fault)
  | .ok peer => ([.of peer DBus.Bus.hello], (KitClient.ofSettings s).map (⟨·, peer⟩))

def Environment.settings (env : Environment) (a : Arguments) : Except StartError Settings :=
  match a.config with
  | none => .ok .standard
  | some path =>
    match Settings.ofFile (env.read path) with
    | .ok s => .ok s
    | .error e => .error (.settings path e)

def linkOf (ending : Except DBus.Fault KitLink) : Link KitLink :=
  let ending : Except String KitLink :=
    match ending with
    | .ok kit => .ok kit
    | .error fault => .error fault.message
  (Link.initial.next (.attempt 0 ending false)).1

def Environment.serve (env : Environment) (a : Arguments) (s : Settings) : Start :=
  match env.connect s.portal.busAddress env.sessionBus with
  | .error fault => .fail (.portalBus fault) []
  | .ok portalBus =>
    let (kitCalls, ending) := env.connectKit s.kit
    let calls := .of portalBus DBus.Bus.hello :: kitCalls
    match Exports.empty.addIfReady (linkOf ending) s env.network.tree with
    | .error fault => .fail (.exporting fault) calls
    | .ok (exports, _) =>
      let name := s.portal.busName
      let request := DBus.Bus.requestName name
      if !s.portal.requestName ∨ a.noName then ⟨.serving ⟨exports, portalBus⟩, calls⟩
      else if !DBus.isWellKnownName name then .fail (.owning name) calls
      else
        let calls := calls ++ [.of portalBus request]
        if DBus.Bus.grantsName (portalBus.answer request) then
          ⟨.serving ⟨exports, portalBus⟩, calls⟩
        else .fail (.owning name) calls

def Environment.start (env : Environment) (words : List String) : Start :=
  match Arguments.read words with
  | .error e => .fail (.arguments e) []
  | .ok a =>
    if a.help then ⟨.helped, []⟩
    else match env.settings a with
      | .error e => .fail e []
      | .ok s =>
        let fallback := if a.verbose then "debug" else s.logging.filter
        if !LogFilter.isUsable env.logFilter fallback then .fail (.logFilter fallback) []
        else env.serve a s

structure ServiceStep where
  service : Service
  answer : Option Answer
  calls : List Made

/-- Serves a message. The portal asks its bus about the sender before it calls RealtimeKit. -/
def Service.answer (service : Service) (message : Call) : ServiceStep :=
  let around : Surroundings KitLink :=
    { pidOf := DBus.Bus.pidOf service.portalBus
      kit := fun kit => kit.client.kit kit.peer
      now := ⟨0⟩ }
  let step := service.exports.answer around message
  ⟨{ service with exports := step.exports }, step.answer,
    (step.lookups.map fun sender => .of service.portalBus (DBus.Bus.requestPid sender)) ++
      step.calls.map fun (kit, call) => .of kit.peer (kit.client.send call)⟩

end PriorityPortal.CommandLine
