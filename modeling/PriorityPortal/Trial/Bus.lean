import PriorityPortal.DBus.Bus
import PriorityPortal.DBus.ObjectTree
import PriorityPortal.Settings.Basic
/-!
# A bus for trials

A bus with RealtimeKit on it that refuses realtime priorities above 20 and nice levels below -15.
It answers whoever a message is meant for.
-/
namespace PriorityPortal

structure TrialBus where
  /-- What is known of senders: a pid, or the error that asking for it ends in. -/
  pids : List (String × Except DownstreamError UInt32)
  /-- The answer to a request for a name. -/
  nameReply : UInt32
  deriving Repr

namespace TrialBus

def kitInterface : DBus.Interface :=
  ⟨kitName, [("MaxRealtimePriority", .int32 20), ("RTTimeUSecMax", .int64 200000),
    ("Odd", .uint32 7)]⟩

def objects : DBus.ObjectTree :=
  [(DBus.Bus.path, ⟨DBus.Bus.name, []⟩), (KitSettings.standard.objectPath, kitInterface)]

def answerKit (member : String) (args : List DBus.Value) : DBus.Answer :=
  let limited (granted : Bool) : DBus.Answer :=
    if granted then .reply [] else .standard "AccessDenied" "Operation not permitted"
  match member, DBus.unpacked args with
  | "MakeThreadRealtimeWithPID", [.uint64 _, .uint64 _, .uint32 level] => limited (level ≤ 20)
  | "MakeThreadHighPriorityWithPID", [.uint64 _, .uint64 _, .int32 nice] => limited (-15 ≤ nice)
  | "MakeThreadRealtimeWithPID", _ | "MakeThreadHighPriorityWithPID", _ => .wrongArguments
  | _, _ => .unknownMethod member

def failure (e : DownstreamError) : DBus.Answer := .failure e.name (e.message.toList.map .string)

def answerBus (bus : TrialBus) (member : String) (args : List DBus.Value) : DBus.Answer :=
  match member, args with
  | "Hello", _ => .reply [.string ":1.100"]
  | "RequestName", _ => .reply [.uint32 bus.nameReply]
  | "GetConnectionUnixProcessID", [.string sender] =>
    match bus.pids.lookup sender with
    | some (.ok pid) => .reply [.uint32 pid]
    | some (.error e) => failure e
    | none =>
      .standard "NameHasNoOwner" ("Could not get PID of name '" ++ sender ++ "': no such name")
  | _, _ => .unknownMethod member

def answer (bus : TrialBus) (call : DBus.Call) : DBus.Answer :=
  match objects.route call with
  | .error answer => answer
  | .ok interface =>
    if interface.name = DBus.Bus.name then bus.answerBus call.member call.args
    else answerKit call.member call.args

def peer (bus : TrialBus) (name : String) : DBus.Peer := ⟨name, bus.answer⟩

def methods (interface : DBus.Interface) : List String :=
  if interface.name = DBus.Bus.name then ["Hello", "RequestName", "GetConnectionUnixProcessID"]
  else ["MakeThreadRealtimeWithPID", "MakeThreadHighPriorityWithPID"]

/-- What the bus remembers of a call for which it has a method: the member, and the arguments that
matter. -/
def note? (call : DBus.Call) : Option (String × List DBus.Value) :=
  match objects.route call with
  | .error _ => none
  | .ok interface =>
    if !(methods interface).contains call.member then none
    else some (call.member, if call.member = "RequestName" then call.args.take 1 else call.args)

end TrialBus

end PriorityPortal
