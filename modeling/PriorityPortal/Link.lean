import PriorityPortal.Error
import PriorityPortal.Seen
/-!
# The link to a service

The link is made once. Many may attempt it at the same time: one attempt runs while the others wait
in the order in which they arrived, and if it is dropped the first of them runs in its place. The
first attempt to end settles the link for good, and all others are given what it ended in.
-/
namespace PriorityPortal

structure Attempt (α : Type) where
  key : Nat
  /-- What the attempt would end in. -/
  ending : Except String α
  /-- Whether something keeps the attempt from ending. -/
  held : Bool
  running : Bool
  deriving Repr

/-- The link, with what it ended in and the attempts in order of arrival. Only the first of them
may run. -/
structure Link (α : Type) where
  outcome : Option (Except String α)
  attempts : List (Attempt α)
  /-- How many attempts have ever been running. -/
  started : Nat
  deriving Repr

inductive LinkState where
  | uninitialized
  | ready
  | failed
  deriving DecidableEq, Repr

namespace LinkState

def text : LinkState → String
  | uninitialized => "uninitialized"
  | ready => "ready"
  | failed => "failed"

def name : LinkState → String
  | uninitialized => "Uninitialized"
  | ready => "Ready"
  | failed => "Failed"

end LinkState

/-- What is done with a link. Each attempt has a key of its own. -/
inductive LinkEvent (α : Type) where
  /-- A new attempt, which is looked at once. A key in use starts nothing. -/
  | attempt (key : Nat) (ending : Except String α) (held : Bool)
  /-- Nothing keeps the attempt from ending any more. -/
  | release (key : Nat)
  /-- The attempt is looked at again. -/
  | poll (key : Nat)
  | drop (key : Nat)
  deriving Repr

namespace Link

variable {α : Type}

def initial : Link α := ⟨none, [], 0⟩

def state (l : Link α) : LinkState :=
  match l.outcome with
  | none => .uninitialized
  | some (.ok _) => .ready
  | some (.error _) => .failed

def handle? (l : Link α) : Option α :=
  match l.outcome with
  | some (.ok handle) => some handle
  | _ => none

def failure? (l : Link α) : Option String :=
  match l.outcome with
  | some (.error reason) => some reason
  | _ => none

def require (l : Link α) : Except RealtimeError α :=
  match l.outcome with
  | some (.ok handle) => .ok handle
  | some (.error reason) => .error (.unavailable reason)
  | none => .error (.unavailable "not connected")

def text (l : Link α) : String := "ServiceConnector \x7b state: " ++ l.state.name ++ " \x7d"

def alive (l : Link α) (key : Nat) : Bool := l.attempts.any (·.key == key)

def remove (l : Link α) (key : Nat) : Link α :=
  { l with attempts := l.attempts.filter (·.key != key) }

/-- Runs the first attempt; it ends unless it is held. -/
def advance (l : Link α) (first : Attempt α) (rest : List (Attempt α)) :
    Link α × Seen (Option α) :=
  let started := if first.running then l.started else l.started + 1
  if first.held then (⟨l.outcome, { first with running := true } :: rest, started⟩, .pending)
  else (⟨some first.ending, rest, started⟩, .done first.ending.toOption)

/-- Looks at a living attempt. It ends with the link's outcome if there is one; else it runs if it
is the first, and waits if it is not. -/
def look (l : Link α) (key : Nat) : Link α × Seen (Option α) :=
  match l.outcome with
  | some outcome => (l.remove key, .done outcome.toOption)
  | none =>
    match l.attempts with
    | [] => (l, .pending)
    | first :: rest => if first.key = key then l.advance first rest else (l, .pending)

def next (l : Link α) : LinkEvent α → Link α × Seen (Option α)
  | .attempt key ending held =>
    if l.alive key then (l, .nothing)
    else
      let arrived : Link α := { l with attempts := l.attempts ++ [⟨key, ending, held, false⟩] }
      arrived.look key
  | .release key =>
    ({ l with attempts := l.attempts.map fun a =>
        if a.key = key then { a with held := false } else a }, .nothing)
  | .poll key => if l.alive key then l.look key else (l, .nothing)
  | .drop key => (l.remove key, .nothing)

def run (l : Link α) (events : List (LinkEvent α)) : Link α :=
  events.foldl (fun l event => (l.next event).1) l

end Link

end PriorityPortal
