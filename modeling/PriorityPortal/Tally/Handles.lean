import PriorityPortal.Tally.Counters
/-!
# Handles on counters

Counters are used through handles. A clone of a handle shares its counters; the handles that share
counters are a family.
-/
namespace PriorityPortal

/-- What is done with handles. A handle is known by its number, in order of creation from zero. -/
inductive HandleEvent where
  | request (handle : Nat)
  | outcome (handle : Nat) (outcome : Outcome) (latency : Duration)
  | clone (handle : Nat)
  /-- A new handle on counters of its own. -/
  | fresh
  deriving DecidableEq, Repr

/-- All counters, and for each handle the place of its counters. -/
structure Handles where
  families : List Counters
  handles : List Nat
  deriving DecidableEq, Repr

namespace Handles

def initial : Handles := ⟨[.zero], [0]⟩

def family? (h : Handles) (handle : Nat) : Option Nat := h.handles[handle]?

def read? (h : Handles) (handle : Nat) : Option Counters :=
  (h.family? handle).bind fun family => h.families[family]?

def update (h : Handles) (handle : Nat) (change : Counters → Counters) : Handles :=
  match h.family? handle with
  | none => h
  | some family => { h with families := h.families.modify family change }

def next (h : Handles) : HandleEvent → Handles
  | .request handle => h.update handle Counters.countRequest
  | .outcome handle outcome latency => h.update handle fun c => c.countOutcome outcome latency
  | .clone handle =>
    match h.family? handle with
    | none => h
    | some family => { h with handles := h.handles ++ [family] }
  | .fresh => ⟨h.families ++ [.zero], h.handles ++ [h.families.length]⟩

def run (h : Handles) (events : List HandleEvent) : Handles := events.foldl next h

end Handles

end PriorityPortal
