import PriorityPortal.Priority
/-!
# Routing

A nice level is passed on as it is, or, as older portals had it, as a realtime priority.
-/
namespace PriorityPortal

/-- How a request for high priority is passed on. -/
inductive Routing where
  | native
  | legacy
  deriving DecidableEq, Repr

namespace Routing

def all : List Routing := [native, legacy]

/-- The routing's name in settings. -/
def text : Routing → String
  | native => "native"
  | legacy => "legacy"

def name : Routing → String
  | native => "Native"
  | legacy => "Legacy"

def ofText? (text : String) : Option Routing := all.find? fun routing => routing.text == text

def pass : Routing → Priority → Priority
  | native, priority => priority
  | legacy, priority => priority.asRealtime

@[simp] theorem ofText?_text (r : Routing) : ofText? r.text = some r := by
  cases r <;> decide

end Routing

end PriorityPortal
