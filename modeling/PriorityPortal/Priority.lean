/-!
# Priorities

What a thread is to be given: a realtime priority, or a nice level of high priority.
-/
namespace PriorityPortal

inductive Priority where
  | realtime (level : UInt32)
  | highPriority (nice : Int32)
  deriving DecidableEq, Repr

namespace Priority

def text : Priority → String
  | realtime level => s!"realtime({level})"
  | highPriority nice => s!"nice({nice})"

/-- The realtime priority with the same 32 bits; a realtime priority is its own. -/
def asRealtime : Priority → Priority
  | realtime level => realtime level
  | highPriority nice => realtime nice.toUInt32

end Priority

end PriorityPortal
