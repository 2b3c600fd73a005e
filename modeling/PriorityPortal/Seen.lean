/-!
# What is seen of something that may take its time
-/
namespace PriorityPortal

/-- What looking at something that ends in a `β` shows. -/
inductive Seen (β : Type) where
  /-- There is no such thing. -/
  | nothing
  | pending
  | done (result : β)
  deriving DecidableEq, Repr

end PriorityPortal
