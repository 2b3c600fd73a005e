/-!
# Sets of characters
-/
namespace PriorityPortal.Text

/-- A set of characters, as ranges of their codes, each with its least and its greatest. -/
abbrev CharSet := List (Nat × Nat)

def CharSet.has (set : CharSet) (c : Char) : Bool :=
  set.any fun (least, greatest) => least ≤ c.toNat && c.toNat ≤ greatest

end PriorityPortal.Text
