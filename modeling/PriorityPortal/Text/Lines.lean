import PriorityPortal.Text.Blank
/-!
# Lines

A line ends at a line feed, or at a carriage return with a line feed; the last line may do without.
-/
namespace PriorityPortal.Text

def dropReturn (line : List Char) : List Char :=
  if line.getLast? = some '\r' then line.dropLast else line

/-- The lines of a text, without their ends. Nothing follows a final line feed, and a carriage
return at the very end of the text is no line end. -/
def lines (cs : List Char) : List (List Char) :=
  let pieces := splitBy (· == '\n') cs
  pieces.dropLast.map dropReturn ++ (pieces.getLast?.toList.filter (fun line => !line.isEmpty))

end PriorityPortal.Text
