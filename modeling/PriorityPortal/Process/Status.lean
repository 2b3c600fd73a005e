import PriorityPortal.Text.Decimal
import PriorityPortal.Text.Lines
/-!
# Process status

The line `NSpid:` of a process's status gives its pid in each pid namespace it belongs to, from the
outermost to the innermost.
-/
namespace PriorityPortal.Status

def label : List Char := "NSpid:".toList

/-- The pids on the first such line. One that is no number spoils the line, and a line without any
gives nothing. -/
def nestedPids? (status : String) : Option (List UInt64) :=
  match (Text.lines status.toList).find? label.isPrefixOf with
  | none => none
  | some line =>
    match Text.words (line.drop label.length) with
    | [] => none
    | fields => fields.mapM Text.uint64?

def innermostPid? (status : String) : Option UInt64 :=
  (nestedPids? status).bind List.getLast?

end PriorityPortal.Status
