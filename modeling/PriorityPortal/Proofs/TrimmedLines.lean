import Mathlib.Data.List.TakeWhile
import PriorityPortal.Proofs.NameGrammar
import PriorityPortal.Text.Lines
/-!
# Lines and the white space around them

Trimming takes away the white space around a text and nothing else. The lines of a text are what
stands between its line feeds; the carriage return that may stand at the end of one is white space.
-/
namespace PriorityPortal.Text

def Blank (cs : List Char) : Prop := ∀ c ∈ cs, isBlank c = true

section

variable {left right line cs : List Char} {c : Char}

theorem trimEnd_append (h : Blank right) (cs : List Char) : trimEnd (cs ++ right) = trimEnd cs := by
  have hreverse : ∀ c ∈ right.reverse, isBlank c = true := fun c hc => h c (List.mem_reverse.mp hc)
  rw [trimEnd, trimEnd, List.reverse_append, List.dropWhile_append_of_pos hreverse]

theorem trim_pad (hleft : Blank left) (hright : Blank right) (line : List Char) :
    trim (left ++ line ++ right) = trim line := by
  rw [trim, trim, List.append_assoc, List.dropWhile_append_of_pos hleft, List.dropWhile_append]
  split
  next hempty =>
    have hnone : right.dropWhile isBlank = [] := List.dropWhile_eq_nil_iff.mpr hright
    rw [hnone, List.isEmpty_iff.mp hempty]
  next => exact trimEnd_append hright _

theorem trim_blank (h : Blank line) : trim line = [] := by
  have hpad := trim_pad h (List.forall_mem_nil _) []
  rwa [List.append_nil, List.append_nil] at hpad

theorem exists_trimEnd (cs : List Char) : ∃ right, Blank right ∧ cs = trimEnd cs ++ right := by
  refine ⟨(cs.reverse.takeWhile isBlank).reverse, ?_, ?_⟩
  · intro c hc
    exact List.all_eq_true.mp List.all_takeWhile c (List.mem_reverse.mp hc)
  · rw [trimEnd, ← List.reverse_append, List.takeWhile_append_dropWhile, List.reverse_reverse]

theorem exists_trim (cs : List Char) :
    ∃ left right, Blank left ∧ Blank right ∧ cs = left ++ trim cs ++ right := by
  obtain ⟨right, hright, hend⟩ := exists_trimEnd (cs.dropWhile isBlank)
  have hleft : Blank (cs.takeWhile isBlank) := fun c => List.all_eq_true.mp List.all_takeWhile c
  refine ⟨cs.takeWhile isBlank, right, hleft, hright, ?_⟩
  rw [trim, List.append_assoc, ← hend, List.takeWhile_append_dropWhile]

@[simp] theorem trim_trim (cs : List Char) : trim (trim cs) = trim cs := by
  obtain ⟨left, right, hleft, hright, hcs⟩ := exists_trim cs
  have hpad := trim_pad hleft hright (trim cs)
  rw [← hcs] at hpad
  exact hpad.symm

theorem mem_of_mem_trim (h : c ∈ trim cs) : c ∈ cs := by
  obtain ⟨left, right, -, -, hcs⟩ := exists_trim cs
  rw [hcs]
  simp [h]

theorem mem_of_mem_dropReturn (h : c ∈ dropReturn line) : c ∈ line := by
  unfold dropReturn at h
  split at h
  · exact List.dropLast_subset line h
  · exact h

/-- A carriage return at the end of a line is white space around it. -/
theorem trim_dropReturn (line : List Char) : trim (dropReturn line) = trim line := by
  unfold dropReturn
  split
  next hlast =>
    obtain ⟨front, rfl⟩ := List.getLast?_eq_some_iff.mp hlast
    have hreturn : Blank ['\r'] := List.all_eq_true.mp rfl
    have hpad := trim_pad (List.forall_mem_nil _) hreturn front
    rw [List.dropLast_concat, ← hpad, List.nil_append]
  next => rfl

end

section

variable {cs last line : List Char} {front : List (List Char)}

/-- What stands behind the last line feed is a line unless it is empty. -/
theorem lines_of_splitOn (h : cs.splitOn '\n' = front ++ [last]) :
    lines cs = front.map dropReturn ++ if last = [] then [] else [last] := by
  rw [lines, splitBy_eq_splitOn, h]
  simp only [List.dropLast_concat, List.getLast?_concat, Option.toList_some]
  by_cases hlast : last = [] <;> simp [hlast]

theorem exists_front (cs : List Char) : ∃ front last, cs.splitOn '\n' = front ++ [last] :=
  ⟨_, _, (List.dropLast_concat_getLast (List.splitOn_ne_nil '\n' cs)).symm⟩

theorem not_mem_lines (h : line ∈ lines cs) : '\n' ∉ line := by
  obtain ⟨front, last, hsplit⟩ := exists_front cs
  have hparts : ∀ part ∈ front ++ [last], '\n' ∉ part := fun part hpart =>
    not_mem_splitOn (hsplit ▸ hpart)
  rw [lines_of_splitOn hsplit, List.mem_append, List.mem_map] at h
  rcases h with ⟨part, hpart, rfl⟩ | h
  · exact fun hc => hparts part (List.mem_append_left _ hpart) (mem_of_mem_dropReturn hc)
  · split at h
    · cases h
    · exact hparts line (List.mem_append_right _ h)

end

end PriorityPortal.Text
