import Mathlib.Data.List.Induction
import PriorityPortal.Proofs.TrimmedLines
/-!
# How a text is laid out

A text is made of lines, each with its end, and the last one with an end or not. A line is made of
fields with white space between them. There is one way to see a text so, and cutting it into lines
and into words finds it.
-/
namespace PriorityPortal.Text

/-- The fields of a text, with white space between them, and before and behind them or not. -/
inductive Fields : List Char → List (List Char) → Prop
  | blank {gap : List Char} (blank : Blank gap) : Fields gap []
  | field {gap field rest : List Char} {fields : List (List Char)} (blank : Blank gap)
      (present : field ≠ []) (chars : ∀ c ∈ field, isBlank c = false)
      (boundary : ∀ c ∈ rest.head?, isBlank c = true) (others : Fields rest fields) :
      Fields (gap ++ (field ++ rest)) (field :: fields)

/-- The ends a line can have. A carriage return before the line feed belongs to the end. -/
inductive LineEnd (line : List Char) : List Char → Prop
  | feed (noReturn : line.getLast? ≠ some '\r') : LineEnd line ['\n']
  | returnFeed : LineEnd line ['\r', '\n']

inductive Whole : List Char → List (List Char) → Prop
  | nil : Whole [] []
  | cons {line ending text : List Char} {lines : List (List Char)} (inside : '\n' ∉ line)
      (ended : LineEnd line ending) (others : Whole text lines) :
      Whole (line ++ (ending ++ text)) (line :: lines)

inductive Lined : List Char → List (List Char) → Prop
  | whole {text : List Char} {lines : List (List Char)} (ended : Whole text lines) :
      Lined text lines
  | unended {text last : List Char} {lines : List (List Char)} (ended : Whole text lines)
      (inside : '\n' ∉ last) (present : last ≠ []) : Lined (text ++ last) (lines ++ [last])

section

variable {gap field rest cs : List Char} {fields : List (List Char)} {c : Char}

theorem words_cons_blank (h : isBlank c = true) (cs : List Char) : words (c :: cs) = words cs := by
  rw [words, splitBy_cons_of_pos h]
  rfl

theorem words_gap (h : Blank gap) (cs : List Char) : words (gap ++ cs) = words cs := by
  induction gap with
  | nil => rfl
  | cons c gap ih =>
    obtain ⟨hc, hgap⟩ := List.forall_mem_cons.mp h
    rw [List.cons_append, words_cons_blank hc, ih hgap]

theorem words_field (present : field ≠ []) (chars : ∀ c ∈ field, isBlank c = false)
    (boundary : ∀ c ∈ rest.head?, isBlank c = true) :
    words (field ++ rest) = field :: words rest := by
  have hkept : ∀ others : List (List Char), (field :: others).filter (fun word => !word.isEmpty) =
      field :: others.filter (fun word => !word.isEmpty) :=
    fun _ => List.filter_cons_of_pos (by simpa using present)
  cases rest with
  | nil =>
    rw [List.append_nil, words, splitBy_eq_splitOnP, List.splitOnP_eq_singleton chars, hkept]
    rfl
  | cons c rest =>
    have hc : isBlank c = true := boundary c rfl
    rw [words_cons_blank hc, words, words, splitBy_eq_splitOnP, splitBy_eq_splitOnP,
      List.splitOnP_append_cons_of_forall_mem chars c hc, hkept]

theorem Fields.words_eq (h : Fields cs fields) : words cs = fields := by
  induction h with
  | @blank gap blank => simpa [words] using words_gap blank []
  | field blank present chars boundary _ ih =>
    rw [words_gap blank, words_field present chars boundary, ih]

theorem Fields.cons_blank (hc : isBlank c = true) (h : Fields cs fields) :
    Fields (c :: cs) fields := by
  cases h with
  | blank blank => exact .blank (List.forall_mem_cons.mpr ⟨hc, blank⟩)
  | field blank present chars boundary others =>
    exact .field (List.forall_mem_cons.mpr ⟨hc, blank⟩) present chars boundary others

/-- A character that is not blank begins a field, and goes on with it where one follows at once. -/
theorem Fields.cons_char (hc : isBlank c = false) (h : Fields cs fields) :
    ∃ more, Fields (c :: cs) more := by
  have hchars : ∀ d ∈ [c], isBlank d = false := by simpa using hc
  have alone : (∀ d ∈ cs.head?, isBlank d = true) → Fields (c :: cs) ([c] :: fields) :=
    fun boundary => .field (List.forall_mem_nil _) (List.cons_ne_nil c []) hchars boundary h
  cases h with
  | blank blank => exact ⟨_, alone fun d hd => blank d (List.mem_of_mem_head? hd)⟩
  | @field gap field rest fields blank present chars boundary others =>
    cases gap with
    | cons d gap =>
      refine ⟨_, alone fun e he => ?_⟩
      obtain rfl := Option.some.inj he
      exact blank d List.mem_cons_self
    | nil =>
      have hmore : ∀ d ∈ c :: field, isBlank d = false := List.forall_mem_cons.mpr ⟨hc, chars⟩
      exact ⟨_, .field (List.forall_mem_nil _) (List.cons_ne_nil c field) hmore boundary others⟩

theorem exists_fields (cs : List Char) : ∃ fields, Fields cs fields := by
  induction cs with
  | nil => exact ⟨[], .blank (List.forall_mem_nil _)⟩
  | cons c cs ih =>
    obtain ⟨fields, h⟩ := ih
    cases hc : isBlank c with
    | true => exact ⟨fields, h.cons_blank hc⟩
    | false => exact h.cons_char hc

/-- The words of a text are its fields. -/
theorem words_iff : words cs = fields ↔ Fields cs fields := by
  refine ⟨?_, Fields.words_eq⟩
  rintro rfl
  obtain ⟨fields, h⟩ := exists_fields cs
  rwa [h.words_eq]

end

section

variable {line last ending text cs : List Char} {ls : List (List Char)}

theorem lines_feed (h : '\n' ∉ line) (rest : List Char) :
    lines (line ++ '\n' :: rest) = dropReturn line :: lines rest := by
  obtain ⟨front, last, hrest⟩ := exists_front rest
  have hsplit : (line ++ '\n' :: rest).splitOn '\n' = (line :: front) ++ [last] := by
    rw [List.splitOn_append_cons_self_of_not_mem h, hrest, List.cons_append]
  rw [lines_of_splitOn hsplit, lines_of_splitOn hrest, List.map_cons, List.cons_append]

theorem lines_last (h : '\n' ∉ last) : lines last = if last = [] then [] else [last] := by
  have hsplit : last.splitOn '\n' = [] ++ [last] := List.splitOn_eq_singleton h
  exact lines_of_splitOn hsplit

theorem lines_ended (inside : '\n' ∉ line) (ended : LineEnd line ending) (rest : List Char) :
    lines (line ++ (ending ++ rest)) = line :: lines rest := by
  cases ended with
  | feed noReturn =>
    rw [List.singleton_append, lines_feed inside, dropReturn, if_neg noReturn]
  | returnFeed =>
    have hreturn : '\n' ∉ line ++ ['\r'] := by simp [inside]
    have hdrop : dropReturn (line ++ ['\r']) = line := by simp [dropReturn]
    have hfeed := lines_feed hreturn rest
    rwa [hdrop, List.append_assoc] at hfeed

theorem Whole.lines_append (h : Whole text ls) (rest : List Char) :
    lines (text ++ rest) = ls ++ lines rest := by
  induction h with
  | nil => rfl
  | cons inside ended _ ih =>
    rw [List.append_assoc, List.append_assoc, lines_ended inside ended, ih, List.cons_append]

theorem Whole.append {more : List Char} {ms : List (List Char)} (h : Whole text ls)
    (hmore : Whole more ms) : Whole (text ++ more) (ls ++ ms) := by
  induction h with
  | nil => exact hmore
  | cons inside ended _ ih =>
    rw [List.append_assoc, List.append_assoc]
    exact .cons inside ended ih

theorem Lined.lines_eq (h : Lined cs ls) : lines cs = ls := by
  cases h with
  | whole ended => simpa [lines] using ended.lines_append []
  | unended ended inside present => rw [ended.lines_append, lines_last inside, if_neg present]

theorem Whole.ended (h : Whole text ls) (inside : '\n' ∉ last) (ended : LineEnd last ending) :
    Whole (text ++ (last ++ ending)) (ls ++ [last]) := by
  have hlast := Whole.cons inside ended .nil
  rw [List.append_nil] at hlast
  exact h.append hlast

/-- Only what stands behind the last line feed belongs to no ended line. -/
theorem exists_whole (cs : List Char) :
    ∃ text ls last, cs = text ++ last ∧ Whole text ls ∧ '\n' ∉ last := by
  induction cs using List.reverseRecOn with
  | nil => exact ⟨[], [], [], rfl, .nil, List.not_mem_nil⟩
  | append_singleton cs c ih =>
    obtain ⟨text, ls, last, rfl, whole, inside⟩ := ih
    by_cases hc : c = '\n'
    · subst hc
      -- A carriage return that the text ended in becomes part of the line end.
      by_cases hlast : last.getLast? = some '\r'
      · obtain ⟨line, rfl⟩ := List.getLast?_eq_some_iff.mp hlast
        have hline : '\n' ∉ line := fun hm => inside (List.mem_append_left _ hm)
        exact ⟨_, _, [], by simp, whole.ended hline .returnFeed, List.not_mem_nil⟩
      · exact ⟨_, _, [], by simp, whole.ended inside (.feed hlast), List.not_mem_nil⟩
    · refine ⟨text, ls, last ++ [c], List.append_assoc .., whole, ?_⟩
      rw [List.mem_append, List.mem_singleton]
      exact not_or.mpr ⟨inside, fun heq => hc heq.symm⟩

/-- Lines are what stands between the line ends. -/
theorem lines_iff : lines cs = ls ↔ Lined cs ls := by
  refine ⟨?_, Lined.lines_eq⟩
  rintro rfl
  obtain ⟨text, ls, last, rfl, ended, inside⟩ := exists_whole cs
  rw [ended.lines_append, lines_last inside]
  split
  next hlast =>
    rw [hlast, List.append_nil, List.append_nil]
    exact .whole ended
  next hlast => exact .unended ended inside hlast

end

end PriorityPortal.Text
