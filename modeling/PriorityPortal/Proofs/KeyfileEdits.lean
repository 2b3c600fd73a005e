import Mathlib.Logic.Relation
import PriorityPortal.Proofs.KeyfileName
import PriorityPortal.Proofs.TrimmedLines
/-!
# What does not matter in a keyfile

A keyfile tells of exactly one application or of none. Blank lines, comments, white space around
lines and groups of other names may be added without changing that, and a line that gives no name in
the group of the application may be taken out.
-/
namespace PriorityPortal.Keyfile

def rawLines (text : String) : List (List Char) := text.toList.splitOn '\n'

def Line.ofRaw (line : List Char) : Line := .ofTrimmed (Text.trim line)

/-- A line that is added, white space that is added around a line, or a group that is added in front
of a header; the group is not of the given name. -/
inductive Edit (group : List Char) : List (List Char) → List (List Char) → Prop where
  | blank (before after line) (blank : Text.Blank line) :
      Edit group (before ++ after) (before ++ line :: after)
  | comment (before after line) (sign : (Text.trim line).head? = some '#') :
      Edit group (before ++ after) (before ++ line :: after)
  | space (before after left line right) (leading : Text.Blank left)
      (trailing : Text.Blank right) :
      Edit group (before ++ line :: after) (before ++ (left ++ line ++ right) :: after)
  | group (before after) {first name next found} (entries)
      (header : IsHeader name (Text.trim first)) (other : name ≠ group)
      (own : ∀ line ∈ entries, ∀ found, ¬ IsHeader found (Text.trim line))
      (boundary : IsHeader found (Text.trim next)) :
      Edit group (before ++ next :: after) (before ++ first :: (entries ++ next :: after))

/-- A trimmed line behind others that cannot give a value in a group of this name: it lies in
another group or in none, or is a comment, or has an empty value. -/
structure Uncounted (group : List Char) (before : List (List Char)) (line : List Char) : Prop where
  noHeader : ∀ found, ¬ IsHeader found line
  reason : ¬ Under group before ∨ line.head? = some '#' ∨ ∃ key, IsEntry key [] line

section

variable {group key value line : List Char} {inside : Bool}

theorem ofRaw_header_iff {found : List Char} :
    Line.ofRaw line = .header found ↔ IsHeader found (Text.trim line) :=
  ofTrimmed_header_iff

theorem ofTrimmed_comment (h : line.head? = some '#') : Line.ofTrimmed line = .other := by
  rw [Line.ofTrimmed, if_pos h]

theorem ofRaw_blank (h : Text.Blank line) : Line.ofRaw line = .other := by
  rw [Line.ofRaw, Text.trim_blank h]
  rfl

theorem ofRaw_space {left right : List Char} (hleft : Text.Blank left) (hright : Text.Blank right)
    (line : List Char) : Line.ofRaw (left ++ line ++ right) = Line.ofRaw line := by
  rw [Line.ofRaw, Text.trim_pad hleft hright, Line.ofRaw]

/-- What is found in the first lines comes first; else the later lines go on from the group in which
the first ones end. -/
theorem value_append (before after : List Line) : value? group key inside (before ++ after) =
    (value? group key inside before).or
      (value? group key (insideAfter group inside before) after) := by
  induction before generalizing inside with
  | nil => rfl
  | cons line before ih =>
    cases line with
    | header found => exact ih
    | other => exact ih
    | entry found given =>
      rw [List.cons_append]
      simp only [value?]
      split
      · rfl
      · exact ih

/-- Lines behind which the rest is read alike may be exchanged. -/
theorem value_congr (before : List Line) {after other : List Line}
    (h : ∀ inside, value? group key inside after = value? group key inside other) :
    value? group key inside (before ++ after) = value? group key inside (before ++ other) := by
  rw [value_append, value_append, h]

/-- Outside of the group nothing is found up to the next header. -/
theorem value_outside {lines : List Line} (h : ∀ line ∈ lines, ∀ found, line ≠ .header found) :
    value? group key false lines = none := by
  induction lines with
  | nil => rfl
  | cons line lines ih =>
    obtain ⟨hline, hlines⟩ := List.forall_mem_cons.mp h
    cases line with
    | header found => exact absurd rfl (hline found)
    | entry found given => exact ih hlines
    | other => exact ih hlines

theorem value_ne_none_of_hits {lines before : List Line}
    (h : Hits group key inside lines before value) : value? group key inside lines ≠ none := by
  obtain ⟨⟨after, rfl⟩, hinside, hpresent⟩ := h
  have hfound : value? group key true (.entry key value :: after) = some value := by
    simp [value?, hpresent]
  rw [value_append, hinside, hfound, Option.or_some]
  exact Option.some_ne_none _

/-- It does not matter that a carriage return belongs to the end of a line, nor that nothing is left
behind the last line feed. -/
theorem value_rawLines (text : String) : value? group key inside (lines text) =
    value? group key inside ((rawLines text).map Line.ofRaw) := by
  obtain ⟨front, last, hsplit⟩ := Text.exists_front text.toList
  have hread : (fun line => Line.ofTrimmed (Text.trim line)) = Line.ofRaw := rfl
  have hreturn : Line.ofRaw ∘ Text.dropReturn = Line.ofRaw := by
    funext line
    rw [Function.comp_apply, Line.ofRaw, Text.trim_dropReturn, Line.ofRaw]
  rw [lines, hread, Text.lines_of_splitOn hsplit, rawLines, hsplit, List.map_append,
    List.map_append, List.map_map, hreturn]
  apply value_congr
  intro inside
  by_cases hlast : last = []
  · subst hlast
    rfl
  · rw [if_neg hlast]

theorem applicationName_rawLines (text : String) : applicationName? text =
    (value? "Application".toList "name".toList false ((rawLines text).map Line.ofRaw)).map
      String.ofList := by
  rw [applicationName?, value_rawLines]

theorem Edit.value_eq {lines more : List (List Char)} (h : Edit group lines more) :
    value? group key inside (more.map Line.ofRaw) =
      value? group key inside (lines.map Line.ofRaw) := by
  cases h with
  | blank before after line blank =>
    rw [List.map_append, List.map_append, List.map_cons, ofRaw_blank blank]
    exact value_congr _ fun _ => rfl
  | comment before after line sign =>
    rw [List.map_append, List.map_append, List.map_cons, Line.ofRaw, ofTrimmed_comment sign]
    exact value_congr _ fun _ => rfl
  | space before after left line right leading trailing =>
    rw [List.map_append, List.map_append, List.map_cons, List.map_cons,
      ofRaw_space leading trailing]
  | @group before after first name next found entries header other own boundary =>
    have hentries : ∀ line ∈ entries.map Line.ofRaw, ∀ found, line ≠ .header found := by
      intro line hm found heq
      obtain ⟨raw, hraw, rfl⟩ := List.mem_map.mp hm
      exact own raw hraw found (ofRaw_header_iff.mp heq)
    have hother : (name == group) = false := beq_false_of_ne other
    rw [List.map_append, List.map_append, List.map_cons, List.map_append, List.map_cons,
      ofRaw_header_iff.mpr header, ofRaw_header_iff.mpr boundary]
    refine value_congr _ fun inside => ?_
    -- Whatever group the added lines end in, the header behind them begins another one.
    calc value? group key inside
          (.header name :: (entries.map Line.ofRaw ++ .header found :: after.map Line.ofRaw))
      _ = value? group key false
          (entries.map Line.ofRaw ++ .header found :: after.map Line.ofRaw) := by
        rw [value?, hother]
      _ = value? group key (found == group) (after.map Line.ofRaw) := by
        rw [value_append, value_outside hentries, Option.none_or, value?]
      _ = value? group key inside (.header found :: after.map Line.ofRaw) := by rw [value?]

theorem value_eq_of_edits {lines more : List (List Char)}
    (h : Relation.ReflTransGen (Edit group) lines more) :
    value? group key inside (more.map Line.ofRaw) =
      value? group key inside (lines.map Line.ofRaw) := by
  induction h with
  | refl => rfl
  | tail _ hedit ih => exact hedit.value_eq.trans ih

theorem Uncounted.value_eq {before : List (List Char)} (after : List (List Char))
    (h : Uncounted group (before.map Text.trim) (Text.trim line)) :
    value? group key false ((before ++ line :: after).map Line.ofRaw) =
      value? group key false ((before ++ after).map Line.ofRaw) := by
  obtain ⟨hheader, hreason⟩ := h
  have hinside : insideAfter group false (before.map Line.ofRaw) = true ↔
      Under group (before.map Text.trim) := by
    have hread : before.map Line.ofRaw = (before.map Text.trim).map Line.ofTrimmed := by
      rw [List.map_map]
      rfl
    rw [hread, insideAfter_iff]
    simp
  rw [List.map_append, List.map_append, value_append, value_append, List.map_cons]
  congr 1
  cases hline : Line.ofRaw line with
  | header found => exact absurd (ofRaw_header_iff.mp hline) (hheader found)
  | other => rfl
  | entry found given =>
    have hentry : IsEntry found given (Text.trim line) := ofTrimmed_entry_iff.mp hline
    rw [value?, if_neg]
    intro hcounts
    rw [Bool.and_eq_true, Bool.and_eq_true] at hcounts
    rcases hreason with hunder | hcomment | ⟨key, hempty⟩
    · exact hunder (hinside.mp hcounts.1.1)
    · exact hentry.noComment hcomment
    · have hsame := (ofTrimmed_entry_iff.mpr hempty).symm.trans hline
      obtain ⟨-, rfl⟩ := Line.entry.inj hsame
      simp at hcounts

/-- Lines that give a key a value have a first one that does. -/
theorem value_none_iff {lines : List (List Char)} :
    value? group key false (lines.map Line.ofTrimmed) = none ↔
      ∀ before value, ¬ Assigns group key lines before value := by
  constructor
  · intro hnone before value h
    exact value_ne_none_of_hits (hits_of_assigns h) hnone
  · intro hno
    by_contra hsome
    obtain ⟨value, hvalue⟩ := Option.ne_none_iff_exists'.mp hsome
    obtain ⟨before, h, -⟩ := value_iff_firstValue.mp hvalue
    exact hno before value h

theorem Assigns.value_trimmed {lines before : List (List Char)}
    (h : Assigns group key lines before value) : Text.trim value = value := by
  obtain ⟨⟨line, after, -, hentry⟩, -, -⟩ := h
  obtain ⟨left, right, -, -, -, rfl⟩ := hentry.parts
  exact Text.trim_trim right

theorem Assigns.value_on_line {text : String} {before : List (List Char)}
    (h : Assigns group key (trimmedLines text) before value) : '\n' ∉ value := by
  obtain ⟨⟨line, after, hlines, hentry⟩, -, -⟩ := h
  obtain ⟨left, right, hline, -, -, rfl⟩ := hentry.parts
  have hmem : line ∈ trimmedLines text := by
    rw [hlines]
    exact List.mem_append_right _ List.mem_cons_self
  obtain ⟨raw, hraw, rfl⟩ := List.mem_map.mp hmem
  intro hc
  have hright : '\n' ∈ right := Text.mem_of_mem_trim hc
  have htrimmed : '\n' ∈ Text.trim raw := by
    rw [hline]
    exact List.mem_append_right _ (List.mem_cons_of_mem _ hright)
  exact Text.not_mem_lines hraw (Text.mem_of_mem_trim htrimmed)

end

structure Telling (text : String) : Prop where
  named : ∀ name, applicationName? text = some name ↔ Names text name
  unnamed : applicationName? text = none ↔
    ∀ before value, ¬ Assigns "Application".toList "name".toList (trimmedLines text) before value
  shape : ∀ name, applicationName? text = some name →
    name ≠ "" ∧ Text.trim name.toList = name.toList ∧ '\n' ∉ name.toList
  uncounted : ∀ other before line after, rawLines text = before ++ line :: after →
    Uncounted "Application".toList (before.map Text.trim) (Text.trim line) →
    rawLines other = before ++ after → applicationName? other = applicationName? text
  edited : ∀ other,
    Relation.ReflTransGen (Edit "Application".toList) (rawLines text) (rawLines other) →
    applicationName? other = applicationName? text

/-- A keyfile tells of the application that the first line with a name in its group gives, and of
none if no line does. -/
theorem keyfile_tells_exactly (text : String) : Telling text := by
  have hlines : lines text = (trimmedLines text).map Line.ofTrimmed := by
    simp [lines, trimmedLines]
  constructor
  case named => exact fun name => applicationName_iff
  case unnamed => rw [applicationName?, Option.map_eq_none_iff, hlines, value_none_iff]
  case shape =>
    intro name hname
    obtain ⟨before, h, -⟩ := applicationName_iff.mp hname
    refine ⟨?_, h.value_trimmed, h.value_on_line⟩
    rintro rfl
    exact h.present rfl
  case uncounted =>
    intro other before line after htext huncounted hother
    rw [applicationName_rawLines, applicationName_rawLines, htext, hother,
      huncounted.value_eq after]
  case edited =>
    intro other hedits
    rw [applicationName_rawLines, applicationName_rawLines, value_eq_of_edits hedits]

def plainText : String := "[Application]\nname=org.example.App"

def editedText : String :=
  "[Session Bus Policy]\nname=talk\n# [Other]\n\t[Application] \r\nname=org.example.App"

theorem plainText_edits : Relation.ReflTransGen (Edit "Application".toList) (rawLines plainText)
    (rawLines editedText) := by
  let policy := "[Session Bus Policy]".toList
  let talk := "name=talk".toList
  let application := "[Application]".toList
  let name := "name=org.example.App".toList
  have hplain : rawLines plainText = [application, name] := by decide
  have hedited : rawLines editedText =
      [policy, talk, "# [Other]".toList, "\t[Application] \r".toList, name] := by
    decide
  have hpolicy : IsHeader "Session Bus Policy".toList (Text.trim policy) :=
    header_eq_some_iff.mp (by decide)
  have happlication : IsHeader "Application".toList (Text.trim application) :=
    header_eq_some_iff.mp (by decide)
  have htalk : ∀ line ∈ [talk], ∀ found, ¬ IsHeader found (Text.trim line) := by
    intro line hm found
    have hnone : header? (Text.trim talk) = none := by decide
    obtain rfl := List.mem_singleton.mp hm
    rw [← header_eq_some_iff, hnone]
    exact nofun
  rw [hplain, hedited]
  have hgroup : Edit "Application".toList _ _ :=
    .group [] [name] [talk] hpolicy (by decide) htalk happlication
  have hcomment : Edit "Application".toList _ _ :=
    .comment [policy, talk] [application, name] "# [Other]".toList (by decide)
  have hspace : Edit "Application".toList _ _ :=
    .space [policy, talk, "# [Other]".toList] [name] "\t".toList application " \r".toList
      (List.all_eq_true.mp rfl) (List.all_eq_true.mp rfl)
  exact ((Relation.ReflTransGen.single hgroup).tail hcomment).tail hspace

theorem keyfile_tells_exactly_sample :
    Relation.ReflTransGen (Edit "Application".toList) (rawLines plainText) (rawLines editedText) ∧
      applicationName? editedText = applicationName? plainText :=
  ⟨plainText_edits, (keyfile_tells_exactly plainText).edited editedText plainText_edits⟩

end PriorityPortal.Keyfile
