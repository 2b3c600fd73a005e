import PriorityPortal.Process.Status
import PriorityPortal.Proofs.Decimal
import PriorityPortal.Proofs.TextLayout
/-!
# The pids in a status

The first line with the label counts, and no line after it. It gives pids if it has fields and all
of them are numerals that fit a word, so what is printed there is read back.
-/
namespace PriorityPortal.Status

def FirstLine (text : String) (rest : List Char) : Prop :=
  ∃ before after, Text.Lined text.toList (before ++ (label ++ rest) :: after) ∧
    ∀ line ∈ before, ¬ label <+: line

def Lists (rest : List Char) (pids : List UInt64) : Prop :=
  ∃ fields, Text.Fields rest fields ∧ fields ≠ [] ∧
    List.Forall₂ (fun field pid => Text.Numeral field pid.toNat) fields pids

def Separates (c : Char) : Prop := c = '\t' ∨ c = ' '

/-- These pids in decimal, with tabs and spaces between them, and before and behind them or not. -/
inductive Prints : List Char → List UInt64 → Prop
  | gap {gap : List Char} (blank : ∀ c ∈ gap, Separates c) : Prints gap []
  | pid {gap rest : List Char} {pid : UInt64} {pids : List UInt64} (blank : ∀ c ∈ gap, Separates c)
      (boundary : ∀ c ∈ rest.head?, Separates c) (others : Prints rest pids) :
      Prints (gap ++ (Text.decimal pid.toNat ++ rest)) (pid :: pids)

def EndsLine (behind : List Char) : Prop :=
  behind = [] ∨ ∃ after, behind = '\n' :: after ∨ behind = '\r' :: '\n' :: after

structure Reading (text : String) : Prop where
  listed : ∀ pids, nestedPids? text = some pids ↔ ∃ rest, FirstLine text rest ∧ Lists rest pids
  later : ∀ other rest, FirstLine text rest → FirstLine other rest →
    nestedPids? other = nestedPids? text
  spoilt : ∀ rest fields, FirstLine text rest → Text.Fields rest fields →
    (∃ field ∈ fields, ∀ n, Text.Numeral field n → UInt64.size ≤ n) → nestedPids? text = none
  printed : ∀ before lines line behind pids,
    text.toList = before ++ (label ++ line ++ behind) → Text.Whole before lines →
    (∀ other ∈ lines, ¬ label <+: other) → pids ≠ [] → Prints line pids → EndsLine behind →
    nestedPids? text = some pids

section

variable {text : String} {line rest behind : List Char} {pids : List UInt64} {c : Char}

theorem not_isPrefixOf_iff : (!label.isPrefixOf line) = true ↔ ¬ label <+: line := by
  rw [Bool.not_eq_true', Bool.eq_false_iff, ne_eq, List.isPrefixOf_iff_prefix]

theorem firstLine_iff : FirstLine text rest ↔
    (Text.lines text.toList).find? label.isPrefixOf = some (label ++ rest) := by
  rw [List.find?_eq_some_iff_append]
  simp only [not_isPrefixOf_iff]
  constructor
  · rintro ⟨before, after, hlined, hbefore⟩
    have hlabel : label.isPrefixOf (label ++ rest) = true :=
      List.isPrefixOf_iff_prefix.mpr (List.prefix_append label rest)
    exact ⟨hlabel, before, after, hlined.lines_eq, hbefore⟩
  · rintro ⟨-, before, after, hlines, hbefore⟩
    exact ⟨before, after, Text.lines_iff.mp hlines, hbefore⟩

theorem nestedPids_firstLine (h : FirstLine text rest) : nestedPids? text =
    if Text.words rest = [] then none else (Text.words rest).mapM Text.uint64? := by
  rw [nestedPids?, firstLine_iff.mp h]
  simp only [List.drop_left]
  split
  next hnone => rw [if_pos hnone]
  next hsome => rw [if_neg hsome]

theorem lists_iff : Lists rest pids ↔
    Text.words rest ≠ [] ∧ (Text.words rest).mapM Text.uint64? = some pids := by
  simp only [Text.mapM_eq_some_iff, Text.uint64_iff]
  constructor
  · rintro ⟨fields, hfields, h⟩
    rwa [hfields.words_eq]
  · exact fun h => ⟨_, Text.words_iff.mp rfl, h⟩

theorem exists_firstLine (h : nestedPids? text = some pids) : ∃ rest, FirstLine text rest := by
  unfold nestedPids? at h
  split at h
  next => cases h
  next line hfound =>
    obtain ⟨rest, rfl⟩ := List.isPrefixOf_iff_prefix.mp (List.find?_some hfound)
    exact ⟨rest, firstLine_iff.mpr hfound⟩

theorem nestedPids_iff (h : FirstLine text rest) :
    nestedPids? text = some pids ↔ Lists rest pids := by
  rw [nestedPids_firstLine h, lists_iff]
  split
  next hnone => simp [hnone]
  next hsome => simp [hsome]

theorem isBlank_of_separates (h : Separates c) : Text.isBlank c = true := by
  rcases h with rfl | rfl <;> decide

theorem isBlank_of_isDigit (h : c.isDigit = true) : Text.isBlank c = false := by
  have hrange : 48 ≤ c.toNat ∧ c.toNat ≤ 57 := by
    simpa [Char.isDigit, UInt32.le_iff_toNat_le] using h
  rw [Bool.eq_false_iff]
  intro hblank
  simp only [Text.isBlank, Bool.or_eq_true, Bool.and_eq_true, decide_eq_true_eq, beq_iff_eq]
    at hblank
  omega

theorem Prints.fields (h : Prints line pids) :
    Text.Fields line (pids.map fun pid => Text.decimal pid.toNat) := by
  induction h with
  | gap blank => exact .blank fun c hc => isBlank_of_separates (blank c hc)
  | pid blank boundary _ ih =>
    exact .field (fun c hc => isBlank_of_separates (blank c hc)) Nat.toDigits_ne_nil
      (fun c hc => isBlank_of_isDigit (Text.isDigit_of_mem_decimal hc))
      (fun c hc => isBlank_of_separates (boundary c hc)) ih

theorem Prints.lists (h : Prints line pids) (hsome : pids ≠ []) : Lists line pids := by
  refine ⟨_, h.fields, by simpa using hsome, ?_⟩
  rw [List.forall₂_map_left_iff, List.forall₂_same]
  exact fun pid _ => Text.numeral_decimal pid.toNat

theorem Prints.chars (h : Prints line pids) : ∀ c ∈ line, Separates c ∨ c.isDigit = true := by
  induction h with
  | gap blank => exact fun c hc => Or.inl (blank c hc)
  | pid blank _ _ ih =>
    intro c hc
    rcases List.mem_append.mp hc with hc | hc
    · exact Or.inl (blank c hc)
    · rcases List.mem_append.mp hc with hc | hc
      · exact Or.inr (Text.isDigit_of_mem_decimal hc)
      · exact ih c hc

theorem Prints.not_mem (h : Prints line pids) (hc : ¬ Separates c) (hdigit : c.isDigit = false)
    (hlabel : c ∉ label) : c ∉ label ++ line := by
  rw [List.mem_append]
  rintro (hm | hm)
  · exact hlabel hm
  · rcases h.chars c hm with hs | hd
    · exact hc hs
    · rw [hdigit] at hd
      cases hd

theorem lines_printed (h : Prints line pids) (hend : EndsLine behind) :
    ∃ after, Text.lines (label ++ line ++ behind) = (label ++ line) :: after := by
  have hfeed : '\n' ∉ label ++ line := h.not_mem (by simp [Separates]) (by decide) (by decide)
  have hreturn : '\r' ∉ label ++ line := h.not_mem (by simp [Separates]) (by decide) (by decide)
  rcases hend with rfl | ⟨after, rfl | rfl⟩
  · refine ⟨[], ?_⟩
    have hsome : label ++ line ≠ [] := List.append_ne_nil_of_left_ne_nil (by decide) line
    rw [List.append_nil, Text.lines_last hfeed, if_neg hsome]
  · have hlast : (label ++ line).getLast? ≠ some '\r' :=
      fun heq => hreturn (List.mem_of_getLast? heq)
    exact ⟨_, Text.lines_ended hfeed (.feed hlast) after⟩
  · exact ⟨_, Text.lines_ended hfeed .returnFeed after⟩

theorem prints_tabs (pids : List UInt64) :
    Prints (pids.flatMap fun pid => '\t' :: Text.decimal pid.toNat) pids := by
  induction pids with
  | nil => exact .gap (List.forall_mem_nil _)
  | cons pid pids ih =>
    have hgap : ∀ c ∈ ['\t'], Separates c := by simp [Separates]
    rw [List.flatMap_cons]
    refine .pid hgap ?_ ih
    cases pids <;> simp [Separates]

end

/-- The pids of a status are the numerals on its first line with the label. -/
theorem status_lists_pids (text : String) : Reading text := by
  constructor
  case listed =>
    intro pids
    constructor
    · intro h
      obtain ⟨rest, hfirst⟩ := exists_firstLine h
      exact ⟨rest, hfirst, (nestedPids_iff hfirst).mp h⟩
    · rintro ⟨rest, hfirst, h⟩
      exact (nestedPids_iff hfirst).mpr h
  case later =>
    intro other rest htext hother
    rw [nestedPids_firstLine htext, nestedPids_firstLine hother]
  case spoilt =>
    rintro rest fields hfirst hfields ⟨field, hm, hbad⟩
    by_contra hsome
    obtain ⟨pids, hpids⟩ := Option.ne_none_iff_exists'.mp hsome
    obtain ⟨found, hfound, -, hnumerals⟩ := (nestedPids_iff hfirst).mp hpids
    obtain rfl : found = fields := hfound.words_eq.symm.trans hfields.words_eq
    obtain ⟨pid, hnumeral⟩ := Text.exists_of_forall₂ hnumerals field hm
    exact absurd (hbad pid.toNat hnumeral) (Nat.not_le.mpr pid.toNat_lt_size)
  case printed =>
    intro before lines line behind pids htext whole hbefore hsome prints hend
    obtain ⟨after, hlines⟩ := lines_printed prints hend
    have hlined := whole.lines_append (label ++ line ++ behind)
    rw [hlines, ← htext] at hlined
    have hfirst : FirstLine text line := ⟨lines, after, Text.lines_iff.mp hlined, hbefore⟩
    exact (nestedPids_iff hfirst).mpr (prints.lists hsome)

/-- A line before, which ends otherwise, and one behind that starts with the label too. -/
theorem status_lists_pids_sample :
    Text.Whole "Name:\tbwrap\r\n".toList ["Name:\tbwrap".toList] ∧
      Prints "\t9001\t42".toList [9001, 42] ∧
      nestedPids? "Name:\tbwrap\r\nNSpid:\t9001\t42\nNSpid:\t7\n" = some [9001, 42] := by
  have hname : '\n' ∉ "Name:\tbwrap".toList := by decide
  have whole : Text.Whole "Name:\tbwrap\r\n".toList ["Name:\tbwrap".toList] :=
    .cons hname .returnFeed .nil
  have prints : Prints "\t9001\t42".toList [9001, 42] := prints_tabs [9001, 42]
  have hbefore : ∀ other ∈ ["Name:\tbwrap".toList], ¬ label <+: other := by decide
  have hend : EndsLine "\nNSpid:\t7\n".toList := Or.inr ⟨_, Or.inl rfl⟩
  exact ⟨whole, prints,
    (status_lists_pids _).printed _ _ _ _ _ rfl whole hbefore (List.cons_ne_nil _ _) prints hend⟩

end PriorityPortal.Status
