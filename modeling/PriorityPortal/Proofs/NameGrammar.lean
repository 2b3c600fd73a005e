import PriorityPortal.DBus.Name
import PriorityPortal.Text.Blank
/-!
# The grammar of names and paths

Names and paths by the rules of the D-Bus specification: they are made of elements, and a name has
at least two with dots between them. The checks that a message has to pass agree with these rules,
but for names that end in a dot.
-/
namespace PriorityPortal

namespace Text

/-- A text that is made of parts, at least one, with a separator between them. -/
structure Joined (sep : Char) (parts : List (List Char)) (cs : List Char) : Prop where
  nonempty : parts ≠ []
  apart : ∀ part ∈ parts, sep ∉ part
  text : cs = [sep].intercalate parts

variable {sep c : Char} {cs part : List Char} {parts : List (List Char)}

theorem splitBy_eq_splitOnP {α : Type} (p : α → Bool) (xs : List α) :
    splitBy p xs = xs.splitOnP p := by
  induction xs with
  | nil => rfl
  | cons x xs ih =>
    rw [List.splitOnP_cons_eq_if_modifyHead, ← ih]
    by_cases h : p x = true
    · rw [splitBy_cons_of_pos h, if_pos h]
    · obtain ⟨first, rest, hs⟩ := List.exists_cons_of_ne_nil (splitBy_ne_nil p xs)
      rw [if_neg h, hs]
      unfold splitBy at hs ⊢
      rw [List.foldr_cons, hs, if_neg h]
      rfl

theorem splitBy_eq_splitOn (sep : Char) (cs : List Char) :
    splitBy (· == sep) cs = cs.splitOn sep := by
  rw [splitBy_eq_splitOnP, List.splitOn_eq_splitOnP]

theorem exists_splitOn (sep : Char) (cs : List Char) :
    ∃ part rest, cs.splitOn sep = part :: rest :=
  List.exists_cons_of_ne_nil (List.splitOn_ne_nil sep cs)

theorem splitOn_cons_self (sep : Char) (cs : List Char) :
    (sep :: cs).splitOn sep = [] :: cs.splitOn sep := by
  rw [List.splitOn_cons_eq_if_modifyHead, if_pos (beq_self_eq_true sep)]

theorem splitOn_cons_ne {rest : List (List Char)} (h : c ≠ sep)
    (hs : cs.splitOn sep = part :: rest) :
    (c :: cs).splitOn sep = (c :: part) :: rest := by
  rw [List.splitOn_cons_eq_if_modifyHead, if_neg (by simpa using h), hs, List.modifyHead_cons]

theorem not_mem_splitOn (h : part ∈ cs.splitOn sep) : sep ∉ part := by
  induction cs generalizing part with
  | nil =>
    obtain rfl : part = [] := by simpa using h
    exact List.not_mem_nil
  | cons c cs ih =>
    by_cases hc : c = sep
    · subst hc
      rw [splitOn_cons_self] at h
      rcases List.mem_cons.mp h with rfl | h
      · exact List.not_mem_nil
      · exact ih h
    · obtain ⟨first, rest, hs⟩ := exists_splitOn sep cs
      rw [splitOn_cons_ne hc hs] at h
      rw [hs] at ih
      rcases List.mem_cons.mp h with rfl | h
      · intro hm
        rcases List.mem_cons.mp hm with rfl | hm
        · exact hc rfl
        · exact ih List.mem_cons_self hm
      · exact ih (List.mem_cons_of_mem _ h)

/-- A text is made of the parts between the separators and of no others. -/
theorem joined_iff : Joined sep parts cs ↔ cs.splitOn sep = parts := by
  constructor
  · rintro ⟨hsome, hapart, rfl⟩
    exact List.splitOn_intercalate sep hapart hsome
  · rintro rfl
    exact ⟨List.splitOn_ne_nil sep cs, fun _ => not_mem_splitOn,
      (List.intercalate_splitOn sep).symm⟩

theorem head_splitOn {rest : List (List Char)} (h : cs.splitOn sep = part :: rest) :
    (cs ++ [sep]).head? = (part ++ [sep]).head? := by
  cases cs with
  | nil =>
    obtain ⟨rfl, -⟩ : [] = part ∧ [] = rest := by simpa using h
    rfl
  | cons d cs =>
    by_cases hd : d = sep
    · subst hd
      rw [splitOn_cons_self] at h
      obtain ⟨rfl, -⟩ := List.cons.inj h
      rfl
    · obtain ⟨first, others, hs⟩ := exists_splitOn sep cs
      rw [splitOn_cons_ne hd hs] at h
      obtain ⟨rfl, -⟩ := List.cons.inj h
      rfl

theorem splitOn_eq_cons {rest : List (List Char)} (h : cs.splitOn sep = (c :: part) :: rest) :
    ∃ behind, cs = c :: behind ∧ behind.splitOn sep = part :: rest := by
  cases cs with
  | nil => simp at h
  | cons d behind =>
    by_cases hd : d = sep
    · subst hd
      simp [splitOn_cons_self] at h
    · obtain ⟨first, others, hs⟩ := exists_splitOn sep behind
      rw [splitOn_cons_ne hd hs] at h
      obtain ⟨hfirst, rfl⟩ := List.cons.inj h
      obtain ⟨rfl, rfl⟩ := List.cons.inj hfirst
      exact ⟨behind, rfl, hs⟩

theorem singleton_prefix_iff : [c] <+: cs ↔ cs.head? = some c := by
  cases cs with
  | nil => simp
  | cons d cs => simp [List.cons_prefix_cons, eq_comm]

/-- What stands behind a separator is what a later part starts with, or what ends it if it is
empty. -/
theorem infix_pair_iff {rest : List (List Char)} (h : cs.splitOn sep = part :: rest) :
    [sep, c] <:+: cs ++ [sep] ↔ ∃ later ∈ rest, (later ++ [sep]).head? = some c := by
  induction cs generalizing part rest with
  | nil =>
    obtain ⟨rfl, rfl⟩ : [] = part ∧ [] = rest := by simpa using h
    simp [List.infix_cons_iff]
  | cons d cs ih =>
    obtain ⟨first, others, hs⟩ := exists_splitOn sep cs
    rw [List.cons_append, List.infix_cons_iff, ih hs, List.cons_prefix_cons]
    by_cases hd : d = sep
    · subst hd
      rw [splitOn_cons_self, hs] at h
      obtain ⟨-, rfl⟩ := List.cons.inj h
      rw [singleton_prefix_iff, head_splitOn hs]
      simp
    · rw [splitOn_cons_ne hd hs] at h
      obtain ⟨-, rfl⟩ := List.cons.inj h
      simp [Ne.symm hd]

/-- The same where the end does not count. -/
theorem infix_pair_inner_iff {rest : List (List Char)} (h : cs.splitOn sep = part :: rest)
    (hlast : c = sep → cs.getLast? ≠ some sep) :
    [sep, c] <:+: cs ↔ ∃ later ∈ rest, (later ++ [sep]).head? = some c := by
  have hsuffix : ¬ [sep, c] <:+ cs ++ [sep] := by
    intro hs
    obtain ⟨before, hbefore⟩ := hs
    rw [List.append_cons, List.append_singleton_inj] at hbefore
    obtain ⟨rfl, hc⟩ := hbefore
    exact hlast hc List.getLast?_concat
  rw [← infix_pair_iff h, List.infix_concat_iff, or_iff_right hsuffix]

/-- What holds of the characters of all parts holds of all characters but the separators. -/
theorem forall_mem_splitOn {P : Char → Prop} :
    (∀ part ∈ cs.splitOn sep, ∀ c ∈ part, P c) ↔ ∀ c ∈ cs, c = sep ∨ P c := by
  induction cs with
  | nil => simp
  | cons d cs ih =>
    rw [List.forall_mem_cons, ← ih]
    by_cases hd : d = sep
    · subst hd
      simp [splitOn_cons_self]
    · obtain ⟨first, rest, hs⟩ := exists_splitOn sep cs
      rw [splitOn_cons_ne hd hs, hs]
      simp [hd, and_assoc]

end Text

namespace DBus

open Text (Joined)

def ElementChar (more : List Char) (c : Char) : Prop :=
  isLetterOrDigit c = true ∨ c = '_' ∨ c ∈ more

def IsDigit (c : Char) : Prop := '0' ≤ c ∧ c ≤ '9'

/-- An element of a name or path; it starts with a digit only if `digits`. -/
structure Element (digits : Bool) (more : List Char) (cs : List Char) : Prop where
  nonempty : cs ≠ []
  chars : ∀ c ∈ cs, ElementChar more c
  start : digits = false → ∀ c, cs.head? = some c → ¬ IsDigit c

def ObjectPath (path : String) : Prop :=
  path = "/" ∨ ∃ elements cs, path.toList = '/' :: cs ∧ Joined '/' elements cs ∧
    ∀ element ∈ elements, Element true [] element

def Dotted (more : List Char) (cs : List Char) : Prop :=
  ∃ elements, Joined '.' elements cs ∧ 2 ≤ elements.length ∧
    ∀ element ∈ elements, Element false more element

def InterfaceName (name : String) : Prop := name.utf8ByteSize ≤ 255 ∧ Dotted [] name.toList

def WellKnownName (name : String) : Prop := name.utf8ByteSize ≤ 255 ∧ Dotted ['-'] name.toList

/-- A name that the bus gives. The first element starts with a colon and needs no more than that;
elements may start with digits. -/
def UniqueName (name : String) : Prop :=
  name.utf8ByteSize ≤ 255 ∧ ∃ first rest, Joined '.' ((':' :: first) :: rest) name.toList ∧
    rest ≠ [] ∧ (∀ c ∈ first, ElementChar ['-'] c) ∧ ∀ element ∈ rest, Element true ['-'] element

def BusName (name : String) : Prop := UniqueName name ∨ WellKnownName name

section

variable {digits : Bool} {more cs part : List Char} {rest : List (List Char)} {before : Before}
  {c : Char}

/-- What may stand up to the next separator: an element at the start and behind a separator, and
elsewhere whatever ends one. -/
structure Goes (digits : Bool) (more : List Char) (before : Before) (part : List Char) : Prop where
  chars : ∀ c ∈ part, ElementChar more c
  whole : before = .boundary → Element digits more part

theorem goes_boundary : Goes digits more .boundary part ↔ Element digits more part :=
  ⟨fun h => h.whole rfl, fun h => ⟨h.chars, fun _ => h⟩⟩

theorem goes_inside : Goes digits more .inside part ↔ ∀ c ∈ part, ElementChar more c :=
  ⟨fun h => h.chars, fun h => ⟨h, fun hb => nomatch hb⟩⟩

theorem element_cons : Element digits more (c :: part) ↔
    (digits = false → ¬ IsDigit c) ∧ ElementChar more c ∧ ∀ d ∈ part, ElementChar more d := by
  constructor
  · intro h
    obtain ⟨hc, hpart⟩ := List.forall_mem_cons.mp h.chars
    exact ⟨fun hd => h.start hd c rfl, hc, hpart⟩
  · rintro ⟨hstart, hc, hpart⟩
    refine ⟨List.cons_ne_nil c part, List.forall_mem_cons.mpr ⟨hc, hpart⟩, ?_⟩
    rintro hd _ ⟨⟩
    exact hstart hd

theorem goes_cons : Goes digits more before (c :: part) ↔
    (before = .boundary → digits = false → ¬ IsDigit c) ∧ ElementChar more c ∧
      ∀ d ∈ part, ElementChar more d := by
  cases before with
  | boundary => simp [goes_boundary, element_cons]
  | inside => simp [goes_inside]

theorem pathFits_iff (h : cs.splitOn '/' = part :: rest) : pathFits before cs = true ↔
    Goes true [] before part ∧ ∀ element ∈ rest, Element true [] element := by
  -- By induction on the text: the first part of what is left is what goes on before it.
  induction cs generalizing before part rest with
  | nil =>
    obtain ⟨rfl, rfl⟩ : [] = part ∧ [] = rest := by simpa using h
    cases before with
    | boundary => simpa [pathFits, goes_boundary] using fun h : Element true [] [] => h.nonempty rfl
    | inside => simp [pathFits, goes_inside]
  | cons c cs ih =>
    obtain ⟨first, others, hs⟩ := Text.exists_splitOn '/' cs
    by_cases hc : c = '/'
    · subst hc
      rw [Text.splitOn_cons_self, hs] at h
      obtain ⟨rfl, rfl⟩ := List.cons.inj h
      rw [pathFits, if_pos rfl, Bool.and_eq_true, ih hs, goes_boundary, List.forall_mem_cons]
      cases before with
      | boundary => simpa [goes_boundary] using fun h : Element true [] [] => absurd rfl h.nonempty
      | inside => simp [goes_inside]
    · rw [Text.splitOn_cons_ne hc hs] at h
      obtain ⟨rfl, rfl⟩ := List.cons.inj h
      rw [pathFits, if_neg hc, Bool.and_eq_true, ih hs, goes_cons, goes_inside]
      simp [ElementChar, and_assoc]

/-- Where no later part is empty, the check finds out whether all are elements. -/
theorem elementsFit_iff (h : cs.splitOn '.' = part :: rest) (hrest : ∀ later ∈ rest, later ≠ [])
    (hpart : before = .boundary → part ≠ []) : elementsFit digits more before cs = true ↔
      Goes digits more before part ∧ ∀ element ∈ rest, Element digits more element := by
  -- The check takes the end of the text behind a dot for the end of an element, so that the parts
  -- have to be known not to be empty.
  induction cs generalizing before part rest with
  | nil =>
    obtain ⟨rfl, rfl⟩ : [] = part ∧ [] = rest := by simpa using h
    cases before with
    | boundary => exact absurd rfl (hpart rfl)
    | inside => simp [elementsFit, goes_inside]
  | cons c cs ih =>
    obtain ⟨first, others, hs⟩ := Text.exists_splitOn '.' cs
    by_cases hc : c = '.'
    · subst hc
      rw [Text.splitOn_cons_self, hs] at h
      obtain ⟨rfl, rfl⟩ := List.cons.inj h
      obtain ⟨hfirst, hothers⟩ := List.forall_mem_cons.mp hrest
      rw [elementsFit, if_pos rfl, Bool.and_eq_true, ih hs hothers fun _ => hfirst, goes_boundary,
        List.forall_mem_cons]
      cases before with
      | boundary => exact absurd rfl (hpart rfl)
      | inside => simp [goes_inside]
    · rw [Text.splitOn_cons_ne hc hs] at h
      obtain ⟨rfl, rfl⟩ := List.cons.inj h
      have hinside := @ih first others .inside hs hrest fun hb => nomatch hb
      rw [elementsFit, if_neg hc, goes_cons]
      by_cases hd : '0' ≤ c ∧ c ≤ '9' ∧ !digits ∧ before = .boundary
      · have hno : ¬ (before = .boundary → digits = false → ¬ IsDigit c) := by
          obtain ⟨hlow, hhigh, hdigits, hbefore⟩ := hd
          exact fun hall => hall hbefore (by simpa using hdigits) ⟨hlow, hhigh⟩
        rw [if_pos hd]
        simp [hno]
      · have hyes : before = .boundary → digits = false → ¬ IsDigit c :=
          fun hbefore hdigits hc => hd ⟨hc.1, hc.2, by simp [hdigits], hbefore⟩
        rw [if_neg hd, Bool.and_eq_true, hinside, goes_inside]
        simpa [ElementChar, and_assoc, or_assoc] using fun _ _ _ => hyes

theorem isObjectPath_iff (path : String) : isObjectPath path = true ↔ ObjectPath path := by
  have hroot : path ≠ "/" → (isObjectPath path = true ↔
      ∃ cs, path.toList = '/' :: cs ∧ pathFits .boundary cs = true) := by
    intro hpath
    rw [isObjectPath, Bool.or_eq_true, beq_iff_eq, or_iff_right hpath]
    constructor
    · intro h
      split at h
      next cs hcs => exact ⟨cs, hcs, h⟩
      next => cases h
    · rintro ⟨cs, hcs, h⟩
      simpa only [hcs] using h
  by_cases hpath : path = "/"
  · simp [isObjectPath, ObjectPath, hpath]
  · rw [hroot hpath, ObjectPath, or_iff_right hpath]
    constructor
    · rintro ⟨cs, hcs, h⟩
      obtain ⟨part, rest, hs⟩ := Text.exists_splitOn '/' cs
      rw [pathFits_iff hs, goes_boundary] at h
      exact ⟨part :: rest, cs, hcs, Text.joined_iff.mpr hs, List.forall_mem_cons.mpr h⟩
    · rintro ⟨elements, cs, hcs, hjoined, helements⟩
      obtain ⟨part, rest, rfl⟩ := List.exists_cons_of_ne_nil hjoined.nonempty
      refine ⟨cs, hcs, ?_⟩
      rw [pathFits_iff (Text.joined_iff.mp hjoined), goes_boundary]
      exact List.forall_mem_cons.mp helements

end

/-- At least two parts with dots between them, none of them empty. -/
structure Parted (cs : List Char) : Prop where
  two : 2 ≤ (cs.splitOn '.').length
  nonempty : ∀ part ∈ cs.splitOn '.', part ≠ []

section

variable {name : String} {more cs : List Char} {least : Nat}

theorem dotted_iff : Dotted more cs ↔ 2 ≤ (cs.splitOn '.').length ∧
    ∀ element ∈ cs.splitOn '.', Element false more element := by
  constructor
  · rintro ⟨elements, hjoined, helements⟩
    rw [Text.joined_iff] at hjoined
    rwa [hjoined]
  · exact fun h => ⟨_, Text.joined_iff.mpr rfl, h⟩

theorem Parted.split (h : Parted cs) : ∃ part second rest, cs.splitOn '.' = part :: second :: rest ∧
    part ≠ [] ∧ ∀ later ∈ second :: rest, later ≠ [] := by
  have hsome := h.nonempty
  match hs : cs.splitOn '.', h.two with
  | part :: second :: rest, _ =>
    rw [hs] at hsome
    exact ⟨part, second, rest, rfl, List.forall_mem_cons.mp hsome⟩

theorem length_le_utf8ByteSize (name : String) : name.toList.length ≤ name.utf8ByteSize := by
  suffices aux : ∀ cs : List Char, cs.length ≤ (String.ofList cs).utf8ByteSize by
    simpa using aux name.toList
  intro cs
  induction cs with
  | nil => exact Nat.zero_le _
  | cons c cs ih =>
    have hpos := c.utf8Size_pos
    rw [String.ofList_cons, String.utf8ByteSize_append, String.utf8ByteSize_singleton,
      List.length_cons]
    omega

/-- Two parts and a dot have three characters, so only the greatest length is left to check. -/
theorem Parted.isDotted_iff (h : Parted name.toList) (hleast : least ≤ 3) :
    isDotted least name = true ↔ name.utf8ByteSize ≤ 255 := by
  obtain ⟨part, second, rest, hs, hpart, hlater⟩ := h.split
  have hsecond := hlater second List.mem_cons_self
  have htext : name.toList = part ++ '.' :: ['.'].intercalate (second :: rest) := by
    have hjoin : ['.'].intercalate (name.toList.splitOn '.') = name.toList :=
      List.intercalate_splitOn '.'
    rw [← hjoin, hs, List.intercalate_cons_cons]
    simp
  have hdot : '.' ∈ name.toList := by simp [htext]
  have hthree : 3 ≤ name.toList.length := by
    have hfirst := List.length_pos_iff.mpr hpart
    have hnext := List.length_pos_iff.mpr hsecond
    have hcut : second.length ≤ (['.'].intercalate (second :: rest)).length := by
      cases rest with
      | nil => simp
      | cons third rest => simp [List.intercalate_cons_cons]
    simp only [htext, List.length_append, List.length_cons]
    omega
  have hbytes := length_le_utf8ByteSize name
  have hleast' : least ≤ name.utf8ByteSize := by omega
  simp [isDotted, hdot, hleast']

theorem Parted.fits_iff (h : Parted name.toList) :
    elementsFit false more .boundary name.toList = true ↔ Dotted more name.toList := by
  obtain ⟨part, second, rest, hs, hpart, hlater⟩ := h.split
  have htwo := h.two
  rw [elementsFit_iff hs hlater fun _ => hpart, goes_boundary, dotted_iff, and_iff_right htwo,
    hs]
  exact List.forall_mem_cons.symm

theorem Parted.isInterfaceName_iff (h : Parted name.toList) :
    isInterfaceName name = true ↔ InterfaceName name := by
  rw [isInterfaceName, isErrorName, Bool.and_eq_true, h.isDotted_iff (Nat.le_refl 3),
    h.fits_iff, InterfaceName]

theorem Parted.isWellKnownName_iff (h : Parted name.toList) :
    isWellKnownName name = true ↔ WellKnownName name := by
  rw [isWellKnownName, Bool.and_eq_true, h.isDotted_iff (Nat.le_refl 3), h.fits_iff,
    WellKnownName]

theorem uniqueName_iff {part : List Char} {rest : List (List Char)}
    (hs : name.toList.splitOn '.' = part :: rest) (hrest : rest ≠ []) :
    UniqueName name ↔ name.utf8ByteSize ≤ 255 ∧ ∃ first, part = ':' :: first ∧
      (∀ c ∈ first, ElementChar ['-'] c) ∧ ∀ element ∈ rest, Element true ['-'] element := by
  simp only [UniqueName, Text.joined_iff, hs]
  constructor
  · rintro ⟨hsize, first, others, hparts, -, hfirst, hothers⟩
    obtain ⟨rfl, rfl⟩ := List.cons.inj hparts
    exact ⟨hsize, first, rfl, hfirst, hothers⟩
  · rintro ⟨hsize, first, rfl, hfirst, hothers⟩
    exact ⟨hsize, first, rest, rfl, hrest, hfirst, hothers⟩

theorem Parted.isBusName_iff (h : Parted name.toList) :
    isBusName name = true ↔ BusName name := by
  obtain ⟨part, second, rest, hs, hpart, hlater⟩ := h.split
  have hbus : name = "org.freedesktop.DBus" → isWellKnownName name = true := by
    rintro rfl
    decide
  have hunique : (isDotted 2 name && name.toList.head? == some ':' &&
      elementsFit true ['-'] .inside name.toList.tail) = true ↔ UniqueName name := by
    rw [uniqueName_iff hs (List.cons_ne_nil _ _), Bool.and_eq_true, Bool.and_eq_true,
      h.isDotted_iff (by decide), and_assoc]
    refine and_congr_right fun _ => ?_
    obtain ⟨c, first, rfl⟩ := List.exists_cons_of_ne_nil hpart
    obtain ⟨behind, hname, ht⟩ := Text.splitOn_eq_cons hs
    have hfit : elementsFit true ['-'] .inside behind = true ↔ Goes true ['-'] .inside first ∧
        ∀ element ∈ second :: rest, Element true ['-'] element :=
      elementsFit_iff ht hlater fun hb => nomatch hb
    have hcolon : (name.toList.head? == some ':') = true ↔ c = ':' := by simp [hname]
    rw [hcolon, hname, List.tail_cons, hfit, goes_inside]
    constructor
    · rintro ⟨rfl, hfirst, hrest⟩
      exact ⟨first, rfl, hfirst, hrest⟩
    · rintro ⟨others, hparts, hfirst, hrest⟩
      obtain ⟨rfl, rfl⟩ := List.cons.inj hparts
      exact ⟨rfl, hfirst, hrest⟩
  rw [isBusName, isUniqueName, Bool.or_eq_true, Bool.or_eq_true, beq_iff_eq, hunique, BusName,
    ← h.isWellKnownName_iff]
  constructor
  · rintro ((hname | hname) | hname)
    · exact Or.inr (hbus hname)
    · exact Or.inl hname
    · exact Or.inr hname
  · rintro (hname | hname)
    · exact Or.inl (Or.inr hname)
    · exact Or.inr hname

end

end DBus

end PriorityPortal
