import PriorityPortal.Process.Keyfile
/-!
# What a keyfile tells of

A keyfile gives a key the first value that is not empty, in a group of the name that is asked for.
The group that a line lies in is the one of the last header before it.
-/
namespace PriorityPortal.Keyfile

def trimmedLines (text : String) : List (List Char) := (Text.lines text.toList).map Text.trim

def IsHeader (group line : List Char) : Prop := line = '[' :: (group ++ [']'])

/-- A line that gives a key a value. They part at the first equals sign. -/
structure IsEntry (key value line : List Char) : Prop where
  noComment : line.head? ≠ some '#'
  noHeader : ∀ group, ¬ IsHeader group line
  parts : ∃ left right, line = left ++ '=' :: right ∧ '=' ∉ left ∧ Text.trim left = key ∧
    Text.trim right = value

def Under (group : List Char) (before : List (List Char)) : Prop :=
  ∃ earlier line between, before = earlier ++ line :: between ∧ IsHeader group line ∧
    ∀ other ∈ between, ∀ found, ¬ IsHeader found other

structure Assigns (group key : List Char) (lines before : List (List Char)) (value : List Char) :
    Prop where
  line : ∃ line after, lines = before ++ line :: after ∧ IsEntry key value line
  inside : Under group before
  present : value ≠ []

def FirstValue (group key : List Char) (lines : List (List Char)) (value : List Char) : Prop :=
  ∃ before, Assigns group key lines before value ∧
    ∀ other found, Assigns group key lines other found → before.length ≤ other.length

def Names (text application : String) : Prop :=
  FirstValue "Application".toList "name".toList (trimmedLines text) application.toList

section

variable {group key value line : List Char}

theorem header_eq_some_iff : header? line = some group ↔ IsHeader group line := by
  unfold header? IsHeader
  split
  next rest =>
    simp only [List.cons.injEq, true_and]
    constructor
    · intro h
      split at h
      next hlast =>
        obtain ⟨init, rfl⟩ := List.getLast?_eq_some_iff.mp hlast
        rw [List.dropLast_concat] at h
        rw [Option.some.inj h]
      next => cases h
    · rintro rfl
      rw [if_pos List.getLast?_concat, List.dropLast_concat]
  next hno =>
    refine iff_of_false (fun h => nomatch h) ?_
    rintro rfl
    exact hno _ rfl

theorem IsHeader.head (h : IsHeader group line) : line.head? ≠ some '#' := by
  subst h
  simp

theorem ofTrimmed_header_iff : Line.ofTrimmed line = .header group ↔ IsHeader group line := by
  unfold Line.ofTrimmed
  by_cases hc : line.head? = some '#'
  · rw [if_pos hc]
    exact iff_of_false (fun h => nomatch h) fun h => h.head hc
  · rw [if_neg hc, ← header_eq_some_iff]
    cases header? line with
    | some found => simp
    | none =>
      simp only [reduceCtorEq, iff_false]
      split <;> simp

/-- The first equals sign of a line is where its key and its value part. -/
theorem parts_iff {left right : List Char} :
    line = left ++ '=' :: right ∧ '=' ∉ left ↔
      line.takeWhile (· != '=') = left ∧ line.dropWhile (· != '=') = '=' :: right := by
  constructor
  · rintro ⟨rfl, hl⟩
    have hall : ∀ c ∈ left, (c != '=') = true := by
      intro c hc
      rw [bne_iff_ne]
      rintro rfl
      exact hl hc
    constructor
    · rw [List.takeWhile_append_of_pos hall]
      simp
    · rw [List.dropWhile_append_of_pos hall]
      simp
  · rintro ⟨ht, hd⟩
    constructor
    · rw [← ht, ← hd, List.takeWhile_append_dropWhile]
    · intro hm
      rw [← ht] at hm
      have hp := List.all_eq_true.mp (List.all_takeWhile (p := (· != '='))) '=' hm
      simp at hp

theorem ofTrimmed_entry_iff : Line.ofTrimmed line = .entry key value ↔ IsEntry key value line := by
  constructor
  · intro h
    unfold Line.ofTrimmed at h
    split at h
    next => cases h
    next hc =>
      split at h
      next => cases h
      next hh =>
        have hno : ∀ group, ¬ IsHeader group line := by
          intro group hg
          rw [header_eq_some_iff.mpr hg] at hh
          cases hh
        refine ⟨hc, hno, ?_⟩
        split at h
        next => cases h
        next sign right hd =>
          have hne : line.dropWhile (· != '=') ≠ [] := by
            rw [hd]
            exact List.cons_ne_nil _ _
          have hsign := List.head_dropWhile_not (· != '=') hne
          obtain rfl : sign = '=' := by simpa [hd] using hsign
          obtain ⟨hline, hleft⟩ := parts_iff.mpr ⟨rfl, hd⟩
          obtain ⟨rfl, rfl⟩ := Line.entry.inj h
          exact ⟨_, right, hline, hleft, rfl, rfl⟩
  · rintro ⟨hc, hno, left, right, hline, hleft, rfl, rfl⟩
    obtain ⟨ht, hd⟩ := parts_iff.mp ⟨hline, hleft⟩
    have hh : header? line = none := by
      cases hh : header? line with
      | none => rfl
      | some group => exact absurd (header_eq_some_iff.mp hh) (hno group)
    simp only [Line.ofTrimmed, if_neg hc, hh, hd, ht]

end

section

variable {group key value : List Char}

/-- Whether what comes after some lines lies in a group of this name, if `inside` says so of what
comes before them. -/
def insideAfter (group : List Char) (inside : Bool) (lines : List Line) : Bool :=
  lines.foldl (fun inside line => match line with
    | .header found => found == group
    | _ => inside) inside

def Hits (group key : List Char) (inside : Bool) (lines before : List Line) (value : List Char) :
    Prop :=
  (∃ after, lines = before ++ .entry key value :: after) ∧ insideAfter group inside before = true ∧
    value ≠ []

theorem hits_cons {inside : Bool} {line : Line} {rest before : List Line} :
    Hits group key inside (line :: rest) (line :: before) value ↔
      Hits group key (insideAfter group inside [line]) rest before value := by
  simp [Hits, insideAfter]

theorem hits_nil {inside : Bool} {line : Line} {rest : List Line} :
    Hits group key inside (line :: rest) [] value ↔
      line = .entry key value ∧ inside = true ∧ value ≠ [] := by
  simp [Hits, insideAfter]

theorem not_hits_nil {inside : Bool} {line : Line} {rest : List Line}
    (h : ∀ found, line ≠ .entry key found) (found : List Char) :
    ¬ Hits group key inside (line :: rest) [] found :=
  fun hit => h found (hits_nil.mp hit).1

theorem Hits.cons_of_ne_nil {inside : Bool} {line : Line} {rest before : List Line}
    (h : Hits group key inside (line :: rest) before value) (hne : before ≠ []) :
    ∃ others, before = line :: others := by
  obtain ⟨⟨after, hlines⟩, -⟩ := h
  cases before with
  | nil => exact absurd rfl hne
  | cons first others =>
    obtain ⟨rfl, -⟩ := List.cons.inj hlines
    exact ⟨others, rfl⟩

/-- The first hit behind a line that is none itself is the first hit of all. -/
theorem first_hit_cons {inside : Bool} {line : Line} {rest : List Line}
    (hno : ∀ found, ¬ Hits group key inside (line :: rest) [] found) :
    (∃ before, Hits group key inside (line :: rest) before value ∧
      ∀ other found, Hits group key inside (line :: rest) other found →
        before.length ≤ other.length) ↔
    (∃ before, Hits group key (insideAfter group inside [line]) rest before value ∧
      ∀ other found, Hits group key (insideAfter group inside [line]) rest other found →
        before.length ≤ other.length) := by
  have hcons : ∀ {before found}, Hits group key inside (line :: rest) before found →
      ∃ others, before = line :: others := by
    intro before found h
    refine h.cons_of_ne_nil ?_
    rintro rfl
    exact hno found h
  constructor
  · rintro ⟨before, hit, first⟩
    obtain ⟨others, rfl⟩ := hcons hit
    refine ⟨others, hits_cons.mp hit, fun other found h => ?_⟩
    exact Nat.le_of_succ_le_succ (first (line :: other) found (hits_cons.mpr h))
  · rintro ⟨before, hit, first⟩
    refine ⟨line :: before, hits_cons.mpr hit, fun other found h => ?_⟩
    obtain ⟨others, rfl⟩ := hcons h
    exact Nat.succ_le_succ (first others found (hits_cons.mp h))

theorem value_eq_some_iff {inside : Bool} {lines : List Line} :
    value? group key inside lines = some value ↔
      ∃ before, Hits group key inside lines before value ∧
        ∀ other found, Hits group key inside lines other found → before.length ≤ other.length := by
  induction lines generalizing inside with
  | nil => simp [value?, Hits]
  | cons line rest ih =>
    cases line with
    | header found =>
      rw [first_hit_cons (not_hits_nil fun _ => by simp), ← ih]
      rfl
    | other =>
      rw [first_hit_cons (not_hits_nil fun _ => by simp), ← ih]
      rfl
    | entry found given =>
      by_cases hg : (inside && found == key && !given.isEmpty) = true
      · obtain ⟨⟨hin, rfl⟩, hne⟩ : (inside = true ∧ found = key) ∧ given ≠ [] := by
          simpa using hg
        simp only [value?, if_pos hg, Option.some.injEq]
        constructor
        · rintro rfl
          exact ⟨[], hits_nil.mpr ⟨rfl, hin, hne⟩, fun _ _ _ => Nat.zero_le _⟩
        · rintro ⟨before, hit, first⟩
          have hlen := first [] given (hits_nil.mpr ⟨rfl, hin, hne⟩)
          obtain rfl := List.length_eq_zero_iff.mp (Nat.le_zero.mp hlen)
          exact (Line.entry.inj (hits_nil.mp hit).1).2
      · have hno : ∀ v, ¬ Hits group key inside (.entry found given :: rest) [] v := by
          intro v h
          obtain ⟨heq, hin, hne⟩ := hits_nil.mp h
          obtain ⟨rfl, rfl⟩ := Line.entry.inj heq
          exact hg (by simp [hin, hne])
        rw [first_hit_cons hno]
        simp only [value?, if_neg hg]
        exact ih

theorem not_under_nil (group : List Char) : ¬ Under group [] := by
  rintro ⟨earlier, line, between, h, -⟩
  simp at h

theorem under_cons {line : List Char} {rest : List (List Char)} :
    Under group (line :: rest) ↔ Under group rest ∨
      (IsHeader group line ∧ ∀ other ∈ rest, ∀ found, ¬ IsHeader found other) := by
  constructor
  · rintro ⟨earlier, header, between, hlines, hheader, hlast⟩
    cases earlier with
    | nil =>
      obtain ⟨rfl, rfl⟩ := List.cons.inj hlines
      exact Or.inr ⟨hheader, hlast⟩
    | cons first earlier =>
      obtain ⟨-, hrest⟩ := List.cons.inj hlines
      exact Or.inl ⟨earlier, header, between, hrest, hheader, hlast⟩
  · rintro (⟨earlier, header, between, rfl, hheader, hlast⟩ | ⟨hheader, hlast⟩)
    · exact ⟨line :: earlier, header, between, rfl, hheader, hlast⟩
    · exact ⟨[], line, rest, rfl, hheader, hlast⟩

theorem insideAfter_header {inside : Bool} {line found : List Char} (h : IsHeader found line) :
    insideAfter group inside [Line.ofTrimmed line] = (found == group) := by
  rw [ofTrimmed_header_iff.mpr h]
  rfl

theorem insideAfter_other {inside : Bool} {line : List Char} (h : ∀ found, ¬ IsHeader found line) :
    insideAfter group inside [Line.ofTrimmed line] = inside := by
  cases hl : Line.ofTrimmed line with
  | header found => exact absurd (ofTrimmed_header_iff.mp hl) (h found)
  | entry => rfl
  | other => rfl

theorem insideAfter_iff {inside : Bool} {lines : List (List Char)} :
    insideAfter group inside (lines.map Line.ofTrimmed) = true ↔
      Under group lines ∨ (inside = true ∧ ∀ other ∈ lines, ∀ found, ¬ IsHeader found other) := by
  induction lines generalizing inside with
  | nil => simp [insideAfter, not_under_nil]
  | cons line rest ih =>
    have hstep : insideAfter group inside ((line :: rest).map Line.ofTrimmed) =
        insideAfter group (insideAfter group inside [Line.ofTrimmed line])
          (rest.map Line.ofTrimmed) := rfl
    rw [hstep, ih, under_cons]
    by_cases hh : ∃ found, IsHeader found line
    · obtain ⟨found, hh⟩ := hh
      have hsame : found = group ↔ IsHeader group line := by
        constructor
        · rintro rfl
          exact hh
        · intro hg
          simpa [IsHeader] using hh.symm.trans hg
      have hno : ¬ ∀ other ∈ line :: rest, ∀ found, ¬ IsHeader found other :=
        fun h => h line List.mem_cons_self found hh
      simp only [insideAfter_header hh, beq_iff_eq, hsame, hno, and_false, or_false]
    · have hother : ∀ found, ¬ IsHeader found line := fun found h => hh ⟨found, h⟩
      have hno : ¬ IsHeader group line := hother group
      simp only [insideAfter_other hother, hno, false_and, or_false, List.forall_mem_cons, hother,
        not_false_eq_true, implies_true, true_and]

theorem hits_of_assigns {lines before : List (List Char)}
    (h : Assigns group key lines before value) :
    Hits group key false (lines.map Line.ofTrimmed) (before.map Line.ofTrimmed) value := by
  obtain ⟨⟨line, after, rfl, hentry⟩, hinside, hpresent⟩ := h
  refine ⟨⟨after.map Line.ofTrimmed, ?_⟩, insideAfter_iff.mpr (Or.inl hinside), hpresent⟩
  rw [List.map_append, List.map_cons, ofTrimmed_entry_iff.mpr hentry]

theorem assigns_of_hits {lines : List (List Char)} {before : List Line}
    (h : Hits group key false (lines.map Line.ofTrimmed) before value) :
    ∃ raw, before = raw.map Line.ofTrimmed ∧ Assigns group key lines raw value := by
  obtain ⟨⟨after, hlines⟩, hinside, hpresent⟩ := h
  obtain ⟨raw, tail, rfl, rfl, htail⟩ := List.map_eq_append_iff.mp hlines
  obtain ⟨line, after', rfl, hentry, -⟩ := List.map_eq_cons_iff.mp htail
  have hunder := insideAfter_iff.mp hinside
  simp only [Bool.false_eq_true, false_and, or_false] at hunder
  exact ⟨raw, rfl, ⟨line, after', rfl, ofTrimmed_entry_iff.mp hentry⟩, hunder, hpresent⟩

theorem value_iff_firstValue {lines : List (List Char)} :
    value? group key false (lines.map Line.ofTrimmed) = some value ↔
      FirstValue group key lines value := by
  rw [value_eq_some_iff]
  constructor
  · rintro ⟨before, hit, first⟩
    obtain ⟨raw, rfl, hassigns⟩ := assigns_of_hits hit
    refine ⟨raw, hassigns, fun other found h => ?_⟩
    simpa using first _ found (hits_of_assigns h)
  · rintro ⟨raw, hassigns, first⟩
    refine ⟨raw.map Line.ofTrimmed, hits_of_assigns hassigns, fun other found h => ?_⟩
    obtain ⟨raw', rfl, hassigns'⟩ := assigns_of_hits h
    simpa using first raw' found hassigns'

theorem applicationName_iff {text application : String} :
    applicationName? text = some application ↔ Names text application := by
  have hlines : lines text = (trimmedLines text).map Line.ofTrimmed := by
    simp [lines, trimmedLines]
  rw [Names, ← value_iff_firstValue, ← hlines, applicationName?, Option.map_eq_some_iff]
  constructor
  · rintro ⟨value, hvalue, rfl⟩
    rw [hvalue, String.toList_ofList]
  · intro h
    exact ⟨application.toList, h, String.ofList_toList⟩

end

end PriorityPortal.Keyfile
