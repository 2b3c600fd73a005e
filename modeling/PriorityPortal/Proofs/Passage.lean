import PriorityPortal.File.Tree
/-!
# Lookups that go on

A lookup of names that others follow first comes to what the names alone lead to. It fails as that
lookup fails, comes to an end at anything but a directory, and else goes on in the directory with
the links that are left.
-/
namespace PriorityPortal

/-- How a lookup of names with `rest` behind them ends, next to that of the names alone. -/
inductive Passage (last : LastLink) (links : Nat) (rest : List FileName) :
    Except OsError Found → Except OsError Found → Prop where
  | stuck (e : OsError) : Passage last links rest (.error e) (.error e)
  | blocked {found : Found} (solid : ∀ place, found ≠ .directory place) :
      Passage last links rest (.ok found) (.error .notDirectory)
  | through {left : Nat} (place : Place) (few : left ≤ links) :
      Passage last links rest (.ok (.directory place)) (walk last left place rest)

section

variable {last : LastLink} {rest : List FileName}

def walkOn (last : LastLink) : Nat → Place → List FileName → Except OsError Found
  | 0 => fun _ _ => .error .tooManyLinks
  | links + 1 => walk last links

theorem walk_eq (last : LastLink) (links : Nat) :
    walk last links = walkWith last (walkOn last links) := by
  cases links <;> rfl

theorem Passage.mono {links more : Nat} {short long : Except OsError Found}
    (h : Passage last links rest short long) (hm : links ≤ more) :
    Passage last more rest short long := by
  cases h with
  | stuck e => exact .stuck e
  | blocked solid => exact .blocked solid
  | through place few => exact .through place (Nat.le_trans few hm)

/-- What is found at a name and is no directory blocks the way to any more names. -/
theorem passage_solid {links : Nat} {found : Found} (hne : rest ≠ [])
    (solid : ∀ place, found ≠ .directory place) (names : List FileName) :
    Passage last links rest
      (if names.isEmpty then .ok found else .error .notDirectory)
      (if (names ++ rest).isEmpty then .ok found else .error .notDirectory) := by
  have hlong : ¬ (names ++ rest).isEmpty = true := by simp [hne]
  rw [if_neg hlong]
  cases names with
  | nil => exact .blocked solid
  | cons name names => exact .stuck _

theorem walkWith_passage {links : Nat} (hne : rest ≠ [])
    (onward : ∀ place names, Passage last links rest (walkOn .follow links place names)
      (walkOn last links place (names ++ rest)))
    (place : Place) (names : List FileName) :
    Passage last links rest (walkWith .follow (walkOn .follow links) place names)
      (walkWith last (walkOn last links) place (names ++ rest)) := by
  -- On the names that come first: both lookups do the same at each, whatever comes behind them.
  induction names generalizing place with
  | nil =>
    rw [List.nil_append, ← walk_eq last]
    exact .through place (Nat.le_refl links)
  | cons name names ih =>
    rw [List.cons_append]
    unfold walkWith
    by_cases hdot : name = "" ∨ name = "."
    · simpa only [if_pos hdot] using ih place
    by_cases hup : name = ".."
    · simpa only [if_neg hdot, if_pos hup] using ih place.parent
    by_cases hlong : 255 < name.bytes.length
    · simpa only [if_neg hdot, if_neg hup, if_pos hlong] using Passage.stuck _
    simp only [if_neg hdot, if_neg hup, if_neg hlong]
    cases place.here.lookup name with
    | none => exact .stuck _
    | some entry =>
      cases entry with
      | directory entries => exact ih (place.enter entries)
      | file bytes => exact passage_solid hne (fun _ => Found.noConfusion) names
      | socket listener => exact passage_solid hne (fun _ => Found.noConfusion) names
      | link target =>
        have hshort : ¬ (names.isEmpty = true ∧ LastLink.follow = .keep) := fun h => nomatch h.2
        have hrest : ¬ ((names ++ rest).isEmpty = true ∧ last = .keep) := by simp [hne]
        simp only [if_neg hshort, if_neg hrest, ← List.append_assoc]
        exact onward _ _

theorem walk_passage (hne : rest ≠ []) (links : Nat) (place : Place) (names : List FileName) :
    Passage last links rest (walk .follow links place names)
      (walk last links place (names ++ rest)) := by
  -- On the links left. A link followed at one of the first names leaves both lookups one less, and
  -- its target's names go before the others in both.
  induction links generalizing place names with
  | zero =>
    rw [walk_eq, walk_eq]
    exact walkWith_passage hne (fun _ _ => .stuck _) place names
  | succ links ih =>
    rw [walk_eq, walk_eq]
    exact walkWith_passage hne (fun p ns => (ih p ns).mono (Nat.le_succ links)) place names

end

namespace Path

variable {names rest : List String}

theorem size_le_append (names rest : List String) : size names ≤ size (names ++ rest) := by
  by_cases hn : names = []
  · subst hn
    exact Nat.zero_le _
  by_cases hr : rest = []
  · subst hr
    simp only [List.append_nil, Nat.le_refl]
  · unfold size
    rw [String.intercalate_append_of_ne_nil hn hr]
    simp only [String.utf8ByteSize_append]
    omega

structure Speakable (names : List String) : Prop where
  zeros : names.any (fun name => name.toList.contains '\x00') = false
  short : size names < 4096

theorem Speakable.of_append (h : Speakable (names ++ rest)) : Speakable names where
  zeros := by
    have hz := h.zeros
    rw [List.any_append, Bool.or_eq_false_iff] at hz
    exact hz.1
  short := Nat.lt_of_le_of_lt (size_le_append names rest) h.short

end Path

namespace FileTree

variable {tree : FileTree} {names rest : List String} {last : LastLink} {found : Found}

theorem find_speakable (h : Path.Speakable names) (tree : FileTree) (last : LastLink) :
    tree.find names last =
      (walk last 40 ⟨tree.root, []⟩ (names.map FileName.ofText)).mapError .os := by
  have hshort : ¬ 4096 ≤ Path.size names := Nat.not_le.mpr h.short
  unfold find
  simp only [h.zeros, Bool.false_eq_true, if_false, if_neg hshort]
  cases walk last 40 ⟨tree.root, []⟩ (names.map FileName.ofText) <;> rfl

theorem speakable_of_find {result : Except IoError Found} (h : tree.find names last = result)
    (hzero : result ≠ .error .nulInPath) (hlong : result ≠ .error (.os .nameTooLong)) :
    Path.Speakable names := by
  subst h
  unfold find at hzero hlong
  by_cases hz : names.any (fun name => name.toList.contains '\x00') = true
  · simp only [hz, if_true, ne_eq, not_true_eq_false] at hzero
  · by_cases hs : 4096 ≤ Path.size names
    · simp only [if_neg hz, if_pos hs, ne_eq, not_true_eq_false] at hlong
    · exact ⟨Bool.eq_false_iff.mpr hz, Nat.not_le.mp hs⟩

theorem find_passage (hne : rest ≠ []) (h : Path.Speakable (names ++ rest)) (tree : FileTree)
    (last : LastLink) :
    ∃ short long, Passage last 40 (rest.map FileName.ofText) short long ∧
      tree.find names .follow = short.mapError .os ∧
      tree.find (names ++ rest) last = long.mapError .os := by
  have hrest : rest.map FileName.ofText ≠ [] := by simpa using hne
  refine ⟨_, _, walk_passage hrest 40 ⟨tree.root, []⟩ (names.map FileName.ofText),
    find_speakable h.of_append tree .follow, ?_⟩
  rw [← List.map_append]
  exact find_speakable h tree last

/-- What is found beyond names is found through a directory that they lead to. -/
theorem directory_of_find (hne : rest ≠ []) (h : tree.find (names ++ rest) last = .ok found) :
    ∃ place, tree.find names .follow = .ok (.directory place) := by
  have hs : Path.Speakable (names ++ rest) :=
    speakable_of_find h (fun hc => nomatch hc) (fun hc => nomatch hc)
  obtain ⟨short, long, hp, hshort, hlong⟩ := find_passage hne hs tree last
  rw [h] at hlong
  cases hp with
  | stuck e => cases hlong
  | blocked solid => cases hlong
  | through place few => exact ⟨place, hshort⟩

theorem find_beyond {place : Place} (hne : rest ≠ []) (h : Path.Speakable (names ++ rest))
    (there : tree.find names .follow = .ok (.directory place)) (last : LastLink) :
    ∃ left, tree.find (names ++ rest) last =
      (walk last left place (rest.map FileName.ofText)).mapError .os := by
  obtain ⟨short, long, hp, hshort, hlong⟩ := find_passage hne h tree last
  rw [there] at hshort
  cases hp with
  | stuck e => cases hshort
  | blocked solid =>
    obtain rfl := Except.ok.inj hshort
    exact absurd rfl (solid place)
  | @through left place' few =>
    obtain rfl : place = place' := Found.directory.inj (Except.ok.inj hshort)
    exact ⟨left, hlong⟩

end FileTree

/-- A name that stands for an entry of the directory it is looked up in. -/
structure Plain (name : FileName) : Prop where
  named : ¬ (name = "" ∨ name = ".")
  noParent : name ≠ ".."
  short : ¬ 255 < name.bytes.length

section

variable {name : FileName} {last : LastLink} {place : Place}

theorem walk_absent (hp : Plain name) (h : place.here.lookup name = none) (links : Nat) :
    walk last links place [name] = .error .notFound := by
  rw [walk_eq]
  unfold walkWith
  simp only [if_neg hp.named, if_neg hp.noParent, if_neg hp.short, h]

theorem walk_keep_link (hp : Plain name) {target : List UInt8}
    (h : place.here.lookup name = some (.link target)) (links : Nat) :
    walk .keep links place [name] = .ok (.link target) := by
  rw [walk_eq]
  unfold walkWith
  simp only [if_neg hp.named, if_neg hp.noParent, if_neg hp.short, h]
  rfl

/-- A single name is not found where it is absent, or stands for a link that leads nowhere. -/
theorem lookup_of_walk_not_found (hp : Plain name) {links : Nat}
    (h : walk .follow links place [name] = .error .notFound) :
    place.here.lookup name = none ∨ ∃ target, place.here.lookup name = some (.link target) := by
  rw [walk_eq] at h
  unfold walkWith at h
  simp only [if_neg hp.named, if_neg hp.noParent, if_neg hp.short] at h
  cases hl : place.here.lookup name with
  | none => exact Or.inl rfl
  | some entry =>
    simp only [hl] at h
    cases entry with
    | link target => exact Or.inr ⟨target, rfl⟩
    | directory entries =>
      unfold walkWith at h
      cases h
    | file bytes => cases h
    | socket listener => cases h

end

namespace FileTree

variable {tree : FileTree} {names : List String} {name : String}

inductive Missing (tree : FileTree) (names : List String) (name : String) : Prop where
  /-- The other names lead nowhere. -/
  | above (gone : tree.find names .follow = .error (.os .notFound))
  | absent {place : Place} (there : tree.find names .follow = .ok (.directory place))
      (none : place.here.lookup (FileName.ofText name) = none)
  | dangling {target : List UInt8} (link : tree.find (names ++ [name]) .keep = .ok (.link target))
      (nowhere : tree.find (names ++ [name]) .follow = .error (.os .notFound))

theorem mapError_os_eq {result : Except OsError Found} {e : OsError}
    (h : result.mapError IoError.os = .error (.os e)) : result = .error e := by
  cases result with
  | error found =>
    have hos : IoError.os found = IoError.os e := Except.error.inj h
    rw [IoError.os.inj hos]
  | ok found => cases h

theorem missing_of_find (hp : Plain (FileName.ofText name))
    (h : tree.find (names ++ [name]) .follow = .error (.os .notFound)) :
    tree.Missing names name := by
  have hs : Path.Speakable (names ++ [name]) :=
    speakable_of_find h (fun hc => nomatch hc) (fun hc => nomatch hc)
  obtain ⟨short, long, passage, hshort, hlong⟩ :=
    find_passage (List.cons_ne_nil name []) hs tree .follow
  have hnot := mapError_os_eq (hlong.symm.trans h)
  cases passage with
  | stuck e =>
    cases hnot
    exact .above hshort
  | blocked solid => cases hnot
  | through place few =>
    rcases lookup_of_walk_not_found hp hnot with hl | ⟨target, hl⟩
    · exact .absent hshort hl
    · obtain ⟨left, hkeep⟩ := find_beyond (List.cons_ne_nil name []) hs hshort .keep
      rw [List.map_singleton, walk_keep_link hp hl] at hkeep
      exact .dangling hkeep h

/-- A name is not found where names lead just if the path can be looked up and one of the reasons
holds. -/
theorem find_not_found_iff (hp : Plain (FileName.ofText name)) :
    tree.find (names ++ [name]) .follow = .error (.os .notFound) ↔
      Path.Speakable (names ++ [name]) ∧ tree.Missing names name := by
  constructor
  · intro h
    exact ⟨speakable_of_find h (fun hc => nomatch hc) (fun hc => nomatch hc), missing_of_find hp h⟩
  · rintro ⟨hs, hm⟩
    have hne := List.cons_ne_nil name []
    cases hm with
    | above gone =>
      obtain ⟨short, long, passage, hshort, hlong⟩ := find_passage hne hs tree .follow
      have hnot := mapError_os_eq (hshort.symm.trans gone)
      cases passage with
      | stuck e =>
        cases hnot
        exact hlong
      | blocked solid => cases hnot
      | through place few => cases hnot
    | absent there none =>
      obtain ⟨left, hbeyond⟩ := find_beyond hne hs there .follow
      rw [hbeyond, List.map_singleton, walk_absent hp none]
      rfl
    | dangling link nowhere => exact nowhere

end FileTree

end PriorityPortal
