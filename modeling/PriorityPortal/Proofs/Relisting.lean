import Mathlib.Data.List.Forall2
import PriorityPortal.File.Tree
/-!
# Trees listed in another order

The order in which a directory lists its entries is not its own: two listings of one tree may
differ in it, anywhere in the tree. No lookup depends on it; only a listing itself does.
-/
namespace PriorityPortal

/-- The same entry, where directories may list what is in them in another order. Entries of one
name never change places, so a name goes on standing for the same entry. -/
inductive Entry.Relists : Entry → Entry → Prop where
  | refl (e : Entry) : Relists e e
  | trans {d e f : Entry} : Relists d e → Relists e f → Relists d f
  | swap {n m : FileName} (apart : n ≠ m) (a b : Entry) (es : Directory) :
      Relists (.directory ((n, a) :: (m, b) :: es)) (.directory ((m, b) :: (n, a) :: es))
  | behind (n : FileName) (a : Entry) {es fs : Directory} :
      Relists (.directory es) (.directory fs) →
      Relists (.directory ((n, a) :: es)) (.directory ((n, a) :: fs))
  | inside (n : FileName) {a b : Entry} (es : Directory) :
      Relists a b → Relists (.directory ((n, a) :: es)) (.directory ((n, b) :: es))

namespace Entry

variable {d e f : Entry}

def entries : Entry → Directory
  | .directory es => es
  | _ => []

theorem Relists.same_or_directories (h : e.Relists f) :
    e = f ∨ ∃ es fs, e = .directory es ∧ f = .directory fs := by
  induction h with
  | refl e => exact Or.inl rfl
  | swap apart a b es => exact Or.inr ⟨_, _, rfl, rfl⟩
  | behind n a h ih => exact Or.inr ⟨_, _, rfl, rfl⟩
  | inside n es h ih => exact Or.inr ⟨_, _, rfl, rfl⟩
  | trans hd hf ihd ihf =>
    rcases ihd with rfl | ⟨ds, es, rfl, rfl⟩
    · exact ihf
    · rcases ihf with rfl | ⟨_, fs, -, rfl⟩
      · exact Or.inr ⟨ds, es, rfl, rfl⟩
      · exact Or.inr ⟨ds, fs, rfl, rfl⟩

theorem Relists.names (h : e.Relists f) :
    (e.entries.map Prod.fst).Perm (f.entries.map Prod.fst) := by
  induction h with
  | refl e => exact List.Perm.refl _
  | trans hd hf ihd ihf => exact ihd.trans ihf
  | swap apart a b es => exact List.Perm.swap _ _ _
  | behind n a h ih => exact ih.cons n
  | inside n es h ih => exact List.Perm.refl _

/-- A directory has no name twice, so its entries may be listed in any order. -/
theorem relists_of_perm {es fs : Directory} (h : es.Perm fs) (distinct : (es.map Prod.fst).Nodup) :
    (Entry.directory es).Relists (.directory fs) := by
  induction h with
  | nil => exact .refl _
  | @cons x es fs h ih =>
    obtain ⟨n, a⟩ := x
    rw [List.map_cons, List.nodup_cons] at distinct
    exact .behind n a (ih distinct.2)
  | swap x y es =>
    obtain ⟨m, b⟩ := x
    obtain ⟨n, a⟩ := y
    have apart : n ≠ m := by
      rintro rfl
      simp at distinct
    exact .swap apart a b es
  | trans h k ihh ihk =>
    have distinct' := (h.map Prod.fst).nodup_iff.mp distinct
    exact (ihh distinct).trans (ihk distinct')

inductive Agree : Option Entry → Option Entry → Prop where
  | none : Agree none none
  | some {e f : Entry} : e.Relists f → Agree (some e) (some f)

theorem Agree.refl (x : Option Entry) : Agree x x := by
  cases x with
  | none => exact .none
  | some e => exact .some (.refl e)

theorem Agree.trans {x y z : Option Entry} (h : Agree x y) (k : Agree y z) : Agree x z := by
  cases h with
  | none => exact k
  | some he =>
    cases k with
    | some hf => exact .some (he.trans hf)

theorem Relists.lookup (h : e.Relists f) (name : FileName) :
    Agree (e.entries.lookup name) (f.entries.lookup name) := by
  induction h with
  | refl e => exact .refl _
  | trans hd hf ihd ihf => exact ihd.trans ihf
  | @swap n m apart a b es =>
    by_cases hn : name = n
    · subst hn
      have hm : (name == m) = false := by simpa using apart
      simpa [entries, List.lookup_cons, hm] using Agree.refl (some a)
    · have hn' : (name == n) = false := by simpa using hn
      simpa [entries, List.lookup_cons, hn'] using Agree.refl _
  | behind n a h ih =>
    cases hn : name == n with
    | true => simpa [entries, List.lookup_cons, hn] using Agree.refl (some a)
    | false => simpa [entries, List.lookup_cons, hn] using ih
  | @inside n a b es h ih =>
    cases hn : name == n with
    | true => simpa [entries, List.lookup_cons, hn] using Agree.some h
    | false => simpa [entries, List.lookup_cons, hn] using Agree.refl (es.lookup name)

end Entry

structure Place.Relists (p q : Place) : Prop where
  here : (Entry.directory p.here).Relists (.directory q.here)
  above : List.Forall₂ (fun d e => (Entry.directory d).Relists (.directory e)) p.above q.above

namespace Place.Relists

variable {p q : Place}

theorem parent (h : p.Relists q) : p.parent.Relists q.parent := by
  obtain ⟨here, above⟩ := p
  obtain ⟨here', above'⟩ := q
  obtain ⟨hhere, habove⟩ := h
  cases habove with
  | nil => exact ⟨hhere, .nil⟩
  | cons hup habove => exact ⟨hup, habove⟩

theorem outermost {d e : Directory} {ds es : List Directory}
    (h : (Entry.directory d).Relists (.directory e))
    (hs : List.Forall₂ (fun d e => (Entry.directory d).Relists (.directory e)) ds es) :
    (Entry.directory (ds.getLast?.getD d)).Relists (.directory (es.getLast?.getD e)) := by
  induction hs generalizing d e with
  | nil => exact h
  | cons hd hs ih =>
    simp only [List.getLast?_cons, Option.getD_some]
    exact ih hd

theorem root (h : p.Relists q) : p.root.Relists q.root := ⟨outermost h.here h.above, .nil⟩

theorem enter (h : p.Relists q) {es fs : Directory}
    (hs : (Entry.directory es).Relists (.directory fs)) : (p.enter es).Relists (q.enter fs) :=
  ⟨hs, .cons h.here h.above⟩

end Place.Relists

inductive Found.Relists : Found → Found → Prop where
  | same (found : Found) : Relists found found
  | directory {p q : Place} : p.Relists q → Relists (.directory p) (.directory q)

inductive Found.Agree {ε : Type} : Except ε Found → Except ε Found → Prop where
  | error (e : ε) : Agree (.error e) (.error e)
  | ok {found found' : Found} : found.Relists found' → Agree (.ok found) (.ok found')

section

variable {last : LastLink} {p q : Place}

theorem walkWith_relists {onward onward' : Place → List FileName → Except OsError Found}
    (ho : ∀ p q names, p.Relists q → Found.Agree (onward p names) (onward' q names))
    (names : List FileName) (h : p.Relists q) :
    Found.Agree (walkWith last onward p names) (walkWith last onward' q names) := by
  induction names generalizing p q with
  | nil => exact .ok (.directory h)
  | cons name rest ih =>
    unfold walkWith
    by_cases hdot : name = "" ∨ name = "."
    · simpa only [if_pos hdot] using ih h
    by_cases hup : name = ".."
    · simpa only [if_neg hdot, if_pos hup] using ih h.parent
    by_cases hlong : 255 < name.bytes.length
    · simpa only [if_neg hdot, if_neg hup, if_pos hlong] using Found.Agree.error _
    simp only [if_neg hdot, if_neg hup, if_neg hlong]
    have hl : Entry.Agree (p.here.lookup name) (q.here.lookup name) := h.here.lookup name
    generalize p.here.lookup name = x at hl
    generalize q.here.lookup name = y at hl
    cases hl with
    | none => exact .error _
    | @some e f he =>
      rcases he.same_or_directories with rfl | ⟨es, fs, rfl, rfl⟩
      · cases e with
        | directory es => exact ih (h.enter he)
        | file bytes =>
          cases rest with
          | nil => exact .ok (.same _)
          | cons => exact .error _
        | socket listener =>
          cases rest with
          | nil => exact .ok (.same _)
          | cons => exact .error _
        | link target =>
          by_cases hkeep : rest.isEmpty ∧ last = .keep
          · simpa only [if_pos hkeep] using Found.Agree.ok (.same _)
          · simp only [if_neg hkeep]
            apply ho
            split
            · exact h.root
            · exact h
      · exact ih (h.enter he)

theorem walk_relists (links : Nat) (names : List FileName) (h : p.Relists q) :
    Found.Agree (walk last links p names) (walk last links q names) := by
  induction links generalizing p q names with
  | zero => exact walkWith_relists (fun _ _ _ _ => .error _) names h
  | succ links ih => exact walkWith_relists (fun _ _ names hpq => ih names hpq) names h

end

def FileTree.Relists (t u : FileTree) : Prop :=
  (Entry.directory t.root).Relists (.directory u.root)

namespace FileTree.Relists

variable {t u : FileTree}

theorem find (h : t.Relists u) (names : List String) (last : LastLink) :
    Found.Agree (t.find names last) (u.find names last) := by
  unfold FileTree.find
  split
  · exact .error _
  · split
    · exact .error _
    · have hw : Found.Agree (walk last 40 ⟨t.root, []⟩ (names.map FileName.ofText))
          (walk last 40 ⟨u.root, []⟩ (names.map FileName.ofText)) :=
        walk_relists 40 _ ⟨h, .nil⟩
      generalize walk last 40 ⟨t.root, []⟩ (names.map FileName.ofText) = x at hw
      generalize walk last 40 ⟨u.root, []⟩ (names.map FileName.ofText) = y at hw
      cases hw with
      | error e => exact .error _
      | ok hf => exact .ok hf

theorem readLink (h : t.Relists u) (names : List String) : t.readLink names = u.readLink names := by
  unfold FileTree.readLink
  have hf := h.find names .keep
  generalize t.find names .keep = x at hf
  generalize u.find names .keep = y at hf
  cases hf with
  | error e => rfl
  | ok hf => cases hf <;> rfl

theorem readText (h : t.Relists u) (names : List String) : t.readText names = u.readText names := by
  unfold FileTree.readText
  have hf := h.find names .follow
  generalize t.find names .follow = x at hf
  generalize u.find names .follow = y at hf
  cases hf with
  | error e => rfl
  | ok hf => cases hf <;> rfl

theorem list (h : t.Relists u) {names : List String} {entries : Directory}
    (hl : u.list names = .ok entries) :
    ∃ entries', t.list names = .ok entries' ∧
      (entries'.map Prod.fst).Perm (entries.map Prod.fst) := by
  unfold FileTree.list at hl ⊢
  have hf := h.find names .follow
  generalize t.find names .follow = x at hf
  generalize u.find names .follow = y at hf hl
  cases hf with
  | error e => cases hl
  | ok hf =>
    cases hf with
    | same => exact ⟨entries, hl, List.Perm.refl _⟩
    | @directory p q hpq =>
      cases hl
      exact ⟨p.here, rfl, hpq.here.names⟩

end FileTree.Relists

end PriorityPortal
