import PriorityPortal.Proofs.KeyfileName
import PriorityPortal.Proofs.Passage
import PriorityPortal.Proofs.TrustBoundary
import PriorityPortal.Proofs.Utf8
/-!
# Whom a process is taken for

A keyfile at the root of a process settles where the process runs. No failure to read it makes the
process one of the host, except that the keyfile is not found. That it is not found has more than
one reason: it may be absent, but the process may also have no root, or a root or a keyfile that is
a link to nowhere.
-/
namespace PriorityPortal

namespace FileTree

variable {tree : FileTree} {names : List String} {text : String}

theorem resolves_iff :
    tree.resolves names = true ↔ ∃ found, tree.find names .follow = .ok found := by
  unfold resolves
  cases tree.find names .follow <;> simp

theorem readText_eq_ok_iff :
    tree.readText names = .ok text ↔ tree.find names .follow = .ok (.file (Text.encode text)) := by
  unfold readText
  cases tree.find names .follow with
  | error e => simp
  | ok found =>
    cases found with
    | link target => simp
    | directory place => simp
    | socket listener => simp
    | file bytes =>
      simp only [Except.ok.injEq, Found.file.injEq, ← Text.decode_eq_some_iff]
      cases Text.decode? bytes <;> simp

end FileTree

namespace ProcessTable

def rootNames (table : ProcessTable) (pid : UInt32) : List String :=
  table.within [toString pid, "root"]

def keyfileNames (table : ProcessTable) (pid : UInt32) : List String :=
  table.within [toString pid, "root", ".flatpak-info"]

variable {table : ProcessTable} {pid : UInt32}

theorem keyfileNames_eq_root_append (table : ProcessTable) (pid : UInt32) :
    table.keyfileNames pid = table.rootNames pid ++ [".flatpak-info"] := by
  simp [keyfileNames, rootNames, within]

theorem keyfileNames_eq_append (table : ProcessTable) (pid : UInt32) :
    table.keyfileNames pid = table.within [toString pid] ++ ["root", ".flatpak-info"] := by
  simp [keyfileNames, within]

theorem plain_keyfile : Plain ".flatpak-info" where
  named := by decide +kernel
  noParent := by decide +kernel
  short := by decide +kernel

/-- A process is taken for one of the host just if it is there and no keyfile is found at its root,
for whichever of the reasons. -/
theorem origin_host_iff_missing (table : ProcessTable) (pid : UInt32) :
    table.origin pid = .ok .host ↔ table.tree.resolves (table.within [toString pid]) = true ∧
      Path.Speakable (table.keyfileNames pid) ∧
      table.tree.Missing (table.rootNames pid) ".flatpak-info" := by
  rw [origin_host_iff, keyfileNames_eq_root_append, ← FileTree.find_not_found_iff plain_keyfile,
    ← keyfileNames_eq_root_append]
  rfl

/-- Processes without a root to look into, or with a keyfile that cannot be read. -/
def goneTable : ProcessTable where
  tree := ⟨[("proc", .directory [
    ("5000", .directory []),
    ("6000", .directory [("root", .link (Text.encode "gone"))]),
    ("7000", .directory [("root", .directory [(".flatpak-info", .link (Text.encode "gone"))])])])]⟩
  root := "/proc"

theorem gone_root_taken_for_host :
    (goneTable.tree.resolves (goneTable.rootNames 5000) = false ∧
      goneTable.origin 5000 = .ok .host) ∧
    (goneTable.tree.resolves (goneTable.rootNames 6000) = false ∧
      goneTable.origin 6000 = .ok .host) ∧
    goneTable.tree.find (goneTable.keyfileNames 7000) .keep = .ok (.link (Text.encode "gone")) ∧
      goneTable.origin 7000 = .ok .host :=
  ⟨by decide +kernel, by decide +kernel, rfl, by decide +kernel⟩

theorem origin_gone (h : table.tree.resolves (table.within [toString pid]) = false) :
    table.origin pid = .error (.processGone pid) := by
  unfold origin
  rw [h]
  rfl

theorem resolves_of_keyfile {found : Found}
    (h : table.tree.find (table.keyfileNames pid) .follow = .ok found) :
    table.tree.resolves (table.within [toString pid]) = true := by
  rw [keyfileNames_eq_append] at h
  obtain ⟨place, there⟩ := FileTree.directory_of_find (List.cons_ne_nil _ _) h
  exact FileTree.resolves_iff.mpr ⟨_, there⟩

/-- A keyfile at the root of a process that gives the name of its application. -/
def Sandboxed (table : ProcessTable) (pid : UInt32) (application : String) : Prop :=
  ∃ text, table.tree.find (table.keyfileNames pid) .follow = .ok (.file (Text.encode text)) ∧
    Keyfile.Names text application

theorem origin_flatpak_iff_sandboxed {application : String} {instancePid : UInt32} :
    table.origin pid = .ok (.flatpak application instancePid) ↔
      instancePid = pid ∧ table.Sandboxed pid application := by
  rw [origin_flatpak_iff]
  simp only [FileTree.readText_eq_ok_iff, Keyfile.applicationName_iff]
  constructor
  · rintro ⟨rfl, -, text, hf, hn⟩
    exact ⟨rfl, text, hf, hn⟩
  · rintro ⟨rfl, text, hf, hn⟩
    exact ⟨rfl, resolves_of_keyfile hf, text, hf, hn⟩

inductive Refused (table : ProcessTable) (pid : UInt32) : IdentityError → Prop where
  | gone (missing : table.tree.resolves (table.within [toString pid]) = false) :
      Refused table pid (.processGone pid)
  | unreadable {e : IoError} (there : table.tree.resolves (table.within [toString pid]) = true)
      (failed : table.tree.readText (table.keyfileNames pid) = .error e)
      (other : e ≠ .os .notFound) : Refused table pid (.unreadable (table.keyfilePath pid) e)
  | nameless {text : String}
      (read : table.tree.find (table.keyfileNames pid) .follow = .ok (.file (Text.encode text)))
      (unnamed : ∀ application, ¬ Keyfile.Names text application) :
      Refused table pid (.nameless (table.keyfilePath pid))

theorem refused_of_origin {e : IdentityError} (h : table.origin pid = .error e) :
    table.Refused pid e := by
  unfold origin at h
  cases hr : table.tree.resolves (table.within [toString pid]) with
  | false =>
    simp only [hr, Bool.not_false, if_true] at h
    cases h
    exact .gone hr
  | true =>
    simp only [hr, Bool.not_true, Bool.false_eq_true, if_false] at h
    cases ht : table.tree.readText (table.keyfileNames pid) with
    | error failure =>
      rw [keyfileNames] at ht
      simp only [ht] at h
      by_cases hn : failure.isNotFound = true
      · rw [if_pos hn] at h
        cases h
      · rw [if_neg hn] at h
        cases h
        exact .unreadable hr ht fun hc => hn (failure.isNotFound_iff.mpr hc)
    | ok text =>
      have hf := FileTree.readText_eq_ok_iff.mp ht
      rw [keyfileNames] at ht
      simp only [ht] at h
      cases hn : Keyfile.applicationName? text with
      | some application =>
        simp only [hn] at h
        cases h
      | none =>
        simp only [hn] at h
        cases h
        refine .nameless hf fun application hnamed => ?_
        rw [Keyfile.applicationName_iff.mpr hnamed] at hn
        cases hn

structure KeyfileSettles (table : ProcessTable) (pid : UInt32) : Prop where
  gone : table.tree.resolves (table.within [toString pid]) = false →
    table.origin pid = .error (.processGone pid)
  guarded : table.tree.find (table.keyfileNames pid) .follow ≠ .error (.os .notFound) →
    table.origin pid ≠ .ok .host
  sandboxed : ∀ application instancePid, table.origin pid = .ok (.flatpak application instancePid) ↔
    instancePid = pid ∧ table.Sandboxed pid application
  refused : table.tree.find (table.keyfileNames pid) .follow ≠ .error (.os .notFound) →
    (¬ ∃ application, table.Sandboxed pid application) →
      ∃ e, table.origin pid = .error e ∧ table.Refused pid e

theorem keyfile_settles_origin (table : ProcessTable) (pid : UInt32) :
    table.KeyfileSettles pid := by
  have guarded (hf : table.tree.find (table.keyfileNames pid) .follow ≠ .error (.os .notFound)) :
      table.origin pid ≠ .ok .host :=
    fun h => hf (origin_host_iff.mp h).2
  refine ⟨origin_gone, guarded, fun _ _ => origin_flatpak_iff_sandboxed, ?_⟩
  intro hf hno
  cases ho : table.origin pid with
  | error e => exact ⟨e, rfl, refused_of_origin ho⟩
  | ok origin =>
    cases origin with
    | host => exact absurd ho (guarded hf)
    | flatpak application instancePid =>
      exact absurd ⟨application, (origin_flatpak_iff_sandboxed.mp ho).2⟩ hno

def spoiltTable : ProcessTable where
  tree := ⟨[("proc", .directory [("5000", .directory [("root", .directory [
    (".flatpak-info", .directory [])])])])]⟩
  root := "/proc"

theorem keyfile_settles_origin_sample :
    sampleTable.origin 1 = .error (.processGone 1) ∧
    sampleTable.origin 5000 = .ok (.flatpak "org.example.Player" 5000) ∧
    ∃ e, spoiltTable.origin 5000 = .error e ∧ spoiltTable.Refused 5000 e := by
  have sandboxed : sampleTable.Sandboxed 5000 "org.example.Player" :=
    ⟨"[Application]\nname=org.example.Player\n", rfl,
      Keyfile.applicationName_iff.mp (by decide +kernel)⟩
  have spoilt : ∃ place, spoiltTable.tree.find (spoiltTable.keyfileNames 5000) .follow =
      .ok (.directory place) := ⟨_, rfl⟩
  obtain ⟨place, spoilt⟩ := spoilt
  refine ⟨(keyfile_settles_origin sampleTable 1).gone (by decide +kernel),
    ((keyfile_settles_origin sampleTable 5000).sandboxed _ _).mpr ⟨rfl, sandboxed⟩,
    (keyfile_settles_origin spoiltTable 5000).refused ?_ ?_⟩
  · rw [spoilt]
    exact fun h => nomatch h
  · rintro ⟨application, text, read, -⟩
    rw [spoilt] at read
    cases read

end ProcessTable

end PriorityPortal
