import Mathlib.Control.Monad.Basic
import PriorityPortal.Process.PidMap
import PriorityPortal.Proofs.Decimal
import PriorityPortal.Proofs.Utf8
/-!
# What the pids of a sandbox are mapped to

A pid of a sandbox is mapped to a process that the table lists, that is in the sandbox's pid
namespace, and that is known by this pid there. The scan finds such a process whenever there is
one, whatever else the table lists and in whatever order.
-/
namespace PriorityPortal

def InRange (pid : UInt64) : Prop := 1 ≤ pid.toNat ∧ pid.toNat ≤ 2147483647

theorem not_inRange_iff (pid : UInt64) :
    ¬ InRange pid ↔ pid = 0 ∨ ProcessTable.greatestPid < pid := by
  have hg : ProcessTable.greatestPid.toNat = 2147483647 := rfl
  have hz : pid = 0 ↔ pid.toNat = 0 := by
    rw [← UInt64.toNat_inj]
    rfl
  rw [InRange, hz, UInt64.lt_iff_toNat_lt, hg]
  omega

theorem IoError.isNotFound_iff (e : IoError) : e.isNotFound = true ↔ e = .os .notFound := by
  cases e with
  | os e => cases e <;> simp [isNotFound]
  | _ => simp [isNotFound]

namespace FileName

theorem text_eq_some_iff {name : FileName} {text : String} :
    name.text? = some text ↔ name = .ofText text := by
  obtain ⟨bytes⟩ := name
  rw [text?, Text.decode_eq_some_iff, ofText, mk.injEq]

theorem text_ofText (text : String) : (ofText text).text? = some text := Text.decode_encode text

end FileName

namespace ProcessTable

variable {table : ProcessTable} {space : String} {pid found : UInt64} {instancePid : UInt32}

/-- Entries whose names read as numbers are named as those numbers are written. -/
def CanonicalNames (table : ProcessTable) : Prop :=
  ∀ entries, table.tree.list (table.within []) = .ok entries → ∀ entry ∈ entries,
    ∀ name n, entry.1 = .ofText name → Text.uint64? name.toList = some n → name = toString n

/-- A listed process of the namespace `space` whose status says that it is `pid` there. -/
structure Matches (table : ProcessTable) (space : String) (pid found : UInt64) : Prop where
  listed : ∃ entries, table.tree.list (table.within []) = .ok entries ∧
    ∃ entry ∈ entries, entry.1 = .ofText (toString found)
  inside : table.pidNamespace (toString found) = .ok space
  known : ∃ status pids,
    table.tree.readText (table.within [toString found, "status"]) = .ok status ∧
    Status.nestedPids? status = some pids ∧ pids.getLast? = some pid

theorem innermost_iff (status : String) :
    Status.innermostPid? status = some pid ↔
      ∃ pids, Status.nestedPids? status = some pids ∧ pids.getLast? = some pid := by
  rw [Status.innermostPid?, Option.bind_eq_some_iff]

theorem matching_iff {name : FileName} :
    table.matching? space pid name = some found ↔
      ∃ text, name = .ofText text ∧ Text.uint64? text.toList = some found ∧
        table.pidNamespace (toString found) = .ok space ∧
        ∃ status, table.tree.readText (table.within [text, "status"]) = .ok status ∧
          Status.innermostPid? status = some pid := by
  constructor
  · intro h
    unfold matching? at h
    split at h
    · cases h
    next text htext =>
      have hname := FileName.text_eq_some_iff.mp htext
      split at h
      · cases h
      next n hn =>
        split at h
        · cases h
        next space' hs =>
          split at h
          · cases h
          next he =>
            split at h
            · cases h
            next status hst =>
              split at h
              next hp =>
                cases h
                exact ⟨text, hname, hn, by rw [hs, Decidable.not_not.mp he], status, hst, hp⟩
              · cases h
  · rintro ⟨text, rfl, hn, hs, status, hst, hp⟩
    simp [matching?, FileName.text_ofText, hn, hs, hst, hp]

/-- An entry with a canonical name matches exactly if its process does. -/
theorem matching_listed (hc : table.CanonicalNames) {entries : Directory}
    (hl : table.tree.list (table.within []) = .ok entries) {entry : FileName × Entry}
    (he : entry ∈ entries) :
    table.matching? space pid entry.1 = some found ↔
      entry.1 = .ofText (toString found) ∧ table.Matches space pid found := by
  rw [matching_iff]
  constructor
  · rintro ⟨text, hname, hn, hs, status, hst, hp⟩
    obtain rfl := hc entries hl entry he text found hname hn
    obtain ⟨pids, hpids, hlast⟩ := (innermost_iff status).mp hp
    exact ⟨hname, ⟨entries, hl, entry, he, hname⟩, hs, status, pids, hst, hpids, hlast⟩
  · rintro ⟨hname, -, hs, status, pids, hst, hpids, hlast⟩
    have hp := (innermost_iff status).mpr ⟨pids, hpids, hlast⟩
    exact ⟨toString found, hname, Text.uint64_toString found, hs, status, hst, hp⟩

theorem scan_sound (hc : table.CanonicalNames) {entries : Directory}
    (hl : table.tree.list (table.within []) = .ok entries)
    (h : entries.findSome? (fun entry => table.matching? space pid entry.1) = some found) :
    table.Matches space pid found := by
  obtain ⟨entry, he, hm⟩ := List.exists_of_findSome?_eq_some h
  exact ((matching_listed hc hl he).mp hm).2

theorem scan_complete (hc : table.CanonicalNames) {entries : Directory}
    (hl : table.tree.list (table.within []) = .ok entries)
    (h : entries.findSome? (fun entry => table.matching? space pid entry.1) = none) :
    ¬ ∃ found, table.Matches space pid found := by
  rintro ⟨found, hm⟩
  obtain ⟨entries', hl', entry, he, hname⟩ := hm.listed
  obtain rfl : entries = entries' := Except.ok.inj (hl.symm.trans hl')
  have hnone := List.findSome?_eq_none_iff.mp h entry he
  rw [(matching_listed hc hl he).mpr ⟨hname, hm⟩] at hnone
  cases hnone

theorem canonicalNames_of_check {entries : Directory}
    (hl : table.tree.list (table.within []) = .ok entries)
    (h : entries.all (fun entry => entry.1.text?.all fun name =>
      (Text.uint64? name.toList).all fun n => name == toString n) = true) :
    table.CanonicalNames := by
  intro entries' hl' entry he name n hname hn
  obtain rfl : entries = entries' := Except.ok.inj (hl.symm.trans hl')
  have hentry := List.all_eq_true.mp h entry he
  simpa [hname, FileName.text_ofText, hn] using hentry

/-- The result where the namespaces differ and the table can be listed. -/
theorem hostPid_scan {own : String} {entries : Directory} (hr : InRange pid)
    (hs : table.pidNamespace (toString instancePid) = .ok space)
    (ho : table.pidNamespace "self" = .ok own) (hne : own ≠ space)
    (hl : table.tree.list (table.within []) = .ok entries) :
    let scan := entries.findSome? fun entry => table.matching? space pid entry.1
    (∀ found, scan = some found → table.hostPid instancePid pid = .ok found) ∧
      (scan = none → table.hostPid instancePid pid = .error (.notFound pid)) := by
  have hp : ¬ (pid = 0 ∨ greatestPid < pid) := fun h => (not_inRange_iff pid).mpr h hr
  constructor
  · intro found hf
    simp only [hostPid, if_neg hp, hs, ho, if_neg hne, hl, hf]
  · intro hf
    simp only [hostPid, if_neg hp, hs, ho, if_neg hne, hl, hf]

theorem hostPid_shared (hr : InRange pid)
    (hs : table.pidNamespace (toString instancePid) = .ok space)
    (ho : table.pidNamespace "self" = .ok space) : table.hostPid instancePid pid = .ok pid := by
  have hp : ¬ (pid = 0 ∨ greatestPid < pid) := fun h => (not_inRange_iff pid).mpr h hr
  simp only [hostPid, if_neg hp, hs, ho, if_pos]

theorem hostPid_out_of_range (hr : ¬ InRange pid) :
    table.hostPid instancePid pid = .error (.outOfRange pid) := by
  simp only [hostPid, if_pos ((not_inRange_iff pid).mp hr)]

/-- What is in the way of a scan, in the order in which it counts. -/
theorem hostPid_hindered (table : ProcessTable) (instancePid : UInt32) (hr : InRange pid) :
    (∀ e, table.pidNamespace (toString instancePid) = .error e → table.hostPid instancePid pid =
      .error (if e = .os .notFound then .sandboxGone instancePid else .io e)) ∧
    (∀ space e, table.pidNamespace (toString instancePid) = .ok space →
      table.pidNamespace "self" = .error e → table.hostPid instancePid pid = .error (.io e)) ∧
    (∀ space own e, table.pidNamespace (toString instancePid) = .ok space →
      table.pidNamespace "self" = .ok own → own ≠ space →
      table.tree.list (table.within []) = .error e →
      table.hostPid instancePid pid = .error (.io e)) := by
  have hp : ¬ (pid = 0 ∨ greatestPid < pid) := fun h => (not_inRange_iff pid).mpr h hr
  refine ⟨?_, ?_, ?_⟩
  · intro e hs
    simp only [hostPid, if_neg hp, hs, e.isNotFound_iff]
  · intro space e hs ho
    simp only [hostPid, if_neg hp, hs, ho]
  · intro space own e hs ho hne hl
    simp only [hostPid, if_neg hp, hs, ho, if_neg hne, hl]

/-- A pid is found either because the namespaces are the same or by the scan. -/
theorem hostPid_found (h : table.hostPid instancePid pid = .ok found) :
    InRange pid ∧ ∃ space own, table.pidNamespace (toString instancePid) = .ok space ∧
      table.pidNamespace "self" = .ok own ∧
      (own = space ∧ found = pid ∨ own ≠ space ∧ ∃ entries,
        table.tree.list (table.within []) = .ok entries ∧
        entries.findSome? (fun entry => table.matching? space pid entry.1) = some found) := by
  by_cases hr : InRange pid
  · obtain ⟨htheirs, hours, hlist⟩ := hostPid_hindered table instancePid hr
    refine ⟨hr, ?_⟩
    cases hs : table.pidNamespace (toString instancePid) with
    | error e => cases h.symm.trans (htheirs e hs)
    | ok space =>
      cases ho : table.pidNamespace "self" with
      | error e => cases h.symm.trans (hours space e hs ho)
      | ok own =>
        refine ⟨space, own, rfl, rfl, ?_⟩
        by_cases he : own = space
        · subst he
          exact Or.inl ⟨rfl, Except.ok.inj (h.symm.trans (hostPid_shared hr hs ho))⟩
        · cases hl : table.tree.list (table.within []) with
          | error e => cases h.symm.trans (hlist space own e hs ho he hl)
          | ok entries =>
            obtain ⟨hfound, hnone⟩ := hostPid_scan hr hs ho he hl
            cases hf : entries.findSome? fun entry => table.matching? space pid entry.1 with
            | none => cases h.symm.trans (hnone hf)
            | some found' =>
              obtain rfl : found = found' := Except.ok.inj (h.symm.trans (hfound found' hf))
              exact Or.inr ⟨he, entries, rfl, hf⟩
  · cases h.symm.trans (hostPid_out_of_range hr)

theorem hostPid_sound (hc : table.CanonicalNames) (h : table.hostPid instancePid pid = .ok found) :
    InRange pid ∧ ∃ space own, table.pidNamespace (toString instancePid) = .ok space ∧
      table.pidNamespace "self" = .ok own ∧
      (own = space ∧ found = pid ∨ own ≠ space ∧ table.Matches space pid found) := by
  obtain ⟨hr, space, own, hs, ho, hcase⟩ := hostPid_found h
  refine ⟨hr, space, own, hs, ho, ?_⟩
  rcases hcase with hsame | ⟨he, entries, hl, hf⟩
  · exact Or.inl hsame
  · exact Or.inr ⟨he, scan_sound hc hl hf⟩

theorem hostPid_complete {own : String} (hc : table.CanonicalNames) (hr : InRange pid)
    (hs : table.pidNamespace (toString instancePid) = .ok space)
    (ho : table.pidNamespace "self" = .ok own) (hne : own ≠ space)
    (hm : table.Matches space pid found) :
    ∃ found', table.hostPid instancePid pid = .ok found' := by
  obtain ⟨entries, hl, -⟩ := hm.listed
  cases hf : entries.findSome? fun entry => table.matching? space pid entry.1 with
  | none => exact absurd ⟨found, hm⟩ (scan_complete hc hl hf)
  | some found' => exact ⟨found', (hostPid_scan hr hs ho hne hl).1 found' hf⟩

/-- The mapping of a pid, case by case in the order in which the cases count. Where the table is
scanned, a process that matches is found if there is one, and no entry makes the scan fail. -/
theorem hostPid_decides (table : ProcessTable) (hc : table.CanonicalNames) (instancePid : UInt32)
    (pid : UInt64) :
    (¬ InRange pid → table.hostPid instancePid pid = .error (.outOfRange pid)) ∧
    (InRange pid → ∀ e, table.pidNamespace (toString instancePid) = .error e →
      table.hostPid instancePid pid =
        .error (if e = .os .notFound then .sandboxGone instancePid else .io e)) ∧
    (InRange pid → ∀ space, table.pidNamespace (toString instancePid) = .ok space →
      (∀ e, table.pidNamespace "self" = .error e → table.hostPid instancePid pid = .error (.io e)) ∧
      (table.pidNamespace "self" = .ok space → table.hostPid instancePid pid = .ok pid) ∧
      ∀ own, table.pidNamespace "self" = .ok own → own ≠ space →
        (∀ e, table.tree.list (table.within []) = .error e →
          table.hostPid instancePid pid = .error (.io e)) ∧
        ∀ entries, table.tree.list (table.within []) = .ok entries →
          ((∃ found, table.Matches space pid found) →
            ∃ found, table.Matches space pid found ∧ table.hostPid instancePid pid = .ok found) ∧
          (table.hostPid instancePid pid = .error (.notFound pid) ↔
            ¬ ∃ found, table.Matches space pid found)) := by
  refine ⟨hostPid_out_of_range, fun hr => (hostPid_hindered table instancePid hr).1, ?_⟩
  intro hr space hs
  obtain ⟨-, hown, hlist⟩ := hostPid_hindered table instancePid hr
  refine ⟨fun e ho => hown space e hs ho, hostPid_shared hr hs, ?_⟩
  intro own ho hne
  refine ⟨fun e hl => hlist space own e hs ho hne hl, ?_⟩
  intro entries hl
  obtain ⟨hfound, hnone⟩ := hostPid_scan hr hs ho hne hl
  cases hf : entries.findSome? fun entry => table.matching? space pid entry.1 with
  | none =>
    have hno := scan_complete hc hl hf
    exact ⟨fun h => absurd h hno, iff_of_true (hnone hf) hno⟩
  | some found =>
    have hm := scan_sound hc hl hf
    rw [hfound found hf]
    exact ⟨fun _ => ⟨found, hm, rfl⟩, iff_of_false (by simp) fun h => h ⟨found, hm⟩⟩

def sampleProcess (space pids : String) (root : Directory) : Entry :=
  .directory [("ns", .directory [("pid", .link (Text.encode space))]),
    ("status", .file (Text.encode ("NSpid:\t" ++ pids ++ "\n"))),
    ("root", .directory root)]

def sampleRoot : Directory :=
  [(".flatpak-info", .file (Text.encode "[Application]\nname=org.example.Player\n"))]

def sampleEntries : Directory :=
  [("self", sampleProcess "pid:[1]" "100" []), ("sys", .directory []),
    ("9002", sampleProcess "pid:[3]" "9002\t42" []), (⟨[0xFF]⟩, .directory []),
    ("5000", sampleProcess "pid:[2]" "5000\t2" sampleRoot),
    ("9001", sampleProcess "pid:[2]" "9001\t42" sampleRoot)]

/-- A sandbox of two processes, and a process elsewhere that has the pid of one of them. -/
def sampleTable : ProcessTable := ⟨⟨[("proc", .directory sampleEntries)]⟩, "/proc"⟩

theorem sampleTable_list : sampleTable.tree.list (sampleTable.within []) = .ok sampleEntries := rfl

theorem sampleTable_canonicalNames : sampleTable.CanonicalNames :=
  canonicalNames_of_check sampleTable_list (by decide +kernel)

theorem sampleTable_matches : sampleTable.Matches "pid:[2]" 42 9001 where
  listed := ⟨sampleEntries, sampleTable_list, _,
    List.mem_of_getElem? (i := 5) rfl, by decide +kernel⟩
  inside := by decide +kernel
  known := ⟨"NSpid:\t9001\t42\n", [9001, 42], by decide +kernel, by decide +kernel, rfl⟩

theorem hostPid_decides_sample :
    sampleTable.CanonicalNames ∧ InRange 42 ∧
      sampleTable.pidNamespace (toString (5000 : UInt32)) = .ok "pid:[2]" ∧
      sampleTable.pidNamespace "self" = .ok "pid:[1]" ∧
      ∃ found, sampleTable.Matches "pid:[2]" 42 found ∧
        sampleTable.hostPid 5000 42 = .ok found := by
  have hr : InRange 42 := ⟨by decide, by decide⟩
  have hs : sampleTable.pidNamespace (toString (5000 : UInt32)) = .ok "pid:[2]" := by
    decide +kernel
  have ho : sampleTable.pidNamespace "self" = .ok "pid:[1]" := by decide +kernel
  obtain ⟨-, -, hd⟩ := hostPid_decides sampleTable sampleTable_canonicalNames 5000 42
  obtain ⟨-, -, hscan⟩ := hd hr _ hs
  obtain ⟨-, hfind⟩ := hscan _ ho (by decide)
  exact ⟨sampleTable_canonicalNames, hr, hs, ho,
    (hfind sampleEntries sampleTable_list).1 ⟨9001, sampleTable_matches⟩⟩

end ProcessTable

end PriorityPortal
