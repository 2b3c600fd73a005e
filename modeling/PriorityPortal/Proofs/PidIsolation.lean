import PriorityPortal.Proofs.PidMapping
import PriorityPortal.Proofs.Relisting
/-!
# Sandboxes are kept apart

How the results of several queries on one process table hang together. A pid namespace is all that
a query sees of the sandbox that it is made for, sandboxes of different namespaces never reach the
same process, and within one of them no two pids do. None of this depends on the order in which
the table lists its processes, and that may change from one query to the next.
-/
namespace PriorityPortal.ProcessTable

structure Relists (table relisted : ProcessTable) : Prop where
  root : table.root = relisted.root
  tree : table.tree.Relists relisted.tree

variable {table relisted : ProcessTable} {space own : String} {pid pid' found : UInt64}
  {instancePid : UInt32}

namespace Relists

theorem within (h : table.Relists relisted) (names : List String) :
    table.within names = relisted.within names := by
  simp only [ProcessTable.within, h.root]

theorem pidNamespace (h : table.Relists relisted) (process : String) :
    table.pidNamespace process = relisted.pidNamespace process := by
  unfold ProcessTable.pidNamespace
  rw [h.within, h.tree.readLink]

theorem readText (h : table.Relists relisted) (names : List String) :
    table.tree.readText (table.within names) = relisted.tree.readText (relisted.within names) := by
  rw [h.within, h.tree.readText]

theorem canonicalNames (h : table.Relists relisted) (hc : table.CanonicalNames) :
    relisted.CanonicalNames := by
  intro entries hl entry he name n hname hn
  rw [← h.within] at hl
  obtain ⟨entries', hl', hnames⟩ := h.tree.list hl
  have hm : entry.1 ∈ entries'.map Prod.fst :=
    hnames.mem_iff.mpr (List.mem_map_of_mem he)
  obtain ⟨entry', he', hsame⟩ := List.mem_map.mp hm
  exact hc entries' hl' entry' he' name n (hsame.trans hname) hn

end Relists

/-- Of the sandbox that it is made for, a query sees the pid namespace only. -/
theorem hostPid_of_namespace {one two : UInt32}
    (hone : table.pidNamespace (toString one) = .ok space)
    (htwo : table.pidNamespace (toString two) = .ok space) (pid : UInt64) :
    table.hostPid one pid = table.hostPid two pid := by
  simp only [hostPid, hone, htwo]

/-- A pid is not mapped out of the sandbox's pid namespace, whatever the entries are named. -/
theorem hostPid_inside (hs : table.pidNamespace (toString instancePid) = .ok space)
    (ho : table.pidNamespace "self" ≠ .ok space)
    (h : table.hostPid instancePid pid = .ok found) :
    table.pidNamespace (toString found) = .ok space := by
  obtain ⟨-, space', own, hs', ho', hcase⟩ := hostPid_found h
  obtain rfl : space = space' := Except.ok.inj (hs.symm.trans hs')
  rcases hcase with ⟨rfl, -⟩ | ⟨-, entries, -, hf⟩
  · exact absurd ho' ho
  · obtain ⟨entry, -, hm⟩ := List.exists_of_findSome?_eq_some hf
    obtain ⟨text, -, -, hinside, -⟩ := matching_iff.mp hm
    exact hinside

/-- A process has one innermost pid, so it is not found under two. -/
theorem matches_pid (hr : table.Relists relisted) (hm : table.Matches space pid found)
    (hm' : relisted.Matches space pid' found) : pid = pid' := by
  obtain ⟨status, pids, ht, hp, hl⟩ := hm.known
  obtain ⟨status', pids', ht', hp', hl'⟩ := hm'.known
  rw [hr.readText] at ht
  obtain rfl : status = status' := Except.ok.inj (ht.symm.trans ht')
  obtain rfl : pids = pids' := Option.some.inj (hp.symm.trans hp')
  exact Option.some.inj (hl.symm.trans hl')

theorem hostPid_injective (hr : table.Relists relisted) (hc : table.CanonicalNames)
    (h : table.hostPid instancePid pid = .ok found)
    (h' : relisted.hostPid instancePid pid' = .ok found) : pid = pid' := by
  obtain ⟨-, space, own, hs, ho, hcase⟩ := hostPid_sound hc h
  obtain ⟨-, space', own', hs', ho', hcase'⟩ := hostPid_sound (hr.canonicalNames hc) h'
  rw [hr.pidNamespace] at hs ho
  obtain rfl : space = space' := Except.ok.inj (hs.symm.trans hs')
  obtain rfl : own = own' := Except.ok.inj (ho.symm.trans ho')
  rcases hcase with ⟨he, rfl⟩ | ⟨hne, hm⟩
  · rcases hcase' with ⟨-, rfl⟩ | ⟨hne, -⟩
    · rfl
    · exact absurd he hne
  · rcases hcase' with ⟨he, -⟩ | ⟨-, hm'⟩
    · exact absurd he hne
    · exact matches_pid hr hm hm'

/-- Queries on one table, of which the later may meet it in another order. Sandboxes of one pid
namespace are given the same results, those of different ones never the same process, and two pids
of a sandbox never lead to one process. -/
theorem sandboxes_kept_apart (table relisted : ProcessTable) (hr : table.Relists relisted)
    (one two : UInt32) (space space' : String)
    (hone : table.pidNamespace (toString one) = .ok space)
    (htwo : table.pidNamespace (toString two) = .ok space') :
    (space = space' → ∀ pid, table.hostPid one pid = table.hostPid two pid) ∧
    (space ≠ space' → table.pidNamespace "self" ≠ .ok space →
      table.pidNamespace "self" ≠ .ok space' → ∀ pid pid' found,
      ¬ (table.hostPid one pid = .ok found ∧ relisted.hostPid two pid' = .ok found)) ∧
    (table.CanonicalNames → ∀ pid pid' found, table.hostPid one pid = .ok found →
      relisted.hostPid one pid' = .ok found → pid = pid') := by
  refine ⟨?_, ?_, ?_⟩
  · rintro rfl pid
    exact hostPid_of_namespace hone htwo pid
  · rintro hne ho ho' pid pid' found ⟨h, h'⟩
    rw [hr.pidNamespace] at htwo ho'
    have hin := hostPid_inside hone ho h
    have hin' := hostPid_inside htwo ho' h'
    rw [hr.pidNamespace] at hin
    exact hne (Except.ok.inj (hin.symm.trans hin'))
  · intro hc pid pid' found h h'
    exact hostPid_injective hr hc h h'

def sampleRelisted : ProcessTable := ⟨⟨[("proc", .directory sampleEntries.reverse)]⟩, "/proc"⟩

theorem sampleTable_relists : sampleTable.Relists sampleRelisted where
  root := rfl
  tree := .inside "proc" [] (Entry.relists_of_perm (List.reverse_perm _).symm (by decide))

theorem sandboxes_kept_apart_sample :
    sampleTable.Relists sampleRelisted ∧ sampleTable.CanonicalNames ∧
      sampleTable.pidNamespace (toString (5000 : UInt32)) = .ok "pid:[2]" ∧
      sampleTable.pidNamespace (toString (9002 : UInt32)) = .ok "pid:[3]" ∧
      sampleTable.hostPid 5000 42 = .ok 9001 ∧ sampleRelisted.hostPid 9002 42 = .ok 9002 ∧
      (∀ pid, sampleRelisted.hostPid 9002 pid ≠ .ok 9001) ∧
      ∀ pid, sampleRelisted.hostPid 5000 pid = .ok 9001 → pid = 42 := by
  have hs : sampleTable.pidNamespace (toString (5000 : UInt32)) = .ok "pid:[2]" := by
    decide +kernel
  have hs' : sampleTable.pidNamespace (toString (9002 : UInt32)) = .ok "pid:[3]" := by
    decide +kernel
  have ho : sampleTable.pidNamespace "self" = .ok "pid:[1]" := by decide +kernel
  have hfound : sampleTable.hostPid 5000 42 = .ok 9001 := by decide +kernel
  have hfound' : sampleRelisted.hostPid 9002 42 = .ok 9002 := by decide +kernel
  obtain ⟨-, hapart, honce⟩ := sandboxes_kept_apart sampleTable sampleRelisted sampleTable_relists
    5000 9002 _ _ hs hs'
  have hother : sampleTable.pidNamespace "self" ≠ .ok "pid:[2]" := by
    rw [ho]
    decide
  have hother' : sampleTable.pidNamespace "self" ≠ .ok "pid:[3]" := by
    rw [ho]
    decide
  refine ⟨sampleTable_relists, sampleTable_canonicalNames, hs, hs', hfound, hfound', ?_, ?_⟩
  · intro pid h
    exact hapart (by decide) hother hother' 42 pid 9001 ⟨hfound, h⟩
  · intro pid h
    exact (honce sampleTable_canonicalNames 42 pid 9001 hfound h).symm

end PriorityPortal.ProcessTable
