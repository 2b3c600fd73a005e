import PriorityPortal.Proofs.PidMapping
import PriorityPortal.Proofs.Serving
/-!
# The trust boundary

A peer may mean a process of the host by a pid: the one it names if it runs on the host itself, or
the one that its sandbox knows by this pid. What the process table finds for a peer is what it may
mean, and where it may mean some process the table finds one.
-/
namespace PriorityPortal

namespace ProcessTable

/-- The host's pids of the processes that a peer may mean by a pid. -/
inductive Vouched (table : ProcessTable) (peer : UInt32) (process : UInt64) : UInt64 → Prop where
  | host (present : table.tree.resolves (table.within [toString peer]) = true)
      (bare : table.tree.find (table.within [toString peer, "root", ".flatpak-info"]) .follow =
        .error (.os .notFound)) :
      Vouched table peer process process
  | shared {text application space}
      (present : table.tree.resolves (table.within [toString peer]) = true)
      (info : table.tree.readText (table.within [toString peer, "root", ".flatpak-info"]) =
        .ok text)
      (named : Keyfile.applicationName? text = some application) (range : InRange process)
      (theirs : table.pidNamespace (toString peer) = .ok space)
      (ours : table.pidNamespace "self" = .ok space) :
      Vouched table peer process process
  | nested {text application space own found}
      (present : table.tree.resolves (table.within [toString peer]) = true)
      (info : table.tree.readText (table.within [toString peer, "root", ".flatpak-info"]) =
        .ok text)
      (named : Keyfile.applicationName? text = some application) (range : InRange process)
      (theirs : table.pidNamespace (toString peer) = .ok space)
      (ours : table.pidNamespace "self" = .ok own) (apart : own ≠ space)
      (known : table.Matches space process found) :
      Vouched table peer process found

variable {table : ProcessTable} {peer : UInt32} {process found : UInt64}

theorem readText_not_found {names : List String} :
    table.tree.readText names = .error (.os .notFound) ↔
      table.tree.find names .follow = .error (.os .notFound) := by
  unfold FileTree.readText
  split
  next bytes hf =>
    rw [hf]
    split <;> simp
  next hf => simp [hf]
  next other _ _ hf => simp [hf]
  next e hf => simp [hf]

theorem origin_host_iff : table.origin peer = .ok .host ↔
    table.tree.resolves (table.within [toString peer]) = true ∧
      table.tree.find (table.within [toString peer, "root", ".flatpak-info"]) .follow =
        .error (.os .notFound) := by
  rw [← readText_not_found]
  unfold origin
  cases table.tree.resolves (table.within [toString peer]) with
  | false => simp
  | true =>
    cases table.tree.readText (table.within [toString peer, "root", ".flatpak-info"]) with
    | error e =>
      simp only [IoError.isNotFound_iff]
      by_cases he : e = .os .notFound <;> simp [he]
    | ok text =>
      cases hn : Keyfile.applicationName? text <;> simp [hn]

theorem origin_flatpak_iff {application : String} {instancePid : UInt32} :
    table.origin peer = .ok (.flatpak application instancePid) ↔ instancePid = peer ∧
      table.tree.resolves (table.within [toString peer]) = true ∧
      ∃ text, table.tree.readText (table.within [toString peer, "root", ".flatpak-info"]) =
        .ok text ∧ Keyfile.applicationName? text = some application := by
  unfold origin
  cases table.tree.resolves (table.within [toString peer]) with
  | false => simp
  | true =>
    cases table.tree.readText (table.within [toString peer, "root", ".flatpak-info"]) with
    | error e => by_cases he : e.isNotFound = true <;> simp [he]
    | ok text =>
      cases hn : Keyfile.applicationName? text <;> simp [hn, eq_comm, and_comm]

/-- What a peer is found to mean is what it may mean. -/
theorem vouched_of_mapPid {origin : Origin} (hc : table.CanonicalNames)
    (ho : table.origin peer = .ok origin) (hm : table.mapPid origin process = .ok found) :
    table.Vouched peer process found := by
  cases origin with
  | host =>
    obtain ⟨present, bare⟩ := origin_host_iff.mp ho
    obtain rfl : process = found := Except.ok.inj hm
    exact .host present bare
  | flatpak application instancePid =>
    obtain ⟨rfl, present, text, info, named⟩ := origin_flatpak_iff.mp ho
    obtain ⟨range, space, own, theirs, ours, hfound⟩ := hostPid_sound hc hm
    rcases hfound with ⟨rfl, rfl⟩ | ⟨apart, known⟩
    · exact .shared present info named range theirs ours
    · exact .nested present info named range theirs ours apart known

/-- Where a peer may mean some process, it is found to mean one. -/
theorem mapPid_of_vouched (hc : table.CanonicalNames) (h : table.Vouched peer process found) :
    ∃ origin found', table.origin peer = .ok origin ∧ table.mapPid origin process = .ok found' := by
  cases h with
  | host present bare => exact ⟨.host, process, origin_host_iff.mpr ⟨present, bare⟩, rfl⟩
  | @shared text application space present info named range theirs ours =>
    refine ⟨.flatpak application peer, process, ?_, hostPid_shared range theirs ours⟩
    exact origin_flatpak_iff.mpr ⟨rfl, present, text, info, named⟩
  | @nested text application space own found present info named range theirs ours apart known =>
    obtain ⟨found', hf⟩ := hostPid_complete hc range theirs ours apart known
    refine ⟨.flatpak application peer, found', ?_, hf⟩
    exact origin_flatpak_iff.mpr ⟨rfl, present, text, info, named⟩

end ProcessTable

section

variable {κ : Type}

def Inbound.table (inbound : Inbound κ) (settings : Settings) : ProcessTable :=
  ⟨inbound.tree, settings.sandbox.procRoot⟩

def Inbound.Means (inbound : Inbound κ) (settings : Settings) (process found : UInt64) : Prop :=
  ∃ sender peer, inbound.message.sender = some sender ∧ inbound.around.pidOf sender = .ok peer ∧
    (inbound.table settings).Vouched peer process found

variable {settings : Settings} {e : Exports κ} {p : Portal κ} {inbound : Inbound κ}
  {process found : UInt64}

theorem Exports.Serves.table (h : e.Serves settings p) :
    (p.onTree inbound.tree).table = inbound.table settings := by
  change (⟨inbound.tree, p.table.root⟩ : ProcessTable) = _
  rw [h.root]
  rfl

theorem Exports.Serves.means_of_finds (h : e.Serves settings p)
    (hc : (inbound.table settings).CanonicalNames)
    (hf : (p.onTree inbound.tree).Finds inbound.around inbound.message.sender process found) :
    inbound.Means settings process found := by
  obtain ⟨name, peer, origin, hs, hp, ho, hm⟩ := hf
  rw [h.table] at ho hm
  exact ⟨name, peer, hs, hp, ProcessTable.vouched_of_mapPid hc ho hm⟩

theorem Exports.Serves.finds_of_means (h : e.Serves settings p)
    (hc : (inbound.table settings).CanonicalNames) (hm : inbound.Means settings process found) :
    ∃ found',
      (p.onTree inbound.tree).Finds inbound.around inbound.message.sender process found' := by
  obtain ⟨name, peer, hs, hp, hv⟩ := hm
  obtain ⟨origin, found', ho, hm⟩ := ProcessTable.mapPid_of_vouched hc hv
  rw [← h.table] at ho hm
  exact ⟨found', name, peer, origin, hs, hp, ho, hm⟩

end

def sampleSurroundings (reply : Option (Except DownstreamError Unit)) : Surroundings Unit where
  pidOf _ := .ok 5000
  kit _ := ⟨fun _ _ _ => reply, fun _ => some (.ok (.int32 20))⟩
  now := ⟨0⟩

def sampleInbound : Inbound Unit where
  tree := ProcessTable.sampleTable.tree
  around := sampleSurroundings none
  message := ⟨some ":1.7", none, "/org/freedesktop/portal/desktop",
    some "org.freedesktop.portal.Realtime", "MakeThreadRealtimeWithPID",
    [.uint64 42, .uint64 43, .uint32 10]⟩

theorem sampleInbound_means : sampleInbound.Means .standard 42 9001 := by
  have info : sampleInbound.tree.readText
      ((sampleInbound.table .standard).within [toString (5000 : UInt32), "root", ".flatpak-info"]) =
        .ok "[Application]\nname=org.example.Player\n" := by
    decide +kernel
  have named : Keyfile.applicationName? "[Application]\nname=org.example.Player\n" =
      some "org.example.Player" := by
    decide +kernel
  have ours : (sampleInbound.table .standard).pidNamespace "self" = .ok "pid:[1]" := by
    decide +kernel
  have theirs : (sampleInbound.table .standard).pidNamespace (toString (5000 : UInt32)) =
      .ok "pid:[2]" := by
    decide +kernel
  refine ⟨":1.7", 5000, rfl, rfl, ?_⟩
  exact .nested (by decide +kernel) info named ⟨by decide, by decide⟩ theirs ours (by decide)
    ProcessTable.sampleTable_matches

def sampleExports : Exports Unit :=
  ⟨[.ofSettings .standard ⟨[]⟩ ()], [("/org/freedesktop/portal/desktop", 0)]⟩

end PriorityPortal
