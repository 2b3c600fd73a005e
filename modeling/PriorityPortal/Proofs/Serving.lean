import Mathlib.Data.List.Forall2
import PriorityPortal.Portal.Exports
import PriorityPortal.Proofs.Course
import PriorityPortal.Proofs.RelayStep
/-!
# Serving a portal

A message reaches the portal that a connection serves, or does nothing to it. The portal hands its
relay one request under a key that is not in use, and the relay makes the call that is due.
-/
namespace PriorityPortal

variable {κ : Type}

/-- A message that the portal at this path takes for this call. -/
structure PortalCall.Reaches (call : PortalCall) (path : String) (message : DBus.Call) : Prop where
  path : message.path = path
  interface : message.interface = some PortalCall.interface.name
  read : PortalCall.ofMessage message.member message.args = .ok call

def Progress.shown : Progress → Seen (Except PortalError Reply)
  | .waiting _ => .pending
  | .ended result => .done result.ofRelay

namespace Portal

variable {p : Portal κ}

/-- The keys of the requests that the relay holds are numbers that have been given out. -/
def Numbered (p : Portal κ) : Prop := ∀ q ∈ p.relay.pending, q.key < p.taken

theorem Numbered.fresh (h : p.Numbered) : p.relay.find? p.taken = none := by
  rw [Relay.find_none_iff]
  intro hm
  obtain ⟨q, hq, hk⟩ := List.mem_map.mp hm
  have hlt := h q hq
  omega

def taking (p : Portal κ) (now : Duration) (progress : Progress) : Portal κ :=
  { p with relay := p.relay.taking p.taken now progress, taken := p.taken + 1 }

theorem take_eq (h : p.Numbered) (around : Surroundings κ) (lookups : List String)
    (request : Request) :
    let begun := request.begin p.relay.routing (p.services around)
    p.take around lookups request =
      ⟨p.taking around.now begun.1, begun.1.shown, lookups, begun.2.mappings, begun.2.calls⟩ := by
  have hnext := Relay.next_start h.fresh (p.services around) request
  simp only [take, hnext]
  cases (request.begin p.relay.routing (p.services around)).1 <;> rfl

theorem Numbered.taking (h : p.Numbered) (now : Duration) (progress : Progress) :
    (p.taking now progress).Numbered := by
  intro q hq
  rcases Relay.mem_taking hq with hq | ⟨stage, -, rfl⟩
  · exact Nat.lt_succ_of_lt (h q hq)
  · exact Nat.lt_succ_self _

section

variable {around : Surroundings κ} {sender : String} {process task : UInt64} {priority : Priority}

theorem answer_property (around : Surroundings κ) (sender : Option String) (name : String) :
    p.answer around sender (.property name) =
      p.take around [] (.property (sender.getD "") name) := rfl

theorem answer_no_sender (around : Surroundings κ) :
    p.answer around none (.thread process task priority) =
      ⟨p, .done (.error (.caller .noSender)), [], [], []⟩ := rfl

theorem answer_unidentified {e : PortalError} (h : p.identify around sender = .error e) :
    p.answer around (some sender) (.thread process task priority) =
      ⟨p, .done (.error e), [sender], [], []⟩ := by
  simp only [answer, h]

theorem answer_identified {caller : Caller} (h : p.identify around sender = .ok caller) :
    p.answer around (some sender) (.thread process task priority) =
      p.take around [sender] (.thread caller process task priority) := by
  simp only [answer, h]

end

structure Follows (p next : Portal κ) : Prop where
  kit : next.kit = p.kit
  table : next.table = p.table
  routing : next.relay.routing = p.relay.routing
  numbered : next.Numbered

theorem answer_follows (h : p.Numbered) (around : Surroundings κ) (sender : Option String)
    (call : PortalCall) : p.Follows (p.answer around sender call).portal := by
  have htake : ∀ lookups request, p.Follows (p.take around lookups request).portal := by
    intro lookups request
    rw [take_eq h]
    exact ⟨rfl, rfl, Relay.taking_routing _ _ _ _, h.taking _ _⟩
  have hstay : p.Follows p := ⟨rfl, rfl, rfl, h⟩
  cases call with
  | property name => exact htake [] _
  | thread process task priority =>
    cases sender with
    | none =>
      rw [answer_no_sender]
      exact hstay
    | some sender =>
      cases hid : p.identify around sender with
      | error e =>
        rw [answer_unidentified hid]
        exact hstay
      | ok caller =>
        rw [answer_identified hid]
        exact htake [sender] _

/-- The relay meets a mapper that answers at once. -/
theorem translation_services (around : Surroundings κ) (caller : Caller)
    (process task : UInt64) (priority : Priority) :
    (Request.thread caller process task priority).translation? [p.services around] =
      some (p.table.mapPid caller.origin process) := by
  obtain ⟨sender, origin⟩ := caller
  cases origin <;> rfl

theorem begin_calls (around : Surroundings κ) (request : Request) :
    (request.begin p.relay.routing (p.services around)).2.calls =
      request.dueCalls p.relay.routing [p.services around] :=
  (Course.stands_start p.relay.routing request (p.services around)).calls

theorem identify_ok {around : Surroundings κ} {sender : String} {caller : Caller} :
    p.identify around sender = .ok caller ↔ caller.sender = sender ∧
      ∃ peer, around.pidOf sender = .ok peer ∧ p.table.origin peer = .ok caller.origin := by
  obtain ⟨name, origin⟩ := caller
  unfold identify
  cases around.pidOf sender with
  | error e => simp
  | ok peer =>
    cases ho : p.table.origin peer with
    | error e => simp [ho]
    | ok found => simp [ho, eq_comm]

def onTree (p : Portal κ) (tree : FileTree) : Portal κ :=
  { p with table := { p.table with tree := tree } }

/-- A process on the host that a sender is found to mean by a pid. -/
def Finds (p : Portal κ) (around : Surroundings κ) (sender : Option String)
    (process found : UInt64) : Prop :=
  ∃ name peer origin, sender = some name ∧ around.pidOf name = .ok peer ∧
    p.table.origin peer = .ok origin ∧ p.table.mapPid origin process = .ok found

section

variable {around : Surroundings κ} {sender : String} {process found : UInt64} {caller : Caller}

theorem finds_of_identified (h : p.identify around sender = .ok caller) :
    p.Finds around (some sender) process found ↔
      p.table.mapPid caller.origin process = .ok found := by
  obtain ⟨-, peer, hp, ho⟩ := identify_ok.mp h
  constructor
  · rintro ⟨name, peer', origin, ⟨⟩, hp', ho', hm⟩
    obtain rfl : peer = peer' := Except.ok.inj (hp.symm.trans hp')
    obtain rfl : caller.origin = origin := Except.ok.inj (ho.symm.trans ho')
    exact hm
  · exact fun hm => ⟨sender, peer, caller.origin, rfl, hp, ho, hm⟩

theorem not_finds_of_unidentified {e : PortalError} (h : p.identify around sender = .error e) :
    ¬ p.Finds around (some sender) process found := by
  rintro ⟨name, peer, origin, ⟨⟩, hp, ho, -⟩
  have hok : p.identify around sender = .ok ⟨sender, origin⟩ :=
    identify_ok.mpr ⟨rfl, peer, hp, ho⟩
  cases h.symm.trans hok

theorem take_mapped (h : p.Numbered) (hm : p.table.mapPid caller.origin process = .ok found)
    (lookups : List String) (task : UInt64) (priority : Priority) :
    (p.take around lookups (.thread caller process task priority)).calls =
      [.thread found task (p.relay.routing.pass priority)] := by
  have ht := translation_services (p := p) around caller process task priority
  rw [take_eq h, begin_calls]
  simp only [Request.dueCalls, ht, hm]

theorem take_unmapped {e : MappingError} (h : p.Numbered)
    (hm : p.table.mapPid caller.origin process = .error e) (lookups : List String)
    (task : UInt64) (priority : Priority) :
    let step := p.take around lookups (.thread caller process task priority)
    step.calls = [] ∧ step.seen = .done (.error (.realtime (.pidMapping e))) := by
  have ht := translation_services (p := p) around caller process task priority
  have hstands := Course.stands_start p.relay.routing (.thread caller process task priority)
    (p.services around)
  rw [hm] at ht
  rw [take_eq h]
  constructor
  · exact hstands.calls.trans (Request.dueCalls_of_translation_error ht _)
  · change Progress.shown (Course.start _ _ _).progress = _
    rw [fits_of_translation_error hstands.fits ht]
    rfl

end

/-- What a call for a thread leads to: one call of RealtimeKit for the process that is meant, or an
error and no call where the sender is not known or means no process. -/
theorem answer_thread (h : p.Numbered) (around : Surroundings κ) (sender : Option String)
    (process task : UInt64) (priority : Priority) :
    let step := p.answer around sender (.thread process task priority)
    (∃ found, p.Finds around sender process found ∧
      step.calls = [.thread found task (p.relay.routing.pass priority)]) ∨
    ((¬ ∃ found, p.Finds around sender process found) ∧ step.calls = [] ∧
      ∃ e, step.seen = .done (.error e)) := by
  cases sender with
  | none =>
    rw [answer_no_sender]
    refine Or.inr ⟨?_, rfl, _, rfl⟩
    rintro ⟨found, name, peer, origin, ⟨⟩, -⟩
  | some sender =>
    cases hid : p.identify around sender with
    | error e =>
      rw [answer_unidentified hid]
      refine Or.inr ⟨?_, rfl, e, rfl⟩
      rintro ⟨found, hf⟩
      exact not_finds_of_unidentified hid hf
    | ok caller =>
      rw [answer_identified hid]
      cases hm : p.table.mapPid caller.origin process with
      | ok found =>
        have hfinds := (finds_of_identified hid).mpr hm
        exact Or.inl ⟨found, hfinds, take_mapped h hm [sender] task priority⟩
      | error e =>
        obtain ⟨hcalls, hseen⟩ := take_unmapped h hm [sender] task priority
        refine Or.inr ⟨?_, hcalls, _, hseen⟩
        rintro ⟨found, hf⟩
        cases hm.symm.trans ((finds_of_identified hid).mp hf)

theorem answer_property_calls (h : p.Numbered) (around : Surroundings κ)
    (sender : Option String) (name : String) :
    (p.answer around sender (.property name)).calls = [.property name] := by
  rw [answer_property, take_eq h]
  rfl

end Portal

namespace Exports

variable {settings : Settings} {e : Exports κ} {p : Portal κ} {message : DBus.Call}
  {around : Surroundings κ}

/-- A connection that serves one portal, made for these settings. -/
structure Serves (settings : Settings) (e : Exports κ) (p : Portal κ) : Prop where
  portals : e.portals = [p]
  served : e.served = [(settings.portal.objectPath, 0)]
  root : p.table.root = settings.sandbox.procRoot
  routing : p.relay.routing = settings.kit.routing
  numbered : p.Numbered

theorem serves_added {link : Link κ} {tree : FileTree} {number : Nat}
    (h : Exports.empty.addIfReady link settings tree = .ok (e, some number)) :
    ∃ kit, link.handle? = some kit ∧ e.Serves settings (.ofSettings settings tree kit) := by
  unfold addIfReady at h
  cases hl : link.handle? with
  | none => simp [hl] at h
  | some kit =>
    refine ⟨kit, rfl, ?_⟩
    by_cases hv : DBus.isObjectPath settings.portal.objectPath = true
    · simp only [hl, add, hv, empty, paths] at h
      obtain ⟨rfl, -⟩ : (⟨[Portal.ofSettings settings tree kit],
          [(settings.portal.objectPath, 0)]⟩ : Exports κ) = e ∧ 0 = number := by
        simpa [Except.map] using h
      refine ⟨rfl, rfl, rfl, rfl, ?_⟩
      intro q hq
      cases hq
    · simp [hl, add, hv, Except.map] at h

theorem Serves.objects (h : e.Serves settings p) :
    e.objects = [(settings.portal.objectPath, PortalCall.interface)] := by
  simp [Exports.objects, paths, h.served]

theorem interface_of_one (place path name : String) (interface : DBus.Interface) :
    DBus.ObjectTree.interface? [(place, interface)] path name =
      if path = place ∧ name = interface.name then some interface else none := by
  by_cases h : path = place ∧ name = interface.name
  · obtain ⟨rfl, rfl⟩ := h
    simp [DBus.ObjectTree.interface?]
  · have h' : ¬ (place = path ∧ interface.name = name) := fun hc => h ⟨hc.1.symm, hc.2.symm⟩
    rw [if_neg h]
    simpa [DBus.ObjectTree.interface?] using h'

theorem Serves.route_iff (h : e.Serves settings p) (interface : DBus.Interface) :
    DBus.ObjectTree.route e.objects message = .ok interface ↔
      interface = PortalCall.interface ∧ message.path = settings.portal.objectPath ∧
        message.interface = some PortalCall.interface.name := by
  rw [h.objects, DBus.ObjectTree.route]
  cases hi : message.interface with
  | none => simp
  | some name =>
    simp only [interface_of_one]
    by_cases hr : message.path = settings.portal.objectPath ∧ name = PortalCall.interface.name
    · simp [hr, DBus.ObjectTree.pathExists, DBus.isAbove, eq_comm]
    · have hn : ¬ (interface = PortalCall.interface ∧
          message.path = settings.portal.objectPath ∧
            some name = some PortalCall.interface.name) :=
        fun h => hr ⟨h.2.1, Option.some.inj h.2.2⟩
      simp only [if_neg hr]
      refine iff_of_false ?_ hn
      -- What is left are the answers to a message that reaches no interface.
      repeat' split
      all_goals exact fun hc => nomatch hc

def shownAnswer (sender : Option String) : Seen (Except PortalError Reply) → Option DBus.Answer
  | .done result => Reply.message? sender result
  | _ => none

section

variable {path : String} {number : Nat}

theorem paths_of_lookup (h : e.served.lookup path = some number) : path ∈ e.paths := by
  obtain ⟨before, behind, hserved, -⟩ := List.lookup_eq_some_iff.mp h
  simp [paths, hserved]

theorem interface_served (h : path ∈ e.paths) :
    e.objects.interface? path PortalCall.interface.name = some PortalCall.interface := by
  have hmem : (path, PortalCall.interface) ∈ e.objects := List.mem_map_of_mem h
  cases hfind : e.objects.interface? path PortalCall.interface.name with
  | none =>
    rw [DBus.ObjectTree.interface?, Option.map_eq_none_iff, List.find?_eq_none] at hfind
    exact absurd (by simp) (hfind _ hmem)
  | some found =>
    rw [DBus.ObjectTree.interface?, Option.map_eq_some_iff] at hfind
    obtain ⟨entry, hentry, rfl⟩ := hfind
    -- All interfaces that a connection serves are the same.
    obtain ⟨place, -, rfl⟩ := List.mem_map.mp (List.mem_of_find?_eq_some hentry)
    rfl

theorem route_served (h : message.path ∈ e.paths)
    (named : message.interface = some PortalCall.interface.name) :
    e.objects.route message = .ok PortalCall.interface := by
  have hexists : e.objects.pathExists message.path = true := by
    rw [DBus.ObjectTree.pathExists, Bool.or_eq_true, List.any_eq_true]
    exact .inr ⟨_, List.mem_map_of_mem h, by simp [DBus.isAbove]⟩
  simp only [DBus.ObjectTree.route, named, hexists, interface_served h]
  rfl

/-- A call at a path is taken by the portal that is served there. -/
theorem answer_served {call : PortalCall} (reaches : call.Reaches path message)
    (served : e.served.lookup path = some number) (found : e.portals[number]? = some p)
    (around : Surroundings κ) :
    let step := p.answer around message.sender call
    e.answer around message =
      ⟨{ e with portals := e.portals.set number step.portal },
        shownAnswer message.sender step.seen, step.lookups, step.mappings,
        step.calls.map fun call => (p.kit, call)⟩ := by
  have hpath : message.path ∈ e.paths := reaches.path ▸ paths_of_lookup served
  have hlookup : (e.served.lookup message.path).bind
      (fun number => (e.portals[number]?).map fun portal => (number, portal)) =
        some (number, p) := by
    simp [reaches.path, served, found]
  simp only [answer, route_served hpath reaches.interface, answerHere, reaches.read, hlookup]
  cases (p.answer around message.sender call).seen <;> rfl

end

/-- A message that is a call of the portal is taken by it. -/
theorem Serves.answer_reached (h : e.Serves settings p) {call : PortalCall}
    (hr : call.Reaches settings.portal.objectPath message) (around : Surroundings κ) :
    let step := p.answer around message.sender call
    e.answer around message =
      ⟨⟨[step.portal], [(settings.portal.objectPath, 0)]⟩,
        shownAnswer message.sender step.seen, step.lookups, step.mappings,
        step.calls.map fun call => (p.kit, call)⟩ := by
  have hserved : e.served.lookup settings.portal.objectPath = some 0 := by simp [h.served]
  have hfound : e.portals[0]? = some p := by simp [h.portals]
  rw [answer_served hr hserved hfound around, h.portals, h.served]
  rfl

/-- Any other message leaves all as it is. -/
theorem Serves.answer_unreached (h : e.Serves settings p)
    (hn : ∀ call : PortalCall, ¬ call.Reaches settings.portal.objectPath message)
    (around : Surroundings κ) :
    (e.answer around message).exports = e ∧ (e.answer around message).lookups = [] ∧
      (e.answer around message).calls = [] := by
  cases hroute : DBus.ObjectTree.route e.objects message with
  | error answer => simp [Exports.answer, hroute]
  | ok interface =>
    obtain ⟨-, hp, hi⟩ := (h.route_iff interface).mp hroute
    cases hc : PortalCall.ofMessage message.member message.args with
    | error answer => simp [Exports.answer, hroute, answerHere, hc]
    | ok call => exact absurd ⟨hp, hi, hc⟩ (hn call)

/-- A portal stays as it is or answers a call. -/
theorem Serves.next (h : e.Serves settings p) (around : Surroundings κ) (message : DBus.Call) :
    ∃ q, (e.answer around message).exports.Serves settings q ∧
      (q = p ∨ ∃ call, q = (p.answer around message.sender call).portal) := by
  by_cases hr : ∃ call : PortalCall, call.Reaches settings.portal.objectPath message
  · obtain ⟨call, hr⟩ := hr
    have hf := Portal.answer_follows h.numbered around message.sender call
    refine ⟨_, ?_, Or.inr ⟨call, rfl⟩⟩
    rw [h.answer_reached hr]
    exact ⟨rfl, rfl, hf.table ▸ h.root, hf.routing.trans h.routing, hf.numbered⟩
  · have hstay := (h.answer_unreached (fun call hc => hr ⟨call, hc⟩) around).1
    exact ⟨p, hstay.symm ▸ h, Or.inl rfl⟩

def onTree (e : Exports κ) (tree : FileTree) : Exports κ :=
  { e with portals := e.portals.map fun p => p.onTree tree }

theorem Serves.onTree (h : e.Serves settings p) (tree : FileTree) :
    (e.onTree tree).Serves settings (p.onTree tree) where
  portals := by simp [Exports.onTree, h.portals]
  served := h.served
  root := h.root
  routing := h.routing
  numbered := h.numbered

end Exports

/-- A message, with the tree and all else that the portal finds when it takes it. -/
structure Inbound (κ : Type) where
  tree : FileTree
  around : Surroundings κ
  message : DBus.Call

namespace Exports

def receive (e : Exports κ) (inbound : Inbound κ) : ExportsStep κ :=
  (e.onTree inbound.tree).answer inbound.around inbound.message

variable {settings : Settings} {e : Exports κ} {p : Portal κ} {inbound : Inbound κ}

theorem Serves.receive_reached (h : e.Serves settings p) {call : PortalCall}
    (hr : call.Reaches settings.portal.objectPath inbound.message) :
    let step := (p.onTree inbound.tree).answer inbound.around inbound.message.sender call
    e.receive inbound =
      ⟨⟨[step.portal], [(settings.portal.objectPath, 0)]⟩,
        shownAnswer inbound.message.sender step.seen, step.lookups, step.mappings,
        step.calls.map fun call => (p.kit, call)⟩ :=
  (h.onTree inbound.tree).answer_reached hr inbound.around

theorem Serves.receive_unreached (h : e.Serves settings p)
    (hn : ∀ call : PortalCall, ¬ call.Reaches settings.portal.objectPath inbound.message) :
    (e.receive inbound).calls = [] :=
  ((h.onTree inbound.tree).answer_unreached hn inbound.around).2.2

end Exports

end PriorityPortal
