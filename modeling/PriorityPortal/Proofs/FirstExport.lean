import PriorityPortal.Proofs.Completion
import PriorityPortal.Proofs.Occasion
/-!
# The first portal at a path

At each path a connection serves the portal that was exported there first, for good. A portal that
comes later is kept and its number is told all the same, but no call ever reaches it.
-/
namespace PriorityPortal

variable {κ : Type}

inductive ExportsEvent (κ : Type) where
  /-- The portal for settings is added if RealtimeKit was reached. -/
  | addIfReady (link : Link κ) (settings : Settings) (tree : FileTree)
  /-- The portal for settings is added at any path. -/
  | add (settings : Settings) (tree : FileTree) (kit : κ) (path : String)
  | meet (occasion : Occasion κ)

namespace Portal

structure Idle (p : Portal κ) : Prop where
  counters : p.relay.counters = .zero
  pending : p.relay.pending = []

/-- A portal goes on with its handle on RealtimeKit, and idle where it is not served. -/
structure GoesOn (p : Portal κ) (served : Prop) (q : Portal κ) : Prop where
  kit : q.kit = p.kit
  numbered : p.Numbered → q.Numbered
  idle : ¬ served → p.Idle → q.Idle

section

variable {p q r : Portal κ} {served later : Prop}

theorem ofSettings_numbered (s : Settings) (tree : FileTree) (kit : κ) :
    (ofSettings s tree kit).Numbered :=
  fun _ hq => absurd hq List.not_mem_nil

theorem ofSettings_idle (s : Settings) (tree : FileTree) (kit : κ) : (ofSettings s tree kit).Idle :=
  ⟨rfl, rfl⟩

theorem GoesOn.refl (p : Portal κ) (served : Prop) : p.GoesOn served p :=
  ⟨rfl, id, fun _ => id⟩

theorem GoesOn.trans (first : p.GoesOn served q) (second : q.GoesOn later r)
    (h : later → served) : p.GoesOn served r where
  kit := second.kit.trans first.kit
  numbered := second.numbered ∘ first.numbered
  idle hn hp := second.idle (hn ∘ h) (first.idle hn hp)

theorem goesOn_onTree (p : Portal κ) (served : Prop) (tree : FileTree) :
    p.GoesOn served (p.onTree tree) :=
  ⟨rfl, id, fun _ hp => ⟨hp.counters, hp.pending⟩⟩

theorem answer_kit (p : Portal κ) (around : Surroundings κ) (sender : Option String)
    (call : PortalCall) : (p.answer around sender call).portal.kit = p.kit := by
  cases call with
  | property name => rfl
  | thread process task priority =>
    cases sender with
    | none => rfl
    | some sender =>
      simp only [answer]
      split <;> rfl

theorem goesOn_answer (p : Portal κ) (around : Surroundings κ) (sender : Option String)
    (call : PortalCall) (h : served) : p.GoesOn served (p.answer around sender call).portal where
  kit := p.answer_kit around sender call
  numbered hp := (answer_follows hp around sender call).numbered
  idle hn := absurd h hn

theorem look_unknown {around : Surroundings κ} {number : Nat} (h : p.relay.find? number = none) :
    (p.look around number).portal = p := by
  simp [look, Relay.next_poll_unknown h]

theorem Idle.look (h : p.Idle) (around : Surroundings κ) (number : Nat) :
    (p.look around number).portal = p :=
  look_unknown (by simp [Relay.find?, h.pending])

theorem goesOn_look (p : Portal κ) (served : Prop) (around : Surroundings κ) (number : Nat) :
    p.GoesOn served (p.look around number).portal where
  kit := rfl
  numbered hp := by
    cases hf : p.relay.find? number with
    | none => rwa [look_unknown hf]
    | some pending =>
      have hnext := Relay.next_poll hf (p.services around)
      simp only [look, hnext]
      exact hp.bringing pending _ _
  idle _ hp := by rwa [hp.look around number]

end

end Portal

namespace Exports

def numbers (e : Exports κ) : List Nat := e.served.map (·.2)

def next (e : Exports κ) : ExportsEvent κ → Exports κ
  | .addIfReady link settings tree =>
    match e.addIfReady link settings tree with
    | .ok (d, _) => d
    | .error _ => e
  | .add settings tree kit path =>
    match e.add (.ofSettings settings tree kit) path with
    | .ok (d, _, _) => d
    | .error _ => e
  | .meet occasion => (e.meet occasion).exports

def run (e : Exports κ) (history : List (ExportsEvent κ)) : Exports κ := history.foldl next e

inductive Adds (e : Exports κ) (portal : Portal κ) (path : String) :
    Except DBus.Fault (Exports κ × Nat × Bool) → Prop where
  | malformed (bad : DBus.isObjectPath path = false) : Adds e portal path (.error .value)
  | late (good : DBus.isObjectPath path = true) (occupied : path ∈ e.paths) :
      Adds e portal path
        (.ok (⟨e.portals ++ [portal], e.served⟩, e.portals.length, false))
  | first (good : DBus.isObjectPath path = true) (free : path ∉ e.paths) :
      Adds e portal path
        (.ok (⟨e.portals ++ [portal], e.served ++ [(path, e.portals.length)]⟩,
          e.portals.length, true))

theorem adds (e : Exports κ) (portal : Portal κ) (path : String) :
    e.Adds portal path (e.add portal path) := by
  unfold add
  cases good : DBus.isObjectPath path with
  | false => exact .malformed good
  | true =>
    by_cases occupied : path ∈ e.paths
    · have hc : e.paths.contains path = true := List.contains_iff_mem.mpr occupied
      rw [if_neg (by simp), if_pos hc]
      exact .late good occupied
    · have hc : ¬ e.paths.contains path = true := fun h => occupied (List.contains_iff_mem.mp h)
      rw [if_neg (by simp), if_neg hc]
      exact .first good occupied

inductive AddsIfReady (e : Exports κ) (link : Link κ) (settings : Settings) (tree : FileTree) :
    Except DBus.Fault (Exports κ × Option Nat) → Prop where
  | unready (waits : link.handle? = none) : AddsIfReady e link settings tree (.ok (e, none))
  | ready (kit : κ) {ending : Except DBus.Fault (Exports κ × Nat × Bool)}
      (reached : link.handle? = some kit)
      (ends : e.Adds (.ofSettings settings tree kit) settings.portal.objectPath ending) :
      AddsIfReady e link settings tree (ending.map fun (d, number, _) => (d, some number))

theorem addsIfReady (e : Exports κ) (link : Link κ) (settings : Settings) (tree : FileTree) :
    e.AddsIfReady link settings tree (e.addIfReady link settings tree) := by
  unfold addIfReady
  split
  next waits => exact .unready waits
  next kit reached => exact .ready kit reached (e.adds _ _)

/-- What becomes of a connection with a message: nothing, or the portal is turned to that is served
at its path. -/
inductive Answers (e : Exports κ) (around : Surroundings κ) (message : DBus.Call) :
    Exports κ → Prop where
  | unreached : Answers e around message e
  | reached {number : Nat} {p : Portal κ} (call : PortalCall)
      (served : e.served.lookup message.path = some number) (found : e.portals[number]? = some p) :
      Answers e around message
        { e with portals := e.portals.set number (p.answer around message.sender call).portal }

theorem answers (e : Exports κ) (around : Surroundings κ) (message : DBus.Call) :
    e.Answers around message (e.answer around message).exports := by
  unfold answer
  split
  next => exact .unreached
  next =>
    unfold answerHere
    split
    next => exact .unreached
    next call _ =>
      split
      next => exact .unreached
      next number p hfound =>
        obtain ⟨number, served, hfound⟩ := Option.bind_eq_some_iff.mp hfound
        obtain ⟨p, found, hpair⟩ := Option.map_eq_some_iff.mp hfound
        cases hpair
        exact .reached call served found

/-- What an event makes of a connection: it stays, or a portal joins it that is served by its own
number or not at all, or a message or a second look is met. -/
inductive Next (e : Exports κ) : Exports κ → Prop where
  | same : Next e e
  | joined (settings : Settings) (tree : FileTree) (kit : κ) (added : List (String × Nat))
      (own : ∀ entry ∈ added, entry.2 = e.portals.length) :
      Next e ⟨e.portals ++ [.ofSettings settings tree kit], e.served ++ added⟩
  | met (occasion : Occasion κ) : Next e (e.meet occasion).exports

section

variable {e d f : Exports κ} {path : String} {number : Nat} {p : Portal κ}

theorem next_of_adds {settings : Settings} {tree : FileTree} {kit : κ} {served : Bool}
    (h : e.Adds (.ofSettings settings tree kit) path (.ok (d, number, served))) : e.Next d := by
  cases h with
  | late good occupied =>
    have hjoined := Next.joined (e := e) settings tree kit [] (by simp)
    rwa [List.append_nil] at hjoined
  | first good free => exact .joined settings tree kit [(path, _)] (by simp)

theorem next_of_addIfReady {link : Link κ} {settings : Settings} {tree : FileTree}
    {number : Option Nat} (h : e.addIfReady link settings tree = .ok (d, number)) : e.Next d := by
  have hready := e.addsIfReady link settings tree
  generalize e.addIfReady link settings tree = ending at h hready
  cases hready with
  | unready =>
    cases h
    exact .same
  | @ready kit ending _ hadds =>
    cases ending with
    | error fault => cases h
    | ok added =>
      obtain ⟨after, told, served⟩ := added
      cases h
      exact next_of_adds hadds

theorem next_cases (e : Exports κ) (event : ExportsEvent κ) : e.Next (e.next event) := by
  cases event with
  | addIfReady link settings tree =>
    unfold next
    dsimp only
    split
    next h => exact next_of_addIfReady h
    next => exact .same
  | add settings tree kit path =>
    have hadds := e.adds (.ofSettings settings tree kit) path
    unfold next
    dsimp only
    split
    next h => exact next_of_adds (h ▸ hadds)
    next => exact .same
  | meet occasion => exact .met occasion

/-- How a connection goes on: portals that are served stay so, those that are not never will be,
and all of them stay in place. -/
structure Onward (e d : Exports κ) : Prop where
  servers : ∀ path number, e.served.lookup path = some number → d.served.lookup path = some number
  others : ∀ number < e.portals.length, number ∈ d.numbers → number ∈ e.numbers
  portals : ∀ (number : Nat) (p : Portal κ), e.portals[number]? = some p →
    ∃ q, d.portals[number]? = some q ∧ p.GoesOn (number ∈ e.numbers) q

theorem Onward.refl (e : Exports κ) : e.Onward e where
  servers _ _ := id
  others _ _ := id
  portals _ p hp := ⟨p, hp, .refl p _⟩

theorem Onward.trans (first : e.Onward d) (second : d.Onward f) : e.Onward f := by
  have hplace : ∀ number < e.portals.length, number < d.portals.length := by
    intro number hlt
    obtain ⟨q, hq, -⟩ := first.portals number _ (List.getElem?_eq_getElem hlt)
    exact (List.getElem?_eq_some_iff.mp hq).1
  refine ⟨fun path number h => second.servers path number (first.servers path number h), ?_, ?_⟩
  · intro number hlt hf
    exact first.others number hlt (second.others number (hplace number hlt) hf)
  · intro number p hp
    have hlt := (List.getElem?_eq_some_iff.mp hp).1
    obtain ⟨q, hq, hpq⟩ := first.portals number p hp
    obtain ⟨r, hr, hqr⟩ := second.portals number q hq
    exact ⟨r, hr, hpq.trans hqr (first.others number hlt)⟩

theorem onward_set (hp : e.portals[number]? = some p) {q : Portal κ}
    (h : p.GoesOn (number ∈ e.numbers) q) :
    e.Onward { e with portals := e.portals.set number q } where
  servers _ _ := id
  others _ _ := id
  portals other r hr := by
    by_cases hsame : number = other
    · subst hsame
      obtain rfl := Option.some.inj (hp.symm.trans hr)
      have hlt := (List.getElem?_eq_some_iff.mp hp).1
      exact ⟨q, List.getElem?_set_self hlt, h⟩
    · exact ⟨r, (List.getElem?_set_ne hsame).trans hr, .refl r _⟩

theorem onward_onTree (e : Exports κ) (tree : FileTree) : e.Onward (e.onTree tree) where
  servers _ _ := id
  others _ _ := id
  portals _ p hp := ⟨p.onTree tree, by simp [onTree, hp], p.goesOn_onTree _ tree⟩

theorem numbers_of_lookup (h : e.served.lookup path = some number) : number ∈ e.numbers := by
  obtain ⟨before, behind, hserved, -⟩ := List.lookup_eq_some_iff.mp h
  simp [numbers, hserved]

theorem onward_answer (e : Exports κ) (around : Surroundings κ) (message : DBus.Call) :
    e.Onward (e.answer around message).exports := by
  have hanswers := e.answers around message
  generalize (e.answer around message).exports = after at hanswers
  cases hanswers with
  | unreached => exact .refl e
  | @reached number p call served found =>
    exact onward_set found (p.goesOn_answer around message.sender call (numbers_of_lookup served))

theorem onward_meet (e : Exports κ) (occasion : Occasion κ) :
    e.Onward (e.meet occasion).exports := by
  cases occasion with
  | message inbound =>
    exact (e.onward_onTree inbound.tree).trans (onward_answer _ inbound.around inbound.message)
  | look portal number sender around =>
    simp only [meet, look]
    split
    next => exact .refl e
    next p hp => exact onward_set hp (p.goesOn_look _ around number)

theorem Next.onward (h : e.Next d) : e.Onward d := by
  cases h with
  | same => exact .refl e
  | met occasion => exact e.onward_meet occasion
  | joined settings tree kit added own =>
    refine ⟨?_, ?_, ?_⟩
    · intro path number hl
      rw [List.lookup_append, hl]
      rfl
    · intro number hlt hd
      obtain ⟨entry, hentry, rfl⟩ := List.mem_map.mp hd
      rcases List.mem_append.mp hentry with hold | hnew
      · exact List.mem_map_of_mem hold
      · have hown := own entry hnew
        omega
    · intro number p hp
      have hlt := (List.getElem?_eq_some_iff.mp hp).1
      exact ⟨p, (List.getElem?_append_left hlt).trans hp, .refl p _⟩

theorem onward_run (e : Exports κ) (history : List (ExportsEvent κ)) :
    e.Onward (e.run history) := by
  -- What a portal is to be served as is settled when it joins, so each step carries it on.
  induction history generalizing e with
  | nil => exact .refl e
  | cons event rest ih => exact (e.next_cases event).onward.trans (ih (e.next event))

/-- What holds of a connection at all times: what is served is there, and all else is idle. -/
structure Orderly (e : Exports κ) : Prop where
  known : ∀ number ∈ e.numbers, number < e.portals.length
  numbered : ∀ (number : Nat) (p : Portal κ), e.portals[number]? = some p → p.Numbered
  idle : ∀ (number : Nat) (p : Portal κ), e.portals[number]? = some p → number ∉ e.numbers → p.Idle

theorem orderly_empty : (empty : Exports κ).Orderly where
  known _ h := absurd h List.not_mem_nil
  numbered _ _ h := nomatch h
  idle _ _ h := nomatch h

theorem meet_served (e : Exports κ) (occasion : Occasion κ) :
    (e.meet occasion).exports.served = e.served ∧
      (e.meet occasion).exports.portals.length = e.portals.length := by
  cases occasion with
  | message inbound =>
    have hanswers := (e.onTree inbound.tree).answers inbound.around inbound.message
    simp only [meet, receive]
    generalize ((e.onTree inbound.tree).answer inbound.around inbound.message).exports = after
      at hanswers
    cases hanswers with
    | unreached => exact ⟨rfl, List.length_map _⟩
    | reached call served found => exact ⟨rfl, List.length_set.trans (List.length_map _)⟩
  | look portal number sender around =>
    simp only [meet, look]
    split
    next => exact ⟨rfl, rfl⟩
    next => exact ⟨rfl, List.length_set⟩

theorem Orderly.met (h : e.Orderly) (occasion : Occasion κ) :
    (e.meet occasion).exports.Orderly := by
  obtain ⟨hserved, hlength⟩ := e.meet_served occasion
  have hnumbers : (e.meet occasion).exports.numbers = e.numbers := congrArg (·.map (·.2)) hserved
  -- No portal joins here, so each one that is there now was there before.
  have hback : ∀ number (q : Portal κ), (e.meet occasion).exports.portals[number]? = some q →
      ∃ p : Portal κ, e.portals[number]? = some p ∧ p.GoesOn (number ∈ e.numbers) q := by
    intro number q hq
    have hlt := (List.getElem?_eq_some_iff.mp hq).1
    have hp := List.getElem?_eq_getElem (hlength ▸ hlt)
    obtain ⟨q', hq', hgoes⟩ := (e.onward_meet occasion).portals number _ hp
    obtain rfl := Option.some.inj (hq'.symm.trans hq)
    exact ⟨_, hp, hgoes⟩
  refine ⟨?_, ?_, ?_⟩
  · rw [hnumbers, hlength]
    exact h.known
  · intro number q hq
    obtain ⟨p, hp, hgoes⟩ := hback number q hq
    exact hgoes.numbered (h.numbered number p hp)
  · intro number q hq hn
    rw [hnumbers] at hn
    obtain ⟨p, hp, hgoes⟩ := hback number q hq
    exact hgoes.idle hn (h.idle number p hp hn)

theorem Next.orderly (hn : e.Next d) (h : e.Orderly) : d.Orderly := by
  cases hn with
  | same => exact h
  | met occasion => exact h.met occasion
  | joined settings tree kit added own =>
    have hcases : ∀ (number : Nat) (p : Portal κ),
        (e.portals ++ [.ofSettings settings tree kit])[number]? = some p →
          e.portals[number]? = some p ∨ p = .ofSettings settings tree kit := by
      intro number p hp
      rw [List.getElem?_append] at hp
      split at hp
      · exact .inl hp
      · exact .inr (List.mem_singleton.mp (List.mem_of_getElem? hp))
    refine ⟨?_, ?_, ?_⟩
    · intro number hm
      rw [List.length_append, List.length_singleton]
      obtain ⟨entry, hentry, rfl⟩ := List.mem_map.mp hm
      rcases List.mem_append.mp hentry with hold | hnew
      · have hlt := h.known entry.2 (List.mem_map_of_mem hold)
        omega
      · have hown := own entry hnew
        omega
    · intro number p hp
      rcases hcases number p hp with hold | rfl
      · exact h.numbered number p hold
      · exact Portal.ofSettings_numbered settings tree kit
    · intro number p hp hm
      rcases hcases number p hp with hold | rfl
      · refine h.idle number p hold fun hold => hm ?_
        obtain ⟨entry, hentry, rfl⟩ := List.mem_map.mp hold
        exact List.mem_map_of_mem (List.mem_append_left added hentry)
      · exact Portal.ofSettings_idle settings tree kit

theorem Orderly.run (h : e.Orderly) (history : List (ExportsEvent κ)) :
    (e.run history).Orderly := by
  induction history generalizing e with
  | nil => exact h
  | cons event rest ih => exact ih ((e.next_cases event).orderly h)

end

end Exports

def Portal.receive (p : Portal κ) (inbound : Inbound κ) (call : PortalCall) : PortalStep κ :=
  (p.onTree inbound.tree).answer inbound.around inbound.message.sender call

theorem Portal.receive_counted {p : Portal κ} (h : p.Numbered) {inbound : Inbound κ}
    {call : PortalCall} {request : Request}
    (taken : (p.onTree inbound.tree).request? inbound.around inbound.message.sender call =
      some request) :
    (p.receive inbound call).portal.relay.counters.requests =
      p.relay.counters.requests + 1 := by
  have hnumbered : (p.onTree inbound.tree).Numbered := h
  obtain ⟨lookups, htake⟩ := Portal.answer_request taken
  rw [receive, htake, Portal.take_eq hnumbered]
  exact Relay.taking_requests _ _ _ _

namespace Exports

/-- A call is taken by a portal: the answer is its own, RealtimeKit is called through its handle,
and its counters move if the call becomes a request. -/
structure Takes (e : Exports κ) (number : Nat) (p : Portal κ) (inbound : Inbound κ)
    (call : PortalCall) : Prop where
  answer : (e.receive inbound).answer =
    shownAnswer inbound.message.sender (p.receive inbound call).seen
  lookups : (e.receive inbound).lookups = (p.receive inbound call).lookups
  calls : (e.receive inbound).calls = (p.receive inbound call).calls.map fun call => (p.kit, call)
  portal : (e.receive inbound).exports.portals[number]? = some (p.receive inbound call).portal
  counted : ∀ request, (p.onTree inbound.tree).request? inbound.around inbound.message.sender call =
    some request → (p.receive inbound call).portal.relay.counters.requests =
      p.relay.counters.requests + 1

/-- One portal takes all calls at a path, and no message there moves the counters of another. -/
structure ServedBy (e : Exports κ) (path : String) (number : Nat) (kit : κ) : Prop where
  takes : ∀ (inbound : Inbound κ) (call : PortalCall), call.Reaches path inbound.message →
    ∃ p, e.portals[number]? = some p ∧ p.kit = kit ∧ e.Takes number p inbound call
  others : ∀ inbound : Inbound κ, inbound.message.path = path → ∀ other, other ≠ number →
    (e.receive inbound).exports.counters? other = e.counters? other

section

variable {e d : Exports κ} {path : String} {number : Nat} {p : Portal κ}

theorem lookup_of_paths (h : path ∈ e.paths) : ∃ number, e.served.lookup path = some number := by
  obtain ⟨entry, hentry, rfl⟩ := List.mem_map.mp h
  exact Option.isSome_iff_exists.mp (List.lookup_isSome_iff.mpr ⟨entry, hentry, beq_self_eq_true _⟩)

theorem Orderly.takes (h : e.Orderly) (served : e.served.lookup path = some number)
    (found : e.portals[number]? = some p) {inbound : Inbound κ} {call : PortalCall}
    (reaches : call.Reaches path inbound.message) : e.Takes number p inbound call := by
  have hfound : (e.onTree inbound.tree).portals[number]? = some (p.onTree inbound.tree) := by
    simp [onTree, found]
  have hserved : (e.onTree inbound.tree).served.lookup path = some number := served
  have hreceive : e.receive inbound = _ := answer_served reaches hserved hfound inbound.around
  have hlt := (List.getElem?_eq_some_iff.mp hfound).1
  constructor
  · rw [hreceive]
    rfl
  · rw [hreceive]
    rfl
  · rw [hreceive]
    rfl
  · rw [hreceive]
    exact List.getElem?_set_self hlt
  · intro request taken
    exact Portal.receive_counted (h.numbered number p found) taken

theorem receive_others (served : e.served.lookup path = some number) {inbound : Inbound κ}
    (there : inbound.message.path = path) {other : Nat} (hne : other ≠ number) :
    (e.receive inbound).exports.counters? other = e.counters? other := by
  have htree : (e.onTree inbound.tree).counters? other = e.counters? other := by
    rw [counters?, onTree, List.getElem?_map, Option.map_map]
    rfl
  rw [← htree, receive]
  have hanswers := (e.onTree inbound.tree).answers inbound.around inbound.message
  generalize ((e.onTree inbound.tree).answer inbound.around inbound.message).exports = after
    at hanswers
  cases hanswers with
  | unreached => rfl
  | @reached number' p call served' found =>
    obtain rfl : number = number' := Option.some.inj (served.symm.trans (there ▸ served'))
    rw [counters?, List.getElem?_set_ne hne.symm]
    rfl

theorem Orderly.servedBy (h : e.Orderly) (served : e.served.lookup path = some number)
    (found : e.portals[number]? = some p) : e.ServedBy path number p.kit where
  takes _ _ reaches := ⟨p, found, rfl, h.takes served found reaches⟩
  others _ there _ hne := receive_others served there hne

/-- A portal that is served at a path stays the one. -/
theorem Orderly.servedBy_run (h : e.Orderly) (served : e.served.lookup path = some number)
    (found : e.portals[number]? = some p) (later : List (ExportsEvent κ)) :
    (e.run later).ServedBy path number p.kit := by
  have honward := e.onward_run later
  obtain ⟨q, hq, hgoes⟩ := honward.portals number p found
  rw [← hgoes.kit]
  exact (h.run later).servedBy (honward.servers path number served) hq

/-- A portal that is not served at once never will be. -/
theorem Orderly.idle_run (h : e.Orderly) (found : e.portals[number]? = some p)
    (unserved : number ∉ e.numbers) (later : List (ExportsEvent κ)) :
    (e.run later).counters? number = some .zero := by
  obtain ⟨q, hq, hgoes⟩ := (e.onward_run later).portals number p found
  have hidle := hgoes.idle unserved (h.idle number p found unserved)
  rw [counters?, hq, Option.map_some, hidle.counters]

theorem Orderly.fresh (h : e.Orderly) : e.portals.length ∉ e.numbers :=
  fun hm => Nat.lt_irrefl _ (h.known _ hm)

/-- What the export of a portal is good for whose number has been told. It serves if it is the first
at its path; else the one before it goes on serving, and this one is never reached. -/
structure Settled (e d : Exports κ) (path : String) (number : Nat) (kit : κ) : Prop where
  first : path ∉ e.paths → ∀ later, (d.run later).ServedBy path number kit
  late : path ∈ e.paths → d.served = e.served ∧
    (∀ later, (d.run later).counters? number = some .zero) ∧
    ∃ server serving, server < number ∧ e.ServedBy path server serving ∧
      ∀ later, (d.run later).ServedBy path server serving

theorem Orderly.settled (h : e.Orderly) {portal : Portal κ} {served : Bool}
    (adds : e.Adds portal path (.ok (d, number, served))) (hd : d.Orderly) :
    e.Settled d path number portal.kit := by
  cases adds with
  | first good free =>
    refine ⟨fun _ => hd.servedBy_run ?_ List.getElem?_concat_length, fun hm => absurd hm free⟩
    have hnone : e.served.lookup path = none := by
      rw [← Option.not_isSome_iff_eq_none]
      intro hsome
      obtain ⟨number, hl⟩ := Option.isSome_iff_exists.mp hsome
      exact free (paths_of_lookup hl)
    simp [List.lookup_append, hnone]
  | late good occupied =>
    refine ⟨fun hm => absurd occupied hm, fun _ => ⟨rfl, ?_, ?_⟩⟩
    · exact hd.idle_run List.getElem?_concat_length h.fresh
    · obtain ⟨server, hl⟩ := lookup_of_paths occupied
      have hlt := h.known server (numbers_of_lookup hl)
      have hp := List.getElem?_eq_getElem hlt
      exact ⟨server, _, hlt, h.servedBy hl hp, hd.servedBy_run hl
        ((List.getElem?_append_left hlt).trans hp)⟩

end

/-- Whatever has been done on a connection, the export of a portal that waits for its link leaves
all as it is if the link is not ready, fails if the path is malformed, and else tells the portal's
number, which is that of the portal serving at the path just if none was served there before. -/
theorem first_export_serves (κ : Type) (past : List (ExportsEvent κ)) (link : Link κ)
    (settings : Settings) (tree : FileTree) :
    let e := Exports.empty.run past
    let path := settings.portal.objectPath
    (∀ d, e.addIfReady link settings tree = .ok (d, none) ↔ link.handle? = none ∧ d = e) ∧
    (∀ fault, e.addIfReady link settings tree = .error fault ↔
      (∃ kit, link.handle? = some kit) ∧ DBus.isObjectPath path = false ∧ fault = .value) ∧
    (∀ d number, e.addIfReady link settings tree = .ok (d, some number) →
      ∃ kit, link.handle? = some kit ∧ e.Settled d path number kit) := by
  intro e path
  have horderly : e.Orderly := orderly_empty.run past
  have hnext : ∀ d told, e.addIfReady link settings tree = .ok (d, told) → e.Next d :=
    fun _ _ => next_of_addIfReady
  have hready := e.addsIfReady link settings tree
  generalize e.addIfReady link settings tree = ending at hready hnext
  cases hready with
  | unready waits =>
    refine ⟨fun d => ?_, fun fault => ?_, fun d number h => nomatch h⟩
    · simp [waits, eq_comm]
    · simp [waits]
  | @ready kit ending reached adds =>
    refine ⟨fun d => ?_, fun fault => ?_, fun d number h => ⟨kit, reached, ?_⟩⟩
    · cases ending <;> simp [Except.map, reached]
    · cases adds <;> simp [Except.map, path, eq_comm, *]
    · have hd := (hnext d _ h).orderly horderly
      cases ending with
      | error fault => cases h
      | ok added =>
        obtain ⟨after, told, served⟩ := added
        cases h
        exact horderly.settled adds hd

def readyLink (kit : Nat) : Link Nat := ⟨some (.ok kit), [], 1⟩

def sampleReading : Inbound Nat where
  tree := ⟨[]⟩
  around := ⟨fun _ => .ok 5000, fun _ => ⟨fun _ _ _ => none, fun _ => some (.ok (.int32 4))⟩, ⟨0⟩⟩
  message := ⟨some ":1.7", none, "/org/freedesktop/portal/desktop",
    some "org.freedesktop.portal.Realtime", "GetProperty", [.string "MaxRealtimePriority"]⟩

theorem sampleReading_reaches : (PortalCall.property "MaxRealtimePriority").Reaches
    Settings.standard.portal.objectPath sampleReading.message :=
  ⟨rfl, rfl, by simp [sampleReading, PortalCall.ofMessage, DBus.unpacked]⟩

theorem first_export_serves_sample :
    ∃ d, empty.addIfReady (readyLink 1) .standard ⟨[]⟩ = .ok (d, some 0) ∧
      (d.receive sampleReading).calls = [(1, .property "MaxRealtimePriority")] := by
  obtain ⟨kit, hkit, settled⟩ :=
    (first_export_serves Nat [] (readyLink 1) .standard ⟨[]⟩).2.2 _ 0 rfl
  obtain rfl : 1 = kit := Option.some.inj hkit
  obtain ⟨p, hp, hkit, takes⟩ :=
    (settled.first List.not_mem_nil []).takes sampleReading _ sampleReading_reaches
  refine ⟨_, rfl, takes.calls.trans ?_⟩
  obtain rfl := Option.some.inj hp
  rfl

/-- The second portal's number is told like the first's, and the first goes on serving. -/
theorem second_export_unserved :
    let e := (empty : Exports Nat).run [.addIfReady (readyLink 1) .standard ⟨[]⟩]
    ∃ d, e.addIfReady (readyLink 2) .standard ⟨[]⟩ = .ok (d, some 1) ∧
      (d.receive sampleReading).calls = [(1, .property "MaxRealtimePriority")] ∧
      ((d.receive sampleReading).exports.counters? 0).map (·.requests) = some 1 ∧
      (d.receive sampleReading).exports.counters? 1 = some .zero := by
  intro e
  let d : Exports Nat := ⟨[.ofSettings .standard ⟨[]⟩ 1, .ofSettings .standard ⟨[]⟩ 2],
    [(Settings.standard.portal.objectPath, 0)]⟩
  have hreceive : d.receive sampleReading = _ :=
    answer_served sampleReading_reaches rfl rfl sampleReading.around
  refine ⟨d, rfl, ?_, ?_, ?_⟩
  · rw [hreceive]
    rfl
  · rw [hreceive]
    rfl
  · rw [hreceive]
    rfl

end Exports

end PriorityPortal
