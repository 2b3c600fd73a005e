import PriorityPortal.Proofs.Locality
import PriorityPortal.Proofs.SendableErrors
/-!
# Calls that overlap

A connection that serves a portal is turned to when a message comes in, and again when a request
that waits is looked at. Every message that is a call becomes one request, except that a call for a
thread becomes none if its sender is not identified: then it is answered with an error, and nothing
else happens.
-/
namespace PriorityPortal

inductive Occasion (κ : Type) where
  | message (inbound : Inbound κ)
  /-- A request is looked at again; it is given by the number of its portal and its own there, with
  the sender of the message that it came with. -/
  | look (portal number : Nat) (sender : Option String) (around : Surroundings κ)

variable {κ : Type}

def Occasion.around : Occasion κ → Surroundings κ
  | message inbound => inbound.around
  | look _ _ _ around => around

/-- Every message is a call of the portal where it is served, with arguments as they should be. -/
def Occasion.Addressed (settings : Settings) : Occasion κ → Prop
  | message inbound =>
    ∃ call : PortalCall, call.Reaches settings.portal.objectPath inbound.message
  | look .. => True

namespace Portal

def look (p : Portal κ) (around : Surroundings κ) (number : Nat) : PortalStep κ :=
  let step := p.relay.next (p.services around) (.poll number)
  let seen : Seen (Except PortalError Reply) :=
    match step.seen with
    | .nothing => .nothing
    | .pending => .pending
    | .done result => .done result.ofRelay
  ⟨{ p with relay := step.relay }, seen, [], step.effects.mappings, step.effects.calls⟩

def request? (p : Portal κ) (around : Surroundings κ) (sender : Option String) :
    PortalCall → Option Request
  | .property name => some (.property (sender.getD "") name)
  | .thread process task priority =>
    match sender.map (p.identify around) with
    | some (.ok caller) => some (.thread caller process task priority)
    | _ => none

end Portal

namespace Exports

def look (e : Exports κ) (portal number : Nat) (sender : Option String)
    (around : Surroundings κ) : ExportsStep κ :=
  match e.portals[portal]? with
  | none => ⟨e, none, [], [], []⟩
  | some p =>
    let step := p.look around number
    ⟨{ e with portals := e.portals.set portal step.portal }, shownAnswer sender step.seen,
      step.lookups, step.mappings, step.calls.map fun call => (p.kit, call)⟩

def meet (e : Exports κ) : Occasion κ → ExportsStep κ
  | .message inbound => e.receive inbound
  | .look portal number sender around => e.look portal number sender around

end Exports

structure Moment (κ : Type) where
  before : Exports κ
  occasion : Occasion κ
  step : ExportsStep κ

namespace Exports

def course (e : Exports κ) : List (Occasion κ) → List (Moment κ)
  | [] => []
  | occasion :: rest => ⟨e, occasion, e.meet occasion⟩ :: (e.meet occasion).exports.course rest

def after (e : Exports κ) (occasions : List (Occasion κ)) : Exports κ :=
  occasions.foldl (fun e occasion => (e.meet occasion).exports) e

/-- Where every occasion does as `P` says while `Holds` holds, and keeps it, a whole course does so
from where it holds. -/
theorem course_all {Holds : Exports κ → Prop} {P : Moment κ → Prop} {occasions : List (Occasion κ)}
    (step : ∀ e, Holds e → ∀ o ∈ occasions,
      P ⟨e, o, e.meet o⟩ ∧ Holds (e.meet o).exports)
    {e : Exports κ} (start : Holds e) : ∀ m ∈ e.course occasions, P m := by
  induction occasions generalizing e with
  | nil => exact fun m hm => nomatch hm
  | cons occasion rest ih =>
    obtain ⟨hthis, hnext⟩ := step e start occasion List.mem_cons_self
    refine List.forall_mem_cons.mpr ⟨hthis, ih (fun e he o ho => ?_) hnext⟩
    exact step e he o (List.mem_cons_of_mem _ ho)

end Exports

namespace Inbound

def asksForThread (inbound : Inbound κ) : Bool :=
  match PortalCall.ofMessage inbound.message.member inbound.message.args with
  | .ok (.thread ..) => true
  | _ => false

inductive Unidentified (settings : Settings) (inbound : Inbound κ) : Prop where
  | senderless (unsigned : inbound.message.sender = none)
  | unreported {sender : String} {e : PortalError} (signed : inbound.message.sender = some sender)
      (refused : inbound.around.pidOf sender = .error e)
  /-- The process is gone, or it has a keyfile that cannot be read or names no application. -/
  | unsettled {sender : String} {peer : UInt32} {e : IdentityError}
      (signed : inbound.message.sender = some sender)
      (reported : inbound.around.pidOf sender = .ok peer)
      (refused : (inbound.table settings).Refused peer e)

end Inbound

namespace ProcessTable

variable {table : ProcessTable} {pid : UInt32} {e : IdentityError}

theorem origin_of_refused (h : table.Refused pid e) : table.origin pid = .error e := by
  cases h with
  | gone missing => exact origin_gone missing
  | @unreadable failure there failed other =>
    have hfound : failure.isNotFound ≠ true := fun hc => other (failure.isNotFound_iff.mp hc)
    unfold keyfileNames at failed
    simp [origin, there, failed, hfound]
  | @nameless text read unnamed =>
    have hread := FileTree.readText_eq_ok_iff.mpr read
    have hname : Keyfile.applicationName? text = none := by
      rw [Option.eq_none_iff_forall_ne_some]
      exact fun application hn => unnamed application (Keyfile.applicationName_iff.mp hn)
    have there := resolves_of_keyfile read
    unfold keyfileNames at hread
    simp [origin, there, hread, hname]

end ProcessTable

section

variable {settings : Settings} {inbound : Inbound κ}

theorem Inbound.not_unidentified {sender : String} {peer : UInt32} {origin : Origin}
    (signed : inbound.message.sender = some sender)
    (reported : inbound.around.pidOf sender = .ok peer)
    (settled : (inbound.table settings).origin peer = .ok origin) :
    ¬ inbound.Unidentified settings := by
  rintro (hs | ⟨hs, hp⟩ | ⟨hs, hp, hr⟩)
  · cases hs.symm.trans signed
  · obtain rfl := Option.some.inj (hs.symm.trans signed)
    cases hp.symm.trans reported
  · obtain rfl := Option.some.inj (hs.symm.trans signed)
    obtain rfl := Except.ok.inj (hp.symm.trans reported)
    cases (ProcessTable.origin_of_refused hr).symm.trans settled

instance : Decidable (inbound.Unidentified settings) :=
  match signed : inbound.message.sender with
  | none => isTrue (.senderless signed)
  | some sender =>
    match reported : inbound.around.pidOf sender with
    | .error _ => isTrue (.unreported signed reported)
    | .ok peer =>
      match settled : (inbound.table settings).origin peer with
      | .error _ => isTrue (.unsettled signed reported (ProcessTable.refused_of_origin settled))
      | .ok _ => isFalse (Inbound.not_unidentified signed reported settled)

end

namespace Portal

variable {p : Portal κ} {around : Surroundings κ} {sender : Option String} {call : PortalCall}
  {request : Request}

theorem answer_request (h : p.request? around sender call = some request) :
    ∃ lookups, p.answer around sender call = p.take around lookups request := by
  cases call with
  | property name =>
    cases h
    exact ⟨[], rfl⟩
  | thread process task priority =>
    simp only [request?] at h
    split at h
    next caller hid =>
      obtain ⟨name, rfl, hcaller⟩ := Option.map_eq_some_iff.mp hid
      cases h
      exact ⟨[name], answer_identified hcaller⟩
    next => cases h

theorem answer_refused (h : p.request? around sender call = none) :
    ∃ e lookups, p.answer around sender call = ⟨p, .done (.error e), lookups, [], []⟩ ∧
      (around.Clean → e.Clean) := by
  cases call with
  | property name => cases h
  | thread process task priority =>
    cases sender with
    | none => exact ⟨_, _, answer_no_sender around, fun _ => noSender_clean⟩
    | some sender =>
      cases hid : p.identify around sender with
      | error e => exact ⟨e, _, answer_unidentified hid, fun hclean => identify_clean hclean hid⟩
      | ok caller => simp [request?, hid] at h

end Portal

section

variable {settings : Settings} {e : Exports κ} {p : Portal κ} {inbound : Inbound κ}

theorem Exports.Serves.request_none_iff (h : e.Serves settings p) {process task : UInt64}
    {priority : Priority} :
    (p.onTree inbound.tree).request? inbound.around inbound.message.sender
        (.thread process task priority) = none ↔ inbound.Unidentified settings := by
  have htable : (p.onTree inbound.tree).table = inbound.table settings := h.table
  cases signed : inbound.message.sender with
  | none => simpa [Portal.request?] using Inbound.Unidentified.senderless signed
  | some sender =>
    cases reported : inbound.around.pidOf sender with
    | error failure =>
      simpa [Portal.request?, Portal.identify, reported] using
        Inbound.Unidentified.unreported signed reported
    | ok peer =>
      cases settled : (inbound.table settings).origin peer with
      | error failure =>
        simpa [Portal.request?, Portal.identify, reported, htable, settled] using
          Inbound.Unidentified.unsettled signed reported (ProcessTable.refused_of_origin settled)
      | ok origin =>
        simpa [Portal.request?, Portal.identify, reported, htable, settled] using
          Inbound.not_unidentified signed reported settled

end

def Progress.Answered : Progress → Option DBus.Answer → Prop
  | .waiting _, answer => answer = none
  | .ended (.ok _), answer => ∃ args, answer = some (.reply args)
  | .ended (.error _), answer => ∃ name args, answer = some (.failure name args)

theorem Progress.answered_shown {progress : Progress} (sender : Option String)
    (h : ∀ e, progress = .ended (.error e) → (PortalError.realtime e).Clean) :
    progress.Answered (Exports.shownAnswer sender progress.shown) := by
  cases progress with
  | waiting stage => rfl
  | ended result =>
    cases result with
    | ok reply => cases reply <;> exact ⟨_, rfl⟩
    | error e => exact (h e rfl).message sender

/-- What an occasion does to the portal that is served. -/
inductive Met (settings : Settings) (p : Portal κ) :
    Occasion κ → ExportsStep κ → Portal κ → Prop where
  | refused {inbound step name args} (thread : inbound.asksForThread = true)
      (unidentified : inbound.Unidentified settings)
      (answer : step.answer = some (.failure name args)) (mappings : step.mappings = [])
      (calls : step.calls = []) :
      Met settings p (.message inbound) step (p.onTree inbound.tree)
  | taken {inbound step} (identified : inbound.asksForThread = true →
        ¬ inbound.Unidentified settings)
      (progress : Progress) (answer : progress.Answered step.answer) :
      Met settings p (.message inbound) step
        ((p.onTree inbound.tree).taking inbound.around.now progress)
  | idle {portal number sender around step} (answer : step.answer = none) :
      Met settings p (.look portal number sender around) step p
  | looked {portal number sender around step pending} (found : p.relay.find? number = some pending)
      (progress : Progress) (answer : progress.Answered step.answer) :
      Met settings p (.look portal number sender around) step
        { p with relay := p.relay.bringing pending around.now progress }

section

variable {settings : Settings} {e : Exports κ} {p : Portal κ}

theorem asksForThread_iff {inbound : Inbound κ} {call : PortalCall}
    (h : PortalCall.ofMessage inbound.message.member inbound.message.args = .ok call) :
    inbound.asksForThread = true ↔
      ∃ process task priority, call = .thread process task priority := by
  unfold Inbound.asksForThread
  rw [h]
  cases call <;> simp

theorem Portal.Numbered.bringing (h : p.Numbered) (pending : Pending) (now : Duration)
    (progress : Progress) :
    ({ p with relay := p.relay.bringing pending now progress } : Portal κ).Numbered := by
  intro q hq
  rcases Relay.mem_bringing hq with hq | ⟨stage, -, held, hheld, rfl⟩
  · exact h q hq
  · exact h held hheld

/-- A call becomes a request of the relay, or none because its sender is not identified. -/
theorem Exports.Serves.receive_met (h : e.Serves settings p) {inbound : Inbound κ}
    {call : PortalCall} (hr : call.Reaches settings.portal.objectPath inbound.message)
    (hclean : inbound.around.Clean) :
    ∃ q, Met settings p (.message inbound) (e.receive inbound) q ∧
      (e.receive inbound).exports.Serves settings q := by
  have hserves := h.onTree inbound.tree
  have hreceive := h.receive_reached hr
  have hfollows := Portal.answer_follows hserves.numbered inbound.around inbound.message.sender call
  have hnext : (e.receive inbound).exports.Serves settings
      ((p.onTree inbound.tree).answer inbound.around inbound.message.sender call).portal := by
    rw [hreceive]
    exact ⟨rfl, rfl, hfollows.table ▸ hserves.root, hfollows.routing.trans hserves.routing,
      hfollows.numbered⟩
  refine ⟨_, ?_, hnext⟩
  -- The call becomes no request just where it is refused.
  cases hq : (p.onTree inbound.tree).request? inbound.around inbound.message.sender call with
  | none =>
    obtain ⟨error, lookups, hrefused, herror⟩ := Portal.answer_refused hq
    obtain ⟨name, args, hmessage⟩ := (herror hclean).message inbound.message.sender
    rw [hreceive, hrefused]
    cases call with
    | property name => cases hq
    | thread process task priority =>
      exact .refused ((asksForThread_iff hr.read).mpr ⟨process, task, priority, rfl⟩)
        (h.request_none_iff.mp hq) hmessage rfl rfl
  | some request =>
    obtain ⟨lookups, htake⟩ := Portal.answer_request hq
    rw [hreceive, htake, Portal.take_eq hserves.numbered]
    refine .taken ?_ _ (Progress.answered_shown _ fun error herror =>
      Request.begin_clean (Portal.services_clean hclean) herror)
    intro hthread hunidentified
    obtain ⟨process, task, priority, rfl⟩ := (asksForThread_iff hr.read).mp hthread
    rw [h.request_none_iff.mpr hunidentified] at hq
    cases hq

/-- A look at a request that is held brings it on; any other look does nothing. -/
theorem Exports.Serves.look_cases (h : e.Serves settings p) (portal number : Nat)
    (sender : Option String) (around : Surroundings κ) :
    e.look portal number sender around = ⟨e, none, [], [], []⟩ ∨
    ∃ pending, p.relay.find? number = some pending ∧
      let look := pending.stage.advance p.relay.routing (p.services around)
      e.look portal number sender around =
        ⟨⟨[{ p with relay := p.relay.bringing pending around.now look.1 }], e.served⟩,
          shownAnswer sender look.1.shown, [], look.2.mappings,
          look.2.calls.map fun call => (p.kit, call)⟩ := by
  unfold look
  cases hp : e.portals[portal]? with
  | none => exact Or.inl rfl
  | some found =>
    obtain ⟨rfl, rfl⟩ : portal = 0 ∧ found = p := by
      rw [h.portals] at hp
      cases portal with
      | zero => exact ⟨rfl, (Option.some.inj hp).symm⟩
      | succ n => cases hp
    cases hf : found.relay.find? number with
    | none =>
      left
      have hsame : e.portals.set 0 found = e.portals := by simp [h.portals]
      simp [Portal.look, Relay.next_poll_unknown hf, shownAnswer, hsame]
    | some pending =>
      refine Or.inr ⟨pending, rfl, ?_⟩
      simp only [Portal.look, Relay.next_poll hf, h.portals]
      cases (pending.stage.advance found.relay.routing (found.services around)).1 <;> rfl

theorem Exports.Serves.look_met (h : e.Serves settings p) (portal number : Nat)
    (sender : Option String) {around : Surroundings κ} (hclean : around.Clean) :
    ∃ q, Met settings p (.look portal number sender around) (e.look portal number sender around) q ∧
      (e.look portal number sender around).exports.Serves settings q := by
  obtain hidle | ⟨pending, hf, hlook⟩ := h.look_cases portal number sender around
  · rw [hidle]
    exact ⟨p, .idle rfl, h⟩
  · rw [hlook]
    let progress := (pending.stage.advance p.relay.routing (p.services around)).1
    refine ⟨_, .looked hf progress ?_, rfl, h.served, h.root, ?_, ?_⟩
    · exact Progress.answered_shown sender fun error herror =>
        Stage.advance_clean (Portal.services_clean hclean) herror
    · simpa using h.routing
    · exact h.numbered.bringing pending around.now progress

theorem Exports.Serves.meet_met (h : e.Serves settings p) {occasion : Occasion κ}
    (haddressed : occasion.Addressed settings) (hclean : occasion.around.Clean) :
    ∃ q, Met settings p occasion (e.meet occasion) q ∧
      (e.meet occasion).exports.Serves settings q := by
  cases occasion with
  | message inbound =>
    obtain ⟨call, hr⟩ := haddressed
    exact h.receive_met hr hclean
  | look portal number sender around => exact h.look_met portal number sender hclean

end

end PriorityPortal
