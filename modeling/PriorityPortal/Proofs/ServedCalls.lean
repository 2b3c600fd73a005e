import PriorityPortal.Proofs.Occasion
/-!
# Calls of RealtimeKit that a portal makes

RealtimeKit is called for a thread only on a message that asks for it, and for a process that the
sender may mean. Where there is no such process the sender is answered with an error. A request that
waits has made its call when it came in, and makes none when it is looked at again.
-/
namespace PriorityPortal

variable {κ : Type}

structure Inbound.Vetted (inbound : Inbound κ) (settings : Settings) (process task : UInt64)
    (priority : Priority) (step : ExportsStep κ) : Prop where
  vouched : ∀ call ∈ step.calls, ∃ found, inbound.Means settings process found ∧
    call.2 = .thread found task (settings.kit.routing.pass priority)
  granted : (∃ found, inbound.Means settings process found) → step.calls ≠ []
  refused : (¬ ∃ found, inbound.Means settings process found) →
    step.calls = [] ∧ (∀ args, step.answer ≠ some (.reply args)) ∧
      (inbound.around.Clean → ∃ name args, step.answer = some (.failure name args))

structure Inbound.Guarded (inbound : Inbound κ) (settings : Settings) (step : ExportsStep κ) :
    Prop where
  once : step.calls.length ≤ 1
  /-- Only a message that asks for it makes a call for a thread. -/
  asked : (∀ process task priority, ¬ (PortalCall.thread process task priority).Reaches
    settings.portal.objectPath inbound.message) →
      ∀ call ∈ step.calls, ∃ name, call.2 = .property name
  vetted : (inbound.table settings).CanonicalNames → ∀ process task priority,
    (PortalCall.thread process task priority).Reaches settings.portal.objectPath
      inbound.message → inbound.Vetted settings process task priority step

def Moment.Guarded (settings : Settings) (m : Moment κ) : Prop :=
  match m.occasion with
  | .message inbound => inbound.Guarded settings m.step
  | .look .. => m.step.calls = []

theorem message_error (sender : Option String) (e : PortalError) (args : List DBus.Value) :
    Reply.message? sender (.error e) ≠ some (.reply args) := by
  simp only [Reply.message?]
  split <;> simp

theorem Kit.settle_waiting {kit : Kit} {call : KitCall} {stage : Stage}
    (h : kit.settle call = .waiting stage) : stage = .calling call := by
  unfold settle at h
  split at h <;> cases h
  rfl

namespace Portal

variable {p : Portal κ} {around : Surroundings κ} {now : Duration} {progress : Progress}

theorem answer_clean (hn : p.Numbered) (hclean : around.Clean) {sender : Option String}
    {call : PortalCall} {e : PortalError}
    (h : (p.answer around sender call).seen = .done (.error e)) : e.Clean := by
  cases hq : p.request? around sender call with
  | none =>
    obtain ⟨error, lookups, hrefused, herror⟩ := answer_refused hq
    rw [hrefused] at h
    cases h
    exact herror hclean
  | some request =>
    obtain ⟨lookups, htake⟩ := answer_request hq
    rw [htake, take_eq hn] at h
    cases hbegin : (request.begin p.relay.routing (p.services around)).1 with
    | waiting stage => simp [hbegin, Progress.shown] at h
    | ended result =>
      cases result with
      | ok reply => simp [hbegin, Progress.shown, Result.ofRelay] at h
      | error error =>
        obtain rfl : .realtime error = e := by
          simpa [hbegin, Progress.shown, Result.ofRelay] using h
        exact Request.begin_clean (services_clean hclean) hbegin

/-- Every request that waits has been mapped and waits for RealtimeKit. -/
def Mapped (p : Portal κ) : Prop := ∀ q ∈ p.relay.pending, ∃ call, q.stage = .calling call

/-- The process table answers at once, so that nothing goes on waiting but for RealtimeKit. -/
theorem advance_waiting {routing : Routing} {before stage : Stage}
    (h : (before.advance routing (p.services around)).1 = .waiting stage) :
    ∃ call, stage = .calling call := by
  cases before with
  | calling call => exact ⟨call, Kit.settle_waiting h⟩
  | mapping origin process task priority =>
    simp only [Stage.advance, services] at h
    cases hm : p.table.hostPidFor origin process with
    | error e => simp [hm] at h
    | ok found =>
      simp only [hm] at h
      exact ⟨_, Kit.settle_waiting h⟩

theorem begin_waiting {routing : Routing} {request : Request} {stage : Stage}
    (h : (request.begin routing (p.services around)).1 = .waiting stage) :
    ∃ call, stage = .calling call := by
  cases request with
  | property sender name => exact ⟨_, Kit.settle_waiting h⟩
  | thread caller process task priority =>
    obtain ⟨sender, origin⟩ := caller
    cases origin with
    | host => exact ⟨_, Kit.settle_waiting h⟩
    | flatpak application instancePid =>
      let before : Stage := .mapping (.flatpak application instancePid) process task priority
      have hbefore : (before.advance routing (p.services around)).1 = .waiting stage := h
      exact advance_waiting hbefore

theorem Mapped.taking (h : p.Mapped)
    (hwaiting : ∀ stage, progress = .waiting stage → ∃ call, stage = .calling call) :
    (p.taking now progress).Mapped := by
  intro q hq
  rcases Relay.mem_taking hq with hq | ⟨stage, hw, rfl⟩
  · exact h q hq
  · exact hwaiting stage hw

theorem Mapped.bringing (h : p.Mapped) (pending : Pending)
    (hwaiting : ∀ stage, progress = .waiting stage → ∃ call, stage = .calling call) :
    ({ p with relay := p.relay.bringing pending now progress } : Portal κ).Mapped := by
  intro q hq
  rcases Relay.mem_bringing hq with hq | ⟨stage, hw, held, -, rfl⟩
  · exact h q hq
  · exact hwaiting stage hw

theorem answer_mapped (hn : p.Numbered) (h : p.Mapped) (around : Surroundings κ)
    (sender : Option String) (call : PortalCall) :
    (p.answer around sender call).portal.Mapped := by
  cases hq : p.request? around sender call with
  | none =>
    obtain ⟨error, lookups, hrefused, -⟩ := answer_refused hq
    rw [hrefused]
    exact h
  | some request =>
    obtain ⟨lookups, htake⟩ := answer_request hq
    rw [htake, take_eq hn]
    exact h.taking fun stage hw => begin_waiting hw

end Portal

namespace Exports.Serves

variable {settings : Settings} {e : Exports κ} {p : Portal κ} {inbound : Inbound κ}
  {process task : UInt64} {priority : Priority}

theorem vetted (h : e.Serves settings p) (hc : (inbound.table settings).CanonicalNames)
    (hr : (PortalCall.thread process task priority).Reaches settings.portal.objectPath
      inbound.message) :
    inbound.Vetted settings process task priority (e.receive inbound) := by
  have hserves := h.onTree inbound.tree
  have hthread := Portal.answer_thread hserves.numbered inbound.around inbound.message.sender
    process task priority
  rw [hserves.routing] at hthread
  rw [h.receive_reached hr]
  rcases hthread with ⟨found, hf, hcalls⟩ | ⟨hnone, hcalls, error, hseen⟩
  · have hmeans := h.means_of_finds hc hf
    refine ⟨?_, ?_, fun hno => absurd ⟨found, hmeans⟩ hno⟩
    · intro call hcall
      rw [hcalls] at hcall
      obtain rfl := List.mem_singleton.mp hcall
      exact ⟨found, hmeans, rfl⟩
    · intro _ hnil
      rw [hcalls] at hnil
      cases hnil
  · have hno : ¬ ∃ found, inbound.Means settings process found :=
      fun ⟨_, hm⟩ => hnone (h.finds_of_means hc hm)
    refine ⟨?_, fun hm => absurd hm hno, fun _ => ⟨?_, ?_, ?_⟩⟩
    · intro call hcall
      rw [hcalls] at hcall
      cases hcall
    · rw [hcalls]
      rfl
    · intro args
      rw [hseen]
      exact message_error _ error args
    · intro hclean
      rw [hseen]
      exact (Portal.answer_clean hserves.numbered hclean hseen).message _

theorem receive_guarded (h : e.Serves settings p) (inbound : Inbound κ) :
    inbound.Guarded settings (e.receive inbound) := by
  have hserves := h.onTree inbound.tree
  suffices aux : (e.receive inbound).calls.length ≤ 1 ∧
      ((∀ process task priority, ¬ (PortalCall.thread process task priority).Reaches
        settings.portal.objectPath inbound.message) →
          ∀ call ∈ (e.receive inbound).calls, ∃ name, call.2 = .property name) from
    ⟨aux.1, aux.2, fun hc _ _ _ hr => h.vetted hc hr⟩
  by_cases hr : ∃ call : PortalCall, call.Reaches settings.portal.objectPath inbound.message
  · obtain ⟨call, hr⟩ := hr
    rw [h.receive_reached hr]
    cases call with
    | property name =>
      have hcalls := Portal.answer_property_calls hserves.numbered inbound.around
        inbound.message.sender name
      simp only [hcalls, List.map_cons, List.map_nil]
      refine ⟨Nat.le_refl _, ?_⟩
      intro _ call hcall
      obtain rfl := List.mem_singleton.mp hcall
      exact ⟨name, rfl⟩
    | thread process task priority =>
      refine ⟨?_, fun hn => absurd hr (hn process task priority)⟩
      have hthread := Portal.answer_thread hserves.numbered inbound.around
        inbound.message.sender process task priority
      rcases hthread with ⟨_, _, hcalls⟩ | ⟨-, hcalls, -⟩
      all_goals simp [hcalls]
  · simp [h.receive_unreached fun call hc => hr ⟨call, hc⟩]

end Exports.Serves

namespace Exports

/-- The portal is served, and what it holds waits for RealtimeKit only. -/
def Prompt (settings : Settings) (e : Exports κ) : Prop :=
  ∃ p, e.Serves settings p ∧ p.Mapped

variable {settings : Settings} {e : Exports κ}

theorem prompt_added {link : Link κ} {tree : FileTree} {number : Nat}
    (exported : Exports.empty.addIfReady link settings tree = .ok (e, some number)) :
    e.Prompt settings := by
  obtain ⟨kit, -, hserves⟩ := Exports.serves_added exported
  exact ⟨_, hserves, fun _ hq => absurd hq List.not_mem_nil⟩

theorem Prompt.receive (h : e.Prompt settings) (inbound : Inbound κ) :
    (e.receive inbound).exports.Prompt settings := by
  obtain ⟨p, h, hm⟩ := h
  have hserves := h.onTree inbound.tree
  have hthere : (p.onTree inbound.tree).Mapped := hm
  obtain ⟨q, hq, rfl | ⟨call, rfl⟩⟩ := hserves.next inbound.around inbound.message
  · exact ⟨_, hq, hthere⟩
  · exact ⟨_, hq, Portal.answer_mapped hserves.numbered hthere _ _ call⟩

/-- A look makes no call, and leaves what still waits to RealtimeKit. -/
theorem Prompt.look (h : e.Prompt settings) (portal number : Nat) (sender : Option String)
    (around : Surroundings κ) :
    (e.look portal number sender around).calls = [] ∧
      (e.look portal number sender around).exports.Prompt settings := by
  obtain ⟨p, h, hm⟩ := h
  obtain hidle | ⟨pending, hf, hlook⟩ := h.look_cases portal number sender around
  · rw [hidle]
    exact ⟨rfl, p, h, hm⟩
  · obtain ⟨call, hstage⟩ := hm pending (Relay.find_some hf).2
    have hadvance : pending.stage.advance p.relay.routing (p.services around) =
        ((p.services around).toKit.settle call, .none) := by rw [hstage]; rfl
    rw [hlook, hadvance]
    refine ⟨rfl, _, ⟨rfl, h.served, h.root, ?_, ?_⟩, ?_⟩
    · simpa using h.routing
    · exact h.numbered.bringing pending around.now _
    · exact hm.bringing pending fun stage hw => ⟨call, Kit.settle_waiting hw⟩

theorem Prompt.meet (h : e.Prompt settings) (occasion : Occasion κ) :
    Moment.Guarded settings ⟨e, occasion, e.meet occasion⟩ ∧
      (e.meet occasion).exports.Prompt settings := by
  cases occasion with
  | message inbound =>
    have hnext := h.receive inbound
    obtain ⟨p, hserves, -⟩ := h
    exact ⟨hserves.receive_guarded inbound, hnext⟩
  | look portal number sender around => exact h.look portal number sender around

end Exports

/-- Whatever messages a portal takes, and whenever it turns to a request again, with the process
table and the bus as each of them finds these: RealtimeKit is called at most once for a message, for
a thread only if the message asks for it, and then for a process that the sender may mean; without
one the sender is refused. -/
theorem served_calls_guarded {link : Link κ} {settings : Settings} {tree : FileTree} {e : Exports κ}
    {number : Nat} (exported : Exports.empty.addIfReady link settings tree = .ok (e, some number))
    (occasions : List (Occasion κ)) : ∀ m ∈ e.course occasions, m.Guarded settings := by
  have start := Exports.prompt_added exported
  exact Exports.course_all (fun e h occasion _ => Exports.Prompt.meet h occasion) start

def unsignedInbound : Inbound Unit :=
  { sampleInbound with message := { sampleInbound.message with sender := none } }

/-- A call that is granted at a second look, and one in between that is refused. -/
def guardedCalls : List (Occasion Unit) :=
  [.message sampleInbound, .message unsignedInbound,
    .look 0 0 (some ":1.7") (sampleSurroundings (some (.ok ())))]

theorem served_calls_guarded_sample :
    Exports.empty.addIfReady ⟨some (.ok ()), [], 0⟩ .standard ⟨[]⟩ = .ok (sampleExports, some 0) ∧
      sampleInbound.Means .standard 42 9001 ∧
      (¬ ∃ found, unsignedInbound.Means .standard 42 found) ∧
      ∃ served refused looked, sampleExports.course guardedCalls = [served, refused, looked] ∧
        served.step.calls ≠ [] ∧ refused.step.calls = [] ∧
        (∃ name args, refused.step.answer = some (.failure name args)) ∧
        looked.step.calls = [] := by
  have exported : Exports.empty.addIfReady ⟨some (.ok ()), [], 0⟩ .standard ⟨[]⟩ =
      .ok (sampleExports, some 0) := rfl
  have hread : PortalCall.ofMessage "MakeThreadRealtimeWithPID"
      [.uint64 42, .uint64 43, .uint32 10] = .ok (.thread 42 43 (.realtime 10)) := by
    simp [PortalCall.ofMessage, DBus.unpacked]
  have unsigned : ¬ ∃ found, unsignedInbound.Means .standard 42 found := by
    rintro ⟨found, sender, peer, hs, -⟩
    cases hs
  have clean : unsignedInbound.around.Clean := sampleSurroundings_clean (by simp)
  refine ⟨exported, sampleInbound_means, unsigned, _, _, _, rfl, ?_⟩
  have guarded := served_calls_guarded exported guardedCalls
  simp only [guardedCalls, Exports.course, List.forall_mem_cons] at guarded
  obtain ⟨served, refused, looked, -⟩ := guarded
  have served := served.vetted ProcessTable.sampleTable_canonicalNames 42 43 _ ⟨rfl, rfl, hread⟩
  have refused := refused.vetted ProcessTable.sampleTable_canonicalNames 42 43 _ ⟨rfl, rfl, hread⟩
  obtain ⟨hcalls, -, hanswer⟩ := refused.refused unsigned
  exact ⟨served.granted ⟨9001, sampleInbound_means⟩, hcalls, hanswer clean, looked⟩

end PriorityPortal
