import PriorityPortal.Proofs.Exchange
/-!
# Polls of requests that wait

A request waits for one service at a time: for the mapper until its pid is mapped, and then for
RealtimeKit. A poll while that service is stalled leaves everything as it was, and the first poll
after it has been released brings the request on. So it makes no difference how often requests are
polled while they have to wait.
-/
namespace PriorityPortal

def Stage.Stalled (services : Services) : Stage → Prop
  | .mapping origin process _ _ => services.mapPid origin process = none
  | .calling call => services.toKit.answer call = none

structure Services.Released (services : Services) : Prop where
  mapPid : ∀ origin process, services.mapPid origin process ≠ none
  setPriority : ∀ process task priority, services.setPriority process task priority ≠ none
  readProperty : ∀ name, services.readProperty name ≠ none

section

variable {kit : Kit} {services : Services} {stage : Stage} {call : KitCall} {result : Result}

theorem Kit.settle_stalled (h : kit.answer call = none) :
    kit.settle call = .waiting (.calling call) := by
  simp only [settle, h]

theorem Kit.settle_answered (h : kit.answer call = some result) :
    kit.settle call = .ended result := by
  simp only [settle, h]

theorem Stage.advance_stalled (h : stage.Stalled services) (routing : Routing) :
    stage.advance routing services = (.waiting stage, .none) := by
  cases stage with
  | mapping origin process task priority =>
    have hnone : services.mapPid origin process = none := h
    simp only [advance, hnone]
  | calling call => simp only [advance, Kit.settle_stalled h]

theorem Services.Released.answer (h : services.Released) (call : KitCall) :
    ∃ result, services.toKit.answer call = some result := by
  cases call with
  | thread process task priority =>
    obtain ⟨reply, hreply⟩ := Option.ne_none_iff_exists'.mp (h.setPriority process task priority)
    exact ⟨_, by rw [Kit.answer, hreply, Option.map_some]⟩
  | property name =>
    obtain ⟨reply, hreply⟩ := Option.ne_none_iff_exists'.mp (h.readProperty name)
    exact ⟨_, by rw [Kit.answer, hreply, Option.map_some]⟩

theorem Services.Released.settle (h : services.Released) (call : KitCall) :
    ∃ result, services.toKit.settle call = .ended result := by
  obtain ⟨result, hresult⟩ := h.answer call
  exact ⟨result, Kit.settle_answered hresult⟩

theorem Services.Released.advance (h : services.Released) (routing : Routing) (stage : Stage) :
    ∃ result, (stage.advance routing services).1 = .ended result := by
  cases stage with
  | calling call => exact h.settle call
  | mapping origin process task priority =>
    obtain ⟨answer, hanswer⟩ := Option.ne_none_iff_exists'.mp (h.mapPid origin process)
    simp only [Stage.advance, hanswer]
    cases answer with
    | error e => exact ⟨_, rfl⟩
    | ok hostPid => exact h.settle _

end

structure RelayStep.Ends (key : Nat) (result : Result) (step : RelayStep) : Prop where
  seen : step.seen = .done result
  gone : step.relay.find? key = none

def Seen.result? {β : Type} : Seen β → Option β
  | .done result => some result
  | _ => none

namespace Relay

structure Polled (r : Relay) (key : Nat) (p : Pending) (services : Services) (step : RelayStep) :
    Prop where
  stalled : p.stage.Stalled services → step = ⟨r, .pending, .none⟩
  unmapped : ∀ origin process task priority e, p.stage = .mapping origin process task priority →
    services.mapPid origin process = some (.error e) →
    step.Ends key (.error (.pidMapping e)) ∧ step.effects = .none
  /-- The call is made, and RealtimeKit may be stalled in its turn. -/
  mapped : ∀ origin process task priority hostPid,
    p.stage = .mapping origin process task priority →
    services.mapPid origin process = some (.ok hostPid) →
    let call : KitCall := .thread hostPid task (r.routing.pass priority)
    step.effects = ⟨[], [call]⟩ ∧
    (∀ result, services.toKit.answer call = some result → step.Ends key result) ∧
    (services.toKit.answer call = none →
      step.seen = .pending ∧ step.relay.find? key = some { p with stage := .calling call })
  answered : ∀ call result, p.stage = .calling call →
    services.toKit.answer call = some result → step.Ends key result ∧ step.effects = .none
  released : services.Released → ∃ result, step.Ends key result

/-- A history with further polls in it, each of a request whose service is stalled just then. -/
inductive WithIdlePolls :
    Relay → List (Services × RelayEvent) → List (Services × RelayEvent) → Prop where
  | nil {r} : WithIdlePolls r [] []
  | step {r history longer} (moment : Services × RelayEvent)
      (rest : WithIdlePolls (r.next moment.1 moment.2).relay history longer) :
      WithIdlePolls r (moment :: history) (moment :: longer)
  | poll {r history longer p} (services : Services) (key : Nat) (pending : r.find? key = some p)
      (stalled : p.stage.Stalled services) (rest : WithIdlePolls r history longer) :
      WithIdlePolls r history ((services, .poll key) :: longer)

def results (r : Relay) (history : List (Services × RelayEvent)) : List (Nat × Result) :=
  ((history.map (·.2.key)).zip (r.steps history)).filterMap fun (key, step) =>
    step.seen.result?.map fun result => (key, result)

/-- Histories after which all has come out alike: what is counted and still pending, what was asked
of the services, and the results. -/
structure SameOutcome (r : Relay) (history other : List (Services × RelayEvent)) : Prop where
  relay : r.run other = r.run history
  mappings : (r.steps other).flatMap (·.effects.mappings) =
    (r.steps history).flatMap (·.effects.mappings)
  calls : (r.steps other).flatMap (·.effects.calls) = (r.steps history).flatMap (·.effects.calls)
  results : r.results other = r.results history

def Reached (routing : Routing) (r : Relay) : Prop :=
  ∃ history, (initial routing).run history = r

section

variable {routing : Routing} {r : Relay} {key : Nat} {p : Pending} {services : Services}
  {history other longer : List (Services × RelayEvent)}

theorem Reached.next (h : r.Reached routing) (services : Services) (event : RelayEvent) :
    (r.next services event).relay.Reached routing := by
  obtain ⟨history, rfl⟩ := h
  exact ⟨history ++ [(services, event)], run_append ..⟩

/-- A request that stays where it is leaves the relay as it was, since no other has its key. -/
theorem Reached.move_same (hr : r.Reached routing) (h : r.find? key = some p) :
    r.move key p.stage = r := by
  obtain ⟨history, rfl⟩ := hr
  rw [← Archive.relay_of] at h ⊢
  obtain ⟨rfl, hp⟩ := find_some h
  obtain ⟨record, pb, pa, rb, ra, focus⟩ :=
    Archive.focus_exists (Archive.invariant_of routing history) hp
  have hpending : ((Archive.of routing history).relay.move p.key p.stage).pending =
      (Archive.of routing history).relay.pending :=
    (focus.move_pending p.stage).trans focus.pending.symm
  exact congrArg (fun pending => { (Archive.of routing history).relay with pending }) hpending

theorem poll_stalled (hr : r.Reached routing) (h : r.find? key = some p)
    (stalled : p.stage.Stalled services) :
    r.next services (.poll key) = ⟨r, .pending, .none⟩ := by
  obtain ⟨hkey, -⟩ := find_some h
  rw [next_poll h, Stage.advance_stalled stalled]
  simp only [bringing, hkey, hr.move_same h, Progress.seen]

/-- What a poll shows, and what is held of the request afterwards. -/
theorem poll_follows_advance (h : r.find? key = some p) (services : Services) {progress : Progress}
    {effects : Effects} (ha : p.stage.advance r.routing services = (progress, effects)) :
    (r.next services (.poll key)).seen = progress.seen ∧
    (r.next services (.poll key)).effects = effects ∧
    (r.next services (.poll key)).relay.find? key =
      progress.stage?.map fun stage => { p with stage := stage } := by
  have hf := r.poll_follows services key
  have hshown := hf.shown
  have hown := hf.own
  rw [h, RelayEvent.turn, ha] at hshown hown
  exact ⟨congrArg Shown.seen hshown, congrArg Shown.effects hshown, hown⟩

theorem poll_ends (h : r.find? key = some p) {result : Result} {effects : Effects}
    (ha : p.stage.advance r.routing services = (.ended result, effects)) :
    (r.next services (.poll key)).Ends key result ∧
      (r.next services (.poll key)).effects = effects := by
  obtain ⟨hseen, heffects, hheld⟩ := poll_follows_advance h services ha
  exact ⟨⟨hseen, hheld⟩, heffects⟩

theorem polled (hr : r.Reached routing) (h : r.find? key = some p) (services : Services) :
    r.Polled key p services (r.next services (.poll key)) := by
  constructor
  case stalled => exact poll_stalled hr h
  case unmapped =>
    intro origin process task priority e hstage hanswer
    apply poll_ends h
    rw [hstage, Stage.advance, hanswer]
  case mapped =>
    intro origin process task priority hostPid hstage hanswer call
    have ha : p.stage.advance r.routing services = (services.toKit.settle call, ⟨[], [call]⟩) := by
      rw [hstage, Stage.advance, hanswer]
      rfl
    refine ⟨(poll_follows_advance h services ha).2.1, ?_, ?_⟩
    · intro result hresult
      rw [Kit.settle_answered hresult] at ha
      exact (poll_ends h ha).1
    · intro hstalled
      rw [Kit.settle_stalled hstalled] at ha
      obtain ⟨hseen, -, hheld⟩ := poll_follows_advance h services ha
      exact ⟨hseen, hheld⟩
  case answered =>
    intro call result hstage hresult
    apply poll_ends h
    rw [hstage, Stage.advance, Kit.settle_answered hresult]
  case released =>
    intro hreleased
    obtain ⟨result, hended⟩ := hreleased.advance r.routing p.stage
    exact ⟨result, (poll_ends h (Prod.ext hended rfl)).1⟩

/-- Idle polls can be left out one by one, from the first on. -/
theorem WithIdlePolls.sameOutcome (h : WithIdlePolls r history longer) (hr : r.Reached routing) :
    r.SameOutcome history longer := by
  induction h with
  | nil => exact ⟨rfl, rfl, rfl, rfl⟩
  | @step r history longer moment rest ih =>
    have hrest := ih (hr.next moment.1 moment.2)
    constructor
    · exact hrest.relay
    · simp only [steps, List.flatMap_cons, hrest.mappings]
    · simp only [steps, List.flatMap_cons, hrest.calls]
    · have hresults := hrest.results
      unfold results at hresults ⊢
      simp only [steps, List.map_cons, List.zip_cons_cons, List.filterMap_cons, hresults]
  | @poll r history longer p services key pending stalled rest ih =>
    have hrest := ih hr
    have hstep := poll_stalled hr pending stalled
    constructor
    · rw [← hrest.relay, run, List.foldl_cons, hstep, run]
    · simp only [steps, hstep, List.flatMap_cons, hrest.mappings, Effects.none_mappings,
        List.nil_append]
    · simp only [steps, hstep, List.flatMap_cons, hrest.calls, Effects.none_calls,
        List.nil_append]
    · rw [← hrest.results]
      simp only [results, steps, hstep, List.map_cons, List.zip_cons_cons, List.filterMap_cons,
        Seen.result?, Option.map_none]

/-- Histories that one history has become by further idle polls come out alike. -/
theorem WithIdlePolls.alike (h : WithIdlePolls r history longer)
    (ho : WithIdlePolls r history other) (hr : r.Reached routing) : r.SameOutcome longer other := by
  have hl := h.sameOutcome hr
  have ho := ho.sameOutcome hr
  constructor
  · exact ho.relay.trans hl.relay.symm
  · exact ho.mappings.trans hl.mappings.symm
  · exact ho.calls.trans hl.calls.symm
  · exact ho.results.trans hl.results.symm

end

/-- However a relay has come about, a poll of a pending request changes nothing and asks for nothing
while the service that the request waits for is stalled, and brings it on once that is released: to
its end, or to its call and there to a wait for RealtimeKit if that is stalled. So histories that
differ only in polls during stalls come out alike. -/
theorem idle_polls_repeat_nothing (routing : Routing) :
    (∀ history key p services,
      let r := (initial routing).run history
      r.find? key = some p → r.Polled key p services (r.next services (.poll key))) ∧
    ∀ history longer other, WithIdlePolls (initial routing) history longer →
      WithIdlePolls (initial routing) history other →
      (initial routing).SameOutcome longer other := by
  constructor
  · intro history key p services r hp
    exact polled ⟨history, rfl⟩ hp services
  · intro history longer other hlonger hother
    exact hlonger.alike hother ⟨[], rfl⟩

open Archive (sampleHistory sampleSandbox sampleServices)

/-- Both requests of the sample are polled while they wait for the mapper, and the second one again
while it waits for RealtimeKit. -/
def samplePatience : List (Services × RelayEvent) :=
  [(sampleServices none none, .start 0 (.thread ⟨":1.7", sampleSandbox⟩ 42 43 (.realtime 10))),
    (sampleServices none none, .poll 0),
    (sampleServices none none, .start 1 (.thread ⟨":1.8", sampleSandbox⟩ 44 45 (.realtime 20))),
    (sampleServices none (some (.ok ())), .poll 1),
    (sampleServices none none, .drop 0),
    (sampleServices (some (.ok 9001)) none, .poll 1),
    (sampleServices (some (.ok 9001)) none, .poll 1)]

theorem samplePatience_idle : WithIdlePolls (initial .native) sampleHistory samplePatience := by
  refine .step _ (.poll _ 0 rfl rfl (.step _ (.poll _ 1 rfl rfl (.step _ (.step _ ?_)))))
  exact .poll _ 1 rfl rfl .nil

theorem sampleHistory_idle : WithIdlePolls (initial .native) sampleHistory sampleHistory :=
  .step _ (.step _ (.step _ (.step _ .nil)))

theorem idle_polls_repeat_nothing_sample :
    (∃ p, ((initial .native).run (samplePatience.take 3)).find? 1 = some p ∧
      p.stage.Stalled (sampleServices none (some (.ok ()))) ∧
      ((initial .native).run (samplePatience.take 3)).next (sampleServices none (some (.ok ())))
        (.poll 1) = ⟨(initial .native).run (samplePatience.take 3), .pending, .none⟩) ∧
      WithIdlePolls (initial .native) sampleHistory samplePatience ∧
      WithIdlePolls (initial .native) sampleHistory sampleHistory ∧
      (initial .native).SameOutcome samplePatience sampleHistory := by
  obtain ⟨hpolled, halike⟩ := idle_polls_repeat_nothing .native
  have hpoll := hpolled (samplePatience.take 3) 1 _ (sampleServices none (some (.ok ()))) rfl
  exact ⟨⟨_, rfl, rfl, hpoll.stalled rfl⟩, samplePatience_idle, sampleHistory_idle,
    halike _ _ _ samplePatience_idle sampleHistory_idle⟩

end Relay

end PriorityPortal
