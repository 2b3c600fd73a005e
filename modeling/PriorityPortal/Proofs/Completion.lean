import PriorityPortal.Proofs.Archive
/-!
# Every request completes once

The counters of a relay agree with what is on record: a request is counted when it is first looked
at, and by its end, once it has one, in one of the outcomes.
-/
namespace PriorityPortal

def Ending.outcome? : Ending → Option Outcome
  | .answered (.ok _) => some .success
  | .answered (.error (.pidMapping _)) => some .mappingFailed
  | .answered (.error (.downstream _)) => some .downstreamFailed
  | .answered (.error (.invalidResponse _)) => some .invalidResponse
  | .answered (.error _) => none
  | .dropped => some .abandoned

def Record.countsAs (outcome : Outcome) (record : Record) : Bool :=
  record.ending.bind Ending.outcome? = some outcome

section

variable {routing : Routing} {request : Request} {met : List Services} {result : Result}

theorem answer_outcome {kit : Kit} {call : KitCall} (h : kit.answer call = some result) :
    (Ending.answered result).outcome? = some (.ofResult result) := by
  cases call with
  | thread process task priority =>
    obtain ⟨reply, -, rfl⟩ := Option.map_eq_some_iff.mp h
    cases reply <;> rfl
  | property name =>
    obtain ⟨reply, -, rfl⟩ := Option.map_eq_some_iff.mp h
    cases reply with
    | error => rfl
    | ok value =>
      change (Ending.answered value.result).outcome? = some (.ofResult value.result)
      unfold Property.result
      cases value.asInt64? <;> rfl

/-- Whatever a request ends with, the outcome it is counted as is the one of its end. -/
theorem outcome_of_fits (h : (Progress.ended result).Fits routing request met) :
    (Ending.answered result).outcome? = some (.ofResult result) := by
  rcases h with ⟨e, -, rfl⟩ | ⟨call, -, services, -, ha⟩
  · rfl
  · exact answer_outcome ha

def Progress.outcome? : Progress → Option Outcome
  | .waiting _ => none
  | .ended result => some (.ofResult result)

theorem Progress.outcome_of_fits {progress : Progress} (h : progress.Fits routing request met) :
    progress.outcome? = progress.ending?.bind Ending.outcome? := by
  cases progress with
  | waiting stage => rfl
  | ended result => exact (PriorityPortal.outcome_of_fits h).symm

theorem Record.Faithful.outcome {record : Record} {ending : Ending}
    (h : record.Faithful routing) (he : record.ending = some ending) :
    ∃ outcome, ending.outcome? = some outcome := by
  cases ending with
  | dropped => exact ⟨.abandoned, rfl⟩
  | answered result =>
    have hfits := (record.stands routing).fits
    rw [h.answered result he] at hfits
    exact ⟨_, outcome_of_fits hfits⟩

end

namespace Counters

@[simp] theorem count_zero (outcome : Outcome) : zero.count outcome = 0 := by
  cases outcome <;> rfl

@[simp] theorem count_countRequest (c : Counters) (outcome : Outcome) :
    c.countRequest.count outcome = c.count outcome := by
  cases outcome <;> rfl

@[simp] theorem requests_countOutcome (c : Counters) (outcome : Outcome) (latency : Duration) :
    (c.countOutcome outcome latency).requests = c.requests := by
  cases outcome <;> rfl

theorem count_countOutcome (c : Counters) (outcome other : Outcome) (latency : Duration) :
    (c.countOutcome outcome latency).count other =
      c.count other + if outcome = other then 1 else 0 := by
  cases outcome <;> cases other <;> simp [countOutcome, increment, addLatency, count]

end Counters

namespace Relay

variable {routing : Routing} {request : Request} {met : List Services} {progress : Progress}

theorem finish_count (r : Relay) (outcome other : Outcome) (since now : Duration) :
    (r.finish outcome since now).counters.count other =
      r.counters.count other + if outcome = other then 1 else 0 :=
  r.counters.count_countOutcome outcome other _

theorem taking_requests (r : Relay) (key : Nat) (now : Duration) (progress : Progress) :
    (r.taking key now progress).counters.requests = r.counters.requests + 1 := by
  cases progress with
  | waiting => rfl
  | ended => simp [taking, finish, Counters.countRequest]

theorem taking_outcome (r : Relay) (key : Nat) (now : Duration) (progress : Progress)
    (outcome : Outcome) : (r.taking key now progress).counters.count outcome =
      r.counters.count outcome + if progress.outcome? = some outcome then 1 else 0 := by
  cases progress with
  | waiting stage => simp [taking, add, Progress.outcome?]
  | ended result => simp [taking, finish_count, Progress.outcome?]

theorem taking_count (h : progress.Fits routing request met) (r : Relay) (key : Nat)
    (now : Duration) (outcome : Outcome) :
    (r.taking key now progress).counters.count outcome = r.counters.count outcome +
      if progress.ending?.bind Ending.outcome? = some outcome then 1 else 0 := by
  rw [taking_outcome, progress.outcome_of_fits h]

theorem bringing_requests (r : Relay) (p : Pending) (now : Duration) (progress : Progress) :
    (r.bringing p now progress).counters.requests = r.counters.requests := by
  cases progress with
  | waiting => rfl
  | ended => simp [bringing, finish, remove]

theorem bringing_outcome (r : Relay) (p : Pending) (now : Duration) (progress : Progress)
    (outcome : Outcome) : (r.bringing p now progress).counters.count outcome =
      r.counters.count outcome + if progress.outcome? = some outcome then 1 else 0 := by
  cases progress with
  | waiting stage => simp [bringing, move, Progress.outcome?]
  | ended result => simp [bringing, finish_count, remove, Progress.outcome?]

theorem bringing_count (h : progress.Fits routing request met) (r : Relay) (p : Pending)
    (now : Duration) (outcome : Outcome) :
    (r.bringing p now progress).counters.count outcome = r.counters.count outcome +
      if progress.ending?.bind Ending.outcome? = some outcome then 1 else 0 := by
  rw [bringing_outcome, progress.outcome_of_fits h]

end Relay

namespace Archive

variable {routing : Routing} {a b : Archive} {services : Services} {step : RelayStep}

/-- The counters agree with what is on record. They are words, and so agree up to wrapping. -/
structure Tallied (a : Archive) : Prop where
  requests : a.relay.counters.requests = UInt64.ofNat a.records.length
  outcomes : ∀ outcome, a.relay.counters.count outcome =
    UInt64.ofNat (a.records.countP (Record.countsAs outcome))

theorem ofNat_add_tick (n : Nat) (b : Prop) [Decidable b] :
    UInt64.ofNat (n + if b then 1 else 0) = UInt64.ofNat n + if b then 1 else 0 := by
  by_cases h : b <;> simp [h]

theorem countsAs_of_pending {record : Record} (h : record.isPending = true) (outcome : Outcome) :
    record.countsAs outcome = false := by
  have hn : record.ending = none := Option.isNone_iff_eq_none.mp h
  simp [Record.countsAs, hn]

/-- A pending request has been counted in no outcome, so its end alone decides what it adds. -/
theorem countP_replaced {rb ra : List Record} {record changed : Record}
    (h : record.isPending = true) (outcome : Outcome) :
    (rb ++ changed :: ra).countP (Record.countsAs outcome) =
      (rb ++ record :: ra).countP (Record.countsAs outcome) +
        if changed.ending.bind Ending.outcome? = some outcome then 1 else 0 := by
  simp only [List.countP_append, List.countP_cons, countsAs_of_pending h outcome]
  simp [Record.countsAs]
  omega

theorem tallied_initial (routing : Routing) : Tallied ⟨.initial routing, []⟩ := by
  constructor
  · rfl
  · intro outcome
    exact Counters.count_zero outcome

theorem tallied_move (ht : a.Tallied) (hm : a.Move routing services step b) : b.Tallied := by
  cases hm with
  | idle => exact ht
  | start key request fresh c hc =>
    have hfits : c.progress.Fits routing request [services] := by
      rw [hc]
      exact (Course.stands_start routing request services).fits
    constructor
    · simp [Relay.taking_requests, ht.requests]
    · intro outcome
      rw [Relay.taking_count hfits, ht.outcomes, List.countP_append, List.countP_singleton]
      simp only [Record.countsAs, decide_eq_true_eq, ofNat_add_tick]
  | @look p record pb pa rb ra f c hc =>
    have hfits : c.progress.Fits routing record.request (record.met ++ [services]) := by
      rw [hc]
      exact (Course.stands_look (record.stands routing) services).fits
    constructor
    · rw [Relay.bringing_requests, ht.requests, f.records]
      simp
    · intro outcome
      rw [Relay.bringing_count hfits, ht.outcomes, countP_replaced f.isPending, ← f.records,
        ofNat_add_tick]
  | @drop p record pb pa rb ra f =>
    constructor
    · change ((a.relay.remove p.key).finish .abandoned p.since services.now).counters.requests = _
      simp [Relay.finish, Relay.remove, ht.requests, f.records]
    · intro outcome
      have hcount := Relay.finish_count (a.relay.remove p.key) .abandoned outcome p.since
        services.now
      rw [hcount, countP_replaced f.isPending, ← f.records, ofNat_add_tick]
      simp [Relay.remove, ht.outcomes, Record.drop, Ending.outcome?]

theorem tallied_of (routing : Routing) (history : List (Services × RelayEvent)) :
    (of routing history).Tallied := by
  suffices aux : ∀ a : Archive, a.Invariant routing → a.Tallied → (a.run history).Tallied from
    aux _ (invariant_initial routing) (tallied_initial routing)
  induction history with
  | nil => exact fun _ _ ht => ht
  | cons moment history ih =>
    intro a hi ht
    exact ih (a.next moment) (invariant_next hi moment) (tallied_move ht (next_move hi moment))

/-- A request is pending or has ended in one outcome. -/
theorem length_eq_counts {records : List Record}
    (h : ∀ record ∈ records, record.Faithful routing) :
    records.length = records.countP (Record.countsAs .success) +
      records.countP (Record.countsAs .mappingFailed) +
      records.countP (Record.countsAs .downstreamFailed) +
      records.countP (Record.countsAs .invalidResponse) +
      records.countP (Record.countsAs .abandoned) + records.countP Record.isPending := by
  induction records with
  | nil => rfl
  | cons record records ih =>
    have htail := ih fun r hr => h r (List.mem_cons_of_mem _ hr)
    simp only [List.countP_cons, List.length_cons]
    cases he : record.ending with
    | none =>
      simp [Record.countsAs, Record.isPending, he]
      omega
    | some ending =>
      obtain ⟨outcome, ho⟩ := (h record List.mem_cons_self).outcome he
      cases outcome <;> simp [Record.countsAs, Record.isPending, he, ho] <;> omega

theorem pending_length (hi : a.Invariant routing) :
    a.relay.pending.length = a.records.countP Record.isPending := by
  have hl := congrArg List.length hi.held
  simpa [List.countP_eq_length_filter] using hl

/-- Words that agree with numbers up to wrapping, where these numbers are small. -/
theorem inFlight_of_counts {c : Counters} {total pending : Nat} {counts : Outcome → Nat}
    (hr : c.requests = UInt64.ofNat total)
    (hc : ∀ outcome, c.count outcome = UInt64.ofNat (counts outcome))
    (hs : total = counts .success + counts .mappingFailed + counts .downstreamFailed +
      counts .invalidResponse + counts .abandoned + pending) (few : total < UInt64.size) :
    c.requests.toNat = total ∧ (∀ outcome, (c.count outcome).toNat = counts outcome) ∧
      c.inFlight.toNat = pending := by
  have hsize : UInt64.size = 18446744073709551616 := rfl
  have hrequests : c.requests.toNat = total := by
    rw [hr, UInt64.toNat_ofNat_of_lt' few]
  have hcount : ∀ outcome, (c.count outcome).toNat = counts outcome := by
    intro outcome
    rw [hc]
    apply UInt64.toNat_ofNat_of_lt'
    cases outcome <;> omega
  have h1 : c.successes.toNat = _ := hcount .success
  have h2 : c.mappingFailures.toNat = _ := hcount .mappingFailed
  have h3 : c.downstreamFailures.toNat = _ := hcount .downstreamFailed
  have h4 : c.invalidResponses.toNat = _ := hcount .invalidResponse
  have h5 : c.abandoned.toNat = _ := hcount .abandoned
  -- The sum does not wrap, since no part of it is more than the total.
  have hfinished : c.finished.toNat + pending = total := by
    simp only [Counters.finished, UInt64.toNat_add]
    omega
  refine ⟨hrequests, hcount, ?_⟩
  rw [Counters.toNat_inFlight]
  omega

structure Balanced (relay : Relay) (records : List Record) : Prop where
  requests : relay.counters.requests.toNat = records.length
  /-- Each end is one of an outcome. -/
  ended : ∀ record ∈ records, ∀ ending, record.ending = some ending →
    ∃ outcome, ending.outcome? = some outcome
  outcomes : ∀ outcome, (relay.counters.count outcome).toNat =
    records.countP (Record.countsAs outcome)
  pending : relay.pending.map (·.key) = (records.filter Record.isPending).map (·.key)
  inFlight : relay.counters.inFlight.toNat = relay.pending.length
  total : relay.counters.successes.toNat + relay.counters.mappingFailures.toNat +
    relay.counters.downstreamFailures.toNat + relay.counters.invalidResponses.toNat +
    relay.counters.abandoned.toNat + relay.counters.inFlight.toNat =
      relay.counters.requests.toNat

/-- The counters balance after every history, and what is on record of a request that has ended
stays as it is: it is counted once, in the outcome of its end. -/
theorem requests_complete_once (routing : Routing) (history : List (Services × RelayEvent))
    (few : (of routing history).records.length < UInt64.size) :
    Balanced ((Relay.initial routing).run history) (of routing history).records ∧
    ∀ (further : List (Services × RelayEvent)) (i : Nat) (record : Record),
      (of routing history).records[i]? = some record → record.isPending = false →
      (of routing (history ++ further)).records[i]? = some record := by
  have hi := invariant_of routing history
  have ht := tallied_of routing history
  have hsum := length_eq_counts hi.faithful
  obtain ⟨hrequests, hcount, hflight⟩ := inFlight_of_counts ht.requests ht.outcomes hsum few
  have hlength := pending_length hi
  constructor
  · rw [← relay_of]
    refine ⟨hrequests, fun record hm ending he => (hi.faithful record hm).outcome he, hcount,
      (keys_of_standing hi.held).symm, hflight.trans hlength.symm, ?_⟩
    have h1 := hcount .success
    have h2 := hcount .mappingFailed
    have h3 := hcount .downstreamFailed
    have h4 := hcount .invalidResponse
    have h5 := hcount .abandoned
    simp only [Counters.count] at h1 h2 h3 h4 h5
    omega
  · intro further i record hr hn
    exact of_ended routing history further hr hn

def sampleServices (mapped : Option (Except MappingError UInt64))
    (reply : Option (Except DownstreamError Unit)) : Services where
  setPriority _ _ _ := reply
  readProperty _ := none
  mapPid _ _ := mapped
  now := ⟨0⟩

def sampleSandbox : Origin := .flatpak "org.example.Player" 5000

/-- Two requests from a sandbox, of which one is dropped while the mapper is at work and the other
waits for RealtimeKit. -/
def sampleHistory : List (Services × RelayEvent) :=
  [(sampleServices none none, .start 0 (.thread ⟨":1.7", sampleSandbox⟩ 42 43 (.realtime 10))),
    (sampleServices none none, .start 1 (.thread ⟨":1.8", sampleSandbox⟩ 44 45 (.realtime 20))),
    (sampleServices none none, .drop 0),
    (sampleServices (some (.ok 9001)) none, .poll 1)]

theorem requests_complete_once_sample :
    (of .native sampleHistory).records.length < UInt64.size ∧
      Balanced ((Relay.initial .native).run sampleHistory) (of .native sampleHistory).records :=
  have few : (of .native sampleHistory).records.length < UInt64.size := by decide
  ⟨few, (requests_complete_once .native sampleHistory few).1⟩

end Archive

end PriorityPortal
