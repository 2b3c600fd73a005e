import PriorityPortal.Proofs.RelayStep
/-!
# What an event touches

An event meets nothing of the relay but its routing and what is held under the event's own key.
From these and the services it follows what the event shows, what is held under the key afterwards
and what is added to the counters; under every other key the relay holds what it held before.
Additions to the counters commute, so it does not matter in which order they are made.
-/
namespace PriorityPortal

structure Shown where
  seen : Seen Result
  effects : Effects
  deriving Repr

def RelayStep.shown (step : RelayStep) : Shown := ⟨step.seen, step.effects⟩

def RelayEvent.key : RelayEvent → Nat
  | start key _ => key
  | poll key => key
  | drop key => key

inductive Tick where
  | request
  | outcome (outcome : Outcome) (latency : Duration)
  deriving DecidableEq, Repr

namespace Counters

variable (c : Counters)

def take (c : Counters) : Tick → Counters
  | .request => c.countRequest
  | .outcome outcome latency => c.countOutcome outcome latency

def takeAll (c : Counters) (ticks : List Tick) : Counters := ticks.foldl take c

theorem increment_right_comm (a b : Outcome) :
    (c.increment a).increment b = (c.increment b).increment a := by
  cases a <;> cases b <;> rfl

theorem increment_addLatency (outcome : Outcome) (latency : UInt64) :
    (c.addLatency latency).increment outcome = (c.increment outcome).addLatency latency := by
  cases outcome <;> rfl

theorem increment_countRequest (outcome : Outcome) :
    c.countRequest.increment outcome = (c.increment outcome).countRequest := by
  cases outcome <;> rfl

theorem addLatency_right_comm (a b : UInt64) :
    (c.addLatency a).addLatency b = (c.addLatency b).addLatency a := by
  have hsum : c.totalMicroseconds + a + b = c.totalMicroseconds + b + a := by
    rw [UInt64.add_assoc, UInt64.add_comm a b, UInt64.add_assoc]
  have hpeak : max (max c.peakMicroseconds a) b = max (max c.peakMicroseconds b) a := by
    -- Words are compared as numbers.
    have max_eq : ∀ x y : UInt64, max x y = if x ≤ y then y else x := fun _ _ => rfl
    simp only [max_eq]
    repeat' split
    all_goals first
      | rfl
      | simp only [UInt64.le_iff_toNat_le, ← UInt64.toNat_inj] at *; omega
  simp only [addLatency, hsum, hpeak]

theorem countOutcome_right_comm (a b : Outcome) (la lb : Duration) :
    (c.countOutcome a la).countOutcome b lb = (c.countOutcome b lb).countOutcome a la := by
  simp only [countOutcome, increment_addLatency]
  rw [increment_right_comm, addLatency_right_comm]

theorem countRequest_countOutcome (outcome : Outcome) (latency : Duration) :
    c.countRequest.countOutcome outcome latency =
      (c.countOutcome outcome latency).countRequest := by
  unfold countOutcome
  rw [increment_countRequest]
  rfl

theorem take_right_comm (a b : Tick) : (c.take a).take b = (c.take b).take a := by
  cases a with
  | request =>
    cases b with
    | request => rfl
    | outcome b lb => exact countRequest_countOutcome c b lb
  | outcome a la =>
    cases b with
    | request => exact (countRequest_countOutcome c a la).symm
    | outcome b lb => exact countOutcome_right_comm c a b la lb

theorem takeAll_right_comm (s t : List Tick) :
    (c.takeAll s).takeAll t = (c.takeAll t).takeAll s := by
  unfold takeAll
  rw [← List.foldl_append, ← List.foldl_append]
  exact List.perm_append_comm.foldl_eq' (fun a _ b _ c => take_right_comm c a b) c

end Counters

structure Turn where
  /-- What is held under the event's key afterwards. -/
  held : Option Pending
  ticks : List Tick
  shown : Shown
  deriving Repr

def Turn.idle (held : Option Pending) : Turn := ⟨held, [], .nothing, .none⟩

def Progress.ticks (since now : Duration) : Progress → List Tick
  | .waiting _ => []
  | .ended result => [.outcome (.ofResult result) ⟨now.nanoseconds - since.nanoseconds⟩]

def RelayEvent.turn (routing : Routing) (services : Services) :
    RelayEvent → Option Pending → Turn
  | .start _ _, some p => .idle (some p)
  | .start key request, none =>
    let look := request.begin routing services
    { held := look.1.stage?.map fun stage => ⟨key, stage, services.now⟩
      ticks := .request :: look.1.ticks services.now services.now
      shown := ⟨look.1.seen, look.2⟩ }
  | .poll _, none => .idle none
  | .poll _, some p =>
    let look := p.stage.advance routing services
    { held := look.1.stage?.map fun stage => { p with stage := stage }
      ticks := look.1.ticks p.since services.now
      shown := ⟨look.1.seen, look.2⟩ }
  | .drop _, none => .idle none
  | .drop _, some p =>
    { held := none
      ticks := [.outcome .abandoned ⟨services.now.nanoseconds - p.since.nanoseconds⟩]
      shown := ⟨.nothing, .none⟩ }

namespace Relay

variable {r : Relay} {key other : Nat} {p : Pending} {services : Services}

theorem find_add_self (h : r.find? p.key = none) : (r.add p).find? p.key = some p := by
  unfold find? at h
  simp [add, find?, h]

theorem find_add_ne (h : p.key ≠ other) : (r.add p).find? other = r.find? other := by
  simp [add, find?, h]

theorem find_remove_self : (r.remove key).find? key = none := by
  simp [remove, find?]

theorem find_remove_ne (h : other ≠ key) : (r.remove key).find? other = r.find? other := by
  unfold remove find?
  rw [List.find?_filter]
  congr 1
  funext q
  by_cases hq : q.key = other
  · simp [hq, h]
  · simp [hq]

theorem find_move (r : Relay) (key : Nat) (stage : Stage) (other : Nat) :
    (r.move key stage).find? other =
      (r.find? other).map fun p => if p.key = key then { p with stage := stage } else p := by
  have same : (fun p : Pending =>
      (if p.key = key then { p with stage := stage } else p).key == other) =
        fun p => p.key == other := by
    funext p
    split <;> rfl
  simp only [move, find?, List.find?_map, Function.comp_def, same]

theorem find_move_self (h : r.find? key = some p) (stage : Stage) :
    (r.move key stage).find? key = some { p with stage := stage } := by
  obtain ⟨hkey, -⟩ := find_some h
  rw [find_move, h, Option.map_some, if_pos hkey]

theorem find_move_ne (h : other ≠ key) (stage : Stage) :
    (r.move key stage).find? other = r.find? other := by
  rw [find_move]
  cases hp : r.find? other with
  | none => rfl
  | some p =>
    obtain ⟨hkey, -⟩ := find_some hp
    rw [Option.map_some, if_neg (hkey ▸ h)]

theorem taking_counters (r : Relay) (key : Nat) (now : Duration) (progress : Progress) :
    (r.taking key now progress).counters =
      r.counters.takeAll (.request :: progress.ticks now now) := by
  cases progress <;> rfl

theorem find_taking_self (h : r.find? key = none) (now : Duration) (progress : Progress) :
    (r.taking key now progress).find? key =
      progress.stage?.map fun stage => ⟨key, stage, now⟩ := by
  cases progress with
  | waiting stage =>
    let counted : Relay := { r with counters := r.counters.countRequest }
    have hcounted : counted.find? key = none := h
    exact find_add_self hcounted
  | ended result => exact h

theorem find_taking_ne (h : other ≠ key) (now : Duration) (progress : Progress) :
    (r.taking key now progress).find? other = r.find? other := by
  cases progress with
  | waiting stage =>
    let counted : Relay := { r with counters := r.counters.countRequest }
    have hadd : (counted.add ⟨key, stage, now⟩).find? other = counted.find? other :=
      find_add_ne h.symm
    exact hadd
  | ended result => rfl

theorem bringing_counters (r : Relay) (p : Pending) (now : Duration) (progress : Progress) :
    (r.bringing p now progress).counters = r.counters.takeAll (progress.ticks p.since now) := by
  cases progress <;> rfl

theorem find_bringing_self (h : r.find? p.key = some p) (now : Duration) (progress : Progress) :
    (r.bringing p now progress).find? p.key =
      progress.stage?.map fun stage => { p with stage := stage } := by
  cases progress with
  | waiting stage => exact find_move_self h stage
  | ended result => exact find_remove_self

theorem find_bringing_ne (h : other ≠ p.key) (now : Duration) (progress : Progress) :
    (r.bringing p now progress).find? other = r.find? other := by
  cases progress with
  | waiting stage => exact find_move_ne h stage
  | ended result => exact find_remove_ne h

/-- A step does what its event comes to, and nothing else. -/
structure Follows (r : Relay) (key : Nat) (turn : Turn) (step : RelayStep) : Prop where
  shown : step.shown = turn.shown
  routing : step.relay.routing = r.routing
  counters : step.relay.counters = r.counters.takeAll turn.ticks
  own : step.relay.find? key = turn.held
  others : ∀ other, other ≠ key → step.relay.find? other = r.find? other

theorem follows_idle {held : Option Pending} (h : r.find? key = held) :
    r.Follows key (.idle held) ⟨r, .nothing, .none⟩ :=
  ⟨rfl, rfl, rfl, h, fun _ _ => rfl⟩

theorem start_follows (r : Relay) (services : Services) (key : Nat) (request : Request) :
    r.Follows key ((RelayEvent.start key request).turn r.routing services (r.find? key))
      (r.next services (.start key request)) := by
  cases h : r.find? key with
  | some p =>
    rw [next_start_in_use h]
    exact follows_idle h
  | none =>
    rw [next_start h]
    exact ⟨rfl, taking_routing .., taking_counters .., find_taking_self h ..,
      fun _ hne => find_taking_ne hne ..⟩

theorem poll_follows (r : Relay) (services : Services) (key : Nat) :
    r.Follows key ((RelayEvent.poll key).turn r.routing services (r.find? key))
      (r.next services (.poll key)) := by
  cases h : r.find? key with
  | none =>
    rw [next_poll_unknown h]
    exact follows_idle h
  | some p =>
    rw [next_poll h]
    obtain ⟨rfl, -⟩ := find_some h
    exact ⟨rfl, bringing_routing .., bringing_counters .., find_bringing_self h ..,
      fun _ hne => find_bringing_ne hne ..⟩

theorem drop_follows (r : Relay) (services : Services) (key : Nat) :
    r.Follows key ((RelayEvent.drop key).turn r.routing services (r.find? key))
      (r.next services (.drop key)) := by
  cases h : r.find? key with
  | none =>
    rw [next_drop_unknown h]
    exact follows_idle h
  | some p =>
    rw [next_drop h]
    obtain ⟨rfl, -⟩ := find_some h
    exact ⟨rfl, rfl, rfl, find_remove_self, fun _ hne => find_remove_ne hne⟩

theorem next_follows (r : Relay) (services : Services) (event : RelayEvent) :
    r.Follows event.key (event.turn r.routing services (r.find? event.key))
      (r.next services event) := by
  cases event with
  | start key request => exact start_follows r services key request
  | poll key => exact poll_follows r services key
  | drop key => exact drop_follows r services key

end Relay

end PriorityPortal
