import PriorityPortal.Relay
/-!
# What one event does to a relay

A new request is looked at once and a pending one again; either look leads to a progress, and the
relay after it follows from the progress alone. An event for a key that it does not fit does
nothing.
-/
namespace PriorityPortal

def Progress.seen : Progress → Seen Result
  | .waiting _ => .pending
  | .ended result => .done result

def Progress.stage? : Progress → Option Stage
  | .waiting stage => some stage
  | .ended _ => none

namespace Relay

variable {r : Relay} {key : Nat} {p : Pending}

/-- The relay after a new request has come this far at its first look. -/
def taking (r : Relay) (key : Nat) (now : Duration) : Progress → Relay
  | .waiting stage => { r with counters := r.counters.countRequest }.add ⟨key, stage, now⟩
  | .ended result =>
    { r with counters := r.counters.countRequest }.finish (.ofResult result) now now

/-- The relay after a pending request has come this far at a further look. -/
def bringing (r : Relay) (p : Pending) (now : Duration) : Progress → Relay
  | .waiting stage => r.move p.key stage
  | .ended result => (r.remove p.key).finish (.ofResult result) p.since now

theorem find_none_iff : r.find? key = none ↔ key ∉ r.pending.map (·.key) := by
  simp [find?]

theorem find_some (h : r.find? key = some p) : p.key = key ∧ p ∈ r.pending :=
  ⟨by simpa using List.find?_some h, List.mem_of_find?_eq_some h⟩

theorem next_start_in_use (h : r.find? key = some p) (services : Services) (request : Request) :
    r.next services (.start key request) = ⟨r, .nothing, .none⟩ := by
  simp only [next, h]

theorem next_start (h : r.find? key = none) (services : Services) (request : Request) :
    r.next services (.start key request) =
      ⟨r.taking key services.now (request.begin r.routing services).1,
        (request.begin r.routing services).1.seen, (request.begin r.routing services).2⟩ := by
  simp only [next, h]
  cases hb : request.begin r.routing services with
  | mk progress effects => cases progress <;> rfl

theorem next_poll_unknown (h : r.find? key = none) (services : Services) :
    r.next services (.poll key) = ⟨r, .nothing, .none⟩ := by
  simp only [next, h]

theorem next_poll (h : r.find? key = some p) (services : Services) :
    r.next services (.poll key) =
      ⟨r.bringing p services.now (p.stage.advance r.routing services).1,
        (p.stage.advance r.routing services).1.seen,
        (p.stage.advance r.routing services).2⟩ := by
  obtain ⟨rfl, -⟩ := find_some h
  simp only [next, h]
  cases ha : p.stage.advance r.routing services with
  | mk progress effects => cases progress <;> rfl

theorem next_drop_unknown (h : r.find? key = none) (services : Services) :
    r.next services (.drop key) = ⟨r, .nothing, .none⟩ := by
  simp only [next, h]

theorem next_drop (h : r.find? key = some p) (services : Services) :
    r.next services (.drop key) =
      ⟨(r.remove p.key).finish .abandoned p.since services.now, .nothing, .none⟩ := by
  obtain ⟨rfl, -⟩ := find_some h
  simp only [next, h]

@[simp] theorem taking_routing (r : Relay) (key : Nat) (now : Duration) (progress : Progress) :
    (r.taking key now progress).routing = r.routing := by
  cases progress <;> rfl

@[simp] theorem bringing_routing (r : Relay) (p : Pending) (now : Duration)
    (progress : Progress) : (r.bringing p now progress).routing = r.routing := by
  cases progress <;> rfl

theorem taking_pending (r : Relay) (key : Nat) (now : Duration) (progress : Progress) :
    (r.taking key now progress).pending =
      r.pending ++ (progress.stage?.map fun stage => ⟨key, stage, now⟩).toList := by
  cases progress <;> simp [taking, add, finish, Progress.stage?]

variable {now : Duration} {progress : Progress} {q : Pending}

theorem mem_taking (h : q ∈ (r.taking key now progress).pending) :
    q ∈ r.pending ∨ ∃ stage, progress = .waiting stage ∧ q = ⟨key, stage, now⟩ := by
  cases progress with
  | waiting stage => simpa [taking, add] using h
  | ended result => exact .inl h

theorem mem_bringing (h : q ∈ (r.bringing p now progress).pending) :
    q ∈ r.pending ∨
      ∃ stage, progress = .waiting stage ∧ ∃ held ∈ r.pending, q = { held with stage } := by
  cases progress with
  | waiting stage =>
    obtain ⟨held, hheld, rfl⟩ := List.mem_map.mp h
    by_cases hkey : held.key = p.key
    · exact .inr ⟨stage, rfl, held, hheld, by simp [hkey]⟩
    · exact .inl (by simpa [hkey] using hheld)
  | ended result => exact .inl (List.mem_filter.mp h).1

end Relay

end PriorityPortal
