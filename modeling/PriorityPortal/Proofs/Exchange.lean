import PriorityPortal.Proofs.Completion
import PriorityPortal.Proofs.Locality
/-!
# Exchanging neighbouring steps

Each request has a key of its own, so that steps of different requests are steps under different
keys. Where two such neighbours are exchanged, every step shows what it showed before, and all is
counted as before. What is shown and how many requests and outcomes are counted does not depend on
the time either, so the steps may be exchanged while the clock goes on.
-/
namespace PriorityPortal

def Exchanged {α : Type} (place : Nat) (xs ys : List α) : Prop :=
  ∃ before x y after, before.length = place ∧
    xs = before ++ x :: y :: after ∧ ys = before ++ y :: x :: after

namespace Relay

def showing (r : Relay) (history : List (Services × RelayEvent)) : List Shown :=
  (r.steps history).map RelayStep.shown

variable {r s : Relay}

theorem run_append (r : Relay) (history further : List (Services × RelayEvent)) :
    r.run (history ++ further) = (r.run history).run further := by
  simp [run, List.foldl_append]

theorem showing_cons (r : Relay) (moment : Services × RelayEvent)
    (history : List (Services × RelayEvent)) :
    r.showing (moment :: history) = (r.next moment.1 moment.2).shown ::
      (r.next moment.1 moment.2).relay.showing history :=
  rfl

theorem showing_length (r : Relay) (history : List (Services × RelayEvent)) :
    (r.showing history).length = history.length := by
  induction history generalizing r with
  | nil => rfl
  | cons moment history ih =>
    rw [showing_cons, List.length_cons, List.length_cons, ih]

theorem showing_append (r : Relay) (history further : List (Services × RelayEvent)) :
    r.showing (history ++ further) = r.showing history ++ (r.run history).showing further := by
  induction history generalizing r with
  | nil => rfl
  | cons moment history ih => exact congrArg _ (ih (r.next moment.1 moment.2).relay)

/-- Where related relays show the same at each step and stay related, they do so over a history. -/
theorem showing_of_related {related : Relay → Relay → Prop}
    (hstep : ∀ (r s : Relay) (services : Services) (event : RelayEvent), related r s →
      (s.next services event).shown = (r.next services event).shown ∧
        related (r.next services event).relay (s.next services event).relay)
    (history : List (Services × RelayEvent)) (h : related r s) :
    s.showing history = r.showing history ∧ related (r.run history) (s.run history) := by
  induction history generalizing r s with
  | nil => exact ⟨rfl, h⟩
  | cons moment history ih =>
    obtain ⟨hshown, hnext⟩ := hstep r s moment.1 moment.2 h
    obtain ⟨hrest, hrun⟩ := ih hnext
    exact ⟨List.cons_eq_cons.mpr ⟨hshown, hrest⟩, hrun⟩

/-- Relays that differ only in the order in which they hold their requests. -/
structure Alike (r s : Relay) : Prop where
  routing : s.routing = r.routing
  counters : s.counters = r.counters
  held : ∀ key, s.find? key = r.find? key

theorem Alike.next (h : r.Alike s) (services : Services) (event : RelayEvent) :
    (s.next services event).shown = (r.next services event).shown ∧
      (r.next services event).relay.Alike (s.next services event).relay := by
  have hr := r.next_follows services event
  have hs := s.next_follows services event
  rw [h.routing, h.held] at hs
  refine ⟨hs.shown.trans hr.shown.symm, ?_, ?_, ?_⟩
  · rw [hs.routing, hr.routing, h.routing]
  · rw [hs.counters, hr.counters, h.counters]
  · intro key
    by_cases hkey : key = event.key
    · subst hkey
      exact hs.own.trans hr.own.symm
    · rw [hs.others key hkey, hr.others key hkey, h.held]

theorem Alike.showing (history : List (Services × RelayEvent)) (h : r.Alike s) :
    s.showing history = r.showing history ∧ (r.run history).Alike (s.run history) :=
  showing_of_related (fun _ _ services event hrs => hrs.next services event) history h

/-- What an event shows is not changed by an event under another key. -/
theorem shown_after (r : Relay) {a b : Services × RelayEvent} (h : a.2.key ≠ b.2.key) :
    ((r.next a.1 a.2).relay.next b.1 b.2).shown = (r.next b.1 b.2).shown := by
  have ha := r.next_follows a.1 a.2
  have hb := r.next_follows b.1 b.2
  have hab := (r.next a.1 a.2).relay.next_follows b.1 b.2
  rw [ha.routing, ha.others _ h.symm] at hab
  exact hab.shown.trans hb.shown.symm

theorem next_exchange (r : Relay) {a b : Services × RelayEvent} (h : a.2.key ≠ b.2.key) :
    ((r.next a.1 a.2).relay.next b.1 b.2).relay.Alike
      ((r.next b.1 b.2).relay.next a.1 a.2).relay := by
  have ha := r.next_follows a.1 a.2
  have hb := r.next_follows b.1 b.2
  have hab := (r.next a.1 a.2).relay.next_follows b.1 b.2
  have hba := (r.next b.1 b.2).relay.next_follows a.1 a.2
  rw [ha.routing, ha.others _ h.symm] at hab
  rw [hb.routing, hb.others _ h] at hba
  constructor
  · rw [hba.routing, hb.routing, hab.routing, ha.routing]
  · rw [hba.counters, hb.counters, hab.counters, ha.counters, Counters.takeAll_right_comm]
  -- Under either key the other event changes nothing; under a third key neither does.
  · intro key
    by_cases hkb : key = b.2.key
    · subst hkb
      rw [hba.others _ h.symm, hb.own, hab.own]
    · by_cases hka : key = a.2.key
      · subst hka
        rw [hba.own, hab.others _ h, ha.own]
      · rw [hba.others _ hka, hb.others _ hkb, hab.others _ hkb, ha.others _ hka]

theorem exchange (r : Relay) (before after : List (Services × RelayEvent))
    {a b : Services × RelayEvent} (h : a.2.key ≠ b.2.key) :
    Exchanged before.length (r.showing (before ++ a :: b :: after))
        (r.showing (before ++ b :: a :: after)) ∧
      (r.run (before ++ a :: b :: after)).counters =
        (r.run (before ++ b :: a :: after)).counters := by
  let mid := r.run before
  have hba : ((mid.next a.1 a.2).relay.next b.1 b.2).shown = (mid.next b.1 b.2).shown :=
    mid.shown_after h
  have hab : ((mid.next b.1 b.2).relay.next a.1 a.2).shown = (mid.next a.1 a.2).shown :=
    mid.shown_after h.symm
  obtain ⟨hafter, hrun⟩ := (mid.next_exchange h).showing after
  constructor
  · refine ⟨r.showing before, (mid.next a.1 a.2).shown, (mid.next b.1 b.2).shown,
      ((mid.next a.1 a.2).relay.next b.1 b.2).relay.showing after, r.showing_length before, ?_, ?_⟩
    · rw [showing_append, ← hba]
      rfl
    · rw [showing_append, ← hafter, ← hab]
      rfl
  · rw [run_append, run_append]
    exact hrun.counters.symm

end Relay

/-- The same answers, perhaps at another time. -/
structure Services.Agree (s t : Services) : Prop where
  kit : t.toKit = s.toKit
  mapPid : t.mapPid = s.mapPid

structure Counters.Agree (c d : Counters) : Prop where
  requests : d.requests = c.requests
  count : ∀ outcome, d.count outcome = c.count outcome

def Tick.outcome? : Tick → Option Outcome
  | request => none
  | outcome o _ => some o

structure Turn.Agree (t u : Turn) : Prop where
  held : u.held.map Pending.stage = t.held.map Pending.stage
  ticks : u.ticks.map Tick.outcome? = t.ticks.map Tick.outcome?
  shown : u.shown = t.shown

theorem Counters.Agree.take {c d : Counters} {t u : Tick} (h : c.Agree d)
    (ht : u.outcome? = t.outcome?) : (c.take t).Agree (d.take u) := by
  cases t with
  | request =>
    cases u with
    | outcome => cases ht
    | request =>
      constructor
      · exact congrArg (· + 1) h.requests
      · intro outcome
        simpa [Counters.take] using h.count outcome
  | outcome o latency =>
    cases u with
    | request => cases ht
    | outcome o' latency' =>
      obtain rfl : o' = o := Option.some.inj ht
      constructor
      · simpa [Counters.take] using h.requests
      · intro outcome
        simp [Counters.take, Counters.count_countOutcome, h.count]

theorem Counters.Agree.takeAll {ts us : List Tick} {c d : Counters} (h : c.Agree d)
    (ht : us.map Tick.outcome? = ts.map Tick.outcome?) : (c.takeAll ts).Agree (d.takeAll us) := by
  induction ts generalizing us c d with
  | nil =>
    obtain rfl : us = [] := List.map_eq_nil_iff.mp ht
    exact h
  | cons t ts ih =>
    obtain ⟨u, us, rfl, hu, hus⟩ := List.map_eq_cons_iff.mp ht
    have hrest : ((c.take t).takeAll ts).Agree ((d.take u).takeAll us) := ih (h.take hu) hus
    exact hrest

theorem Services.Agree.begin {s t : Services} (h : s.Agree t) (routing : Routing)
    (request : Request) : request.begin routing t = request.begin routing s := by
  obtain ⟨hkit, hmap⟩ := h
  cases s
  cases t
  cases hkit
  cases hmap
  cases request <;> rfl

theorem Services.Agree.advance {s t : Services} (h : s.Agree t) (routing : Routing)
    (stage : Stage) : stage.advance routing t = stage.advance routing s := by
  obtain ⟨hkit, hmap⟩ := h
  cases s
  cases t
  cases hkit
  cases hmap
  cases stage <;> rfl

theorem Progress.ticks_agree (progress : Progress) (since now since' now' : Duration) :
    (progress.ticks since' now').map Tick.outcome? =
      (progress.ticks since now).map Tick.outcome? := by
  cases progress <;> rfl

theorem Services.Agree.turn {s t : Services} (h : s.Agree t) (routing : Routing)
    (event : RelayEvent) {held held' : Option Pending}
    (hheld : held'.map Pending.stage = held.map Pending.stage) :
    (event.turn routing s held).Agree (event.turn routing t held') := by
  cases held with
  | none =>
    obtain rfl : held' = none := Option.map_eq_none_iff.mp hheld
    cases event with
    | start key request =>
      have hbegin := h.begin routing request
      constructor
      · simp [RelayEvent.turn, hbegin, Function.comp_def]
      · simp [RelayEvent.turn, hbegin, Progress.ticks_agree _ s.now s.now t.now t.now]
      · simp [RelayEvent.turn, hbegin]
    | poll key => exact ⟨rfl, rfl, rfl⟩
    | drop key => exact ⟨rfl, rfl, rfl⟩
  | some p =>
    obtain ⟨p', rfl, hstage⟩ := Option.map_eq_some_iff.mp hheld
    cases event with
    | start key request => exact ⟨hheld, rfl, rfl⟩
    | poll key =>
      have hadvance := h.advance routing p.stage
      rw [← hstage] at hadvance
      constructor
      · simp [RelayEvent.turn, ← hstage, hadvance, Function.comp_def]
      · simp [RelayEvent.turn, ← hstage, hadvance,
          Progress.ticks_agree _ p.since s.now p'.since t.now]
      · simp [RelayEvent.turn, ← hstage, hadvance]
    | drop key => exact ⟨rfl, rfl, rfl⟩

namespace Relay

variable {r s : Relay}

/-- Relays that differ in times only, and in the order in which they hold their requests. -/
structure Contemporary (r s : Relay) : Prop where
  routing : s.routing = r.routing
  counters : r.counters.Agree s.counters
  held : ∀ key, (s.find? key).map Pending.stage = (r.find? key).map Pending.stage

theorem contemporary_refl (r : Relay) : r.Contemporary r :=
  ⟨rfl, ⟨rfl, fun _ => rfl⟩, fun _ => rfl⟩

theorem Contemporary.next (h : r.Contemporary s) {now later : Services} (hs : now.Agree later)
    (event : RelayEvent) :
    (s.next later event).shown = (r.next now event).shown ∧
      (r.next now event).relay.Contemporary (s.next later event).relay := by
  have fr := r.next_follows now event
  have fs := s.next_follows later event
  have hturn := hs.turn r.routing event (h.held event.key)
  rw [h.routing] at fs
  refine ⟨?_, ?_, ?_, ?_⟩
  · rw [fs.shown, fr.shown, hturn.shown]
  · rw [fs.routing, fr.routing, h.routing]
  · rw [fs.counters, fr.counters]
    exact h.counters.takeAll hturn.ticks
  · intro key
    by_cases hkey : key = event.key
    · subst hkey
      rw [fs.own, fr.own, hturn.held]
    · rw [fs.others key hkey, fr.others key hkey, h.held]

theorem Contemporary.showing (history : List (Services × RelayEvent)) (h : r.Contemporary s) :
    s.showing history = r.showing history ∧ (r.run history).Contemporary (s.run history) :=
  showing_of_related (fun _ _ _ event hrs => hrs.next ⟨rfl, rfl⟩ event) history h

/-- The events are exchanged and each meets the services at its new place. -/
theorem exchange_in_place (r : Relay) (before after : List (Services × RelayEvent))
    {a b : Services × RelayEvent} (h : a.2.key ≠ b.2.key) (hs : a.1.Agree b.1) :
    Exchanged before.length (r.showing (before ++ a :: b :: after))
        (r.showing (before ++ (a.1, b.2) :: (b.1, a.2) :: after)) ∧
      (r.run (before ++ a :: b :: after)).counters.Agree
        (r.run (before ++ (a.1, b.2) :: (b.1, a.2) :: after)).counters := by
  have hsymm : b.1.Agree a.1 := ⟨hs.kit.symm, hs.mapPid.symm⟩
  obtain ⟨hfirst, hnext⟩ := (r.run before).contemporary_refl.next hsymm b.2
  obtain ⟨hsecond, hnext⟩ := hnext.next hs a.2
  obtain ⟨hafter, hrun⟩ := hnext.showing after
  have hshowing : r.showing (before ++ (a.1, b.2) :: (b.1, a.2) :: after) =
      r.showing (before ++ b :: a :: after) := by
    rw [showing_append, showing_append]
    exact congrArg _ (List.cons_eq_cons.mpr ⟨hfirst, List.cons_eq_cons.mpr ⟨hsecond, hafter⟩⟩)
  obtain ⟨hexchanged, hcounters⟩ := r.exchange before after h
  constructor
  · rw [hshowing]
    exact hexchanged
  · rw [hcounters, run_append, run_append]
    exact hrun.counters

end Relay

end PriorityPortal
