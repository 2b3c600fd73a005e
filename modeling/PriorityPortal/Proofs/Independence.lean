import PriorityPortal.Proofs.Exchange
/-!
# Requests do not influence each other

The steps of one request show the same when the steps of all others are left out. A relay that
sees only the steps of some requests holds at every moment what the whole relay holds of them, and
nothing else.
-/
namespace PriorityPortal

structure Told where
  moment : Services × RelayEvent
  /-- The number of the request that the step starts, polls or drops. -/
  request : Option Nat
  shown : Shown

namespace Archive

/-- The number of the request that is pending under a key, which is its place on record. -/
def holder? (records : List Record) (key : Nat) : Option Nat :=
  records.findIdx? fun record => record.key = key ∧ record.isPending

def subject? (a : Archive) : RelayEvent → Option Nat
  | .start key _ => if inUse a.records key then none else some a.records.length
  | .poll key => holder? a.records key
  | .drop key => holder? a.records key

def told (a : Archive) : List (Services × RelayEvent) → List Told
  | [] => []
  | moment :: history =>
    ⟨moment, a.subject? moment.2, (a.relay.next moment.1 moment.2).shown⟩ ::
      (a.next moment).told history

variable {routing : Routing} {a : Archive} {records : List Record} {key other n : Nat}
  {moment : Services × RelayEvent}

theorem told_moments (a : Archive) (history : List (Services × RelayEvent)) :
    (a.told history).map Told.moment = history := by
  induction history generalizing a with
  | nil => rfl
  | cons moment history ih => exact congrArg _ (ih (a.next moment))

theorem told_shown (a : Archive) (history : List (Services × RelayEvent)) :
    (a.told history).map Told.shown = a.relay.showing history := by
  induction history generalizing a with
  | nil => rfl
  | cons moment history ih => exact congrArg _ (ih (a.next moment))

theorem holder_none_iff : holder? records key = none ↔ inUse records key = false := by
  simp [holder?, inUse]

theorem holder_append (record : Record) (h : holder? records key = none) :
    holder? (records ++ [record]) key =
      if record.key = key ∧ record.isPending then some records.length else none := by
  unfold holder? at *
  rw [List.findIdx?_append, h]
  by_cases hr : record.key = key ∧ record.isPending = true
  · simp [hr]
  · simp [hr]

theorem holder_append_ne (record : Record) (h : record.key ≠ key) :
    holder? (records ++ [record]) key = holder? records key := by
  simp [holder?, List.findIdx?_append, h]

theorem holder_amend_ne {change : Record → Record}
    (hkey : ∀ record, (change record).key = record.key) (h : other ≠ key) :
    holder? (amend records key change) other = holder? records other := by
  unfold holder? amend
  rw [List.findIdx?_map]
  congr 1
  funext record
  by_cases hr : record.key = key ∧ record.isPending = true
  · have hne : record.key ≠ other := fun he => h (he ▸ hr.1)
    simp [if_pos hr, hkey, hne]
  · simp [if_neg hr]

/-- The changes either keep the request pending or end it. -/
theorem holder_amend_self {change : Record → Record} {pending : Bool}
    (hkey : ∀ record, (change record).key = record.key)
    (hpending : ∀ record, (change record).isPending = pending) :
    holder? (amend records key change) key = none ∨
      holder? (amend records key change) key = holder? records key := by
  unfold holder? amend
  rw [List.findIdx?_map]
  cases pending with
  | true =>
    right
    congr 1
    funext record
    by_cases hr : record.key = key ∧ record.isPending = true
    · simp [hkey, hpending, hr]
    · simp [if_neg hr]
  | false =>
    left
    rw [List.findIdx?_eq_none_iff]
    intro record _
    by_cases hr : record.key = key ∧ record.isPending = true
    · simp [if_pos hr, hpending]
    · simpa [if_neg hr] using hr

theorem subject_start {request : Request} : a.subject? (.start key request) = some n ↔
    inUse a.records key = false ∧ a.records.length = n := by
  cases hu : inUse a.records key <;> simp [subject?, hu]

theorem holder_next_ne (h : other ≠ moment.2.key) :
    holder? (a.next moment).records other = holder? a.records other := by
  obtain ⟨services, event⟩ := moment
  cases event with
  | start key request =>
    have hnew : key ≠ other := Ne.symm h
    simp only [next, note]
    split
    · rfl
    · exact holder_append_ne _ hnew
  | poll key => exact holder_amend_ne (fun _ => rfl) h
  | drop key => exact holder_amend_ne (fun _ => rfl) h

/-- A request has its number as long as it is pending. -/
theorem holder_next_self (hs : a.subject? moment.2 = some n) :
    holder? (a.next moment).records moment.2.key = none ∨
      holder? (a.next moment).records moment.2.key = some n := by
  obtain ⟨services, event⟩ := moment
  cases event with
  | start key request =>
    obtain ⟨hfree, hn⟩ := subject_start.mp hs
    simp only [next, note, hfree, Bool.false_eq_true, if_false, RelayEvent.key,
      holder_append _ (holder_none_iff.mpr hfree), hn]
    split
    · exact Or.inr rfl
    · exact Or.inl rfl
  | poll key =>
    let step := a.relay.next services (.poll key)
    have hpending : ∀ record : Record,
        (record.look services step).isPending = (Ending.ofSeen? step.seen).isNone := fun _ => rfl
    have hholder : holder? a.records key = some n := hs
    rw [← hholder]
    exact holder_amend_self (fun _ => rfl) hpending
  | drop key =>
    have hpending : ∀ record : Record, record.drop.isPending = false := fun _ => rfl
    have hholder : holder? a.records key = some n := hs
    rw [← hholder]
    exact holder_amend_self (fun _ => rfl) hpending

theorem holder_none_iff_find (hi : a.Invariant routing) :
    holder? a.records key = none ↔ a.relay.find? key = none := by
  rw [holder_none_iff, Relay.find_none_iff, ← inUse_iff hi, Bool.not_eq_true]

/-- An event that belongs to no request does nothing. -/
theorem next_of_none (hi : a.Invariant routing) (hs : a.subject? moment.2 = none) :
    a.next moment = a := by
  obtain ⟨services, event⟩ := moment
  cases event with
  | start key request =>
    have hused : inUse a.records key = true := by
      cases hu : inUse a.records key with
      | true => rfl
      | false => simp [subject?, hu] at hs
    obtain ⟨p, hp⟩ : ∃ p, a.relay.find? key = some p := by
      cases hf : a.relay.find? key with
      | some p => exact ⟨p, rfl⟩
      | none =>
        have hnone := holder_none_iff.mp ((holder_none_iff_find hi).mpr hf)
        cases hused.symm.trans hnone
    simp [next, Relay.next_start_in_use hp, note, hused]
  | poll key =>
    have hf := (holder_none_iff_find hi).mp hs
    simp [next, Relay.next_poll_unknown hf, note, amend_of_unknown hi hf]
  | drop key =>
    have hf := (holder_none_iff_find hi).mp hs
    simp [next, Relay.next_drop_unknown hf, note, amend_of_unknown hi hf]

/-- A relay that holds what another holds of the requests with certain numbers. -/
structure Shadow (kept : Nat → Bool) (a : Archive) (s : Relay) : Prop where
  routing : s.routing = a.relay.routing
  held : ∀ key, s.find? key =
    if (holder? a.records key).any kept then a.relay.find? key else none

variable {kept : Nat → Bool} {s : Relay}

/-- What the two relays hold under the key of an event, before it. -/
theorem Shadow.subject (h : Shadow kept a s) (hi : a.Invariant routing)
    (hs : a.subject? moment.2 = some n) :
    s.find? moment.2.key = if kept n then a.relay.find? moment.2.key else none := by
  obtain ⟨services, event⟩ := moment
  cases event with
  | start key request =>
    obtain ⟨hfree, -⟩ := subject_start.mp hs
    have hholder := holder_none_iff.mpr hfree
    have hf := (holder_none_iff_find hi).mp hholder
    simp [h.held, RelayEvent.key, hholder, hf]
  | poll key =>
    have hholder : holder? a.records key = some n := hs
    simp [h.held, RelayEvent.key, hholder]
  | drop key =>
    have hholder : holder? a.records key = some n := hs
    simp [h.held, RelayEvent.key, hholder]

/-- After an event that belongs to a request, its key is in use by that request or by none. -/
theorem find_next_subject (hi : a.Invariant routing) (hs : a.subject? moment.2 = some n) :
    (if (holder? (a.next moment).records moment.2.key).any kept
      then (a.next moment).relay.find? moment.2.key else none) =
      if kept n then (a.next moment).relay.find? moment.2.key else none := by
  rcases holder_next_self hs with hnone | hsome
  · have hf := (holder_none_iff_find (invariant_next hi moment)).mp hnone
    simp [hf]
  · simp [hsome]

theorem Shadow.next_kept (h : Shadow kept a s) (hi : a.Invariant routing)
    (hs : a.subject? moment.2 = some n) (hn : kept n = true) :
    (s.next moment.1 moment.2).shown = (a.relay.next moment.1 moment.2).shown ∧
      Shadow kept (a.next moment) (s.next moment.1 moment.2).relay := by
  have hsame : s.find? moment.2.key = a.relay.find? moment.2.key := by
    rw [h.subject hi hs, if_pos hn]
  have fa := a.relay.next_follows moment.1 moment.2
  have fs := s.next_follows moment.1 moment.2
  rw [h.routing, hsame] at fs
  refine ⟨fs.shown.trans fa.shown.symm, ?_, ?_⟩
  · exact fs.routing.trans (h.routing.trans fa.routing.symm)
  · intro key
    by_cases hkey : key = moment.2.key
    · subst hkey
      rw [find_next_subject hi hs, if_pos hn]
      exact fs.own.trans fa.own.symm
    · have hothers : (a.next moment).relay.find? key = a.relay.find? key := fa.others key hkey
      rw [fs.others key hkey, h.held, holder_next_ne hkey, hothers]

theorem Shadow.next_left_out (h : Shadow kept a s) (hi : a.Invariant routing)
    (hs : a.subject? moment.2 = some n) (hn : kept n = false) :
    Shadow kept (a.next moment) s := by
  have fa := a.relay.next_follows moment.1 moment.2
  constructor
  · exact h.routing.trans fa.routing.symm
  · intro key
    by_cases hkey : key = moment.2.key
    · subst hkey
      rw [find_next_subject hi hs, h.subject hi hs, hn]
      rfl
    · have hothers : (a.next moment).relay.find? key = a.relay.find? key := fa.others key hkey
      rw [h.held, holder_next_ne hkey, hothers]

/-- Deleting the steps of some requests leaves the steps of the others as they are. -/
theorem Shadow.showing (history : List (Services × RelayEvent)) (h : Shadow kept a s)
    (hi : a.Invariant routing) :
    s.showing (((a.told history).filter fun t => t.request.any kept).map Told.moment) =
      ((a.told history).filter fun t => t.request.any kept).map Told.shown := by
  induction history generalizing a s with
  | nil => rfl
  | cons moment history ih =>
    -- A step of no request, or of one that is left out, is met by the whole relay only.
    have hrest := invariant_next hi moment
    simp only [told, List.filter_cons]
    cases hs : a.subject? moment.2 with
    | none =>
      have hn := next_of_none hi hs
      rw [hn] at hrest ⊢
      exact ih h hi
    | some n =>
      cases hn : kept n with
      | false => simpa [hn] using ih (h.next_left_out hi hs hn) hrest
      | true =>
        obtain ⟨hshown, hnext⟩ := h.next_kept hi hs hn
        have htail := ih hnext hrest
        simp [hn, Relay.showing_cons, hshown, htail]

def ownSteps (told : List Told) (n : Nat) : List Told := told.filter fun t => t.request = some n

theorem showing_ownSteps (routing : Routing) (history : List (Services × RelayEvent)) (n : Nat) :
    (Relay.initial routing).showing
        ((ownSteps ((of routing []).told history) n).map Told.moment) =
      (ownSteps ((of routing []).told history) n).map Told.shown := by
  have hshadow : Shadow (fun m => m = n) (of routing []) (Relay.initial routing) :=
    ⟨rfl, fun _ => rfl⟩
  have hkept : (fun t : Told => decide (t.request = some n)) =
      fun t => t.request.any fun m => m = n := by
    funext t
    cases t.request <;> simp
  have hshowing := hshadow.showing history (invariant_of routing [])
  rwa [← hkept] at hshowing

/-- The steps under one key, with those that come before or after its request. -/
def stepsUnder (told : List Told) (key : Nat) : List Told :=
  told.filter fun t => t.moment.2.key = key

/-- A relay that sees only the steps under a key holds under it what the whole relay does. -/
theorem showing_stepsUnder (history : List (Services × RelayEvent))
    (hrouting : s.routing = a.relay.routing) (hheld : s.find? key = a.relay.find? key) :
    s.showing ((stepsUnder (a.told history) key).map Told.moment) =
      (stepsUnder (a.told history) key).map Told.shown := by
  induction history generalizing a s with
  | nil => rfl
  | cons moment history ih =>
    have fa := a.relay.next_follows moment.1 moment.2
    have fs := s.next_follows moment.1 moment.2
    have harouting : (a.next moment).relay.routing = a.relay.routing := fa.routing
    unfold stepsUnder at ih ⊢
    rw [told, List.filter_cons]
    by_cases hkey : moment.2.key = key
    · subst hkey
      rw [hrouting, hheld] at fs
      have hown : (a.next moment).relay.find? moment.2.key = _ := fa.own
      have htail := ih ((fs.routing.trans hrouting).trans harouting.symm) (fs.own.trans hown.symm)
      simp [Relay.showing_cons, fs.shown, fa.shown, htail]
    · have hother : (a.next moment).relay.find? key = a.relay.find? key :=
        fa.others key (Ne.symm hkey)
      have htail := ih (hrouting.trans harouting.symm) (hheld.trans hother.symm)
      simpa [hkey] using htail

/-- A request by itself shows at each of its steps what it shows among others, and asks the same of
the services; so do all steps under one key. An exchange of neighbouring steps under different keys
changes nothing that is shown or counted, where each step keeps the services it meets. Where the
services answer the same at both places and only the time is another, it changes nothing that is
shown and no count. -/
theorem requests_independent (routing : Routing) :
    (∀ history,
      let told := (of routing []).told history
      told.map Told.moment = history ∧
        told.map Told.shown = (Relay.initial routing).showing history ∧
        (∀ n, (Relay.initial routing).showing ((ownSteps told n).map Told.moment) =
          (ownSteps told n).map Told.shown) ∧
        ∀ key, (Relay.initial routing).showing ((stepsUnder told key).map Told.moment) =
          (stepsUnder told key).map Told.shown) ∧
    (∀ (before after : List (Services × RelayEvent)) (a b : Services × RelayEvent),
      a.2.key ≠ b.2.key →
        let history := before ++ a :: b :: after
        let exchanged := before ++ b :: a :: after
        Exchanged before.length ((Relay.initial routing).showing history)
            ((Relay.initial routing).showing exchanged) ∧
          ((Relay.initial routing).run history).counters =
            ((Relay.initial routing).run exchanged).counters) ∧
    (∀ (before after : List (Services × RelayEvent)) (a b : Services × RelayEvent),
      a.2.key ≠ b.2.key → a.1.Agree b.1 →
        let history := before ++ a :: b :: after
        let exchanged := before ++ (a.1, b.2) :: (b.1, a.2) :: after
        Exchanged before.length ((Relay.initial routing).showing history)
            ((Relay.initial routing).showing exchanged) ∧
          ((Relay.initial routing).run history).counters.Agree
            ((Relay.initial routing).run exchanged).counters) := by
  refine ⟨?_, ?_, ?_⟩
  · intro history told
    exact ⟨told_moments _ history, told_shown _ history, showing_ownSteps routing history,
      fun _ => showing_stepsUnder history rfl rfl⟩
  · intro before after a b hkeys
    exact (Relay.initial routing).exchange before after hkeys
  · intro before after a b hkeys hagree
    exact (Relay.initial routing).exchange_in_place before after hkeys hagree

/-- One of two requests is looked at again when the other has been dropped. By itself it shows the
same, and the look may come before the drop, with its own services or with those of the drop. -/
theorem requests_independent_sample :
    let told := (of .native []).told sampleHistory
    let relay := Relay.initial .native
    let starts := sampleHistory.take 2
    let sooner := sampleServices (some (.ok 9001)) none
    let later := { sooner with now := ⟨1000⟩ }
    (∃ first second, ownSteps told 1 = [first, second] ∧
      relay.showing [first.moment, second.moment] = [first.shown, second.shown] ∧
      second.shown.effects.calls = [.thread 9001 45 (.realtime 20)]) ∧
    Exchanged 2 (relay.showing (starts ++ [(sooner, .drop 0), (later, .poll 1)]))
      (relay.showing (starts ++ [(later, .poll 1), (sooner, .drop 0)])) ∧
    sooner.Agree later ∧
    Exchanged 2 (relay.showing (starts ++ [(sooner, .drop 0), (later, .poll 1)]))
      (relay.showing (starts ++ [(sooner, .poll 1), (later, .drop 0)])) ∧
    (relay.run (starts ++ [(sooner, .drop 0), (later, .poll 1)])).counters.Agree
      (relay.run (starts ++ [(sooner, .poll 1), (later, .drop 0)])).counters := by
  intro told relay starts sooner later
  obtain ⟨hown, hexchange, hplace⟩ := requests_independent .native
  have agree : sooner.Agree later := ⟨rfl, rfl⟩
  have keys : (RelayEvent.drop 0).key ≠ (RelayEvent.poll 1).key := by decide
  obtain ⟨-, -, hself, -⟩ := hown sampleHistory
  obtain ⟨hshown, hcounters⟩ := hplace starts [] (sooner, .drop 0) (later, .poll 1) keys agree
  refine ⟨⟨_, _, rfl, hself 1, rfl⟩, ?_, agree, hshown, hcounters⟩
  exact (hexchange starts [] (sooner, .drop 0) (later, .poll 1) keys).1

end Archive

end PriorityPortal
