import PriorityPortal.Proofs.Logbook
/-!
# A link is settled once

The outcome of a link is what the one attempt ended in that ran to its end, and stays it. All that
attempts are told, and all that is seen of the link, follows from this outcome.
-/
namespace PriorityPortal

namespace Link

variable {α : Type} {l : Link α} {key : Nat} {shown : Option α}

structure Consistent (l : Link α) : Prop where
  ready : (∃ handle, l.handle? = some handle) ↔ l.state = .ready
  failed : (∃ reason, l.failure? = some reason) ↔ l.state = .failed
  require_ok : ∀ handle, l.require = .ok handle ↔ l.handle? = some handle
  require_failed : ∀ reason, l.failure? = some reason → l.require = .error (.unavailable reason)
  require_unset : l.state = .uninitialized → l.require = .error (.unavailable "not connected")

theorem consistent (l : Link α) : l.Consistent := by
  cases h : l.outcome with
  | none => constructor <;> simp [handle?, failure?, require, state, h]
  | some outcome =>
    cases outcome with
    | ok handle => constructor <;> simp [handle?, failure?, require, state, h]
    | error reason => constructor <;> simp [handle?, failure?, require, state, h]

theorem unset_iff : l.state = .uninitialized ↔ l.outcome = none := by
  cases h : l.outcome with
  | none => simp [state, h]
  | some outcome => cases outcome <;> simp [state, h]

/-- All views are views of the outcome. -/
theorem views_of_outcome {l l' : Link α} (h : l'.outcome = l.outcome) :
    l'.state = l.state ∧ l'.handle? = l.handle? ∧ l'.failure? = l.failure? ∧
      l'.require = l.require := by
  simp only [state, handle?, failure?, require, h, and_self]

def Tells (l : Link α) (shown : Option α) : Prop :=
  (l.state = .ready ∧ ∃ handle, l.handle? = some handle ∧ shown = some handle) ∨
    (l.state = .failed ∧ shown = none)

theorem tells_of_outcome {outcome : Except String α} (h : l.outcome = some outcome) :
    l.Tells outcome.toOption := by
  cases outcome with
  | ok handle =>
    refine Or.inl ⟨?_, handle, ?_, rfl⟩
    · simp only [state, h]
    · simp only [handle?, h]
  | error reason =>
    refine Or.inr ⟨?_, rfl⟩
    simp only [state, h]

theorem tells_of_look (h : (l.look key).2 = .done shown) : (l.look key).1.Tells shown := by
  cases ho : l.outcome with
  | some outcome =>
    rw [look_settled ho] at h ⊢
    obtain rfl := Seen.done.inj h
    exact tells_of_outcome ho
  | none =>
    cases hs : l.attempts with
    | nil =>
      rw [look_none ho hs] at h
      cases h
    | cons first rest =>
      by_cases hfirst : first.key = key
      · subst hfirst
        rw [look_first ho hs] at h ⊢
        cases hheld : first.held with
        | true =>
          rw [advance_held hheld] at h
          cases h
        | false =>
          rw [advance_free hheld] at h ⊢
          obtain rfl := Seen.done.inj h
          exact tells_of_outcome rfl
      · rw [look_waiting ho hs hfirst] at h
        cases h

/-- An attempt that ends is told what the link is then. -/
theorem tells_of_next {event : LinkEvent α} (h : (l.next event).2 = .done shown) :
    (l.next event).1.Tells shown := by
  cases event with
  | attempt key ending held =>
    cases ha : l.alive key with
    | true =>
      rw [next_attempt_in_use ha] at h
      cases h
    | false =>
      rw [next_attempt ha] at h ⊢
      exact tells_of_look h
  | release key => cases h
  | poll key =>
    cases ha : l.alive key with
    | true =>
      rw [next_poll ha] at h ⊢
      exact tells_of_look h
    | false =>
      rw [next_poll_unknown ha] at h
      cases h
  | drop key => cases h

end Link

namespace Logbook

variable {α : Type} {b : Logbook α}

theorem completed_of_settled (hi : b.Invariant) {outcome : Except String α}
    (h : b.link.outcome = some outcome) :
    ∃ record, b.records.filter (·.completed) = [record] ∧ record.ran = true ∧
      record.ending = outcome := by
  have hone : (b.records.filter (·.completed)).length = 1 := by
    rw [← List.countP_eq_length_filter, hi.once, h]
    rfl
  obtain ⟨record, hr⟩ := List.length_eq_one_iff.mp hone
  have hm : record ∈ b.records.filter (·.completed) := by
    rw [hr]
    exact List.mem_singleton_self record
  obtain ⟨hmem, hcompleted⟩ := List.mem_filter.mp hm
  obtain ⟨hran, -, hending⟩ := hi.completed record hmem hcompleted
  exact ⟨record, hr, hran, Option.some.inj (hending.symm.trans h)⟩

/-- After any events: once a link is settled, nothing that is seen of it changes any more, and its
outcome is the ending of the one attempt that has run to its end. All attempts that end are told
this outcome, whatever they would have ended in themselves; before, none ends. -/
theorem link_settles_once (events further : List (LinkEvent α)) :
    let l := (Link.initial : Link α).run events
    let later := (Link.initial : Link α).run (events ++ further)
    let records := (of events).records
    (l.state ≠ .uninitialized → later.state = l.state ∧ later.handle? = l.handle? ∧
      later.failure? = l.failure? ∧ later.require = l.require) ∧
    (l.state ≠ .uninitialized → ∃ record, records.filter (·.completed) = [record] ∧
      record.ran = true ∧ l.outcome = some record.ending) ∧
    (l.state = .uninitialized → ∀ record ∈ records, record.completed = false ∧
      ∀ shown, record.closing ≠ some (.answered shown)) ∧
    (∀ record ∈ records, ∀ shown, record.closing = some (.answered shown) → l.Tells shown) ∧
    (∀ event shown, (l.next event).2 = .done shown → (l.next event).1.Tells shown) ∧
    l.Consistent := by
  intro l later records
  have hi : (of events).Invariant := invariant_of events
  have hl : (of events).link = l := link_of events
  have hset : l.state ≠ .uninitialized → ∃ outcome, l.outcome = some outcome := by
    intro hs
    exact Option.ne_none_iff_exists'.mp fun hn => hs (Link.unset_iff.mpr hn)
  refine ⟨?_, ?_, ?_, ?_, ?_, l.consistent⟩
  · intro hs
    obtain ⟨outcome, ho⟩ := hset hs
    have hlater : later = l.run further := by
      simp [later, l, Link.run, List.foldl_append]
    apply Link.views_of_outcome
    rw [hlater, (Link.settled_run ho further).1, ho]
  · intro hs
    obtain ⟨outcome, ho⟩ := hset hs
    obtain ⟨record, hr, hran, rfl⟩ := completed_of_settled hi (hl ▸ ho)
    exact ⟨record, hr, hran, ho⟩
  · intro hs
    refine open_of_unset hi ?_
    rw [hl]
    exact Link.unset_iff.mp hs
  · intro record hr shown hs
    obtain ⟨-, outcome, ho, rfl⟩ := hi.answered record hr shown hs
    exact Link.tells_of_outcome (hl ▸ ho)
  · intro event shown hs
    exact Link.tells_of_next hs

/-- An attempt that failed leaves another, which would have succeeded, nothing to do. -/
theorem link_settles_once_sample :
    ((Link.initial : Link Nat).run ([.attempt 0 (.error "no service") true,
      .attempt 1 (.ok 7) false, .release 0, .poll 0] ++ [.poll 1])).state = .failed := by
  obtain ⟨hfinal, -⟩ := link_settles_once [.attempt 0 (.error "no service") true,
    .attempt 1 (.ok 7) false, .release 0, .poll 0] [.poll 1]
  exact (hfinal (by decide)).1

end Logbook

end PriorityPortal
