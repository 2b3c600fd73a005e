import PriorityPortal.Proofs.Logbook
/-!
# Attempts take turns

One attempt runs at a time, in the order of arrival, and as long as a link is not settled somebody's
turn it is: dropping attempts never takes the link away from those that are left.
-/
namespace PriorityPortal

section

variable {α : Type}

def LinkEvent.concerns (event : LinkEvent α) (key : Nat) : Prop :=
  match event with
  | .poll k | .drop k => k = key
  | _ => False

end

namespace Logbook

variable {α : Type} {b b' : Logbook α} {key i : Nat} {record : AttemptRecord α}

/-- An event sets the attempt running that is on record as the `i`-th. -/
def Starts (b : Logbook α) (event : LinkEvent α) (i : Nat) : Prop :=
  (∃ record, (b.next event).records[i]? = some record ∧ record.ran = true) ∧
    ∀ old, b.records[i]? = some old → old.ran = false

def ClearBefore (b : Logbook α) (i : Nat) : Prop :=
  ∀ j earlier, j < i → b.records[j]? = some earlier → earlier.isOpen = false

/-! ## How many run -/

theorem countP_le_one {ρ : Type} {p : ρ → Bool} {rs : List ρ}
    (h : rs.Pairwise fun r s => ¬ (p r = true ∧ p s = true)) : rs.countP p ≤ 1 := by
  induction h with
  | nil => exact Nat.zero_le 1
  | @cons r rs hr hrs ih =>
    rw [List.countP_cons]
    cases hp : p r with
    | false => simpa using ih
    | true =>
      have hzero : rs.countP p = 0 := by
        rw [List.countP_eq_zero]
        intro s hs hps
        exact hr s hs ⟨hp, hps⟩
      simp [hzero]

theorem running_le_one (hi : b.Invariant) : b.records.countP AttemptRecord.isRunning ≤ 1 := by
  apply countP_le_one
  refine hi.order.imp ?_
  rintro earlier later horder ⟨he, hl⟩
  simp only [AttemptRecord.isRunning, Bool.and_eq_true] at he hl
  cases (horder hl.1.1).symm.trans he.2

theorem unset_of_running (hi : b.Invariant) (hr : record ∈ b.records)
    (hrun : record.isRunning = true) : b.link.outcome = none := by
  simp only [AttemptRecord.isRunning, Bool.and_eq_true] at hrun
  have hm : record.standing ∈ b.link.attempts.map Attempt.standing := by
    rw [hi.held]
    exact List.mem_map_of_mem (List.mem_filter.mpr ⟨hr, hrun.2⟩)
  obtain ⟨a, ha, hstanding⟩ := List.mem_map.mp hm
  have hrunning : a.running = true :=
    (congrArg (fun s => s.2.2) hstanding).trans hrun.1.1
  cases ho : b.link.outcome with
  | none => rfl
  | some outcome =>
    have hidle := hi.settled (by simp [ho]) a ha
    cases hrunning.symm.trans hidle

/-- What has been started is running, has run to its end, or was dropped meanwhile. -/
theorem ran_partition {rs : List (AttemptRecord α)}
    (hc : ∀ record ∈ rs, record.completed = true → record.ran = true)
    (ha : ∀ record ∈ rs, ∀ shown, record.closing = some (.answered shown) →
      record.ran = true → record.completed = true) :
    rs.countP (·.ran) = rs.countP AttemptRecord.wasCut + rs.countP AttemptRecord.isRunning +
      rs.countP (·.completed) := by
  induction rs with
  | nil => rfl
  | cons record rs ih =>
    have htail := ih (fun r hr => hc r (List.mem_cons_of_mem _ hr))
      fun r hr => ha r (List.mem_cons_of_mem _ hr)
    have hone : (if record.ran then 1 else 0) = (if record.wasCut then 1 else 0) +
        (if record.isRunning then 1 else 0) + if record.completed then 1 else 0 := by
      have hrc := hc record List.mem_cons_self
      have hra := ha record List.mem_cons_self
      cases hran : record.ran with
      | false =>
        have hcompleted : record.completed = false := by
          cases hcompleted : record.completed with
          | false => rfl
          | true => cases hran.symm.trans (hrc hcompleted)
        simp [AttemptRecord.wasCut, AttemptRecord.isRunning, hran, hcompleted]
      | true =>
        cases hcompleted : record.completed with
        | true => simp [AttemptRecord.wasCut, AttemptRecord.isRunning, hcompleted]
        | false =>
          cases hclosing : record.closing with
          | none =>
            simp [AttemptRecord.wasCut, AttemptRecord.isRunning, AttemptRecord.wasDropped,
              AttemptRecord.isOpen, hran, hcompleted, hclosing]
          | some closing =>
            cases closing with
            | dropped =>
              simp [AttemptRecord.wasCut, AttemptRecord.isRunning, AttemptRecord.wasDropped,
                AttemptRecord.isOpen, hran, hcompleted, hclosing]
            | answered shown => cases hcompleted.symm.trans (hra shown hclosing hran)
    simp only [List.countP_cons]
    omega

theorem started_count (hi : b.Invariant) :
    b.link.started = b.records.countP AttemptRecord.wasCut +
      if (∃ record ∈ b.records, record.isRunning = true) ∨ b.link.outcome ≠ none then 1 else 0 := by
  have hparts := ran_partition (fun r hr hc => (hi.completed r hr hc).1)
    fun r hr shown hs => (hi.answered r hr shown hs).1
  have hone := running_le_one hi
  rw [hi.started, hparts, hi.once, Nat.add_assoc]
  congr 1
  by_cases hrun : ∃ record ∈ b.records, record.isRunning = true
  · obtain ⟨record, hr, hrunning⟩ := hrun
    have hpos := List.countP_pos_iff.mpr ⟨record, hr, hrunning⟩
    have hunset := unset_of_running hi hr hrunning
    rw [if_pos (Or.inl ⟨record, hr, hrunning⟩), hunset]
    simp
    omega
  · have hzero : b.records.countP AttemptRecord.isRunning = 0 := by
      rw [List.countP_eq_zero]
      intro record hr hrunning
      exact hrun ⟨record, hr, hrunning⟩
    rw [hzero]
    cases ho : b.link.outcome with
    | none => rw [if_neg (by simpa using hrun)]; rfl
    | some outcome => rw [if_pos (Or.inr (by simp))]; rfl

/-! ## Whose turn it is -/

theorem getElem_changed {ρ : Type} {rb ra : List ρ} {x y r : ρ}
    (h : (rb ++ y :: ra)[i]? = some r) :
    (i = rb.length ∧ r = y) ∨ (rb ++ x :: ra)[i]? = some r := by
  rcases Nat.lt_trichotomy i rb.length with hlt | rfl | hgt
  · right
    rwa [List.getElem?_append_left hlt] at h ⊢
  · left
    simpa using h.symm
  · right
    obtain ⟨k, rfl⟩ := Nat.exists_eq_add_of_lt hgt
    rw [List.getElem?_append_right (by omega)] at h ⊢
    simpa [Nat.add_assoc] using h

/-- A look sets an attempt running only if nothing before it is open. -/
theorem clear_of_look (hl : b.Look key b') (hr : b'.records[i]? = some record)
    (hran : record.ran = true) (hold : ∀ old, b.records[i]? = some old → old.ran = false) :
    b.ClearBefore i := by
  have unchanged : b.records[i]? = some record → b.ClearBefore i := by
    intro hsame
    cases (hold record hsame).symm.trans hran
  have first : ∀ {a old changed pa rb ra}, b.Focus a old [] pa rb ra →
      (rb ++ changed :: ra)[i]? = some record → b.ClearBefore i := by
    intro a old changed pa rb ra f h
    rcases getElem_changed (x := old) h with ⟨rfl, -⟩ | hsame
    · intro j earlier hj he
      rw [f.records, List.getElem?_append_left hj] at he
      exact f.closed_before earlier (List.mem_of_getElem? he)
    · exact unchanged (f.records ▸ hsame)
  cases hl with
  | @answer a old pb pa rb ra f outcome settled =>
    rcases getElem_changed (x := old) hr with ⟨rfl, rfl⟩ | hsame
    · have hat : b.records[rb.length]? = some old := by simp [f.records]
      cases (hold old hat).symm.trans hran
    · exact unchanged (f.records ▸ hsame)
  | wait => exact unchanged hr
  | hold f => exact first f hr
  | complete f => exact first f hr

theorem clear_of_starts (hi : b.Invariant) {event : LinkEvent α} (hs : b.Starts event i) :
    b.ClearBefore i := by
  obtain ⟨⟨record, hr, hran⟩, hold⟩ := hs
  have unchanged : b.records[i]? = some record → b.ClearBefore i := by
    intro hsame
    cases (hold record hsame).symm.trans hran
  cases event with
  | attempt key ending held =>
    cases h : b.link.alive key with
    | true =>
      rw [next_attempt_in_use h] at hr
      exact unchanged hr
    | false =>
      rw [next_attempt h] at hr
      have hl := look_is (invariant_arrived hi h ending held) (arrived_mem b key ending held)
      have hclear := clear_of_look hl hr hran ?_
      · intro j earlier hj he
        obtain ⟨hlt, -⟩ := List.getElem?_eq_some_iff.mp he
        refine hclear j earlier hj ?_
        simpa only [arrive, List.getElem?_append_left hlt] using he
      · intro old ho
        rcases List.mem_append.mp (List.mem_of_getElem? ho) with hm | hm
        · by_cases hlt : i < b.records.length
          · rw [arrive, List.getElem?_append_left hlt] at ho
            exact hold old ho
          · rw [arrive, List.getElem?_append_right (Nat.le_of_not_lt hlt)] at ho
            obtain rfl := List.mem_singleton.mp (List.mem_of_getElem? ho)
            rfl
        · obtain rfl := List.mem_singleton.mp hm
          rfl
  | release key => exact unchanged hr
  | poll key =>
    cases h : b.link.alive key with
    | true =>
      rw [next_poll h] at hr
      exact clear_of_look (look_is hi (Link.alive_iff.mp h)) hr hran hold
    | false =>
      rw [next_poll_unknown hi h] at hr
      exact unchanged hr
  | drop key =>
    simp only [next, note, amend, List.getElem?_map] at hr
    obtain ⟨old, ho, hchanged⟩ := Option.map_eq_some_iff.mp hr
    have hsame : record.ran = old.ran := by
      rw [← hchanged]
      split <;> rfl
    cases (hold old ho).symm.trans (hsame.symm.trans hran)

end Logbook

/-- The link waits for the attempt under a key to be looked at, which will set it running. -/
structure Link.Awaits {α : Type} (l : Link α) (key : Nat) : Prop where
  unset : l.outcome = none
  first : ∃ first rest, l.attempts = first :: rest ∧ first.key = key ∧ first.running = false

namespace Link.Awaits

variable {α : Type} {l : Link α} {key : Nat}

theorem alive (h : l.Awaits key) : l.alive key = true := by
  obtain ⟨first, rest, hs, rfl, -⟩ := h.first
  rw [alive_iff, hs]
  exact List.mem_cons_self

theorem look_started (h : l.Awaits key) : (l.look key).1.started = l.started + 1 := by
  obtain ⟨first, rest, hs, rfl, hrunning⟩ := h.first
  rw [look_first h.unset hs]
  cases hheld : first.held with
  | true => simp [advance_held hheld, hrunning]
  | false => simp [advance_free hheld, hrunning]

theorem look_other {k : Nat} (h : l.Awaits key) (hne : key ≠ k) : l.look k = (l, .pending) := by
  obtain ⟨first, rest, hs, rfl, -⟩ := h.first
  exact look_waiting h.unset hs hne

/-- It goes on waiting and sets nothing else running until that attempt is looked at or dropped. -/
theorem next (h : l.Awaits key) {event : LinkEvent α} (hc : ¬ event.concerns key) :
    (l.next event).1.Awaits key ∧ (l.next event).1.started = l.started := by
  obtain ⟨first, rest, hs, hfirst, hrunning⟩ := h.first
  cases event with
  | attempt k ending held =>
    cases ha : l.alive k with
    | true =>
      rw [next_attempt_in_use ha]
      exact ⟨h, rfl⟩
    | false =>
      have hne : key ≠ k := by
        rintro rfl
        cases h.alive.symm.trans ha
      have harrive : (l.arrive k ending held).Awaits key :=
        ⟨h.unset, first, rest ++ [⟨k, ending, held, false⟩], by simp [hs], hfirst, hrunning⟩
      rw [next_attempt ha, harrive.look_other hne]
      exact ⟨harrive, rfl⟩
  | release k =>
    refine ⟨⟨h.unset, ?_⟩, rfl⟩
    simp only [Link.next, hs, List.map_cons]
    refine ⟨_, _, rfl, ?_, ?_⟩
    · split
      · exact hfirst
      · exact hfirst
    · split
      · exact hrunning
      · exact hrunning
  | poll k =>
    have hne : key ≠ k := fun he => hc he.symm
    cases ha : l.alive k with
    | true =>
      rw [next_poll ha, h.look_other hne]
      exact ⟨h, rfl⟩
    | false =>
      rw [next_poll_unknown ha]
      exact ⟨h, rfl⟩
  | drop k =>
    have hne : first.key ≠ k := fun he => hc (he.symm.trans hfirst)
    refine ⟨⟨h.unset, first, rest.filter (·.key != k), ?_, hfirst, hrunning⟩, rfl⟩
    simp [Link.next, remove, hs, hne]

end Link.Awaits

namespace Logbook

variable {α : Type} {b : Logbook α} {key i : Nat} {record : AttemptRecord α}

theorem getElem_amend_other {records : List (AttemptRecord α)} (hr : records[i]? = some record)
    (hne : record.key ≠ key) (change : AttemptRecord α → AttemptRecord α) :
    (amend records key change)[i]? = some record := by
  simp [amend, hr, hne]

/-- A record stays as it is where the event is of another attempt. -/
theorem getElem_next (hr : b.records[i]? = some record) (ha : b.link.alive record.key = true)
    {event : LinkEvent α} (hc : ¬ event.concerns record.key) :
    (b.next event).records[i]? = some record := by
  cases event with
  | attempt k ending held =>
    cases hk : b.link.alive k with
    | true =>
      rw [next_attempt_in_use hk]
      exact hr
    | false =>
      have hne : record.key ≠ k := by
        rintro rfl
        cases ha.symm.trans hk
      obtain ⟨hlt, -⟩ := List.getElem?_eq_some_iff.mp hr
      rw [next_attempt hk]
      refine getElem_amend_other ?_ hne _
      simpa only [arrive, List.getElem?_append_left hlt] using hr
  | release k => exact hr
  | poll k => exact getElem_amend_other hr (fun he => hc he.symm) _
  | drop k => exact getElem_amend_other hr (fun he => hc he.symm) _

theorem awaits_run {events : List (LinkEvent α)} (hr : b.records[i]? = some record)
    (ha : b.link.Awaits record.key) (hc : ∀ event ∈ events, ¬ event.concerns record.key) :
    (b.run events).link.Awaits record.key ∧ (b.run events).records[i]? = some record := by
  induction events generalizing b with
  | nil => exact ⟨ha, hr⟩
  | cons event events ih =>
    have hevent := hc event List.mem_cons_self
    exact ih (getElem_next hr ha.alive hevent) (ha.next hevent).1
      fun e he => hc e (List.mem_cons_of_mem _ he)

/-- The attempt that a link awaits is set running by a look at it. -/
theorem ran_of_look (ha : b.link.Awaits record.key) (hr : b.records[i]? = some record)
    (ho : record.isOpen = true) :
    ∃ changed, (b.look record.key).records[i]? = some changed ∧ changed.ran = true := by
  refine ⟨record.look b.link (b.link.look record.key).1 (b.link.look record.key).2, ?_, ?_⟩
  · simp [look, amend, hr, ho]
  · simp [AttemptRecord.look, ha.look_started]

theorem awaits_of_clear (hi : b.Invariant) (hunset : b.link.outcome = none)
    (hidle : record.isRunning = false) (hr : b.records[i]? = some record)
    (ho : record.isOpen = true) (hclear : b.ClearBefore i) :
    b.link.Awaits record.key ∧ record.ran = false := by
  obtain ⟨hlt, hat⟩ := List.getElem?_eq_some_iff.mp hr
  have hran : record.ran = false := by
    obtain ⟨hcompleted, -⟩ := open_of_unset hi hunset record (List.mem_of_getElem? hr)
    simpa [AttemptRecord.isRunning, hcompleted, ho] using hidle
  have hsplit : b.records = b.records.take i ++ record :: b.records.drop (i + 1) := by
    rw [← hat, ← List.drop_eq_getElem_cons hlt, List.take_append_drop]
  have hnone : (b.records.take i).filter AttemptRecord.isOpen = [] := by
    rw [List.filter_eq_nil_iff]
    intro earlier he
    obtain ⟨j, hj⟩ := List.mem_iff_getElem?.mp he
    have hji : j < i := by
      obtain ⟨hj', -⟩ := List.getElem?_eq_some_iff.mp hj
      simp at hj'
      omega
    rw [List.getElem?_take_of_lt hji] at hj
    simp [hclear j earlier hji hj]
  have hheld := hi.held
  rw [hsplit, List.filter_append, hnone, List.nil_append, List.filter_cons_of_pos ho,
    List.map_cons] at hheld
  obtain ⟨first, rest, hs, hstanding, -⟩ := List.map_eq_cons_iff.mp hheld
  refine ⟨⟨hunset, first, rest, hs, congrArg Prod.fst hstanding, ?_⟩, hran⟩
  exact (congrArg (fun s => s.2.2) hstanding).trans hran

theorem starts_of_poll (hi : b.Invariant) (hunset : b.link.outcome = none)
    (hidle : ∀ record ∈ b.records, record.isRunning = false) (hr : b.records[i]? = some record)
    (ho : record.isOpen = true) (hclear : b.ClearBefore i) {between : List (LinkEvent α)}
    (hc : ∀ event ∈ between, ¬ event.concerns record.key) :
    (b.run between).Starts (.poll record.key) i := by
  obtain ⟨ha, hran⟩ :=
    awaits_of_clear hi hunset (hidle record (List.mem_of_getElem? hr)) hr ho hclear
  obtain ⟨ha', hr'⟩ := awaits_run hr ha hc
  constructor
  · rw [next_poll ha'.alive]
    exact ran_of_look ha' hr' ho
  · intro old hold
    obtain rfl := Option.some.inj (hr'.symm.trans hold)
    exact hran

theorem starts_of_attempt (hi : b.Invariant) (hunset : b.link.outcome = none)
    (hclosed : ∀ record ∈ b.records, record.isOpen = false) (key : Nat)
    (ending : Except String α) (held : Bool) :
    b.Starts (.attempt key ending held) b.records.length := by
  have hnone : b.link.attempts = [] := by
    have hheld := hi.held
    rw [List.filter_eq_nil_iff.mpr fun r hr => by simp [hclosed r hr]] at hheld
    simpa using hheld
  have hdead : b.link.alive key = false := by simp [Link.alive, hnone]
  have ha : (b.arrive key ending held).link.Awaits key :=
    ⟨hunset, ⟨key, ending, held, false⟩, [], by simp [arrive, hnone], rfl, rfl⟩
  have hr : (b.arrive key ending held).records[b.records.length]? =
      some (.arrived key ending) := by
    simp [arrive]
  constructor
  · rw [next_attempt hdead]
    exact ran_of_look ha hr rfl
  · intro old hold
    simp at hold

/-- After any events: at most one attempt runs; those started are those dropped while running, and
one more if one is running or the link is settled, after which none is started. Dropping settles
nothing. No attempt is started while an earlier one is still there. While the link is not settled
and none runs, the earliest one left is started when it is looked at next, whatever happens before,
and a new one is at once if there is none. -/
theorem attempts_take_turns (events : List (LinkEvent α)) :
    let b := of events
    b.link = Link.initial.run events ∧ b.link.started = b.records.countP (·.ran) ∧
    b.records.countP AttemptRecord.isRunning ≤ 1 ∧
    (b.link.started = b.records.countP AttemptRecord.wasCut +
      if (∃ record ∈ b.records, record.isRunning = true) ∨ b.link.outcome ≠ none then 1 else 0) ∧
    (b.link.outcome ≠ none → ∀ further, (b.link.run further).started = b.link.started) ∧
    (b.link.outcome = none → ∀ key, (b.link.next (.drop key)).1.outcome = none) ∧
    (∀ event i, b.Starts event i → b.ClearBefore i) ∧
    (b.link.outcome = none → (∀ record ∈ b.records, record.isRunning = false) →
      (∀ i record, b.records[i]? = some record → record.isOpen = true → b.ClearBefore i →
        ∀ between, (∀ event ∈ between, ¬ event.concerns record.key) →
          (b.run between).Starts (.poll record.key) i) ∧
      ((∀ record ∈ b.records, record.isOpen = false) →
        ∀ key ending held, b.Starts (.attempt key ending held) b.records.length)) := by
  intro b
  have hi : b.Invariant := invariant_of events
  refine ⟨link_of events, hi.started, running_le_one hi, started_count hi, ?_, ?_, ?_, ?_⟩
  · intro hset further
    obtain ⟨outcome, ho⟩ := Option.ne_none_iff_exists'.mp hset
    exact (Link.settled_run ho further).2
  · intro hunset key
    exact hunset
  · intro event i hs
    exact clear_of_starts hi hs
  · intro hunset hidle
    refine ⟨?_, ?_⟩
    · intro i record hr ho hclear between hc
      exact starts_of_poll hi hunset hidle hr ho hclear hc
    · intro hclosed key ending held
      exact starts_of_attempt hi hunset hclosed key ending held

/-- The attempt that runs is dropped while another waits, whose turn it is then. -/
theorem attempts_take_turns_sample :
    (of [.attempt 0 (.ok 7) true, .attempt 1 (.error "no service") true, .drop 0]).Starts
      (.poll 1) 1 := by
  obtain ⟨-, -, -, -, -, -, -, hturn⟩ :=
    attempts_take_turns [.attempt 0 (.ok 7) true, .attempt 1 (.error "no service") true, .drop 0]
  obtain ⟨hwaiting, -⟩ := hturn rfl (by decide)
  refine hwaiting 1 _ rfl rfl ?_ [] (fun _ h => absurd h List.not_mem_nil)
  intro j earlier hj he
  obtain rfl : j = 0 := by omega
  obtain rfl := Option.some.inj he
  rfl

end Logbook

end PriorityPortal
