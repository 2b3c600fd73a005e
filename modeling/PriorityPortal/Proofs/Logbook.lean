import PriorityPortal.Link
import PriorityPortal.Proofs.OpenRecords
/-!
# What is on record of the attempts at a link

An observer keeps a record of each attempt from the events and what they show alone. An attempt is
set running where the count of those started grows, and has run to its end where the link is
settled; either is the doing of the attempt that is looked at. The open records are those of the
attempts that the link holds, and an attempt is only ever set running when no earlier one is open.
-/
namespace PriorityPortal

inductive Closing (α : Type) where
  | answered (shown : Option α)
  | dropped
  deriving Repr

def Closing.ofSeen? {α : Type} : Seen (Option α) → Option (Closing α)
  | .done shown => some (.answered shown)
  | _ => none

structure AttemptRecord (α : Type) where
  key : Nat
  ending : Except String α
  /-- Whether it has been set running. -/
  ran : Bool
  /-- Whether it has run to its end. -/
  completed : Bool
  closing : Option (Closing α)
  deriving Repr

section

variable {α : Type}

namespace AttemptRecord

def arrived (key : Nat) (ending : Except String α) : AttemptRecord α :=
  ⟨key, ending, false, false, none⟩

def isOpen (record : AttemptRecord α) : Bool := record.closing.isNone

def wasDropped (record : AttemptRecord α) : Bool :=
  match record.closing with
  | some .dropped => true
  | _ => false

/-- It has been started, and neither finished nor dropped since. -/
def isRunning (record : AttemptRecord α) : Bool :=
  record.ran && !record.completed && record.isOpen

def wasCut (record : AttemptRecord α) : Bool :=
  record.ran && !record.completed && record.wasDropped

def look (record : AttemptRecord α) (before after : Link α) (seen : Seen (Option α)) :
    AttemptRecord α :=
  { record with
    ran := record.ran || decide (before.started < after.started)
    completed := record.completed || (before.outcome.isNone && after.outcome.isSome)
    closing := Closing.ofSeen? seen }

def close (record : AttemptRecord α) (closing : Closing α) : AttemptRecord α :=
  { record with closing := some closing }

def standing (record : AttemptRecord α) : Nat × Except String α × Bool :=
  (record.key, record.ending, record.ran)

end AttemptRecord

def Attempt.standing (a : Attempt α) : Nat × Except String α × Bool := (a.key, a.ending, a.running)

end

/-- A link under observation. -/
structure Logbook (α : Type) where
  link : Link α
  /-- In order of arrival. -/
  records : List (AttemptRecord α)

namespace Logbook

variable {α : Type}

def amend (records : List (AttemptRecord α)) (key : Nat)
    (change : AttemptRecord α → AttemptRecord α) : List (AttemptRecord α) :=
  records.map fun record => if record.key = key ∧ record.isOpen then change record else record

def note (records : List (AttemptRecord α)) (before after : Link α) (seen : Seen (Option α)) :
    LinkEvent α → List (AttemptRecord α)
  | .attempt key ending _ =>
    if before.alive key then records
    else amend (records ++ [.arrived key ending]) key fun record => record.look before after seen
  | .release _ => records
  | .poll key => amend records key fun record => record.look before after seen
  | .drop key => amend records key fun record => record.close .dropped

def next (b : Logbook α) (event : LinkEvent α) : Logbook α :=
  let step := b.link.next event
  ⟨step.1, note b.records b.link step.1 step.2 event⟩

def run (b : Logbook α) (events : List (LinkEvent α)) : Logbook α := events.foldl next b

def of (events : List (LinkEvent α)) : Logbook α := run ⟨.initial, []⟩ events

theorem link_run (events : List (LinkEvent α)) :
    ∀ b : Logbook α, (b.run events).link = b.link.run events := by
  induction events with
  | nil => exact fun _ => rfl
  | cons event events ih => exact fun b => ih (b.next event)

theorem link_of (events : List (LinkEvent α)) : (of events).link = Link.initial.run events :=
  link_run events _

end Logbook

namespace Link

variable {α : Type} {l : Link α} {key : Nat} {first : Attempt α} {rest : List (Attempt α)}
  {outcome : Except String α}

def arrive (l : Link α) (key : Nat) (ending : Except String α) (held : Bool) : Link α :=
  { l with attempts := l.attempts ++ [⟨key, ending, held, false⟩] }

@[simp] theorem arrive_attempts (l : Link α) (key : Nat) (ending : Except String α) (held : Bool) :
    (l.arrive key ending held).attempts = l.attempts ++ [⟨key, ending, held, false⟩] := rfl

@[simp] theorem arrive_outcome (l : Link α) (key : Nat) (ending : Except String α) (held : Bool) :
    (l.arrive key ending held).outcome = l.outcome := rfl

@[simp] theorem arrive_started (l : Link α) (key : Nat) (ending : Except String α) (held : Bool) :
    (l.arrive key ending held).started = l.started := rfl

theorem alive_iff : l.alive key = true ↔ key ∈ l.attempts.map (·.key) := by
  simp [alive]

theorem next_attempt_in_use (h : l.alive key = true) (ending : Except String α) (held : Bool) :
    l.next (.attempt key ending held) = (l, .nothing) := by
  simp only [next, h, if_pos]

theorem next_attempt (h : l.alive key = false) (ending : Except String α) (held : Bool) :
    l.next (.attempt key ending held) = (l.arrive key ending held).look key := by
  simp [next, h, arrive]

theorem next_poll (h : l.alive key = true) : l.next (.poll key) = l.look key := by
  simp only [next, h, if_pos]

theorem next_poll_unknown (h : l.alive key = false) : l.next (.poll key) = (l, .nothing) := by
  simp [next, h]

theorem look_settled (h : l.outcome = some outcome) (key : Nat) :
    l.look key = (l.remove key, .done outcome.toOption) := by
  simp only [look, h]

theorem look_first (h : l.outcome = none) (hf : l.attempts = first :: rest) :
    l.look first.key = l.advance first rest := by
  simp only [look, h, hf, if_pos]

theorem look_waiting (h : l.outcome = none) (hf : l.attempts = first :: rest)
    (hne : first.key ≠ key) : l.look key = (l, .pending) := by
  simp only [look, h, hf, if_neg hne]

theorem look_none (h : l.outcome = none) (hf : l.attempts = []) : l.look key = (l, .pending) := by
  simp only [look, h, hf]

theorem advance_held (h : first.held = true) (rest : List (Attempt α)) :
    l.advance first rest =
      (⟨l.outcome, { first with running := true } :: rest,
        if first.running then l.started else l.started + 1⟩, .pending) := by
  simp only [advance, h, if_pos]

theorem advance_free (h : first.held = false) (rest : List (Attempt α)) :
    l.advance first rest =
      (⟨some first.ending, rest, if first.running then l.started else l.started + 1⟩,
        .done first.ending.toOption) := by
  simp [advance, h]

/-- A settled link stays as it is, and nothing is started any more. -/
theorem settled_next (h : l.outcome = some outcome) (event : LinkEvent α) :
    (l.next event).1.outcome = some outcome ∧ (l.next event).1.started = l.started := by
  cases event with
  | attempt key ending held =>
    cases ha : l.alive key with
    | true =>
      rw [next_attempt_in_use ha]
      exact ⟨h, rfl⟩
    | false =>
      have hs : (l.arrive key ending held).outcome = some outcome := h
      rw [next_attempt ha, look_settled hs]
      exact ⟨h, rfl⟩
  | release key => exact ⟨h, rfl⟩
  | poll key =>
    cases ha : l.alive key with
    | true =>
      rw [next_poll ha, look_settled h]
      exact ⟨h, rfl⟩
    | false =>
      rw [next_poll_unknown ha]
      exact ⟨h, rfl⟩
  | drop key => exact ⟨h, rfl⟩

theorem settled_run (h : l.outcome = some outcome) (events : List (LinkEvent α)) :
    (l.run events).outcome = some outcome ∧ (l.run events).started = l.started := by
  induction events generalizing l with
  | nil => exact ⟨h, rfl⟩
  | cons event events ih =>
    obtain ⟨houtcome, hstarted⟩ := settled_next h event
    obtain ⟨hrun, hruns⟩ := ih houtcome
    exact ⟨hrun, hruns.trans hstarted⟩

end Link

namespace Logbook

variable {α : Type}

structure Invariant (b : Logbook α) : Prop where
  distinct : (b.link.attempts.map (·.key)).Nodup
  held : b.link.attempts.map Attempt.standing =
    (b.records.filter AttemptRecord.isOpen).map AttemptRecord.standing
  /-- Only the first attempt runs. -/
  waiting : ∀ a ∈ b.link.attempts.tail, a.running = false
  settled : b.link.outcome ≠ none → ∀ a ∈ b.link.attempts, a.running = false
  started : b.link.started = b.records.countP (·.ran)
  once : b.records.countP (·.completed) = b.link.outcome.toList.length
  completed : ∀ record ∈ b.records, record.completed = true → record.ran = true ∧
    record.closing = some (.answered record.ending.toOption) ∧
    b.link.outcome = some record.ending
  answered : ∀ record ∈ b.records, ∀ shown, record.closing = some (.answered shown) →
    (record.ran = true → record.completed = true) ∧
    ∃ outcome, b.link.outcome = some outcome ∧ shown = outcome.toOption
  /-- Whatever has been started, nothing before it is open. -/
  order : b.records.Pairwise fun earlier later => later.ran = true → earlier.isOpen = false

/-- An attempt at the link and its record, with what stands before and after them. -/
structure Focus (b : Logbook α) (a : Attempt α) (record : AttemptRecord α)
    (pb pa : List (Attempt α)) (rb ra : List (AttemptRecord α)) : Prop where
  attempts : b.link.attempts = pb ++ a :: pa
  records : b.records = rb ++ record :: ra
  isOpen : record.isOpen = true
  standing : record.standing = a.standing
  before : pb.map Attempt.standing =
    (rb.filter AttemptRecord.isOpen).map AttemptRecord.standing
  after : pa.map Attempt.standing =
    (ra.filter AttemptRecord.isOpen).map AttemptRecord.standing
  alone_before : a.key ∉ pb.map (·.key)
  alone_after : a.key ∉ pa.map (·.key)

variable {b : Logbook α} {a : Attempt α} {record : AttemptRecord α} {pb pa : List (Attempt α)}
  {rb ra : List (AttemptRecord α)} {key : Nat}

theorem focus_exists (hi : b.Invariant) (hs : b.link.attempts = pb ++ a :: pa) :
    ∃ record rb ra, b.Focus a record pb pa rb ra := by
  have hheld := hi.held
  rw [hs] at hheld
  obtain ⟨record, rb, ra, hrecords, hopen, hstanding, hbefore, hafter⟩ := split_standing hheld
  have hdistinct := hi.distinct
  rw [hs] at hdistinct
  obtain ⟨hbefore_alone, hafter_alone⟩ := absent_of_distinct hdistinct
  exact ⟨record, rb, ra, hs, hrecords, hopen, hstanding, hbefore, hafter, hbefore_alone,
    hafter_alone⟩

theorem keys_of_open {as : List (Attempt α)} {rs : List (AttemptRecord α)}
    (h : as.map Attempt.standing =
      (rs.filter AttemptRecord.isOpen).map AttemptRecord.standing) :
    (rs.filter AttemptRecord.isOpen).map AttemptRecord.key = as.map (·.key) :=
  keys_of_standing h

theorem amend_of_absent {rs : List (AttemptRecord α)}
    (h : key ∉ (rs.filter AttemptRecord.isOpen).map AttemptRecord.key)
    (change : AttemptRecord α → AttemptRecord α) : amend rs key change = rs :=
  map_change_none (closed_of_absent h)

namespace Focus

theorem key_eq (f : b.Focus a record pb pa rb ra) : record.key = a.key :=
  congrArg Prod.fst f.standing

theorem ending (f : b.Focus a record pb pa rb ra) : record.ending = a.ending :=
  congrArg (fun s => s.2.1) f.standing

theorem ran (f : b.Focus a record pb pa rb ra) : record.ran = a.running :=
  congrArg (fun s => s.2.2) f.standing

theorem closing (f : b.Focus a record pb pa rb ra) : record.closing = none :=
  Option.isNone_iff_eq_none.mp f.isOpen

theorem amend_eq (f : b.Focus a record pb pa rb ra)
    (change : AttemptRecord α → AttemptRecord α) :
    amend b.records a.key change = rb ++ change record :: ra := by
  rw [f.records]
  refine map_change_one ⟨f.key_eq, f.isOpen⟩ ?_ ?_
  · apply closed_of_absent
    rw [keys_of_open f.before]
    exact f.alone_before
  · apply closed_of_absent
    rw [keys_of_open f.after]
    exact f.alone_after

theorem remove_attempts (f : b.Focus a record pb pa rb ra) :
    (b.link.remove a.key).attempts = pb ++ pa := by
  simp only [Link.remove, f.attempts]
  exact filter_one f.alone_before f.alone_after

theorem mem (f : b.Focus a record pb pa rb ra) : record ∈ b.records := by
  simp [f.records]

/-- Nothing is open before the first attempt's record. -/
theorem closed_before (f : b.Focus a record [] pa rb ra) : ∀ r ∈ rb, r.isOpen = false := by
  have hnone : rb.filter AttemptRecord.isOpen = [] := by
    have hb := f.before
    simpa using hb.symm
  intro r hr
  have hn := List.filter_eq_nil_iff.mp hnone r hr
  simpa using hn

theorem mem_other (f : b.Focus a record pb pa rb ra) {changed r : AttemptRecord α}
    (hr : r ∈ rb ++ changed :: ra) : r ∈ b.records ∨ r = changed := by
  rw [f.records]
  simp only [List.mem_append, List.mem_cons] at hr ⊢
  rcases hr with hr | rfl | hr
  · exact Or.inl (Or.inl hr)
  · exact Or.inr rfl
  · exact Or.inl (Or.inr (Or.inr hr))

/-- A record may change in place, if nothing before it is open or it has not been started. -/
theorem order_changed (hi : b.Invariant) (f : b.Focus a record pb pa rb ra)
    {changed : AttemptRecord α}
    (hc : changed.ran = true → ∀ r ∈ rb, r.isOpen = false) :
    (rb ++ changed :: ra).Pairwise fun earlier later =>
      later.ran = true → earlier.isOpen = false := by
  have ho := hi.order
  rw [f.records, List.pairwise_append, List.pairwise_cons] at ho
  obtain ⟨hb, ⟨hafter, ha⟩, hcross⟩ := ho
  rw [List.pairwise_append, List.pairwise_cons]
  refine ⟨hb, ⟨?_, ha⟩, ?_⟩
  · intro later hl hran
    -- The record was open, so nothing after it has been started.
    have hclosed := hafter later hl hran
    rw [f.isOpen] at hclosed
    cases hclosed
  · intro earlier he later hl hran
    rcases List.mem_cons.mp hl with rfl | hl
    · exact hc hran earlier he
    · exact hcross earlier he later (List.mem_cons_of_mem _ hl) hran

end Focus

theorem invariant_initial : Invariant (⟨.initial, []⟩ : Logbook α) := by
  constructor <;> simp [Link.initial]

theorem invariant_arrive (hi : b.Invariant) (hk : key ∉ b.link.attempts.map (·.key))
    (ending : Except String α) (held : Bool) :
    Invariant ⟨b.link.arrive key ending held, b.records ++ [.arrived key ending]⟩ := by
  constructor
  · simpa [List.nodup_append, hi.distinct] using hk
  · simp [hi.held, List.filter_cons, AttemptRecord.arrived, AttemptRecord.isOpen,
      AttemptRecord.standing, Attempt.standing]
  · intro a ha
    cases hl : b.link.attempts with
    | nil => simp [hl] at ha
    | cons first rest =>
      have hw := hi.waiting
      simp only [Link.arrive_attempts, hl, List.cons_append, List.tail_cons, List.mem_append,
        List.mem_singleton] at ha hw
      rcases ha with ha | rfl
      · exact hw a ha
      · rfl
  · intro ho a ha
    rcases List.mem_append.mp ha with ha | ha
    · exact hi.settled ho a ha
    · obtain rfl := List.mem_singleton.mp ha
      rfl
  · simp [hi.started, AttemptRecord.arrived]
  · simp [hi.once, AttemptRecord.arrived]
  · intro record hr hc
    rcases List.mem_append.mp hr with hr | hr
    · exact hi.completed record hr hc
    · obtain rfl := List.mem_singleton.mp hr
      cases hc
  · intro record hr shown hs
    rcases List.mem_append.mp hr with hr | hr
    · exact hi.answered record hr shown hs
    · obtain rfl := List.mem_singleton.mp hr
      cases hs
  · rw [List.pairwise_append]
    refine ⟨hi.order, List.pairwise_singleton _ _, ?_⟩
    intro earlier he later hl hran
    obtain rfl := List.mem_singleton.mp hl
    cases hran

/-- An attempt that goes without having run to its end: it is dropped, or given the outcome that
the link has already. -/
theorem invariant_close (hi : b.Invariant) (f : b.Focus a record pb pa rb ra)
    {closing : Closing α} (hc : closing = .dropped ∨
      ∃ outcome, b.link.outcome = some outcome ∧ closing = .answered outcome.toOption) :
    Invariant ⟨b.link.remove a.key, rb ++ record.close closing :: ra⟩ := by
  have hattempts := f.remove_attempts
  have hsub : (pb ++ pa).Sublist b.link.attempts := by
    rw [f.attempts]
    exact (List.sublist_cons_self a pa).append_left pb
  have hnot : record.completed = false := by
    cases h : record.completed with
    | false => rfl
    | true =>
      obtain ⟨-, hclosing, -⟩ := hi.completed record f.mem h
      cases f.closing.symm.trans hclosing
  constructor
  · rw [hattempts]
    exact hi.distinct.sublist (hsub.map _)
  · rw [hattempts]
    simp [f.before, f.after, AttemptRecord.isOpen, AttemptRecord.close]
  · rw [hattempts]
    intro c hm
    apply hi.waiting
    rw [f.attempts]
    cases pb with
    | nil => exact List.mem_of_mem_tail hm
    | cons first pb =>
      simp only [List.cons_append, List.tail_cons, List.mem_append, List.mem_cons] at hm ⊢
      rcases hm with hm | hm
      · exact Or.inl hm
      · exact Or.inr (Or.inr hm)
  · rw [hattempts]
    intro ho c hm
    exact hi.settled ho c (hsub.subset hm)
  · have hs := hi.started
    rw [f.records] at hs
    simpa [List.countP_cons, AttemptRecord.close, Link.remove] using hs
  · have hn := hi.once
    rw [f.records] at hn
    simpa [List.countP_cons, AttemptRecord.close, Link.remove] using hn
  · intro r hr hcompleted
    rcases f.mem_other hr with hr | rfl
    · exact hi.completed r hr hcompleted
    · cases hnot.symm.trans hcompleted
  · intro r hr shown hshown
    rcases f.mem_other hr with hr | rfl
    · exact hi.answered r hr shown hshown
    · obtain rfl : closing = .answered shown := Option.some.inj hshown
      rcases hc with hc | ⟨outcome, ho, hc⟩
      · cases hc
      · refine ⟨?_, outcome, ho, Closing.answered.inj hc⟩
        intro hran
        have hrunning : a.running = true := f.ran.symm.trans hran
        have hidle := hi.settled (by simp [ho]) a (by simp [f.attempts])
        cases hrunning.symm.trans hidle
  · refine f.order_changed hi ?_
    intro hran r hr
    have ho := hi.order
    rw [f.records, List.pairwise_append] at ho
    exact ho.2.2 r hr record List.mem_cons_self hran

/-- How many have been started once the first attempt runs. -/
theorem started_first (hi : b.Invariant) (f : b.Focus a record [] pa rb ra)
    {changed : AttemptRecord α} (hr : changed.ran = true) :
    (if a.running then b.link.started else b.link.started + 1) =
      (rb ++ changed :: ra).countP (·.ran) := by
  have hs := hi.started
  have hran := f.ran
  rw [f.records] at hs
  simp only [List.countP_append, List.countP_cons, hr, hran] at hs ⊢
  cases hrunning : a.running with
  | false =>
    simp [hrunning] at hs ⊢
    omega
  | true =>
    simp [hrunning] at hs ⊢
    omega

theorem invariant_hold (hi : b.Invariant) (f : b.Focus a record [] pa rb ra)
    (ho : b.link.outcome = none) :
    Invariant ⟨⟨b.link.outcome, { a with running := true } :: pa,
      if a.running then b.link.started else b.link.started + 1⟩,
      rb ++ { record with ran := true } :: ra⟩ := by
  have hwaiting : ∀ c ∈ pa, c.running = false := by
    have hw := hi.waiting
    rw [f.attempts] at hw
    exact hw
  have hnone := f.closing
  constructor
  · have hd := hi.distinct
    rw [f.attempts] at hd
    exact hd
  · have hb := f.before
    have hstanding := f.standing
    simp only [AttemptRecord.standing, Attempt.standing, Prod.mk.injEq] at hstanding
    simp [← hb, f.after, List.filter_cons, AttemptRecord.isOpen, hnone, AttemptRecord.standing,
      Attempt.standing, hstanding]
  · exact hwaiting
  · intro hsettled
    exact absurd ho hsettled
  · exact started_first hi f rfl
  · have hn := hi.once
    rw [f.records] at hn
    simpa [List.countP_cons] using hn
  · intro r hr hc
    rcases f.mem_other hr with hr | rfl
    · exact hi.completed r hr hc
    · obtain ⟨-, hclosing, -⟩ := hi.completed record f.mem hc
      cases hnone.symm.trans hclosing
  · intro r hr shown hs
    rcases f.mem_other hr with hr | rfl
    · exact hi.answered r hr shown hs
    · cases hnone.symm.trans hs
  · exact f.order_changed hi fun _ => f.closed_before

theorem invariant_complete (hi : b.Invariant) (f : b.Focus a record [] pa rb ra)
    (ho : b.link.outcome = none) :
    Invariant ⟨⟨some a.ending, pa, if a.running then b.link.started else b.link.started + 1⟩,
      rb ++ { record with
        ran := true
        completed := true
        closing := some (.answered a.ending.toOption) } :: ra⟩ := by
  have hwaiting : ∀ c ∈ pa, c.running = false := by
    have hw := hi.waiting
    rw [f.attempts] at hw
    exact hw
  have hzero : b.records.countP (·.completed) = 0 := by
    rw [hi.once, ho]
    rfl
  -- As long as the link is not settled nothing has completed and nothing has been answered.
  have hopen : ∀ r ∈ b.records, r.completed ≠ true := by
    simpa using hzero
  have hunanswered : ∀ r ∈ b.records, ∀ shown, r.closing ≠ some (.answered shown) := by
    intro r hr shown hs
    obtain ⟨-, outcome, hsome, -⟩ := hi.answered r hr shown hs
    cases ho.symm.trans hsome
  constructor
  · have hd := hi.distinct
    rw [f.attempts] at hd
    exact (List.nodup_cons.mp hd).2
  · have hb := f.before
    simp [← hb, f.after, AttemptRecord.isOpen]
  · intro c hc
    exact hwaiting c (List.mem_of_mem_tail hc)
  · exact fun _ => hwaiting
  · exact started_first hi f rfl
  · rw [f.records] at hzero
    simp only [List.countP_append, List.countP_cons] at hzero ⊢
    simp
    omega
  · intro r hr hc
    rcases f.mem_other hr with hr | rfl
    · exact absurd hc (hopen r hr)
    · exact ⟨rfl, by rw [f.ending], by rw [f.ending]⟩
  · intro r hr shown hs
    rcases f.mem_other hr with hr | rfl
    · exact absurd hs (hunanswered r hr shown)
    · obtain rfl := Closing.answered.inj (Option.some.inj hs)
      exact ⟨fun _ => rfl, a.ending, rfl, rfl⟩
  · exact f.order_changed hi fun _ => f.closed_before

theorem invariant_release (hi : b.Invariant) (key : Nat) :
    Invariant ⟨(b.link.next (.release key)).1, b.records⟩ := by
  have hsame : ∀ c : Attempt α,
      (if c.key = key then { c with held := false } else c).standing = c.standing := by
    intro c
    split <;> rfl
  have hheld : ((b.link.next (.release key)).1.attempts).map Attempt.standing =
      b.link.attempts.map Attempt.standing := by
    simp only [Link.next, List.map_map]
    exact List.map_congr_left fun c _ => hsame c
  have hkeys : ((b.link.next (.release key)).1.attempts).map (·.key) =
      b.link.attempts.map (·.key) := by
    have hk := congrArg (List.map Prod.fst) hheld
    simpa [List.map_map, Function.comp_def, Attempt.standing] using hk
  constructor
  · rw [hkeys]
    exact hi.distinct
  · rw [hheld]
    exact hi.held
  · intro c hc
    simp only [Link.next, ← List.map_tail] at hc
    obtain ⟨d, hd, rfl⟩ := List.mem_map.mp hc
    exact (congrArg (fun s => s.2.2) (hsame d)).trans (hi.waiting d hd)
  · intro ho c hc
    simp only [Link.next] at hc
    obtain ⟨d, hd, rfl⟩ := List.mem_map.mp hc
    exact (congrArg (fun s => s.2.2) (hsame d)).trans (hi.settled ho d hd)
  · exact hi.started
  · exact hi.once
  · exact hi.completed
  · exact hi.answered
  · exact hi.order

def look (b : Logbook α) (key : Nat) : Logbook α :=
  ⟨(b.link.look key).1, amend b.records key fun record =>
    record.look b.link (b.link.look key).1 (b.link.look key).2⟩

def arrive (b : Logbook α) (key : Nat) (ending : Except String α) (held : Bool) : Logbook α :=
  ⟨b.link.arrive key ending held, b.records ++ [.arrived key ending]⟩

inductive Look (b : Logbook α) : Nat → Logbook α → Prop where
  | answer {a : Attempt α} {record : AttemptRecord α} {pb pa : List (Attempt α)}
      {rb ra : List (AttemptRecord α)} (focus : b.Focus a record pb pa rb ra)
      (outcome : Except String α) (settled : b.link.outcome = some outcome) :
      Look b a.key
        ⟨b.link.remove a.key, rb ++ record.close (.answered outcome.toOption) :: ra⟩
  | wait {key : Nat} (first : Attempt α) (rest : List (Attempt α))
      (unset : b.link.outcome = none) (attempts : b.link.attempts = first :: rest)
      (behind : first.key ≠ key) : Look b key b
  | hold {a : Attempt α} {record : AttemptRecord α} {pa : List (Attempt α)}
      {rb ra : List (AttemptRecord α)} (focus : b.Focus a record [] pa rb ra)
      (unset : b.link.outcome = none) :
      Look b a.key
        ⟨⟨b.link.outcome, { a with running := true } :: pa,
          if a.running then b.link.started else b.link.started + 1⟩,
          rb ++ { record with ran := true } :: ra⟩
  | complete {a : Attempt α} {record : AttemptRecord α} {pa : List (Attempt α)}
      {rb ra : List (AttemptRecord α)} (focus : b.Focus a record [] pa rb ra)
      (unset : b.link.outcome = none) :
      Look b a.key
        ⟨⟨some a.ending, pa, if a.running then b.link.started else b.link.started + 1⟩,
          rb ++ { record with
            ran := true
            completed := true
            closing := some (.answered a.ending.toOption) } :: ra⟩

theorem ran_or_started (running : Bool) (n : Nat) :
    (running || decide (n < if running then n else n + 1)) = true := by
  cases running <;> simp

/-- Every look at an attempt is one of these. -/
theorem look_is (hi : b.Invariant) (hk : key ∈ b.link.attempts.map (·.key)) :
    b.Look key (b.look key) := by
  cases ho : b.link.outcome with
  | some outcome =>
    obtain ⟨a, ha, rfl⟩ := List.mem_map.mp hk
    obtain ⟨pb, pa, hs⟩ := List.append_of_mem ha
    obtain ⟨record, rb, ra, f⟩ := focus_exists hi hs
    have hrecord : record.look b.link (b.link.remove a.key) (.done outcome.toOption) =
        record.close (.answered outcome.toOption) := by
      simp [AttemptRecord.look, AttemptRecord.close, Link.remove, Closing.ofSeen?, ho]
    simp only [look, Link.look_settled ho, f.amend_eq, hrecord]
    exact .answer f outcome ho
  | none =>
    cases hs : b.link.attempts with
    | nil =>
      rw [hs] at hk
      cases hk
    | cons first rest =>
      by_cases hfirst : first.key = key
      · subst hfirst
        have hfront : b.link.attempts = [] ++ first :: rest := hs
        obtain ⟨record, rb, ra, f⟩ := focus_exists hi hfront
        have hran := ran_or_started record.ran b.link.started
        cases hheld : first.held with
        | true =>
          simp only [look, Link.look_first ho hs, Link.advance_held hheld, f.amend_eq,
            AttemptRecord.look, Closing.ofSeen?, ho, ← f.ran, hran]
          have hl := Look.hold f ho
          simpa [← f.ran, f.closing, ho] using hl
        | false =>
          simp only [look, Link.look_first ho hs, Link.advance_free hheld, f.amend_eq,
            AttemptRecord.look, Closing.ofSeen?, ho, ← f.ran, hran]
          have hl := Look.complete f ho
          simpa [← f.ran] using hl
      · have hseen : amend b.records key
            (fun record => record.look b.link b.link .pending) = b.records := by
          refine (List.map_congr_left ?_).trans (List.map_id _)
          intro record _
          split
          next hr =>
            have hnone := Option.isNone_iff_eq_none.mp hr.2
            simp [AttemptRecord.look, Closing.ofSeen?, ho, ← hnone]
          · rfl
        simp only [look, Link.look_waiting ho hs hfirst, hseen]
        exact .wait first rest ho hs hfirst

theorem invariant_look (hi : b.Invariant) (hk : key ∈ b.link.attempts.map (·.key)) :
    (b.look key).Invariant := by
  have hl := look_is hi hk
  generalize b.look key = b' at hl
  cases hl with
  | answer focus outcome settled =>
    exact invariant_close hi focus (Or.inr ⟨outcome, settled, rfl⟩)
  | wait => exact hi
  | hold focus unset => exact invariant_hold hi focus unset
  | complete focus unset => exact invariant_complete hi focus unset

theorem next_attempt_in_use (h : b.link.alive key = true) (ending : Except String α)
    (held : Bool) : b.next (.attempt key ending held) = b := by
  simp only [next, note, Link.next_attempt_in_use h, h, if_pos]

/-- A new attempt arrives and is looked at, be the link settled or not. -/
theorem next_attempt (h : b.link.alive key = false) (ending : Except String α) (held : Bool) :
    b.next (.attempt key ending held) = (b.arrive key ending held).look key := by
  simp only [next, note, Link.next_attempt h, h, Bool.false_eq_true, if_false]
  rfl

theorem next_poll (h : b.link.alive key = true) : b.next (.poll key) = b.look key := by
  simp only [next, note, Link.next_poll h, look]

theorem amend_of_unknown (hi : b.Invariant) (h : b.link.alive key = false)
    (change : AttemptRecord α → AttemptRecord α) : amend b.records key change = b.records := by
  apply amend_of_absent
  rw [keys_of_open hi.held, ← Link.alive_iff, h]
  exact Bool.false_ne_true

theorem next_poll_unknown (hi : b.Invariant) (h : b.link.alive key = false) :
    b.next (.poll key) = b := by
  simp only [next, note, Link.next_poll_unknown h, amend_of_unknown hi h]

theorem next_drop (f : b.Focus a record pb pa rb ra) :
    b.next (.drop a.key) = ⟨b.link.remove a.key, rb ++ record.close .dropped :: ra⟩ := by
  simp only [next, note, Link.next, f.amend_eq]

theorem next_drop_unknown (hi : b.Invariant) (h : b.link.alive key = false) :
    b.next (.drop key) = b := by
  have hr : b.link.remove key = b.link := by
    have hn : ∀ c ∈ b.link.attempts, c.key ≠ key := by
      simpa [Link.alive] using h
    have hf := List.filter_eq_self.mpr fun c hc => bne_iff_ne.mpr (hn c hc)
    simp only [Link.remove, hf]
  simp only [next, note, Link.next, hr, amend_of_unknown hi h]

theorem arrived_mem (b : Logbook α) (key : Nat) (ending : Except String α) (held : Bool) :
    key ∈ (b.arrive key ending held).link.attempts.map (·.key) := by
  simp [arrive]

theorem invariant_arrived (hi : b.Invariant) (h : b.link.alive key = false)
    (ending : Except String α) (held : Bool) : (b.arrive key ending held).Invariant := by
  refine invariant_arrive hi ?_ ending held
  rw [← Link.alive_iff, h]
  exact Bool.false_ne_true

theorem invariant_next (hi : b.Invariant) (event : LinkEvent α) : (b.next event).Invariant := by
  cases event with
  | attempt key ending held =>
    cases h : b.link.alive key with
    | true =>
      rw [next_attempt_in_use h]
      exact hi
    | false =>
      rw [next_attempt h]
      exact invariant_look (invariant_arrived hi h ending held) (arrived_mem b key ending held)
  | release key => exact invariant_release hi key
  | poll key =>
    cases h : b.link.alive key with
    | true =>
      rw [next_poll h]
      exact invariant_look hi (Link.alive_iff.mp h)
    | false =>
      rw [next_poll_unknown hi h]
      exact hi
  | drop key =>
    cases h : b.link.alive key with
    | true =>
      obtain ⟨a, ha, rfl⟩ := List.mem_map.mp (Link.alive_iff.mp h)
      obtain ⟨pb, pa, hs⟩ := List.append_of_mem ha
      obtain ⟨record, rb, ra, f⟩ := focus_exists hi hs
      rw [next_drop f]
      exact invariant_close hi f (Or.inl rfl)
    | false =>
      rw [next_drop_unknown hi h]
      exact hi

theorem invariant_run (hi : b.Invariant) (events : List (LinkEvent α)) :
    (b.run events).Invariant := by
  induction events generalizing b with
  | nil => exact hi
  | cons event events ih => exact ih (invariant_next hi event)

theorem invariant_of (events : List (LinkEvent α)) : (of events).Invariant :=
  invariant_run invariant_initial events

theorem open_of_unset (hi : b.Invariant) (h : b.link.outcome = none) :
    ∀ record ∈ b.records, record.completed = false ∧
      ∀ shown, record.closing ≠ some (.answered shown) := by
  intro record hr
  constructor
  · cases hc : record.completed with
    | false => rfl
    | true =>
      obtain ⟨-, -, hending⟩ := hi.completed record hr hc
      cases h.symm.trans hending
  · intro shown hs
    obtain ⟨-, outcome, hsome, -⟩ := hi.answered record hr shown hs
    cases h.symm.trans hsome

end Logbook

end PriorityPortal
