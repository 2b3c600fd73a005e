import PriorityPortal.Proofs.Course
import PriorityPortal.Proofs.OpenRecords
import PriorityPortal.Proofs.RelayStep
/-!
# What is on record of the requests of a relay

An observer keeps a record of each request from the steps of a history alone: which services it
met, what was asked of them on its behalf, and how it ended. Every record is the course of that
request by itself, and the requests without an end on record are those that the relay holds.
-/
namespace PriorityPortal

inductive Ending where
  | answered (result : Result)
  | dropped
  deriving Repr

def Ending.ofSeen? : Seen Result → Option Ending
  | .done result => some (.answered result)
  | _ => none

structure Record where
  key : Nat
  request : Request
  /-- The services at its first look. -/
  first : Services
  /-- The services at its further looks, in order. -/
  later : List Services
  effects : Effects
  ending : Option Ending

namespace Record

def isPending (record : Record) : Bool := record.ending.isNone

def met (record : Record) : List Services := record.first :: record.later

def course (routing : Routing) (record : Record) : Course :=
  .run routing record.request record.first record.later

def look (record : Record) (services : Services) (step : RelayStep) : Record :=
  { record with
    later := record.later ++ [services]
    effects := record.effects ++ step.effects
    ending := Ending.ofSeen? step.seen }

def drop (record : Record) : Record := { record with ending := some .dropped }

end Record

/-- A relay under observation. -/
structure Archive where
  relay : Relay
  /-- In the order of the first looks. -/
  records : List Record

namespace Archive

def amend (records : List Record) (key : Nat) (change : Record → Record) : List Record :=
  records.map fun record => if record.key = key ∧ record.isPending then change record else record

def inUse (records : List Record) (key : Nat) : Bool :=
  records.any fun record => record.key = key ∧ record.isPending

def note (records : List Record) (services : Services) (step : RelayStep) :
    RelayEvent → List Record
  | .start key request =>
    if inUse records key then records
    else records ++ [⟨key, request, services, [], step.effects, Ending.ofSeen? step.seen⟩]
  | .poll key => amend records key fun record => record.look services step
  | .drop key => amend records key .drop

def next (a : Archive) (moment : Services × RelayEvent) : Archive :=
  let step := a.relay.next moment.1 moment.2
  ⟨step.relay, note a.records moment.1 step moment.2⟩

def run (a : Archive) (history : List (Services × RelayEvent)) : Archive := history.foldl next a

def of (routing : Routing) (history : List (Services × RelayEvent)) : Archive :=
  run ⟨.initial routing, []⟩ history

theorem of_append (routing : Routing) (history further : List (Services × RelayEvent)) :
    of routing (history ++ further) = (of routing history).run further := by
  simp [of, run, List.foldl_append]

theorem relay_of (routing : Routing) (history : List (Services × RelayEvent)) :
    (of routing history).relay = (Relay.initial routing).run history := by
  suffices aux : ∀ a : Archive, (a.run history).relay = a.relay.run history from aux _
  induction history with
  | nil => exact fun _ => rfl
  | cons moment history ih => exact fun a => ih (a.next moment)

end Archive

def Progress.ending? : Progress → Option Ending
  | .waiting _ => none
  | .ended result => some (.answered result)

theorem ending_of_seen (progress : Progress) :
    Ending.ofSeen? progress.seen = progress.ending? := by
  cases progress <;> rfl

/-- A record tells the request's course by itself, and whether that has come to an end. -/
structure Record.Faithful (routing : Routing) (record : Record) : Prop where
  effects : record.effects = (record.course routing).effects
  answered : ∀ result, record.ending = some (.answered result) →
    (record.course routing).progress = .ended result
  unanswered : record.ending = none ∨ record.ending = some .dropped →
    ∃ stage, (record.course routing).progress = .waiting stage

theorem Record.stands (routing : Routing) (record : Record) :
    (record.course routing).Stands routing record.request record.met :=
  Course.stands_run routing record.request record.first record.later

/-- A record that has been kept up with the course it tells is faithful. -/
theorem Record.faithful_of_course {routing : Routing} {record : Record} {c : Course}
    (hc : record.course routing = c) (heffects : record.effects = c.effects)
    (hending : record.ending = c.progress.ending?) : record.Faithful routing := by
  subst hc
  cases hp : (record.course routing).progress with
  | waiting stage =>
    have hnone : record.ending = none := by
      rw [hending, hp]
      rfl
    refine ⟨heffects, ?_, fun _ => ⟨stage, hp⟩⟩
    intro result h
    cases hnone.symm.trans h
  | ended result =>
    have hsome : record.ending = some (.answered result) := by
      rw [hending, hp]
      rfl
    refine ⟨heffects, ?_, ?_⟩
    · intro result' h
      obtain rfl : result = result' := Ending.answered.inj (Option.some.inj (hsome.symm.trans h))
      exact hp
    · rintro (h | h)
      · cases hsome.symm.trans h
      · cases hsome.symm.trans h

namespace Record.Faithful

variable {routing : Routing} {record : Record}

theorem ending_of_ended {result : Result} (h : record.Faithful routing)
    (hp : (record.course routing).progress = .ended result) :
    record.ending = some (.answered result) := by
  have hwaiting : ¬ (record.ending = none ∨ record.ending = some .dropped) := by
    intro he
    obtain ⟨stage, hs⟩ := h.unanswered he
    cases hs.symm.trans hp
  cases he : record.ending with
  | none => exact absurd (Or.inl he) hwaiting
  | some ending =>
    cases ending with
    | dropped => exact absurd (Or.inr he) hwaiting
    | answered result' =>
      obtain rfl : result' = result := Progress.ended.inj ((h.answered result' he).symm.trans hp)
      rfl

theorem ending_of_waiting {stage : Stage} (h : record.Faithful routing)
    (hp : (record.course routing).progress = .waiting stage) :
    record.ending = none ∨ record.ending = some .dropped := by
  cases he : record.ending with
  | none => exact Or.inl rfl
  | some ending =>
    cases ending with
    | dropped => exact Or.inr rfl
    | answered result => cases (h.answered result he).symm.trans hp

theorem mappings (h : record.Faithful routing) :
    record.effects.mappings = record.request.consultations := by
  rw [h.effects]
  exact (record.stands routing).mappings

theorem calls (h : record.Faithful routing) :
    record.effects.calls = record.request.dueCalls routing record.met := by
  rw [h.effects]
  exact (record.stands routing).calls

end Record.Faithful

def Pending.standing (p : Pending) : Nat × Progress := (p.key, .waiting p.stage)

def Record.standing (routing : Routing) (record : Record) : Nat × Progress :=
  (record.key, (record.course routing).progress)

namespace Archive

structure Invariant (routing : Routing) (a : Archive) : Prop where
  routing_kept : a.relay.routing = routing
  distinct : (a.relay.pending.map (·.key)).Nodup
  held : a.relay.pending.map Pending.standing =
    (a.records.filter Record.isPending).map (Record.standing routing)
  faithful : ∀ record ∈ a.records, record.Faithful routing

/-- A pending request in the relay and on record, with what stands before and after it in both. -/
structure Focus (routing : Routing) (a : Archive) (p : Pending) (record : Record)
    (pb pa : List Pending) (rb ra : List Record) : Prop where
  pending : a.relay.pending = pb ++ p :: pa
  records : a.records = rb ++ record :: ra
  key : record.key = p.key
  isPending : record.isPending = true
  progress : (record.course routing).progress = .waiting p.stage
  before : pb.map Pending.standing = (rb.filter Record.isPending).map (Record.standing routing)
  after : pa.map Pending.standing = (ra.filter Record.isPending).map (Record.standing routing)
  alone_before : p.key ∉ pb.map (·.key)
  alone_after : p.key ∉ pa.map (·.key)

variable {routing : Routing} {a : Archive} {p : Pending} {record : Record}
  {pb pa : List Pending} {rb ra : List Record} {c : Course} {services : Services}

theorem focus_exists (hi : a.Invariant routing) (hp : p ∈ a.relay.pending) :
    ∃ record pb pa rb ra, a.Focus routing p record pb pa rb ra := by
  obtain ⟨pb, pa, hpending⟩ := List.append_of_mem hp
  have hheld := hi.held
  rw [hpending] at hheld
  obtain ⟨record, rb, ra, hrecords, hpend, hstanding, hbefore, hafter⟩ := split_standing hheld
  have hdistinct := hi.distinct
  rw [hpending] at hdistinct
  obtain ⟨hbefore_alone, hafter_alone⟩ := absent_of_distinct hdistinct
  obtain ⟨hkey, hprogress⟩ := Prod.mk.inj hstanding
  exact ⟨record, pb, pa, rb, ra, hpending, hrecords, hkey, hpend, hprogress, hbefore, hafter,
    hbefore_alone, hafter_alone⟩

theorem keys_of_pending {ps : List Pending} {rs : List Record}
    (h : ps.map Pending.standing = (rs.filter Record.isPending).map (Record.standing routing)) :
    (rs.filter Record.isPending).map Record.key = ps.map (·.key) :=
  keys_of_standing h

theorem amend_of_absent {rs : List Record} {key : Nat} (change : Record → Record)
    (h : key ∉ (rs.filter Record.isPending).map Record.key) : amend rs key change = rs :=
  map_change_none (closed_of_absent h)

theorem Focus.amend_eq (f : a.Focus routing p record pb pa rb ra) (change : Record → Record) :
    amend a.records p.key change = rb ++ change record :: ra := by
  rw [f.records]
  -- Other records may have the key too, but none of them is pending.
  refine map_change_one ⟨f.key, f.isPending⟩ ?_ ?_
  · apply closed_of_absent
    rw [keys_of_pending f.before]
    exact f.alone_before
  · apply closed_of_absent
    rw [keys_of_pending f.after]
    exact f.alone_after

theorem Focus.remove_pending (f : a.Focus routing p record pb pa rb ra) :
    (a.relay.remove p.key).pending = pb ++ pa := by
  simp only [Relay.remove, f.pending]
  exact filter_one f.alone_before f.alone_after

theorem Focus.move_pending (f : a.Focus routing p record pb pa rb ra) (stage : Stage) :
    (a.relay.move p.key stage).pending = pb ++ { p with stage := stage } :: pa := by
  simp only [Relay.move, f.pending]
  exact map_change_one rfl (key_ne_of_absent f.alone_before) (key_ne_of_absent f.alone_after)

inductive Move (routing : Routing) (a : Archive) (services : Services) :
    RelayStep → Archive → Prop where
  | idle {step} (effects : step.effects = .none) : Move routing a services step a
  | start {step} (key : Nat) (request : Request) (fresh : key ∉ a.relay.pending.map (·.key))
      (c : Course) (course : c = .start routing request services)
      (effects : step.effects = c.effects) :
      Move routing a services step
        ⟨a.relay.taking key services.now c.progress,
          a.records ++ [⟨key, request, services, [], c.effects, c.progress.ending?⟩]⟩
  | look {step p record pb pa rb ra} (focus : a.Focus routing p record pb pa rb ra)
      (c : Course) (course : c = (record.course routing).look routing services)
      (effects : c.effects = (record.course routing).effects ++ step.effects)
      (mappings : step.effects.mappings = []) :
      Move routing a services step
        ⟨a.relay.bringing p services.now c.progress,
          rb ++ { record with
            later := record.later ++ [services]
            effects := record.effects ++ step.effects
            ending := c.progress.ending? } :: ra⟩
  | drop {step p record pb pa rb ra} (focus : a.Focus routing p record pb pa rb ra)
      (effects : step.effects = .none) :
      Move routing a services step
        ⟨(a.relay.remove p.key).finish .abandoned p.since services.now, rb ++ record.drop :: ra⟩

theorem inUse_iff {key : Nat} (hi : a.Invariant routing) :
    inUse a.records key = true ↔ key ∈ a.relay.pending.map (·.key) := by
  rw [← keys_of_pending hi.held]
  simp only [inUse, List.any_eq_true, decide_eq_true_eq, List.mem_map, List.mem_filter]
  constructor
  · rintro ⟨record, hm, hkey, hpending⟩
    exact ⟨record, ⟨hm, hpending⟩, hkey⟩
  · rintro ⟨record, ⟨hm, hpending⟩, hkey⟩
    exact ⟨record, hm, hkey, hpending⟩

theorem amend_of_unknown {key : Nat} (hi : a.Invariant routing) (h : a.relay.find? key = none)
    (change : Record → Record) : amend a.records key change = a.records := by
  apply amend_of_absent
  rw [keys_of_pending hi.held]
  exact Relay.find_none_iff.mp h

theorem advance_mappings (stage : Stage) (services : Services) :
    (stage.advance routing services).2.mappings = [] := by
  unfold Stage.advance
  repeat' split
  all_goals rfl

theorem start_move (hi : a.Invariant routing) (services : Services) (key : Nat)
    (request : Request) :
    a.Move routing services (a.relay.next services (.start key request))
      (a.next (services, .start key request)) := by
  cases h : a.relay.find? key with
  | some p =>
    have hs := Relay.next_start_in_use h services request
    have hused : inUse a.records key = true := by
      obtain ⟨rfl, hp⟩ := Relay.find_some h
      exact (inUse_iff hi).mpr (List.mem_map_of_mem hp)
    simp only [next, hs, note, if_pos hused]
    exact .idle rfl
  | none =>
    have hs := Relay.next_start h services request
    have hfresh := Relay.find_none_iff.mp h
    have hused : ¬ inUse a.records key = true := fun hu => hfresh ((inUse_iff hi).mp hu)
    rw [hi.routing_kept] at hs
    simp only [next, hs, note, if_neg hused, ending_of_seen]
    exact .start key request hfresh (.start routing request services) rfl rfl

theorem poll_move (hi : a.Invariant routing) (services : Services) (key : Nat) :
    a.Move routing services (a.relay.next services (.poll key))
      (a.next (services, .poll key)) := by
  cases h : a.relay.find? key with
  | none =>
    have hs := Relay.next_poll_unknown h services
    simp only [next, hs, note, amend_of_unknown hi h]
    exact .idle rfl
  | some p =>
    have hs := Relay.next_poll h services
    obtain ⟨rfl, hp⟩ := Relay.find_some h
    obtain ⟨record, pb, pa, rb, ra, f⟩ := focus_exists hi hp
    simp only [next, hs, note, f.amend_eq, hi.routing_kept, Record.look, ending_of_seen]
    have hlook := Course.look_waiting f.progress routing services
    exact .look f ⟨_, _⟩ hlook.symm rfl (advance_mappings p.stage services)

theorem drop_move (hi : a.Invariant routing) (services : Services) (key : Nat) :
    a.Move routing services (a.relay.next services (.drop key))
      (a.next (services, .drop key)) := by
  cases h : a.relay.find? key with
  | none =>
    have hs := Relay.next_drop_unknown h services
    simp only [next, hs, note, amend_of_unknown hi h]
    exact .idle rfl
  | some p =>
    have hs := Relay.next_drop h services
    obtain ⟨rfl, hp⟩ := Relay.find_some h
    obtain ⟨record, pb, pa, rb, ra, f⟩ := focus_exists hi hp
    simp only [next, hs, note, f.amend_eq]
    exact .drop f rfl

/-- Every step is one of these moves. -/
theorem next_move (hi : a.Invariant routing) (moment : Services × RelayEvent) :
    a.Move routing moment.1 (a.relay.next moment.1 moment.2) (a.next moment) := by
  obtain ⟨services, event⟩ := moment
  cases event with
  | start key request => exact start_move hi services key request
  | poll key => exact poll_move hi services key
  | drop key => exact drop_move hi services key

theorem invariant_initial (routing : Routing) :
    Invariant routing ⟨.initial routing, []⟩ := by
  constructor <;> simp [Relay.initial]

theorem Focus.keys (f : a.Focus routing p record pb pa rb ra) :
    a.relay.pending.map (·.key) = pb.map (·.key) ++ p.key :: pa.map (·.key) := by
  simp [f.pending]

theorem Focus.distinct_rest (hi : a.Invariant routing)
    (f : a.Focus routing p record pb pa rb ra) : ((pb ++ pa).map (·.key)).Nodup := by
  have hd := hi.distinct
  rw [f.pending] at hd
  exact hd.sublist (((List.sublist_cons_self p pa).append_left pb).map _)

theorem Focus.faithful_rest (hi : a.Invariant routing)
    (f : a.Focus routing p record pb pa rb ra) {changed : Record}
    (hc : changed.Faithful routing) : ∀ r ∈ rb ++ changed :: ra, r.Faithful routing := by
  intro r hr
  have hm := hi.faithful r
  rw [f.records] at hm
  simp only [List.mem_append, List.mem_cons] at hm hr
  rcases hr with hr | rfl | hr
  · exact hm (Or.inl hr)
  · exact hc
  · exact hm (Or.inr (Or.inr hr))

theorem run_look (hc : c = (record.course routing).look routing services) :
    Course.run routing record.request record.first (record.later ++ [services]) = c := by
  rw [Course.run_concat, hc]
  rfl

theorem invariant_start (hi : a.Invariant routing) {key : Nat} {request : Request}
    (fresh : key ∉ a.relay.pending.map (·.key)) (hc : c = .start routing request services) :
    Invariant routing ⟨a.relay.taking key services.now c.progress,
      a.records ++ [⟨key, request, services, [], c.effects, c.progress.ending?⟩]⟩ := by
  have hrun : Course.run routing request services [] = c := hc.symm
  have hnew : Record.Faithful routing ⟨key, request, services, [], c.effects, c.progress.ending?⟩ :=
    Record.faithful_of_course hrun rfl rfl
  constructor
  · simpa using hi.routing_kept
  · rw [Relay.taking_pending, List.map_append]
    cases c.progress with
    | waiting stage => simpa [Progress.stage?, List.nodup_append, hi.distinct] using fresh
    | ended result => simpa [Progress.stage?] using hi.distinct
  · rw [Relay.taking_pending, List.map_append, List.filter_append, List.map_append, hi.held]
    cases hp : c.progress <;>
      simp [Progress.stage?, Progress.ending?, Record.isPending, List.filter_cons,
        Pending.standing, Record.standing, Record.course, hrun, hp]
  · intro record hr
    rcases List.mem_append.mp hr with hr | hr
    · exact hi.faithful record hr
    · obtain rfl := List.mem_singleton.mp hr
      exact hnew

theorem invariant_look (hi : a.Invariant routing) (f : a.Focus routing p record pb pa rb ra)
    {effects : Effects} (hc : c = (record.course routing).look routing services)
    (he : c.effects = (record.course routing).effects ++ effects) :
    Invariant routing ⟨a.relay.bringing p services.now c.progress,
      rb ++ { record with
        later := record.later ++ [services]
        effects := record.effects ++ effects
        ending := c.progress.ending? } :: ra⟩ := by
  have hrun := run_look hc
  have hr : record.Faithful routing := hi.faithful record (by simp [f.records])
  have hnew : Record.Faithful routing { record with
      later := record.later ++ [services]
      effects := record.effects ++ effects
      ending := c.progress.ending? } :=
    Record.faithful_of_course hrun (by rw [hr.effects, he]) rfl
  cases hp : c.progress with
  | waiting stage =>
    have hpending := f.move_pending stage
    constructor
    · simpa using hi.routing_kept
    · simpa [Relay.bringing, hpending, f.keys] using hi.distinct
    · simp [Relay.bringing, hpending, f.before, f.after, f.key, Progress.ending?,
        Record.isPending, List.filter_cons, Pending.standing, Record.standing, Record.course,
        hrun, hp]
    · exact f.faithful_rest hi (hp ▸ hnew)
  | ended result =>
    have hpending := f.remove_pending
    constructor
    · simpa using hi.routing_kept
    · simpa [Relay.bringing, Relay.finish, hpending] using f.distinct_rest hi
    · simp [Relay.bringing, Relay.finish, hpending, f.before, f.after, Progress.ending?,
        Record.isPending]
    · exact f.faithful_rest hi (hp ▸ hnew)

theorem invariant_drop (hi : a.Invariant routing) (f : a.Focus routing p record pb pa rb ra)
    (now : Duration) :
    Invariant routing
      ⟨(a.relay.remove p.key).finish .abandoned p.since now, rb ++ record.drop :: ra⟩ := by
  have hr : record.Faithful routing := hi.faithful record (by simp [f.records])
  have hpending := f.remove_pending
  constructor
  · exact hi.routing_kept
  · simpa [Relay.finish, hpending] using f.distinct_rest hi
  · simp [Relay.finish, hpending, f.before, f.after, Record.drop, Record.isPending]
  · exact f.faithful_rest hi ⟨hr.effects, by simp [Record.drop], fun _ => ⟨_, f.progress⟩⟩

theorem invariant_next (hi : a.Invariant routing) (moment : Services × RelayEvent) :
    (a.next moment).Invariant routing := by
  have hm := next_move hi moment
  generalize a.relay.next moment.1 moment.2 = step at hm
  generalize a.next moment = b at hm
  cases hm with
  | idle => exact hi
  | start key request fresh c course => exact invariant_start hi fresh course
  | look focus c course effects => exact invariant_look hi focus course effects
  | drop focus => exact invariant_drop hi focus moment.1.now

theorem note_ended {records : List Record} {i : Nat} (hr : records[i]? = some record)
    (hn : record.isPending = false) (services : Services) (step : RelayStep)
    (event : RelayEvent) : (note records services step event)[i]? = some record := by
  have hamend : ∀ key change, (amend records key change)[i]? = some record := by
    intro key change
    simp [amend, hr, hn]
  cases event with
  | start key request =>
    by_cases hu : inUse records key = true
    · simpa only [note, if_pos hu] using hr
    · obtain ⟨hlt, -⟩ := List.getElem?_eq_some_iff.mp hr
      simpa only [note, if_neg hu, List.getElem?_append_left hlt] using hr
  | poll key => exact hamend key _
  | drop key => exact hamend key _

/-- What is on record of a request that has ended is final. -/
theorem run_ended {i : Nat} (history : List (Services × RelayEvent)) :
    ∀ a : Archive, a.records[i]? = some record → record.isPending = false →
      (a.run history).records[i]? = some record := by
  induction history with
  | nil => exact fun _ hr _ => hr
  | cons moment history ih => exact fun a hr hn => ih (a.next moment) (note_ended hr hn _ _ _) hn

theorem of_ended {i : Nat} (routing : Routing) (history further : List (Services × RelayEvent))
    (hr : (of routing history).records[i]? = some record) (hn : record.isPending = false) :
    (of routing (history ++ further)).records[i]? = some record := by
  rw [of_append]
  exact run_ended further _ hr hn

theorem invariant_of (routing : Routing) (history : List (Services × RelayEvent)) :
    (of routing history).Invariant routing := by
  suffices aux : ∀ a : Archive, a.Invariant routing → (a.run history).Invariant routing from
    aux _ (invariant_initial routing)
  induction history with
  | nil => exact fun _ h => h
  | cons moment history ih => exact fun a h => ih (a.next moment) (invariant_next h moment)

end Archive

end PriorityPortal
