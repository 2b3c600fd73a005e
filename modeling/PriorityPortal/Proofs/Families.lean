import Mathlib.Logic.Relation
import PriorityPortal.Proofs.Counting
import PriorityPortal.Tally.Handles
/-!
# Families of handles

Cloning links handles into families. All handles of a family read alike, and what they read is
settled by what has been counted through any of them, in whatever order.
-/
namespace PriorityPortal

namespace HandleEvent

def makesHandle : HandleEvent → Bool
  | clone _ | fresh => true
  | request _ | outcome .. => false

def handle? : HandleEvent → Option Nat
  | request handle | outcome handle .. | clone handle => some handle
  | fresh => none

def tick? : HandleEvent → Option (Nat × Tick)
  | request handle => some (handle, .request)
  | outcome handle o latency => some (handle, .outcome o latency)
  | clone _ | fresh => none

end HandleEvent

namespace Handles

def makings (events : List HandleEvent) : List HandleEvent :=
  events.filter HandleEvent.makesHandle

def created (events : List HandleEvent) : Nat := (makings events).length + 1

/-- A history in which each event finds the handle that it is an operation on. -/
inductive Proper : List HandleEvent → Prop where
  | nothing : Proper []
  | next {past : List HandleEvent} {event : HandleEvent} (before : Proper past)
      (known : ∀ handle ∈ event.handle?, handle < created past) : Proper (past ++ [event])

def ClonedFrom (events : List HandleEvent) (child parent : Nat) : Prop :=
  ∃ i, (makings events)[i]? = some (.clone parent) ∧ child = i + 1

/-- Handles of one family: a chain of clones leads from one to the other. -/
def Kin (events : List HandleEvent) : Nat → Nat → Prop := Relation.EqvGen (ClonedFrom events)

open scoped Classical in
noncomputable def familyTicks (events : List HandleEvent) (handle : Nat) : List Tick :=
  events.filterMap fun event => event.tick?.bind fun (through, tick) =>
    if Kin events through handle then some tick else none

def ticksAt (handles : List Nat) (place : Nat) (events : List HandleEvent) : List Tick :=
  events.filterMap fun event => event.tick?.bind fun (through, tick) =>
    if handles[through]? = some place then some tick else none

section

variable {past events : List HandleEvent} {event : HandleEvent} {a b : Nat}

theorem makings_tick {through : Nat} {tick : Tick} (h : event.tick? = some (through, tick)) :
    makings (past ++ [event]) = makings past := by
  cases event with
  | request | outcome => simp [makings, HandleEvent.makesHandle]
  | clone | fresh => cases h

theorem makings_making (h : event.makesHandle = true) :
    makings (past ++ [event]) = makings past ++ [event] := by
  simp [makings, h]

theorem ClonedFrom.onward (h : ClonedFrom past a b) : ClonedFrom (past ++ [event]) a b := by
  obtain ⟨i, hi, rfl⟩ := h
  refine ⟨i, ?_, rfl⟩
  rw [makings, List.filter_append]
  exact List.getElem?_append_left (List.getElem?_eq_some_iff.mp hi).1 ▸ hi

theorem Kin.onward (h : Kin past a b) : Kin (past ++ [event]) a b :=
  Relation.EqvGen.mono (fun _ _ hc => hc.onward) a b h

theorem clonedFrom_clone {parent : Nat} :
    ClonedFrom (past ++ [.clone parent]) (created past) parent := by
  refine ⟨(makings past).length, ?_, rfl⟩
  rw [makings_making rfl, List.getElem?_append_right (Nat.le_refl _)]
  simp

/-- A clone is made at the end or was made before. -/
theorem clonedFrom_concat (h : ClonedFrom (past ++ [event]) a b) :
    ClonedFrom past a b ∨ event = .clone b ∧ a = created past := by
  obtain ⟨i, hi, rfl⟩ := h
  cases hm : event.makesHandle with
  | false =>
    left
    refine ⟨i, ?_, rfl⟩
    simpa [makings, hm] using hi
  | true =>
    rw [makings_making hm] at hi
    rcases Nat.lt_trichotomy i (makings past).length with hlt | rfl | hgt
    · rw [List.getElem?_append_left hlt] at hi
      exact Or.inl ⟨i, hi, rfl⟩
    · rw [List.getElem?_append_right (Nat.le_refl _)] at hi
      simp only [Nat.sub_self, List.getElem?_cons_zero, Option.some.injEq] at hi
      exact Or.inr ⟨hi, rfl⟩
    · rw [List.getElem?_eq_none (by simp; omega)] at hi
      cases hi

theorem created_concat :
    created (past ++ [event]) = created past + if event.makesHandle then 1 else 0 := by
  cases h : event.makesHandle <;> simp [created, makings, h]

theorem Proper.known (h : Proper events) :
    ∀ event ∈ events, ∀ handle ∈ event.handle?, handle < created events := by
  induction h with
  | nothing => exact fun _ he => nomatch he
  | @next past last before known ih =>
    intro event he handle hh
    rw [created_concat]
    refine Nat.lt_of_lt_of_le ?_ (Nat.le_add_right _ _)
    rcases List.mem_append.mp he with he | he
    · exact ih event he handle hh
    · obtain rfl := List.mem_singleton.mp he
      exact known handle hh

end

section

variable {h : Handles} {events : List HandleEvent} {event : HandleEvent}

theorem run_concat (h : Handles) (past : List HandleEvent) (event : HandleEvent) :
    h.run (past ++ [event]) = (h.run past).next event := by
  simp [run]

theorem next_tick {through place : Nat} {tick : Tick} (ht : event.tick? = some (through, tick))
    (hp : h.handles[through]? = some place) :
    h.next event = { h with families := h.families.modify place fun c => c.take tick } := by
  cases event with
  | request | outcome =>
    cases ht
    simp only [next, update, family?, hp]
    rfl
  | clone | fresh => cases ht

theorem next_clone {parent place : Nat} (hp : h.handles[parent]? = some place) :
    h.next (.clone parent) = { h with handles := h.handles ++ [place] } := by
  simp only [next, family?, hp]

theorem getElem?_concat_iff {handles : List Nat} {last i place : Nat} :
    (handles ++ [last])[i]? = some place ↔
      handles[i]? = some place ∨ i = handles.length ∧ last = place := by
  rcases Nat.lt_trichotomy i handles.length with hlt | rfl | hgt
  · simp [List.getElem?_append_left hlt, Nat.ne_of_lt hlt]
  · simp
  · rw [List.getElem?_eq_none (by simp; omega), List.getElem?_eq_none (Nat.le_of_lt hgt)]
    simp [Nat.ne_of_gt hgt]

/-- The place of its counters tells the family of a handle, and what is there is what has been
counted through the family. -/
structure Kept (events : List HandleEvent) (h : Handles) : Prop where
  length : h.handles.length = created events
  placed : ∀ place ∈ h.handles, place < h.families.length
  linked : ∀ a b, ClonedFrom events a b →
    ∃ place, h.handles[a]? = some place ∧ h.handles[b]? = some place
  kin : ∀ a b place, h.handles[a]? = some place → h.handles[b]? = some place → Kin events a b
  counters : ∀ place ∈ h.handles,
    h.families[place]? = some (Counters.zero.takeAll (ticksAt h.handles place events))

theorem ticksAt_concat {handles : List Nat} {place : Nat} :
    ticksAt handles place (events ++ [event]) = ticksAt handles place events ++
      (event.tick?.bind fun (through, tick) =>
        if handles[through]? = some place then some tick else none).toList := by
  rw [ticksAt, List.filterMap_append]
  rfl

/-- Events that count nothing leave what has been counted, and so does a handle that is made later
than all that are counted through. -/
theorem ticksAt_making {handles : List Nat} {place last : Nat} (h : event.makesHandle = true)
    (known : ∀ event ∈ events, ∀ handle ∈ event.handle?, handle < handles.length) :
    ticksAt (handles ++ [last]) place (events ++ [event]) = ticksAt handles place events := by
  have hnone : event.tick? = none := by
    cases event with
    | request | outcome => cases h
    | clone | fresh => rfl
  rw [ticksAt_concat, hnone]
  simp only [Option.bind_none, Option.toList_none, List.append_nil]
  refine List.filterMap_congr fun event hm => ?_
  have hk := known event hm
  cases event with
  | request | outcome =>
    have hlt := hk _ rfl
    simp only [HandleEvent.tick?, Option.bind_some, List.getElem?_append_left hlt]
  | clone | fresh => rfl

theorem kept_initial : Kept [] initial where
  length := rfl
  placed := by simp [initial]
  linked := by
    rintro a b ⟨i, hi, -⟩
    cases hi
  kin := by
    intro a b place ha hb
    have hlone : ∀ i place, initial.handles[i]? = some place → i = 0 := by
      intro i place hi
      have hlt := (List.getElem?_eq_some_iff.mp hi).1
      exact Nat.lt_one_iff.mp hlt
    rw [hlone a place ha, hlone b place hb]
    exact .refl 0
  counters := by simp [initial, ticksAt, Counters.takeAll]

theorem Kept.tick (hk : Kept events h) {through : Nat} {tick : Tick}
    (ht : event.tick? = some (through, tick)) (known : through < created events) :
    Kept (events ++ [event]) (h.next event) := by
  obtain ⟨place, hp⟩ : ∃ place, h.handles[through]? = some place :=
    ⟨_, List.getElem?_eq_getElem (hk.length ▸ known)⟩
  have hmakings : makings (events ++ [event]) = makings events := makings_tick ht
  rw [next_tick ht hp]
  refine ⟨?_, ?_, ?_, fun a b f ha hb => (hk.kin a b f ha hb).onward, ?_⟩
  · simpa only [created, hmakings] using hk.length
  · simpa using hk.placed
  · intro a b hc
    rw [ClonedFrom, hmakings] at hc
    exact hk.linked a b hc
  · intro other ho
    rw [List.getElem?_modify, hk.counters other ho, ticksAt_concat, ht]
    by_cases hsame : place = other
    · subst hsame
      simp [hp, Counters.takeAll_concat]
    · simp [hp, hsame]

theorem Kept.clone (hk : Kept events h) (proper : Proper events) {parent : Nat}
    (known : parent < created events) :
    Kept (events ++ [.clone parent]) (h.next (.clone parent)) := by
  obtain ⟨place, hp⟩ : ∃ place, h.handles[parent]? = some place :=
    ⟨_, List.getElem?_eq_getElem (hk.length ▸ known)⟩
  have hmem : place ∈ h.handles := List.mem_of_getElem? hp
  -- Every handle, the new one too, is kin to one that was there before.
  have hbefore : ∀ i f, (h.handles ++ [place])[i]? = some f →
      ∃ j, h.handles[j]? = some f ∧ Kin (events ++ [.clone parent]) i j := by
    intro i f hi
    rcases getElem?_concat_iff.mp hi with hold | ⟨rfl, rfl⟩
    · exact ⟨i, hold, .refl i⟩
    · exact ⟨parent, hp, hk.length ▸ .rel _ _ clonedFrom_clone⟩
  rw [next_clone hp]
  refine ⟨?_, ?_, ?_, ?_, ?_⟩
  · simp [hk.length, created_concat, HandleEvent.makesHandle]
  · intro f hf
    rcases List.mem_append.mp hf with hf | hf
    · exact hk.placed f hf
    · exact List.mem_singleton.mp hf ▸ hk.placed place hmem
  · intro a b hc
    rcases clonedFrom_concat hc with hc | ⟨hb, rfl⟩
    · obtain ⟨f, ha, hb⟩ := hk.linked a b hc
      exact ⟨f, getElem?_concat_iff.mpr (.inl ha), getElem?_concat_iff.mpr (.inl hb)⟩
    · cases hb
      refine ⟨place, ?_, getElem?_concat_iff.mpr (.inl hp)⟩
      exact getElem?_concat_iff.mpr (.inr ⟨hk.length.symm, rfl⟩)
  · intro a b f ha hb
    obtain ⟨i, hi, hai⟩ := hbefore a f ha
    obtain ⟨j, hj, hbj⟩ := hbefore b f hb
    exact (hai.trans _ _ _ (hk.kin i j f hi hj).onward).trans _ _ _ (hbj.symm _ _)
  · intro f hf
    rw [ticksAt_making rfl (hk.length ▸ proper.known)]
    rcases List.mem_append.mp hf with hf | hf
    · exact hk.counters f hf
    · exact List.mem_singleton.mp hf ▸ hk.counters place hmem

theorem Kept.fresh (hk : Kept events h) (proper : Proper events) :
    Kept (events ++ [.fresh]) (h.next .fresh) := by
  have hnew : ∀ i : Nat, h.handles[i]? ≠ some h.families.length := by
    intro i hi
    exact Nat.lt_irrefl _ (hk.placed _ (List.mem_of_getElem? hi))
  refine ⟨?_, ?_, ?_, ?_, ?_⟩
  · simp [next, hk.length, created_concat, HandleEvent.makesHandle]
  · intro f hf
    simp only [next, List.length_append, List.length_singleton]
    rcases List.mem_append.mp hf with hf | hf
    · exact Nat.lt_succ_of_lt (hk.placed f hf)
    · exact List.mem_singleton.mp hf ▸ Nat.lt_succ_self _
  · intro a b hc
    rcases clonedFrom_concat hc with hc | ⟨hb, -⟩
    · obtain ⟨f, ha, hb⟩ := hk.linked a b hc
      exact ⟨f, getElem?_concat_iff.mpr (.inl ha), getElem?_concat_iff.mpr (.inl hb)⟩
    · cases hb
  · intro a b f ha hb
    rcases getElem?_concat_iff.mp ha with ha | ⟨rfl, rfl⟩
    · rcases getElem?_concat_iff.mp hb with hb | ⟨rfl, rfl⟩
      · exact (hk.kin a b f ha hb).onward
      · exact absurd ha (hnew a)
    · rcases getElem?_concat_iff.mp hb with hb | ⟨rfl, -⟩
      · exact absurd hb (hnew b)
      · exact .refl _
  · intro f hf
    simp only [next]
    rw [ticksAt_making rfl (hk.length ▸ proper.known)]
    rcases List.mem_append.mp hf with hf | hf
    · rw [List.getElem?_append_left (hk.placed f hf)]
      exact hk.counters f hf
    · obtain rfl := List.mem_singleton.mp hf
      have hnothing : ticksAt h.handles h.families.length events = [] := by
        refine List.filterMap_eq_nil_iff.mpr fun event _ => ?_
        cases event <;> simp [HandleEvent.tick?, hnew]
      simp [hnothing, Counters.takeAll]

theorem kept_run (proper : Proper events) : Kept events (initial.run events) := by
  induction proper with
  | nothing => exact kept_initial
  | @next past event before known ih =>
    rw [run_concat]
    cases event with
    | request handle => exact ih.tick rfl (known handle rfl)
    | outcome handle o latency => exact ih.tick rfl (known handle rfl)
    | clone parent => exact ih.clone before (known parent rfl)
    | fresh => exact ih.fresh before

end

section

variable {h : Handles} {events : List HandleEvent} {event : HandleEvent} {a b handle place : Nat}

theorem Kept.same_of_kin (hk : Kept events h) (kin : Kin events a b) :
    h.handles[a]? = h.handles[b]? := by
  induction kin with
  | rel a b hc =>
    obtain ⟨place, ha, hb⟩ := hk.linked a b hc
    exact ha.trans hb.symm
  | refl => rfl
  | symm a b _ ih => exact ih.symm
  | trans a b c _ _ ihab ihbc => exact ihab.trans ihbc

theorem Kept.kin_iff (hk : Kept events h) (hp : h.handles[b]? = some place) :
    Kin events a b ↔ h.handles[a]? = some place := by
  constructor
  · intro kin
    exact (hk.same_of_kin kin).trans hp
  · intro ha
    exact hk.kin a b place ha hp

theorem Kept.placed_at (hk : Kept events h) (there : handle < created events) :
    ∃ place, h.handles[handle]? = some place :=
  ⟨_, List.getElem?_eq_getElem (hk.length ▸ there)⟩

theorem Kept.read (hk : Kept events h) (there : handle < created events) :
    h.read? handle = some (Counters.zero.takeAll (familyTicks events handle)) := by
  obtain ⟨place, hp⟩ := hk.placed_at there
  have hticks : familyTicks events handle = ticksAt h.handles place events := by
    refine List.filterMap_congr fun event _ => ?_
    simp only [hk.kin_iff hp]
  rw [read?, family?, hp, hticks]
  exact hk.counters place (List.mem_of_getElem? hp)

/-- What counts nothing through a family leaves all that the family reads. -/
theorem Kept.read_next (hk : Kept events h) (there : handle < created events)
    (other : ∀ through tick, event.tick? = some (through, tick) → ¬ Kin events through handle) :
    (h.next event).read? handle = h.read? handle := by
  obtain ⟨place, hp⟩ := hk.placed_at there
  have hlt : handle < h.handles.length := hk.length ▸ there
  have hplace := hk.placed place (List.mem_of_getElem? hp)
  have hupdate : ∀ through change, ¬ Kin events through handle →
      (h.update through change).read? handle = h.read? handle := by
    intro through change hn
    rw [update]
    cases hf : h.family? through with
    | none => rfl
    | some found =>
      have hne : found ≠ place := by
        rintro rfl
        exact hn ((hk.kin_iff hp).mpr hf)
      simp [read?, family?, hp, List.getElem?_modify, hne]
  cases event with
  | request through => exact hupdate through _ (other through _ rfl)
  | outcome through o latency => exact hupdate through _ (other through _ rfl)
  | clone parent =>
    rw [next]
    cases h.family? parent with
    | none => rfl
    | some found => simp [read?, family?, List.getElem?_append_left hlt]
  | fresh =>
    simp [next, read?, family?, List.getElem?_append_left hlt, hp,
      List.getElem?_append_left hplace]

end

/-- What a handle reads is what has been counted through its family. All of the family read the
same, whatever happens to other families changes none of it, and so does no other order. -/
theorem readings_follow_family {events : List HandleEvent} (proper : Proper events)
    (few : events.length < UInt64.size) {handle : Nat} (there : handle < created events) :
    ∃ c, (initial.run events).read? handle = some c ∧ c.Tells (familyTicks events handle) ∧
      (∀ other, Kin events other handle → (initial.run events).read? other = some c) ∧
      (∀ event : HandleEvent, (∀ through tick, event.tick? = some (through, tick) →
          ¬ Kin events through handle) →
        (initial.run (events ++ [event])).read? handle = some c) ∧
      ∀ others, Proper others → makings others = makings events →
        (familyTicks others handle).Perm (familyTicks events handle) →
          (initial.run others).read? handle = some c := by
  have hk := kept_run proper
  have hread := hk.read there
  refine ⟨_, hread, Counters.tells_takeAll ?_, ?_, ?_, ?_⟩
  · exact Nat.lt_of_le_of_lt (List.length_filterMap_le _ _) few
  · intro other kin
    rw [← hread]
    simp only [read?, family?, hk.same_of_kin kin]
  · intro event hother
    rw [run_concat, hk.read_next there hother, hread]
  · intro others hproper hmakings hperm
    have hthere : handle < created others := by
      rwa [created, hmakings]
    rw [(kept_run hproper).read hthere, Counters.takeAll_perm _ hperm]

def sampleUse : List HandleEvent :=
  [.clone 0, .fresh, .request 1, .request 2, .outcome 0 .success ⟨50000⟩]

theorem sampleUse_proper : Proper sampleUse := by
  have h : Proper ([] ++ [.clone 0] ++ [.fresh] ++ [.request 1] ++ [.request 2] ++
      [.outcome 0 .success ⟨50000⟩]) := by
    refine .next (.next (.next (.next (.next .nothing ?_) ?_) ?_) ?_) ?_
    all_goals
      intro handle hh
      cases hh <;> decide
  exact h

theorem readings_follow_family_sample :
    Proper sampleUse ∧ sampleUse.length < UInt64.size ∧ 1 < created sampleUse ∧
      ∃ c, (initial.run sampleUse).read? 1 = some c ∧ (initial.run sampleUse).read? 0 = some c ∧
        c.Tells (familyTicks sampleUse 1) ∧ c.requests = 1 ∧ c.inFlight = 0 := by
  have few : sampleUse.length < UInt64.size := by decide
  have there : 1 < created sampleUse := by decide
  obtain ⟨c, hc, tells, alike, -⟩ := readings_follow_family sampleUse_proper few there
  have kin : Kin sampleUse 0 1 := .symm 1 0 (.rel 1 0 ⟨0, rfl, rfl⟩)
  obtain rfl : _ = c := Option.some.inj hc
  exact ⟨sampleUse_proper, few, there, _, hc, alike 0 kin, tells, rfl, rfl⟩

end Handles

end PriorityPortal
