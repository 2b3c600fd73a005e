import PriorityPortal.Proofs.Archive
/-!
# Every call of RealtimeKit is accounted for

What a relay asks of the services is what its requests ask, each by itself. A request makes its
call once, with its own thread and the host's pid of its own process, and none without that pid.
-/
namespace PriorityPortal

/-- What has been asked on behalf of a request, by who asks and what the mapper answered first. -/
structure Record.Accounted (routing : Routing) (record : Record) : Prop where
  property : ∀ sender name, record.request = .property sender name →
    record.effects.mappings = [] ∧ record.effects.calls = [.property name]
  host : ∀ sender process task priority,
    record.request = .thread ⟨sender, .host⟩ process task priority →
    record.effects.mappings = [] ∧
      record.effects.calls = [.thread process task (routing.pass priority)]
  sandbox : ∀ sender application instancePid process task priority,
    record.request = .thread ⟨sender, .flatpak application instancePid⟩ process task priority →
    let answer := record.met.findSome? fun services =>
      services.mapPid (.flatpak application instancePid) process
    record.effects.mappings = [(.flatpak application instancePid, process)] ∧
    (∀ hostPid, answer = some (.ok hostPid) →
      record.effects.calls = [.thread hostPid task (routing.pass priority)]) ∧
    (∀ e, answer = some (.error e) → record.effects.calls = [] ∧
      record.ending = some (.answered (.error (.pidMapping e)))) ∧
    (answer = none → record.effects.calls = [] ∧
      (record.ending = none ∨ record.ending = some .dropped))

section

variable {routing : Routing} {record : Record}

theorem Record.Faithful.accounted (h : record.Faithful routing) : record.Accounted routing where
  property sender name hr := by
    rw [h.mappings, h.calls, hr]
    exact ⟨rfl, rfl⟩
  host sender process task priority hr := by
    rw [h.mappings, h.calls, hr]
    exact ⟨rfl, rfl⟩
  sandbox sender application instancePid process task priority hr := by
    intro answer
    have ht : record.request.translation? record.met = answer := by rw [hr]; rfl
    have hfits := (record.stands routing).fits
    have hcalls := h.calls
    rw [hr] at ht hcalls
    simp only [Request.dueCalls, ht] at hcalls
    rw [← hr] at ht
    refine ⟨?_, ?_, ?_, ?_⟩
    · rw [h.mappings, hr]
      rfl
    · intro hostPid ha
      rw [hcalls, ha]
    · intro e ha
      rw [hcalls, ha]
      exact ⟨rfl, h.ending_of_ended (fits_of_translation_error hfits (ht.trans ha))⟩
    · intro ha
      rw [ha] at hcalls
      obtain ⟨stage, hp⟩ := fits_of_translation_open hfits (ht.trans ha) (h.calls.symm.trans hcalls)
      exact ⟨hcalls, h.ending_of_waiting hp⟩

end

namespace Archive

variable {routing : Routing} {a b : Archive} {services : Services} {step : RelayStep}

def consulted (records : List Record) : List (Origin × UInt64) :=
  records.flatMap (·.effects.mappings)

def called (records : List Record) : List KitCall := records.flatMap (·.effects.calls)

/-- The mapper is only asked at a first look, so the order is that of the requests. -/
theorem consulted_move (hm : a.Move routing services step b) :
    consulted b.records = consulted a.records ++ step.effects.mappings := by
  cases hm with
  | idle effects => simp [effects]
  | start key request fresh c course effects => simp [consulted, effects]
  | look focus c course effects mappings => simp [consulted, focus.records, mappings]
  | drop focus effects => simp [consulted, focus.records, effects, Record.drop]

theorem called_move (hm : a.Move routing services step b) :
    (called b.records).Perm (called a.records ++ step.effects.calls) := by
  cases hm with
  | idle effects => simp [effects]
  | start key request fresh c course effects => simp [called, effects]
  | @look p record pb pa rb ra focus c course effects mappings =>
    simp only [called, focus.records, List.flatMap_append, List.flatMap_cons,
      Effects.append_calls, List.append_assoc]
    -- With its record the new call comes before those of later requests, in the trace after them.
    refine List.Perm.append_left _ (List.Perm.append_left _ ?_)
    exact List.perm_append_comm
  | drop focus effects => simp [called, focus.records, effects, Record.drop]

theorem consulted_run (history : List (Services × RelayEvent)) :
    ∀ a : Archive, a.Invariant routing → consulted (a.run history).records =
      consulted a.records ++ (a.relay.steps history).flatMap (·.effects.mappings) := by
  induction history with
  | nil => exact fun a _ => (List.append_nil _).symm
  | cons moment history ih =>
    intro a hi
    have hnext := ih (a.next moment) (invariant_next hi moment)
    rw [consulted_move (next_move hi moment), List.append_assoc] at hnext
    exact hnext

theorem called_run (history : List (Services × RelayEvent)) :
    ∀ a : Archive, a.Invariant routing → (called (a.run history).records).Perm
      (called a.records ++ (a.relay.steps history).flatMap (·.effects.calls)) := by
  induction history with
  | nil => exact fun a _ => List.Perm.of_eq (List.append_nil _).symm
  | cons moment history ih =>
    intro a hi
    have hnext := ih (a.next moment) (invariant_next hi moment)
    have hmove := called_move (next_move hi moment)
    refine hnext.trans ((hmove.append_right _).trans ?_)
    exact List.Perm.of_eq (List.append_assoc _ _ _)

end Archive

end PriorityPortal
