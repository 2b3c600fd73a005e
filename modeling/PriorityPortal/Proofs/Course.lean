import PriorityPortal.Relay
/-!
# The course of one request

A request by itself, looked at again and again, with the services as each look meets them. What it
asks of the services and how it ends follow from these looks alone.
-/
namespace PriorityPortal

def Effects.append (e f : Effects) : Effects := ⟨e.mappings ++ f.mappings, e.calls ++ f.calls⟩

instance : Append Effects := ⟨Effects.append⟩

@[simp] theorem Effects.append_mappings (e f : Effects) :
    (e ++ f).mappings = e.mappings ++ f.mappings := rfl

@[simp] theorem Effects.append_calls (e f : Effects) : (e ++ f).calls = e.calls ++ f.calls := rfl

@[simp] theorem Effects.none_mappings : Effects.none.mappings = [] := rfl

@[simp] theorem Effects.none_calls : Effects.none.calls = [] := rfl

theorem Effects.ext {e f : Effects} (hm : e.mappings = f.mappings) (hc : e.calls = f.calls) :
    e = f := by
  cases e
  cases f
  simp_all

@[simp] theorem Effects.append_none (e : Effects) : e ++ Effects.none = e :=
  Effects.ext (List.append_nil _) (List.append_nil _)

structure Course where
  progress : Progress
  effects : Effects

namespace Course

def start (routing : Routing) (request : Request) (services : Services) : Course :=
  ⟨(request.begin routing services).1, (request.begin routing services).2⟩

def look (routing : Routing) (c : Course) (services : Services) : Course :=
  match c.progress with
  | .ended _ => c
  | .waiting stage =>
    ⟨(stage.advance routing services).1, c.effects ++ (stage.advance routing services).2⟩

theorem look_waiting {c : Course} {stage : Stage} (h : c.progress = .waiting stage)
    (routing : Routing) (services : Services) :
    c.look routing services =
      ⟨(stage.advance routing services).1, c.effects ++ (stage.advance routing services).2⟩ := by
  simp only [look, h]

def run (routing : Routing) (request : Request) (first : Services) (later : List Services) :
    Course :=
  later.foldl (look routing) (start routing request first)

theorem run_concat (routing : Routing) (request : Request) (first : Services)
    (later : List Services) (services : Services) :
    run routing request first (later ++ [services]) =
      (run routing request first later).look routing services := by
  simp [run, List.foldl_append]

end Course

namespace Request

/-- What a request asks of the mapper: nothing, unless it names a thread from within a sandbox. -/
def consultations : Request → List (Origin × UInt64)
  | .property _ _ => []
  | .thread ⟨_, .host⟩ _ _ _ => []
  | .thread ⟨_, .flatpak application instancePid⟩ process _ _ =>
    [(.flatpak application instancePid, process)]

/-- The host's pid of the process that a request names, or why there is none, once that is known:
from the host it is known at once, from a sandbox it is what the mapper answers first. -/
def translation? (met : List Services) : Request → Option (Except MappingError UInt64)
  | .property _ _ => none
  | .thread ⟨_, .host⟩ process _ _ => some (.ok process)
  | .thread ⟨_, .flatpak application instancePid⟩ process _ _ =>
    met.findSome? fun services => services.mapPid (.flatpak application instancePid) process

def dueCalls (routing : Routing) (met : List Services) (request : Request) : List KitCall :=
  match request with
  | .property _ name => [.property name]
  | .thread _ _ task priority =>
    match request.translation? met with
    | some (.ok hostPid) => [.thread hostPid task (routing.pass priority)]
    | _ => []

variable {routing : Routing} {request : Request} {met : List Services} {call : KitCall}

theorem translation_settled {answer : Except MappingError UInt64}
    (h : request.translation? met = some answer) (more : List Services) :
    request.translation? (met ++ more) = some answer := by
  rcases request with ⟨⟨sender, origin⟩, process, task, priority⟩ | _
  · cases origin with
    | host => exact h
    | flatpak application instancePid =>
      simp only [translation?] at h ⊢
      rw [List.findSome?_append, h, Option.some_or]
  · exact h

theorem dueCalls_of_translation_error {e : MappingError}
    (h : request.translation? met = some (.error e)) (routing : Routing) :
    request.dueCalls routing met = [] := by
  cases request with
  | property => simp [translation?] at h
  | thread => simp [dueCalls, h]

theorem dueCalls_settled (h : request.dueCalls routing met = [call]) (more : List Services) :
    request.dueCalls routing (met ++ more) = [call] := by
  cases request with
  | property => exact h
  | thread caller process task priority =>
    cases ht : translation? met (.thread caller process task priority) with
    | none => simp [dueCalls, ht] at h
    | some answer =>
      simpa only [dueCalls, ht, translation_settled ht more] using h

end Request

def Progress.Fits (routing : Routing) (request : Request) (met : List Services) : Progress → Prop
  | .waiting (.mapping origin process task priority) =>
    request.translation? met = none ∧ ∃ sender application instancePid,
      origin = .flatpak application instancePid ∧
      request = .thread ⟨sender, origin⟩ process task priority
  | .waiting (.calling call) => request.dueCalls routing met = [call]
  | .ended result =>
    (∃ e, request.translation? met = some (.error e) ∧ result = .error (.pidMapping e)) ∨
    ∃ call, request.dueCalls routing met = [call] ∧
      ∃ services ∈ met, services.toKit.answer call = some result

section

variable {routing : Routing} {request : Request} {met : List Services} {progress : Progress}

/-- A failed translation ends the request, with the mapper's error. -/
theorem fits_of_translation_error {e : MappingError} (h : progress.Fits routing request met)
    (ht : request.translation? met = some (.error e)) :
    progress = .ended (.error (.pidMapping e)) := by
  have hnone := Request.dueCalls_of_translation_error ht routing
  cases progress with
  | waiting stage =>
    cases stage with
    | mapping => exact absurd (ht.symm.trans h.1) (Option.some_ne_none _)
    | calling call => exact absurd (h.symm.trans hnone) (List.cons_ne_nil _ _)
  | ended result =>
    rcases h with ⟨e', ht', rfl⟩ | ⟨call, hd, -⟩
    · obtain rfl : e = e' := Except.error.inj (Option.some.inj (ht.symm.trans ht'))
      rfl
    · exact absurd (hd.symm.trans hnone) (List.cons_ne_nil _ _)

/-- A request that is owed no call and whose translation is open has not ended. -/
theorem fits_of_translation_open (h : progress.Fits routing request met)
    (ht : request.translation? met = none) (hd : request.dueCalls routing met = []) :
    ∃ stage, progress = .waiting stage := by
  cases progress with
  | waiting stage => exact ⟨stage, rfl⟩
  | ended result =>
    rcases h with ⟨e, ht', -⟩ | ⟨call, hd', -⟩
    · exact absurd (ht'.symm.trans ht) (Option.some_ne_none _)
    · exact absurd (hd'.symm.trans hd) (List.cons_ne_nil _ _)

end

structure Course.Stands (routing : Routing) (request : Request) (met : List Services)
    (c : Course) : Prop where
  mappings : c.effects.mappings = request.consultations
  calls : c.effects.calls = request.dueCalls routing met
  fits : c.progress.Fits routing request met

section

variable {routing : Routing} {request : Request} {met : List Services} {services : Services}

/-- A call that is made waits for its answer, or ends with it. -/
theorem settle_fits {call : KitCall} (h : request.dueCalls routing met = [call])
    (hm : services ∈ met) : (services.toKit.settle call).Fits routing request met := by
  unfold Kit.settle
  cases ha : services.toKit.answer call with
  | none => exact h
  | some result => exact Or.inr ⟨call, h, services, hm, ha⟩

/-- A look at a request that waits for the mapper, be it the first or a further one. -/
theorem mapping_advance (routing : Routing) (services : Services)
    {sender application : String} {instancePid : UInt32}
    {process task : UInt64} {priority : Priority}
    (hr : request = .thread ⟨sender, .flatpak application instancePid⟩ process task priority)
    (hn : request.translation? met = none) :
    let onward := (Stage.mapping (.flatpak application instancePid) process task priority).advance
      routing services
    onward.2.mappings = [] ∧ onward.2.calls = request.dueCalls routing (met ++ [services]) ∧
      onward.1.Fits routing request (met ++ [services]) := by
  have ht : request.translation? (met ++ [services]) =
      services.mapPid (.flatpak application instancePid) process := by
    rw [hr, Request.translation?] at hn ⊢
    rw [List.findSome?_append, hn, Option.none_or, List.findSome?_singleton]
  have hd : request.dueCalls routing (met ++ [services]) =
      match services.mapPid (.flatpak application instancePid) process with
      | some (.ok hostPid) => [.thread hostPid task (routing.pass priority)]
      | _ => [] := by
    rw [← ht]
    simp only [hr, Request.dueCalls]
  simp only [Stage.advance]
  cases hm : services.mapPid (.flatpak application instancePid) process with
  | none =>
    simp only [hm] at ht hd
    exact ⟨rfl, hd.symm, ht, sender, application, instancePid, rfl, hr⟩
  | some answer =>
    cases answer with
    | error e =>
      simp only [hm] at ht hd
      exact ⟨rfl, hd.symm, Or.inl ⟨e, ht, rfl⟩⟩
    | ok hostPid =>
      simp only [hm] at hd
      exact ⟨rfl, hd.symm, settle_fits hd (by simp)⟩

end

namespace Course

variable {routing : Routing} {request : Request} {met : List Services} {c : Course}

theorem stands_start (routing : Routing) (request : Request) (services : Services) :
    (start routing request services).Stands routing request [services] := by
  rcases request with ⟨⟨sender, origin⟩, process, task, priority⟩ | ⟨sender, name⟩
  · cases origin with
    | host => exact ⟨rfl, rfl, settle_fits rfl (by simp)⟩
    | flatpak application instancePid =>
      have hn : Request.translation? []
          (.thread ⟨sender, .flatpak application instancePid⟩ process task priority) = none := rfl
      obtain ⟨-, hcalls, hfits⟩ := mapping_advance routing services rfl hn
      exact ⟨rfl, hcalls, hfits⟩
  · exact ⟨rfl, rfl, settle_fits rfl (by simp)⟩

theorem stands_look (h : c.Stands routing request met) (services : Services) :
    (c.look routing services).Stands routing request (met ++ [services]) := by
  obtain ⟨progress, effects⟩ := c
  obtain ⟨hmappings, hcalls, hfits⟩ := h
  cases progress with
  | ended result =>
    rcases hfits with ⟨e, ht, rfl⟩ | ⟨call, hd, met', hm, ha⟩
    · have ht' := Request.translation_settled ht [services]
      refine ⟨hmappings, ?_, Or.inl ⟨e, ht', rfl⟩⟩
      rw [Request.dueCalls_of_translation_error ht' routing]
      exact hcalls.trans (Request.dueCalls_of_translation_error ht routing)
    · have hd' := Request.dueCalls_settled hd [services]
      refine ⟨hmappings, ?_, Or.inr ⟨call, hd', met', List.mem_append_left _ hm, ha⟩⟩
      exact (hcalls.trans hd).trans hd'.symm
  | waiting stage =>
    cases stage with
    | mapping origin process task priority =>
      obtain ⟨hn, sender, application, instancePid, rfl, hr⟩ := hfits
      obtain ⟨hm, hc, hf⟩ := mapping_advance routing services hr hn
      -- As long as the mapper is at work nothing has been called.
      have hnone : effects.calls = [] := by
        subst hr
        simpa [Request.dueCalls, hn] using hcalls
      refine ⟨?_, ?_, hf⟩
      · simpa [look, hm] using hmappings
      · simpa [look, hnone] using hc
    | calling call =>
      have hd' := Request.dueCalls_settled hfits [services]
      refine ⟨?_, ?_, settle_fits hd' (by simp)⟩
      · simpa [look, Stage.advance] using hmappings
      · simpa [look, Stage.advance, hd'] using hcalls.trans hfits

/-- What a request has asked and how far it has come, after any looks. -/
theorem stands_run (routing : Routing) (request : Request) (first : Services)
    (later : List Services) :
    (run routing request first later).Stands routing request (first :: later) := by
  suffices aux : ∀ more met c, Stands routing request met c →
      Stands routing request (met ++ more) (more.foldl (look routing) c) from
    aux later [first] _ (stands_start routing request first)
  intro more
  induction more with
  | nil => exact fun met c h => by simpa using h
  | cons services more ih =>
    intro met c h
    simpa using ih (met ++ [services]) _ (stands_look h services)

end Course

end PriorityPortal
