import Mathlib.Algebra.Group.Int.Defs
import PriorityPortal.Proofs.Completion
import PriorityPortal.Proofs.Locality
/-!
# Legacy routing spells calls another way

Where RealtimeKit does not care for which priority it is asked, a relay with legacy routing does
step by step what one with native routing does. Only the calls for a nice level are spelt another
way, as calls for a realtime priority, and each nice level has a spelling of its own.
-/
namespace PriorityPortal

/-- A RealtimeKit that answers alike whatever priority a thread is to be given. -/
def Kit.Indifferent (kit : Kit) : Prop :=
  ∀ process task p q, kit.setPriority process task p = kit.setPriority process task q

/-- A call with its nice level, if it has one, counted modulo 2^32 and taken for a realtime
priority. -/
def KitCall.respelt : KitCall → KitCall
  | .thread process task (.highPriority nice) =>
    .thread process task (.realtime (UInt32.ofNat (nice.toInt % 2 ^ 32).toNat))
  | call => call

def Stage.respelt : Stage → Stage
  | .calling call => .calling call.respelt
  | .mapping origin process task priority => .mapping origin process task priority

def Progress.respelt : Progress → Progress
  | .waiting stage => .waiting stage.respelt
  | .ended result => .ended result

def Effects.respelt (effects : Effects) : Effects :=
  ⟨effects.mappings, effects.calls.map KitCall.respelt⟩

def Pending.respelt (p : Pending) : Pending := { p with stage := p.stage.respelt }

def Relay.respelt (r : Relay) : Relay := ⟨.legacy, r.counters, r.pending.map Pending.respelt⟩

def RelayStep.respelt (step : RelayStep) : RelayStep :=
  ⟨step.relay.respelt, step.seen, step.effects.respelt⟩

theorem Priority.toUInt32_eq_mod (nice : Int32) :
    nice.toUInt32 = UInt32.ofNat (nice.toInt % 2 ^ 32).toNat := by
  have hbits : nice.toUInt32.toNat = nice.toBitVec.toNat := rfl
  have hsigned : nice.toInt = nice.toBitVec.toInt := rfl
  have hlt := nice.toBitVec.isLt
  have hmod : nice.toUInt32.toNat = (nice.toInt % 2 ^ 32).toNat := by
    rw [hbits, hsigned, BitVec.toInt_eq_toNat_cond]
    split <;> omega
  rw [← hmod, UInt32.ofNat_toNat]

theorem Routing.legacy_pass_injective {m n : Int32}
    (h : Routing.legacy.pass (.highPriority m) = Routing.legacy.pass (.highPriority n)) :
    m = n := by
  have hbits : m.toUInt32 = n.toUInt32 := Priority.realtime.inj h
  rw [← Int32.toInt32_toUInt32 m, hbits, Int32.toInt32_toUInt32]

theorem Routing.legacy_call (process task : UInt64) (priority : Priority) :
    Routing.legacy.call process task priority =
      (Routing.native.call process task priority).respelt := by
  cases priority with
  | realtime level => rfl
  | highPriority nice =>
    exact congrArg (fun level => KitCall.thread process task (.realtime level))
      (Priority.toUInt32_eq_mod nice)

section

variable {kit : Kit} {services : Services}

theorem Kit.Indifferent.answer_respelt (h : kit.Indifferent) (call : KitCall) :
    kit.answer call.respelt = kit.answer call := by
  cases call with
  | property name => rfl
  | thread process task priority =>
    cases priority with
    | realtime level => rfl
    | highPriority nice =>
      simp only [KitCall.respelt, Kit.answer]
      rw [h process task _ (.highPriority nice)]

theorem Kit.Indifferent.settle_respelt (h : kit.Indifferent) (call : KitCall) :
    kit.settle call.respelt = (kit.settle call).respelt := by
  simp only [Kit.settle, h.answer_respelt]
  cases kit.answer call <;> rfl

theorem Kit.Indifferent.advance_respelt (h : services.toKit.Indifferent) (stage : Stage) :
    stage.respelt.advance .legacy services =
      ((stage.advance .native services).1.respelt, (stage.advance .native services).2.respelt) := by
  cases stage with
  | calling call =>
    simp [Stage.respelt, Stage.advance, h.settle_respelt, Effects.respelt, Effects.none]
  | mapping origin process task priority =>
    simp only [Stage.respelt, Stage.advance]
    cases services.mapPid origin process with
    | none => rfl
    | some answer =>
      cases answer with
      | error e => rfl
      | ok hostPid => simp [Routing.legacy_call, h.settle_respelt, Effects.respelt]

theorem Kit.Indifferent.begin_respelt (h : services.toKit.Indifferent) (request : Request) :
    request.begin .legacy services =
      ((request.begin .native services).1.respelt, (request.begin .native services).2.respelt) := by
  cases request with
  | property sender name =>
    have hsettle := h.settle_respelt (.property name)
    exact Prod.ext hsettle rfl
  | thread caller process task priority =>
    obtain ⟨sender, origin⟩ := caller
    cases origin with
    | host =>
      simp [Request.begin, Origin.isHost, Routing.legacy_call, h.settle_respelt, Effects.respelt]
    | flatpak application instancePid =>
      have hadvance := h.advance_respelt
        (.mapping (.flatpak application instancePid) process task priority)
      simp only [Stage.respelt] at hadvance
      simp [Request.begin, Origin.isHost, hadvance, Effects.respelt]

end

namespace Relay

variable {r : Relay}

theorem find_respelt (r : Relay) (key : Nat) :
    r.respelt.find? key = (r.find? key).map Pending.respelt := by
  simp only [respelt, find?, List.find?_map]
  rfl

theorem find_respelt_none {key : Nat} (h : r.find? key = none) : r.respelt.find? key = none := by
  rw [find_respelt, h, Option.map_none]

theorem find_respelt_some {key : Nat} {p : Pending} (h : r.find? key = some p) :
    r.respelt.find? key = some p.respelt := by
  rw [find_respelt, h, Option.map_some]

theorem respelt_taking (r : Relay) (key : Nat) (now : Duration) (progress : Progress) :
    r.respelt.taking key now progress.respelt = (r.taking key now progress).respelt := by
  cases progress with
  | waiting stage => simp [taking, add, respelt, Progress.respelt, Pending.respelt]
  | ended result => rfl

theorem respelt_remove (r : Relay) (key : Nat) :
    r.respelt.remove key = (r.remove key).respelt := by
  simp only [remove, respelt, List.filter_map]
  rfl

theorem respelt_bringing (r : Relay) (p : Pending) (now : Duration) (progress : Progress) :
    r.respelt.bringing p.respelt now progress.respelt = (r.bringing p now progress).respelt := by
  cases progress with
  | waiting stage =>
    simp only [bringing, move, respelt, Progress.respelt, List.map_map]
    congr 1
    apply List.map_congr_left
    intro q hq
    by_cases hk : q.key = p.key <;> simp [Pending.respelt, hk]
  | ended result =>
    simp only [bringing, Progress.respelt]
    rw [show p.respelt.key = p.key from rfl, respelt_remove]
    rfl

end Relay

theorem Progress.seen_respelt (progress : Progress) : progress.respelt.seen = progress.seen := by
  cases progress <;> rfl

section

variable {r : Relay} {services : Services}

theorem Kit.Indifferent.next_respelt (h : services.toKit.Indifferent) (hr : r.routing = .native)
    (event : RelayEvent) : r.respelt.next services event = (r.next services event).respelt := by
  have hlegacy : r.respelt.routing = .legacy := rfl
  cases event with
  | start key request =>
    cases hp : r.find? key with
    | some p =>
      rw [Relay.next_start_in_use (Relay.find_respelt_some hp), Relay.next_start_in_use hp]
      rfl
    | none =>
      rw [Relay.next_start (Relay.find_respelt_none hp), Relay.next_start hp, hlegacy, hr,
        h.begin_respelt, Relay.respelt_taking, Progress.seen_respelt]
      rfl
  | poll key =>
    cases hp : r.find? key with
    | none =>
      rw [Relay.next_poll_unknown (Relay.find_respelt_none hp), Relay.next_poll_unknown hp]
      rfl
    | some p =>
      have hstage : p.respelt.stage = p.stage.respelt := rfl
      rw [Relay.next_poll (Relay.find_respelt_some hp), Relay.next_poll hp, hlegacy, hr, hstage,
        h.advance_respelt, Relay.respelt_bringing, Progress.seen_respelt]
      rfl
  | drop key =>
    cases hp : r.find? key with
    | none =>
      rw [Relay.next_drop_unknown (Relay.find_respelt_none hp), Relay.next_drop_unknown hp]
      rfl
    | some p =>
      have hkey : p.respelt.key = p.key := rfl
      rw [Relay.next_drop (Relay.find_respelt_some hp), Relay.next_drop hp, hkey,
        Relay.respelt_remove]
      rfl

theorem Relay.steps_respelt {history : List (Services × RelayEvent)}
    (h : ∀ moment ∈ history, moment.1.toKit.Indifferent) (hr : r.routing = .native) :
    r.respelt.steps history = (r.steps history).map RelayStep.respelt := by
  -- The routing stays native, so that the next step has its counterpart too.
  induction history generalizing r with
  | nil => rfl
  | cons moment history ih =>
    have hstep := (h moment List.mem_cons_self).next_respelt hr moment.2
    have hrouting : (r.next moment.1 moment.2).relay.routing = .native :=
      (r.next_follows moment.1 moment.2).routing.trans hr
    have hrest := ih (fun later hm => h later (List.mem_cons_of_mem _ hm)) hrouting
    simp only [Relay.steps, List.map_cons, hstep]
    exact congrArg _ hrest

end

/-- Whatever requests are started, polled and dropped, and whatever the services answer meanwhile,
legacy routing shows, asks of the mapper and counts at every step what native routing does, and
makes the same calls of RealtimeKit but for their spelling, which tells the nice level. -/
theorem legacy_respells_native (history : List (Services × RelayEvent))
    (indifferent : ∀ moment ∈ history, moment.1.toKit.Indifferent) :
    let native := (Relay.initial .native).steps history
    let legacy := (Relay.initial .legacy).steps history
    legacy.map (·.seen) = native.map (·.seen) ∧
      legacy.map (·.effects.mappings) = native.map (·.effects.mappings) ∧
      legacy.map (·.effects.calls) =
        native.map (fun step => step.effects.calls.map KitCall.respelt) ∧
      legacy.map (·.relay.counters) = native.map (·.relay.counters) ∧
      ∀ m n : Int32,
        Routing.legacy.pass (.highPriority m) = Routing.legacy.pass (.highPriority n) → m = n := by
  have hsteps := Relay.steps_respelt (r := .initial .native) indifferent rfl
  have hinitial : (Relay.initial .native).respelt = Relay.initial .legacy := rfl
  rw [hinitial] at hsteps
  intro native legacy
  have hlegacy : legacy = native.map RelayStep.respelt := hsteps
  refine ⟨?_, ?_, ?_, ?_, fun m n => Routing.legacy_pass_injective⟩
  all_goals
    rw [hlegacy, List.map_map]
    rfl

namespace Archive

/-- A nice level of -11 is asked for from a sandbox, and the mapper takes its time. -/
def sampleNiceHistory : List (Services × RelayEvent) :=
  [(sampleServices none none,
      .start 0 (.thread ⟨":1.7", sampleSandbox⟩ 42 43 (.highPriority (-11)))),
    (sampleServices (some (.ok 9001)) (some (.ok ())), .poll 0)]

theorem legacy_respells_native_sample :
    (∀ moment ∈ sampleNiceHistory, moment.1.toKit.Indifferent) ∧
      ((Relay.initial .legacy).steps sampleNiceHistory).map (·.effects.calls) =
        [[], [.thread 9001 43 (.realtime 4294967285)]] := by
  have indifferent : ∀ moment ∈ sampleNiceHistory, moment.1.toKit.Indifferent := by
    intro moment hm
    simp only [sampleNiceHistory, List.mem_cons, List.not_mem_nil, or_false] at hm
    rcases hm with rfl | rfl
    all_goals exact fun _ _ _ _ => rfl
  have respelt := (legacy_respells_native sampleNiceHistory indifferent).2.2.1
  exact ⟨indifferent, respelt⟩

end Archive

end PriorityPortal
