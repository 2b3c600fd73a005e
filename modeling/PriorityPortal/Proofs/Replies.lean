import PriorityPortal.Proofs.Completion
import PriorityPortal.Proofs.Occasion
/-!
# Replies and counters

The counters of a portal agree with what it has answered. A call whose sender is not identified is
answered with an error that nothing counts; every other call is counted when it comes in and once
more when it is answered, as a success or as an error.
-/
namespace PriorityPortal

variable {κ : Type}

namespace Moment

def isCall (m : Moment κ) : Bool :=
  match m.occasion with
  | .message _ => true
  | .look .. => false

def isRefused (settings : Settings) (m : Moment κ) : Bool :=
  match m.occasion with
  | .message inbound => inbound.asksForThread && decide (inbound.Unidentified settings)
  | .look .. => false

def succeeds (m : Moment κ) : Bool :=
  match m.step.answer with
  | some (.reply _) => true
  | _ => false

def fails (m : Moment κ) : Bool :=
  match m.step.answer with
  | some (.failure _ _) => true
  | _ => false

end Moment

def tick (b : Bool) : Nat := if b then 1 else 0

theorem tick_and_not (a b : Bool) : tick (a && !b) = tick a - tick b := by
  cases a <;> cases b <;> rfl

section

variable {c d : Counters} {progress : Progress} {m : Moment κ}

def Outcome.isError (outcome : Outcome) : Bool :=
  outcome matches .mappingFailed | .downstreamFailed | .invalidResponse

/-- The outcome that is counted, and the answer that goes with it. -/
inductive Paired : Option Outcome → Option DBus.Answer → Prop where
  | waiting : Paired none none
  | success {args} : Paired (some .success) (some (.reply args))
  | failure {outcome name args} (error : outcome.isError = true) :
      Paired (some outcome) (some (.failure name args))

theorem paired_of_answered {answer : Option DBus.Answer} (h : progress.Answered answer) :
    Paired progress.outcome? answer := by
  cases progress with
  | waiting stage =>
    obtain rfl : answer = none := h
    exact .waiting
  | ended result =>
    cases result with
    | ok reply =>
      obtain ⟨args, rfl⟩ := h
      exact .success
    | error e =>
      obtain ⟨name, args, rfl⟩ := h
      exact .failure (by cases e <;> rfl)

structure Matched (c d : Counters) (m : Moment κ) : Prop where
  successes : d.successes = c.successes + .ofNat (tick m.succeeds)
  errors : d.errors = c.errors + .ofNat (tick m.fails)
  abandoned : d.abandoned = c.abandoned

theorem matched_of_paired {outcome : Option Outcome} (h : Paired outcome m.step.answer)
    (hcount : ∀ other, d.count other = c.count other + if outcome = some other then 1 else 0) :
    Matched c d m := by
  have hsuccess : d.successes = _ := hcount .success
  have hmapping : d.mappingFailures = _ := hcount .mappingFailed
  have hdownstream : d.downstreamFailures = _ := hcount .downstreamFailed
  have hinvalid : d.invalidResponses = _ := hcount .invalidResponse
  have habandoned : d.abandoned = _ := hcount .abandoned
  obtain ⟨before, occasion, exports, answer, lookups, mappings, calls⟩ := m
  cases h with
  | waiting =>
    constructor <;> simp [*, Moment.succeeds, Moment.fails, tick, Counters.errors, Counters.count]
  | success =>
    constructor <;> simp [*, Moment.succeeds, Moment.fails, tick, Counters.errors, Counters.count]
  | @failure outcome name args error =>
    cases outcome with
    | success | abandoned => cases error
    | mappingFailed | downstreamFailed | invalidResponse =>
      constructor <;>
        simp [*, Moment.succeeds, Moment.fails, tick, Counters.errors, Counters.count]
      all_goals ac_rfl

/-- A request is answered once it no longer waits. -/
theorem tick_answered (h : progress.Answered m.step.answer) :
    tick m.succeeds + tick m.fails = tick progress.stage?.isNone := by
  have hstage : progress.stage?.isNone = progress.outcome?.isSome := by cases progress <;> rfl
  have hpaired := paired_of_answered h
  obtain ⟨before, occasion, exports, answer, lookups, mappings, calls⟩ := m
  rw [hstage]
  generalize progress.outcome? = outcome at hpaired
  cases hpaired <;> rfl

end

/-- What an occasion adds to the counters of the portal and to the requests that it holds. -/
structure Change (settings : Settings) (m : Moment κ) (p q : Portal κ) : Prop where
  requests : q.relay.counters.requests =
    p.relay.counters.requests + .ofNat (tick (m.isCall && !m.isRefused settings))
  successes : q.relay.counters.successes = p.relay.counters.successes + .ofNat (tick m.succeeds)
  errors : q.relay.counters.errors =
    p.relay.counters.errors + .ofNat (tick (m.fails && !m.isRefused settings))
  abandoned : q.relay.counters.abandoned = p.relay.counters.abandoned
  told : m.isRefused settings = true → m.isCall = true ∧ m.fails = true
  accounted : tick m.isCall + p.relay.pending.length =
    tick m.succeeds + tick m.fails + q.relay.pending.length
  distinct : (q.relay.pending.map (·.key)).Nodup

section

variable {settings : Settings} {p q : Portal κ} {m : Moment κ} {progress : Progress}

theorem change_taken (hnumbered : p.Numbered) (hdistinct : (p.relay.pending.map (·.key)).Nodup)
    (hcall : m.isCall = true) (hrefused : m.isRefused settings = false) (now : Duration)
    (hanswer : progress.Answered m.step.answer) : Change settings m p (p.taking now progress) := by
  have hmatched : Matched p.relay.counters (p.taking now progress).relay.counters m :=
    matched_of_paired (paired_of_answered hanswer) (p.relay.taking_outcome p.taken now progress)
  have hpending : (p.taking now progress).relay.pending = _ :=
    Relay.taking_pending p.relay p.taken now progress
  have hanswered := tick_answered hanswer
  refine ⟨?_, hmatched.successes, ?_, hmatched.abandoned, ?_, ?_, ?_⟩
  · rw [hcall, hrefused]
    exact p.relay.taking_requests p.taken now progress
  · simpa [hrefused] using hmatched.errors
  · simp [hrefused]
  · rw [hpending, hcall, hanswered, List.length_append, Option.length_toList, Option.isSome_map]
    cases progress.stage? <;> simp [tick, Nat.add_comm]
  · have hfresh := Relay.find_none_iff.mp hnumbered.fresh
    rw [hpending, List.map_append]
    cases progress.stage? with
    | none => simpa using hdistinct
    | some stage => simpa [List.nodup_append, hdistinct] using hfresh

/-- A look leaves the keys of the requests that are held, but for one that has ended. -/
theorem bringing_pending {r : Relay} {pending : Pending}
    (hdistinct : (r.pending.map (·.key)).Nodup) (hheld : pending ∈ r.pending) (now : Duration)
    (progress : Progress) :
    r.pending.length =
      tick progress.stage?.isNone + (r.bringing pending now progress).pending.length ∧
    ((r.bringing pending now progress).pending.map (·.key)).Nodup := by
  cases progress with
  | waiting stage =>
    have hkeys : (r.move pending.key stage).pending.map (·.key) = r.pending.map (·.key) := by
      simp only [Relay.move, List.map_map]
      refine List.map_congr_left fun q _ => ?_
      dsimp only [Function.comp_apply]
      split <;> rfl
    have hlength := congrArg List.length hkeys
    simp only [List.length_map] at hlength
    refine ⟨?_, hkeys ▸ hdistinct⟩
    simp only [Relay.bringing, hlength, Progress.stage?, Option.isNone_some, tick]
    simp
  | ended result =>
    obtain ⟨before, behind, hsplit⟩ := List.append_of_mem hheld
    have hparts := hdistinct
    rw [hsplit] at hparts
    obtain ⟨hbefore, hbehind⟩ := absent_of_distinct hparts
    have hremoved : (r.remove pending.key).pending = before ++ behind := by
      simp only [Relay.remove, hsplit]
      exact filter_one hbefore hbehind
    have hrest : (before ++ behind).Sublist r.pending :=
      hsplit ▸ (List.sublist_cons_self pending behind).append_left before
    change _ = _ + (r.remove pending.key).pending.length ∧
      ((r.remove pending.key).pending.map (·.key)).Nodup
    rw [hremoved]
    refine ⟨?_, hdistinct.sublist (hrest.map _)⟩
    simp [hsplit, Progress.stage?, tick]
    omega

theorem change_looked {number : Nat} {pending : Pending}
    (hdistinct : (p.relay.pending.map (·.key)).Nodup)
    (hfound : p.relay.find? number = some pending)
    (hcall : m.isCall = false) (hrefused : m.isRefused settings = false) (now : Duration)
    (hanswer : progress.Answered m.step.answer) :
    Change settings m p { p with relay := p.relay.bringing pending now progress } := by
  have hmatched : Matched p.relay.counters (p.relay.bringing pending now progress).counters m :=
    matched_of_paired (paired_of_answered hanswer) (p.relay.bringing_outcome pending now progress)
  have hanswered := tick_answered hanswer
  obtain ⟨hlength, hkeys⟩ :=
    bringing_pending hdistinct (Relay.find_some hfound).2 now progress
  refine ⟨?_, hmatched.successes, ?_, hmatched.abandoned, ?_, ?_, hkeys⟩
  · rw [hcall]
    simpa [tick] using p.relay.bringing_requests pending now progress
  · simpa [hrefused] using hmatched.errors
  · simp [hrefused]
  · rw [hcall, hanswered]
    simpa [tick] using hlength

theorem change_of_met {before : Exports κ} {occasion : Occasion κ} {step : ExportsStep κ}
    (hnumbered : p.Numbered) (hdistinct : (p.relay.pending.map (·.key)).Nodup)
    (h : Met settings p occasion step q) : Change settings ⟨before, occasion, step⟩ p q := by
  cases h with
  | @refused inbound _ name args thread unidentified answer mappings calls =>
    have hrefused : Moment.isRefused settings ⟨before, .message inbound, step⟩ = true := by
      simp [Moment.isRefused, thread, unidentified]
    refine ⟨?_, ?_, ?_, rfl, ?_, ?_, hdistinct⟩ <;>
      simp [hrefused, Moment.isCall, Moment.succeeds, Moment.fails, answer, tick, Portal.onTree]
  | @taken inbound _ identified progress answer =>
    have hrefused : Moment.isRefused settings ⟨before, .message inbound, step⟩ = false := by
      simpa [Moment.isRefused] using identified
    have hthere : (p.onTree inbound.tree).Numbered := hnumbered
    have hon : Change settings ⟨before, .message inbound, step⟩ (p.onTree inbound.tree)
        ((p.onTree inbound.tree).taking inbound.around.now progress) :=
      change_taken hthere hdistinct rfl hrefused inbound.around.now answer
    exact ⟨hon.requests, hon.successes, hon.errors, hon.abandoned, hon.told, hon.accounted,
      hon.distinct⟩
  | idle answer =>
    refine ⟨?_, ?_, ?_, rfl, ?_, ?_, hdistinct⟩ <;>
      simp [Moment.isCall, Moment.isRefused, Moment.succeeds, Moment.fails, answer, tick]
  | looked found progress answer =>
    exact change_looked hdistinct found rfl rfl _ answer

end

/-- The counters of a portal and the requests that it holds, against what has happened so far. -/
structure Books (settings : Settings) (past : List (Moment κ)) (p : Portal κ) : Prop where
  requests : p.relay.counters.requests =
    .ofNat (past.countP Moment.isCall - past.countP (Moment.isRefused settings))
  successes : p.relay.counters.successes = .ofNat (past.countP Moment.succeeds)
  errors : p.relay.counters.errors =
    .ofNat (past.countP Moment.fails - past.countP (Moment.isRefused settings))
  abandoned : p.relay.counters.abandoned = 0
  told : past.countP (Moment.isRefused settings) ≤ past.countP Moment.fails
  accounted : past.countP Moment.isCall = past.countP Moment.succeeds +
    past.countP Moment.fails + p.relay.pending.length
  distinct : (p.relay.pending.map (·.key)).Nodup

section

variable {settings : Settings} {past : List (Moment κ)} {p q : Portal κ} {m : Moment κ}

theorem countP_concat (count : Moment κ → Bool) :
    (past ++ [m]).countP count = past.countP count + tick (count m) := by
  rw [List.countP_append, List.countP_singleton, tick]

theorem Books.next (h : Books settings past p) (hchange : Change settings m p q) :
    Books settings (past ++ [m]) q := by
  have htold := h.told
  have haccounted := h.accounted
  have hgrown := hchange.accounted
  obtain ⟨hcall, hfails⟩ : tick (m.isRefused settings) ≤ tick m.isCall ∧
      tick (m.isRefused settings) ≤ tick m.fails := by
    cases hr : m.isRefused settings with
    | false => exact ⟨Nat.zero_le _, Nat.zero_le _⟩
    | true =>
      obtain ⟨hcall, hfails⟩ := hchange.told hr
      rw [hcall, hfails]
      exact ⟨Nat.le_refl _, Nat.le_refl _⟩
  -- No more calls are refused than come in or fail, so that the differences add up.
  have hsplit : ∀ total refused more less : Nat, refused ≤ total → less ≤ more →
      total + more - (refused + less) = (total - refused) + (more - less) := by
    omega
  refine ⟨?_, ?_, ?_, ?_, ?_, ?_, hchange.distinct⟩
  · rw [countP_concat, countP_concat, hsplit _ _ _ _ (by omega) hcall, UInt64.ofNat_add,
      ← tick_and_not, hchange.requests, h.requests]
  · rw [countP_concat, hchange.successes, h.successes, UInt64.ofNat_add]
  · rw [countP_concat, countP_concat, hsplit _ _ _ _ htold hfails, UInt64.ofNat_add,
      ← tick_and_not, hchange.errors, h.errors]
  · rw [hchange.abandoned, h.abandoned]
  · rw [countP_concat, countP_concat]
    omega
  · rw [countP_concat, countP_concat, countP_concat]
    omega

theorem books_course {e : Exports κ} (h : e.Serves settings p) (hbooks : Books settings past p)
    {occasions : List (Occasion κ)} (haddressed : ∀ o ∈ occasions, o.Addressed settings)
    (hclean : ∀ o ∈ occasions, o.around.Clean) :
    ∃ q, (e.after occasions).Serves settings q ∧
      Books settings (past ++ e.course occasions) q := by
  -- The past grows with every occasion, so the books are kept for any past.
  induction occasions generalizing e p past with
  | nil => exact ⟨p, h, by simpa [Exports.course] using hbooks⟩
  | cons occasion rest ih =>
    obtain ⟨haddress, hrest⟩ := List.forall_mem_cons.mp haddressed
    obtain ⟨hthis, hothers⟩ := List.forall_mem_cons.mp hclean
    obtain ⟨q, hmet, hserves⟩ := h.meet_met haddress hthis
    have hchange : Change settings ⟨e, occasion, e.meet occasion⟩ p q :=
      change_of_met h.numbered hbooks.distinct hmet
    obtain ⟨final, hfinal, hall⟩ := ih hserves (hbooks.next hchange) hrest hothers
    exact ⟨final, hfinal, by simpa [Exports.course] using hall⟩

end

theorem Counters.finished_eq (c : Counters) :
    c.finished = c.successes + c.errors + c.abandoned := by
  unfold finished errors
  ac_rfl

/-- The counters of a portal, against the calls that it has taken and its answers to them. -/
structure Reconciled (settings : Settings) (course : List (Moment κ)) (c : Counters) : Prop where
  requests : c.requests + .ofNat (course.countP (Moment.isRefused settings)) =
    .ofNat (course.countP Moment.isCall)
  successes : c.successes = .ofNat (course.countP Moment.succeeds)
  errors : c.errors + .ofNat (course.countP (Moment.isRefused settings)) =
    .ofNat (course.countP Moment.fails)
  abandoned : c.abandoned = 0
  /-- Once each call is answered. -/
  inFlight : course.countP Moment.isCall =
    course.countP Moment.succeeds + course.countP Moment.fails → c.inFlight = 0
  /-- The counters are words, and so all this holds of them as numbers while these are small. -/
  numbers : course.countP Moment.isCall < UInt64.size →
    c.requests.toNat + course.countP (Moment.isRefused settings) = course.countP Moment.isCall ∧
    c.successes.toNat = course.countP Moment.succeeds ∧
    c.errors.toNat + course.countP (Moment.isRefused settings) = course.countP Moment.fails ∧
    c.inFlight.toNat + course.countP Moment.succeeds + course.countP Moment.fails =
      course.countP Moment.isCall

theorem Books.finished {settings : Settings} {past : List (Moment κ)} {p : Portal κ}
    (h : Books settings past p) : p.relay.counters.finished =
      .ofNat (past.countP Moment.succeeds + past.countP Moment.fails -
        past.countP (Moment.isRefused settings)) := by
  have htold := h.told
  rw [Counters.finished_eq, h.successes, h.errors, h.abandoned, UInt64.add_zero, ← UInt64.ofNat_add]
  congr 1
  omega

theorem Books.reconciled {settings : Settings} {past : List (Moment κ)} {p : Portal κ}
    (h : Books settings past p) : Reconciled settings past p.relay.counters := by
  have htold := h.told
  have haccounted := h.accounted
  have hfinished := h.finished
  refine ⟨?_, h.successes, ?_, h.abandoned, ?_, ?_⟩
  · rw [h.requests, ← UInt64.ofNat_add]
    congr 1
    omega
  · rw [h.errors, ← UInt64.ofNat_add]
    congr 1
    omega
  · intro hall
    rw [← hall, ← h.requests] at hfinished
    simp [Counters.inFlight, hfinished]
  · intro hfew
    have hsize : UInt64.size = 18446744073709551616 := rfl
    have hrequests := congrArg UInt64.toNat h.requests
    have hsuccesses := congrArg UInt64.toNat h.successes
    have herrors := congrArg UInt64.toNat h.errors
    have hdone := congrArg UInt64.toNat hfinished
    rw [UInt64.toNat_ofNat_of_lt' (by omega)] at hrequests hsuccesses herrors hdone
    have hflight := p.relay.counters.toNat_inFlight
    omega

structure Moment.Untraced (number : Nat) (m : Moment κ) (inbound : Inbound κ) : Prop where
  answer : ∃ name args, m.step.answer = some (.failure name args)
  exports : m.step.exports = m.before.onTree inbound.tree
  counters : m.step.exports.counters? number = m.before.counters? number
  calls : m.step.calls = []
  consultations : m.step.mappings = []

def Moment.Counted (number : Nat) (m : Moment κ) : Prop :=
  ∃ c d, m.before.counters? number = some c ∧ m.step.exports.counters? number = some d ∧
    d.requests = c.requests + 1

def Moment.Entered (settings : Settings) (number : Nat) (m : Moment κ) : Prop :=
  ∀ inbound, m.occasion = .message inbound →
    (inbound.asksForThread = true ∧ inbound.Unidentified settings → m.Untraced number inbound) ∧
    (¬ (inbound.asksForThread = true ∧ inbound.Unidentified settings) → m.Counted number)

namespace Exports

variable {settings : Settings} {e d : Exports κ} {p : Portal κ} {inbound : Inbound κ}

theorem Serves.counters (h : e.Serves settings p) : e.counters? 0 = some p.relay.counters := by
  simp [counters?, h.portals]

theorem Serves.unique (he : e.Serves settings p) (hd : d.Serves settings p) : e = d := by
  obtain ⟨portals, served⟩ := e
  obtain ⟨others, paths⟩ := d
  obtain rfl : portals = others := he.portals.trans hd.portals.symm
  obtain rfl : served = paths := he.served.trans hd.served.symm
  rfl

theorem Serves.entered (h : e.Serves settings p) {occasion : Occasion κ}
    (haddressed : occasion.Addressed settings) (hclean : occasion.around.Clean) :
    Moment.Entered settings 0 ⟨e, occasion, e.meet occasion⟩ := by
  obtain ⟨q, hmet, hserves⟩ := h.meet_met haddressed hclean
  rintro inbound rfl
  cases hmet with
  | refused thread unidentified answer mappings calls =>
    refine ⟨fun _ => ?_, fun hno => absurd ⟨thread, unidentified⟩ hno⟩
    have hthere := h.onTree inbound.tree
    refine ⟨⟨_, _, answer⟩, hserves.unique hthere, ?_, calls, mappings⟩
    exact hserves.counters.trans h.counters.symm
  | taken identified progress answer =>
    refine ⟨fun hrefused => absurd hrefused.2 (identified hrefused.1), fun _ => ?_⟩
    exact ⟨_, _, h.counters, hserves.counters,
      Relay.taking_requests p.relay p.taken inbound.around.now progress⟩

theorem number_added {link : Link κ} {tree : FileTree} {number : Nat}
    (h : Exports.empty.addIfReady link settings tree = .ok (e, some number)) : number = 0 := by
  unfold addIfReady at h
  cases hl : link.handle? with
  | none => simp [hl] at h
  | some kit =>
    by_cases hv : DBus.isObjectPath settings.portal.objectPath = true
    · simp only [hl, add, hv, empty, paths] at h
      have hnumber : 0 = number := by simpa [Except.map] using congrArg (Except.map Prod.snd) h
      exact hnumber.symm
    · simp [hl, add, hv, Except.map] at h

end Exports

theorem books_initial {settings : Settings} {tree : FileTree} {kit : κ} :
    Books settings [] (.ofSettings settings tree kit) := by
  constructor <;> simp [Portal.ofSettings, Relay.initial, Counters.zero, Counters.errors]

/-- Whatever calls a portal takes, and whenever it turns to them again: the replies agree with the
counters, and a call for a thread whose sender is not identified changes none of these. -/
theorem replies_match_counters {link : Link κ} {settings : Settings} {tree : FileTree}
    {e : Exports κ} {number : Nat}
    (exported : Exports.empty.addIfReady link settings tree = .ok (e, some number))
    (occasions : List (Occasion κ)) (addressed : ∀ o ∈ occasions, o.Addressed settings)
    (clean : ∀ o ∈ occasions, o.around.Clean) :
    (∀ m ∈ e.course occasions, m.Entered settings number) ∧
      ∃ c, (e.after occasions).counters? number = some c ∧
        Reconciled settings (e.course occasions) c := by
  obtain rfl := Exports.number_added exported
  obtain ⟨kit, -, hserves⟩ := Exports.serves_added exported
  constructor
  · refine Exports.course_all (fun e (h : ∃ p, e.Serves settings p) o ho => ?_) ⟨_, hserves⟩
    obtain ⟨p, h⟩ := h
    obtain ⟨q, -, hnext⟩ := h.meet_met (addressed o ho) (clean o ho)
    exact ⟨h.entered (addressed o ho) (clean o ho), q, hnext⟩
  · obtain ⟨q, hfinal, hbooks⟩ := books_course hserves books_initial addressed clean
    exact ⟨_, hfinal.counters, hbooks.reconciled⟩

/-- A call for a thread that is answered at a second look, one without a sender, and one for a
property in between. -/
def sampleCalls : List (Occasion Unit) :=
  let message := sampleInbound.message
  let slow := sampleSurroundings none
  [.message ⟨sampleInbound.tree, slow, message⟩,
    .message ⟨sampleInbound.tree, slow, { message with sender := none }⟩,
    .message ⟨sampleInbound.tree, slow, { message with
      sender := none, member := "GetProperty", args := [.string "MaxRealtimePriority"] }⟩,
    .look 0 0 (some ":1.7") (sampleSurroundings (some (.ok ())))]

theorem replies_match_counters_sample :
    (∀ o ∈ sampleCalls, o.Addressed .standard) ∧ (∀ o ∈ sampleCalls, o.around.Clean) ∧
      ∃ c, (sampleExports.after sampleCalls).counters? 0 = some c ∧ c.requests.toNat = 2 ∧
        c.successes = 2 ∧ c.errors.toNat = 0 ∧ c.inFlight = 0 ∧ c.abandoned = 0 := by
  have exported : Exports.empty.addIfReady ⟨some (.ok ()), [], 0⟩ .standard ⟨[]⟩ =
      .ok (sampleExports, some 0) := rfl
  have thread : PortalCall.ofMessage "MakeThreadRealtimeWithPID"
      [.uint64 42, .uint64 43, .uint32 10] = .ok (.thread 42 43 (.realtime 10)) := by
    simp [PortalCall.ofMessage, DBus.unpacked]
  have property : PortalCall.ofMessage "GetProperty" [.string "MaxRealtimePriority"] =
      .ok (.property "MaxRealtimePriority") := by
    simp [PortalCall.ofMessage, DBus.unpacked]
  have addressed : ∀ o ∈ sampleCalls, o.Addressed .standard := by
    simp only [sampleCalls, List.forall_mem_cons]
    exact ⟨⟨_, rfl, rfl, thread⟩, ⟨_, rfl, rfl, thread⟩, ⟨_, rfl, rfl, property⟩, trivial,
      List.forall_mem_nil _⟩
  have clean : ∀ o ∈ sampleCalls, o.around.Clean := by
    simp [sampleCalls, Occasion.around, sampleSurroundings_clean]
  have hcalls : (sampleExports.course sampleCalls).countP Moment.isCall = 3 := by decide +kernel
  -- The reading of arguments is no structural recursion, and so its results are written in first.
  have hrefused : (sampleExports.course sampleCalls).countP (Moment.isRefused .standard) = 1 := by
    simp only [sampleCalls, Exports.course, List.countP_cons, Moment.isRefused,
      Inbound.asksForThread, sampleInbound, thread, property]
    decide +kernel
  obtain ⟨hsucceeds, hfails⟩ : (sampleExports.course sampleCalls).countP Moment.succeeds = 2 ∧
      (sampleExports.course sampleCalls).countP Moment.fails = 1 := by
    simp only [sampleCalls, Exports.course, Exports.meet, Exports.receive, Exports.answer,
      Exports.answerHere, sampleInbound, thread, property]
    decide +kernel
  obtain ⟨-, c, hc, reconciled⟩ := replies_match_counters exported sampleCalls addressed clean
  obtain ⟨hrequests, -, herrors, -⟩ := reconciled.numbers (by rw [hcalls]; decide)
  rw [hcalls, hrefused] at hrequests
  rw [hrefused, hfails] at herrors
  refine ⟨addressed, clean, c, hc, Nat.succ.inj hrequests, ?_, Nat.succ.inj herrors, ?_,
    reconciled.abandoned⟩
  · rw [reconciled.successes, hsucceeds]
    rfl
  · exact reconciled.inFlight (by rw [hcalls, hsucceeds, hfails])

end PriorityPortal
