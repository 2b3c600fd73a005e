import Mathlib.Data.List.Basic
import PriorityPortal.Proofs.Completion
import PriorityPortal.Proofs.Locality
import PriorityPortal.Tally.Snapshot
/-!
# What counters tell

Counters that start from zero hold as numbers what has been counted, as long as this is little
enough for words.
-/
namespace PriorityPortal

namespace Tick

def isRequest : Tick → Bool
  | request => true
  | outcome .. => false

def isOutcome (which : Outcome) : Tick → Bool
  | request => false
  | outcome o _ => decide (o = which)

def microseconds? : Tick → Option Nat
  | request => none
  | outcome _ latency => some (latency.nanoseconds / 1000 % UInt64.size)

def latencies (ticks : List Tick) : List Nat := ticks.filterMap microseconds?

theorem countP_split (p : Tick → Bool) (tick : Tick) (rest : List Tick) :
    (tick :: rest).countP p = [tick].countP p + rest.countP p := by
  rw [← List.countP_append, List.singleton_append]

theorem latencies_split (tick : Tick) (rest : List Tick) :
    latencies (tick :: rest) = latencies [tick] ++ latencies rest := by
  unfold latencies
  rw [← List.filterMap_append, List.singleton_append]

end Tick

namespace Counters

variable (c : Counters) (ticks : List Tick)

theorem takeAll_concat (tick : Tick) :
    c.takeAll (ticks ++ [tick]) = (c.takeAll ticks).take tick := by
  simp [takeAll]

theorem takeAll_perm {s t : List Tick} (h : s.Perm t) : c.takeAll s = c.takeAll t :=
  h.foldl_eq' (fun a _ b _ c => take_right_comm c a b) c

/-- A reading to which each tick adds its share, up to wrapping, holds the shares of all. -/
theorem reading_takeAll (reading : Counters → UInt64) (share : List Tick → Nat)
    (nothing : share [] = 0)
    (split : ∀ tick rest, share (tick :: rest) = share [tick] + share rest)
    (step : ∀ c tick, reading (take c tick) = reading c + .ofNat (share [tick])) :
    reading (c.takeAll ticks) = reading c + .ofNat (share ticks) := by
  induction ticks generalizing c with
  | nil => simp [takeAll, nothing]
  | cons tick rest ih =>
    change reading ((c.take tick).takeAll rest) = _
    rw [ih, step, split tick rest, UInt64.ofNat_add, UInt64.add_assoc]

theorem requests_takeAll :
    (c.takeAll ticks).requests = c.requests + .ofNat (ticks.countP Tick.isRequest) := by
  refine reading_takeAll c ticks requests (List.countP Tick.isRequest) rfl (Tick.countP_split _) ?_
  intro c tick
  cases tick with
  | request => rfl
  | outcome => simp [take, Tick.isRequest]

theorem count_takeAll (which : Outcome) : (c.takeAll ticks).count which =
    c.count which + .ofNat (ticks.countP (Tick.isOutcome which)) := by
  refine reading_takeAll c ticks (count · which) (List.countP (Tick.isOutcome which)) rfl
    (Tick.countP_split _) ?_
  intro c tick
  cases tick with
  | request => simp [take, Tick.isOutcome]
  | outcome o latency =>
    by_cases h : o = which <;> simp [take, count_countOutcome, Tick.isOutcome, h]

theorem finished_takeAll :
    (c.takeAll ticks).finished = c.finished + .ofNat (Tick.latencies ticks).length := by
  refine reading_takeAll c ticks finished (fun ticks => (Tick.latencies ticks).length) rfl ?_ ?_
  · intro tick rest
    rw [Tick.latencies_split, List.length_append]
  · intro c tick
    cases tick with
    | request => exact (UInt64.add_zero _).symm
    | outcome o latency =>
      cases o <;> simp [take, countOutcome, increment, addLatency, finished, Tick.latencies,
        Tick.microseconds?] <;> ac_rfl

theorem peak_takeAll : (c.takeAll ticks).peakMicroseconds.toNat =
    (Tick.latencies ticks).foldl max c.peakMicroseconds.toNat := by
  induction ticks generalizing c with
  | nil => rfl
  | cons tick rest ih =>
    change ((c.take tick).takeAll rest).peakMicroseconds.toNat = _
    rw [ih]
    cases tick with
    | request => rfl
    | outcome o latency =>
      have hpeak : (c.take (.outcome o latency)).peakMicroseconds =
          max c.peakMicroseconds latency.microseconds := by
        cases o <;> rfl
      rw [hpeak, UInt64.toNat_max]
      simp [Tick.latencies, Tick.microseconds?, Duration.microseconds]

theorem finished_of_ticks :
    (zero.takeAll ticks).finished = .ofNat (Tick.latencies ticks).length := by
  have hzero : zero.finished = 0 := rfl
  rw [finished_takeAll, hzero, UInt64.zero_add]

theorem peak_of_ticks :
    (zero.takeAll ticks).peakMicroseconds.toNat = (Tick.latencies ticks).max?.getD 0 := by
  have hzero : zero.peakMicroseconds.toNat = 0 := rfl
  rw [peak_takeAll, hzero, List.foldl_max, Nat.zero_max]

end Counters

theorem Tick.outcomes_length (ticks : List Tick) :
    ticks.countP (isOutcome .success) + ticks.countP (isOutcome .mappingFailed) +
      ticks.countP (isOutcome .downstreamFailed) + ticks.countP (isOutcome .invalidResponse) +
      ticks.countP (isOutcome .abandoned) = (latencies ticks).length := by
  induction ticks with
  | nil => rfl
  | cons tick rest ih =>
    have hone : [tick].countP (isOutcome .success) + [tick].countP (isOutcome .mappingFailed) +
        [tick].countP (isOutcome .downstreamFailed) + [tick].countP (isOutcome .invalidResponse) +
        [tick].countP (isOutcome .abandoned) = (latencies [tick]).length := by
      cases tick with
      | request => rfl
      | outcome o => cases o <;> rfl
    rw [latencies_split, List.length_append]
    simp only [countP_split _ tick rest]
    omega

structure Counters.Tells (c : Counters) (ticks : List Tick) : Prop where
  requests : c.requests.toNat = ticks.countP Tick.isRequest
  outcomes : ∀ which, (c.count which).toNat = ticks.countP (Tick.isOutcome which)
  errors : c.errors.toNat =
    c.mappingFailures.toNat + c.downstreamFailures.toNat + c.invalidResponses.toNat
  /-- None if more outcomes than requests have been counted. -/
  inFlight : c.inFlight.toNat = c.requests.toNat - (c.successes.toNat + c.mappingFailures.toNat +
    c.downstreamFailures.toNat + c.invalidResponses.toNat + c.abandoned.toNat)
  peak : c.latencyPeak.nanoseconds = 1000 * (Tick.latencies ticks).max?.getD 0
  snapshot : ∀ uptime, c.snapshot uptime = ⟨c.requests, c.successes, c.mappingFailures,
    c.downstreamFailures, c.invalidResponses, c.abandoned, c.meanMicroseconds,
    c.peakMicroseconds, uptime⟩

theorem Counters.tells_takeAll {ticks : List Tick} (few : ticks.length < UInt64.size) :
    (zero.takeAll ticks).Tells ticks := by
  have hwithin : ∀ p, ticks.countP p < UInt64.size :=
    fun p => Nat.lt_of_le_of_lt List.countP_le_length few
  have hcount : ∀ which, ((zero.takeAll ticks).count which).toNat =
      ticks.countP (Tick.isOutcome which) := by
    intro which
    rw [count_takeAll, count_zero, UInt64.zero_add, UInt64.toNat_ofNat_of_lt' (hwithin _)]
  have hrequests : (zero.takeAll ticks).requests.toNat = ticks.countP Tick.isRequest := by
    have hzero : zero.requests = 0 := rfl
    rw [requests_takeAll, hzero, UInt64.zero_add, UInt64.toNat_ofNat_of_lt' (hwithin _)]
  have hlength : (Tick.latencies ticks).length < UInt64.size :=
    Nat.lt_of_le_of_lt (List.length_filterMap_le _ _) few
  have hfinished : (zero.takeAll ticks).finished.toNat = (Tick.latencies ticks).length := by
    rw [finished_of_ticks, UInt64.toNat_ofNat_of_lt' hlength]
  have hsum := Tick.outcomes_length ticks
  have h1 : (zero.takeAll ticks).successes.toNat = _ := hcount .success
  have h2 : (zero.takeAll ticks).mappingFailures.toNat = _ := hcount .mappingFailed
  have h3 : (zero.takeAll ticks).downstreamFailures.toNat = _ := hcount .downstreamFailed
  have h4 : (zero.takeAll ticks).invalidResponses.toNat = _ := hcount .invalidResponse
  have h5 : (zero.takeAll ticks).abandoned.toNat = _ := hcount .abandoned
  have hsize : UInt64.size = 2 ^ 64 := rfl
  refine ⟨hrequests, hcount, ?_, ?_, ?_, fun uptime => ?_⟩
  · simp only [errors, UInt64.toNat_add]
    omega
  · rw [toNat_inFlight]
    omega
  · rw [latencyPeak, Duration.ofMicroseconds, peak_of_ticks, Nat.mul_comm]
  · simp only [snapshot, microseconds_latencyMean, microseconds_latencyPeak]

end PriorityPortal
