import Mathlib.Algebra.Order.BigOperators.Group.List
import Mathlib.Algebra.Order.Ring.Nat
import PriorityPortal.Proofs.Families
/-!
# Mean and peak

The sum of all latencies is a word and may wrap. The mean that is made of it is never more than the
peak all the same, and exact as long as the sum has not wrapped.
-/
namespace PriorityPortal

theorem sum_le_length_mul_max (latencies : List Nat) :
    latencies.sum ≤ latencies.length * latencies.max?.getD 0 := by
  have hsum := List.sum_le_card_nsmul latencies (latencies.max?.getD 0)
    fun _ hn => List.le_max?_getD_of_mem hn
  rwa [nsmul_eq_mul, Nat.cast_id] at hsum

namespace Counters

structure Averages (c : Counters) (latencies : List Nat) : Prop where
  below : c.latencyMean.nanoseconds ≤ c.latencyPeak.nanoseconds
  /-- The mean is a quotient just where there is something to divide by. -/
  quotient : latencies ≠ [] →
    c.finished ≠ 0 ∧ c.meanMicroseconds = c.totalMicroseconds / c.finished
  none : latencies = [] → c.latencyMean = ⟨0⟩
  exact : latencies.sum < 2 ^ 64 →
    c.latencyMean.nanoseconds = 1000 * (latencies.sum / latencies.length)
  /-- Only multiples of the number of all words are lost. -/
  wrapped : c.latencyMean.nanoseconds = 1000 * (latencies.sum % 2 ^ 64 / latencies.length)
  snapshotMean : ∀ uptime, (c.snapshot uptime).latencyMean.toNat * 1000 = c.latencyMean.nanoseconds
  snapshotPeak : ∀ uptime, (c.snapshot uptime).latencyPeak.toNat * 1000 = c.latencyPeak.nanoseconds

theorem total_takeAll (c : Counters) (ticks : List Tick) : (c.takeAll ticks).totalMicroseconds =
    c.totalMicroseconds + .ofNat (Tick.latencies ticks).sum := by
  refine reading_takeAll c ticks totalMicroseconds (fun ticks => (Tick.latencies ticks).sum) rfl
    ?_ ?_
  · intro tick rest
    rw [Tick.latencies_split, List.sum_append]
  · intro c tick
    cases tick with
    | request => exact (UInt64.add_zero _).symm
    | outcome o latency =>
      have hword : latency.microseconds = .ofNat (latency.nanoseconds / 1000 % UInt64.size) := by
        rw [← UInt64.toNat_inj]
        simp [Duration.microseconds]
      cases o <;> simp [take, countOutcome, increment, addLatency, hword, Tick.latencies,
        Tick.microseconds?]

variable {ticks : List Tick}

theorem mean_of_ticks (few : (Tick.latencies ticks).length < UInt64.size) :
    (zero.takeAll ticks).meanMicroseconds.toNat =
      (Tick.latencies ticks).sum % 2 ^ 64 / (Tick.latencies ticks).length := by
  have htotal : (zero.takeAll ticks).totalMicroseconds = .ofNat (Tick.latencies ticks).sum := by
    have hzero : zero.totalMicroseconds = 0 := rfl
    rw [total_takeAll, hzero, UInt64.zero_add]
  have hcount : (zero.takeAll ticks).finished.toNat = (Tick.latencies ticks).length := by
    rw [finished_of_ticks, UInt64.toNat_ofNat_of_lt' few]
  rw [meanMicroseconds]
  split
  next hnone =>
    have hlength : (Tick.latencies ticks).length = 0 := by
      rw [← hcount, hnone]
      rfl
    rw [hlength, Nat.div_zero]
    rfl
  next => rw [UInt64.toNat_div, hcount, htotal, UInt64.toNat_ofNat']

/-- However often the sum wraps, what is left of it is shared by as many as have gone into it. -/
theorem mean_le_peak (few : (Tick.latencies ticks).length < UInt64.size) :
    (zero.takeAll ticks).meanMicroseconds.toNat ≤
      (zero.takeAll ticks).peakMicroseconds.toNat := by
  rw [mean_of_ticks few, peak_of_ticks]
  calc (Tick.latencies ticks).sum % 2 ^ 64 / (Tick.latencies ticks).length
      ≤ (Tick.latencies ticks).sum / (Tick.latencies ticks).length :=
        Nat.div_le_div_right (Nat.mod_le _ _)
    _ ≤ (Tick.latencies ticks).max?.getD 0 :=
        Nat.div_le_of_le_mul (sum_le_length_mul_max _)

theorem averages_takeAll (few : (Tick.latencies ticks).length < UInt64.size) :
    (zero.takeAll ticks).Averages (Tick.latencies ticks) := by
  have hmean := mean_of_ticks few
  have hspan : (zero.takeAll ticks).latencyMean.nanoseconds =
      1000 * ((Tick.latencies ticks).sum % 2 ^ 64 / (Tick.latencies ticks).length) := by
    rw [latencyMean, Duration.ofMicroseconds, hmean, Nat.mul_comm]
  refine ⟨?_, ?_, ?_, ?_, hspan, ?_, ?_⟩
  · exact Nat.mul_le_mul_right 1000 (mean_le_peak few)
  · intro hsome
    have hne : (zero.takeAll ticks).finished ≠ 0 := by
      intro hz
      have hlength := congrArg UInt64.toNat hz
      rw [finished_of_ticks, UInt64.toNat_ofNat_of_lt' few] at hlength
      exact hsome (List.eq_nil_of_length_eq_zero hlength)
    exact ⟨hne, if_neg hne⟩
  · intro hnone
    rw [hnone] at hspan
    exact congrArg Duration.mk hspan
  · intro hsum
    rw [hspan, Nat.mod_eq_of_lt hsum]
  · intro uptime
    rw [snapshot, microseconds_latencyMean]
    rfl
  · intro uptime
    rw [snapshot, microseconds_latencyPeak]
    rfl

end Counters

namespace Handles

/-- The mean that a handle reads is never more than its peak, and comes of the latencies that have
been counted through its family. -/
theorem mean_within_peak {events : List HandleEvent} (proper : Proper events) {handle : Nat}
    (there : handle < created events)
    (few : (Tick.latencies (familyTicks events handle)).length < UInt64.size) :
    ∃ c, (initial.run events).read? handle = some c ∧
      c.Averages (Tick.latencies (familyTicks events handle)) :=
  ⟨_, (kept_run proper).read there, Counters.averages_takeAll few⟩

/-- Two latencies whose sum is one more than the greatest word, and one that no word holds. -/
def sampleWaits : List HandleEvent :=
  [.outcome 0 .success ⟨18446744073709551615 * 1000⟩, .outcome 0 .downstreamFailed ⟨1000⟩,
    .outcome 0 .abandoned ⟨18446744073709551618 * 1000⟩]

theorem sampleWaits_proper : Proper sampleWaits := by
  have h : Proper ([] ++ [.outcome 0 .success ⟨18446744073709551615 * 1000⟩] ++
      [.outcome 0 .downstreamFailed ⟨1000⟩] ++
      [.outcome 0 .abandoned ⟨18446744073709551618 * 1000⟩]) := by
    refine .next (.next (.next .nothing ?_) ?_) ?_
    all_goals
      intro handle hh
      cases hh
      decide
  exact h

theorem mean_within_peak_sample :
    Proper sampleWaits ∧ 0 < created sampleWaits ∧
      (Tick.latencies (familyTicks sampleWaits 0)).length < UInt64.size ∧
      ∃ c, (initial.run sampleWaits).read? 0 = some c ∧ c.totalMicroseconds = 2 ∧
        c.latencyMean.nanoseconds ≤ c.latencyPeak.nanoseconds := by
  have there : 0 < created sampleWaits := by decide
  have few : (Tick.latencies (familyTicks sampleWaits 0)).length < UInt64.size := by
    have hthree : sampleWaits.length < UInt64.size := by decide
    refine Nat.lt_of_le_of_lt ?_ hthree
    exact (List.length_filterMap_le _ _).trans (List.length_filterMap_le _ _)
  obtain ⟨c, hc, averages⟩ := mean_within_peak sampleWaits_proper there few
  refine ⟨sampleWaits_proper, there, few, c, hc, ?_, averages.below⟩
  obtain rfl : _ = c := Option.some.inj hc
  rfl

end Handles

end PriorityPortal
