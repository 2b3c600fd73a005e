/-!
# Counters

Requests are counted when they arrive and once more, by outcome, when they end. All counters are
words of 64 bits and wrap.
-/
namespace PriorityPortal

structure Duration where
  nanoseconds : Nat
  deriving DecidableEq, Repr

namespace Duration

def ofParts (seconds nanoseconds : Nat) : Duration := ⟨seconds * 1000000000 + nanoseconds⟩

def microseconds (d : Duration) : UInt64 := UInt64.ofNat (d.nanoseconds / 1000)

def ofMicroseconds (count : UInt64) : Duration := ⟨count.toNat * 1000⟩

@[simp] theorem microseconds_ofMicroseconds (count : UInt64) :
    (ofMicroseconds count).microseconds = count := by
  have hwhole : count.toNat * 1000 / 1000 = count.toNat := Nat.mul_div_cancel _ (by decide)
  rw [microseconds, ofMicroseconds, hwhole, UInt64.ofNat_toNat]

end Duration

inductive Outcome where
  | success
  /-- The pid could not be mapped, so nothing was sent. -/
  | mappingFailed
  | downstreamFailed
  | invalidResponse
  /-- The request was dropped before its end. -/
  | abandoned
  deriving DecidableEq, Repr

structure Counters where
  requests : UInt64
  successes : UInt64
  mappingFailures : UInt64
  downstreamFailures : UInt64
  invalidResponses : UInt64
  abandoned : UInt64
  totalMicroseconds : UInt64
  peakMicroseconds : UInt64
  deriving DecidableEq, Repr

namespace Counters

def zero : Counters := ⟨0, 0, 0, 0, 0, 0, 0, 0⟩

def count (c : Counters) : Outcome → UInt64
  | .success => c.successes
  | .mappingFailed => c.mappingFailures
  | .downstreamFailed => c.downstreamFailures
  | .invalidResponse => c.invalidResponses
  | .abandoned => c.abandoned

def countRequest (c : Counters) : Counters := { c with requests := c.requests + 1 }

def increment (c : Counters) : Outcome → Counters
  | .success => { c with successes := c.successes + 1 }
  | .mappingFailed => { c with mappingFailures := c.mappingFailures + 1 }
  | .downstreamFailed => { c with downstreamFailures := c.downstreamFailures + 1 }
  | .invalidResponse => { c with invalidResponses := c.invalidResponses + 1 }
  | .abandoned => { c with abandoned := c.abandoned + 1 }

def addLatency (c : Counters) (latency : UInt64) : Counters :=
  { c with
    totalMicroseconds := c.totalMicroseconds + latency
    peakMicroseconds := max c.peakMicroseconds latency }

def countOutcome (c : Counters) (outcome : Outcome) (latency : Duration) : Counters :=
  (c.increment outcome).addLatency latency.microseconds

def finished (c : Counters) : UInt64 :=
  c.successes + c.mappingFailures + c.downstreamFailures + c.invalidResponses + c.abandoned

def errors (c : Counters) : UInt64 :=
  c.mappingFailures + c.downstreamFailures + c.invalidResponses

def inFlight (c : Counters) : UInt64 :=
  if c.requests < c.finished then 0 else c.requests - c.finished

theorem toNat_inFlight (c : Counters) :
    c.inFlight.toNat = c.requests.toNat - c.finished.toNat := by
  rw [inFlight]
  split
  next hless =>
    rw [UInt64.lt_iff_toNat_lt] at hless
    exact (Nat.sub_eq_zero_of_le (Nat.le_of_lt hless)).symm
  next hmore => exact UInt64.toNat_sub_of_le _ _ (UInt64.not_lt.mp hmore)

/-- The mean latency in microseconds, rounded down; zero before the first outcome. -/
def meanMicroseconds (c : Counters) : UInt64 :=
  if c.finished = 0 then 0 else c.totalMicroseconds / c.finished

def latencyMean (c : Counters) : Duration := .ofMicroseconds c.meanMicroseconds

def latencyPeak (c : Counters) : Duration := .ofMicroseconds c.peakMicroseconds

@[simp] theorem microseconds_latencyMean (c : Counters) :
    c.latencyMean.microseconds = c.meanMicroseconds :=
  Duration.microseconds_ofMicroseconds c.meanMicroseconds

@[simp] theorem microseconds_latencyPeak (c : Counters) :
    c.latencyPeak.microseconds = c.peakMicroseconds :=
  Duration.microseconds_ofMicroseconds c.peakMicroseconds

end Counters

end PriorityPortal
