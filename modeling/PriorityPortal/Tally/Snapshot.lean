import PriorityPortal.Number.Binary64
import PriorityPortal.Tally.Counters
import PriorityPortal.Text.Quoted
/-!
# Snapshots

A snapshot repeats the readings of counters at one moment, under names of their own. It is read
from a record of these names or from the list of the numbers in their order.
-/
namespace PriorityPortal

inductive Reading where
  | requests
  | successes
  | mappingFailures
  | downstreamFailures
  | invalidResponses
  | abandoned
  | latencyMean
  | latencyPeak
  | uptime
  deriving DecidableEq, Repr

namespace Reading

def all : List Reading :=
  [requests, successes, mappingFailures, downstreamFailures, invalidResponses, abandoned,
   latencyMean, latencyPeak, uptime]

def name : Reading → String
  | requests => "requests_total"
  | successes => "successes_total"
  | mappingFailures => "mapping_failures"
  | downstreamFailures => "downstream_failures"
  | invalidResponses => "invalid_responses"
  | abandoned => "abandoned"
  | latencyMean => "latency_mean_us"
  | latencyPeak => "latency_peak_us"
  | uptime => "uptime_secs"

end Reading

structure Snapshot where
  requests : UInt64
  successes : UInt64
  mappingFailures : UInt64
  downstreamFailures : UInt64
  invalidResponses : UInt64
  abandoned : UInt64
  latencyMean : UInt64
  latencyPeak : UInt64
  uptime : UInt64
  deriving DecidableEq, Repr

def Counters.snapshot (c : Counters) (uptime : UInt64) : Snapshot where
  requests := c.requests
  successes := c.successes
  mappingFailures := c.mappingFailures
  downstreamFailures := c.downstreamFailures
  invalidResponses := c.invalidResponses
  abandoned := c.abandoned
  latencyMean := c.latencyMean.microseconds
  latencyPeak := c.latencyPeak.microseconds
  uptime := uptime

/-- What a snapshot is read from, and what is given as the values of its readings. -/
inductive Given where
  | null
  | boolean (b : Bool)
  | number (n : Int)
  | float (x : Binary64)
  | text (s : String)
  | list (items : List Given)
  | record (entries : List (String × Given))
  deriving Repr, Inhabited

def Given.description : Given → String
  | null => "null"
  | boolean b => s!"boolean `{b}`"
  | number n => s!"integer `{n}`"
  | float x => "floating point `" ++ x.compactText ++ "`"
  | text s => "string " ++ Text.quoted s
  | list _ => "sequence"
  | record _ => "map"

inductive SnapshotError where
  | missing (reading : Reading)
  | outOfRange (n : Int)
  | notNumber (found : Given)
  /-- The list ends after so many numbers. -/
  | tooShort (length : Nat)
  /-- The list has more than the numbers. -/
  | tooLong (length : Nat)
  | notRecord (found : Given)
  deriving Repr

def SnapshotError.message : SnapshotError → String
  | missing reading => "missing field `" ++ reading.name ++ "`"
  | outOfRange n => s!"invalid value: integer `{n}`, expected u64"
  | notNumber found => "invalid type: " ++ found.description ++ ", expected u64"
  | tooShort length =>
    s!"invalid length {length}, expected struct MetricsSnapshot with 9 elements"
  | tooLong length => s!"invalid length {length}, expected fewer elements in array"
  | notRecord found => "invalid type: " ++ found.description ++ ", expected struct MetricsSnapshot"

namespace Snapshot

def get (s : Snapshot) : Reading → UInt64
  | .requests => s.requests
  | .successes => s.successes
  | .mappingFailures => s.mappingFailures
  | .downstreamFailures => s.downstreamFailures
  | .invalidResponses => s.invalidResponses
  | .abandoned => s.abandoned
  | .latencyMean => s.latencyMean
  | .latencyPeak => s.latencyPeak
  | .uptime => s.uptime

def ofFn (value : Reading → UInt64) : Snapshot where
  requests := value .requests
  successes := value .successes
  mappingFailures := value .mappingFailures
  downstreamFailures := value .downstreamFailures
  invalidResponses := value .invalidResponses
  abandoned := value .abandoned
  latencyMean := value .latencyMean
  latencyPeak := value .latencyPeak
  uptime := value .uptime

def text (s : Snapshot) : String :=
  let readings := Reading.all.map fun reading => reading.name ++ ": " ++ toString (s.get reading)
  "MetricsSnapshot \x7b " ++ String.intercalate ", " readings ++ " \x7d"

def readValue : Given → Except SnapshotError UInt64
  | .number n =>
    if 0 ≤ n ∧ n < UInt64.size then .ok (UInt64.ofNat n.toNat) else .error (.outOfRange n)
  | other => .error (.notNumber other)

/-- Reads a snapshot from a record. A wrong value counts before a missing one; entries of other
names mean nothing. -/
def ofRecord (entries : List (String × Given)) : Except SnapshotError Snapshot := do
  let known := entries.filter fun entry => Reading.all.any fun reading => reading.name == entry.1
  let values ← known.mapM fun entry => do .ok (entry.1, ← readValue entry.2)
  match Reading.all.find? fun reading => (values.lookup reading.name).isNone with
  | some reading => .error (.missing reading)
  | none => .ok (ofFn fun reading => (values.lookup reading.name).getD 0)

def ofList (values : List Given) : Except SnapshotError Snapshot := do
  let numbers ← (values.take Reading.all.length).mapM readValue
  if numbers.length < Reading.all.length then .error (.tooShort numbers.length)
  else if Reading.all.length < values.length then .error (.tooLong values.length)
  else .ok (ofFn fun reading => numbers[(Reading.all.idxOf reading)]?.getD 0)

def read : Given → Except SnapshotError Snapshot
  | .record entries => ofRecord entries
  | .list items => ofList items
  | other => .error (.notRecord other)

end Snapshot

end PriorityPortal
