import TelemetryCharts.Telemetry.Event
import TelemetryCharts.Word

/-!
# Telemetry records

A record is one row of telemetry: what happened to each kind of operation during one time step, and
the lifecycle event that was signalled in it.
-/

namespace TelemetryCharts

/-- The sum of three counters, or `none` where it is no counter any more. -/
def sumCounters? (a b c : UInt64) : Option UInt64 :=
  if a.toNat + b.toNat + c.toNat < wordLimit then some (a + b + c) else none

/-- The operations of one kind in one time step: how many were issued, how many of them failed, and
the seconds spent on them. -/
structure Counts where
  count : UInt64
  failCount : UInt64
  time : Float

/-- No operations at all. -/
def Counts.none : Counts := ⟨0, 0, 0⟩

/-- How many operations succeeded, which is zero where more failed than were issued. -/
def Counts.succeeded (c : Counts) : UInt64 :=
  if c.failCount ≤ c.count then c.count - c.failCount else 0

/-- One row of telemetry. `event` is the label of the event of the time step, or empty. -/
structure Record where
  timeStep : Int64
  get : Counts
  put : Counts
  delete : Counts
  totalSucc : UInt64
  event : String

namespace Record

/-- The record of a time step, with the total of successes summed up from the operations. There is
none where the sum is no counter any more. -/
def ofCounts? (timeStep : Int64) (get put delete : Counts) (event : Option Event) :
    Option Record := do
  let totalSucc ← sumCounters? get.succeeded put.succeeded delete.succeeded
  return ⟨timeStep, get, put, delete, totalSucc, event.elim "" Event.label⟩

/-- The event that the label stands for. -/
def lifecycleEvent? (r : Record) : Option Event :=
  Event.ofLabel? r.event

/-- How many operations failed, of all kinds together. -/
def failureTotal? (r : Record) : Option UInt64 :=
  sumCounters? r.get.failCount r.put.failCount r.delete.failCount

end Record

end TelemetryCharts
