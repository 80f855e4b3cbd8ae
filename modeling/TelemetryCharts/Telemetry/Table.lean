import TelemetryCharts.Decimal.Numeral
import TelemetryCharts.Table.Printer
import TelemetryCharts.Telemetry.ColumnName
import TelemetryCharts.Telemetry.Record

/-!
# Telemetry tables

The table of a run has a header and one row for each record. The header is there even if no record
follows it.
-/

namespace TelemetryCharts

/-- The fields of a record, in the order of the columns. -/
def Record.cells (r : Record) : List (List Char) :=
  [Decimal.signedDigits r.timeStep.toInt] ++ counts r.get ++ counts r.put ++ counts r.delete ++
    [Decimal.digits r.totalSucc.toNat, r.event.toList]
where
  counts (c : Counts) : List (List Char) :=
    [Decimal.digits c.count.toNat, Decimal.digits c.failCount.toNat, Decimal.tabular c.time]

/-- The table of records. -/
def Record.table (records : List Record) : String :=
  String.ofList (Table.render (ColumnName.all.map String.toList :: records.map Record.cells))

end TelemetryCharts
