/-!
# Columns of a telemetry table
-/

namespace TelemetryCharts.ColumnName

def timeStep : String := "timeStep"
def event : String := "event"
def totalSucc : String := "totalSucc"
def getFailCount : String := "getFailCount"
def putFailCount : String := "putFailCount"
def deleteFailCount : String := "deleteFailCount"

/-- The columns without which a table cannot be charted. -/
def required : List String :=
  [timeStep, event, totalSucc, getFailCount, putFailCount, deleteFailCount]

/-- All columns, in the order in which a table is written. -/
def all : List String :=
  [timeStep, "getCount", getFailCount, "getTime", "putCount", putFailCount, "putTime",
    "deleteCount", deleteFailCount, "deleteTime", totalSucc, event]

end TelemetryCharts.ColumnName
