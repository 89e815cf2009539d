/-
The report file: a header and one record for each benchmark, in table order.
-/
import SimReport.Binary64.Fixed
import SimReport.Csv
import SimReport.Failure
import SimReport.Results

namespace SimReport

namespace ReportFile

def header : List Text :=
  ["Benchmark", "Status", "Instructions", "Cycles", "IPC", "Jumps", "Branches",
    "Branch/Jump Instructions", "Loads", "Stores", "Load/Store Instructions",
    "Instruction fetches", "Write Requests", "Read Requests", "Memory Requests"].map String.toList

def statusText (succeeded : Bool) : Text :=
  if succeeded then "true".toList else "false".toList

def record (row : Row) : List Text :=
  let count (c : Counter) : Text := Text.ofNat (row.metrics.counters.get c).toNat
  [row.id, statusText row.succeeded, count .instructions, count .cycles,
    row.metrics.ipc.toFixed, count .jumps, count .branches,
    Text.ofNat row.metrics.controlTransfers, count .loads, count .stores,
    Text.ofNat row.metrics.dataAccesses, count .instructionFetches, count .writeRequests,
    count .readRequests, Text.ofNat row.metrics.memoryRequests]

def text (results : Results) : Text := Csv.encode (header :: results.rows.map record)

/-- The cause that a fault of the file has during an activity.  Only a flush
that is asked for passes it on as it is. -/
def causeOf (activity : Activity) (e : IoError) : Cause :=
  if activity = .flush then .io e else .csv e

end ReportFile
end SimReport
