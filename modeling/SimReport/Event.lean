/-
Diagnostic events: what a run tells about itself beside its report.
-/
import SimReport.Binary64.Shortest
import SimReport.Path

namespace SimReport

/-- Levels are ordered by how much they tell. -/
inductive Level
  | error
  | warn
  | info
  | debug
  | trace
  deriving DecidableEq

namespace Level

def rank : Level → Nat
  | error => 1
  | warn => 2
  | info => 3
  | debug => 4
  | trace => 5

def name : Level → Text
  | error => "ERROR".toList
  | warn => "WARN".toList
  | info => "INFO".toList
  | debug => "DEBUG".toList
  | trace => "TRACE".toList

end Level

inductive Event
  | skippedEntry (path : Path)
  | listedLogs (directory : Path) (count : Nat)
  | missingMarker (marker : Text)
  | parsedLog (id : Text) (succeeded : Bool) (ipc : Binary64)
  | wroteReport (file : Path)
  | gateFailed (ids : List Text)
  deriving DecidableEq

inductive FieldValue
  | path (p : Path)
  | text (t : Text)
  | count (n : Nat)
  | flag (b : Bool)
  | number (x : Binary64)
  | texts (ts : List Text)

namespace FieldValue

def render : FieldValue → Text
  | path p => p.quoted
  | text t => t.quoted
  | count n => Text.ofNat n
  | flag b => if b then "true".toList else "false".toList
  | number x => x.toShortest
  | texts ts => ['['] ++ Text.joinWith ", ".toList (ts.map Text.quoted) ++ [']']

end FieldValue

namespace Event

def level : Event → Level
  | skippedEntry _ => .warn
  | wroteReport _ => .info
  | _ => .debug

def message : Event → Text
  | skippedEntry _ => "skipping non-file entry".toList
  | listedLogs .. => "listed benchmark logs".toList
  | missingMarker _ => "marker missing or malformed".toList
  | parsedLog .. => "parsed benchmark log".toList
  | wroteReport _ => "wrote csv report".toList
  | gateFailed _ => "non-whitelisted benchmarks failed".toList

/-- The part of the program that tells it. -/
def target : Event → Text
  | skippedEntry _ | listedLogs .. | parsedLog .. => "bench_report::bench".toList
  | missingMarker _ => "bench_report::extract".toList
  | wroteReport _ | gateFailed _ => "bench_report".toList

def fields : Event → List (Text × FieldValue)
  | skippedEntry p => [("path".toList, .path p)]
  | listedLogs directory count => [("dir".toList, .path directory), ("count".toList, .count count)]
  | missingMarker marker => [("marker".toList, .text marker)]
  | parsedLog id succeeded ipc =>
    [("id".toList, .text id), ("status".toList, .flag succeeded), ("ipc".toList, .number ipc)]
  | wroteReport file => [("path".toList, .path file)]
  | gateFailed ids => [("benchmarks".toList, .texts ids)]

def line (e : Event) : Text :=
  e.level.name ++ [' '] ++ e.target ++ ": ".toList ++ e.message ++
    e.fields.flatMap fun (name, value) => [' '] ++ name ++ ['='] ++ value.render

end Event
end SimReport
