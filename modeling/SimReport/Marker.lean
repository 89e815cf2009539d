/-
Markers: the fixed texts in front of the numbers of an execution report.  Each
metric has one marker, and is read from its first occurrence alone.
-/
import SimReport.Metrics
import SimReport.Text.Numeral
import SimReport.Text.Search

namespace SimReport

inductive Metric
  | exitCode
  | counter (c : Counter)
  deriving DecidableEq

/-- A marker's number ends before the next `terminator`. -/
structure Marker where
  metric : Metric
  text : Text
  terminator : Char
  radix : Radix
  deriving DecidableEq

namespace Marker

/-- The number after the first occurrence of the marker.  There is none if the
marker is missing or what follows it is not a numeral. -/
def scrape? (marker : Marker) (report : Text) : Option UInt64 :=
  (report.between? marker.text marker.terminator).bind (Text.readWord? marker.radix)

/-- The text that opens an execution report, and the marker of its exit code. -/
def anchor : Text := "Program exit with code: ".toList

def exitCode : Marker := ⟨.exitCode, anchor, '(', .hexadecimal⟩

/-- The marker of a counter.  The two totals of the run end their lines, the
other counts are followed by a share in parentheses. -/
def ofCounter (c : Counter) : Marker :=
  match c with
  | .instructions => ⟨.counter c, "retired instructions:".toList, '\n', .decimal⟩
  | .cycles => ⟨.counter c, "total CPU cycles: ".toList, '\n', .decimal⟩
  | .jumps => ⟨.counter c, "- jumps: ".toList, '(', .decimal⟩
  | .branches => ⟨.counter c, "- branches:".toList, '(', .decimal⟩
  | .loads => ⟨.counter c, "- loads:".toList, '(', .decimal⟩
  | .stores => ⟨.counter c, "- stores:".toList, '(', .decimal⟩
  | .instructionFetches => ⟨.counter c, "- instruction fetches:".toList, '(', .decimal⟩
  | .writeRequests => ⟨.counter c, "- write requests: ".toList, '(', .decimal⟩
  | .readRequests => ⟨.counter c, "- read requests:".toList, '(', .decimal⟩

def all : List Marker := exitCode :: Counter.all.map ofCounter

@[simp] theorem metric_ofCounter (c : Counter) : (ofCounter c).metric = .counter c := by
  cases c <;> rfl

/-- No two markers share a metric. -/
theorem nodup_metrics : (all.map Marker.metric).Nodup := by decide

end Marker
end SimReport
