/-
Reporting a run: the summary on the console, the gate, and the report file of a
run that passes it.
-/
import SimReport.Console
import SimReport.ReportFile.Writer
import SimReport.Run.Collection

namespace SimReport

inductive Outcome
  | passed (file : Path)
  /-- Benchmarks failed that are not excused, and no report was written. -/
  | failed (ids : List Text)
  deriving DecidableEq

/-- The state in which a report or a whole run leaves things. -/
structure Finished where
  console : Console
  files : FileSystem
  outcome : Except Failure Outcome

/-- The exit code for an outcome.  A run that was set up wrong is told apart
from one that failed. -/
def exitCode : Except Failure Outcome → Nat
  | .ok (.passed _) => 0
  | .ok (.failed _) => 1
  | .error f => if f.kind = .configuration then 2 else 1

namespace Run

/-- The lines of the summary, without the one that announces how the run ends. -/
def summaryLines (palette : Palette) (results : Results) : List Text :=
  Line.benchmarks palette results.rows ++ [Line.summary results.passed results.size]

def save (run : Run) (results : Results) (fs : FileSystem) :
    FileSystem × Except Failure Outcome :=
  match ReportFile.save results run.outputDirectory run.reportFile fs with
  | (fs, .error e) => (fs, .error (e.within .writeCsv))
  | (fs, .ok ()) => (fs, .ok (.passed run.reportFile))

/-- The report file is written after the last line of the console, so a line that
is refused leaves the files alone. -/
def report (run : Run) (results : Results) (console : Console) (fs : FileSystem) : Finished :=
  let failures := run.whitelist.failures results
  let last :=
    if failures.isEmpty then Line.saving run.outputDirectory
    else Line.failures console.palette failures
  match console.printAll (summaryLines console.palette results ++ [last]) with
  | .error e => ⟨console, fs, .error e⟩
  | .ok console =>
    if failures.isEmpty then
      let (fs, outcome) := run.save results fs
      ⟨console, fs, outcome⟩
    else ⟨console, fs, .ok (.failed failures)⟩

def execute (run : Run) (console : Console) (fs : FileSystem) : List Event × Finished :=
  match console.print (Line.header run.suite) with
  | .error e => ([], ⟨console, fs, .error e⟩)
  | .ok console =>
    let collected := (run.collect .empty fs).within .parseAll
    match collected.failure? with
    | some e => (collected.events, ⟨console, fs, .error e⟩)
    | none => (collected.events, run.report collected.results console fs)

end Run
end SimReport
