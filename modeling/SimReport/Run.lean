/-
One run of the report: its suite, its directory, and the places inside it.
-/
import SimReport.Gate
import SimReport.Path

namespace SimReport

/-- The suite's name is only displayed. -/
structure Run where
  suite : Text
  directory : Path
  whitelist : Whitelist := .standard
  deriving DecidableEq

namespace Run

def logDirectory (run : Run) : Path := run.directory.join (.ofText "logs/sim".toList)

def outputDirectory (run : Run) : Path := run.directory.join (.ofText "output".toList)

def reportFile (run : Run) : Path := run.outputDirectory.join (.ofText "benchmarks.csv".toList)

end Run
end SimReport
