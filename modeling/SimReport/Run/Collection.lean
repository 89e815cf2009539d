/-
Collecting a run's logs: listing them, reading each one, and recording its
metrics.  A failure keeps what was recorded before it.
-/
import SimReport.Event
import SimReport.ExecutionReport
import SimReport.Failure
import SimReport.FileSystem.Operations
import SimReport.Run

namespace SimReport

structure Log where
  fileName : Text
  text : Text
  deriving DecidableEq

namespace Log

def id (log : Log) : Text := benchmarkId log.fileName

def row (log : Log) : Row := ⟨log.fileName, .ofLog log.text⟩

/-- The path must end in a name, which is looked at before the file is. -/
def read (fs : FileSystem) (p : Path) : Except Failure Log :=
  match p.fileName? with
  | none => .error ⟨[.nameLog], .noFileName⟩
  | some name =>
    match fs.read p with
    | .error e => .error ⟨[.read p], .io e⟩
    | .ok content => .ok ⟨Utf8.decodeLossy name, Utf8.decodeLossy content⟩

/-- What extracting the metrics of a log tells. -/
def events (log : Log) : List Event :=
  (missingMarkers (executionReport log.text)).map (fun marker => .missingMarker marker.text) ++
    [.parsedLog log.id log.row.succeeded log.row.metrics.ipc]

end Log

/-- What a step that may fail has told and recorded. -/
structure Collected where
  events : List Event
  results : Results
  failure? : Option Failure

namespace Collected

def within (activity : Activity) (c : Collected) : Collected :=
  { c with failure? := c.failure?.map (Failure.within activity) }

def after (events : List Event) (c : Collected) : Collected :=
  { c with events := events ++ c.events }

end Collected

namespace Run

/-- The path of an entry of the log directory. -/
def entryPath (run : Run) (name : Name) : Path := run.logDirectory.join name.bytes

/-- The logs of the run: the files in its log directory.  Other entries are
skipped with a warning, which is told before the next entry is. -/
def logs (run : Run) (fs : FileSystem) : List Event × Except Failure (List Path) :=
  if !fs.pathExists run.logDirectory then
    ([], .error ⟨[], .missingLogDirectory run.logDirectory⟩)
  else
    match fs.list run.logDirectory with
    | .error e => ([], .error ⟨[.readDirectory run.logDirectory], .io e⟩)
    | .ok listing =>
      let paths := listing.names.map run.entryPath
      let logs := paths.filter fs.isFile
      let skipped := (paths.filter fun p => !fs.isFile p).map Event.skippedEntry
      match listing.fault? with
      | some e => (skipped, .error ⟨[.readEntry], .io e⟩)
      | none => (skipped ++ [.listedLogs run.logDirectory logs.length], .ok logs)

end Run

/-- Records the metrics of one log.  A failure leaves the table as it was. -/
def Results.parseLog (results : Results) (fs : FileSystem) (p : Path) : Collected :=
  match Log.read fs p with
  | .error e => ⟨[], results, some e⟩
  | .ok log => ⟨log.events, results.insert log.row, none⟩

/-- Records the metrics of logs in turn, up to the first failure. -/
def Results.parseLogs (results : Results) (fs : FileSystem) : List Path → Collected
  | [] => ⟨[], results, none⟩
  | p :: logs =>
    let first := (results.parseLog fs p).within (.parse p)
    match first.failure? with
    | some _ => first
    | none => (first.results.parseLogs fs logs).after first.events

def Run.collect (run : Run) (results : Results) (fs : FileSystem) : Collected :=
  match run.logs fs with
  | (events, .error e) => ⟨events, results, some (e.within .listLogs)⟩
  | (events, .ok logs) => (results.parseLogs fs logs).after events

end SimReport
