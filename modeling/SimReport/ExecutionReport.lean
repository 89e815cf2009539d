/-
From a raw log to its metrics.  The execution report starts at the anchor, what
comes before is chatter; every marker is then scraped from the report on its
own, and one that gives no value leaves its metric at the default.
-/
import SimReport.Marker

namespace SimReport

/-- The execution report of a log: what remains from the anchor on, or the whole
log if the anchor is missing. -/
def executionReport (log : Text) : Text := (log.seek? Marker.anchor).getD log

/-- The byte offset at which the execution report starts. -/
def reportStart (log : Text) : Nat := log.byteLength - (executionReport log).byteLength

/-- The markers that give no value, in table order. -/
def missingMarkers (report : Text) : List Marker :=
  Marker.all.filter fun marker => (marker.scrape? report).isNone

namespace Metrics

def record (m : Metrics) (metric : Metric) (value : Option UInt64) : Metrics :=
  match metric with
  | .exitCode => { m with exitCode := value }
  | .counter c => { m with counters := m.counters.set c (value.getD 0) }

def ofMarkers (markers : List Marker) (report : Text) : Metrics :=
  markers.foldl (fun m marker => m.record marker.metric (marker.scrape? report)) {}

def ofReport (report : Text) : Metrics := ofMarkers Marker.all report

def ofLog (log : Text) : Metrics := ofReport (executionReport log)

end Metrics
end SimReport
