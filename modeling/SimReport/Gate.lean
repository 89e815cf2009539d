/-
The gate.  Benchmarks on the whitelist are known to fail and do not fail a run.
-/
import SimReport.Results

namespace SimReport

/-- Order and repetition of the identifiers do not matter. -/
structure Whitelist where
  ids : List Text
  deriving DecidableEq

namespace Whitelist

def standard : Whitelist := ⟨["cubic", "nbody", "nettle-sha256", "st", "ud"].map String.toList⟩

def contains (whitelist : Whitelist) (id : Text) : Bool := whitelist.ids.contains id

/-- The benchmarks that failed and are not excused, in table order.  The run
passes exactly when there are none. -/
def failures (whitelist : Whitelist) (results : Results) : List Text :=
  (results.rows.filter fun row => !row.succeeded && !whitelist.contains row.id).map Row.id

end Whitelist
end SimReport
