/-
Logs in another order.

A directory lists its entries in an order of its own, and may hold others besides
the logs.  Of all that, only the order of the rows comes through to the table,
the console and the report file.  Counts, sums and the gate read the rows one by
one, and how saving ends depends on the table for no more than the size of the whole
text, so two runs on the same logs come to the same verdict.
-/
import Mathlib.Data.List.Nodup
import SimReport.Proofs.ReportFile.Columns
import SimReport.Proofs.Run.Effects
import SimReport.Proofs.Run.Gate
import SimReport.Proofs.Run.Output

namespace SimReport

namespace ReportFile

end ReportFile

/-! ## The lines of the summary -/

namespace Line

end Line

/-! ## The same logs -/

/-- Outcomes of one kind.  Failing benchmarks may be named in another order. -/
inductive Outcome.Alike : Except Failure Outcome → Except Failure Outcome → Prop
  | passed (file : Path) : Alike (.ok (.passed file)) (.ok (.passed file))
  | failed {ids others : List Text} : ids.Perm others →
      Alike (.ok (.failed ids)) (.ok (.failed others))
  | error {e other : Failure} : e.kind = other.kind → Alike (.error e) (.error other)

theorem Outcome.Alike.refl (outcome : Except Failure Outcome) : Alike outcome outcome := by
  cases outcome with
  | error e => exact .error rfl
  | ok outcome =>
    cases outcome with
    | passed file => exact .passed file
    | failed ids => exact .failed (List.Perm.refl ids)

namespace Run

variable {run : Run} {a b : FileSystem}

section

variable {console : Console} {fs : FileSystem} (hroom : console.room = none)
  (hread : run.Readable fs)

include hroom hread

end

end Run
end SimReport
