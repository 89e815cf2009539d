import SimReport.Csv.Reader
import SimReport.Main
import SimReport.Proofs.ExecutionReport.Layout
import SimReport.Proofs.CommandLine.Grammar
import SimReport.Proofs.ExecutionReport.Anchor
import SimReport.Proofs.ExecutionReport.Success
import SimReport.Proofs.ExecutionReport.LineEnding
import SimReport.Proofs.Run.Embedding
import SimReport.Proofs.Run.Gate
import SimReport.Proofs.ReportFile.Columns
import SimReport.Proofs.FileSystem.Growth
import SimReport.Proofs.FileSystem.Creation
import SimReport.Proofs.Console
import SimReport.Proofs.Run.Ending
import SimReport.Proofs.Run.Effects
import SimReport.Proofs.Program
import SimReport.Proofs.Run.Presentation
import SimReport.Proofs.Run.Session
import SimReport.Proofs.Run.Rerun
import SimReport.Proofs.Run.Order
import SimReport.Proofs.Text.Numeral.Grammar
import SimReport.Proofs.Results.History
import SimReport.Proofs.FileSystem.Reordering
import SimReport.Proofs.Run.Repetition
import SimReport.ReportFile.Writer
import SimReport.Proofs.ReportFile.Writer
import SimReport.Proofs.Run.Unstored
import SimReport.Proofs.Metrics.Ipc
import SimReport.Proofs.ExecutionReport.Scan
import SimReport.Proofs.Run.Diagnostics
import SimReport.Proofs.Text.Between
import SimReport.Proofs.Binary64.Interchange
import SimReport.Proofs.Run.Identifier
