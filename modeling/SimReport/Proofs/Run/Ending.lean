/-
How a run ends, from what it prints and what its sink takes.

Every line is printed before the first file is touched, and a refusal ends the
run.  So a sink either takes the whole text of the run, and how the run ends and
what it writes do not depend on the sink, or the run fails and the files are as
they were.
-/
import SimReport.Proofs.Console
import SimReport.Proofs.ReportFile.Saving
import SimReport.Proofs.Run.Collection
import SimReport.Run.Report

namespace SimReport

/-- The gate asks for the exit code and for the identifier of a row. -/
theorem Whitelist.failures_eq (whitelist : Whitelist) (results : Results) :
    whitelist.failures results =
      (results.rows.filter fun row =>
        row.metrics.exitCode ≠ some 0 ∧ row.id ∉ whitelist.ids).map Row.id := by
  refine congrArg (List.map Row.id) (List.filter_congr fun row _ => ?_)
  rw [Row.succeeded, Metrics.succeeded, contains, List.contains_eq_mem, Bool.decide_and,
    decide_not, decide_not, beq_eq_decide]

namespace Run

def verdictLine (run : Run) (palette : Palette) (failures : List Text) : Text :=
  if failures = [] then Line.saving run.outputDirectory else Line.failures palette failures

/-- All that a report prints. -/
def reportText (run : Run) (palette : Palette) (results : Results) : Text :=
  (summaryLines palette results).flatten ++
    run.verdictLine palette (run.whitelist.failures results)

/-- What a report leaves when all of it is printed. -/
def verdict (run : Run) (results : Results) (console : Console) (fs : FileSystem) : Finished :=
  if run.whitelist.failures results = [] then
    ⟨console, (run.save results fs).1, (run.save results fs).2⟩
  else ⟨console, fs, .ok (.failed (run.whitelist.failures results))⟩

theorem report_eq (run : Run) (results : Results) (console : Console) (fs : FileSystem) :
    run.report results console fs =
      if console.takes (run.reportText console.palette results) then
        run.verdict results (console.wrote (run.reportText console.palette results)) fs
      else ⟨console, fs, .error Console.refused⟩ := by
  have hflat : (summaryLines console.palette results ++
      [run.verdictLine console.palette (run.whitelist.failures results)]).flatten =
        run.reportText console.palette results := by
    rw [List.flatten_append, List.flatten_singleton, reportText]
  have hprint := console.printAll_eq (summaryLines console.palette results ++
    [run.verdictLine console.palette (run.whitelist.failures results)])
  rw [hflat] at hprint
  rw [verdictLine] at hprint
  rw [report, verdict]
  simp only [List.isEmpty_iff]
  rw [hprint]
  cases console.takes (run.reportText console.palette results) with
  | false => rfl
  | true => rfl

theorem save_cases (run : Run) (results : Results) (fs : FileSystem) :
    ∃ places, fs.Creates run.outputDirectory.ancestors places ∧
      ((∃ stored, run.save results fs = (stored, .ok (.passed run.reportFile)) ∧
          (fs.putDirectories places).Overwrites run.reportFile
            (ReportFile.text results).toBytes stored) ∨
        ∃ left activity cause,
          run.save results fs = (left, .error ⟨[.writeCsv, activity], cause⟩) ∧
          (fs.putDirectories places).FallsShort run.reportFile
            (ReportFile.text results).toBytes left ∧
          activity ∈ ReportFile.activities (results.rows.map Row.id) run.outputDirectory
            run.reportFile ∧ cause.IsFault) := by
  obtain ⟨places, hcreates, ⟨stored, hsave, hstored⟩ |
    ⟨left, activity, cause, hsave, hleft, hfault⟩⟩ :=
    ReportFile.save_cases results run.outputDirectory run.reportFile fs
  · refine ⟨places, hcreates, Or.inl ⟨stored, ?_, hstored⟩⟩
    rw [save, hsave]
  · refine ⟨places, hcreates, Or.inr ⟨left, activity, cause, ?_, hleft, hfault⟩⟩
    rw [save, hsave]
    rfl

/-- All that a run prints.  If its logs cannot be collected, that is the header alone. -/
def printed (run : Run) (palette : Palette) (fs : FileSystem) : Text :=
  match (run.collect .empty fs).failure? with
  | some _ => Line.header run.suite
  | none => Line.header run.suite ++ run.reportText palette (run.collect .empty fs).results

/-- What a run leaves when all of it is printed. -/
def ending (run : Run) (console : Console) (fs : FileSystem) : Finished :=
  match (run.collect .empty fs).failure? with
  | some e => ⟨console, fs, .error (e.within .parseAll)⟩
  | none => run.verdict (run.collect .empty fs).results console fs

@[simp] theorem console_verdict (run : Run) (results : Results) (console : Console)
    (fs : FileSystem) : (run.verdict results console fs).console = console := by
  rw [verdict]
  split <;> rfl

@[simp] theorem console_ending (run : Run) (console : Console) (fs : FileSystem) :
    (run.ending console fs).console = console := by
  rw [ending]
  split
  · rfl
  · exact console_verdict ..

/-- The console decides neither how a printed run ends nor what it writes. -/
theorem ending_congr (run : Run) (a b : Console) (fs : FileSystem) :
    (run.ending a fs).outcome = (run.ending b fs).outcome ∧
      (run.ending a fs).files = (run.ending b fs).files := by
  simp only [ending, verdict]
  split
  · exact ⟨rfl, rfl⟩
  · split <;> exact ⟨rfl, rfl⟩

theorem execute_eq (run : Run) (console : Console) (fs : FileSystem) :
    (run.execute console fs).2 =
      if console.takes (Line.header run.suite) then
        match (run.collect .empty fs).failure? with
        | some e => ⟨console.wrote (Line.header run.suite), fs, .error (e.within .parseAll)⟩
        | none => run.report (run.collect .empty fs).results
            (console.wrote (Line.header run.suite)) fs
      else ⟨console, fs, .error Console.refused⟩ := by
  rw [execute, Console.print_eq]
  cases console.takes (Line.header run.suite) with
  | false => rfl
  | true =>
    rw [if_pos rfl, if_pos rfl]
    dsimp only [Collected.within]
    cases (run.collect .empty fs).failure? <;> rfl

theorem execute_of_takes {run : Run} {console : Console} {fs : FileSystem}
    (h : console.takes (run.printed console.palette fs) = true) :
    (run.execute console fs).2 =
      run.ending (console.wrote (run.printed console.palette fs)) fs := by
  rw [execute_eq, ending]
  cases hcollect : (run.collect .empty fs).failure? with
  | some e =>
    rw [printed, hcollect] at h ⊢
    rw [if_pos h]
  | none =>
    rw [printed, hcollect] at h ⊢
    rw [Console.takes_append, Bool.and_eq_true] at h
    rw [if_pos h.1]
    dsimp only
    rw [report_eq, Console.palette_wrote, if_pos h.2, Console.wrote_append]

theorem execute_of_not_takes {run : Run} {console : Console} {fs : FileSystem}
    (h : console.takes (run.printed console.palette fs) = false) :
    (run.execute console fs).2.outcome = .error Console.refused ∧
      (run.execute console fs).2.files = fs := by
  rw [execute_eq]
  split
  · next hheader =>
    cases hcollect : (run.collect .empty fs).failure? with
    | some e =>
      rw [printed, hcollect] at h
      rw [h] at hheader
      cases hheader
    | none =>
      rw [printed, hcollect] at h
      rw [Console.takes_append, hheader, Bool.true_and] at h
      dsimp only
      rw [report_eq, Console.palette_wrote, h]
      exact ⟨rfl, rfl⟩
  · exact ⟨rfl, rfl⟩

/-- With a limited sink a run comes to the end that it has without a limit if the
whole text fits, and otherwise fails and leaves the files as they were. -/
theorem execute_limited (run : Run) (palette : Palette) (fs : FileSystem) (limit : Nat) :
    let free := (run.execute { palette } fs).2
    let limited := (run.execute { palette, room := some limit } fs).2
    if free.console.text.byteLength ≤ limit then
      limited.outcome = free.outcome ∧ exitCode limited.outcome = exitCode free.outcome ∧
        limited.files = free.files ∧ limited.console.text = free.console.text
    else
      ∃ failure, limited.outcome = .error failure ∧
        failure.message = "write: sink full".toList ∧ exitCode limited.outcome = 1 ∧
        limited.files = fs := by
  intro free limited
  have hfree : free = run.ending (Console.wrote { palette } (run.printed palette fs)) fs :=
    execute_of_takes (Console.takes_of_room rfl _)
  have htext : free.console.text = run.printed palette fs := by
    rw [hfree, console_ending, Console.text_wrote, List.nil_append]
  rw [htext]
  split
  · next hfits =>
    have hlimited : limited =
        run.ending (Console.wrote { palette, room := some limit } (run.printed palette fs)) fs :=
      execute_of_takes (decide_eq_true hfits)
    obtain ⟨houtcome, hfiles⟩ : limited.outcome = free.outcome ∧ limited.files = free.files := by
      rw [hlimited, hfree]
      exact ending_congr ..
    refine ⟨houtcome, congrArg exitCode houtcome, hfiles, ?_⟩
    rw [hlimited, console_ending, Console.text_wrote, List.nil_append]
  · next hfull =>
    obtain ⟨houtcome, hfiles⟩ : limited.outcome = .error Console.refused ∧ limited.files = fs :=
      execute_of_not_takes (decide_eq_false hfull)
    refine ⟨Console.refused, houtcome, by decide, ?_, hfiles⟩
    rw [houtcome]
    rfl

/-- The last line is refused for want of one byte, and no output directory is created. -/
example :
    let files : FileSystem :=
      { entries := sampleEntries [(⟨Path.ofText "aha.log".toList, by decide⟩, .file 0)]
        distinct := by decide
        file := numbered [Text.toBytes "Program exit with code: 0 (0x0)".toList] }
    let finish (room : Option Nat) :=
      (sample.execute { palette := ⟨false, false⟩, room } files).2
    (finish none).console.text.byteLength = 149 ∧
      (finish (some 149)).outcome = .ok (.passed sample.reportFile) ∧
      (finish (some 148)).outcome = .error Console.refused ∧
      (finish (some 148)).files.entries = files.entries := by
  decide +kernel

end Run
end SimReport
