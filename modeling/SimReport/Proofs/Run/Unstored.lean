/-
A report that cannot be stored is not reported as written.

The writer holds back what its buffer takes, so it may have taken a whole report
without a byte having gone out.  A file that refuses every write still ends the
run with a failure: in the row with which the output no longer fits, or in the
flush at the end, and never in the header.
-/
import SimReport.Proofs.ReportFile.Writer
import SimReport.Proofs.Run.Effects
import SimReport.Proofs.Run.Places

namespace SimReport
namespace Run

variable {run : Run} {results : Results} {fs : FileSystem}

/-- A run passes only if the report of its table does. -/
theorem report_of_execute_passed {console : Console} {file : Path}
    (h : (run.execute console fs).2.outcome = .ok (.passed file)) :
    ∃ console, (run.report (run.collect .empty fs).results console fs).outcome =
      .ok (.passed file) := by
  rw [execute_eq] at h
  split at h
  · split at h
    · cases h
    · exact ⟨_, h⟩
  · cases h

/-- If the report file can be opened and refuses every write, nothing is reported as written.
However records are cut into pieces, the failure is that of the first row with which the whole
output is more than the buffer takes, or of the flush if there is no such row. -/
theorem unstored_report_fails (run : Run) (results : Results) {fs made opened : FileSystem}
    {handle : Handle} (hmade : fs.makeDirectories run.outputDirectory = (made, .ok ()))
    (hopen : made.openEmpty run.reportFile = .ok (opened, handle))
    (hrefused : ∀ bytes, bytes ≠ [] → ∃ e, (opened.append handle bytes).2 = .error e) :
    ∃ activity e,
      (∀ bytes, bytes ≠ [] → (opened.append handle bytes).2 = .error e) ∧
      ((ReportFile.text results).byteLength ≤ ReportFile.bufferSize → activity = .flush) ∧
      (ReportFile.bufferSize < (ReportFile.text results).byteLength →
        ∃ before row after, results.rows = before ++ row :: after ∧
          activity = .writeRow row.id ∧
          (Csv.encode (ReportFile.header :: before.map ReportFile.record)).byteLength ≤
            ReportFile.bufferSize ∧
          ReportFile.bufferSize <
            (Csv.encode (ReportFile.header ::
              (before ++ [row]).map ReportFile.record)).byteLength) ∧
      (∀ cut, ReportFile.store cut results opened handle =
        (opened, .error ⟨[activity], ReportFile.causeOf activity e⟩)) ∧
      ReportFile.save results run.outputDirectory run.reportFile fs =
        (opened, .error ⟨[activity], ReportFile.causeOf activity e⟩) ∧
      ∀ console,
        (run.Passes results → console.takes (run.reportText console.palette results) = true →
          (run.report results console fs).outcome =
            .error ⟨[.writeCsv, activity], ReportFile.causeOf activity e⟩) ∧
        (∀ file, (run.report results console fs).outcome ≠ .ok (.passed file)) ∧
        ∀ file, (run.execute console fs).2.outcome ≠ .ok (.passed file) := by
  have hempty := (FileSystem.overwrites_of_openEmpty hopen).1
  obtain ⟨limit, hlimit, hroom, hfault⟩ := FileSystem.limit_of_refused hempty hrefused
  have hstored (cut : ReportFile.Cut) (results : Results) :=
    ReportFile.store_of_full cut results hempty hlimit hroom
  have hsaved (results : Results) : ReportFile.save results run.outputDirectory run.reportFile fs =
      (opened, .error ⟨[ReportFile.firstOutput results],
        ReportFile.causeOf (ReportFile.firstOutput results) limit.fault⟩) := by
    rw [ReportFile.save, hmade]
    dsimp only
    rw [hopen]
    exact hstored .filling results
  have hfailed (results : Results) (file : Path) :
      (run.save results fs).2 ≠ .ok (.passed file) := by
    rw [save, hsaved results]
    intro h
    cases h
  refine ⟨ReportFile.firstOutput results, limit.fault, hfault, ?_, ?_, ?_, ?_,
    fun console => ⟨?_, ?_, ?_⟩⟩
  · exact (ReportFile.firstOutput_eq_flush_iff results).mpr
  · exact ReportFile.firstOutput_of_overflow
  · exact fun cut => hstored cut results
  · exact hsaved results
  · intro hpass htakes
    rw [report_eq, if_pos htakes, verdict_of_passes hpass, save, hsaved results]
    rfl
  · intro file h
    exact hfailed results file (report_eq_passed h).1
  · intro file h
    obtain ⟨console, hreport⟩ := report_of_execute_passed h
    exact hfailed _ file (report_eq_passed hreport).1

/-- A log that succeeded, and a report file that is a link to the full device. -/
def refusingFiles : FileSystem where
  entries := sampleEntries [(⟨Path.ofText "m.log".toList, by decide⟩, .file 0)] ++
    [(outputName :: sampleDirectory.drop 2, .directory),
      (reportName :: outputName :: sampleDirectory.drop 2, .link (.ofText "../full".toList)),
      (⟨Path.ofText "full".toList, by decide⟩ :: sampleDirectory.drop 2, .device .full)]
  distinct := by decide
  file := numbered [Text.toBytes "Program exit with code: 0 (0x0)".toList]

/-- The first two records fill the buffer to the last byte. -/
def brimmingResults : Results where
  rows := [⟨"p.log".toList, { exitCode := some 0 }⟩,
    ⟨",,,,".toList ++ List.replicate 1983 '😀' ++ ".log".toList, { exitCode := some 0 }⟩,
    ⟨"r.log".toList, { exitCode := some 0 }⟩]
  nodup := by decide

/-- What fails is the next row in the report of the full table, and the flush in the run. -/
theorem brimming_report_fails :
    let console : Console := ⟨⟨false, false⟩, none, []⟩
    let made := (refusingFiles.makeDirectories sample.outputDirectory).1
    made.openEmpty sample.reportFile = .ok (made, .device .full) ∧
      (∀ bytes, bytes ≠ [] → (made.append (.device .full) bytes).2 = .error .noSpace) ∧
      (Csv.encode (ReportFile.header ::
        (brimmingResults.rows.take 2).map ReportFile.record)).byteLength =
          ReportFile.bufferSize ∧
      (∀ cut, ReportFile.store cut brimmingResults made (.device .full) =
        (made, .error ⟨[.writeRow "r".toList], .csv .noSpace⟩)) ∧
      (sample.report brimmingResults console refusingFiles).outcome =
        .error ⟨[.writeCsv, .writeRow "r".toList], .csv .noSpace⟩ ∧
      (sample.execute console refusingFiles).2.outcome =
        .error ⟨[.writeCsv, .flush], .io .noSpace⟩ ∧
      ∀ file, (sample.execute console refusingFiles).2.outcome ≠ .ok (.passed file) := by
  intro console made
  have hroom : console.room = none := rfl
  have hend : (refusingFiles.makeDirectories sample.outputDirectory).2 = .ok () := by
    decide +kernel
  have hmade : refusingFiles.makeDirectories sample.outputDirectory = (made, .ok ()) := by
    rw [← hend]
  have hplace : ∃ loc, made.locate .create sample.reportFile = .ok (.present loc) ∧
      made.get? loc = some (.device .full) ∧ made.permit (.write loc) = .ok () :=
    ⟨⟨Path.ofText "full".toList, by decide⟩ :: sampleDirectory.drop 2, by decide +kernel,
      by decide +kernel, by decide +kernel⟩
  have hopen : made.openEmpty sample.reportFile = .ok (made, .device .full) := by
    obtain ⟨loc, hlocate, hdevice, hpermit⟩ := hplace
    rw [FileSystem.openEmpty, hlocate]
    dsimp only
    rw [hdevice, hpermit]
  have hrefused (bytes : Bytes) (hne : bytes ≠ []) :
      (made.append (.device .full) bytes).2 = .error .noSpace := by
    have hlength : ¬ ([] : Bytes).length + bytes.length ≤ 0 := by
      rw [List.length_nil, Nat.zero_add]
      exact Nat.not_le.mpr (List.length_pos_iff.mpr hne)
    exact congrArg Prod.snd (if_neg hlength)
  have hreport : (sample.report brimmingResults console refusingFiles).outcome =
      .error ⟨[.writeCsv, .writeRow "r".toList], .csv .noSpace⟩ := by decide +kernel
  obtain ⟨activity, e, hfault, -, -, hstore, -, hconsoles⟩ :=
    unstored_report_fails sample brimmingResults hmade hopen
      fun bytes hne => ⟨.noSpace, hrefused bytes hne⟩
  obtain ⟨hfails, -, hrun⟩ := hconsoles console
  have hpass : sample.Passes brimmingResults := failures_eq_nil_iff.mp (by decide +kernel)
  have hnospace : e = .noSpace :=
    Except.error.inj ((hfault [0] (List.cons_ne_nil _ _)).symm.trans
      (hrefused [0] (List.cons_ne_nil _ _)))
  have hactivity : activity = .writeRow "r".toList := by
    have hfailure := (hfails hpass (Console.takes_of_room hroom _)).symm.trans hreport
    have hduring := congrArg Failure.during (Except.error.inj hfailure)
    exact (List.cons.inj (List.cons.inj hduring).2).1
  subst hactivity hnospace
  exact ⟨hopen, hrefused, by decide +kernel, hstore, hreport, by decide +kernel, hrun⟩

end Run
end SimReport
