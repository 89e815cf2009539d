/-
What a report changes.

A report is given the table and hands none back, so the table stays as it is.  Of
the files it changes nothing unless the gate is passed.  Then it creates the
output directory, with those above it that are missing, and replaces the report
file by the table's, wherever links lead and whatever the old one was.  If that
fails, some directories may be new, and the report file may hold less than the
report.  A file is replaced under all its names, and a device keeps nothing.
-/
import SimReport.Proofs.Run.Collection
import SimReport.Proofs.Run.Ending

namespace SimReport

namespace Run

/-- No row failed that is not excused. -/
def Passes (run : Run) (results : Results) : Prop :=
  ∀ row ∈ results.rows, row.metrics.exitCode = some 0 ∨ row.id ∈ run.whitelist.ids

theorem failures_eq_nil_iff {run : Run} {results : Results} :
    run.whitelist.failures results = [] ↔ run.Passes results := by
  rw [Whitelist.failures_eq, List.map_eq_nil_iff, List.filter_eq_nil_iff, Passes]
  apply forall₂_congr
  intro row _
  rw [decide_eq_true_eq, not_and_or, not_not, not_not]

theorem verdict_of_passes {run : Run} {results : Results} (h : run.Passes results)
    (console : Console) (fs : FileSystem) :
    run.verdict results console fs =
      ⟨console, (run.save results fs).1, (run.save results fs).2⟩ := by
  rw [verdict, if_pos (failures_eq_nil_iff.mpr h)]

theorem verdict_of_not_passes {run : Run} {results : Results} (h : ¬ run.Passes results)
    (console : Console) (fs : FileSystem) :
    run.verdict results console fs =
      ⟨console, fs, .ok (.failed (run.whitelist.failures results))⟩ := by
  rw [verdict, if_neg (mt failures_eq_nil_iff.mp h)]

/-- What saving does to the files, whether it succeeds or not.  No file is changed but the one that
the path of the report file leads to. -/
theorem save_effects (run : Run) (results : Results) (fs : FileSystem) :
    let saved := run.save results fs
    let content := (ReportFile.text results).toBytes
    ∃ places, fs.Creates run.outputDirectory.ancestors places ∧
      (∀ outcome, saved.2 = .ok outcome → outcome = .passed run.reportFile ∧
        (fs.putDirectories places).Overwrites run.reportFile content saved.1) ∧
      (∀ e, saved.2 = .error e →
        (fs.putDirectories places).FallsShort run.reportFile content saved.1) ∧
      ∀ loc id, fs.get? loc = some (.file id) →
        (fs.putDirectories places).status run.reportFile ≠ .ok (.file id) →
          saved.1.file id = fs.file id := by
  intro saved content
  obtain ⟨places, hcreates, ⟨stored, hsave, hstored⟩ | ⟨left, activity, cause, hsave, hleft, -⟩⟩ :=
    run.save_cases results fs
  · have hsaved : saved = (stored, .ok (.passed run.reportFile)) := hsave
    rw [hsaved]
    refine ⟨places, hcreates, ?_, ?_, ?_⟩
    · intro outcome h
      cases h
      exact ⟨rfl, hstored⟩
    · intro e h
      cases h
    · intro loc id hid hother
      rw [hstored.file_of_ne (hcreates.grows.get? hid) hother, (fs.putDirectories_fields places).1]
  · have hsaved : saved = (left, .error ⟨[.writeCsv, activity], cause⟩) := hsave
    rw [hsaved]
    refine ⟨places, hcreates, ?_, fun _ _ => hleft, ?_⟩
    · intro outcome h
      cases h
    · intro loc id hid hother
      rw [hleft.file_of_ne (hcreates.grows.get? hid) hother, (fs.putDirectories_fields places).1]

/-- A report that fails the gate leaves all files as they are, one that passes has replaced what
the path of the report file leads to, and one that could not be stored has created directories and
at most left a part of the report there.  No other file is changed. -/
theorem report_effects (run : Run) (results : Results) {console : Console}
    (hroom : console.room = none) (fs : FileSystem) :
    let finished := run.report results console fs
    let content := (ReportFile.text results).toBytes
    ((∃ ids, finished.outcome = .ok (.failed ids)) ↔ ¬ run.Passes results) ∧
      (¬ run.Passes results →
        finished.outcome = .ok (.failed (run.whitelist.failures results)) ∧
          finished.files = fs) ∧
      ∃ places, fs.Creates run.outputDirectory.ancestors places ∧
        (∀ csv, finished.outcome = .ok (.passed csv) →
          run.Passes results ∧ csv = run.reportFile ∧ finished.files.Took csv content ∧
            (fs.putDirectories places).Overwrites csv content finished.files) ∧
        (∀ e, finished.outcome = .error e →
          run.Passes results ∧
            (fs.putDirectories places).FallsShort run.reportFile content finished.files) ∧
        ∀ loc id, fs.get? loc = some (.file id) →
          (fs.putDirectories places).status run.reportFile ≠ .ok (.file id) →
            finished.files.file id = fs.file id := by
  intro finished content
  have hfinished : finished =
      run.verdict results (console.wrote (run.reportText console.palette results)) fs := by
    show run.report results console fs = _
    rw [report_eq, if_pos (Console.takes_of_room hroom _)]
  by_cases hpass : run.Passes results
  · rw [verdict_of_passes hpass] at hfinished
    obtain ⟨places, hcreates, hstored, hleft, hothers⟩ := run.save_effects results fs
    rw [hfinished]
    refine ⟨⟨?_, fun h => absurd hpass h⟩, fun h => absurd hpass h, places, hcreates, ?_, ?_, hothers⟩
    · rintro ⟨ids, hids⟩
      cases (hstored _ hids).1
    · intro csv hcsv
      obtain ⟨houtcome, hover⟩ := hstored _ hcsv
      cases houtcome
      exact ⟨hpass, rfl, hover.took, hover⟩
    · intro e he
      exact ⟨hpass, hleft e he⟩
  · rw [verdict_of_not_passes hpass] at hfinished
    rw [hfinished]
    refine ⟨⟨fun _ => hpass, fun _ => ⟨_, rfl⟩⟩, fun _ => ⟨rfl, rfl⟩, [],
      FileSystem.creates_nil fs _, ?_, ?_, fun _ _ _ _ => rfl⟩
    · intro csv hcsv
      cases hcsv
    · intro e he
      cases he

theorem execute_eq_passed {run : Run} {console : Console} {fs : FileSystem} {file : Path}
    (hroom : console.room = none) (h : (run.execute console fs).2.outcome = .ok (.passed file)) :
    (run.collect .empty fs).failure? = none ∧ run.Passes (run.collect .empty fs).results ∧
      (run.save (run.collect .empty fs).results fs).2 = .ok (.passed file) ∧
      (run.execute console fs).2.files = (run.save (run.collect .empty fs).results fs).1 := by
  rw [execute_of_takes (Console.takes_of_room hroom _), ending] at h ⊢
  cases hcollect : (run.collect .empty fs).failure? with
  | some e =>
    rw [hcollect] at h
    cases h
  | none =>
    rw [hcollect] at h
    dsimp only at h ⊢
    by_cases hpass : run.Passes (run.collect .empty fs).results
    · rw [verdict_of_passes hpass] at h ⊢
      exact ⟨rfl, hpass, h, rfl⟩
    · rw [verdict_of_not_passes hpass] at h
      cases h

theorem report_eq_passed {run : Run} {results : Results} {console : Console} {fs : FileSystem}
    {file : Path} (h : (run.report results console fs).outcome = .ok (.passed file)) :
    (run.save results fs).2 = .ok (.passed file) ∧
      (run.report results console fs).files = (run.save results fs).1 := by
  rw [report_eq] at h ⊢
  split at h
  · next htakes =>
    rw [if_pos htakes]
    rw [verdict] at h ⊢
    split at h
    · next hnone =>
      rw [if_pos hnone]
      exact ⟨h, rfl⟩
    · cases h
  · cases h

theorem took_of_save_passed {run : Run} {results : Results} {fs : FileSystem} {file : Path}
    (h : (run.save results fs).2 = .ok (.passed file)) :
    (run.save results fs).1.Took file (ReportFile.text results).toBytes := by
  obtain ⟨places, -, hstored, -⟩ := run.save_effects results fs
  obtain ⟨houtcome, hover⟩ := hstored _ h
  cases houtcome
  exact hover.took

/-- What a report that passed has saved is the text of its table. -/
theorem took_of_report_passed {run : Run} {results : Results} {console : Console}
    {fs : FileSystem} {file : Path}
    (h : (run.report results console fs).outcome = .ok (.passed file)) :
    (run.report results console fs).files.Took file (ReportFile.text results).toBytes := by
  obtain ⟨hsave, hfiles⟩ := report_eq_passed h
  rw [hfiles]
  exact took_of_save_passed hsave

/-- A report file that is a link to a long file of another name. -/
def linkedFiles (limit? : Option Limit) : FileSystem where
  entries :=
    [(sampleDirectory.drop 2, .directory),
      (⟨Path.ofText "output".toList, by decide⟩ :: sampleDirectory.drop 2, .directory),
      (⟨Path.ofText "benchmarks.csv".toList, by decide⟩ ::
        ⟨Path.ofText "output".toList, by decide⟩ :: sampleDirectory.drop 2,
        .link (.ofText "../old.csv".toList)),
      (⟨Path.ofText "old.csv".toList, by decide⟩ :: sampleDirectory.drop 2, .file 0)]
  distinct := by decide
  file _ := { content := List.replicate 1000 0x78, limit? }

/-- A benchmark that succeeded, and one that failed and is excused. -/
def excusedResults : Results where
  rows := [⟨"a,b.log".toList, { exitCode := some 0 }⟩, ⟨"st.log".toList, {}⟩]
  nodup := by decide

/-- The target of the link is replaced, and nothing of its old content is left, also if the file
takes no more than nine bytes of the new one. -/
theorem report_linked :
    let console : Console := ⟨⟨false, false⟩, none, []⟩
    let whole := sample.report excusedResults console (linkedFiles none)
    let broken := sample.report excusedResults console (linkedFiles (some ⟨9, .noSpace⟩))
    let content := (ReportFile.text excusedResults).toBytes
    console.room = none ∧ content.length < 1000 ∧
      whole.outcome = .ok (.passed sample.reportFile) ∧
      whole.files.read sample.reportFile = .ok content ∧
      broken.outcome = .error ⟨[.writeCsv, .flush], .io .noSpace⟩ ∧
      broken.files.read sample.reportFile = .ok (Text.toBytes "Benchmark".toList) ∧
      ∃ places, (linkedFiles (some ⟨9, .noSpace⟩)).Creates sample.outputDirectory.ancestors places ∧
        ((linkedFiles (some ⟨9, .noSpace⟩)).putDirectories places).FallsShort sample.reportFile
          content broken.files := by
  intro console whole broken content
  have hroom : console.room = none := rfl
  have hwhole : whole.outcome = .ok (.passed sample.reportFile) := by decide +kernel
  have hbroken : broken.outcome = .error ⟨[.writeCsv, .flush], .io .noSpace⟩ := by decide +kernel
  obtain ⟨-, -, _, -, hpassed, -⟩ := report_effects sample excusedResults hroom (linkedFiles none)
  obtain ⟨-, -, htook, -⟩ := hpassed sample.reportFile hwhole
  obtain ⟨-, -, places, hcreates, -, hfailed, -⟩ :=
    report_effects sample excusedResults hroom (linkedFiles (some ⟨9, .noSpace⟩))
  have hread : whole.files.read sample.reportFile = .ok content := by
    have hisOk : (whole.files.read sample.reportFile).isOk = true := by decide +kernel
    cases hfound : whole.files.read sample.reportFile with
    | error e =>
      rw [hfound] at hisOk
      cases hisOk
    | ok found => rw [htook.read (by decide +kernel) hfound]
  exact ⟨hroom, by decide +kernel, hwhole, hread, hbroken, by decide +kernel,
    places, hcreates, (hfailed _ hbroken).2⟩

/-- The device that keeps nothing, in its directory. -/
def nullDevice : List (Location × Entry) :=
  [([⟨Path.ofText "dev".toList, by decide⟩], .directory),
    ([⟨Path.ofText "null".toList, by decide⟩, ⟨Path.ofText "dev".toList, by decide⟩],
      .device .null)]

/-- A report file that is a link to the device that keeps nothing. -/
def discardingFiles : FileSystem where
  entries := nullDevice ++
    [(sampleDirectory.drop 2, .directory),
      (⟨Path.ofText "output".toList, by decide⟩ :: sampleDirectory.drop 2, .directory),
      (⟨Path.ofText "benchmarks.csv".toList, by decide⟩ ::
        ⟨Path.ofText "output".toList, by decide⟩ :: sampleDirectory.drop 2,
        .link (.ofText "/dev/null".toList))]
  distinct := by decide

/-- A report that passes is not found again if its file is a device that keeps nothing. -/
theorem report_discarded :
    let finished := sample.report excusedResults ⟨⟨false, false⟩, none, []⟩ discardingFiles
    finished.outcome = .ok (.passed sample.reportFile) ∧
      finished.files.read sample.reportFile = .ok [] ∧
      (ReportFile.text excusedResults).toBytes ≠ [] := by
  decide +kernel

end Run
end SimReport
