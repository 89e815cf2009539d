/-
The verdict of a whole run.

With a console that takes every line, what a run does is fixed by the log files
of its log directory.  If one of them cannot be read, that ends the run.  If all can
be, and their decoded names are different, the table has the rows of the log files
in listing order.  So the run fails exactly if a log file of an identifier that is
not excused did not exit with zero, and it names these identifiers.  Otherwise only
the writing of the report file can fail.  Either way the summary counts all log
files and those that exited with zero.

Which entries are files is what the system tells of them, and an entry that may not
be looked at is none.
-/
import SimReport.Proofs.Run.Collection
import SimReport.Proofs.Run.Ending

namespace SimReport

theorem LogFile.succeeded_row (file : LogFile) :
    file.row.succeeded = decide (file.exitCode = some 0) := by
  rw [Row.succeeded, Bool.eq_iff_iff, Metrics.succeeded_iff, decide_eq_true_iff]
  rfl

namespace Run

/-- The identifiers of the log files that did not exit with zero and are not
excused, in listing order. -/
def failing (run : Run) (fs : FileSystem) : List Text :=
  ((run.logFiles fs).filter fun file =>
    file.exitCode ≠ some 0 ∧ file.id ∉ run.whitelist.ids).map LogFile.id

theorem save_outcome (run : Run) (results : Results) (fs : FileSystem) :
    (run.save results fs).2 = .ok (.passed run.reportFile) ∨
      ∃ activity cause, (run.save results fs).2 = .error ⟨[.writeCsv, activity], cause⟩ ∧
        activity ∈
          ReportFile.activities (results.rows.map Row.id) run.outputDirectory run.reportFile := by
  obtain ⟨places, -, ⟨stored, hsave, -⟩ | ⟨left, activity, cause, hsave, -, hmem, -⟩⟩ :=
    run.save_cases results fs
  · exact Or.inl (congrArg Prod.snd hsave)
  · exact Or.inr ⟨activity, cause, congrArg Prod.snd hsave, hmem⟩

theorem report_of_room (run : Run) (results : Results) {console : Console}
    (h : console.room = none) (fs : FileSystem) :
    (run.report results console fs).console.text =
        console.text ++ (summaryLines console.palette results).flatten ++
          run.verdictLine console.palette (run.whitelist.failures results) ∧
      (run.report results console fs).outcome =
        if run.whitelist.failures results = [] then (run.save results fs).2
        else .ok (.failed (run.whitelist.failures results)) := by
  rw [report_eq, if_pos (Console.takes_of_room h _), console_verdict, Console.text_wrote,
    reportText, ← List.append_assoc, verdict]
  constructor
  · rfl
  · split <;> rfl

theorem execute_of_room (run : Run) {console : Console} (hroom : console.room = none)
    {fs : FileSystem} (hread : run.Readable fs) :
    (run.execute console fs).2 =
      run.report (run.collect .empty fs).results
        { console with text := console.text ++ Line.header run.suite } fs := by
  rw [execute_eq, if_pos (Console.takes_of_room hroom _),
    (run.collect_failure?_eq_none_iff .empty fs).mpr hread, Console.wrote_of_room hroom]

/-- What cannot be read ends the run. -/
theorem execute_of_not_readable (run : Run) {console : Console} (hroom : console.room = none)
    {fs : FileSystem} (h : ¬ run.Readable fs) :
    ∃ e, (run.collect .empty fs).failure? = some e ∧
      (run.execute console fs).2.outcome = .error (e.within .parseAll) ∧
      (run.execute console fs).2.files = fs := by
  obtain ⟨e, he⟩ := Option.ne_none_iff_exists'.mp
    (mt (run.collect_failure?_eq_none_iff .empty fs).mp h)
  rw [execute_eq, if_pos (Console.takes_of_room hroom _), he]
  exact ⟨e, rfl, rfl, rfl⟩

theorem failures_of_rows (run : Run) {fs : FileSystem} {results : Results}
    (h : results.rows = (run.logFiles fs).map LogFile.row) :
    run.whitelist.failures results = run.failing fs := by
  rw [Whitelist.failures_eq, h, List.filter_map, List.map_map, failing]
  rfl

theorem passed_of_rows {files : List LogFile} {results : Results}
    (h : results.rows = files.map LogFile.row) :
    results.passed = files.countP fun file => file.exitCode = some 0 := by
  rw [Results.passed, h, List.countP_map]
  exact congrArg (fun p => files.countP p) (funext LogFile.succeeded_row)

/-- The verdict and the summary of a run, from the log files alone.  They are all files that the
log directory has, or the run fails for one that cannot be read. -/
theorem execute_verdict (run : Run) {console : Console} (hroom : console.room = none)
    {fs : FileSystem} (hnames : ((run.logFiles fs).map LogFile.fileName).Nodup) :
    (¬ run.Readable fs →
      ∃ e, (run.collect .empty fs).failure? = some e ∧
        (run.execute console fs).2.outcome = .error (e.within .parseAll)) ∧
      (run.Readable fs →
        (run.logFiles fs).map LogFile.name = run.logNames fs ∧
        ((run.execute console fs).2.outcome = .ok (.failed (run.failing fs)) ↔
          run.failing fs ≠ []) ∧
        (run.failing fs = [] →
          (run.execute console fs).2.outcome = .ok (.passed run.reportFile) ∨
            ∃ activity cause,
              (run.execute console fs).2.outcome = .error ⟨[.writeCsv, activity], cause⟩ ∧
                activity ∈ ReportFile.activities ((run.logFiles fs).map LogFile.id)
                  run.outputDirectory run.reportFile) ∧
        (run.execute console fs).2.console.text =
          console.text ++ Line.header run.suite ++
            (Line.benchmarks console.palette ((run.logFiles fs).map LogFile.row)).flatten ++
            Line.summary ((run.logFiles fs).countP fun file => file.exitCode = some 0)
              (run.logFiles fs).length ++
            run.verdictLine console.palette (run.failing fs)) := by
  refine ⟨fun h => ?_, fun hread => ?_⟩
  · obtain ⟨e, he, houtcome, -⟩ := execute_of_not_readable run hroom h
    exact ⟨e, he, houtcome⟩
  have hwritten : { console with text := console.text ++ Line.header run.suite }.room = none :=
    hroom
  have hrows := rows_collect_of_nodup hnames
  have hfailures := run.failures_of_rows hrows
  have hids : (run.collect .empty fs).results.rows.map Row.id =
      (run.logFiles fs).map LogFile.id := by
    rw [hrows, List.map_map]
    rfl
  have hsize : (run.collect .empty fs).results.size = (run.logFiles fs).length := by
    rw [Results.size, hrows, List.length_map]
  obtain ⟨htext, houtcome⟩ := run.report_of_room (run.collect .empty fs).results hwritten fs
  rw [execute_of_room run hroom hread, htext, houtcome, hfailures]
  have hsave := run.save_outcome (run.collect .empty fs).results fs
  rw [hids] at hsave
  refine ⟨hread.map_name_logFiles, ⟨fun h hnil => ?_, fun h => if_neg h⟩, fun h => ?_, ?_⟩
  · rw [if_pos hnil] at h
    rcases hsave with hs | ⟨activity, cause, hs, -⟩ <;> rw [hs] at h <;> cases h
  · rw [if_pos h]
    exact hsave
  · rw [summaryLines, hrows, passed_of_rows hrows, hsize, List.flatten_append, List.flatten_singleton]
    simp only [List.append_assoc]

/-- Logs that fail under one identifier, one that is excused, one that succeeds
behind a broken byte, and a directory. -/
def mixedFiles : FileSystem where
  entries := sampleEntries
    [(⟨Path.ofText "a.log".toList, by decide⟩, .file 0),
      (⟨Path.ofText "ud.log".toList, by decide⟩, .file 1),
      (⟨Path.ofText "b.log".toList, by decide⟩, .file 2),
      (⟨Path.ofText "c.log".toList, by decide⟩, .directory),
      (⟨Path.ofText "a.txt".toList, by decide⟩, .link (.ofText "ud.log".toList))]
  distinct := by decide
  file := numbered
    [Text.toBytes "Program exit with code: 1 (0x1)".toList, [],
      0xff :: Text.toBytes "Program exit with code: 0 (0x0)".toList]

theorem execute_mixed :
    (sample.execute ⟨⟨false, false⟩, none, []⟩ mixedFiles).2.outcome =
        .ok (.failed ["a".toList, "a".toList]) ∧
      Line.summary 1 4 <:+:
        (sample.execute ⟨⟨false, false⟩, none, []⟩ mixedFiles).2.console.text := by
  have hroom : (⟨⟨false, false⟩, none, []⟩ : Console).room = none := rfl
  have hread : sample.Readable mixedFiles := by decide +kernel
  have hfailing : sample.failing mixedFiles = ["a".toList, "a".toList] := by decide +kernel
  have hpassed : ((sample.logFiles mixedFiles).countP fun file => file.exitCode = some 0) = 1 := by
    decide +kernel
  have hlength : (sample.logFiles mixedFiles).length = 4 := by decide +kernel
  have hnames : ((sample.logFiles mixedFiles).map LogFile.fileName).Nodup := by decide +kernel
  obtain ⟨-, hverdict⟩ := execute_verdict sample hroom hnames
  obtain ⟨-, hfailed, -, htext⟩ := hverdict hread
  rw [hfailing] at hfailed
  rw [hpassed, hlength] at htext
  refine ⟨hfailed.mpr (List.cons_ne_nil _ _), ?_⟩
  rw [htext]
  exact List.infix_append _ _ _

/-- A failing log in a file system that refuses some requests. -/
def deniedFiles (denied : Request → Bool) : FileSystem where
  entries := sampleEntries [(⟨Path.ofText "edn.log".toList, by decide⟩, .file 0)]
  distinct := by decide
  file := numbered [Text.toBytes "Program exit with code: 1 (0x1)".toList]
  refusal? request :=
    if denied request then some "Permission denied (os error 13)".toList else none

/-- A log that failed does not fail the gate if it may not be read, which ends the run, or if its
directory may be listed and not searched, with which it counts as no file and the run passes. -/
theorem execute_denied :
    let console : Console := ⟨⟨false, false⟩, none, []⟩
    let allowed := deniedFiles fun _ => false
    let unreadable := deniedFiles fun request =>
      match request with
      | .read _ => true
      | _ => false
    let unsearchable := deniedFiles fun request =>
      match request with
      | .pass directory (.into _) => directory = sampleDirectory
      | _ => false
    sample.failing allowed = ["edn".toList] ∧
      (sample.execute console allowed).2.outcome = .ok (.failed ["edn".toList]) ∧
      (sample.execute console unreadable).2.outcome =
        .error ⟨[.parseAll, .parse (.ofText "run/logs/sim/edn.log".toList),
          .read (.ofText "run/logs/sim/edn.log".toList)],
          .io (.refused "Permission denied (os error 13)".toList)⟩ ∧
      (sample.execute console unsearchable).2.outcome = .ok (.passed sample.reportFile) := by
  decide +kernel

end Run
end SimReport
