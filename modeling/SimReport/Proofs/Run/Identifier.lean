/-
One identifier for each log, wherever it is named.

A log is named when it has been parsed, by the gate, on the console and in the
report file.  The first of these has the log itself and the others have a row of
the table, so they agree because the row is stored under the decoded name of the
file and each of them takes its identifier from that name
(`identifiers_agree`).

The identifier may be empty, may be that of several logs, and may hold the signs
that part it from its neighbours on the console or in the report file.
-/
import Mathlib.Data.List.Forall2
import SimReport.Proofs.ReportFile.Columns
import SimReport.Proofs.Results.Identifier
import SimReport.Proofs.Run.Diagnostics
import SimReport.Proofs.Run.Effects
import SimReport.Proofs.Run.Gate

namespace SimReport

/-- The identifiers of the rows, from the names of their log files. -/
def Results.ids (results : Results) : List Text :=
  results.rows.map fun row => benchmarkId row.fileName

/-! ## Diagnostics -/

/-- The identifier that is told of a log when it has been parsed. -/
def Event.parsedId? : Event → Option Text
  | .parsedLog id _ _ => some id
  | _ => none

theorem Event.filterMap_parsedId_map {α : Type} {event : α → Event}
    (h : ∀ a, (event a).parsedId? = none) (l : List α) :
    (l.map event).filterMap parsedId? = [] := by
  rw [List.filterMap_map, List.filterMap_eq_nil_iff]
  exact fun a _ => h a

theorem Log.filterMap_parsedId_events (log : Log) :
    log.events.filterMap Event.parsedId? = [benchmarkId log.fileName] := by
  rw [events, List.filterMap_append, Event.filterMap_parsedId_map fun _ => rfl]
  rfl

theorem Run.filterMap_parsedId_collect (run : Run) (results : Results) (fs : FileSystem) :
    (run.collect results fs).events.filterMap Event.parsedId? =
      (run.logFiles fs).map fun file => benchmarkId (Utf8.decodeLossy file.name.bytes) := by
  by_cases h : ∃ names, fs.list run.logDirectory = .ok ⟨names, none⟩
  · obtain ⟨names, hnames⟩ := h
    rw [events_collect hnames, List.filterMap_append, List.filterMap_append, skipped,
      Event.filterMap_parsedId_map fun _ => rfl, List.filterMap_flatMap]
    simp only [Log.filterMap_parsedId_events]
    exact List.flatMap_pure_eq_map _ _
  · obtain ⟨⟨skipped, e, hlogs⟩, hnone⟩ := logs_of_incomplete h
    rw [collect, hlogs, logFiles, hnone]
    exact Event.filterMap_parsedId_map (fun _ => rfl) skipped

theorem Run.fileName_mem_collect {run : Run} (results : Results) {fs : FileSystem} {file : LogFile}
    (h : file ∈ run.logFiles fs) : file.fileName ∈ (run.collect results fs).results.fileNames := by
  rw [results_collect, Results.mem_fileNames_insertAll, List.map_map]
  exact Or.inr (List.mem_map_of_mem h)

/-! ## The console -/

namespace Line

/-- The line of the benchmark with this number has `id` in its column, filled up with blanks. -/
def Names (line : Text) (index : Nat) (id : Text) : Prop :=
  ∃ rest, line =
    padLeft 4 (Text.ofNat index) ++ ") ".toList ++ padRight 15 id ++ ": ".toList ++ rest

theorem names_benchmark (palette : Palette) (index : Nat) (row : Row) :
    Names (benchmark palette index row) index (benchmarkId row.fileName) := by
  refine ⟨tag palette row.succeeded ++ " (IPC=".toList ++ row.metrics.ipc.toFixed ++
    ")\n".toList, ?_⟩
  rw [benchmark, Row.id]
  simp only [List.append_assoc]

theorem forall₂_names_benchmarks (palette : Palette) (results : Results) :
    List.Forall₂ (fun numbered line => Names line numbered.2 numbered.1) (results.ids.zipIdx 1)
      (benchmarks palette results.rows) := by
  rw [benchmarks_eq, Results.ids, List.zipIdx_map, List.forall₂_map_left_iff,
    List.forall₂_map_right_iff, List.forall₂_same]
  intro numbered _
  exact names_benchmark palette numbered.2 numbered.1

end Line

namespace Run

variable {run : Run} {results : Results} {console : Console} {fs : FileSystem}

/-- The identifiers of the rows that failed, without those that the whitelist has. -/
def blamed (run : Run) (results : Results) : List Text :=
  ((results.rows.filter fun row => row.metrics.exitCode ≠ some 0).map fun row =>
    benchmarkId row.fileName).removeAll run.whitelist.ids

theorem failures_eq_blamed (run : Run) (results : Results) :
    run.whitelist.failures results = run.blamed results := by
  rw [blamed, List.removeAll, List.filter_map, List.filter_filter]
  refine congrArg (List.map Row.id) (List.filter_congr fun row _ => ?_)
  rw [Bool.and_comm, decide_not, ← beq_eq_decide]
  rfl

theorem report_of_not_refused
    (h : (run.report results console fs).outcome ≠ .error Console.refused) :
    run.report results console fs =
      run.verdict results (console.wrote (run.reportText console.palette results)) fs := by
  rw [report_eq] at h ⊢
  split at h
  · next htakes => rw [if_pos htakes]
  · exact absurd rfl h

theorem text_report_of_not_refused
    (h : (run.report results console fs).outcome ≠ .error Console.refused) :
    (run.report results console fs).console.text =
      console.text ++ (Line.benchmarks console.palette results.rows).flatten ++
        Line.summary results.passed results.size ++
        run.verdictLine console.palette (run.blamed results) := by
  rw [report_of_not_refused h, console_verdict, Console.text_wrote, reportText, summaryLines,
    List.flatten_append, List.flatten_singleton, run.failures_eq_blamed results]
  simp only [List.append_assoc]

theorem outcome_report_of_not_refused
    (h : (run.report results console fs).outcome ≠ .error Console.refused) :
    (run.report results console fs).outcome = .ok (.failed (run.blamed results)) ↔
      run.blamed results ≠ [] := by
  rw [report_of_not_refused h, verdict, run.failures_eq_blamed results]
  split
  · next hnone =>
    constructor
    · intro hfailed
      obtain hsave | ⟨activity, cause, hsave, -⟩ := run.save_outcome results fs
      · rw [hsave] at hfailed
        cases hfailed
      · rw [hsave] at hfailed
        cases hfailed
    · exact fun hsome => absurd hnone hsome
  · next hsome => exact ⟨fun _ => hsome, fun _ => rfl⟩

/-- The identifier of a log is the name of its file without the last four characters, and this is
the text by which it is told to be parsed, asked for in the whitelist, listed as failed, and named
in its line on the console and in the first column of the report file. -/
theorem identifiers_agree :
    (∀ name : Text,
      (4 ≤ name.length → ∃ tail : Text, tail.length = 4 ∧ benchmarkId name ++ tail = name) ∧
      (name.length < 4 → benchmarkId name = []) ∧
      name.takeBytes? (idEnd name) = some (benchmarkId name)) ∧
    (∀ id tail : Text, tail.length = 4 → benchmarkId (id ++ tail) = id) ∧
    -- Parsing a log, and all logs of a run.
    (∀ (results : Results) (fs : FileSystem) (p : Path) (log : Log), Log.read fs p = .ok log →
      (results.parseLog fs p).events.filterMap Event.parsedId? = [benchmarkId log.fileName] ∧
        log.fileName ∈ (results.parseLog fs p).results.fileNames) ∧
    (∀ (run : Run) (results : Results) (fs : FileSystem),
      (run.collect results fs).events.filterMap Event.parsedId? =
          (run.logFiles fs).map (fun file => benchmarkId (Utf8.decodeLossy file.name.bytes)) ∧
        ∀ file ∈ run.logFiles fs,
          Utf8.decodeLossy file.name.bytes ∈ (run.collect results fs).results.fileNames) ∧
    -- Reporting a table.
    ∀ (run : Run) (results : Results) (console : Console) (fs : FileSystem),
      let finished := run.report results console fs
      (finished.outcome ≠ .error Console.refused →
        (finished.outcome = .ok (.failed (run.blamed results)) ↔ run.blamed results ≠ []) ∧
        ∃ lines, List.Forall₂ (fun numbered line => Line.Names line numbered.2 numbered.1)
            (results.ids.zipIdx 1) lines ∧
          finished.console.text = console.text ++ lines.flatten ++
            Line.summary results.passed results.size ++
            run.verdictLine console.palette (run.blamed results)) ∧
      ∀ file, finished.outcome = .ok (.passed file) →
        ∃ text records, finished.files.Took file (Text.toBytes text) ∧
          Csv.decode? text = some (ReportFile.header :: records) ∧
          records.map List.head? = results.ids.map some := by
  refine ⟨fun name => ⟨exists_benchmarkId_append, benchmarkId_of_short, takeBytes?_idEnd name⟩,
    fun id tail h => benchmarkId_append id h, fun results fs p log h => ?_,
    fun run results fs => ⟨run.filterMap_parsedId_collect results fs,
      fun file h => fileName_mem_collect results h⟩,
    fun run results console fs => ⟨fun h => ?_, fun file h => ?_⟩⟩
  · rw [results.parseLog_of_read h]
    refine ⟨log.filterMap_parsedId_events, ?_⟩
    show log.fileName ∈ (results.insertAll [log.row]).fileNames
    exact Results.mem_fileNames_insertAll.mpr (Or.inr (List.mem_singleton_self log.fileName))
  · exact ⟨outcome_report_of_not_refused h, _,
      Line.forall₂_names_benchmarks console.palette results, text_report_of_not_refused h⟩
  · refine ⟨_, _, took_of_report_passed h, ReportFile.decode_text_eq results, ?_⟩
    rw [Results.ids, List.map_map, List.map_map]
    rfl

/-- Two logs that succeeded, one with a broken byte in its name and one with hardly a name, and one
that failed. -/
def oddFiles : FileSystem where
  entries := sampleEntries
    [(⟨0xff :: Path.ofText ".log".toList, by decide⟩, .file 0),
      (⟨Path.ofText "lrsc.log".toList, by decide⟩, .file 1),
      (⟨Path.ofText "é".toList, by decide⟩, .file 2)]
  distinct := by decide
  file := numbered
    [Text.toBytes "Program exit with code: 0 (0x0)".toList, [],
      Text.toBytes "Program exit with code: 0 (0x0)".toList]

/-- The log that failed is excused by the one run and not by the other. -/
theorem identifiers_agree_odd :
    let strict : Run := { sample with whitelist := ⟨[]⟩ }
    let lenient : Run := { sample with whitelist := ⟨["lrsc".toList]⟩ }
    let console : Console := ⟨⟨false, false⟩, none, []⟩
    let results := (sample.collect .empty oddFiles).results
    let ids := ["\ufffd".toList, "lrsc".toList, []]
    (∃ tail : Text, tail.length = 4 ∧ benchmarkId "é😀.log".toList ++ tail = "é😀.log".toList) ∧
      benchmarkId "log".toList = [] ∧ benchmarkId ("é".toList ++ "😀log".toList) = "é".toList ∧
      (Results.empty.parseLog oddFiles (.ofText "run/logs/sim/é".toList)).events.filterMap
        Event.parsedId? = [[]] ∧
      (sample.collect .empty oddFiles).events.filterMap Event.parsedId? = ids ∧
      "\ufffd.log".toList ∈ results.fileNames ∧
      (strict.report results console oddFiles).outcome = .ok (.failed ["lrsc".toList]) ∧
      (lenient.report results console oddFiles).outcome = .ok (.passed lenient.reportFile) ∧
      (∃ lines, List.Forall₂ (fun numbered line => Line.Names line numbered.2 numbered.1)
          (ids.zipIdx 1) lines ∧
        (lenient.report results console oddFiles).console.text = lines.flatten ++
          Line.summary 2 3 ++ Line.saving lenient.outputDirectory) ∧
      ∃ text records,
        (lenient.report results console oddFiles).files.Took lenient.reportFile
          (Text.toBytes text) ∧
        Csv.decode? text = some (ReportFile.header :: records) ∧
        records.map List.head? = ids.map some := by
  intro strict lenient console results ids
  obtain ⟨hnames, happend, hparsed, hcollected, hreport⟩ := identifiers_agree
  obtain ⟨hparsed, -⟩ := hparsed .empty oddFiles (.ofText "run/logs/sim/é".toList)
    ⟨"é".toList, "Program exit with code: 0 (0x0)".toList⟩ (by decide +kernel)
  obtain ⟨hlogged, hstored⟩ := hcollected sample .empty oddFiles
  have hbroken : "\ufffd.log".toList ∈ results.fileNames := by
    have hdecoded : Utf8.decodeLossy (0xff :: Path.ofText ".log".toList) = "\ufffd.log".toList := by
      decide +kernel
    rw [← hdecoded]
    exact hstored ⟨⟨0xff :: Path.ofText ".log".toList, by decide⟩,
      Text.toBytes "Program exit with code: 0 (0x0)".toList⟩ (by decide +kernel)
  have hids : results.ids = ids := by decide +kernel
  have hfailed : (strict.report results console oddFiles).outcome =
      .ok (.failed ["lrsc".toList]) := by
    have hblamed : strict.blamed results = ["lrsc".toList] := by decide +kernel
    obtain ⟨hprinted, -⟩ := hreport strict results console oddFiles
    obtain ⟨houtcome, -⟩ := hprinted (by decide +kernel)
    rw [hblamed] at houtcome
    exact houtcome.mpr (List.cons_ne_nil _ _)
  have hpassed : (lenient.report results console oddFiles).outcome =
      .ok (.passed lenient.reportFile) := by decide +kernel
  obtain ⟨hprinted, hsaved⟩ := hreport lenient results console oddFiles
  obtain ⟨-, lines, hlines, htext⟩ := hprinted (by rw [hpassed]; exact fun h => nomatch h)
  have hsummary : Line.summary results.passed results.size = Line.summary 2 3 := by decide +kernel
  have hverdict : lenient.verdictLine console.palette (lenient.blamed results) =
      Line.saving lenient.outputDirectory := by decide +kernel
  rw [hids] at hlines hsaved
  rw [hsummary, hverdict] at htext
  exact ⟨(hnames _).1 (by decide), (hnames _).2.1 (by decide), happend _ _ (by decide),
    hparsed.trans (by decide +kernel), hlogged.trans (by decide +kernel), hbroken, hfailed, hpassed,
    ⟨lines, hlines, htext⟩, hsaved _ hpassed⟩

end Run
end SimReport
