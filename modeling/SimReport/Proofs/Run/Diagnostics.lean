/-
What collecting a run's logs tells.

The entries that are no files are told first, each with a warning, and then how
many logs there are.  The logs follow in listing order, each with the markers
that gave no value and with what is recorded of it (`collect_events`).

A counter that is zero may have been stated as zero or not at all, and the table
does not show which.  The events do: a metric whose marker they do not name is
what the log states (`Log.not_mem_events_iff`).
-/
import SimReport.Proofs.ExecutionReport.Scraping
import SimReport.Proofs.Marker.Statement
import SimReport.Proofs.Run.Collection

namespace SimReport

/-! ## One log -/

namespace Log

def report (log : Log) : Text := executionReport log.text

theorem missingMarker_mem_events_iff (log : Log) {marker : Marker} (hm : marker ∈ Marker.all) :
    Event.missingMarker marker.text ∈ log.events ↔ marker.scrape? log.report = none := by
  rw [events, missingMarkers, List.mem_append, List.mem_map]
  constructor
  · rintro (⟨other, hother, htext⟩ | hlast)
    · obtain ⟨hmem, hnone⟩ := List.mem_filter.mp hother
      obtain rfl := Marker.eq_of_text_eq hmem hm (Event.missingMarker.inj htext)
      exact Option.isNone_iff_eq_none.mp hnone
    · cases List.mem_singleton.mp hlast
  · intro h
    exact Or.inl ⟨marker, List.mem_filter.mpr ⟨hm, Option.isNone_iff_eq_none.mpr h⟩, rfl⟩

theorem value_row (log : Log) {marker : Marker} (hm : marker ∈ Marker.all) :
    log.row.metrics.value marker.metric = marker.metric.stored (marker.scrape? log.report) :=
  Metrics.value_ofReport hm log.report

/-- No event names a marker exactly if the log states a value there, which is then recorded. -/
theorem not_mem_events_iff (log : Log) {marker : Marker} (hm : marker ∈ Marker.all) :
    Event.missingMarker marker.text ∉ log.events ↔
      ∃ value, marker.States log.report value ∧
        log.row.metrics.value marker.metric = some value := by
  rw [log.missingMarker_mem_events_iff hm, log.value_row hm]
  simp only [Marker.states_iff]
  cases hvalue : marker.scrape? log.report with
  | none => simp
  | some value =>
    cases marker.metric <;> simp [Metric.stored]

theorem level_of_mem_events {log : Log} {e : Event} (h : e ∈ log.events) : e.level = .debug := by
  rw [events, List.mem_append, List.mem_map, List.mem_singleton] at h
  obtain ⟨marker, -, rfl⟩ | rfl := h <;> rfl

theorem countP_events (log : Log) :
    log.events.countP (fun e => e.message = "parsed benchmark log".toList) = 1 := by
  rw [events, List.countP_append, List.countP_eq_zero.mpr]
  · rfl
  · intro e he
    obtain ⟨marker, -, rfl⟩ := List.mem_map.mp he
    show ¬ decide ("marker missing or malformed".toList = "parsed benchmark log".toList) = true
    decide

end Log

/-! ## All logs -/

namespace Run

variable {run : Run} {fs : FileSystem}

/-- The warnings about the entries that are no files. -/
def skipped (run : Run) (fs : FileSystem) (names : List Name) : List Event :=
  ((names.map run.entryPath).filter fun p => !fs.isFile p).map Event.skippedEntry

section

variable {names : List Name} (h : fs.list run.logDirectory = .ok ⟨names, none⟩)
  (results : Results)

include h

/-- A log that cannot be read is counted and not told. -/
theorem events_collect :
    (run.collect results fs).events =
      run.skipped fs names ++ [.listedLogs run.logDirectory (run.logNames fs).length] ++
        (run.logFiles fs).flatMap fun file => file.log.events := by
  rw [collect, logs_of_list h]
  exact congrArg (_ ++ ·)
    (results.parseLogs_names fs run.logDirectory (run.logNames fs)).1

theorem filter_level_collect :
    (run.collect results fs).events.filter (fun e => e.level = .warn) = run.skipped fs names := by
  have hlogs : ((run.logFiles fs).flatMap fun file => file.log.events).filter
      (fun e => e.level = .warn) = [] := by
    refine List.filter_eq_nil_iff.mpr fun e he => ?_
    obtain ⟨file, -, he⟩ := List.mem_flatMap.mp he
    rw [Log.level_of_mem_events he]
    decide
  have hskipped : (run.skipped fs names).filter (fun e => e.level = .warn) =
      run.skipped fs names := by
    refine List.filter_eq_self.mpr fun e he => ?_
    obtain ⟨p, -, rfl⟩ := List.mem_map.mp he
    rfl
  rw [events_collect h, List.filter_append, List.filter_append, hlogs, hskipped,
    List.append_nil]
  exact List.append_nil _

theorem countP_collect :
    (run.collect results fs).events.countP (fun e => e.message = "parsed benchmark log".toList) =
      (run.logFiles fs).length := by
  have hskipped : (run.skipped fs names).countP
      (fun e => e.message = "parsed benchmark log".toList) = 0 := by
    refine List.countP_eq_zero.mpr fun e he => ?_
    obtain ⟨p, -, rfl⟩ := List.mem_map.mp he
    show ¬ decide ("skipping non-file entry".toList = "parsed benchmark log".toList) = true
    decide
  have hlogs : ((run.logFiles fs).flatMap fun file => file.log.events).countP
      (fun e => e.message = "parsed benchmark log".toList) = (run.logFiles fs).length := by
    induction run.logFiles fs with
    | nil => rfl
    | cons file files ih =>
      rw [List.flatMap_cons, List.countP_append, file.log.countP_events, ih, List.length_cons,
        Nat.add_comm]
  rw [events_collect h, List.countP_append, List.countP_append, hskipped, hlogs]
  show 0 + 0 + _ = _
  omega

end

end Run

/-- A collection that succeeds warns of each entry that is no file, tells the number of the others,
and then of each log in turn the markers without a value and what is recorded.  Each log is told to
be parsed once, and each metric recorded is stated in its log unless its marker is told to be
missing. -/
theorem Run.collect_events (run : Run) (results : Results) (fs : FileSystem)
    (hdone : (run.collect results fs).failure? = none) :
    ∃ names, fs.list run.logDirectory = .ok ⟨names, none⟩ ∧
      let collected := run.collect results fs
      let files := run.logFiles fs
      let paths := names.map run.entryPath
      let skipped := (paths.filter fun p => !fs.isFile p).map Event.skippedEntry
      files.map (LogFile.path run.logDirectory) = paths.filter fs.isFile ∧
      collected.events =
        skipped ++ [.listedLogs run.logDirectory files.length] ++
          files.flatMap (fun file =>
            (Marker.all.filter fun marker => (marker.scrape? file.log.report).isNone).map
                (fun marker => .missingMarker marker.text) ++
              [.parsedLog file.row.id file.row.succeeded file.row.metrics.ipc]) ∧
      collected.results = results.insertAll (files.map LogFile.row) ∧
      collected.events.filter (fun e => e.level = .warn) = skipped ∧
      collected.events.countP (fun e => e.message = "parsed benchmark log".toList) =
        files.length ∧
      (∀ row ∈ collected.results.rows, row ∈ results.rows ∨ row ∈ files.map LogFile.row) ∧
      ∀ file ∈ files, ∀ marker ∈ Marker.all,
        (Event.missingMarker marker.text ∉ file.log.events ↔
          ∃ value, marker.States file.log.report value ∧
            file.row.metrics.value marker.metric = some value) := by
  have hread := (run.collect_failure?_eq_none_iff results fs).mp hdone
  have hlogs := hread.map_name_logFiles
  obtain ⟨names, hnames, -⟩ := hread
  have hevents := events_collect hnames results
  rw [← hlogs, List.length_map] at hevents
  refine ⟨names, hnames, ?_, hevents, run.results_collect results fs,
    filter_level_collect hnames results, countP_collect hnames results, fun row hrow => ?_,
    fun file _ marker hmarker => file.log.not_mem_events_iff hmarker⟩
  · have hpaths : (run.logFiles fs).map (LogFile.path run.logDirectory) =
        ((run.logFiles fs).map LogFile.name).map run.entryPath := by
      rw [List.map_map]
      rfl
    rw [hpaths, hlogs, logNames, hnames, List.filter_map]
    rfl
  · rw [results_collect] at hrow
    exact Results.mem_rows_of_mem_insertAll hrow

/-- Two logs with the same metrics, of which one states its loads and the other does not.  Between
them are a directory and a link that leads nowhere. -/
def Run.unlikeFiles : FileSystem where
  entries := sampleEntries
    [(⟨Path.ofText "e.log".toList, by decide⟩, .file 0),
      (⟨Path.ofText "f".toList, by decide⟩, .directory),
      (⟨Path.ofText "l.log".toList, by decide⟩, .link (.ofText "f.log".toList)),
      (⟨Path.ofText "n.log".toList, by decide⟩, .file 1)]
  distinct := by decide
  file := numbered
    [Text.toBytes "Program exit with code: 0 (0x0)\n- loads: 0 (0%)".toList,
      Text.toBytes "Program exit with code: 0 (0x0)".toList]

theorem Run.collect_unlike :
    let collected := sample.collect .empty unlikeFiles
    let loads := Marker.ofCounter .loads
    collected.failure? = none ∧
      collected.results.rows.map Row.metrics = [{ exitCode := some 0 }, { exitCode := some 0 }] ∧
      collected.events.filter (fun e => e.level = .warn) =
        [.skippedEntry (.ofText "run/logs/sim/f".toList),
          .skippedEntry (.ofText "run/logs/sim/l.log".toList)] ∧
      collected.events.countP (fun e => e.message = "parsed benchmark log".toList) = 2 ∧
      (sample.logFiles unlikeFiles).map
        (fun file => decide (Event.missingMarker loads.text ∉ file.log.events)) = [true, false] ∧
      ∀ file ∈ sample.logFiles unlikeFiles, Event.missingMarker loads.text ∉ file.log.events →
        ∃ value, loads.States file.log.report value ∧
          file.row.metrics.value loads.metric = some value := by
  intro collected loads
  have hdone : collected.failure? = none := by decide +kernel
  obtain ⟨names, hnames, -, -, -, hwarned, hparsed, -, hstated⟩ :=
    collect_events sample .empty unlikeFiles hdone
  have hlisted : unlikeFiles.list sample.logDirectory =
      .ok ⟨unlikeFiles.namesIn sampleDirectory, none⟩ := by decide +kernel
  obtain rfl : names = unlikeFiles.namesIn sampleDirectory :=
    congrArg Listing.names (Except.ok.inj (hnames.symm.trans hlisted))
  exact ⟨hdone, by decide +kernel, hwarned.trans (by decide +kernel),
    hparsed.trans (by decide +kernel), by decide +kernel,
    fun file hfile => (hstated file hfile loads (Marker.ofCounter_mem_all .loads)).mp⟩

end SimReport
