/-
The exit code of the program.

An inquiry is answered and exits with zero.  A usage error, or a log directory that
the system does not find, exits with two.  Otherwise the run decides.  It exits with
zero if it passed, and then the report file took the whole report.  It exits with one
in all other cases: the log directory cannot be listed, or a log in it cannot be read;
a log failed that is not excused; or the report cannot be stored.
-/
import SimReport.Program
import SimReport.Proofs.Results.History
import SimReport.Proofs.Run.Gate
import SimReport.Proofs.Run.Output
import SimReport.Proofs.Run.Rerun

namespace SimReport

/-! ## Failures of collecting -/

variable {fs : FileSystem}

theorem Log.kind_of_read {p : Path} {e : Failure} (h : Log.read fs p = .error e) :
    e.kind ≠ .configuration := by
  rw [read] at h
  split at h
  · cases h
    exact FailureKind.noConfusion
  · split at h
    · cases h
      exact FailureKind.noConfusion
    · cases h

theorem Results.kind_of_parseLogs {results : Results} {logs : List Path} {e : Failure}
    (h : (results.parseLogs fs logs).failure? = some e) : e.kind ≠ .configuration := by
  induction logs generalizing results with
  | nil => cases h
  | cons p logs ih =>
    rw [parseLogs, parseLog] at h
    cases hread : Log.read fs p with
    | error f =>
      rw [hread] at h
      cases h
      rw [Failure.kind_within]
      exact Log.kind_of_read hread
    | ok log =>
      rw [hread] at h
      exact ih h

namespace Run

variable {run : Run}

/-- Only a log directory that is not found is a fault of the set-up. -/
theorem kind_of_collect {results : Results} {e : Failure}
    (h : (run.collect results fs).failure? = some e) :
    e.kind = .configuration ↔ fs.pathExists run.logDirectory = false := by
  rw [collect, logs] at h
  by_cases hexists : fs.pathExists run.logDirectory = true
  · refine iff_of_false ?_ (by simp [hexists])
    rw [hexists] at h
    cases hlist : fs.list run.logDirectory with
    | error f =>
      rw [hlist] at h
      cases h
      exact FailureKind.noConfusion
    | ok listing =>
      obtain ⟨names, _ | f⟩ := listing
      · rw [hlist] at h
        exact Results.kind_of_parseLogs h
      · rw [hlist] at h
        cases h
        exact FailureKind.noConfusion
  · rw [Bool.not_eq_true] at hexists
    rw [hexists] at h
    cases h
    exact iff_of_true rfl hexists

/-! ## Exit codes of a run -/

theorem exitCode_range (outcome : Except Failure Outcome) :
    exitCode outcome = 0 ∨ exitCode outcome = 1 ∨ exitCode outcome = 2 := by
  cases outcome with
  | ok outcome =>
    cases outcome with
    | passed file => exact Or.inl rfl
    | failed ids => exact Or.inr (Or.inl rfl)
  | error f =>
    rw [exitCode]
    split
    · exact Or.inr (Or.inr rfl)
    · exact Or.inr (Or.inl rfl)

/-- A log file failed that is not excused, and no log file behind it has its decoded name. -/
def Fails (run : Run) (fs : FileSystem) : Prop :=
  ∃ before file after, run.logFiles fs = before ++ file :: after ∧
    file.fileName ∉ after.map LogFile.fileName ∧
    file.exitCode ≠ some 0 ∧ file.id ∉ run.whitelist.ids

/-- The table of the log files. -/
def table (run : Run) (fs : FileSystem) : Results :=
  Results.empty.insertAll ((run.logFiles fs).map LogFile.row)

theorem latest_map_row_iff {files : List LogFile} {row : Row} :
    Row.Latest (files.map LogFile.row) row ↔
      ∃ before file after, files = before ++ file :: after ∧
        file.fileName ∉ after.map LogFile.fileName ∧ file.row = row := by
  constructor
  · rintro ⟨before, after, hfiles, hafter⟩
    obtain ⟨first, rest, rfl, rfl, hrest⟩ := List.map_eq_append_iff.mp hfiles
    obtain ⟨file, last, rfl, rfl, rfl⟩ := List.map_eq_cons_iff.mp hrest
    rw [List.map_map] at hafter
    exact ⟨first, file, last, rfl, hafter, rfl⟩
  · rintro ⟨before, file, after, rfl, hafter, rfl⟩
    refine ⟨before.map LogFile.row, after.map LogFile.row, ?_, ?_⟩
    · rw [List.map_append, List.map_cons]
    · rw [List.map_map]
      exact hafter

/-- The gate looks at the last log file of each decoded name. -/
theorem passes_table_iff : run.Passes (run.table fs) ↔ ¬ run.Fails fs := by
  unfold Passes Fails table
  simp only [Results.mem_rows_insertAll_iff, latest_map_row_iff]
  constructor
  · rintro h ⟨before, file, after, hfiles, hlast, hcode, hid⟩
    exact (h file.row ⟨before, file, after, hfiles, hlast, rfl⟩).elim hcode hid
  · rintro h row ⟨before, file, after, hfiles, hlast, rfl⟩
    by_contra hnot
    obtain ⟨hcode, hid⟩ := not_or.mp hnot
    exact h ⟨before, file, after, hfiles, hlast, hcode, hid⟩

theorem ending_of_readable (h : run.Readable fs) (console : Console) :
    run.ending console fs = run.verdict (run.table fs) console fs := by
  rw [ending, (run.collect_failure?_eq_none_iff .empty fs).mpr h, results_collect]
  rfl

theorem ending_of_not_readable (h : ¬ run.Readable fs) (console : Console) :
    ∃ e, (run.ending console fs).outcome = .error e ∧ (run.ending console fs).files = fs ∧
      (e.kind = .configuration ↔ fs.pathExists run.logDirectory = false) := by
  obtain ⟨e, he⟩ := Option.ne_none_iff_exists'.mp
    (mt (run.collect_failure?_eq_none_iff .empty fs).mp h)
  rw [ending, he]
  refine ⟨e.within .parseAll, rfl, rfl, ?_⟩
  rw [Failure.kind_within]
  exact kind_of_collect he

/-- A report that cannot be stored is no fault of the set-up. -/
theorem save_of_not_storable {results : Results} (h : ¬ run.Storable results fs) :
    ∃ e, (run.save results fs).2 = .error e ∧ e.kind ≠ .configuration := by
  obtain ⟨places, -, ⟨stored, hsave, -⟩ | ⟨left, activity, cause, hsave, -, -, hfault⟩⟩ :=
    run.save_cases results fs
  · exact absurd ((run.save_eq_passed_iff results fs).mp (congrArg Prod.snd hsave)) h
  · exact ⟨_, congrArg Prod.snd hsave, Failure.kind_of_fault hfault⟩

/-- The three exit codes of a run, from what its directory holds and whether the
report can be stored. -/
theorem exitCode_ending (run : Run) (console : Console) (fs : FileSystem) :
    let finished := run.ending console fs
    (exitCode finished.outcome = 2 ↔ fs.pathExists run.logDirectory = false) ∧
      (exitCode finished.outcome = 0 ↔ finished.outcome = .ok (.passed run.reportFile) ∧
        finished.files.Took run.reportFile (ReportFile.text (run.table fs)).toBytes) ∧
      (exitCode finished.outcome = 1 ↔ fs.pathExists run.logDirectory = true ∧
        (¬ run.Readable fs ∨ run.Fails fs ∨ ¬ run.Storable (run.table fs) fs)) ∧
      (exitCode finished.outcome = 2 → finished.files = fs) := by
  intro finished
  by_cases hread : run.Readable fs
  · have hexists := FileSystem.pathExists_of_isDirectory (isDirectory_of_readable hread)
    have hfinished : finished = run.verdict (run.table fs) console fs :=
      ending_of_readable hread console
    by_cases hpass : run.Passes (run.table fs)
    · rw [verdict_of_passes hpass] at hfinished
      have hfails := passes_table_iff.mp hpass
      rw [hfinished]
      by_cases hstore : run.Storable (run.table fs) fs
      · have hpassed := (run.save_eq_passed_iff (run.table fs) fs).mpr hstore
        rw [hpassed]
        simp [exitCode, hexists, hread, hfails, hstore, took_of_save_passed hpassed]
      · obtain ⟨e, he, hkind⟩ := save_of_not_storable hstore
        rw [he]
        simp [exitCode, hkind, hexists, hstore]
    · have hfails : run.Fails fs := by
        by_contra hnot
        exact hpass (passes_table_iff.mpr hnot)
      rw [verdict_of_not_passes hpass] at hfinished
      rw [hfinished]
      simp [exitCode, hexists, hfails]
  · obtain ⟨e, houtcome, hfiles, hkind⟩ := ending_of_not_readable hread console
    rw [houtcome, hfiles]
    by_cases hexists : fs.pathExists run.logDirectory = false
    · simp [exitCode, hkind, hexists]
    · simp [exitCode, hkind, hexists, hread]

end Run

namespace Program

/-- What the run leaves that the arguments ask for. -/
def finished (arguments : Arguments) (env : Environment) (fs : FileSystem) : Finished :=
  ((runOf arguments).execute { palette := ⟨!arguments.noColor, env.showsColour⟩ } fs).2

theorem finished_eq (arguments : Arguments) (env : Environment) (fs : FileSystem) :
    ∃ console, finished arguments env fs = (runOf arguments).ending console fs :=
  ⟨_, Run.execute_of_takes (Console.takes_of_room rfl _)⟩

/-- The exit code of the program is one of three, which are told apart by what the
arguments ask for, what their log files say, and whether the report can be stored.  All
files are left alone when it is two, or when an inquiry is answered. -/
theorem run_exit (argv : List Bytes) (env : Environment) (fs : FileSystem) :
    let asked := CommandLine.read argv.tail
    let ended := run argv env fs
    (ended.exit = 0 ∨ ended.exit = 1 ∨ ended.exit = 2) ∧
      (ended.exit = 2 ↔ (∃ e, asked = .error (.error e)) ∨
        ∃ arguments, asked = .ok arguments ∧
          fs.pathExists (runOf arguments).logDirectory = false) ∧
      (ended.exit = 0 ↔ (∃ q, asked = .error (.inquiry q)) ∨
        ∃ arguments, asked = .ok arguments ∧
          (finished arguments env fs).outcome = .ok (.passed (runOf arguments).reportFile) ∧
          ended.files.Took (runOf arguments).reportFile
            (ReportFile.text ((runOf arguments).table fs)).toBytes) ∧
      (ended.exit = 1 ↔ ∃ arguments, asked = .ok arguments ∧
        fs.pathExists (runOf arguments).logDirectory = true ∧
        (¬ (runOf arguments).Readable fs ∨ (runOf arguments).Fails fs ∨
          ¬ (runOf arguments).Storable ((runOf arguments).table fs) fs)) ∧
      ((ended.exit = 2 ∨ ∃ q, asked = .error (.inquiry q)) → ended.files = fs) := by
  intro asked ended
  cases hasked : asked with
  | error stop =>
    have hended : ended.exit = exitOfStop stop ∧ ended.files = fs := by
      show (run argv env fs).exit = _ ∧ (run argv env fs).files = _
      rw [run, show CommandLine.read argv.tail = .error stop from hasked]
      exact ⟨rfl, rfl⟩
    rw [hended.1, hended.2]
    cases stop <;> simp [exitOfStop]
  | ok arguments =>
    have hended : ended.exit = exitCode (finished arguments env fs).outcome ∧
        ended.files = (finished arguments env fs).files := by
      show (run argv env fs).exit = _ ∧ (run argv env fs).files = _
      rw [run, show CommandLine.read argv.tail = .ok arguments from hasked]
      exact ⟨rfl, rfl⟩
    obtain ⟨console, hfinished⟩ := finished_eq arguments env fs
    rw [hended.1, hended.2, hfinished]
    refine ⟨Run.exitCode_range _, ?_⟩
    simpa [hfinished] using Run.exitCode_ending (runOf arguments) console fs

/-- The program passes a log that succeeded, and fails for one that failed, for one that may not be
read, and for a log directory that is not there. -/
theorem run_exits :
    let argv := ["bench-report", "-s", "embench", "--path=run"].map fun argument =>
      Text.toBytes argument.toList
    let unreadable := Run.deniedFiles fun request =>
      match request with
      | .read _ => true
      | _ => false
    (run argv {} Run.passingFiles).exit = 0 ∧
      (run argv {} Run.passingFiles).files.Took Run.sample.reportFile
        (ReportFile.text (Run.sample.table Run.passingFiles)).toBytes ∧
      (run argv {} Run.mixedFiles).exit = 1 ∧ (run argv {} unreadable).exit = 1 ∧
      (run argv {} .empty).exit = 2 ∧ (run argv {} .empty).files = .empty := by
  intro argv unreadable
  let arguments : Arguments := ⟨"embench".toList, .ofText "run".toList, false, false⟩
  have hasked : CommandLine.read argv.tail = .ok arguments := by decide +kernel
  obtain ⟨-, -, hzero, -, -⟩ := run_exit argv {} Run.passingFiles
  have hpassed : (run argv {} Run.passingFiles).exit = 0 := by decide +kernel
  have htook : (run argv {} Run.passingFiles).files.Took Run.sample.reportFile
      (ReportFile.text (Run.sample.table Run.passingFiles)).toBytes := by
    obtain ⟨q, hq⟩ | ⟨asked, hok, -, htook⟩ := hzero.mp hpassed
    · cases hasked.symm.trans hq
    · cases hasked.symm.trans hok
      exact htook
  obtain ⟨-, -, -, hfailed, -⟩ := run_exit argv {} Run.mixedFiles
  -- The log that exited with one is listed first, and none behind it has its name.
  have hfails : (runOf arguments).Fails Run.mixedFiles := by
    refine ⟨[], ⟨⟨Path.ofText "a.log".toList, by decide⟩,
      Text.toBytes "Program exit with code: 1 (0x1)".toList⟩,
      ((runOf arguments).logFiles Run.mixedFiles).tail, ?_⟩
    decide +kernel
  obtain ⟨-, -, -, hunread, -⟩ := run_exit argv {} unreadable
  obtain ⟨-, htwo, -, -, hfiles⟩ := run_exit argv {} .empty
  have hmissing : (run argv {} .empty).exit = 2 :=
    htwo.mpr (Or.inr ⟨arguments, hasked, by decide +kernel⟩)
  exact ⟨hpassed, htook,
    hfailed.mpr ⟨arguments, hasked, by decide +kernel, Or.inr (Or.inl hfails)⟩,
    hunread.mpr ⟨arguments, hasked, by decide +kernel, Or.inl (by decide +kernel)⟩,
    hmissing, hfiles (Or.inl hmissing)⟩

/-- A log that succeeded, and a report file that is a link to the device that keeps nothing. -/
def nullFiles : FileSystem where
  entries := Run.nullDevice ++
    [(Run.outputName :: Run.sampleDirectory.drop 2, .directory),
      (Run.reportName :: Run.outputName :: Run.sampleDirectory.drop 2,
        .link (.ofText "/dev/null".toList))] ++
    Run.sampleEntries [(⟨Path.ofText "unkept.log".toList, by decide⟩, .file 0)]
  distinct := by decide
  file := Run.numbered [Text.toBytes "Program exit with code: 0 (0x0)".toList]

/-- The program exits with zero although no report can be found, and with two although the log
directory is there, in one that may not be searched. -/
theorem run_hidden :
    let argv := ["bench-report", "-s", "embench", "--path=run"].map fun argument =>
      Text.toBytes argument.toList
    let hidden := Run.deniedFiles fun request =>
      match request with
      | .pass directory (.into _) => directory = Run.sampleDirectory.drop 1
      | _ => false
    (run argv {} nullFiles).exit = 0 ∧
      (run argv {} nullFiles).files.read Run.sample.reportFile = .ok [] ∧
      (ReportFile.text (Run.sample.table nullFiles)).toBytes ≠ [] ∧
      hidden.get? Run.sampleDirectory = some .directory ∧ (run argv {} hidden).exit = 2 := by
  decide +kernel

end Program
end SimReport
