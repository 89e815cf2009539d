/-
What collecting a run's logs records.

A log file of a run is an entry of its log directory that leads to a regular
file.  Its name and its content are any bytes, and it is recorded as the row of
what they decode to.  Collecting succeeds exactly if the log directory is listed to
its end and every file in it can be read (`collect_failure?_eq_none_iff`).  In any
case the rows that it records are those of the log files in front of the first that
cannot be read, in listing order (`results_collect`).

Rows are told apart by the decoded names.  Different names may decode to the same
text, so the table has a row for each log file only if the decoded names are
different as well.
-/
import SimReport.Proofs.Path
import SimReport.Proofs.Results
import SimReport.Run.Collection

namespace SimReport

/-- A regular file with its name in the log directory and what is read from it. -/
structure LogFile where
  name : Name
  content : Bytes
  deriving DecidableEq

namespace LogFile

def log (file : LogFile) : Log := ⟨Utf8.decodeLossy file.name.bytes, Utf8.decodeLossy file.content⟩

def fileName (file : LogFile) : Text := file.log.fileName

def id (file : LogFile) : Text := file.log.id

def row (file : LogFile) : Row := file.log.row

def exitCode (file : LogFile) : Option UInt64 := file.row.metrics.exitCode

def path (directory : Path) (file : LogFile) : Path := directory.join file.name.bytes

/-- The entry of this name with what is read from it. -/
def open? (fs : FileSystem) (directory : Path) (name : Name) : Option LogFile :=
  match fs.read (directory.join name.bytes) with
  | .ok content => some ⟨name, content⟩
  | .error _ => none

/-- Opens entries in turn, up to the first that cannot be read. -/
def openAll (fs : FileSystem) (directory : Path) : List Name → List LogFile
  | [] => []
  | name :: names =>
    match open? fs directory name with
    | some file => file :: openAll fs directory names
    | none => []

variable {fs : FileSystem} {directory : Path} {name : Name} {names : List Name} {file : LogFile}

theorem open?_eq_some_iff :
    open? fs directory name = some file ↔
      file.name = name ∧ fs.read (file.path directory) = .ok file.content := by
  rw [open?, path]
  constructor
  · intro h
    split at h
    · next content he =>
      cases h
      exact ⟨rfl, he⟩
    · cases h
  · rintro ⟨rfl, h⟩
    rw [h]

theorem isSome_open? (fs : FileSystem) (directory : Path) (name : Name) :
    (open? fs directory name).isSome = (fs.read (directory.join name.bytes)).isOk := by
  rw [open?]
  cases fs.read (directory.join name.bytes) <;> rfl

/-- If all of them can be read, all are opened. -/
theorem openAll_eq_filterMap
    (h : ∀ name ∈ names, (fs.read (directory.join name.bytes)).isOk = true) :
    openAll fs directory names = names.filterMap (open? fs directory) := by
  induction names with
  | nil => rfl
  | cons name names ih =>
    have hfirst := h name List.mem_cons_self
    rw [← isSome_open?] at hfirst
    obtain ⟨file, hopen⟩ := Option.isSome_iff_exists.mp hfirst
    rw [openAll, hopen, List.filterMap_cons_some hopen,
      ← ih fun n hn => h n (List.mem_cons_of_mem name hn)]

theorem map_name_openAll
    (h : ∀ name ∈ names, (fs.read (directory.join name.bytes)).isOk = true) :
    (openAll fs directory names).map LogFile.name = names := by
  induction names with
  | nil => rfl
  | cons name names ih =>
    have hfirst := h name List.mem_cons_self
    rw [← isSome_open?] at hfirst
    obtain ⟨file, hopen⟩ := Option.isSome_iff_exists.mp hfirst
    have hrest := ih fun n hn => h n (List.mem_cons_of_mem name hn)
    rw [openAll, hopen, List.map_cons, hrest, (open?_eq_some_iff.mp hopen).1]

end LogFile

namespace Run

/-- The names of the regular files in a log directory that is listed to its end. -/
def logNames (run : Run) (fs : FileSystem) : List Name :=
  match fs.list run.logDirectory with
  | .ok ⟨names, none⟩ => names.filter fun name => fs.isFile (run.entryPath name)
  | _ => []

/-- The log files of a run in listing order, up to the first that cannot be read. -/
def logFiles (run : Run) (fs : FileSystem) : List LogFile :=
  LogFile.openAll fs run.logDirectory (run.logNames fs)

/-- The log directory is listed to its end, and every regular file in it can be read. -/
def Readable (run : Run) (fs : FileSystem) : Prop :=
  ∃ names, fs.list run.logDirectory = .ok ⟨names, none⟩ ∧
    ∀ name ∈ names, fs.isFile (run.entryPath name) = true →
      (fs.read (run.entryPath name)).isOk = true

instance (run : Run) (fs : FileSystem) : Decidable (run.Readable fs) :=
  match h : fs.list run.logDirectory with
  | .ok ⟨names, none⟩ =>
    decidable_of_iff (∀ name ∈ names, fs.isFile (run.entryPath name) = true →
      (fs.read (run.entryPath name)).isOk = true)
      ⟨fun hall => ⟨names, h, hall⟩, fun ⟨_, hlist, hall⟩ => by
        cases h.symm.trans hlist
        exact hall⟩
  | .ok ⟨names, some e⟩ => isFalse fun ⟨_, hlist, _⟩ => by cases h.symm.trans hlist
  | .error e => isFalse fun ⟨_, hlist, _⟩ => by cases h.symm.trans hlist

end Run

/-! ## One log after another -/

theorem Log.read_eq (fs : FileSystem) (directory : Path) (name : Name) :
    Log.read fs (directory.join name.bytes) =
      match fs.read (directory.join name.bytes) with
      | .error e => .error ⟨[.read (directory.join name.bytes)], .io e⟩
      | .ok content => .ok (LogFile.log ⟨name, content⟩) := by
  rw [read, Path.fileName?_join]
  rfl

namespace Results

theorem parseLog_of_read (results : Results) {fs : FileSystem} {p : Path} {log : Log}
    (h : Log.read fs p = .ok log) :
    results.parseLog fs p = ⟨log.events, results.insert log.row, none⟩ := by
  rw [parseLog, h]

/-- What is told and recorded of entries is that of the ones in front of the first that cannot be
read, whose fault it is that ends it. -/
theorem parseLogs_names (results : Results) (fs : FileSystem) (directory : Path)
    (names : List Name) :
    let files := LogFile.openAll fs directory names
    let parsed := results.parseLogs fs (names.map fun name => directory.join name.bytes)
    parsed.events = (files.flatMap fun file => file.log.events) ∧
      parsed.results = results.insertAll (files.map LogFile.row) ∧
      (parsed.failure? = none ↔
        ∀ name ∈ names, (fs.read (directory.join name.bytes)).isOk = true) := by
  induction names generalizing results with
  | nil => exact ⟨rfl, rfl, fun _ _ h => absurd h List.not_mem_nil, fun _ => rfl⟩
  | cons name names ih =>
    have hlog := Log.read_eq fs directory name
    rw [List.map_cons, parseLogs, LogFile.openAll, LogFile.open?, List.forall_mem_cons]
    cases hread : fs.read (directory.join name.bytes) with
    | error e =>
      rw [hread] at hlog
      rw [parseLog, hlog]
      refine ⟨rfl, rfl, ?_, ?_⟩
      · intro h
        cases h
      · rintro ⟨h, -⟩
        cases h
    | ok content =>
      rw [hread] at hlog
      rw [results.parseLog_of_read hlog]
      obtain ⟨hevents, hresults, hfailure⟩ := ih (results.insert (LogFile.row ⟨name, content⟩))
      refine ⟨congrArg (_ ++ ·) hevents, hresults, hfailure.trans ?_⟩
      exact ⟨fun h => ⟨rfl, h⟩, And.right⟩

end Results

/-! ## All logs -/

namespace FileSystem

theorem isDirectory_of_list {fs : FileSystem} {p : Path} {listing : Listing}
    (h : fs.list p = .ok listing) : fs.isDirectory p = true := by
  rw [list] at h
  split at h
  · cases h
  · cases h
  · next loc hplace =>
    split at h
    · cases h
    · next hdir =>
      rw [isDirectory, status, hplace]
      dsimp only
      rw [Decidable.not_not.mp hdir]

theorem pathExists_of_isDirectory {fs : FileSystem} {p : Path} (h : fs.isDirectory p = true) :
    fs.pathExists p = true := by
  rw [isDirectory] at h
  split at h
  · next he => rw [pathExists, he]; rfl
  · cases h

end FileSystem

namespace Run

variable {run : Run} {fs : FileSystem}

/-- The files of a log directory that is listed to its end are its logs. -/
theorem logs_of_list {names : List Name} (h : fs.list run.logDirectory = .ok ⟨names, none⟩) :
    run.logs fs =
      (((names.map run.entryPath).filter fun p => !fs.isFile p).map Event.skippedEntry ++
          [.listedLogs run.logDirectory (run.logNames fs).length],
        .ok ((run.logNames fs).map run.entryPath)) := by
  have hlogs : (names.map run.entryPath).filter fs.isFile =
      (run.logNames fs).map run.entryPath := by
    rw [logNames, h, List.filter_map]
    rfl
  rw [logs, FileSystem.pathExists_of_isDirectory (FileSystem.isDirectory_of_list h), h]
  dsimp only
  rw [hlogs, List.length_map]
  rfl

/-- A listing that breaks off is a failure, before which at most entries were skipped. -/
theorem logs_of_incomplete (h : ¬ ∃ names, fs.list run.logDirectory = .ok ⟨names, none⟩) :
    (∃ skipped : List Path, ∃ e, run.logs fs = (skipped.map Event.skippedEntry, .error e)) ∧
      run.logNames fs = [] := by
  rw [logs, logNames]
  cases hlist : fs.list run.logDirectory with
  | error e => exact ⟨⟨[], by split <;> exact ⟨_, rfl⟩⟩, rfl⟩
  | ok listing =>
    obtain ⟨names, _ | e⟩ := listing
    · exact absurd ⟨names, hlist⟩ h
    · rw [FileSystem.pathExists_of_isDirectory (FileSystem.isDirectory_of_list hlist)]
      exact ⟨⟨_, _, rfl⟩, rfl⟩

theorem readable_iff {names : List Name} (h : fs.list run.logDirectory = .ok ⟨names, none⟩) :
    run.Readable fs ↔
      ∀ name ∈ run.logNames fs, (fs.read (run.entryPath name)).isOk = true := by
  rw [logNames, h]
  constructor
  · rintro ⟨listed, hlisted, hall⟩ name hname
    cases h.symm.trans hlisted
    obtain ⟨hmem, hfile⟩ := List.mem_filter.mp hname
    exact hall name hmem hfile
  · intro hall
    exact ⟨names, h, fun name hmem hfile => hall name (List.mem_filter.mpr ⟨hmem, hfile⟩)⟩

/-- Collecting succeeds exactly if everything that it asks for can be read. -/
theorem collect_failure?_eq_none_iff (run : Run) (results : Results) (fs : FileSystem) :
    (run.collect results fs).failure? = none ↔ run.Readable fs := by
  by_cases h : ∃ names, fs.list run.logDirectory = .ok ⟨names, none⟩
  · obtain ⟨names, hnames⟩ := h
    rw [collect, logs_of_list hnames, readable_iff hnames]
    exact (results.parseLogs_names fs run.logDirectory (run.logNames fs)).2.2
  · obtain ⟨⟨skipped, e, hlogs⟩, -⟩ := logs_of_incomplete h
    rw [collect, hlogs]
    refine iff_of_false (fun hnone => by cases hnone) ?_
    rintro ⟨names, hnames, -⟩
    exact h ⟨names, hnames⟩

/-- The table gets the rows of the log files that can be read, and those of no others. -/
theorem results_collect (run : Run) (results : Results) (fs : FileSystem) :
    (run.collect results fs).results = results.insertAll ((run.logFiles fs).map LogFile.row) := by
  by_cases h : ∃ names, fs.list run.logDirectory = .ok ⟨names, none⟩
  · obtain ⟨names, hnames⟩ := h
    rw [collect, logs_of_list hnames]
    exact (results.parseLogs_names fs run.logDirectory (run.logNames fs)).2.1
  · obtain ⟨⟨skipped, e, hlogs⟩, hnone⟩ := logs_of_incomplete h
    rw [collect, hlogs, logFiles, hnone]
    rfl

/-- If all can be read, the log files are all regular files of the log directory. -/
theorem Readable.map_name_logFiles (h : run.Readable fs) :
    (run.logFiles fs).map LogFile.name = run.logNames fs := by
  obtain ⟨names, hnames, -⟩ := id h
  exact LogFile.map_name_openAll ((readable_iff hnames).mp h)

theorem isDirectory_of_readable (h : run.Readable fs) : fs.isDirectory run.logDirectory = true := by
  obtain ⟨names, hnames, -⟩ := h
  exact FileSystem.isDirectory_of_list hnames

theorem rows_collect_of_nodup (h : ((run.logFiles fs).map LogFile.fileName).Nodup) :
    (run.collect .empty fs).results.rows = (run.logFiles fs).map LogFile.row := by
  have hrows : (Results.empty.fileNames ++
      ((run.logFiles fs).map LogFile.row).map Row.fileName).Nodup := by
    rw [List.map_map]
    exact h
  rw [results_collect, Results.rows_insertAll_of_nodup _ hrows, Results.rows_empty, List.nil_append]

/-- The table has a row for each log file exactly if no two of them decode to
the same name.  In any case each name finds the last log file of that name. -/
theorem collect_complete_iff (run : Run) (fs : FileSystem) :
    ((run.collect .empty fs).failure? = none ↔ run.Readable fs) ∧
      ((run.collect .empty fs).results.size = (run.logFiles fs).length ↔
        ((run.logFiles fs).map LogFile.fileName).Nodup) ∧
      ((run.collect .empty fs).results.rows = (run.logFiles fs).map LogFile.row ↔
        ((run.logFiles fs).map LogFile.fileName).Nodup) ∧
      ∀ name, Keyed.find? Row.fileName name (run.collect .empty fs).results.rows =
        Keyed.find? Row.fileName name ((run.logFiles fs).map LogFile.row).reverse := by
  refine ⟨run.collect_failure?_eq_none_iff .empty fs, ?_, ⟨fun h => ?_, rows_collect_of_nodup⟩,
    fun name => ?_⟩
  · have hsize := Results.size_insertAll_empty_iff ((run.logFiles fs).map LogFile.row)
    rw [List.length_map, List.map_map] at hsize
    rw [results_collect]
    exact hsize
  · have hnodup := (run.collect .empty fs).results.nodup
    rw [h, List.map_map] at hnodup
    exact hnodup
  · rw [results_collect, Results.find?_insertAll]
    exact Option.or_none

/-! ## A log that is lost -/

def sample : Run := ⟨"suite".toList, .ofText "run".toList, .standard⟩

def sampleDirectory : Location :=
  [⟨Path.ofText "sim".toList, by decide⟩, ⟨Path.ofText "logs".toList, by decide⟩,
    ⟨Path.ofText "run".toList, by decide⟩]

/-- Files with these contents, numbered in their order, and no limit to what they take. -/
def numbered (contents : List Bytes) (id : Nat) : File := { content := contents.getD id [] }

/-- The entries of a file system that has these in the log directory of `sample`. -/
def sampleEntries (logs : List (Name × Entry)) : List (Location × Entry) :=
  [(sampleDirectory.drop 2, .directory), (sampleDirectory.drop 1, .directory),
    (sampleDirectory, .directory)] ++
    logs.map fun (name, entry) => (name :: sampleDirectory, entry)

/-- A failing log and one that succeeds.  Neither of the bytes behind the first
letter occurs in well-formed text, so both names decode to the same. -/
def collidingFiles : FileSystem where
  entries := sampleEntries
    [(⟨0x61 :: 0xff :: Path.ofText ".log".toList, by decide⟩, .file 0),
      (⟨0x61 :: 0xfe :: Path.ofText ".log".toList, by decide⟩, .file 1)]
  distinct := by decide
  file := numbered
    [Text.toBytes "Program exit with code: 1 (0x1)".toList,
      Text.toBytes "Program exit with code: 0 (0x0)".toList]

/-- The table has one row for two log files, and the gate does not see the one
that failed. -/
theorem size_collect_colliding :
    (sample.collect .empty collidingFiles).failure? = none ∧
      (sample.logFiles collidingFiles).map LogFile.exitCode = [some 1, some 0] ∧
      (sample.collect .empty collidingFiles).results.size = 1 ∧
      sample.whitelist.failures (sample.collect .empty collidingFiles).results = [] := by
  decide

end Run
end SimReport
