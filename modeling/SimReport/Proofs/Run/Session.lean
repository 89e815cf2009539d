/-
A table over a whole session.

A session is any sequence of the things that can be done with a table.  The files
may become any others between two steps, and while logs are being recorded each
log is read from what the files then are.  So a log that was listed may be gone,
or be a directory, when its turn comes.

One step adds rows at the end or replaces them where they stand, and a step that
fails has recorded just what came before the failure (`parseLogsAmid_cases`).
Hence no row of a session is ever lost or moved, and no two have one name.
-/
import SimReport.Proofs.Run.Collection
import SimReport.Run.Report

namespace SimReport

namespace Results

/-- A row is recorded: where the row of that name stands, or as the last one. -/
structure Records (before : Results) (row : Row) (after : Results) : Prop where
  fileNames : after.fileNames =
    if row.fileName ∈ before.fileNames then before.fileNames
    else before.fileNames ++ [row.fileName]
  recorded : Keyed.find? Row.fileName row.fileName after.rows = some row
  others (name : Text) : name ≠ row.fileName →
    Keyed.find? Row.fileName name after.rows = Keyed.find? Row.fileName name before.rows

/-- Rows are recorded one after another. -/
inductive RecordsAll : Results → List Row → Results → Prop
  | nil (results : Results) : RecordsAll results [] results
  | cons {before between after : Results} {row : Row} {rows : List Row} :
      before.Records row between → RecordsAll between rows after →
      RecordsAll before (row :: rows) after

theorem records_insert (results : Results) (row : Row) :
    results.Records row (results.insert row) where
  fileNames := results.fileNames_insert row
  recorded := by rw [rows_insert, Keyed.find?_store, if_pos rfl]
  others name h := by rw [rows_insert, Keyed.find?_store, if_neg h]

theorem recordsAll_insertAll (results : Results) (rows : List Row) :
    results.RecordsAll rows (results.insertAll rows) := by
  induction rows generalizing results with
  | nil => exact .nil results
  | cons row rows ih => exact .cons (results.records_insert row) (ih (results.insert row))

theorem Records.keeps_fileNames {before after : Results} {row : Row}
    (h : before.Records row after) : before.fileNames <+: after.fileNames := by
  rw [h.fileNames]
  split
  · exact List.prefix_refl _
  · exact List.prefix_append _ _

theorem RecordsAll.keeps_fileNames {before after : Results} {rows : List Row}
    (h : before.RecordsAll rows after) : before.fileNames <+: after.fileNames := by
  induction h with
  | nil results => exact List.prefix_refl _
  | cons hrow _ ih => exact hrow.keeps_fileNames.trans ih

end Results

/-! ## Recording while the files change -/

/-- Records the metrics of logs in turn, up to the first failure.  The files are
`moment p` when the log at `p` is read. -/
def Results.parseLogsAmid (results : Results) (moment : Path → FileSystem) :
    List Path → Collected
  | [] => ⟨[], results, none⟩
  | p :: logs =>
    let first := (results.parseLog (moment p) p).within (.parse p)
    match first.failure? with
    | some _ => first
    | none => (first.results.parseLogsAmid moment logs).after first.events

/-- Collects the logs that are listed in the files as they are at first. -/
def Run.collectAmid (run : Run) (results : Results) (fs : FileSystem)
    (moment : Path → FileSystem) : Collected :=
  match run.logs fs with
  | (events, .error e) => ⟨events, results, some (e.within .listLogs)⟩
  | (events, .ok logs) => (results.parseLogsAmid moment logs).after events

theorem Results.parseLogsAmid_still (results : Results) (fs : FileSystem) (logs : List Path) :
    results.parseLogsAmid (fun _ => fs) logs = results.parseLogs fs logs := by
  induction logs generalizing results with
  | nil => rfl
  | cons p logs ih =>
    rewrite [parseLogsAmid, parseLogs, ih]
    rfl

/-- Files that do not change are a case of files that may. -/
theorem Run.collectAmid_still (run : Run) (results : Results) (fs : FileSystem) :
    run.collectAmid results fs (fun _ => fs) = run.collect results fs := by
  rw [collectAmid, collect]
  obtain ⟨events, e | logs⟩ := run.logs fs
  · rfl
  · exact congrArg (Collected.after events) (results.parseLogsAmid_still fs logs)

theorem Log.read_eq_ok {fs : FileSystem} {p : Path} {log : Log} (h : Log.read fs p = .ok log) :
    ∃ name content, p.fileName? = some name ∧ fs.read p = .ok content ∧
      log = ⟨Utf8.decodeLossy name, Utf8.decodeLossy content⟩ := by
  rw [read] at h
  split at h
  · cases h
  · next name hname =>
    split at h
    · cases h
    · next content hcontent =>
      cases h
      exact ⟨name, content, hname, hcontent, rfl⟩

namespace Results

theorem parseLog_of_error (results : Results) {fs : FileSystem} {p : Path} {e : Failure}
    (h : Log.read fs p = .error e) : results.parseLog fs p = ⟨[], results, some e⟩ := by
  rw [parseLog, h]

/-- Either all logs are recorded, or those in front of one that cannot be read. -/
theorem parseLogsAmid_cases (results : Results) (moment : Path → FileSystem) (logs : List Path) :
    (∃ read : List Log, logs.map (fun p => Log.read (moment p) p) = read.map .ok ∧
      (results.parseLogsAmid moment logs).failure? = none ∧
      (results.parseLogsAmid moment logs).results = results.insertAll (read.map Log.row)) ∨
    ∃ done p rest, ∃ read : List Log, ∃ e, logs = done ++ p :: rest ∧
      done.map (fun p => Log.read (moment p) p) = read.map .ok ∧
      Log.read (moment p) p = .error e ∧
      (results.parseLogsAmid moment logs).failure? = some (e.within (.parse p)) ∧
      (results.parseLogsAmid moment logs).results = results.insertAll (read.map Log.row) := by
  induction logs generalizing results with
  | nil => exact Or.inl ⟨[], rfl, rfl, rfl⟩
  | cons p logs ih =>
    cases hread : Log.read (moment p) p with
    | error e =>
      rw [parseLogsAmid, results.parseLog_of_error hread]
      exact Or.inr ⟨[], p, logs, [], e, rfl, rfl, hread, rfl, rfl⟩
    | ok log =>
      have hnext : results.parseLogsAmid moment (p :: logs) =
          ((results.insert log.row).parseLogsAmid moment logs).after log.events := by
        rw [parseLogsAmid, results.parseLog_of_read hread]
        rfl
      rw [hnext]
      rcases ih (results.insert log.row) with
        ⟨read, hall, hnone, hresults⟩ | ⟨done, q, rest, read, e, rfl, hall, hq, hsome, hresults⟩
      · refine Or.inl ⟨log :: read, ?_, hnone, hresults⟩
        rw [List.map_cons, hread, hall, List.map_cons]
      · refine Or.inr ⟨p :: done, q, rest, log :: read, e, rfl, ?_, hq, hsome, hresults⟩
        rw [List.map_cons, hread, hall, List.map_cons]

end Results

/-! ## Sessions -/

/-- A table with the files that the next step finds. -/
structure Session where
  results : Results
  files : FileSystem

namespace Session

/-- What can be done with a table, and what others can do to the files. -/
inductive Step
  | change (files : FileSystem)
  | logs
  | read (log : Path)
  | parseLog (log : Path)
  | collect (moment : Path → FileSystem)
  | report (console : Console)

def failureOf {α : Type} : Except Failure α → Option Failure
  | .ok _ => none
  | .error e => some e

/-- The failure of a step, if there is one, and what the step leaves. -/
def step (run : Run) (s : Session) : Step → Option Failure × Session
  | .change files => (none, { s with files })
  | .logs => (failureOf (run.logs s.files).2, s)
  | .read p => (failureOf (Log.read s.files p), s)
  | .parseLog p =>
    let collected := s.results.parseLog s.files p
    (collected.failure?, { s with results := collected.results })
  | .collect moment =>
    let collected := run.collectAmid s.results s.files moment
    (collected.failure?, { s with results := collected.results })
  | .report console =>
    let finished := run.report s.results console s.files
    (failureOf finished.outcome, { s with files := finished.files })

/-- What a session leaves.  It goes on after failures. -/
def perform (run : Run) (s : Session) (steps : List Step) : Session :=
  steps.foldl (fun s next => (s.step run next).2) s

variable {run : Run} {s : Session}

theorem parseLog_of_some {p : Path} {e : Failure} (h : (s.step run (.parseLog p)).1 = some e) :
    (s.step run (.parseLog p)).2 = s := by
  rw [step] at h ⊢
  cases hread : Log.read s.files p with
  | error cause => rw [s.results.parseLog_of_error hread]
  | ok log =>
    rw [s.results.parseLog_of_read hread] at h
    cases h

theorem parseLog_of_none {p : Path} (h : (s.step run (.parseLog p)).1 = none) :
    ∃ log, Log.read s.files p = .ok log ∧
      s.results.Records log.row (s.step run (.parseLog p)).2.results := by
  rw [step] at h ⊢
  cases hread : Log.read s.files p with
  | error cause =>
    rw [s.results.parseLog_of_error hread] at h
    cases h
  | ok log =>
    rw [s.results.parseLog_of_read hread]
    exact ⟨log, rfl, s.results.records_insert log.row⟩

/-- Whether it fails or not, a collection records rows one after another. -/
theorem recordsAll_collect (run : Run) (s : Session) (moment : Path → FileSystem) :
    ∃ rows, s.results.RecordsAll rows (s.step run (.collect moment)).2.results := by
  rw [step, Run.collectAmid]
  split
  · exact ⟨[], .nil s.results⟩
  · next events logs _ =>
    obtain ⟨rows, hresults⟩ : ∃ rows,
        (s.results.parseLogsAmid moment logs).results = s.results.insertAll rows := by
      rcases s.results.parseLogsAmid_cases moment logs with
        ⟨read, -, -, hresults⟩ | ⟨-, -, -, read, -, -, -, -, -, hresults⟩
      · exact ⟨read.map Log.row, hresults⟩
      · exact ⟨read.map Log.row, hresults⟩
    refine ⟨rows, ?_⟩
    show s.results.RecordsAll rows (s.results.parseLogsAmid moment logs).results
    rw [hresults]
    exact s.results.recordsAll_insertAll rows

theorem collect_of_some {moment : Path → FileSystem} {e : Failure}
    (h : (s.step run (.collect moment)).1 = some e) :
    (∃ cause, (run.logs s.files).2 = .error cause ∧
      (s.step run (.collect moment)).2.results = s.results) ∨
    ∃ done p rest, ∃ read : List Log, ∃ cause,
      (run.logs s.files).2 = .ok (done ++ p :: rest) ∧
      done.map (fun p => Log.read (moment p) p) = read.map .ok ∧
      Log.read (moment p) p = .error cause ∧
      s.results.RecordsAll (read.map Log.row) (s.step run (.collect moment)).2.results := by
  rw [step, Run.collectAmid] at h ⊢
  cases hlogs : run.logs s.files with
  | mk events listed =>
    rw [hlogs] at h
    cases listed with
    | error cause => exact Or.inl ⟨cause, rfl, rfl⟩
    | ok logs =>
      have hfailure : (s.results.parseLogsAmid moment logs).failure? = some e := h
      rcases s.results.parseLogsAmid_cases moment logs with
        ⟨read, -, hnone, -⟩ | ⟨done, p, rest, read, cause, rfl, hall, hp, -, hresults⟩
      · rw [hfailure] at hnone
        cases hnone
      · refine Or.inr ⟨done, p, rest, read, cause, rfl, hall, hp, ?_⟩
        show s.results.RecordsAll _ (s.results.parseLogsAmid moment _).results
        rw [hresults]
        exact s.results.recordsAll_insertAll _

/-- One step keeps the names of all rows in their places. -/
theorem fileNames_step (run : Run) (s : Session) (next : Step) :
    s.results.fileNames <+: (s.step run next).2.results.fileNames := by
  cases next with
  | change files => exact List.prefix_refl _
  | logs => exact List.prefix_refl _
  | read p => exact List.prefix_refl _
  | report console => exact List.prefix_refl _
  | parseLog p =>
    cases h : (s.step run (.parseLog p)).1 with
    | none =>
      obtain ⟨log, -, hrecords⟩ := parseLog_of_none h
      exact hrecords.keeps_fileNames
    | some e =>
      rewrite [parseLog_of_some h]
      exact List.prefix_refl _
  | collect moment =>
    obtain ⟨rows, hrows⟩ := recordsAll_collect run s moment
    exact hrows.keeps_fileNames

theorem fileNames_perform (run : Run) (s : Session) (steps : List Step) :
    s.results.fileNames <+: (s.perform run steps).results.fileNames := by
  induction steps generalizing s with
  | nil => exact List.prefix_refl _
  | cons next steps ih => exact (fileNames_step run s next).trans (ih _)

/-- Whatever has been done before, the names of the rows are different and keep
their places from then on.  Looking at the logs and reporting leave the table
alone, a log is recorded as it is at that moment or not at all, and a collection
that fails has recorded the logs in front of the one that failed. -/
theorem perform_effects (run : Run) (start : Session) (steps : List Step) :
    let here := start.perform run steps
    let table (next : Step) : Results := (here.step run next).2.results
    here.results.fileNames.Nodup ∧
      (∀ more, here.results.fileNames <+: (here.perform run more).results.fileNames) ∧
      (∀ files, table (.change files) = here.results) ∧
      table .logs = here.results ∧
      (∀ p, table (.read p) = here.results) ∧
      (∀ console, table (.report console) = here.results) ∧
      (∀ p e, (here.step run (.parseLog p)).1 = some e → table (.parseLog p) = here.results) ∧
      (∀ p, (here.step run (.parseLog p)).1 = none →
        ∃ name content, p.fileName? = some name ∧ here.files.read p = .ok content ∧
          here.results.Records
            ⟨Utf8.decodeLossy name, .ofLog (Utf8.decodeLossy content)⟩ (table (.parseLog p))) ∧
      (∀ moment e, (here.step run (.collect moment)).1 = some e →
        (∃ cause, (run.logs here.files).2 = .error cause ∧
          table (.collect moment) = here.results) ∨
        ∃ done p rest, ∃ read : List Log, ∃ cause,
          (run.logs here.files).2 = .ok (done ++ p :: rest) ∧
          done.map (fun p => Log.read (moment p) p) = read.map .ok ∧
          Log.read (moment p) p = .error cause ∧
          here.results.RecordsAll (read.map Log.row) (table (.collect moment))) ∧
      here.step run (.collect fun _ => here.files) =
        ((run.collect here.results here.files).failure?,
          { here with results := (run.collect here.results here.files).results }) := by
  intro here table
  refine ⟨here.results.nodup, fileNames_perform run here, fun _ => rfl, rfl, fun _ => rfl,
    fun _ => rfl, ?_, ?_, fun moment e => collect_of_some, ?_⟩
  · intro p e h
    exact congrArg results (parseLog_of_some h)
  · intro p h
    obtain ⟨log, hread, hrecords⟩ := parseLog_of_none h
    obtain ⟨name, content, hname, hcontent, rfl⟩ := Log.read_eq_ok hread
    exact ⟨name, content, hname, hcontent, hrecords⟩
  · rw [step, run.collectAmid_still]

/-- Two logs, the second of which is gone when its turn comes. -/
def listedFiles : FileSystem where
  entries := Run.sampleEntries
    [(⟨Path.ofText "y.log".toList, by decide⟩, .file 0),
      (⟨Path.ofText "x.log".toList, by decide⟩, .file 1)]
  distinct := by decide
  file := Run.numbered [Text.toBytes "Program exit with code: 0 (0x0)".toList]

def goneFiles : FileSystem := listedFiles.remove (.ofText "run/logs/sim/x.log".toList)

/-- The first log is recorded behind the row that was there, which stays. -/
theorem perform_interrupted :
    let here := (⟨.empty, listedFiles⟩ : Session).perform Run.sample
      [.parseLog (.ofText "run/logs/sim/x.log".toList), .report ⟨⟨true, true⟩, none, []⟩]
    let collected := here.step Run.sample (.collect fun _ => goneFiles)
    collected.1 = some ⟨[.parse (.ofText "run/logs/sim/x.log".toList),
        .read (.ofText "run/logs/sim/x.log".toList)], .io .notFound⟩ ∧
      collected.2.results.fileNames = ["x.log".toList, "y.log".toList] ∧
      ∃ done rest, ∃ read : List Log,
        (Run.sample.logs here.files).2 = .ok (done ++ rest) ∧
        done.map (Log.read goneFiles) = read.map .ok ∧
        here.results.RecordsAll (read.map Log.row) collected.2.results := by
  intro here collected
  have hfailure : collected.1 = some ⟨[.parse (.ofText "run/logs/sim/x.log".toList),
      .read (.ofText "run/logs/sim/x.log".toList)], .io .notFound⟩ := by decide +kernel
  have hlisted : (Run.sample.logs here.files).2.isOk = true := by decide +kernel
  obtain ⟨-, -, -, -, -, -, -, -, hcollect, -⟩ := perform_effects Run.sample ⟨.empty, listedFiles⟩
    [.parseLog (.ofText "run/logs/sim/x.log".toList), .report ⟨⟨true, true⟩, none, []⟩]
  rcases hcollect (fun _ => goneFiles) _ hfailure with
    ⟨cause, hcause, -⟩ | ⟨done, p, rest, read, cause, hlogs, hread, -, hrecords⟩
  · rw [show (Run.sample.logs here.files).2 = .error cause from hcause] at hlisted
    cases hlisted
  · exact ⟨hfailure, by decide +kernel, done, p :: rest, read, hlogs, hread, hrecords⟩

end Session
end SimReport
