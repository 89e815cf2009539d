/-
Running a second time.

Where there are no links, a name in a directory leads to the entry of that name
and nowhere else.  So the report file of a run stands below the output directory
and outside the log directory, and what a passed run leaves is read by a second
run as the first one read it.  The second run finds its directory made and
replaces the report file by the same bytes: it changes nothing.
-/
import SimReport.Proofs.FileSystem.LinkFree
import SimReport.Proofs.Run.Effects
import SimReport.Proofs.Run.Places

namespace SimReport

/-! ## Collecting -/

section

variable {fs other : FileSystem}

theorem Log.read_congr {p : Path} (h : other.read p = fs.read p) :
    Log.read other p = Log.read fs p := by
  rw [read, read, h]

theorem Results.parseLogs_congr (results : Results) {logs : List Path}
    (h : ∀ p ∈ logs, other.read p = fs.read p) :
    results.parseLogs other logs = results.parseLogs fs logs := by
  induction logs generalizing results with
  | nil => rfl
  | cons p logs ih =>
    have hfirst : results.parseLog other p = results.parseLog fs p := by
      rw [parseLog, parseLog, Log.read_congr (h p List.mem_cons_self)]
    have hrest := fun r : Results => ih r fun q hq => h q (List.mem_cons_of_mem p hq)
    rw [parseLogs, parseLogs, hfirst, hrest]

theorem LogFile.openAll_congr {directory : Path} {names : List Name}
    (h : ∀ name ∈ names, other.read (directory.join name.bytes) =
      fs.read (directory.join name.bytes)) :
    openAll other directory names = openAll fs directory names := by
  induction names with
  | nil => rfl
  | cons name names ih =>
    rw [openAll, openAll, open?, open?, h name List.mem_cons_self,
      ih fun n hn => h n (List.mem_cons_of_mem name hn)]

namespace Run

variable {run : Run}

/-- The log directory looks the same, and so does all that its names lead to. -/
structure SameInput (run : Run) (fs other : FileSystem) : Prop where
  directory : other.status run.logDirectory = fs.status run.logDirectory
  list : other.list run.logDirectory = fs.list run.logDirectory
  status (name : Name) : other.status (run.entryPath name) = fs.status (run.entryPath name)
  read : ∀ name ∈ run.logNames fs,
    other.read (run.entryPath name) = fs.read (run.entryPath name)

theorem logNames_congr (hlist : other.list run.logDirectory = fs.list run.logDirectory)
    (hstatus : ∀ name, other.status (run.entryPath name) = fs.status (run.entryPath name)) :
    run.logNames other = run.logNames fs := by
  have hfile : (fun name => other.isFile (run.entryPath name)) =
      fun name => fs.isFile (run.entryPath name) := by
    funext name
    rw [FileSystem.isFile, FileSystem.isFile, hstatus name]
  rw [logNames, logNames, hlist, hfile]

theorem SameInput.logs (h : run.SameInput fs other) : run.logs other = run.logs fs := by
  have hfile (name : Name) :
      other.isFile (run.entryPath name) = fs.isFile (run.entryPath name) := by
    rw [FileSystem.isFile, FileSystem.isFile, h.status name]
  have hkept : other.isFile ∘ run.entryPath = fs.isFile ∘ run.entryPath := funext hfile
  have hskipped : (fun p => !other.isFile p) ∘ run.entryPath =
      (fun p => !fs.isFile p) ∘ run.entryPath := funext fun name => congrArg not (hfile name)
  rw [Run.logs, Run.logs, FileSystem.pathExists, FileSystem.pathExists, h.directory, h.list]
  simp only [List.filter_map, hkept, hskipped]

/-- Collecting sees nothing of the files but the log directory and what its names lead to. -/
theorem SameInput.collect (h : run.SameInput fs other) (results : Results) :
    run.collect results other = run.collect results fs := by
  rw [Run.collect, Run.collect, h.logs]
  by_cases hlist : ∃ names, fs.list run.logDirectory = .ok ⟨names, none⟩
  · obtain ⟨names, hnames⟩ := hlist
    rw [logs_of_list hnames]
    refine congrArg (Collected.after _) (results.parseLogs_congr fun p hp => ?_)
    obtain ⟨name, hname, rfl⟩ := List.mem_map.mp hp
    exact h.read name hname
  · obtain ⟨⟨skipped, e, hlogs⟩, -⟩ := logs_of_incomplete hlist
    rw [hlogs]

theorem SameInput.logFiles (h : run.SameInput fs other) : run.logFiles other = run.logFiles fs := by
  rw [Run.logFiles, Run.logFiles, logNames_congr h.list h.status, LogFile.openAll_congr h.read]

/-! ## Saving -/

variable {base : Location} {results : Results} {file : Path}

theorem save_eq_passed (h : (run.save results fs).2 = .ok (.passed file)) :
    ∃ made opened handle, fs.makeDirectories run.outputDirectory = (made, .ok ()) ∧
      made.openEmpty run.reportFile = .ok (opened, handle) ∧
      FileSystem.Fits (opened.limit? handle) (ReportFile.text results).byteLength ∧
      run.save results fs =
        (opened.setStored (ReportFile.text results).toBytes handle,
          .ok (.passed run.reportFile)) := by
  rw [save, ReportFile.save] at h ⊢
  cases hdirs : fs.makeDirectories run.outputDirectory with
  | mk made done =>
    rw [hdirs] at h
    cases done with
    | error e => cases h
    | ok _ =>
      dsimp only at h ⊢
      cases hopen : made.openEmpty run.reportFile with
      | error e =>
        rw [hopen] at h
        cases h
      | ok found =>
        obtain ⟨opened, handle⟩ := found
        rw [hopen] at h
        dsimp only at h ⊢
        have hempty := (FileSystem.overwrites_of_openEmpty hopen).1
        rcases ReportFile.store_cases .filling results hempty with
          ⟨hfits, hstore⟩ | ⟨limit, activity, -, -, hstore⟩
        · rw [hstore]
          exact ⟨made, opened, handle, rfl, hopen, hfits, rfl⟩
        · rw [hstore] at h
          cases h

/-- Without links the output directory is the one of that name, be it old or new. -/
theorem alters_makeDirectories (hlinks : fs.LinkFree) (hbase : fs.Stands run.directory base)
    (hcheck : FileSystem.checkPath run.outputDirectory = .ok ()) {made : FileSystem}
    (h : fs.makeDirectories run.outputDirectory = (made, .ok ())) :
    made.get? (outputName :: base) = some .directory ∧
      fs.passage base (.into outputName) = .ok () ∧ fs.Alters made (outputName :: base) := by
  rcases hbase.makeDirectories_join outputName (by decide) hcheck with
    ⟨hfree, hpass, hmake⟩ | ⟨e, hmake⟩
  · cases h.symm.trans hmake
    exact ⟨fs.get?_put_self (List.cons_ne_nil _ _) _, hpass, FileSystem.alters_put hfree (by simp)⟩
  · obtain ⟨rfl, hend⟩ := Prod.mk.inj (h.symm.trans hmake)
    split at hend
    · next hdir =>
      obtain ⟨here, hleads, hhere⟩ := FileSystem.leads_of_isDirectory hdir
      obtain ⟨rfl, hpass⟩ := hbase.of_join_eq (hlinks _) (FileSystem.stands_of_leads hleads hhere)
      exact ⟨hhere, hpass, FileSystem.alters_self _ _⟩
    · cases hend

end Run

end

/-- The entry that leads to what is open. -/
def Handle.entry : Handle → Entry
  | file id => .file id
  | device d => .device d

namespace Run

variable {run : Run} {made opened : FileSystem} {handle : Handle} {output : Location}

/-- Without links the report file is the one of that name, be it old or new. -/
theorem alters_openEmpty (hlinks : made.LinkFree) (houtput : made.Stands run.outputDirectory output)
    (hopen : made.openEmpty run.reportFile = .ok (opened, handle)) (content : Bytes) :
    made.passage output (.into reportName) = .ok () ∧
      (opened.setStored content handle).get? (reportName :: output) = some handle.entry ∧
      made.Alters (opened.setStored content handle) (reportName :: output) := by
  have hplace {purpose : Purpose} {place : Place}
      (h : made.locate purpose run.reportFile = .ok place) :
      place.location = reportName :: output ∧ made.passage output (.into reportName) = .ok () := by
    have hcheck := (FileSystem.walkFrom_eq_ok h).1
    rw [locate_reportFile houtput (hlinks _), hcheck] at h
    exact FileSystem.intoName_eq_ok h
  rcases FileSystem.openEmpty_eq_ok hopen with ⟨loc, id, hleads, hid, rfl, rfl⟩ |
    ⟨loc, hlocate, rfl, rfl⟩ | ⟨loc, d, hleads, hd, rfl, rfl⟩
  · obtain ⟨rfl, hpass⟩ := hplace hleads
    refine ⟨hpass, hid, ?_⟩
    rw [FileSystem.setStored, FileSystem.setContent_setContent]
    exact (made.alters_self _).setContent hid content
  · obtain ⟨rfl, hpass⟩ := hplace hlocate
    have hfree := (FileSystem.walkFrom_eq_ok hlocate).2.free_of_vacant rfl
    have hhere := made.get?_put_self (FileSystem.ne_nil_of_get? hfree (by simp))
      (.file made.freshId)
    refine ⟨hpass, hhere, ?_⟩
    rw [FileSystem.setStored, FileSystem.setContent_setContent]
    exact (FileSystem.alters_put hfree (by simp)).setContent hhere content
  · obtain ⟨rfl, hpass⟩ := hplace hleads
    exact ⟨hpass, hd, FileSystem.alters_self _ _⟩

/-- A report file that is open in its place is replaced by as much as it takes. -/
theorem save_of_present {saved : FileSystem} {base : Location} (results : Results)
    (hbase : saved.Stands run.directory base)
    (hcheck : FileSystem.checkPath run.outputDirectory = .ok ())
    (hreport : FileSystem.checkPath run.reportFile = .ok ())
    (hdir : saved.get? (outputName :: base) = some .directory)
    (hpass : saved.passage base (.into outputName) = .ok ())
    (hinto : saved.passage (outputName :: base) (.into reportName) = .ok ())
    (hget : saved.get? (reportName :: outputName :: base) = some handle.entry)
    (hwrite : saved.permit (.write (reportName :: outputName :: base)) = .ok ())
    (hfits : FileSystem.Fits (saved.limit? handle) (ReportFile.text results).byteLength) :
    run.save results saved =
      (saved.setStored (ReportFile.text results).toBytes handle, .ok (.passed run.reportFile)) := by
  have houtput := stands_outputDirectory hbase hpass hdir
  have hdirs : saved.makeDirectories run.outputDirectory = (saved, .ok ()) := by
    rcases hbase.makeDirectories_join outputName (by decide) hcheck with ⟨hfree, -, -⟩ | ⟨e, hmake⟩
    · rw [hdir] at hfree
      cases hfree
    · rw [← outputDirectory_eq, if_pos ((leads_outputDirectory houtput hcheck).isDirectory hdir)] at hmake
      exact hmake
  have hopen : saved.openEmpty run.reportFile = .ok (saved.setStored [] handle, handle) := by
    have hlocate : saved.locate .create run.reportFile =
        .ok (.present (reportName :: outputName :: base)) := by
      have hlink : ∀ target, saved.get? (reportName :: outputName :: base) ≠ some (.link target) := by
        rw [hget]
        cases handle <;> simp [Handle.entry]
      rw [locate_reportFile houtput hlink, hreport]
      exact FileSystem.intoName_of_present hinto (by decide) (by simp [hget])
    rw [FileSystem.openEmpty, hlocate]
    dsimp only
    rw [hget, hwrite]
    cases handle <;> rfl
  have hempty : (saved.setStored [] handle).setStored [] handle = saved.setStored [] handle :=
    saved.setStored_setStored handle [] []
  have hstore := ReportFile.store_of_fits .filling results hempty
    ((saved.limit?_setStored handle []).symm ▸ hfits)
  rw [FileSystem.setStored_setStored] at hstore
  rw [save, ReportFile.save, hdirs]
  dsimp only
  rw [hopen]
  dsimp only
  rw [hstore]

variable {fs : FileSystem} {base : Location} {results : Results} {file : Path}

/-- What a run saves is its output directory, if that is missing, and the report file in it.
Saving the same table once more changes nothing, if the file may be opened again. -/
theorem save_again (hlinks : fs.LinkFree) (hbase : fs.Stands run.directory base)
    (hcheck : FileSystem.checkPath run.outputDirectory = .ok ())
    (h : (run.save results fs).2 = .ok (.passed file)) :
    let saved := (run.save results fs).1
    saved.Leads run.reportFile (reportName :: outputName :: base) ∧
      (saved.permit (.write (reportName :: outputName :: base)) = .ok () →
        run.save results saved = run.save results fs) ∧
      ∃ made, made.get? (outputName :: base) = some .directory ∧
        fs.Alters made (outputName :: base) ∧
        made.Alters saved (reportName :: outputName :: base) := by
  intro saved
  obtain ⟨made, opened, handle, hdirs, hopen, hfits, hsave⟩ := save_eq_passed h
  obtain ⟨hdir, hpass, hmade⟩ := alters_makeDirectories hlinks hbase hcheck hdirs
  have hmadePass := hmade.grows.passage hpass
  have houtput := stands_outputDirectory (hbase.grow hmade.grows) hmadePass hdir
  obtain ⟨hinto, hget, hwritten⟩ := alters_openEmpty (hmade.linkFree hlinks) houtput hopen
    (ReportFile.text results).toBytes
  have hsaved : saved = opened.setStored (ReportFile.text results).toBytes handle :=
    congrArg Prod.fst hsave
  rw [← hsaved] at hget hwritten
  have hgrows := hmade.grows.trans hwritten.grows
  have hleads : saved.Leads run.reportFile (reportName :: outputName :: base) := by
    rw [Text.byteLength_eq_length_toBytes] at hfits
    obtain ⟨loc, hloc, -⟩ := ((FileSystem.overwrites_of_openEmpty hopen).2 _ hfits).took
    rw [← hsaved, reportFile_eq] at hloc
    obtain rfl := (houtput.grow hwritten.grows).eq_of_leads_join
      (hwritten.linkFree (hmade.linkFree hlinks) _) hloc
    exact hloc
  refine ⟨hleads, fun hwrite => ?_, made, hdir, hmade, hwritten⟩
  have hreport := (FileSystem.walkFrom_eq_ok hleads).1
  have hfits' : FileSystem.Fits (saved.limit? handle) (ReportFile.text results).byteLength := by
    rw [hsaved, FileSystem.limit?_setStored]
    exact hfits
  rw [save_of_present results (hbase.grow hgrows) hcheck hreport (hwritten.grows.get? hdir)
    (hgrows.passage hpass) (hwritten.grows.passage hinto) hget hwrite hfits', hsave, hsaved,
    FileSystem.setStored_setStored]

theorem execute_congr {console : Console} (hroom : console.room = none) {other : FileSystem}
    (hcollect : run.collect .empty other = run.collect .empty fs)
    (hnone : (run.collect .empty fs).failure? = none)
    (hpass : run.Passes (run.collect .empty fs).results)
    (hsave : run.save (run.collect .empty fs).results other =
      run.save (run.collect .empty fs).results fs) :
    run.execute console other = run.execute console fs := by
  have hreport : run.report (run.collect .empty fs).results
      (console.wrote (Line.header run.suite)) other =
        run.report (run.collect .empty fs).results (console.wrote (Line.header run.suite)) fs := by
    have hwritten : (console.wrote (Line.header run.suite)).room = none := by
      rw [Console.wrote_of_room hroom]
      exact hroom
    rw [report_eq, report_eq, if_pos (Console.takes_of_room hwritten _),
      if_pos (Console.takes_of_room hwritten _), verdict_of_passes hpass, verdict_of_passes hpass,
      hsave]
  rw [execute, execute, Console.print_eq, if_pos (Console.takes_of_room hroom _), hcollect]
  dsimp only [Collected.within]
  rw [hnone]
  exact congrArg (Prod.mk _) hreport

/-- Without links the log directory is two names below the directory of the run. -/
theorem eq_of_leads_logDirectory (hlinks : fs.LinkFree) (hbase : fs.Stands run.directory base)
    {here : Location} (hleads : fs.Leads run.logDirectory here)
    (hdir : fs.get? here = some .directory) : here = simName :: logsName :: base := by
  rw [logDirectory_eq] at hleads
  have hhere := FileSystem.stands_of_leads hleads hdir
  obtain ⟨above, habove⟩ := hhere.of_join
  rw [← (hbase.of_join_eq (hlinks _) habove).1]
  exact (habove.of_join_eq (hlinks _) hhere).1

/-- The report file is one of the logs as well, under another name. -/
def ReportIsLog (run : Run) (fs : FileSystem) : Prop :=
  ∃ name ∈ run.logNames fs, fs.status (run.entryPath name) = fs.status run.reportFile

instance (run : Run) (fs : FileSystem) : Decidable (run.ReportIsLog fs) :=
  inferInstanceAs (Decidable (∃ name ∈ run.logNames fs,
    fs.status (run.entryPath name) = fs.status run.reportFile))

/-- Where the report file stands, it may be opened for writing. -/
def MayRewrite (run : Run) (fs : FileSystem) : Prop :=
  ∀ loc, fs.Leads run.reportFile loc → fs.permit (.write loc) = .ok ()

/-- A run that passes is run again on what it left, if its report is none of its logs and may be
written once more: the events, the text, the outcome and the files are those of the first time, and
so are the logs. -/
theorem execute_rerun (run : Run) {console : Console} (hroom : console.room = none)
    {fs : FileSystem} (hlinks : fs.LinkFree) {file : Path}
    (h : (run.execute console fs).2.outcome = .ok (.passed file))
    (hown : ¬ run.ReportIsLog (run.execute console fs).2.files)
    (hwrite : run.MayRewrite (run.execute console fs).2.files) :
    let left := (run.execute console fs).2.files
    run.execute console left = run.execute console fs ∧ run.logFiles left = run.logFiles fs := by
  intro left
  obtain ⟨hnone, hpass, hsave, hfiles⟩ := execute_eq_passed hroom h
  have hlogs := isDirectory_of_readable ((run.collect_failure?_eq_none_iff .empty fs).mp hnone)
  obtain ⟨hcheck, base, hbase⟩ := stands_of_logDirectory hlogs
  obtain ⟨hreport, hagain, made, hmadeDir, hmade, hwritten⟩ := save_again hlinks hbase hcheck hsave
  rw [← hfiles] at hreport hagain hwritten
  have hgrow := hmade.grows.trans hwritten.grows
  obtain ⟨here, hleads, hdir⟩ := FileSystem.leads_of_isDirectory hlogs
  -- What was saved is not in the log directory, which lies deeper than the output directory.
  have hlength : here.length = base.length + 2 :=
    congrArg List.length (eq_of_leads_logDirectory hlinks hbase hleads hdir)
  have hbelow : ∀ l : Location, l.length ≤ base.length + 1 → here ≠ l := by
    rintro l hl rfl
    omega
  have hbase' : here ≠ base := hbelow base (Nat.le_succ _)
  have houtput : here ≠ outputName :: base := hbelow (outputName :: base) (Nat.le_refl _)
  have hoff : ∀ name : Name, left.get? (name :: here) = fs.get? (name :: here) := by
    intro name
    rw [hwritten.elsewhere _ fun he => houtput (List.cons.inj he).2,
      hmade.elsewhere _ fun he => hbase' (List.cons.inj he).2]
  have hstands : fs.Stands run.logDirectory here := by
    rw [logDirectory_eq] at hleads ⊢
    exact FileSystem.stands_of_leads hleads hdir
  have hstatus (name : Name) :
      left.status (run.entryPath name) = fs.status (run.entryPath name) :=
    hstands.status_join (hstands.grow hgrow) hgrow.refusal? (hlinks _) (hoff name)
  have hlist : left.list run.logDirectory = fs.list run.logDirectory := by
    rw [(hleads.grow hgrow).list (hgrow.get? hdir), hleads.list hdir, hgrow.permit,
      hwritten.namesIn here houtput, hmade.namesIn here hbase']
    simp only [hgrow.tell]
  have hread : ∀ name ∈ run.logNames fs,
      left.read (run.entryPath name) = fs.read (run.entryPath name) := by
    intro name hname
    refine hstands.read_join (hstands.grow hgrow) hgrow.refusal? (hlinks _) (hoff name)
      fun id hid => ?_
    have hmem : name ∈ run.logNames left := by rwa [logNames_congr hlist hstatus]
    have hother : left.get? (reportName :: outputName :: base) ≠ some (.file id) := fun hget =>
      hown ⟨name, hmem, ((hstatus name).trans hid).trans (hreport.status hget).symm⟩
    exact (hwritten.file id hother).trans (hmade.file id (by simp [hmadeDir]))
  have hsame : left.status run.logDirectory = fs.status run.logDirectory := by
    rw [(hleads.grow hgrow).status (hgrow.get? hdir), hleads.status hdir]
  have hinput : run.SameInput fs left := ⟨hsame, hlist, hstatus, hread⟩
  exact ⟨execute_congr hroom (hinput.collect .empty) hnone hpass (hagain (hwrite _ hreport)),
    hinput.logFiles⟩

/-- A log that succeeded, and no output directory yet. -/
def passingFiles : FileSystem where
  entries := sampleEntries
    [(⟨Path.ofText "ok.log".toList, by decide⟩, .file 0),
      (⟨Path.ofText "old".toList, by decide⟩, .directory)]
  distinct := by decide
  file := numbered [Text.toBytes "Program exit with code: 0 (0x0)".toList]

theorem execute_twice :
    let run := { sample with directory := .ofText "./run//../run/.".toList }
    let console : Console := ⟨⟨true, true⟩, none, []⟩
    let first := (run.execute console passingFiles).2
    first.outcome = .ok (.passed run.reportFile) ∧
      first.files.entries.length = passingFiles.entries.length + 2 ∧
      run.execute console first.files = run.execute console passingFiles ∧
      (run.logFiles first.files).length = 1 := by
  intro run console first
  have hroom : console.room = none := rfl
  have hlinks : passingFiles.LinkFree := FileSystem.linkFree_of_entries (by decide)
  have houtcome : (run.execute console passingFiles).2.outcome = .ok (.passed run.reportFile) := by
    decide +kernel
  have hplace : first.files.locate .look run.reportFile =
      .ok (.present (reportName :: outputName :: sampleDirectory.drop 2)) := by decide +kernel
  have hwrite : run.MayRewrite first.files := by
    intro loc hleads
    cases hleads.symm.trans hplace
    decide +kernel
  have hone : (run.logFiles passingFiles).length = 1 := by decide +kernel
  obtain ⟨hagain, hlogs⟩ := execute_rerun run hroom hlinks houtcome (by decide +kernel) hwrite
  refine ⟨houtcome, by decide +kernel, hagain, ?_⟩
  rw [hlogs]
  exact hone

/-- A log that succeeded, and a report file that is another name of it. -/
def twinFiles : FileSystem where
  entries :=
    (outputName :: sampleDirectory.drop 2, .directory) ::
      (reportName :: outputName :: sampleDirectory.drop 2, .file 0) ::
        sampleEntries [(⟨Path.ofText "twin.log".toList, by decide⟩, .file 0)]
  distinct := by decide
  file := numbered [Text.toBytes "Program exit with code: 0 (0x0)".toList]

/-- The same log, and no right to open a report file that is there. -/
def lockedFiles : FileSystem where
  entries := passingFiles.entries
  distinct := passingFiles.distinct
  file := passingFiles.file
  refusal? request :=
    if request = .write (reportName :: outputName :: sampleDirectory.drop 2) then
      some "Permission denied (os error 13)".toList
    else none

/-- A run that replaced a log by its report fails the next time, and so does one that created a
report file which it may not open again. -/
theorem execute_twin :
    let console : Console := ⟨⟨false, false⟩, none, []⟩
    let twin := (sample.execute console twinFiles).2
    let locked := (sample.execute console lockedFiles).2
    (twinFiles.LinkFree ∧ twin.outcome = .ok (.passed sample.reportFile) ∧
      (sample.execute console twin.files).2.outcome = .ok (.failed ["twin".toList])) ∧
      lockedFiles.LinkFree ∧ locked.outcome = .ok (.passed sample.reportFile) ∧
      (sample.execute console locked.files).2.outcome =
        .error ⟨[.writeCsv, .create sample.reportFile],
          .csv (.refused "Permission denied (os error 13)".toList)⟩ := by
  have htwin : twinFiles.LinkFree := FileSystem.linkFree_of_entries (by decide)
  have hlocked : lockedFiles.LinkFree := FileSystem.linkFree_of_entries (by decide)
  exact ⟨⟨htwin, by decide +kernel, by decide +kernel⟩, hlocked, by decide +kernel,
    by decide +kernel⟩

end Run
end SimReport
