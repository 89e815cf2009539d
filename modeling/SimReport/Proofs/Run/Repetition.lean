/-
Collecting the same logs again.

A directory may list its entries in another order each time it is read.  If it
holds what it held before (`Relists`), the log files are the same up to their
order, and what was recorded of them is in the table already.  So a second
collection leaves the table as it is, with the order of its rows (`collect_again`),
and also the first one touched no row but those of the logs it found.
-/
import SimReport.Proofs.FileSystem.Reordering
import SimReport.Proofs.Results.History
import SimReport.Proofs.Run.Collection

namespace SimReport
namespace Run

/-- The log directory holds what it held, in an order of its own, and tells it to the end.  The
rest of the files may be any others. -/
def Relists (run : Run) (fs other : FileSystem) : Prop :=
  ∀ names, fs.list run.logDirectory = .ok ⟨names, none⟩ →
    ∃ listed, other.list run.logDirectory = .ok ⟨listed, none⟩ ∧ listed.Perm names ∧
      ∀ name ∈ names, other.status (run.entryPath name) = fs.status (run.entryPath name) ∧
        other.read (run.entryPath name) = fs.read (run.entryPath name)

variable {run : Run} {fs other : FileSystem}

theorem relists_of_reordered (run : Run) (h : fs.Reordered other) : run.Relists fs other := by
  intro names hnames
  obtain ⟨listed, hlisted, hperm⟩ := h.list_eq_ok hnames
  exact ⟨listed, hlisted, hperm, fun name _ => ⟨h.status_eq _, h.read_eq _⟩⟩

/-- The names of the logs are the same up to their order, and each is read as before. -/
theorem Relists.logNames (h : run.Relists fs other) (hread : run.Readable fs) :
    (run.logNames other).Perm (run.logNames fs) ∧
      ∀ name ∈ run.logNames fs,
        other.read (run.entryPath name) = fs.read (run.entryPath name) := by
  obtain ⟨names, hnames, -⟩ := hread
  obtain ⟨listed, hlisted, hperm, hentries⟩ := h names hnames
  have hfile : ∀ name ∈ listed,
      other.isFile (run.entryPath name) = fs.isFile (run.entryPath name) := by
    intro name hname
    rw [FileSystem.isFile, FileSystem.isFile, (hentries name (hperm.subset hname)).1]
  rw [Run.logNames, Run.logNames, hnames, hlisted]
  refine ⟨?_, fun name hname => (hentries name (List.mem_filter.mp hname).1).2⟩
  dsimp only
  rw [List.filter_congr hfile]
  exact hperm.filter _

theorem Relists.readable (h : run.Relists fs other) (hread : run.Readable fs) :
    run.Readable other := by
  obtain ⟨hperm, hsame⟩ := h.logNames hread
  obtain ⟨names, hnames, -⟩ := id hread
  obtain ⟨listed, hlisted, -⟩ := h names hnames
  refine (readable_iff hlisted).mpr fun name hname => ?_
  have hmem := hperm.subset hname
  rw [hsame name hmem]
  exact (readable_iff hnames).mp hread name hmem

theorem Relists.logFiles_perm (h : run.Relists fs other) (hread : run.Readable fs) :
    (run.logFiles other).Perm (run.logFiles fs) := by
  have hopened {files : FileSystem} (hread : run.Readable files) :
      run.logFiles files =
        (run.logNames files).filterMap (LogFile.open? files run.logDirectory) := by
    obtain ⟨names, hnames, -⟩ := id hread
    exact LogFile.openAll_eq_filterMap ((readable_iff hnames).mp hread)
  obtain ⟨hperm, hsame⟩ := h.logNames hread
  have hopen : (run.logNames other).filterMap (LogFile.open? other run.logDirectory) =
      (run.logNames other).filterMap (LogFile.open? fs run.logDirectory) := by
    refine List.filterMap_congr fun name hname => ?_
    have hname := hsame name (hperm.subset hname)
    rw [entryPath] at hname
    rw [LogFile.open?, LogFile.open?, hname]
  rw [hopened hread, hopened (h.readable hread), hopen]
  exact hperm.filterMap _

/-- Whatever the table was before, once the logs are collected, collecting them again in any order
succeeds and changes nothing.  Rows of other names than theirs stay where they are. -/
theorem collect_again (run : Run) (results : Results) (h : run.Relists fs other)
    (hnames : ((run.logFiles fs).map LogFile.fileName).Nodup)
    (hdone : (run.collect results fs).failure? = none) :
    let first := run.collect results fs
    let second := run.collect first.results other
    second.failure? = none ∧ second.results = first.results ∧
      ∀ (i : Nat) (row : Row), results.rows[i]? = some row →
        row.fileName ∉ (run.logFiles fs).map LogFile.fileName →
        first.results.rows[i]? = some row := by
  intro first second
  have hread := (run.collect_failure?_eq_none_iff results fs).mp hdone
  have hnodup : (((run.logFiles fs).map LogFile.row).map Row.fileName).Nodup := by
    rw [List.map_map]
    exact hnames
  have hfirst : first.results = results.insertAll ((run.logFiles fs).map LogFile.row) :=
    run.results_collect results fs
  refine ⟨(run.collect_failure?_eq_none_iff _ other).mpr (h.readable hread), ?_, ?_⟩
  · have hsecond : second.results =
        first.results.insertAll ((run.logFiles other).map LogFile.row) :=
      run.results_collect first.results other
    rw [hsecond]
    apply Results.insertAll_of_subset
    have hknown := results.subset_rows_insertAll hnodup
    rw [← hfirst] at hknown
    exact List.Subset.trans ((h.logFiles_perm hread).map LogFile.row).subset hknown
  · intro i row hrow hother
    rw [hfirst]
    refine results.getElem?_insertAll_of_not_mem hrow ?_
    rw [List.map_map]
    exact hother

/-- Two logs with a directory between them and a link that leads nowhere. -/
def crowdedFiles : FileSystem where
  entries := sampleEntries
    [(⟨Path.ofText "h.log".toList, by decide⟩, .file 0),
      (⟨Path.ofText "g".toList, by decide⟩, .directory),
      (⟨Path.ofText "i.log".toList, by decide⟩, .link (.ofText "j.log".toList)),
      (⟨Path.ofText "k.log".toList, by decide⟩, .file 1)]
  distinct := by decide
  file := numbered [Text.toBytes "Program exit with code: 0 (0x0)".toList, [0xff]]

/-- A row of a log that is gone, and one of a log that has changed. -/
def staleResults : Results where
  rows := [⟨"gone.log".toList, { exitCode := some 3 }⟩, ⟨"k.log".toList, { exitCode := some 0 }⟩]
  nodup := by decide

theorem collect_crowded :
    let first := sample.collect staleResults crowdedFiles
    let second := sample.collect first.results crowdedFiles.reversed
    first.failure? = none ∧
      first.results.rows =
        [⟨"gone.log".toList, { exitCode := some 3 }⟩, ⟨"k.log".toList, {}⟩,
          ⟨"h.log".toList, { exitCode := some 0 }⟩] ∧
      (sample.logFiles crowdedFiles.reversed).map LogFile.id = ["k".toList, "h".toList] ∧
      (sample.logFiles crowdedFiles).map LogFile.id = ["h".toList, "k".toList] ∧
      second.results = first.results := by
  intro first second
  have hdone : first.failure? = none := by decide +kernel
  have hrelists := sample.relists_of_reordered crowdedFiles.reordered_reversed
  obtain ⟨-, hsame, -⟩ :=
    collect_again sample staleResults hrelists (by decide +kernel) hdone
  exact ⟨hdone, by decide +kernel, by decide +kernel, by decide +kernel, hsame⟩

end Run
end SimReport
