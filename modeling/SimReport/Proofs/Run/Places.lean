/-
The places of a run.

The log directory, the output directory and the report file all lie below the
run's own directory.  So a run whose log directory is there can reach its own
directory by the path it was given, whatever that path is like, and all it can
create is a directory in it and a file in that.
-/
import SimReport.Proofs.FileSystem.Descent
import SimReport.Run

namespace SimReport

namespace Path

theorem join_join (p : Path) {a b : Bytes} (ha : separator ∉ a) (hne : a ≠ [])
    (hb : separator ∉ b) : p.join (a ++ separator :: b) = (p.join a).join b := by
  have hboth : isAbsolute (a ++ separator :: b) = isAbsolute a := by
    cases a with
    | nil => exact absurd rfl hne
    | cons c a => rfl
  obtain ⟨last, hlast⟩ := Option.ne_none_iff_exists'.mp (mt List.getLast?_eq_none_iff.mp hne)
  have hends : ∀ before : Path, ¬ (before ++ a = [] ∨ (before ++ a).getLast? = some separator) := by
    rintro before (hnil | hsep)
    · exact hne (List.append_eq_nil_iff.mp hnil).2
    · rw [List.getLast?_append, hlast, Option.some_or] at hsep
      exact ha (Option.some.inj hsep ▸ List.mem_of_getLast? hlast)
  rw [join, hboth, isAbsolute_of_not_mem ha, if_neg Bool.false_ne_true, join.eq_1 (p.join a),
    isAbsolute_of_not_mem hb, if_neg Bool.false_ne_true, join, isAbsolute_of_not_mem ha,
    if_neg Bool.false_ne_true]
  split
  · rw [if_neg (hends p), List.append_assoc]
  · have hlong := hends (p ++ [separator])
    rw [List.append_assoc, List.singleton_append] at hlong
    rw [if_neg hlong, List.append_assoc, List.cons_append]

/-- A path that can be asked for still can when a shorter name takes the place of
what was joined to it last. -/
theorem checkPath_join {p : Path} {a b : Bytes} (ha : isAbsolute a = false)
    (hb : isAbsolute b = false) (hne : b ≠ []) (hzero : 0 ∉ b) (hle : b.length ≤ a.length)
    (h : FileSystem.checkPath (p.join a) = .ok ()) : FileSystem.checkPath (p.join b) = .ok () := by
  obtain ⟨hpath, -, hlength⟩ := checkPath_eq_ok_iff.mp h
  rw [join, ha, if_neg Bool.false_ne_true] at hpath hlength
  rw [checkPath_eq_ok_iff, join, hb, if_neg Bool.false_ne_true]
  split at hpath
  · next hp =>
    rw [if_pos hp, List.length_append] at hlength
    rw [if_pos hp, List.length_append, List.mem_append, not_or]
    refine ⟨⟨fun hmem => hpath (List.mem_append_left a hmem), hzero⟩, ?_, by omega⟩
    exact fun hnil => hne (List.append_eq_nil_iff.mp hnil).2
  · next hp =>
    rw [if_neg hp, List.length_append, List.length_cons] at hlength
    rw [if_neg hp, List.length_append, List.length_cons, List.mem_append, List.mem_cons, not_or,
      not_or]
    refine ⟨⟨fun hmem => hpath (List.mem_append_left _ hmem), by decide, hzero⟩, ?_, by omega⟩
    exact fun hnil => List.cons_ne_nil _ _ (List.append_eq_nil_iff.mp hnil).2

end Path

namespace Run

variable {run : Run} {fs : FileSystem}

def logsName : Name := ⟨Text.toBytes "logs".toList, by decide⟩

def simName : Name := ⟨Text.toBytes "sim".toList, by decide⟩

def outputName : Name := ⟨Text.toBytes "output".toList, by decide⟩

def reportName : Name := ⟨Text.toBytes "benchmarks.csv".toList, by decide⟩

theorem logDirectory_eq (run : Run) :
    run.logDirectory = (run.directory.join logsName.bytes).join simName.bytes :=
  Path.join_join run.directory logsName.valid.2.2.2.1 logsName.valid.1 simName.valid.2.2.2.1

theorem outputDirectory_eq (run : Run) :
    run.outputDirectory = run.directory.join outputName.bytes := rfl

theorem reportFile_eq (run : Run) :
    run.reportFile = run.outputDirectory.join reportName.bytes := rfl

theorem checkPath_outputDirectory (h : FileSystem.checkPath run.logDirectory = .ok ()) :
    FileSystem.checkPath run.outputDirectory = .ok () :=
  Path.checkPath_join (by decide) (by decide) (by decide) (by decide) (by decide) h

/-- A log directory that is there is reached through the directory of the run,
and so is all else that belongs to the run. -/
theorem stands_of_logDirectory (h : fs.isDirectory run.logDirectory = true) :
    FileSystem.checkPath run.outputDirectory = .ok () ∧
      ∃ base, fs.Stands run.directory base := by
  obtain ⟨here, hleads, hdir⟩ := FileSystem.leads_of_isDirectory h
  have hcheck := checkPath_outputDirectory (FileSystem.walkFrom_eq_ok hleads).1
  rw [logDirectory_eq] at hleads
  obtain ⟨above, habove⟩ := (FileSystem.stands_of_leads hleads hdir).of_join
  exact ⟨hcheck, habove.of_join⟩

/-- The output directory is the one of that name, if it may be gone into. -/
theorem stands_outputDirectory {base : Location} (h : fs.Stands run.directory base)
    (hpass : fs.passage base (.into outputName) = .ok ())
    (hdir : fs.get? (outputName :: base) = some .directory) :
    fs.Stands run.outputDirectory (outputName :: base) :=
  h.join hpass (by decide) hdir

theorem leads_outputDirectory {here : Location} (h : fs.Stands run.outputDirectory here)
    (hcheck : FileSystem.checkPath run.outputDirectory = .ok ()) :
    fs.Leads run.outputDirectory here := by
  rw [outputDirectory_eq] at h hcheck ⊢
  exact h.leads hcheck

/-- Where a report file is created if the output directory is there. -/
theorem locate_reportFile {output : Location} (h : fs.Stands run.outputDirectory output)
    (hlink : ∀ target, fs.get? (reportName :: output) ≠ some (.link target))
    (purpose : Purpose) :
    fs.locate purpose run.reportFile =
      match FileSystem.checkPath run.reportFile with
      | .error e => .error e
      | .ok () => fs.intoName output reportName :=
  h.locate_join reportName purpose hlink

end Run
end SimReport
