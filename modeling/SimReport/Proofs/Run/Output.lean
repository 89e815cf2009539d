/-
How saving a report ends.

That depends on how far it gets with the directory and the file, which is the
state of the output (`outputState`), and then on the length of the text alone.  If
the file takes as much, the report is stored.  Otherwise the length decides which
kind the failure has, since it decides whether the limit is met while rows are
still being handed over (`outcome_save_of_ok`).
-/
import SimReport.Proofs.ReportFile.Writer
import SimReport.Run.Report

namespace SimReport

open FileSystem

namespace Run

variable {run : Run} {fs : FileSystem}

/-- How far a run gets with its output: to a fault, or to a file that is open, of which only the
limit matters. -/
def outputState (run : Run) (fs : FileSystem) : Except Failure (Option Limit) :=
  match fs.makeDirectories run.outputDirectory with
  | (_, .error e) => .error ⟨[.createDirectories run.outputDirectory], .io e⟩
  | (made, .ok ()) =>
    match made.openEmpty run.reportFile with
    | .error e => .error ⟨[.create run.reportFile], .csv e⟩
    | .ok (opened, handle) => .ok (opened.limit? handle)

theorem outcome_save_of_error {f : Failure} (h : run.outputState fs = .error f)
    (results : Results) : (run.save results fs).2 = .error (f.within .writeCsv) := by
  rw [outputState] at h
  rw [save, ReportFile.save]
  obtain ⟨⟨made, done⟩, hdirs⟩ : ∃ made, fs.makeDirectories run.outputDirectory = made := ⟨_, rfl⟩
  rw [hdirs] at h ⊢
  cases done with
  | error e =>
    cases h
    rfl
  | ok _ =>
    dsimp only at h ⊢
    cases hopen : made.openEmpty run.reportFile with
    | error e =>
      rw [hopen] at h
      cases h
      rfl
    | ok found =>
      rw [hopen] at h
      cases h

/-- Once the file is open, the length of the text decides how saving ends. -/
theorem outcome_save_of_ok {limit? : Option Limit} (h : run.outputState fs = .ok limit?)
    (results : Results) :
    if Fits limit? (ReportFile.text results).byteLength then
      (run.save results fs).2 = .ok (.passed run.reportFile)
    else ∃ f, (run.save results fs).2 = .error f ∧
      f.kind = if Fits limit? (ReportFile.Writer.sentOf (ReportFile.text results).byteLength)
        then .io else .csv := by
  rw [outputState] at h
  rw [save, ReportFile.save]
  obtain ⟨⟨made, done⟩, hdirs⟩ : ∃ made, fs.makeDirectories run.outputDirectory = made := ⟨_, rfl⟩
  rw [hdirs] at h ⊢
  cases done with
  | error e => cases h
  | ok _ =>
    dsimp only at h ⊢
    cases hopen : made.openEmpty run.reportFile with
    | error e =>
      rw [hopen] at h
      cases h
    | ok found =>
      obtain ⟨opened, handle⟩ := found
      rw [hopen] at h
      cases h
      have hempty := (overwrites_of_openEmpty hopen).1
      dsimp only
      rcases ReportFile.store_cases .filling results hempty with
        ⟨hfits, hstore⟩ | ⟨limit, activity, hlimit, hmeets, hstore⟩
      · rw [if_pos hfits, hstore]
      · have hover : ¬ Fits (opened.limit? handle) (ReportFile.text results).byteLength :=
          fun hfits => absurd hmeets.lt_byteLength (Nat.not_lt.mpr (hfits limit hlimit))
        have hkind := ReportFile.kind_store results hempty (congrArg Prod.snd hstore)
        rw [if_neg hover, hstore]
        exact ⟨_, rfl, hkind⟩

/-- The directory of the report file is there or can be made, the file can be opened, and it takes
the whole report. -/
def Storable (run : Run) (results : Results) (fs : FileSystem) : Prop :=
  ∃ limit?, run.outputState fs = .ok limit? ∧ Fits limit? (ReportFile.text results).byteLength

/-- A report that can be stored is stored. -/
theorem save_eq_passed_iff (run : Run) (results : Results) (fs : FileSystem) :
    (run.save results fs).2 = .ok (.passed run.reportFile) ↔ run.Storable results fs := by
  cases hstate : run.outputState fs with
  | error f =>
    rw [outcome_save_of_error hstate results]
    refine iff_of_false (fun h => by cases h) ?_
    rintro ⟨limit?, hok, -⟩
    cases hstate.symm.trans hok
  | ok limit? =>
    have hsave := outcome_save_of_ok hstate results
    by_cases hfits : Fits limit? (ReportFile.text results).byteLength
    · rw [if_pos hfits] at hsave
      exact iff_of_true hsave ⟨limit?, hstate, hfits⟩
    · rw [if_neg hfits] at hsave
      obtain ⟨f, hf, -⟩ := hsave
      rw [hf]
      refine iff_of_false (fun h => by cases h) ?_
      rintro ⟨other, hok, hother⟩
      cases hstate.symm.trans hok
      exact hfits hother

end Run
end SimReport
