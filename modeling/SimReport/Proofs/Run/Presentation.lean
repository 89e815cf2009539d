/-
What the looks of a report do not touch.

The suite's name stands in the header alone, and colour is put around text that is
the same without it.  Neither reaches the files, the table or the gate.  So two
runs of which one is coloured, or that bear different names, end alike and write
the same files.  Behind the header they print the same text once the colour
sequences are taken out, those that the names of logs and directories bring along
included.
-/
import SimReport.Proofs.Colour
import SimReport.Proofs.Run.Ending

namespace SimReport

open Colour

namespace Line

theorem erase_tag (p q : Palette) (succeeded : Bool) :
    erase (tag p succeeded) = erase (tag q succeeded) := by
  have hsuccess : EndsClear "SUCCESS".toList := ⟨'S', rfl, by decide⟩
  have hfailure : EndsClear "FAILURE".toList := ⟨'E', rfl, by decide⟩
  cases succeeded with
  | true => exact (erase_paint p _ hsuccess).trans (erase_paint q _ hsuccess).symm
  | false => exact (erase_paint p _ hfailure).trans (erase_paint q _ hfailure).symm

theorem endsClear_tag (palette : Palette) (succeeded : Bool) :
    EndsClear (tag palette succeeded) := by
  cases succeeded with
  | true => exact endsClear_paint palette .green ⟨'S', rfl, by decide⟩
  | false => exact endsClear_paint palette .red ⟨'E', rfl, by decide⟩

theorem endsClear_newline (t : Text) : EndsClear (t ++ ['\n']) :=
  endsClear_append t ⟨'\n', rfl, by decide⟩

/-- The name in front of the tag may end in part of a sequence, but a colon and a
blank stand between them. -/
theorem erase_benchmark (p q : Palette) (index : Nat) (row : Row) :
    erase (benchmark p index row) = erase (benchmark q index row) := by
  have hbefore : EndsClear (padLeft 4 (Text.ofNat index) ++ ") ".toList ++ padRight 15 row.id ++
      ": ".toList) := endsClear_append _ ⟨' ', rfl, by decide⟩
  have hsplit : ∀ palette : Palette, erase (benchmark palette index row) =
      erase (padLeft 4 (Text.ofNat index) ++ ") ".toList ++ padRight 15 row.id ++ ": ".toList) ++
        (erase (tag palette row.succeeded) ++
          erase (" (IPC=".toList ++ row.metrics.ipc.toFixed ++ ")\n".toList)) := by
    intro palette
    rw [← erase_append (endsClear_tag palette row.succeeded), ← erase_append hbefore, benchmark]
    simp only [List.append_assoc]
  rw [hsplit p, hsplit q, erase_tag p q]

theorem endsClear_benchmark (palette : Palette) (index : Nat) (row : Row) :
    EndsClear (benchmark palette index row) :=
  endsClear_append _ (endsClear_newline [')'])

theorem erase_failures (p q : Palette) (ids : List Text) :
    erase (failures p ids) = erase (failures q ids) := by
  have hline : EndsClear ("Failed tests: ".toList ++ Text.joinWith ", ".toList ids ++ ['.']) :=
    endsClear_append _ ⟨'.', rfl, by decide⟩
  rw [failures, failures, erase_append (endsClear_paint p .red hline),
    erase_append (endsClear_paint q .red hline), erase_paint p .red hline,
    erase_paint q .red hline]

end Line

namespace Run

theorem erase_flatten_append {lines : List Text} (h : ∀ line ∈ lines, EndsClear line) (t : Text) :
    erase (lines.flatten ++ t) = (lines.map erase).flatten ++ erase t := by
  induction lines with
  | nil => rfl
  | cons line lines ih =>
    rw [List.flatten_cons, List.append_assoc, erase_append (h line List.mem_cons_self),
      ih fun line hl => h line (List.mem_cons_of_mem _ hl), List.map_cons, List.flatten_cons,
      List.append_assoc]

theorem erase_verdictLine (run : Run) (p q : Palette) (ids : List Text) :
    erase (run.verdictLine p ids) = erase (run.verdictLine q ids) := by
  rw [verdictLine, verdictLine]
  split
  · rfl
  · exact Line.erase_failures p q ids

theorem endsClear_summaryLines (palette : Palette) (results : Results) :
    ∀ line ∈ summaryLines palette results, EndsClear line := by
  intro line hline
  rcases List.mem_append.mp hline with hline | hline
  · obtain ⟨⟨row, index⟩, -, rfl⟩ := List.mem_map.mp hline
    exact Line.endsClear_benchmark palette index row
  · rw [List.mem_singleton.mp hline]
    exact endsClear_append _ (Line.endsClear_newline ['.'])

theorem map_erase_summaryLines (p q : Palette) (results : Results) :
    (summaryLines p results).map erase = (summaryLines q results).map erase := by
  have hline : (fun numbered : Row × Nat => erase (Line.benchmark p numbered.2 numbered.1)) =
      fun numbered => erase (Line.benchmark q numbered.2 numbered.1) :=
    funext fun numbered => Line.erase_benchmark p q numbered.2 numbered.1
  rw [summaryLines, summaryLines, List.map_append, List.map_append, Line.benchmarks_eq,
    Line.benchmarks_eq, List.map_map, List.map_map, Function.comp_def, Function.comp_def, hline]

theorem erase_reportText (run : Run) (p q : Palette) (results : Results) :
    erase (run.reportText p results) = erase (run.reportText q results) := by
  rw [reportText, reportText, erase_flatten_append (endsClear_summaryLines p results),
    erase_flatten_append (endsClear_summaryLines q results), map_erase_summaryLines p q,
    run.erase_verdictLine p q]

/-- What a run prints behind its header. -/
def body (run : Run) (palette : Palette) (fs : FileSystem) : Text :=
  match (run.collect .empty fs).failure? with
  | some _ => []
  | none => run.reportText palette (run.collect .empty fs).results

theorem printed_eq (run : Run) (palette : Palette) (fs : FileSystem) :
    run.printed palette fs = Line.header run.suite ++ run.body palette fs := by
  rw [printed, body]
  cases (run.collect .empty fs).failure? with
  | some e => exact (List.append_nil _).symm
  | none => rfl

theorem erase_body (run : Run) (p q : Palette) (fs : FileSystem) :
    erase (run.body p fs) = erase (run.body q fs) := by
  rw [body, body]
  split
  · rfl
  · exact run.erase_reportText p q _

/-- With a sink that takes everything, the name of the suite and the colours
change nothing but the header and the colour sequences in the text behind it. -/
theorem execute_presentation (run : Run) (fs : FileSystem) (suite other : Text) (p q : Palette) :
    let one := ({ run with suite := suite }.execute { palette := p } fs).2
    let two := ({ run with suite := other }.execute { palette := q } fs).2
    one.outcome = two.outcome ∧ exitCode one.outcome = exitCode two.outcome ∧
      one.files = two.files ∧
      ∃ rest others, one.console.text = Line.header suite ++ rest ∧
        two.console.text = Line.header other ++ others ∧
        (p = q → rest = others) ∧ erase rest = erase others := by
  intro one two
  have hone : one = { run with suite := suite }.ending _ fs :=
    execute_of_takes (Console.takes_of_room rfl _)
  have htwo : two = { run with suite := other }.ending _ fs :=
    execute_of_takes (Console.takes_of_room rfl _)
  -- How a run ends reads neither its suite nor its console.
  have hends : ∀ a b, ({ run with suite := suite }.ending a fs).outcome =
      ({ run with suite := other }.ending b fs).outcome ∧
        ({ run with suite := suite }.ending a fs).files =
          ({ run with suite := other }.ending b fs).files :=
    fun a b => run.ending_congr a b fs
  have houtcome : one.outcome = two.outcome := by
    rw [hone, htwo]
    exact (hends _ _).1
  refine ⟨houtcome, congrArg exitCode houtcome, ?_, run.body p fs, run.body q fs, ?_, ?_, ?_,
    run.erase_body p q fs⟩
  · rw [hone, htwo]
    exact (hends _ _).2
  · rw [hone, console_ending, Console.text_wrote, printed_eq]
    rfl
  · rw [htwo, console_ending, Console.text_wrote, printed_eq]
    rfl
  · rintro rfl
    rfl

end Run
end SimReport
