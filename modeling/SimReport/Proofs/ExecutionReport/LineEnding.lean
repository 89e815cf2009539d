/-
A log is read alike with either kind of line ending.

No marker has a character of a line ending, so the carriage returns that are put
in make no marker and break none (`Text.seek?_crlf`).  A value up to the end of
its line gains one blank.  A value up to a parenthesis may run over several
lines, and has all their carriage returns then.  In both cases the same numeral
is read, or none.
-/
import SimReport.Proofs.ExecutionReport.Scraping
import SimReport.Proofs.Text.LineEnding

namespace SimReport

namespace Marker

theorem return_not_mem_text : ∀ m ∈ all, '\r' ∉ m.text := by decide

theorem seek?_crlf {m : Marker} (hm : m ∈ all) (t : Text) :
    t.crlf.seek? m.text = (t.seek? m.text).map Text.crlf :=
  Text.seek?_crlf (text_ne_nil m hm) (newline_not_mem_text m hm) (return_not_mem_text m hm) t

/-- The value up to either terminator is read alike. -/
theorem readWord?_takeWhile_crlf {m : Marker} (hm : m ∈ all) (t : Text) :
    Text.readWord? m.radix (t.crlf.takeWhile (· != m.terminator)) =
      Text.readWord? m.radix (t.takeWhile (· != m.terminator)) := by
  rcases terminator_eq m hm with hterm | hterm
  · rw [hterm, Text.takeWhile_newline_crlf]
    split
    · exact Text.readWord?_congr (Text.trim_append_blank rfl _)
    · rw [List.append_nil]
  · rw [hterm, Text.takeWhile_crlf (by decide) (by decide), Text.readWord?_crlf]

theorem scrape?_crlf {m : Marker} (hm : m ∈ all) (t : Text) :
    m.scrape? t.crlf = m.scrape? t := by
  rw [scrape?, scrape?, Text.between?, Text.between?, seek?_crlf hm]
  cases hfound : t.seek? m.text with
  | none => rfl
  | some found =>
    obtain ⟨rest, rfl⟩ := (Text.seek?_sound hfound).1
    rw [Option.map_some, Option.map_some, Option.map_some, Option.bind_some, Option.bind_some,
      Text.crlf_append, Text.crlf_of_not_mem (newline_not_mem_text m hm), List.drop_left,
      List.drop_left, readWord?_takeWhile_crlf hm]

end Marker

theorem executionReport_crlf (log : Text) :
    executionReport log.crlf = (executionReport log).crlf := by
  have hseek : log.crlf.seek? Marker.anchor = (log.seek? Marker.anchor).map Text.crlf :=
    Marker.seek?_crlf Marker.exitCode_mem_all log
  rw [executionReport, executionReport, hseek]
  cases log.seek? Marker.anchor <;> rfl

/-- A carriage return before every line feed of a log changes neither its metrics nor the markers
that give no value. -/
theorem ofLog_crlf (log : Text) :
    Metrics.ofLog log.crlf = Metrics.ofLog log ∧
      missingMarkers (executionReport log.crlf) = missingMarkers (executionReport log) := by
  rw [executionReport_crlf]
  constructor
  · rw [Metrics.ofLog, Metrics.ofLog, executionReport_crlf]
    refine Metrics.ext_markers fun m hm => ?_
    rw [Metrics.value_ofReport hm, Metrics.value_ofReport hm, Marker.scrape?_crlf hm]
  · refine List.filter_congr fun m hm => ?_
    rw [Marker.scrape?_crlf hm]

/-- Values that run on over lines, and one that a line ending spoils. -/
example :
    let log : Text := "boot\nProgram exit with code: \n1f\n(\n- loads: 4\n2 (\n- stores:\n 7".toList
    Metrics.ofLog log.crlf = { exitCode := some 0x1f, counters := { stores := 7 } } := by
  decide +kernel

end SimReport
