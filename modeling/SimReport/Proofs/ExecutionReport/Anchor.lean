/-
Where the execution report of a log begins.

The anchor is sought in the characters of a log, and the report starts at an
offset in its bytes.  It is the least one at which the anchor's bytes stand, and
no character is cut there.

The report is found again in itself, and with it the exit code.  Any other
marker has the same value in the log and in the report unless it occurs in the
chatter before the report.
-/
import Mathlib.Tactic.IntervalCases
import SimReport.Proofs.ExecutionReport.Scraping
import SimReport.Proofs.Text.Occurrence
import SimReport.Text.Slice

namespace SimReport

/-! ## The chatter before a report -/

theorem reportStart_of_append {chatter log : Text} (h : log = chatter ++ executionReport log) :
    reportStart log = chatter.byteLength := by
  have hlength := congrArg Text.byteLength h
  rw [Text.byteLength_append] at hlength
  rw [reportStart]
  omega

/-- A log is its chatter and its report, which begins with the anchor found or is the whole log. -/
theorem exists_chatter (log : Text) :
    ∃ chatter, log = chatter ++ executionReport log ∧
      (log.seek? Marker.anchor = some (executionReport log) ∨
        log.seek? Marker.anchor = none ∧ chatter = []) := by
  cases hfound : log.seek? Marker.anchor with
  | none =>
    refine ⟨[], ?_, Or.inr ⟨rfl, rfl⟩⟩
    rw [executionReport, hfound]
    rfl
  | some found =>
    have hreport : executionReport log = found := by rw [executionReport, hfound, Option.getD_some]
    obtain ⟨chatter, hlog, -, -⟩ := Text.seek?_eq_some_iff.mp hfound
    exact ⟨chatter, hreport ▸ hlog, Or.inl (by rw [hreport])⟩

/-- The anchor is found in the report where it is found in the log. -/
theorem seek?_executionReport (log : Text) :
    (executionReport log).seek? Marker.anchor = log.seek? Marker.anchor := by
  obtain ⟨chatter, hlog, hfound | ⟨hfound, rfl⟩⟩ := exists_chatter log
  · rw [hfound]
    exact Text.seek?_of_start (Text.seek?_sound hfound).1
  · exact congrArg (Text.seek? · Marker.anchor) hlog.symm

theorem executionReport_executionReport (log : Text) :
    executionReport (executionReport log) = executionReport log := by
  obtain ⟨chatter, hlog, hfound | ⟨hfound, rfl⟩⟩ := exists_chatter log
  · rw [executionReport, seek?_executionReport, hfound, Option.getD_some]
  · exact congrArg executionReport hlog.symm

theorem scrape?_exitCode_executionReport (log : Text) :
    Marker.exitCode.scrape? (executionReport log) = Marker.exitCode.scrape? log :=
  Marker.scrape?_congr (seek?_executionReport log)

/-- A marker that does not start in the chatter has the value that it has in the report. -/
theorem scrape?_executionReport {marker : Marker} (hm : marker ∈ Marker.all) {log : Text}
    (h : ∀ n, log.OccursAt marker.text n → reportStart log ≤ n) :
    marker.scrape? (executionReport log) = marker.scrape? log := by
  obtain ⟨chatter, hlog, -⟩ := exists_chatter log
  rw [reportStart_of_append hlog, hlog] at h
  have hnone := (Text.noneWithin_iff (Marker.text_ne_nil marker hm)).mpr h
  refine Marker.scrape?_congr ?_
  rw [← hnone.seek?_append, ← hlog]

theorem isLeast_reportStart {log : Text} (h : ∃ n, log.OccursAt Marker.anchor n) :
    IsLeast {n | log.OccursAt Marker.anchor n} (reportStart log) := by
  rw [Text.exists_occursAt_iff Marker.anchor_ne_nil] at h
  obtain ⟨chatter, hlog, hfound | ⟨hnone, -⟩⟩ := exists_chatter log
  · obtain ⟨before, hbefore, hstart, hfirst⟩ := Text.seek?_eq_some_iff.mp hfound
    obtain rfl : before = chatter := List.append_cancel_right (hbefore.symm.trans hlog)
    rw [hlog] at hfirst
    have hleast := Text.isLeast_occursAt hstart hfirst
    rw [← hlog] at hleast
    rwa [reportStart_of_append hlog]
  · exact absurd h (Text.seek?_eq_none_iff.mp hnone)

theorem reportStart_of_not_occursAt {log : Text} (h : ¬ ∃ n, log.OccursAt Marker.anchor n) :
    reportStart log = 0 := by
  rw [Text.exists_occursAt_iff Marker.anchor_ne_nil] at h
  obtain ⟨chatter, hlog, hfound | ⟨-, rfl⟩⟩ := exists_chatter log
  · obtain ⟨hstart, hsuffix⟩ := Text.seek?_sound hfound
    exact absurd (hstart.isInfix.trans hsuffix.isInfix) h
  · exact reportStart_of_append hlog

theorem dropBytes?_reportStart (log : Text) :
    log.dropBytes? (reportStart log) = some (executionReport log) := by
  obtain ⟨chatter, hlog, -⟩ := exists_chatter log
  have h := Text.dropBytes?_append chatter (executionReport log)
  rw [← hlog] at h
  rw [reportStart_of_append hlog, h]

theorem Metrics.ofLog_append {pre report : Text} (hpre : ¬ Marker.anchor <:+: pre)
    (hreport : Marker.anchor <+: report) : ofLog (pre ++ report) = ofReport report := by
  rw [ofLog, executionReport_append hpre hreport]

/-- The report starts at the least offset of the anchor's bytes, or at zero if there is none, and
the log can be cut there.  It is its own report, has the exit code of the log, and has the values of
all markers that do not occur before it.  What stands before the first anchor has no influence. -/
theorem executionReport_anchored (log : Text) :
    ((∃ n, log.OccursAt Marker.anchor n) →
      IsLeast {n | log.OccursAt Marker.anchor n} (reportStart log)) ∧
    ((¬ ∃ n, log.OccursAt Marker.anchor n) → reportStart log = 0) ∧
    log.dropBytes? (reportStart log) = some (executionReport log) ∧
    executionReport (executionReport log) = executionReport log ∧
    Metrics.ofLog (executionReport log) = Metrics.ofLog log ∧
    Marker.exitCode.scrape? (executionReport log) = Marker.exitCode.scrape? log ∧
    (∀ marker ∈ Marker.all, (∀ n, log.OccursAt marker.text n → reportStart log ≤ n) →
      marker.scrape? (executionReport log) = marker.scrape? log) ∧
    ∀ pre report, ¬ Marker.anchor <:+: pre → Marker.anchor <+: report →
      Metrics.ofLog (pre ++ report) = Metrics.ofReport report ∧
        ∀ other, ¬ Marker.anchor <:+: other →
          Metrics.ofLog (other ++ report) = Metrics.ofLog (pre ++ report) := by
  refine ⟨isLeast_reportStart, reportStart_of_not_occursAt, dropBytes?_reportStart log,
    executionReport_executionReport log, ?_, scrape?_exitCode_executionReport log,
    fun marker hm h => scrape?_executionReport hm h, fun pre report hpre hreport => ?_⟩
  · rw [Metrics.ofLog, executionReport_executionReport, Metrics.ofLog]
  · refine ⟨Metrics.ofLog_append hpre hreport, fun other hother => ?_⟩
    rw [Metrics.ofLog_append hother hreport, Metrics.ofLog_append hpre hreport]

/-- A report behind a character of two bytes, and a log without one. -/
theorem executionReport_chatter :
    let report : Text := "Program exit with code: 1 (0x1)\n- loads: 3 (1%)".toList
    let log : Text := "é\n".toList ++ report
    IsLeast {n | log.OccursAt Marker.anchor n} 3 ∧ reportStart "é - loads: 3 (".toList = 0 ∧
      (Marker.ofCounter .loads).scrape? report = (Marker.ofCounter .loads).scrape? log ∧
      Metrics.ofLog log = Metrics.ofReport report ∧
      Metrics.ofLog ("- loads: 9 (".toList ++ report) = Metrics.ofLog log := by
  intro report log
  have hstart : reportStart log = 3 := by decide +kernel
  have hreport : executionReport log = report := by decide +kernel
  obtain ⟨hleast, -, -, -, -, -, hscrape, hbehind⟩ := executionReport_anchored log
  obtain ⟨-, hzero, -⟩ := executionReport_anchored "é - loads: 3 (".toList
  obtain ⟨hmetrics, hother⟩ := hbehind "é\n".toList report (by decide) (by decide)
  refine ⟨?_, hzero ?_, ?_, hmetrics, hother _ (by decide)⟩
  · rw [← hstart]
    exact hleast ⟨3, by decide +kernel⟩
  · rw [Text.exists_occursAt_iff Marker.anchor_ne_nil]
    decide
  · rw [← hreport]
    refine hscrape _ (Marker.ofCounter_mem_all .loads) fun n hn => ?_
    rw [hstart]
    by_contra hlt
    interval_cases n <;> exact absurd hn (by decide +kernel)

end SimReport
