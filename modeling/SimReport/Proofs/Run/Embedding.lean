/-
A report among other bytes of a log.

The bytes before a report and behind it may be of any encoding and of none.  A
sequence that breaks off before the report does not reach into it, and what
follows the report cannot reach back, because the report is text of its own.
The bytes before do not have the anchor, so neither has what they decode to, and
the log is read from the report on.  There every marker keeps the value that it
has in the report, provided that its terminator stands somewhere behind it in
the report itself.  A value that the report leaves open runs on into what
follows.
-/
import SimReport.Proofs.ExecutionReport.Scraping
import SimReport.Proofs.FileSystem.Resolve
import SimReport.Proofs.Run.Collection
import SimReport.Proofs.Text.Utf8

namespace SimReport

/-! ## Closed values -/

namespace Marker

/-- The marker occurs in the report with its terminator somewhere behind it. -/
def Closed (marker : Marker) (report : Text) : Prop :=
  ∃ before after, report = before ++ (marker.text ++ after) ∧ marker.terminator ∈ after

/-- If any occurrence is closed, then so is the first. -/
theorem Closed.first {marker : Marker} {report : Text} (h : marker.Closed report) :
    ∃ found, report.seek? marker.text = some found ∧
      marker.terminator ∈ found.drop marker.text.length := by
  obtain ⟨before, after, rfl, hterm⟩ := h
  have hstart : marker.text <+: marker.text ++ after := List.prefix_append _ _
  obtain ⟨found, hfound, hsuffix⟩ := Text.seek?_of_occurrence hstart before
  refine ⟨found, hfound, ?_⟩
  have hafter : after <:+ found := (List.suffix_append _ _).trans hsuffix
  have hlength : after.length ≤ (found.drop marker.text.length).length := by
    have := hsuffix.length_le
    rw [List.length_append] at this
    rw [List.length_drop]
    omega
  exact (List.suffix_of_suffix_length_le hafter (List.drop_suffix _ found) hlength).subset hterm

theorem Closed.of_first {marker : Marker} {report found : Text}
    (h : report.seek? marker.text = some found)
    (hterm : marker.terminator ∈ found.drop marker.text.length) : marker.Closed report := by
  obtain ⟨⟨after, rfl⟩, before, rfl⟩ := Text.seek?_sound h
  rw [List.drop_left] at hterm
  exact ⟨before, after, rfl, hterm⟩

instance (marker : Marker) (report : Text) : Decidable (marker.Closed report) :=
  match h : report.seek? marker.text with
  | none => .isFalse fun hc => by
    obtain ⟨found, hfound, -⟩ := hc.first
    rw [h] at hfound
    cases hfound
  | some found =>
    decidable_of_iff (marker.terminator ∈ found.drop marker.text.length)
      ⟨Closed.of_first h, fun hc => by
        obtain ⟨other, hother, hterm⟩ := hc.first
        rw [h] at hother
        cases hother
        exact hterm⟩

theorem scrape?_append_of_closed {marker : Marker} {report : Text} (h : marker.Closed report)
    (rest : Text) : marker.scrape? (report ++ rest) = marker.scrape? report := by
  obtain ⟨found, hfound, hterm⟩ := h.first
  rw [scrape?, scrape?, Text.between?_append_of_mem hfound hterm]

end Marker

/-! ## The report of a log -/

theorem replacement_not_mem_anchor : '\ufffd' ∉ Marker.anchor := by decide

/-- The report is found from its first character on, and what follows it is
decoded on its own. -/
theorem executionReport_surrounded {pre : Bytes} {report : Text}
    (hpre : ¬ Marker.anchor.toBytes <:+: pre) (hreport : Marker.anchor <+: report) (post : Bytes) :
    executionReport (Utf8.decodeLossy (pre ++ report.toBytes ++ post)) =
      report ++ Utf8.decodeLossy post := by
  have hne : report ≠ [] := by
    rintro rfl
    exact Marker.anchor_ne_nil (List.prefix_nil.mp hreport)
  have hchatter : ¬ Marker.anchor <:+: Utf8.decodeLossy pre := fun h =>
    hpre (Utf8.toBytes_infix_of_infix_decodeLossy replacement_not_mem_anchor h)
  rw [List.append_assoc, Utf8.decodeLossy_append_toBytes hne]
  exact executionReport_append hchatter (hreport.trans (List.prefix_append _ _))

namespace Metrics

theorem value_ofReport_append {marker : Marker} (hm : marker ∈ Marker.all) {report : Text}
    (h : marker.Closed report) (rest : Text) :
    (ofReport (report ++ rest)).value marker.metric =
      marker.metric.stored (marker.scrape? report) := by
  rw [value_ofReport hm, Marker.scrape?_append_of_closed h]

theorem ofReport_append {report : Text} (h : ∀ marker ∈ Marker.all, marker.Closed report)
    (rest : Text) : ofReport (report ++ rest) = ofReport report := by
  refine ext_markers fun marker hm => ?_
  rw [value_ofReport_append hm (h marker hm), value_ofReport hm]

end Metrics

/-- Whatever bytes stand around a report in a regular file that can be read, the file is recorded
with the closed values of the report. -/
theorem parseLog_surrounded (results : Results) {fs : FileSystem}
    (hdir : fs.Enterable fs.workingDirectory) {p : Path} (hfile : fs.isFile p = true)
    {pre post : Bytes} {report : Text} (hread : fs.read p = .ok (pre ++ report.toBytes ++ post))
    (hpre : ¬ Marker.anchor.toBytes <:+: pre) (hreport : Marker.anchor <+: report) :
    ∃ name metrics, p.fileName? = some name ∧
      (results.parseLog fs p).failure? = none ∧
      (results.parseLog fs p).results = results.insert ⟨Utf8.decodeLossy name, metrics⟩ ∧
      (∀ marker ∈ Marker.all, marker.Closed report →
        metrics.value marker.metric = marker.metric.stored (marker.scrape? report)) ∧
      ((∀ marker ∈ Marker.all, marker.Closed report) → metrics = .ofReport report) := by
  obtain ⟨name, hname⟩ := FileSystem.fileName?_of_isFile hdir hfile
  have hmetrics : Metrics.ofLog (Utf8.decodeLossy (pre ++ report.toBytes ++ post)) =
      .ofReport (report ++ Utf8.decodeLossy post) := by
    rw [Metrics.ofLog, executionReport_surrounded hpre hreport]
  have hlog : Log.read fs p = .ok ⟨Utf8.decodeLossy name,
      Utf8.decodeLossy (pre ++ report.toBytes ++ post)⟩ := by
    rw [Log.read, hname]
    dsimp only
    rw [hread]
  have hparse := results.parseLog_of_read hlog
  refine ⟨name, .ofReport (report ++ Utf8.decodeLossy post), hname, ?_, ?_,
    fun marker hm hclosed => Metrics.value_ofReport_append hm hclosed _,
    fun hclosed => Metrics.ofReport_append hclosed _⟩
  · rw [hparse]
  · rw [hparse, Log.row, hmetrics]

def embeddedReport : Text :=
  Text.joinWith ['\n'] <|
    ["Program exit with code: 0x1 (", "retired instructions: 12", "total CPU cycles: 9",
      "- jumps: 1 (", "- branches: 2 (", "- loads: 3 (", "- stores: 4 (",
      "- instruction fetches: 5 (", "- write requests: x (", "- read requests: 7 ("].map
      String.toList

/-- A report between a sequence that breaks off and bytes that continue one, with
another report behind them. -/
def embeddedFiles : FileSystem where
  entries := [([⟨Path.ofText "t.log".toList, by decide⟩], .file 0)]
  distinct := by decide
  file := Run.numbered
    [[0x50, 0xe2, 0x82] ++ embeddedReport.toBytes ++
      (0xac :: Text.toBytes "Program exit with code: 0 (0x0)".toList)]

theorem parseLog_embedded :
    (Results.empty.parseLog embeddedFiles (.ofText "t.log".toList)).results.rows =
      [⟨"t.log".toList, ⟨some 1, ⟨12, 9, 1, 2, 3, 4, 5, 0, 7⟩⟩⟩] := by
  have hdir : embeddedFiles.Enterable embeddedFiles.workingDirectory :=
    embeddedFiles.enterable_root
  have hfile : embeddedFiles.isFile (.ofText "t.log".toList) = true := by decide +kernel
  have hread : embeddedFiles.read (.ofText "t.log".toList) =
      .ok ([0x50, 0xe2, 0x82] ++ embeddedReport.toBytes ++
        (0xac :: Text.toBytes "Program exit with code: 0 (0x0)".toList)) := by decide +kernel
  obtain ⟨name, metrics, hname, -, hresults, -, hclosed⟩ :=
    parseLog_surrounded .empty hdir hfile hread (by decide +kernel) (by decide +kernel)
  have hfileName : Path.fileName? (.ofText "t.log".toList) =
      some (Path.ofText "t.log".toList) := by decide
  rw [hfileName] at hname
  cases hname
  rw [hresults, hclosed (by decide +kernel)]
  decide +kernel

end SimReport
