/-
A report is scanned marker by marker.

Each marker in turn writes its own metric, and is noted if it gives no value
(`Scan.step`).  Metrics and missing markers of a report are what one such pass
leaves (`Scan.run_eq`).  No two markers of the table have the same metric, so no
write touches what another has written: in whatever order the table is gone
through, each metric is in the end what its own marker gave, and another report
that gives the same for one marker has the same metric there (`Scan.run_table`).
-/
import SimReport.Proofs.ExecutionReport.Scraping

namespace SimReport

/-- What the markers so far have written, and which of them gave no value. -/
structure Scan where
  metrics : Metrics := {}
  missing : List Marker := []

namespace Scan

def step (report : Text) (scan : Scan) (marker : Marker) : Scan :=
  match marker.scrape? report with
  | some value => { scan with metrics := scan.metrics.record marker.metric (some value) }
  | none => ⟨scan.metrics.record marker.metric none, scan.missing ++ [marker]⟩

def run (markers : List Marker) (report : Text) : Scan := markers.foldl (step report) {}

variable (report : Text)

theorem run_concat (markers : List Marker) (marker : Marker) :
    run (markers ++ [marker]) report = (run markers report).step report marker :=
  List.foldl_append

/-- The scan records the metrics and lists the markers without a value. -/
theorem run_eq (markers : List Marker) :
    run markers report = ⟨.ofMarkers markers report,
      markers.filter fun marker => (marker.scrape? report).isNone⟩ := by
  induction markers using List.reverseRecOn with
  | nil => rfl
  | append_singleton markers marker ih =>
    rw [run_concat, ih, step, Metrics.ofMarkers, Metrics.ofMarkers, List.foldl_append,
      List.filter_append]
    cases h : marker.scrape? report with
    | none => simp [h]
    | some value => simp [h]

end Scan

/-- In whatever order the markers are gone through, the exit code is what its marker gives, and each
counter is what its own gives, or zero.  A metric is thus decided by one marker alone.  The markers
noted are, in table order, those that give no value. -/
theorem Scan.run_table (report : Text) :
    (∀ markers, markers.Perm Marker.all → Metrics.ofMarkers markers report = .ofReport report) ∧
    (Metrics.ofReport report).exitCode = Marker.exitCode.scrape? report ∧
    (∀ c, (Metrics.ofReport report).counters.get c =
      ((Marker.ofCounter c).scrape? report).getD 0) ∧
    (∀ other, ∀ marker ∈ Marker.all, marker.scrape? other = marker.scrape? report →
      (Metrics.ofReport other).value marker.metric =
        (Metrics.ofReport report).value marker.metric) ∧
    (∀ markers, (run markers report).metrics = .ofMarkers markers report) ∧
    (run Marker.all report).missing = missingMarkers report ∧
    (run Marker.all report).missing =
      Marker.all.filter fun marker => (marker.scrape? report).isNone := by
  refine ⟨fun markers h => Metrics.ofMarkers_perm h report, Metrics.exitCode_ofReport report,
    fun c => Metrics.get_counters_ofReport c report, fun other marker hmarker hsame => ?_,
    fun markers => ?_, ?_, ?_⟩
  · rw [Metrics.value_ofReport hmarker, Metrics.value_ofReport hmarker, hsame]
  · rw [run_eq]
  · rw [run_eq]
    rfl
  · rw [run_eq]

/-- The table the other way round, and a report that agrees on the loads alone.  Only the order of
the markers that are noted is another. -/
theorem Scan.run_reversed :
    let report : Text := "Program exit with code: 1F (x)\n- loads: 7 (a)\n- stores: lots (b)".toList
    let other : Text := "- stores: 5 (\n- loads:\n +007(".toList
    let loads := Marker.ofCounter .loads
    Marker.all.reverse.Perm Marker.all ∧
      Metrics.ofMarkers Marker.all.reverse report = .ofReport report ∧
      Metrics.ofReport report = { exitCode := some 0x1f, counters := { loads := 7 } } ∧
      loads ∈ Marker.all ∧ loads.scrape? other = loads.scrape? report ∧
      (Metrics.ofReport other).value loads.metric = (Metrics.ofReport report).value loads.metric ∧
      (run Marker.all.reverse report).missing = (run Marker.all report).missing.reverse := by
  intro report other loads
  obtain ⟨hperm, -, -, hsame, -⟩ := run_table report
  have hmem : loads ∈ Marker.all := Marker.ofCounter_mem_all .loads
  have hloads : loads.scrape? other = loads.scrape? report := by decide +kernel
  exact ⟨List.reverse_perm Marker.all, hperm _ (List.reverse_perm Marker.all), by decide +kernel,
    hmem, hloads, hsame other loads hmem hloads, by decide +kernel⟩

end SimReport
