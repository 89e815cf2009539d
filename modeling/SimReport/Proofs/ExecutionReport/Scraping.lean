/-
The metrics of a report, marker by marker.

Recording what one marker gave changes one metric alone, so after any list of
markers with different metrics each metric holds what its own marker gave
(`value_ofMarkers`), whatever the others gave and in whatever order they were
recorded.
-/
import SimReport.ExecutionReport
import SimReport.Proofs.Marker.Separation

namespace SimReport

/-- What is stored for a metric whose marker gave `value`. -/
def Metric.stored : Metric → Option UInt64 → Option UInt64
  | .exitCode, value => value
  | .counter _, value => some (value.getD 0)

namespace Metrics

/-- The ten values of a report, each under its metric. -/
def value (m : Metrics) : Metric → Option UInt64
  | .exitCode => m.exitCode
  | .counter c => some (m.counters.get c)

theorem ext_value {a b : Metrics} (h : ∀ metric, a.value metric = b.value metric) : a = b := by
  have hcode : a.exitCode = b.exitCode := h .exitCode
  have hcounters : a.counters = b.counters :=
    Counters.ext_get fun c => Option.some.inj (h (.counter c))
  cases a
  cases b
  rw [Metrics.mk.injEq]
  exact ⟨hcode, hcounters⟩

theorem ext_markers {a b : Metrics}
    (h : ∀ marker ∈ Marker.all, a.value marker.metric = b.value marker.metric) : a = b := by
  refine ext_value fun metric => ?_
  cases metric with
  | exitCode => exact h Marker.exitCode Marker.exitCode_mem_all
  | counter c =>
    have hc := h (Marker.ofCounter c) (Marker.ofCounter_mem_all c)
    rw [Marker.metric_ofCounter] at hc
    exact hc

theorem value_record (m : Metrics) (metric other : Metric) (value : Option UInt64) :
    (m.record metric value).value other =
      if other = metric then metric.stored value else m.value other := by
  cases metric with
  | exitCode => cases other <;> rfl
  | counter c =>
    cases other with
    | exitCode => rfl
    | counter d =>
      show some ((m.counters.set c (value.getD 0)).get d) = _
      rw [Counters.get_set]
      by_cases hd : d = c
      · rw [if_pos hd, if_pos (congrArg Metric.counter hd)]
        rfl
      · rw [if_neg hd, if_neg fun h => hd (Metric.counter.inj h)]
        rfl

theorem value_foldl_record {markers : List Marker} {metric : Metric}
    (h : metric ∉ markers.map Marker.metric) (m : Metrics) (report : Text) :
    (markers.foldl (fun m marker => m.record marker.metric (marker.scrape? report)) m).value
      metric = m.value metric := by
  induction markers generalizing m with
  | nil => rfl
  | cons marker markers ih =>
    rw [List.map_cons, List.mem_cons, not_or] at h
    rw [List.foldl_cons, ih h.2, value_record, if_neg h.1]

theorem value_ofMarkers {markers : List Marker} (hn : (markers.map Marker.metric).Nodup)
    {marker : Marker} (hm : marker ∈ markers) (report : Text) :
    (ofMarkers markers report).value marker.metric =
      marker.metric.stored (marker.scrape? report) := by
  obtain ⟨before, after, rfl⟩ := List.append_of_mem hm
  rw [List.map_append, List.map_cons, List.nodup_append] at hn
  have hafter : marker.metric ∉ after.map Marker.metric := (List.nodup_cons.mp hn.2.1).1
  rw [ofMarkers, List.foldl_append, List.foldl_cons, value_foldl_record hafter, value_record,
    if_pos rfl]

theorem value_ofReport {marker : Marker} (hm : marker ∈ Marker.all) (report : Text) :
    (ofReport report).value marker.metric = marker.metric.stored (marker.scrape? report) :=
  value_ofMarkers Marker.nodup_metrics hm report

theorem exitCode_ofReport (report : Text) :
    (ofReport report).exitCode = Marker.exitCode.scrape? report :=
  value_ofReport Marker.exitCode_mem_all report

theorem get_counters_ofReport (c : Counter) (report : Text) :
    (ofReport report).counters.get c = ((Marker.ofCounter c).scrape? report).getD 0 := by
  have h := value_ofReport (Marker.ofCounter_mem_all c) report
  rw [Marker.metric_ofCounter] at h
  exact Option.some.inj h

/-- The order of a table does not matter if its markers have different metrics. -/
theorem ofMarkers_perm {markers : List Marker} (h : markers.Perm Marker.all) (report : Text) :
    ofMarkers markers report = ofReport report := by
  have hnodup : (markers.map Marker.metric).Nodup :=
    (h.map Marker.metric).nodup_iff.mpr Marker.nodup_metrics
  refine ext_markers fun marker hmarker => ?_
  rw [value_ofMarkers hnodup (h.mem_iff.mpr hmarker), value_ofReport hmarker]

end Metrics

/-- The report begins at the first anchor. -/
theorem executionReport_append {pre report : Text} (hpre : ¬ Marker.anchor <:+: pre)
    (hreport : Marker.anchor <+: report) : executionReport (pre ++ report) = report := by
  obtain ⟨t, rfl⟩ := hreport
  have h : (pre ++ (Marker.anchor ++ t)).seek? Marker.anchor = some (Marker.anchor ++ t) :=
    Marker.seek?_self Marker.exitCode_mem_all hpre t
  rw [executionReport, h, Option.getD_some]

end SimReport
