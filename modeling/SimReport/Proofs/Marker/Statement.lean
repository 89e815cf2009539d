/-
What a report states about a metric.

A value stands between the first occurrence of a marker and its terminator, or
the end, and is a numeral in the marker's base (`Marker.States`).  Scraping finds
exactly what is stated (`states_iff`).
-/
import SimReport.Proofs.Marker.Separation
import SimReport.Proofs.Text.Numeral.Grammar

namespace SimReport
namespace Marker

/-- A numeral of `value` stands behind the first occurrence of the marker. -/
def States (marker : Marker) (report : Text) (value : UInt64) : Prop :=
  ∃ before v after, report = before ++ (marker.text ++ (v ++ after)) ∧
    Text.NoneWithin marker.text before report ∧ marker.terminator ∉ v ∧
    (after = [] ∨ after.head? = some marker.terminator) ∧
    ∃ body numeral, Text.Trimmed v body ∧ Text.Unmarked marker.radix body numeral ∧
      Text.IsNumeral marker.radix numeral value.toNat

theorem states_iff {marker : Marker} {report : Text} {value : UInt64} :
    marker.States report value ↔ marker.scrape? report = some value := by
  rw [scrape?, Option.bind_eq_some_iff]
  simp only [Text.between?_eq_some_iff, Text.readWord?_eq_some_iff_isNumeral]
  constructor
  · rintro ⟨before, v, after, hreport, hnone, hv, hafter, hnumeral⟩
    exact ⟨v, ⟨before, after, hreport, hnone, hv, hafter⟩, hnumeral⟩
  · rintro ⟨v, ⟨before, after, hreport, hnone, hv, hafter⟩, hnumeral⟩
    exact ⟨before, v, after, hreport, hnone, hv, hafter, hnumeral⟩

end Marker
end SimReport
