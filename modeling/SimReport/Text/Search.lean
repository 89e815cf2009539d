/-
The first occurrence of a marker in a text, and the value that follows it.
-/
import SimReport.Text

namespace SimReport
namespace Text

/-- What remains of the text from the first occurrence of `marker` on. -/
def seek? (t marker : Text) : Option Text :=
  match t with
  | [] => if marker.isPrefixOf [] then some [] else none
  | c :: rest => if marker.isPrefixOf (c :: rest) then some (c :: rest) else seek? rest marker

/-- The text between the first occurrence of `marker` and the next `terminator`.
Without a terminator the value runs to the end. -/
def between? (t marker : Text) (terminator : Char) : Option Text :=
  (t.seek? marker).map fun found => (found.drop marker.length).takeWhile (· != terminator)

theorem seek?_of_start {marker t : Text} (h : marker <+: t) : t.seek? marker = some t := by
  cases t <;> simp [seek?, List.isPrefixOf_iff_prefix, h]

theorem seek?_cons_of_not_start {marker t : Text} {c : Char} (h : ¬ marker <+: c :: t) :
    seek? (c :: t) marker = t.seek? marker := by
  simp [seek?, List.isPrefixOf_iff_prefix, h]

/-- What is found is a suffix that begins with the marker. -/
theorem seek?_sound {marker t found : Text} (h : t.seek? marker = some found) :
    marker <+: found ∧ found <:+ t := by
  induction t with
  | nil =>
    rw [seek?] at h
    split at h
    · next hp => cases h; exact ⟨List.isPrefixOf_iff_prefix.mp hp, List.suffix_refl []⟩
    · cases h
  | cons c t ih =>
    rw [seek?] at h
    split at h
    · next hp => cases h; exact ⟨List.isPrefixOf_iff_prefix.mp hp, List.suffix_refl _⟩
    · exact ⟨(ih h).1, (ih h).2.trans (List.suffix_cons c t)⟩

theorem seek?_eq_none_iff {marker t : Text} : t.seek? marker = none ↔ ¬ marker <:+: t := by
  induction t with
  | nil => cases marker <;> simp [seek?]
  | cons c t ih =>
    by_cases hp : marker <+: c :: t
    · simp [seek?_of_start hp, hp.isInfix]
    · rw [seek?_cons_of_not_start hp, ih, List.infix_cons_iff]
      simp [hp]

end Text
end SimReport
