/-
The ten markers do not get into each other's way.

No end of one marker runs on into another (`apart`), none begins another, and
none begins with a character that can stand in a value.  A search for one marker
therefore passes over every other marker and over every value, and finds its own
marker behind whatever does not have it.
-/
import SimReport.Marker
import SimReport.Proofs.Text.Numeral
import SimReport.Proofs.Text.Search

namespace SimReport

/-- Characters that can stand in a value: digit signs, hexadecimal marks and blanks. -/
def Text.isFigure (c : Char) : Bool :=
  isBlank c || (Radix.hexadecimal.digit? c).isSome || c == 'x' || c == 'X'

namespace Text

theorem isFigure_of_digit? {r : Radix} (hr : r.base ≤ 16) {c : Char} (h : r.digit? c ≠ none) :
    isFigure c = true := by
  have hhex : (Radix.hexadecimal.digit? c).isSome = true :=
    Option.isSome_iff_ne_none.mpr (Radix.digit?_ne_none_of_le hr h)
  rw [isFigure, hhex, Bool.or_true, Bool.true_or, Bool.true_or]

theorem isFigure_of_mem_marksOf {r : Radix} {mark : Text} (h : mark ∈ marksOf r) :
    ∀ c ∈ mark, isFigure c = true := by
  have hall : ∀ mark ∈ ([[], ['0', 'x'], ['0', 'X']] : List Text), mark.all isFigure = true := by
    decide
  exact List.all_eq_true.mp (hall mark (mem_marks_of_mem_marksOf h))

end Text

namespace Marker

variable {m other : Marker}

theorem apart : ∀ m ∈ all, ∀ other ∈ all, Text.Apart m.text other.text := by decide

theorem eq_of_prefix_text : ∀ m ∈ all, ∀ other ∈ all, m.text <+: other.text → m = other := by
  decide

theorem eq_of_text_eq (hm : m ∈ all) (hother : other ∈ all) (h : m.text = other.text) :
    m = other :=
  eq_of_prefix_text m hm other hother (h ▸ List.prefix_refl m.text)

theorem head_text_not_isFigure (hm : m ∈ all) {c : Char} (hc : m.text.head? = some c) :
    Text.isFigure c = false := by
  have hall : ∀ m ∈ all, m.text.head?.any Text.isFigure = false := by decide
  have h := hall m hm
  rw [hc] at h
  exact h

theorem text_ne_nil : ∀ m ∈ all, m.text ≠ [] := by decide

theorem newline_not_mem_text : ∀ m ∈ all, '\n' ∉ m.text := by decide

theorem parenthesis_not_mem_text : ∀ m ∈ all, '(' ∉ m.text := by decide

theorem base_le_sixteen : ∀ m ∈ all, m.radix.base ≤ 16 := by decide

theorem terminator_eq : ∀ m ∈ all, m.terminator = '\n' ∨ m.terminator = '(' := by decide

theorem exitCode_mem_all : exitCode ∈ all := List.mem_cons_self

theorem ofCounter_mem_all (c : Counter) : ofCounter c ∈ all :=
  List.mem_cons_of_mem _ (List.mem_map_of_mem c.mem_all)

theorem anchor_ne_nil : anchor ≠ [] := text_ne_nil exitCode exitCode_mem_all

theorem ofCounter_injective : Function.Injective ofCounter := by
  intro c d h
  have hmetric := congrArg metric h
  rw [metric_ofCounter, metric_ofCounter] at hmetric
  exact Metric.counter.inj hmetric

theorem exitCode_ne_ofCounter (c : Counter) : exitCode ≠ ofCounter c := by
  intro h
  have hmetric := congrArg metric h
  rw [metric_ofCounter] at hmetric
  cases hmetric

/-! ## Searching for one marker -/

/-- The value of a marker depends on what is found for it alone. -/
theorem scrape?_congr {t u : Text} (h : t.seek? m.text = u.seek? m.text) :
    m.scrape? t = m.scrape? u := by
  rw [scrape?, scrape?, Text.between?, Text.between?, h]

theorem seek?_self (hm : m ∈ all) {a : Text} (ha : ¬ m.text <:+: a) (t : Text) :
    (a ++ (m.text ++ t)).seek? m.text = some (m.text ++ t) := by
  rw [Text.seek?_append_of_clear ha ((apart m hm m hm).clear t)]
  exact Text.seek?_of_start (List.prefix_append m.text t)

theorem seek?_other (hm : m ∈ all) (hother : other ∈ all) (hne : m ≠ other) {a : Text}
    (ha : ¬ m.text <:+: a) (t : Text) :
    (a ++ (other.text ++ t)).seek? m.text = t.seek? m.text := by
  rw [Text.seek?_append_of_clear ha ((apart m hm other hother).clear t)]
  exact Text.seek?_append_of_apart (fun h => hne (eq_of_prefix_text m hm other hother h))
    (fun h => hne (eq_of_prefix_text other hother m hm h).symm) (apart other hother m hm)

theorem seek?_figures (hm : m ∈ all) {v : Text} (hv : ∀ c ∈ v, Text.isFigure c = true) (t : Text) :
    (v ++ t).seek? m.text = t.seek? m.text := by
  refine Text.seek?_append_of_head (text_ne_nil m hm) fun c hc hhead => ?_
  have hnot := head_text_not_isFigure hm hhead
  rw [hv c hc] at hnot
  cases hnot

end Marker
end SimReport
