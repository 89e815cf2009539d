/-
Where the output of a report outgrows the buffer.

Up to there all that was written is held back.  So the first bytes go out in the
first row whose record takes the whole output past the buffer, or at the end if
there is none, but never in the header, which the buffer takes.
-/
import SimReport.ReportFile.Writer

namespace SimReport
namespace ReportFile

/-- The first of the rows whose record the buffer does not take behind the bytes that it holds. -/
def overflowing? (used : Nat) : List Row → Option Row
  | [] => none
  | row :: rows =>
    let total := used + Text.byteLength (Csv.encodeRecord (record row))
    if bufferSize < total then some row else overflowing? total rows

/-- What is going on when the first bytes go out. -/
def firstOutput (results : Results) : Activity :=
  match overflowing? (Csv.encodeRecord header).byteLength results.rows with
  | some row => .writeRow row.id
  | none => .flush

theorem byteLength_header : (Csv.encodeRecord header).byteLength ≤ bufferSize := by
  decide +kernel

theorem overflowing?_eq_none_iff {used : Nat} (h : used ≤ bufferSize) (rows : List Row) :
    overflowing? used rows = none ↔
      used + (Csv.encode (rows.map record)).byteLength ≤ bufferSize := by
  induction rows generalizing used with
  | nil =>
    show none = none ↔ used + 0 ≤ bufferSize
    exact ⟨fun _ => h, fun _ => rfl⟩
  | cons row rows ih =>
    rw [overflowing?, List.map_cons, Csv.encode_cons, Text.byteLength_append, ← Nat.add_assoc]
    split
    · next hover =>
      constructor
      · intro hnone
        cases hnone
      · intro hle
        omega
    · next hfits => exact ih (Nat.not_lt.mp hfits)

/-- The rows before the first that does not fit do fit, all together. -/
theorem exists_of_overflowing? {used : Nat} (h : used ≤ bufferSize) {rows : List Row} {row : Row}
    (hrow : overflowing? used rows = some row) :
    ∃ before after, rows = before ++ row :: after ∧
      used + (Csv.encode (before.map record)).byteLength ≤ bufferSize ∧
      bufferSize < used + (Csv.encode ((before ++ [row]).map record)).byteLength := by
  induction rows generalizing used with
  | nil => cases hrow
  | cons first rows ih =>
    rw [overflowing?] at hrow
    split at hrow
    · next hover =>
      cases hrow
      refine ⟨[], rows, rfl, h, ?_⟩
      rw [List.nil_append, List.map_singleton, Csv.encode_cons, Csv.encode_nil, List.append_nil]
      exact hover
    · next hfits =>
      obtain ⟨before, after, rfl, hbefore, hrow⟩ := ih (Nat.not_lt.mp hfits) hrow
      refine ⟨first :: before, after, rfl, ?_, ?_⟩
      · rw [List.map_cons, Csv.encode_cons, Text.byteLength_append, ← Nat.add_assoc]
        exact hbefore
      · rw [List.cons_append, List.map_cons, Csv.encode_cons, Text.byteLength_append,
          ← Nat.add_assoc]
        exact hrow

/-- Rows that fit are passed over. -/
theorem overflowing?_append {used : Nat} {before : List Row}
    (h : used + (Csv.encode (before.map record)).byteLength ≤ bufferSize) (rows : List Row) :
    overflowing? used (before ++ rows) =
      overflowing? (used + (Csv.encode (before.map record)).byteLength) rows := by
  induction before generalizing used with
  | nil => rfl
  | cons first before ih =>
    rw [List.map_cons, Csv.encode_cons, Text.byteLength_append, ← Nat.add_assoc] at h ⊢
    rw [List.cons_append, overflowing?, if_neg (by omega), ih h]

/-- The text is held back to the end exactly if the buffer takes all of it. -/
theorem firstOutput_eq_flush_iff (results : Results) :
    firstOutput results = .flush ↔ (text results).byteLength ≤ bufferSize := by
  have hiff := overflowing?_eq_none_iff byteLength_header results.rows
  rw [text, Csv.encode_cons, Text.byteLength_append, ← hiff, firstOutput]
  cases overflowing? (Csv.encodeRecord header).byteLength results.rows with
  | none => simp
  | some row => simp

/-- A text that does not fit first goes out in the row with which it no longer does. -/
theorem firstOutput_of_overflow {results : Results}
    (h : bufferSize < (text results).byteLength) :
    ∃ before row after, results.rows = before ++ row :: after ∧
      firstOutput results = .writeRow row.id ∧
      (Csv.encode (header :: before.map record)).byteLength ≤ bufferSize ∧
      bufferSize < (Csv.encode (header :: (before ++ [row]).map record)).byteLength := by
  have hflush := mt (firstOutput_eq_flush_iff results).mp (Nat.not_le.mpr h)
  rw [firstOutput] at hflush ⊢
  cases hover : overflowing? (Csv.encodeRecord header).byteLength results.rows with
  | none =>
    rw [hover] at hflush
    exact absurd rfl hflush
  | some row =>
    obtain ⟨before, after, hrows, hbefore, hrow⟩ :=
      exists_of_overflowing? byteLength_header hover
    refine ⟨before, row, after, hrows, rfl, ?_, ?_⟩
    · rw [Csv.encode_cons, Text.byteLength_append]
      exact hbefore
    · rw [Csv.encode_cons, Text.byteLength_append]
      exact hrow

/-- The first bytes go out in the row with which the text no longer fits. -/
theorem firstOutput_eq_writeRow {results : Results} {before after : List Row} {row : Row}
    (hrows : results.rows = before ++ row :: after)
    (hfits : (Csv.encode (header :: before.map record)).byteLength ≤ bufferSize)
    (hover : bufferSize < (Csv.encode (header :: (before ++ [row]).map record)).byteLength) :
    firstOutput results = .writeRow row.id := by
  rw [Csv.encode_cons, Text.byteLength_append] at hfits hover
  rw [List.map_append, Csv.encode_append, Text.byteLength_append, ← Nat.add_assoc,
    List.map_singleton, Csv.encode_cons, Csv.encode_nil, List.append_nil] at hover
  rw [firstOutput, hrows, overflowing?_append hfits, overflowing?, if_pos hover]

end ReportFile
end SimReport
