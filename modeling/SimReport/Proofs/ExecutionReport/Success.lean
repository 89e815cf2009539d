/-
When a log is that of a run that succeeded.

The exit code of a log stands between its first anchor and the next parenthesis,
which may be lines away, or the end of the log: `StatesExit`.  The run succeeded
exactly if what stands there is zero, written as `IsZero` says.  Nothing else in
the log matters, and a log without an anchor states no exit code at all.
-/
import SimReport.Proofs.ExecutionReport.Anchor

namespace SimReport

namespace Text

/-- A hexadecimal numeral of zero: a mark or none, a plus sign or none, and zeros. -/
def IsZero (t : Text) : Prop :=
  ∃ mark ∈ ([[], ['0', 'x'], ['0', 'X']] : List Text), ∃ sign ∈ ([[], ['+']] : List Text),
    ∃ n, t = mark ++ (sign ++ List.replicate (n + 1) '0')

theorem zeros_iff {t : Text} :
    t ≠ [] ∧ (∀ c ∈ t, c = '0') ↔ ∃ n, t = List.replicate (n + 1) '0' := by
  constructor
  · rintro ⟨hne, hall⟩
    obtain ⟨n, hn⟩ := Nat.exists_eq_add_one.mpr (List.length_pos_iff.mpr hne)
    exact ⟨n, List.eq_replicate_iff.mpr ⟨hn, hall⟩⟩
  · rintro ⟨n, rfl⟩
    exact ⟨List.cons_ne_nil '0' _, fun c hc => List.eq_of_mem_replicate hc⟩

/-- A text is read as zero exactly if it is a numeral of zero with blanks around it. -/
theorem readWord?_eq_zero_iff {t : Text} :
    readWord? .hexadecimal t = some 0 ↔ IsZero (trim t) := by
  rw [readWord?_eq_some_iff]
  show (∃ mark ∈ ([[], ['0', 'x'], ['0', 'X']] : List Text), ∃ sign ∈ ([[], ['+']] : List Text),
    ∃ digits, digits ≠ [] ∧ trim t = mark ++ (sign ++ digits) ∧
      digitsValue? .hexadecimal digits = some 0) ↔ _
  constructor
  · rintro ⟨mark, hmark, sign, hsign, digits, hne, htrim, hvalue⟩
    obtain ⟨n, rfl⟩ := zeros_iff.mp ⟨hne, digitsValue?_eq_zero_iff.mp hvalue⟩
    exact ⟨mark, hmark, sign, hsign, n, htrim⟩
  · rintro ⟨mark, hmark, sign, hsign, n, htrim⟩
    obtain ⟨hne, hall⟩ := zeros_iff.mpr ⟨n, rfl⟩
    exact ⟨mark, hmark, sign, hsign, _, hne, htrim, digitsValue?_eq_zero_iff.mpr hall⟩

end Text

/-- `v` stands between the first anchor of a log and the next parenthesis or the end. -/
def StatesExit (log v : Text) : Prop :=
  ∃ before after, log = before ++ (Marker.anchor ++ (v ++ after)) ∧
    Text.NoneWithin Marker.anchor before log ∧ '(' ∉ v ∧
      (after = [] ∨ after.head? = some '(')

theorem statesExit_iff {log v : Text} :
    StatesExit log v ↔ log.between? Marker.anchor '(' = some v :=
  Text.between?_eq_some_iff.symm

namespace Metrics

/-- The exit code is read from the log itself, since the report begins with its marker. -/
theorem exitCode_ofLog (log : Text) :
    (ofLog log).exitCode =
      (log.between? Marker.anchor '(').bind (Text.readWord? .hexadecimal) := by
  have hvalue := value_ofReport Marker.exitCode_mem_all (executionReport log)
  rw [scrape?_exitCode_executionReport] at hvalue
  exact hvalue

theorem exitCode_of_statesExit {log v : Text} (h : StatesExit log v) :
    (ofLog log).exitCode = Text.readWord? .hexadecimal v := by
  rw [exitCode_ofLog, statesExit_iff.mp h, Option.bind_some]

theorem exitCode_of_not_anchor {log : Text} (h : ¬ Marker.anchor <:+: log) :
    (ofLog log).exitCode = none := by
  rw [exitCode_ofLog, Text.between?, Text.seek?_eq_none_iff.mpr h]
  rfl

/-- A log is that of a run that succeeded exactly if it states zero behind its first anchor, so two
logs that state the same there agree, and a log without an anchor is that of a failure. -/
theorem succeeded_ofLog (log : Text) :
    ((ofLog log).succeeded = true ↔ ∃ v, StatesExit log v ∧ Text.IsZero v.trim) ∧
    (∀ other v, StatesExit log v → StatesExit other v →
      (ofLog log).succeeded = (ofLog other).succeeded) ∧
    (¬ Marker.anchor <:+: log → (ofLog log).succeeded = false) := by
  refine ⟨?_, fun other v hlog hother => ?_, fun h => ?_⟩
  · rw [succeeded_iff, exitCode_ofLog, Option.bind_eq_some_iff]
    simp only [statesExit_iff, Text.readWord?_eq_zero_iff]
  · rw [succeeded, succeeded, exitCode_of_statesExit hlog, exitCode_of_statesExit hother]
  · rw [succeeded, exitCode_of_not_anchor h]
    rfl

/-- Two logs that state zero over several lines, the second of them up to its end, and one that
breaks off within its anchor. -/
theorem succeeded_broken_lines :
    let log : Text := "boot\nProgram exit with code: \n 0X+00\r\n(0x1)".toList
    let other : Text := "Program exit with code: \n 0X+00\r\n".toList
    (ofLog log).succeeded = true ∧ (ofLog log).succeeded = (ofLog other).succeeded ∧
      (ofLog "Program exit with code:".toList).succeeded = false := by
  intro log other
  obtain ⟨hsucceeded, hagree, -⟩ := succeeded_ofLog log
  obtain ⟨-, -, hfailed⟩ := succeeded_ofLog "Program exit with code:".toList
  have hlog : StatesExit log "\n 0X+00\r\n".toList := statesExit_iff.mpr (by decide)
  have hother : StatesExit other "\n 0X+00\r\n".toList := statesExit_iff.mpr (by decide)
  refine ⟨hsucceeded.mpr ⟨_, hlog, ['0', 'X'], by simp, ['+'], by simp, 1, by decide⟩,
    hagree other _ hlog hother, hfailed (by decide)⟩

end Metrics
end SimReport
