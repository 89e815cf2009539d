/-
The spellings of options, and how each of them is read.

A spelling carries what makes it well formed.  It is read by making its choices,
and reading goes on behind it (`reads_words_append`).  Conversely, arguments that
are read to their end begin with a spelling, if any option is left
(`exists_words_append`).
-/
import SimReport.Proofs.CommandLine.Argument

namespace SimReport

/-- The setting's name as an argument. -/
def Setting.flag : Setting → Bytes
  | .suite => Text.toBytes "--suite".toList
  | .path => Text.toBytes "--path".toList

theorem Setting.flag_eq (s : Setting) :
    s.flag = CommandLine.dash :: CommandLine.dash :: (CommandOption.setting s).name.toBytes := by
  cases s <;> rfl

/-- The switch's name as an argument. -/
def Switch.flag : Switch → Bytes
  | .noColor => Text.toBytes "--no-color".toList
  | .verbose => Text.toBytes "--verbose".toList

theorem Switch.flag_eq (s : Switch) :
    s.flag = CommandLine.dash :: CommandLine.dash :: (CommandOption.switch s).name.toBytes := by
  cases s <;> rfl

namespace CommandLine

/-- How an option is spelled.  In front of a letter, the letter of `verbose` may
stand in the same argument: then the option is `led`. -/
inductive Spelling
  | name (s : Setting) (value : Bytes) (alone : StandsAlone value)
  | nameEquals (s : Setting) (value : Bytes)
  | letter (led : Bool) (s : Setting) (value : Bytes) (alone : StandsAlone value)
  | letterEquals (led : Bool) (s : Setting) (value : Bytes)
  | letterJoined (led : Bool) (s : Setting) (value : Bytes) (adjoins : Adjoins value)
  | switchName (s : Switch)
  | verboseLetter

/-- The dash before a letter, with the letter of `verbose` if that leads. -/
def lead (led : Bool) : Bytes := if led then [dash, loud] else [dash]

namespace Spelling

/-- The arguments that are written. -/
def words : Spelling → List Bytes
  | name s value _ => [s.flag, value]
  | nameEquals s value => [s.flag ++ equals :: value]
  | letter led s value _ => [lead led ++ [s.letter], value]
  | letterEquals led s value => [lead led ++ s.letter :: equals :: value]
  | letterJoined led s value _ => [lead led ++ s.letter :: value]
  | switchName s => [s.flag]
  | verboseLetter => [[dash, loud]]

def leading (led : Bool) : List Choice := if led then [.switch .verbose] else []

/-- The choices that are meant. -/
def choices : Spelling → List Choice
  | name s value _ => [.setting s value]
  | nameEquals s value => [.setting s value]
  | letter led s value _ => leading led ++ [.setting s value]
  | letterEquals led s value => leading led ++ [.setting s value]
  | letterJoined led s value _ => leading led ++ [.setting s value]
  | switchName s => [.switch s]
  | verboseLetter => [.switch .verbose]

theorem words_ne_nil (sp : Spelling) : sp.words ≠ [] := by
  cases sp <;> simp [words]

end Spelling

variable {p q r : Progress} {a : Arguments} {arguments rest : List Bytes} {body letters : Bytes}

/-- The letter of `verbose` in front of another is a choice made before. -/
theorem reads_lead (h : p.pending = none) (led : Bool) (s : Setting) :
    Reads p ((lead led ++ s.letter :: letters) :: rest) a ↔
      ∃ q, p.makeAll (Spelling.leading led) = .ok q ∧
        ∃ r, readLetters q (s.letter :: letters) = .ok r ∧ Reads r rest a := by
  cases led with
  | false =>
    refine (reads_letters s.letter_ne).trans ?_
    show _ ↔ ∃ q, Except.ok p = .ok q ∧ _
    simp
  | true =>
    refine (reads_letters (by decide : loud ≠ dash)).trans ?_
    show _ ↔ ∃ q, p.makeAll [.switch .verbose] = .ok q ∧ _
    rw [Progress.makeAll_singleton, readLetters_verbose, Progress.take_switch h]
    exact exists_bind_eq_ok

/-- A setting's letter makes the setting's choice after those in front of it. -/
theorem reads_lead_of_letters (h : p.pending = none) {led : Bool} {s : Setting} {c : Choice}
    (hletters : ∀ q, q.pending = none →
      ((∃ r, readLetters q (s.letter :: letters) = .ok r ∧ Reads r arguments a) ↔
        ∃ r, q.make c = .ok r ∧ Reads r rest a)) :
    Reads p ((lead led ++ s.letter :: letters) :: arguments) a ↔
      ∃ q, p.makeAll (Spelling.leading led ++ [c]) = .ok q ∧ Reads q rest a := by
  rw [reads_lead h, Progress.makeAll_append, exists_bind_eq_ok]
  refine exists_congr fun q => and_congr_right fun hq => ?_
  rw [Progress.makeAll_singleton]
  exact hletters q ((Progress.pending_makeAll hq).trans h)

/-- A spelling is read by making its choices. -/
theorem reads_words_append (h : p.pending = none) (sp : Spelling) :
    Reads p (sp.words ++ rest) a ↔ ∃ q, p.makeAll sp.choices = .ok q ∧ Reads q rest a := by
  cases sp with
  | name s value alone =>
    show Reads p (s.flag :: value :: rest) a ↔ _
    rw [s.flag_eq, reads_long (CommandOption.name_ne_nil _), readLong_name,
      Progress.take_await h, Spelling.choices, Progress.makeAll_singleton,
      ← reads_await h s alone]
    simp
  | nameEquals s value =>
    show Reads p ((s.flag ++ equals :: value) :: rest) a ↔ _
    rw [s.flag_eq, List.cons_append, List.cons_append, reads_long (by simp), readLong_equals,
      Progress.take_value h, Spelling.choices, Progress.makeAll_singleton]
  | letter led s value alone =>
    refine reads_lead_of_letters h fun q hq => ?_
    rw [readLetters_setting, Progress.take_await hq, ← reads_await hq s alone]
    simp
  | letterEquals led s value =>
    refine reads_lead_of_letters h fun q hq => ?_
    rw [readLetters_equals, Progress.take_value hq]
    exact Iff.rfl
  | letterJoined led s value adjoins =>
    refine reads_lead_of_letters h fun q hq => ?_
    rw [readLetters_joined q s adjoins, Progress.take_value hq]
    exact Iff.rfl
  | switchName s =>
    show Reads p (s.flag :: rest) a ↔ _
    rw [s.flag_eq, reads_long (CommandOption.name_ne_nil _), readLong_name,
      Progress.take_switch h, Spelling.choices, Progress.makeAll_singleton]
  | verboseLetter =>
    have hread : readLetters p [loud] = p.make (.switch .verbose) := by
      rw [readLetters_verbose, Progress.take_switch h]
      exact bind_pure _
    refine (reads_letters (by decide : loud ≠ dash)).trans ?_
    rw [hread, Spelling.choices, Progress.makeAll_singleton]
    exact Iff.rfl

/-- Behind a setting's letter stands its value, or in the next argument. -/
theorem exists_words_append_of_letter (h : p.pending = none) (led : Bool) {s : Setting}
    (hq : readLetters p (s.letter :: letters) = .ok q) (hrest : Reads q arguments a) :
    ∃ (sp : Spelling) (rest : List Bytes),
      (lead led ++ s.letter :: letters) :: arguments = sp.words ++ rest := by
  obtain rfl | ⟨value, rfl⟩ | hadjoins := letters_cases letters
  · rw [readLetters_setting, Progress.take_await h] at hq
    cases hq
    obtain ⟨value, rest, rfl, halone⟩ := of_reads_await hrest
    exact ⟨.letter led s value halone, rest, rfl⟩
  · exact ⟨.letterEquals led s value, arguments, rfl⟩
  · exact ⟨.letterJoined led s letters hadjoins, arguments, rfl⟩

/-- The letter of `verbose` stands for itself or leads one setting's letter, for it
may not come twice. -/
theorem exists_words_append_of_verbose (h : p.pending = none)
    (hq : readLetters p (loud :: letters) = .ok q) (hrest : Reads q arguments a) :
    ∃ (sp : Spelling) (rest : List Bytes),
      (dash :: loud :: letters) :: arguments = sp.words ++ rest := by
  rw [readLetters_verbose, Progress.take_switch h] at hq
  obtain ⟨r, hr, hq⟩ := bind_eq_ok.mp hq
  obtain ⟨hfresh, hallowed, rfl⟩ := Progress.make_eq_ok_iff.mp hr
  have hpending : (p.add (.switch .verbose)).pending = none := (p.pending_add _).trans h
  cases letters with
  | nil => exact ⟨.verboseLetter, arguments, rfl⟩
  | cons c letters =>
    obtain ⟨s, rfl⟩ | rfl := of_readLetters hq
    · exact exists_words_append_of_letter hpending true hq hrest
    · rw [readLetters_verbose, Progress.take_switch hpending] at hq
      obtain ⟨r, hr, -⟩ := bind_eq_ok.mp hq
      exact absurd (Progress.chose_add hallowed hfresh) (Progress.make_eq_ok_iff.mp hr).1

/-- Arguments that are read to their end begin with a spelling, if any option is left. -/
theorem exists_words_append (h : p.pending = none) (hreads : Reads p arguments a) :
    arguments = [] ∨ arguments = [closing] ∨
      ∃ (sp : Spelling) (rest : List Bytes), arguments = sp.words ++ rest := by
  cases form arguments with
  | done => exact Or.inl rfl
  | closed => exact Or.inr (Or.inl rfl)
  | beyond argument rest => exact absurd hreads (not_reads_beyond argument)
  | long body rest hbody =>
    right; right
    obtain ⟨q, hq, hrest⟩ := (reads_long hbody).mp hreads
    obtain ⟨s, rfl⟩ | ⟨s, value, rfl⟩ | ⟨s, rfl⟩ := of_readLong hq
    · rw [readLong_name, Progress.take_await h] at hq
      cases hq
      obtain ⟨value, rest, rfl, halone⟩ := of_reads_await hrest
      exact ⟨.name s value halone, rest, by rw [Spelling.words, s.flag_eq]; rfl⟩
    · exact ⟨.nameEquals s value, rest, by rw [Spelling.words, s.flag_eq]; rfl⟩
    · exact ⟨.switchName s, rest, by rw [Spelling.words, s.flag_eq]; rfl⟩
  | letters b letters rest hb =>
    right; right
    obtain ⟨q, hq, hrest⟩ := (reads_letters hb).mp hreads
    obtain ⟨s, rfl⟩ | rfl := of_readLetters hq
    · exact exists_words_append_of_letter h false hq hrest
    · exact exists_words_append_of_verbose h hq hrest
  | plain argument rest halone =>
    obtain ⟨q, hq, -⟩ := (reads_plain halone).mp hreads
    obtain ⟨s, hs⟩ := of_readPlain hq
    rw [h] at hs
    cases hs

end CommandLine
end SimReport