/-
The grammar of the command line.

Arguments ask for something if they are the spellings of options, in any order,
that together make each choice asked for just once, and if two dashes stand at most
at their end.  They are read exactly then, and what is read is what they ask for
(`read_grammar`).  The grammar is thereby unambiguous: no vector asks for two things.
-/
import SimReport.Proofs.CommandLine.Spelling

namespace SimReport
namespace CommandLine

variable {p : Progress} {a : Arguments} {arguments : List Bytes} {options : List Spelling}

/-- Options as they are written one behind the other, with the two dashes at the end
if these close them. -/
def written (options : List Spelling) (closed : Bool) : List Bytes :=
  options.flatMap Spelling.words ++ if closed then [closing] else []

/-- The choices of options in their order. -/
def chosen (options : List Spelling) : List Choice := options.flatMap Spelling.choices

/-- The arguments are options that make the choices for `a`, each once and no others, in
any order.  A path is given, so it is not empty. -/
def AsksFor (arguments : List Bytes) (a : Arguments) : Prop :=
  ∃ options closed, arguments = written options closed ∧
    (chosen options).Perm a.choices ∧ a.path ≠ []

theorem reads_written (h : p.pending = none) (options : List Spelling) (closed : Bool) :
    Reads p (written options closed) a ↔
      ∃ q, p.makeAll (chosen options) = .ok q ∧ q.finish = .ok a := by
  induction options generalizing p with
  | nil =>
    have hend : Reads p (written [] closed) a ↔ p.finish = .ok a := by
      cases closed
      · exact reads_nil
      · exact reads_closing
    rw [hend]
    show _ ↔ ∃ q, Except.ok p = .ok q ∧ _
    simp
  | cons sp options ih =>
    have hwords : written (sp :: options) closed = sp.words ++ written options closed :=
      List.append_assoc _ _ _
    rw [hwords, reads_words_append h]
    show _ ↔ ∃ q, p.makeAll (sp.choices ++ chosen options) = .ok q ∧ _
    rw [Progress.makeAll_append, exists_bind_eq_ok]
    refine exists_congr fun r => and_congr_right fun hr => ?_
    exact ih ((Progress.pending_makeAll hr).trans h)

/-- Spellings are taken off the front one by one, so this goes by the number of arguments. -/
theorem exists_written (h : p.pending = none) (hreads : Reads p arguments a) :
    ∃ options closed, arguments = written options closed := by
  induction hn : arguments.length using Nat.strong_induction_on generalizing p arguments with
  | _ n ih =>
    obtain rfl | rfl | ⟨sp, rest, rfl⟩ := exists_words_append h hreads
    · exact ⟨[], false, rfl⟩
    · exact ⟨[], true, rfl⟩
    · obtain ⟨q, hq, hrest⟩ := (reads_words_append h sp).mp hreads
      have hshorter : rest.length < n := by
        have := List.length_pos_iff.mpr sp.words_ne_nil
        rw [List.length_append] at hn
        omega
      obtain ⟨options, closed, rfl⟩ :=
        ih _ hshorter ((Progress.pending_makeAll hq).trans h) hrest rfl
      exact ⟨sp :: options, closed, (List.append_assoc _ _ _).symm⟩

theorem read_written (options : List Spelling) (closed : Bool) :
    read (written options closed) = .ok a ↔ (chosen options).Perm a.choices ∧ a.path ≠ [] := by
  rw [read_eq_ok, reads_written rfl, Progress.makeAll_finish_iff]

theorem read_eq_ok_iff : read arguments = .ok a ↔ AsksFor arguments a := by
  constructor
  · intro h
    obtain ⟨options, closed, rfl⟩ := exists_written rfl (read_eq_ok.mp h)
    exact ⟨options, closed, rfl, (read_written options closed).mp h⟩
  · rintro ⟨options, closed, rfl, hasked⟩
    exact (read_written options closed).mpr hasked

/-- The command line accepts its grammar and nothing else.  Whatever the program is called,
the arguments behind its name are read as `a` exactly if they ask for `a`; every suite and
every path but the empty one, text or not, can be asked for; and the order of options does
not matter. -/
theorem read_grammar :
    (∀ (program : Bytes) (arguments : List Bytes) (a : Arguments),
      read (program :: arguments).tail = .ok a ↔ AsksFor arguments a) ∧
    (∀ (suite : Text) (path : Path), path ≠ [] →
      read [Text.toBytes "--suite=".toList ++ suite.toBytes,
          Text.toBytes "--path=".toList ++ path] = .ok ⟨suite, path, false, false⟩) ∧
    (∀ (options options' : List Spelling) (closed : Bool) (a : Arguments),
      options.Perm options' →
        (read (written options closed) = .ok a ↔ read (written options' closed) = .ok a)) := by
  refine ⟨fun _ arguments a => read_eq_ok_iff, fun suite path hpath => ?_, ?_⟩
  · have hwritten : [Text.toBytes "--suite=".toList ++ suite.toBytes,
          Text.toBytes "--path=".toList ++ path] =
        written [.nameEquals .suite suite.toBytes, .nameEquals .path path] false := rfl
    rw [hwritten, read_written]
    exact ⟨List.Perm.refl _, hpath⟩
  · intro options options' closed a hperm
    rw [read_written, read_written]
    have hchosen : (chosen options).Perm (chosen options') := hperm.flatMap_right _
    rw [hchosen.congr_left a.choices]

/-- The letter of `verbose` in front, values that look like options, a path that is no text,
and two dashes. -/
theorem read_led_closed :
    read (["bench-report", "-vs", "-", "--path=--help", "--no-color", "--"].map
        fun argument => Text.toBytes argument.toList).tail =
        .ok ⟨"-".toList, .ofText "--help".toList, true, true⟩ ∧
      read [Text.toBytes "--suite=".toList ++ Text.toBytes [],
          Text.toBytes "--path=".toList ++ [dash, 0xff]] = .ok ⟨[], [dash, 0xff], false, false⟩ ∧
      (read (written [.nameEquals .path [equals], .letterJoined false .suite [dash] (by decide)]
            true) = .ok ⟨['-'], [equals], false, false⟩ ↔
        read (written [.letterJoined false .suite [dash] (by decide), .nameEquals .path [equals]]
            true) = .ok ⟨['-'], [equals], false, false⟩) :=
  ⟨(read_grammar.1 (Text.toBytes "bench-report".toList) _ _).mpr
      ⟨[.letter true .suite [dash] (by decide),
        .nameEquals .path (Text.toBytes "--help".toList), .switchName .noColor], true, rfl,
        by decide, by decide⟩,
    read_grammar.2.1 [] [dash, 0xff] (by decide),
    read_grammar.2.2 _ _ true _ (List.Perm.swap _ _ _)⟩

end CommandLine
end SimReport
