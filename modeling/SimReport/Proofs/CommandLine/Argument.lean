/-
How arguments are read, one at a time.

The next argument has one of a few forms (`form`), and each form has its reader.
Whatever option is taken, the value seen before it is settled first, so that it does
not matter whether this happens before its argument is left or after (`reads_settle`);
and a setting that waits takes the next argument as its value (`reads_await`).
-/
import Mathlib.Data.List.TakeWhile
import SimReport.Proofs.CommandLine.Choice

namespace SimReport

namespace Setting

def letter : Setting → UInt8
  | .suite => 's'.toUInt8
  | .path => 'p'.toUInt8

theorem letter_ne (s : Setting) : s.letter ≠ CommandLine.dash := by
  cases s <;> decide

end Setting

namespace CommandOption

theorem mem_all (o : CommandOption) : o ∈ all := by
  rcases o with s | s | q
  · cases s <;> decide
  · cases s <;> decide
  · cases q <;> decide

theorem name_ne_nil (o : CommandOption) : o.name.toBytes ≠ [] := by
  have h : ∀ o ∈ all, o.name.toBytes ≠ [] := by decide
  exact h o o.mem_all

theorem ne_equals_of_mem_name (o : CommandOption) :
    ∀ b ∈ o.name.toBytes, (b != CommandLine.equals) = true := by
  have h : ∀ o ∈ all, CommandLine.equals ∉ o.name.toBytes := by decide
  intro b hb
  exact bne_iff_ne.mpr fun e => h o o.mem_all (e ▸ hb)

theorem ofName?_name (o : CommandOption) : ofName? o.name.toBytes = some o := by
  have h : ∀ o ∈ all, ofName? o.name.toBytes = some o := by decide
  exact h o o.mem_all

theorem name_of_ofName? {name : Bytes} {o : CommandOption} (h : ofName? name = some o) :
    o.name.toBytes = name := by
  simpa using List.find?_some h

theorem ofLetter?_letter (s : Setting) : ofLetter? s.letter = some (.setting s) := by
  cases s <;> decide

/-- A letter that is read as an option without a value is the one of `verbose`, or one that
inquires. -/
theorem letter_of_ofLetter? {b : UInt8} {o : CommandOption} (h : ofLetter? b = some o) :
    o.letter?.map (fun c => Text.toBytes [c]) = some [b] := by
  simpa using List.find?_some h

end CommandOption

namespace CommandLine

/-- A value in an argument of its own must not look like an option. -/
def StandsAlone (value : Bytes) : Prop := value.head? = some dash → value = [dash]

/-- A value that may follow the letter of its setting directly. -/
def Adjoins (value : Bytes) : Prop := value ≠ [] ∧ value.head? ≠ some equals

instance (value : Bytes) : Decidable (StandsAlone value) :=
  inferInstanceAs (Decidable (_ → _))

instance (value : Bytes) : Decidable (Adjoins value) :=
  inferInstanceAs (Decidable (_ ∧ _))

variable {p q r : Progress} {a : Arguments} {arguments rest : List Bytes} {body letters : Bytes}

/-- The letter of `verbose`. -/
def loud : UInt8 := 'v'.toUInt8

/-! ## One argument -/

theorem splitEquals_name (o : CommandOption) : splitEquals o.name.toBytes = (o.name.toBytes, none) := by
  have hdrop : o.name.toBytes.dropWhile (· != equals) = [] :=
    List.dropWhile_eq_nil_iff.mpr o.ne_equals_of_mem_name
  unfold splitEquals
  rw [hdrop]

theorem splitEquals_name_append (o : CommandOption) (value : Bytes) :
    splitEquals (o.name.toBytes ++ equals :: value) = (o.name.toBytes, some value) := by
  unfold splitEquals
  rw [List.dropWhile_append_of_pos o.ne_equals_of_mem_name,
    List.takeWhile_append_of_pos o.ne_equals_of_mem_name]
  simp

theorem eq_of_splitEquals (body : Bytes) :
    body = (splitEquals body).1 ++ (splitEquals body).2.elim [] (equals :: ·) := by
  have hsplit := List.takeWhile_append_dropWhile (p := (· != equals)) (l := body)
  unfold splitEquals
  split
  · simp
  · rename_i b value hdrop
    have hb : b = equals := by
      have := List.head_dropWhile_not (· != equals) (l := body) (by simp [hdrop])
      simpa [hdrop] using this
    rw [hdrop, hb] at hsplit
    exact hsplit.symm

theorem readLong_name (p : Progress) (o : CommandOption) :
    readLong p o.name.toBytes = p.take o none := by
  unfold readLong
  rw [splitEquals_name]
  simp only [CommandOption.ofName?_name]
  cases o <;> rfl

theorem readLong_equals (p : Progress) (s : Setting) (value : Bytes) :
    readLong p ((CommandOption.setting s).name.toBytes ++ equals :: value) =
      p.take (.setting s) (some value) := by
  unfold readLong
  rw [splitEquals_name_append]
  simp only [CommandOption.ofName?_name]

theorem of_readLong (h : readLong p body = .ok q) :
    (∃ s : Setting, body = (CommandOption.setting s).name.toBytes) ∨
      (∃ s value, body = (CommandOption.setting s).name.toBytes ++ equals :: value) ∨
      ∃ s : Switch, body = (CommandOption.switch s).name.toBytes := by
  have hbody := eq_of_splitEquals body
  unfold readLong at h
  generalize splitEquals body = parts at h hbody
  obtain ⟨name, attached⟩ := parts
  simp only at h hbody
  cases ho : CommandOption.ofName? name with
  | none =>
    rw [ho] at h
    cases h
  | some o =>
    rw [ho] at h
    rw [← CommandOption.name_of_ofName? ho] at hbody
    rcases o with s | s | i
    · cases attached with
      | none => exact Or.inl ⟨s, by simpa using hbody⟩
      | some value => exact Or.inr (Or.inl ⟨s, value, hbody⟩)
    · cases attached with
      | none => exact Or.inr (Or.inr ⟨s, by simpa using hbody⟩)
      | some value => cases h
    · cases attached with
      | none => exact absurd h Progress.take_inquiry
      | some value => cases h

theorem readLetters_setting (p : Progress) (s : Setting) :
    readLetters p [s.letter] = p.take (.setting s) none := by
  cases s <;> rfl

theorem readLetters_equals (p : Progress) (s : Setting) (value : Bytes) :
    readLetters p (s.letter :: equals :: value) = p.take (.setting s) (some value) := by
  cases s <;> rfl

theorem readLetters_joined (p : Progress) (s : Setting) {value : Bytes} (h : Adjoins value) :
    readLetters p (s.letter :: value) = p.take (.setting s) (some value) := by
  obtain ⟨hne, hhead⟩ := h
  rw [readLetters, CommandOption.ofLetter?_letter]
  dsimp only
  split
  · exact absurd rfl hne
  · exact absurd rfl hhead
  · rfl

theorem letters_cases (letters : Bytes) :
    letters = [] ∨ (∃ value, letters = equals :: value) ∨ Adjoins letters := by
  cases letters with
  | nil => exact Or.inl rfl
  | cons b value =>
    by_cases hb : b = equals
    · exact Or.inr (Or.inl ⟨value, by rw [hb]⟩)
    · exact Or.inr (Or.inr ⟨by simp, by simpa using hb⟩)

theorem readLetters_verbose (p : Progress) (letters : Bytes) :
    readLetters p (loud :: letters) =
      p.take (.switch .verbose) none >>= fun q => readLetters q letters := rfl

theorem of_readLetters {b : UInt8} (h : readLetters p (b :: letters) = .ok q) :
    (∃ s : Setting, b = s.letter) ∨ b = loud := by
  rw [readLetters] at h
  cases ho : CommandOption.ofLetter? b with
  | none =>
    rw [ho] at h
    cases h
  | some o =>
    have hletter := CommandOption.letter_of_ofLetter? ho
    rcases o with s | s | i
    · left
      cases s
      · exact ⟨.suite, (List.head_eq_of_cons_eq (Option.some.inj hletter)).symm⟩
      · exact ⟨.path, (List.head_eq_of_cons_eq (Option.some.inj hletter)).symm⟩
    · right
      cases s
      · cases hletter
      · exact (List.head_eq_of_cons_eq (Option.some.inj hletter)).symm
    · rw [ho] at h
      obtain ⟨r, hr, -⟩ := bind_eq_ok.mp h
      exact absurd hr Progress.take_inquiry

theorem of_readPlain {argument : Bytes} (h : readPlain p argument = .ok q) :
    ∃ s, p.pending = some ⟨s, none⟩ := by
  unfold readPlain at h
  split at h
  · rename_i s hs
    exact ⟨s, hs⟩
  · cases h

/-! ## The arguments that are left -/

/-- The two dashes that end the options. -/
def closing : Bytes := [dash, dash]

/-- What the next argument can be. -/
inductive Form : List Bytes → Prop
  | done : Form []
  | closed : Form [closing]
  | beyond (argument : Bytes) (rest : List Bytes) : Form (closing :: argument :: rest)
  | long (body : Bytes) (rest : List Bytes) (h : body ≠ []) :
    Form ((dash :: dash :: body) :: rest)
  | letters (b : UInt8) (letters : Bytes) (rest : List Bytes) (h : b ≠ dash) :
    Form ((dash :: b :: letters) :: rest)
  | plain (argument : Bytes) (rest : List Bytes) (h : StandsAlone argument) :
    Form (argument :: rest)

theorem form (arguments : List Bytes) : Form arguments := by
  cases arguments with
  | nil => exact .done
  | cons argument rest =>
    by_cases halone : StandsAlone argument
    · exact .plain argument rest halone
    · obtain ⟨hhead, hne⟩ := Classical.not_imp.mp halone
      obtain ⟨body, rfl⟩ := List.head?_eq_some_iff.mp hhead
      cases body with
      | nil => exact absurd rfl hne
      | cons b letters =>
        by_cases hb : b = dash
        · subst hb
          cases letters with
          | cons b body => exact .long (b :: body) rest (by simp)
          | nil =>
            cases rest with
            | nil => exact .closed
            | cons argument rest => exact .beyond argument rest
        · exact .letters b letters rest hb

/-- Reading goes to the end, and there the arguments ask for `a`. -/
def Reads (p : Progress) (arguments : List Bytes) (a : Arguments) : Prop :=
  ∃ q, readAll p arguments = .ok q ∧ q.finish = .ok a

theorem read_eq_ok : read arguments = .ok a ↔ Reads {} arguments a := bind_eq_ok

theorem reads_nil : Reads p [] a ↔ p.finish = .ok a := by
  simp [Reads, readAll]

theorem reads_closing : Reads p [closing] a ↔ p.finish = .ok a := by
  show (∃ q, Except.ok p = .ok q ∧ _) ↔ _
  simp

theorem not_reads_beyond (argument : Bytes) : ¬ Reads p (closing :: argument :: rest) a := by
  rintro ⟨q, hq, -⟩
  cases hq

theorem reads_of_bind {first : Except Stop Progress}
    (h : readAll p arguments = first >>= fun q => readAll q rest) :
    Reads p arguments a ↔ ∃ q, first = .ok q ∧ Reads q rest a := by
  unfold Reads
  rw [h]
  exact exists_bind_eq_ok

theorem reads_long (h : body ≠ []) :
    Reads p ((dash :: dash :: body) :: rest) a ↔
      ∃ q, readLong p body = .ok q ∧ Reads q rest a := by
  cases body with
  | nil => exact absurd rfl h
  | cons b body => exact reads_of_bind rfl

theorem reads_letters {b : UInt8} (h : b ≠ dash) :
    Reads p ((dash :: b :: letters) :: rest) a ↔
      ∃ q, readLetters p (b :: letters) = .ok q ∧ Reads q rest a := by
  refine reads_of_bind (readAll.eq_5 p b letters rest ?_ ?_ h)
  · exact fun _ e _ => h e
  · exact fun _ _ _ e _ => h e

theorem reads_plain {argument : Bytes} (h : StandsAlone argument) :
    Reads p (argument :: rest) a ↔ ∃ q, readPlain p argument = .ok q ∧ Reads q rest a := by
  have hshort : ∀ b letters, argument ≠ dash :: b :: letters := by
    rintro b letters rfl
    exact absurd (h rfl) (by simp)
  refine reads_of_bind (readAll.eq_6 p argument rest ?_ ?_ ?_ ?_)
  · exact fun e _ => hshort _ _ e
  · exact fun _ _ e _ => hshort _ _ e
  · exact fun _ e => hshort _ _ e
  · exact fun _ _ e => hshort _ _ e

/-- An argument with options is read by taking the first of them. -/
theorem readLong_takes (h : readLong p body = .ok q) :
    ∃ o attached f, ∀ p, readLong p body = Progress.take p o attached >>= f := by
  obtain ⟨s, rfl⟩ | ⟨s, value, rfl⟩ | ⟨s, rfl⟩ := of_readLong h
  · exact ⟨.setting s, none, pure, fun p => by rw [readLong_name, bind_pure]⟩
  · exact ⟨.setting s, some value, pure, fun p => by rw [readLong_equals, bind_pure]⟩
  · exact ⟨.switch s, none, pure, fun p => by rw [readLong_name, bind_pure]⟩

theorem readLetters_takes {b : UInt8} (h : readLetters p (b :: letters) = .ok q) :
    ∃ o attached f, ∀ p, readLetters p (b :: letters) = Progress.take p o attached >>= f := by
  obtain ⟨s, rfl⟩ | rfl := of_readLetters h
  · obtain rfl | ⟨value, rfl⟩ | hvalue := letters_cases letters
    · exact ⟨.setting s, none, pure, fun p => by rw [readLetters_setting, bind_pure]⟩
    · exact ⟨.setting s, some value, pure, fun p => by rw [readLetters_equals, bind_pure]⟩
    · exact ⟨.setting s, some letters, pure, fun p => by
        rw [readLetters_joined p s hvalue, bind_pure]⟩
  · exact ⟨.switch .verbose, none, fun q => readLetters q letters,
      fun p => readLetters_verbose p letters⟩

theorem reads_settle_of_takes {first : Progress → Except Stop Progress}
    (hfirst : ∀ p, Reads p arguments a ↔ ∃ r, first p = .ok r ∧ Reads r rest a)
    (htakes : ∀ p r, first p = .ok r → ∃ o attached f, ∀ p, first p = p.take o attached >>= f) :
    Reads p arguments a ↔ ∃ q, p.settle = .ok q ∧ Reads q arguments a := by
  constructor
  · intro h
    obtain ⟨r, hr, hrest⟩ := (hfirst p).mp h
    obtain ⟨o, attached, f, hf⟩ := htakes p r hr
    rw [hf] at hr
    obtain ⟨t, ht, hr⟩ := bind_eq_ok.mp hr
    obtain ⟨q, hq, ht⟩ := Progress.take_eq_ok_iff.mp ht
    refine ⟨q, hq, (hfirst q).mpr ⟨r, ?_, hrest⟩⟩
    rw [hf]
    exact bind_eq_ok.mpr ⟨t, ht, hr⟩
  · rintro ⟨q, hq, h⟩
    obtain ⟨r, hr, hrest⟩ := (hfirst q).mp h
    obtain ⟨o, attached, f, hf⟩ := htakes q r hr
    rw [hf] at hr
    obtain ⟨t, ht, hr⟩ := bind_eq_ok.mp hr
    refine (hfirst p).mpr ⟨r, ?_, hrest⟩
    rw [hf]
    exact bind_eq_ok.mpr ⟨t, Progress.take_eq_ok_iff.mpr ⟨q, hq, ht⟩, hr⟩

/-- A value that was seen may be settled before or after its argument is left. -/
theorem reads_settle (h : ∀ s, p.pending ≠ some ⟨s, none⟩) :
    Reads p arguments a ↔ ∃ q, p.settle = .ok q ∧ Reads q arguments a := by
  cases form arguments with
  | done => simp only [reads_nil, Progress.finish_eq_ok (p := p)]
  | closed => simp only [reads_closing, Progress.finish_eq_ok (p := p)]
  | beyond argument rest => simp [not_reads_beyond]
  | long body rest hbody =>
    exact reads_settle_of_takes (fun p => reads_long hbody) fun p r => readLong_takes
  | letters b letters rest hb =>
    exact reads_settle_of_takes (fun p => reads_letters hb) fun p r => readLetters_takes
  | plain argument rest halone =>
    -- Such an argument is a value, and nothing waits for one on either side.
    constructor
    · intro hreads
      obtain ⟨q, hq, -⟩ := (reads_plain halone).mp hreads
      obtain ⟨s, hs⟩ := of_readPlain hq
      exact absurd hs (h s)
    · rintro ⟨q, hq, hreads⟩
      obtain ⟨r, hr, -⟩ := (reads_plain halone).mp hreads
      obtain ⟨s, hs⟩ := of_readPlain hr
      rw [Progress.pending_of_settle hq] at hs
      cases hs

theorem reads_await (h : p.pending = none) (s : Setting) {value : Bytes}
    (halone : StandsAlone value) :
    Reads (p.await s) (value :: rest) a ↔
      ∃ q, p.make (.setting s value) = .ok q ∧ Reads q rest a := by
  have hread : readPlain (p.await s) value = .ok { p with pending := some ⟨s, some value⟩ } := rfl
  have hsettle : ({ p with pending := some ⟨s, some value⟩ } : Progress).settle =
      p.make (.setting s value) := by
    unfold Progress.settle
    simp only
    rw [← h]
    rfl
  rw [reads_plain halone, hread, ← hsettle, ← reads_settle (by simp)]
  simp

/-- A setting that waits takes the next argument, and only if that may be a value. -/
theorem of_reads_await {s : Setting} (h : Reads (p.await s) arguments a) :
    ∃ value rest, arguments = value :: rest ∧ StandsAlone value := by
  -- An option or the end would have to settle the value first, which is missing.
  have hwaits : ∀ q, (p.await s).settle ≠ .ok q := by
    intro q hq
    cases hq
  cases form arguments with
  | done =>
    obtain ⟨q, hq, -⟩ := Progress.finish_eq_ok.mp (reads_nil.mp h)
    exact absurd hq (hwaits q)
  | closed =>
    obtain ⟨q, hq, -⟩ := Progress.finish_eq_ok.mp (reads_closing.mp h)
    exact absurd hq (hwaits q)
  | beyond argument rest => exact absurd h (not_reads_beyond argument)
  | long body rest hbody =>
    obtain ⟨q, hq, -⟩ := (reads_settle_of_takes (fun p => reads_long hbody)
      fun p r => readLong_takes).mp h
    exact absurd hq (hwaits q)
  | letters b letters rest hb =>
    obtain ⟨q, hq, -⟩ := (reads_settle_of_takes (fun p => reads_letters hb)
      fun p r => readLetters_takes).mp h
    exact absurd hq (hwaits q)
  | plain argument rest halone => exact ⟨argument, rest, rfl, halone⟩

end CommandLine
end SimReport
