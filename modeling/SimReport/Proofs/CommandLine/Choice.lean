/-
What the options of a command line give, apart from how they are spelled.

An option that is read makes choices: it gives a setting its value or raises a
switch.  The choices made so far are those that the progress of reading holds.
A choice is refused if its option was chosen before, if it is a suite that is no
text or if it is an empty path, and is added to those held otherwise.  Choices can therefore all be made exactly
if they choose no option twice, in whatever order they stand, and they end in
the arguments that ask for just these choices (`makeAll_finish_iff`).
-/
import Mathlib.Data.List.Nodup
import SimReport.CommandLine.Reader
import SimReport.Proofs.Text.Utf8

namespace SimReport

/-- What an option gives. -/
inductive Choice
  | setting (s : Setting) (value : Bytes)
  | switch (s : Switch)
  deriving DecidableEq

namespace Choice

def option : Choice → CommandOption
  | setting s _ => .setting s
  | switch s => .switch s

/-- A suite is text, and no path is empty. -/
def Allowed : Choice → Prop
  | setting .suite value => ∃ suite : Text, suite.toBytes = value
  | setting .path value => value ≠ []
  | switch _ => True

end Choice

namespace Arguments

def value (a : Arguments) : Setting → Bytes
  | .suite => a.suite.toBytes
  | .path => a.path

def raises (a : Arguments) : Switch → Bool
  | .noColor => a.noColor
  | .verbose => a.verbose

/-- The choices that ask for these arguments: both settings, and the switches raised. -/
def choices (a : Arguments) : List Choice :=
  [.setting .suite a.suite.toBytes, .setting .path a.path] ++
    (if a.noColor then [.switch .noColor] else []) ++
    (if a.verbose then [.switch .verbose] else [])

theorem setting_mem_choices {a : Arguments} {s : Setting} {value : Bytes} :
    Choice.setting s value ∈ a.choices ↔ a.value s = value := by
  cases s
  · simp [choices, Arguments.value]
    exact eq_comm
  · simp [choices, Arguments.value]
    exact eq_comm

theorem switch_mem_choices {a : Arguments} {s : Switch} :
    Choice.switch s ∈ a.choices ↔ a.raises s = true := by
  cases s <;> simp [choices, raises]

/-- Arguments ask for every option once at most. -/
theorem nodup_option_choices (a : Arguments) : (a.choices.map Choice.option).Nodup := by
  cases hc : a.noColor <;> cases hv : a.verbose <;> simp [choices, Choice.option, hc, hv]

theorem allowed_of_mem_choices {a : Arguments} (h : a.path ≠ []) {c : Choice}
    (hc : c ∈ a.choices) : c.Allowed := by
  cases c with
  | setting s value =>
    obtain rfl := setting_mem_choices.mp hc
    cases s with
    | suite => exact ⟨a.suite, rfl⟩
    | path => exact h
  | switch s => trivial

end Arguments

namespace CommandLine

theorem bind_eq_ok {ε α β : Type} {x : Except ε α} {f : α → Except ε β} {b : β} :
    x >>= f = .ok b ↔ ∃ a, x = .ok a ∧ f a = .ok b := by
  cases x with
  | error e => simp [bind, Except.bind]
  | ok a => simp [bind, Except.bind]

theorem exists_bind_eq_ok {ε α β : Type} {x : Except ε α} {f : α → Except ε β} {P : β → Prop} :
    (∃ b, x >>= f = .ok b ∧ P b) ↔ ∃ a, x = .ok a ∧ ∃ b, f a = .ok b ∧ P b := by
  cases x with
  | error e => simp [bind, Except.bind]
  | ok a => simp [bind, Except.bind]

namespace Progress

variable {p q r : Progress} {a : Arguments}

/-- The choices made so far. -/
def held (p : Progress) : List Choice :=
  [Setting.suite, .path].flatMap (fun s => ((p.value? s).map (Choice.setting s)).toList) ++
    p.switches.map .switch

theorem setting_mem_held {s : Setting} {value : Bytes} :
    Choice.setting s value ∈ p.held ↔ p.value? s = some value := by
  cases s <;> simp [held]

theorem switch_mem_held {s : Switch} : Choice.switch s ∈ p.held ↔ s ∈ p.switches := by
  simp [held]

/-- An option that was chosen. -/
def Chose (p : Progress) (o : CommandOption) : Prop := o ∈ p.held.map Choice.option

theorem chose_setting {s : Setting} : p.Chose (.setting s) ↔ (p.value? s).isSome = true := by
  unfold Chose
  rw [Option.isSome_iff_exists, List.mem_map]
  constructor
  · rintro ⟨c, hc, hoption⟩
    cases c with
    | setting t value =>
      cases hoption
      exact ⟨value, setting_mem_held.mp hc⟩
    | switch t => cases hoption
  · rintro ⟨value, h⟩
    exact ⟨.setting s value, setting_mem_held.mpr h, rfl⟩

theorem chose_switch {s : Switch} : p.Chose (.switch s) ↔ p.isGiven s = true := by
  unfold Chose isGiven
  rw [List.contains_iff_mem, List.mem_map]
  constructor
  · rintro ⟨c, hc, hoption⟩
    cases c with
    | setting t value => cases hoption
    | switch t =>
      cases hoption
      exact switch_mem_held.mp hc
  · intro h
    exact ⟨.switch s, switch_mem_held.mpr h, rfl⟩

/-- Makes a choice. -/
def make (p : Progress) : Choice → Except Stop Progress
  | .setting s value => p.assign s value
  | .switch s => p.raise s

/-- Progress with one more choice. -/
def add (p : Progress) : Choice → Progress
  | .setting .suite value => { p with suite := Utf8.decode? value }
  | .setting .path value => { p with path := some value }
  | .switch s => { p with switches := p.switches ++ [s] }

@[simp] theorem pending_add (p : Progress) (c : Choice) : (p.add c).pending = p.pending := by
  rcases c with ⟨s, value⟩ | s
  · cases s <;> rfl
  · rfl

theorem held_add {c : Choice} (hallowed : c.Allowed) (h : ¬ p.Chose c.option) :
    (p.add c).held.Perm (c :: p.held) := by
  rcases c with ⟨s, value⟩ | s
  · have hnone : p.value? s = none := by
      simpa using mt chose_setting.mpr h
    cases s with
    | suite =>
      obtain ⟨suite, rfl⟩ := hallowed
      have hsuite : p.suite = none := Option.map_eq_none_iff.mp hnone
      have hdecode : Utf8.decode? suite.toBytes = some suite := Utf8.decode?_eq_some_iff.mpr rfl
      simp [held, add, value?, hsuite, hdecode]
    | path =>
      have : p.path = none := hnone
      simp only [held, add, value?, List.flatMap_cons, List.flatMap_nil, this, Option.map_some,
        Option.map_none, Option.toList_some, Option.toList_none, List.append_nil,
        List.append_assoc]
      exact List.perm_middle
  · show (_ ++ (p.switches ++ [s]).map Choice.switch).Perm _
    rw [List.map_append, ← List.append_assoc]
    exact List.perm_append_singleton _ _

theorem chose_add {c : Choice} (hallowed : c.Allowed) (h : ¬ p.Chose c.option) :
    (p.add c).Chose c.option :=
  List.mem_map_of_mem ((held_add hallowed h).mem_iff.mpr List.mem_cons_self)

/-- When a choice is made. -/
theorem make_eq_ok_iff {c : Choice} :
    p.make c = .ok q ↔ ¬ p.Chose c.option ∧ c.Allowed ∧ p.add c = q := by
  rcases c with ⟨s, value⟩ | s
  · show p.assign s value = .ok q ↔ ¬ p.Chose (.setting s) ∧ _
    rw [chose_setting]
    unfold assign
    by_cases hsome : (p.value? s).isSome = true
    · simp [hsome]
    · rw [if_neg hsome]
      cases s with
      | suite =>
        cases hdecode : Utf8.decode? value with
        | none =>
          have hno : ¬ ∃ suite : Text, suite.toBytes = value := by
            rintro ⟨suite, hsuite⟩
            rw [Utf8.decode?_eq_some_iff.mpr hsuite] at hdecode
            cases hdecode
          simp [Choice.Allowed, hno]
        | some suite =>
          have hsuite : ∃ suite : Text, suite.toBytes = value :=
            ⟨suite, Utf8.decode?_eq_some_iff.mp hdecode⟩
          simp [hsome, Choice.Allowed, add, hdecode, hsuite]
      | path =>
        cases value with
        | nil => simp [Choice.Allowed]
        | cons b value => simp [hsome, Choice.Allowed, add]
  · show p.raise s = .ok q ↔ ¬ p.Chose (.switch s) ∧ _
    rw [chose_switch, raise]
    by_cases hgiven : p.isGiven s = true
    · simp [hgiven]
    · simp [hgiven, Choice.Allowed, add]

/-- Makes choices in turn. -/
def makeAll (p : Progress) (cs : List Choice) : Except Stop Progress := cs.foldlM make p

theorem makeAll_append (p : Progress) (cs ds : List Choice) :
    p.makeAll (cs ++ ds) = p.makeAll cs >>= fun q => q.makeAll ds :=
  List.foldlM_append

theorem makeAll_singleton (p : Progress) (c : Choice) : p.makeAll [c] = p.make c := by
  simp [makeAll]

/-- Every option chosen is chosen once. -/
def Orderly (p : Progress) : Prop := (p.held.map Choice.option).Nodup

theorem Orderly.add {c : Choice} (hp : p.Orderly) (hallowed : c.Allowed)
    (h : ¬ p.Chose c.option) : (p.add c).Orderly := by
  unfold Orderly
  rw [((held_add hallowed h).map Choice.option).nodup_iff, List.map_cons, List.nodup_cons]
  exact ⟨h, hp⟩

theorem pending_makeAll {cs : List Choice} (h : p.makeAll cs = .ok q) :
    q.pending = p.pending := by
  induction cs generalizing p with
  | nil =>
    cases h
    rfl
  | cons c cs ih =>
    obtain ⟨r, hr, hrest⟩ := bind_eq_ok.mp h
    obtain ⟨-, -, rfl⟩ := make_eq_ok_iff.mp hr
    exact (ih hrest).trans (p.pending_add c)

theorem makeAll_eq_ok {cs : List Choice} (hp : p.Orderly) (h : p.makeAll cs = .ok q) :
    q.Orderly ∧ q.held.Perm (cs ++ p.held) ∧ ∀ c ∈ cs, c.Allowed := by
  induction cs generalizing p with
  | nil =>
    cases h
    exact ⟨hp, List.Perm.refl _, by simp⟩
  | cons c cs ih =>
    obtain ⟨r, hr, hrest⟩ := bind_eq_ok.mp h
    obtain ⟨hfresh, hallowed, rfl⟩ := make_eq_ok_iff.mp hr
    obtain ⟨horderly, hheld, hall⟩ := ih (hp.add hallowed hfresh) hrest
    refine ⟨horderly, ?_, List.forall_mem_cons.mpr ⟨hallowed, hall⟩⟩
    exact hheld.trans (((held_add hallowed hfresh).append_left cs).trans List.perm_middle)

theorem exists_makeAll {cs : List Choice} (hnodup : ((cs ++ p.held).map Choice.option).Nodup)
    (hallowed : ∀ c ∈ cs, c.Allowed) : ∃ q, p.makeAll cs = .ok q := by
  induction cs generalizing p with
  | nil => exact ⟨p, rfl⟩
  | cons c cs ih =>
    rw [List.forall_mem_cons] at hallowed
    have hfresh : ¬ p.Chose c.option := by
      rw [List.cons_append, List.map_cons, List.nodup_cons, List.map_append] at hnodup
      exact fun h => hnodup.1 (List.mem_append_right _ h)
    have hmoved : (cs ++ (p.add c).held).Perm (c :: cs ++ p.held) :=
      ((held_add hallowed.1 hfresh).append_left cs).trans List.perm_middle
    obtain ⟨q, hq⟩ := ih ((hmoved.map Choice.option).nodup_iff.mpr hnodup) hallowed.2
    exact ⟨q, bind_eq_ok.mpr ⟨p.add c, make_eq_ok_iff.mpr ⟨hfresh, hallowed.1, rfl⟩, hq⟩⟩

theorem finish_eq_ok_iff (hpending : p.pending = none) :
    p.finish = .ok a ↔ ∀ c, c ∈ p.held ↔ c ∈ a.choices := by
  have hfinish : p.finish = .ok a ↔ p.suite = some a.suite ∧ p.path = some a.path ∧
      p.isGiven .noColor = a.noColor ∧ p.isGiven .verbose = a.verbose := by
    unfold finish settle
    rw [hpending]
    simp only [bind, Except.bind]
    cases hsuite : p.suite with
    | none => simp
    | some suite =>
      cases hpath : p.path with
      | none => simp
      | some path =>
        cases a
        simp
  rw [hfinish]
  constructor
  · rintro ⟨hsuite, hpath, hcolor, hverbose⟩ c
    cases c with
    | setting s value =>
      rw [setting_mem_held, Arguments.setting_mem_choices]
      cases s <;> simp [value?, Arguments.value, hsuite, hpath]
    | switch s =>
      rw [switch_mem_held, Arguments.switch_mem_choices, ← List.contains_iff_mem]
      cases s
      · exact Bool.eq_iff_iff.mp hcolor
      · exact Bool.eq_iff_iff.mp hverbose
  · intro h
    have hsetting (s : Setting) : p.value? s = some (a.value s) :=
      setting_mem_held.mp ((h _).mpr (Arguments.setting_mem_choices.mpr rfl))
    have hswitch (s : Switch) : p.isGiven s = a.raises s := by
      rw [Bool.eq_iff_iff, ← Arguments.switch_mem_choices, ← h, switch_mem_held]
      exact List.contains_iff_mem
    have hsuite : p.suite = some a.suite := by
      obtain ⟨suite, hsome, hbytes⟩ := Option.map_eq_some_iff.mp (hsetting .suite)
      rw [hsome, Utf8.toBytes_inj.mp hbytes]
    exact ⟨hsuite, hsetting .path, hswitch .noColor, hswitch .verbose⟩

/-- The choices that end in given arguments: just those the arguments ask for, in
any order. -/
theorem makeAll_finish_iff {cs : List Choice} :
    (∃ q, makeAll {} cs = .ok q ∧ q.finish = .ok a) ↔ cs.Perm a.choices ∧ a.path ≠ [] := by
  have hempty : Orderly {} := List.nodup_nil
  constructor
  · rintro ⟨q, hmake, hfinish⟩
    obtain ⟨horderly, hheld, hallowed⟩ := makeAll_eq_ok hempty hmake
    have hsame : q.held.Perm a.choices := by
      rw [List.perm_ext_iff_of_nodup horderly.of_map a.nodup_option_choices.of_map]
      exact (finish_eq_ok_iff (pending_makeAll hmake)).mp hfinish
    have hperm : cs.Perm a.choices :=
      (hheld.trans (List.Perm.of_eq (List.append_nil cs))).symm.trans hsame
    have hpath : Choice.setting .path a.path ∈ cs :=
      hperm.mem_iff.mpr (Arguments.setting_mem_choices.mpr rfl)
    exact ⟨hperm, hallowed _ hpath⟩
  · rintro ⟨hperm, hpath⟩
    have hallowed : ∀ c ∈ cs, c.Allowed := fun c hc =>
      Arguments.allowed_of_mem_choices hpath (hperm.mem_iff.mp hc)
    obtain ⟨q, hq⟩ : ∃ q, makeAll {} cs = .ok q := by
      refine exists_makeAll ?_ hallowed
      show ((cs ++ []).map Choice.option).Nodup
      rw [List.append_nil, (hperm.map Choice.option).nodup_iff]
      exact a.nodup_option_choices
    obtain ⟨-, hheld, -⟩ := makeAll_eq_ok hempty hq
    refine ⟨q, hq, (finish_eq_ok_iff (pending_makeAll hq)).mpr fun c => ?_⟩
    rw [hheld.mem_iff, ← hperm.mem_iff]
    exact List.mem_append.trans (by simp [held, value?])

/-! ## Options are taken once the value before them is settled -/

theorem settle_of_none (h : p.pending = none) : p.settle = .ok p := by
  unfold settle
  rw [h]

theorem pending_of_settle (h : p.settle = .ok q) : q.pending = none := by
  unfold settle at h
  split at h
  · rename_i hnone
    cases h
    exact hnone
  · cases h
  · rename_i s value _
    obtain ⟨-, -, rfl⟩ := make_eq_ok_iff (c := .setting s value).mp h
    exact pending_add _ _

theorem take_eq_ok_iff {o : CommandOption} {attached : Option Bytes} :
    p.take o attached = .ok r ↔ ∃ q, p.settle = .ok q ∧ q.take o attached = .ok r := by
  unfold take
  rw [bind_eq_ok]
  refine exists_congr fun q => and_congr_right fun hq => ?_
  rw [settle_of_none (pending_of_settle hq)]
  rfl

theorem finish_eq_ok : p.finish = .ok a ↔ ∃ q, p.settle = .ok q ∧ q.finish = .ok a := by
  unfold finish
  rw [bind_eq_ok]
  refine exists_congr fun q => and_congr_right fun hq => ?_
  rw [settle_of_none (pending_of_settle hq)]
  rfl

theorem take_inquiry {i : Inquiry} {attached : Option Bytes} :
    p.take (.inquiry i) attached ≠ .ok q := by
  intro h
  obtain ⟨r, -, hr⟩ := bind_eq_ok.mp h
  cases attached <;> cases hr

/-- Progress that waits for the value of a setting. -/
def await (p : Progress) (s : Setting) : Progress := { p with pending := some ⟨s, none⟩ }

section

variable (h : p.pending = none)
include h

theorem take_value (s : Setting) (value : Bytes) :
    p.take (.setting s) (some value) = p.make (.setting s value) := by
  unfold take
  rw [settle_of_none h]
  rfl

theorem take_await (s : Setting) : p.take (.setting s) none = .ok (p.await s) := by
  unfold take
  rw [settle_of_none h]
  rfl

theorem take_switch (s : Switch) : p.take (.switch s) none = p.make (.switch s) := by
  unfold take
  rw [settle_of_none h]
  rfl

end

end Progress
end CommandLine
end SimReport
