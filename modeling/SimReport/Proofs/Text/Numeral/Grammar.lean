/-
The grammar of numbers.

A number is read in three cuts, and each is said here without the reader.  The
blanks on both sides go first, as far as there are any (`Trimmed`).  Then base
sixteen drops one mark, and no other base does (`Unmarked`), so that in base
thirty-six an x stays the digit it is.  What is left must be one or more digits
behind at most one plus sign, and its value is the sum of the digits, each with
its power of the base (`IsNumeral`).

The main statement is `readWord?_grammar`: exactly the numerals below 2^64 are
read, each as its value.  A refusal is thus decided by the value and not by the
length, and however many zeros stand in front of a number, it stays the same.
-/
import Mathlib.Data.Nat.Digits.Lemmas
import SimReport.Proofs.Text.Numeral

namespace SimReport

/-! ## Digits -/

namespace Radix

def digitSigns : Text := "0123456789abcdefghijklmnopqrstuvwxyz".toList

/-- The character is the sign of the digit, where a letter may be of either case. -/
def IsDigit (r : Radix) (c : Char) (d : Nat) : Prop :=
  d < r.base ∧ digitSigns[d]? = some c.toLower

instance (r : Radix) (c : Char) (d : Nat) : Decidable (r.IsDigit c d) :=
  inferInstanceAs (Decidable (d < r.base ∧ digitSigns[d]? = some c.toLower))

variable {r : Radix} {c : Char} {d : Nat}

/-- The sign of a digit, a letter being of lower case. -/
def sign (d : Nat) : Char := digitSigns.getD d '0'

theorem getElem?_digitSigns : ∀ d < 36, digitSigns[d]? = some (sign d).toLower := by
  decide +kernel

theorem isDigit_sign (hd : d < r.base) : r.IsDigit (sign d) d :=
  ⟨hd, getElem?_digitSigns d (Nat.lt_of_lt_of_le hd r.le_thirtySix)⟩

/-- The base in which every letter is a digit. -/
def largest : Radix := ⟨36, by decide, by decide⟩

theorem digit?_eq_some_iff_largest :
    r.digit? c = some d ↔ d < r.base ∧ largest.digit? c = some d := by
  have hle := r.le_thirtySix
  simp only [digit?, largest, Option.filter_eq_some_iff, decide_eq_true_eq]
  constructor
  · rintro ⟨hvalue, hd⟩
    exact ⟨hd, hvalue, decide_eq_true (Nat.lt_of_lt_of_le hd hle)⟩
  · rintro ⟨hd, hvalue, -⟩
    exact ⟨hvalue, hd⟩

theorem digit?_largest_sign : ∀ d < 36, largest.digit? (sign d) = some d := by decide +kernel

theorem digit?_sign (hd : d < r.base) : r.digit? (sign d) = some d :=
  digit?_eq_some_iff_largest.mpr
    ⟨hd, digit?_largest_sign d (Nat.lt_of_lt_of_le hd r.le_thirtySix)⟩

theorem digit?_eq_some_iff : r.digit? c = some d ↔ r.IsDigit c d := by
  constructor
  · intro h
    refine ⟨digit?_lt h, ?_⟩
    have hrange := toNat_of_digit? (r := r) (c := c) (by simp [h])
    simp only [digit?, Option.filter_eq_some_iff] at h
    obtain ⟨hvalue, -⟩ := h
    obtain ⟨n, hn⟩ : ∃ n, c.toNat = n := ⟨_, rfl⟩
    obtain rfl : c = Char.ofNat n := by rw [← hn, Char.ofNat_toNat]
    rw [hn] at hrange
    clear hn
    rcases hrange with ⟨hlow, hhigh⟩ | ⟨hlow, hhigh⟩ | ⟨hlow, hhigh⟩ <;>
      interval_cases n <;> cases hvalue <;> rfl
  · rintro ⟨hd, hsign⟩
    -- The sign that stands at the place of the digit is the one in lower case.
    have hplace := (isDigit_sign hd).2
    have hlower : (sign d).toLower = c.toLower := Option.some.inj (hplace.symm.trans hsign)
    rw [← digit?_toLower, ← hlower, digit?_toLower, digit?_sign hd]

/-- The numeral of a number, without leading zeros. -/
def render (r : Radix) (n : Nat) : Text :=
  if n = 0 then ['0'] else ((Nat.digits r.base n).map sign).reverse

end Radix

namespace Text

/-! ## The cuts -/

/-- What is left of a text between the blanks on both sides. -/
def Trimmed (t body : Text) : Prop :=
  ∃ left right, t = left ++ (body ++ right) ∧
    (∀ c ∈ left, isBlank c = true) ∧ (∀ c ∈ right, isBlank c = true) ∧
    (∀ c, body.head? = some c → isBlank c = false) ∧
    ∀ c, body.getLast? = some c → isBlank c = false

/-- What is left when a base drops its mark.  Only one is dropped, and only in base sixteen. -/
inductive Unmarked (r : Radix) : Text → Text → Prop
  | lower (rest : Text) : r.base = 16 → Unmarked r ('0' :: 'x' :: rest) rest
  | upper (rest : Text) : r.base = 16 → Unmarked r ('0' :: 'X' :: rest) rest
  | plain (body : Text) :
      (r.base = 16 → ¬ ['0', 'x'] <+: body ∧ ¬ ['0', 'X'] <+: body) → Unmarked r body body

/-- One or more digits with the value `n`, behind at most one plus sign. -/
def IsNumeral (r : Radix) (t : Text) (n : Nat) : Prop :=
  ∃ sign ∈ signs, ∃ digits values, t = sign ++ digits ∧ digits ≠ [] ∧
    -- `Nat.ofDigits` takes the least significant digit first.
    List.Forall₂ r.IsDigit digits.reverse values ∧ Nat.ofDigits r.base values = n

theorem trimmed_iff {t body : Text} : Trimmed t body ↔ trim t = body := by
  constructor
  · rintro ⟨left, right, rfl, hleft, hright, hhead, hlast⟩
    exact trim_of_ends hleft hright hhead hlast
  · rintro rfl
    have hfront := List.takeWhile_append_dropWhile (p := isBlank) (l := t)
    have hback := List.takeWhile_append_dropWhile (p := isBlank)
      (l := (t.dropWhile isBlank).reverse)
    have hsplit := congrArg List.reverse hback
    rw [List.reverse_append, List.reverse_reverse] at hsplit
    refine ⟨t.takeWhile isBlank, ((t.dropWhile isBlank).reverse.takeWhile isBlank).reverse,
      ?_, ?_, ?_, ?_, ?_⟩
    · rw [trim, hsplit, hfront]
    · intro c hc
      exact List.mem_takeWhile_imp hc
    · intro c hc
      exact List.mem_takeWhile_imp (List.mem_reverse.mp hc)
    · intro c hc
      -- The first character that is left is the first that is no blank.
      have hstart : (t.dropWhile isBlank).head? = some c := by
        rw [← hsplit, List.head?_append]
        exact Option.or_eq_some_iff.mpr (Or.inl hc)
      have hstop := List.head?_dropWhile_not isBlank t
      rw [hstart] at hstop
      simpa using hstop
    · intro c hc
      rw [trim, List.getLast?_reverse] at hc
      have hstop := List.head?_dropWhile_not isBlank (t.dropWhile isBlank).reverse
      rw [hc] at hstop
      simpa using hstop

theorem unmarked_iff {r : Radix} {body rest : Text} :
    Unmarked r body rest ↔ unmarked r body = rest := by
  constructor
  · rintro (⟨_, hr⟩ | ⟨_, hr⟩ | ⟨_, hplain⟩)
    · exact if_pos hr
    · exact if_pos hr
    · rw [unmarked]
      split
      · next hr =>
        obtain ⟨hx, hX⟩ := hplain hr
        unfold dropHexMark
        split
        · next t => exact absurd (List.prefix_append ['0', 'x'] t) hx
        · next t => exact absurd (List.prefix_append ['0', 'X'] t) hX
        · rfl
      · rfl
  · rintro rfl
    rw [unmarked]
    split
    · next hr =>
      unfold dropHexMark
      split
      · exact .lower _ hr
      · exact .upper _ hr
      · next hx hX =>
        refine .plain body fun _ => ⟨?_, ?_⟩
        · rintro ⟨t, rfl⟩
          exact hx t rfl
        · rintro ⟨t, rfl⟩
          exact hX t rfl
    · next hr => exact .plain body fun h => absurd h hr

/-! ## The value -/

theorem digitsValue?_eq_some_iff {r : Radix} {t : Text} {n : Nat} :
    digitsValue? r t = some n ↔
      ∃ values, List.Forall₂ r.IsDigit t.reverse values ∧ Nat.ofDigits r.base values = n := by
  induction t using List.reverseRecOn generalizing n with
  | nil => simp [digitsValue?]
  | append_singleton t c ih =>
    rw [digitsValue?_concat, List.reverse_append, List.reverse_singleton, List.singleton_append]
    simp only [Option.bind_eq_some_iff, Option.map_eq_some_iff, Radix.digit?_eq_some_iff, ih,
      List.forall₂_cons_left_iff]
    constructor
    · rintro ⟨_, ⟨values, hvalues, rfl⟩, d, hd, rfl⟩
      refine ⟨d :: values, ⟨d, values, hd, hvalues, rfl⟩, ?_⟩
      rw [Nat.ofDigits_cons, Nat.mul_comm, Nat.add_comm]
    · rintro ⟨_, ⟨d, values, hd, hvalues, rfl⟩, rfl⟩
      refine ⟨_, ⟨values, hvalues, rfl⟩, d, hd, ?_⟩
      rw [Nat.ofDigits_cons, Nat.mul_comm, Nat.add_comm]

theorem digitsValue?_render (r : Radix) (n : Nat) : digitsValue? r (r.render n) = some n := by
  rw [Radix.render]
  split
  · next hn =>
    rw [hn]
    exact digitsValue?_zeros r 1 []
  · refine digitsValue?_eq_some_iff.mpr ⟨Nat.digits r.base n, ?_, Nat.ofDigits_digits r.base n⟩
    rw [List.reverse_reverse, List.forall₂_map_left_iff, List.forall₂_same]
    intro d hd
    exact Radix.isDigit_sign (Nat.digits_lt_base r.two_le hd)

theorem render_ne_nil (r : Radix) (n : Nat) : r.render n ≠ [] := by
  rw [Radix.render]
  split
  · exact List.cons_ne_nil _ _
  · next hn =>
    rw [ne_eq, List.reverse_eq_nil_iff, List.map_eq_nil_iff]
    exact Nat.digits_ne_nil_iff_ne_zero.mpr hn

/-! ## Reading -/

theorem readWord?_eq_some_iff_isNumeral {r : Radix} {t : Text} {w : UInt64} :
    readWord? r t = some w ↔
      ∃ body rest, Trimmed t body ∧ Unmarked r body rest ∧ IsNumeral r rest w.toNat := by
  have hread : readWord? r t = (natural? r (dropPlus (unmarked r (trim t)))).bind word? := rfl
  simp only [trimmed_iff, unmarked_iff]
  constructor
  · intro h
    rw [hread, Option.bind_eq_some_iff] at h
    obtain ⟨n, hn, hw⟩ := h
    obtain ⟨hne, hvalue⟩ := natural?_eq_some_iff.mp hn
    obtain ⟨values, hvalues, hsum⟩ := digitsValue?_eq_some_iff.mp hvalue
    obtain ⟨sign, hsign, hrest⟩ := eq_append_dropPlus (unmarked r (trim t))
    refine ⟨_, _, rfl, rfl, sign, hsign, _, values, hrest, hne, hvalues, ?_⟩
    rw [hsum, word?_eq_some_iff.mp hw]
  · rintro ⟨_, _, rfl, rfl, sign, hsign, digits, values, hrest, hne, hvalues, hsum⟩
    have hvalue := digitsValue?_eq_some_iff.mpr ⟨values, hvalues, hsum⟩
    obtain ⟨mark, hmark, hbody⟩ := eq_append_unmarked r (trim t)
    rw [hrest] at hbody
    exact readWord?_eq_some_iff.mpr ⟨mark, hmark, sign, hsign, digits, hne, hbody, hvalue⟩

theorem readWord?_eq_none_iff {r : Radix} {t : Text} :
    readWord? r t = none ↔
      ∀ body rest n, Trimmed t body → Unmarked r body rest → n < 2 ^ 64 → ¬ IsNumeral r rest n := by
  constructor
  · intro hnone body rest n hbody hrest hn hnumeral
    have hword : (UInt64.ofNatLT n hn).toNat = n := UInt64.toNat_ofNatLT ..
    rw [← hword] at hnumeral
    have hsome := readWord?_eq_some_iff_isNumeral.mpr ⟨body, rest, hbody, hrest, hnumeral⟩
    rw [hnone] at hsome
    cases hsome
  · intro h
    refine Option.eq_none_iff_forall_ne_some.mpr fun w hw => ?_
    obtain ⟨body, rest, hbody, hrest, hnumeral⟩ := readWord?_eq_some_iff_isNumeral.mp hw
    exact h body rest w.toNat hbody hrest w.toNat_lt hnumeral

/-- What may stand around the digits of a number. -/
structure Frame (r : Radix) where
  left : Text := []
  mark : Text := []
  sign : Text := []
  right : Text := []
  left_blank : ∀ c ∈ left, isBlank c = true := by exact List.all_eq_true.mp (by decide)
  mark_mem : mark ∈ marksOf r := by decide
  sign_mem : sign ∈ signs := by decide
  right_blank : ∀ c ∈ right, isBlank c = true := by exact List.all_eq_true.mp (by decide)

namespace Frame

variable {r : Radix}

def around (frame : Frame r) (digits : Text) : Text :=
  frame.left ++ (frame.mark ++ (frame.sign ++ digits) ++ frame.right)

/-- In any frame digits are read as their value, if that is a word. -/
theorem readWord?_around (frame : Frame r) {digits : Text} (hne : digits ≠ [])
    (hdigits : ∀ c ∈ digits, r.digit? c ≠ none) :
    readWord? r (frame.around digits) = (digitsValue? r digits).bind word? := by
  refine readWord?_of_trim frame.mark_mem frame.sign_mem hne hdigits ?_
  refine trim_pad frame.left_blank frame.right_blank fun c hc => ?_
  rcases List.mem_append.mp hc with hc | hc
  · exact not_isBlank_of_mem_marksOf frame.mark_mem c hc
  · rcases List.mem_append.mp hc with hc | hc
    · exact not_isBlank_of_mem_signs frame.sign_mem c hc
    · exact Radix.not_isBlank_of_digit? (hdigits c hc)

end Frame

/-- A text is read exactly if it is a numeral below 2^64 once it is trimmed and its mark is dropped,
and it is read as the value of that.  Zeros in front change nothing, and each word is read back from
its numeral in whatever frame and in letters of either case. -/
theorem readWord?_grammar (r : Radix) :
    (∀ t w, readWord? r t = some w ↔
      ∃ body rest, Trimmed t body ∧ Unmarked r body rest ∧ IsNumeral r rest w.toNat) ∧
    (∀ t, readWord? r t = none ↔
      ∀ body rest n, Trimmed t body → Unmarked r body rest → n < 2 ^ 64 → ¬ IsNumeral r rest n) ∧
    (∀ (frame : Frame r) (zeros : Nat) (digits : Text), digits ≠ [] →
      (∀ c ∈ digits, ∃ d, r.IsDigit c d) →
      readWord? r (frame.around (List.replicate zeros '0' ++ digits)) =
        readWord? r (frame.around digits)) ∧
    ∀ (frame : Frame r) (zeros : Nat) (digits : Text) (w : UInt64),
      digits.map Char.toLower = List.replicate zeros '0' ++ r.render w.toNat →
      readWord? r (frame.around digits) = some w := by
  refine ⟨fun t w => readWord?_eq_some_iff_isNumeral, fun t => readWord?_eq_none_iff, ?_, ?_⟩
  · intro frame zeros digits hne hdigits
    have hsigns : ∀ c ∈ digits, r.digit? c ≠ none := by
      intro c hc
      obtain ⟨d, hd⟩ := hdigits c hc
      rw [Radix.digit?_eq_some_iff.mpr hd]
      exact Option.some_ne_none d
    have hzeros : ∀ c ∈ List.replicate zeros '0' ++ digits, r.digit? c ≠ none := by
      intro c hc
      rcases List.mem_append.mp hc with hc | hc
      · rw [List.eq_of_mem_replicate hc, r.digit?_zero]
        exact Option.some_ne_none 0
      · exact hsigns c hc
    rw [frame.readWord?_around (by simp [hne]) hzeros, frame.readWord?_around hne hsigns,
      digitsValue?_zeros]
  · intro frame zeros digits w hlower
    have hvalue : digitsValue? r digits = some w.toNat := by
      rw [← digitsValue?_map_toLower, hlower, digitsValue?_zeros, digitsValue?_render]
    have hne : digits ≠ [] := by
      rintro rfl
      exact render_ne_nil r w.toNat (List.append_eq_nil_iff.mp hlower.symm).2
    rw [frame.readWord?_around hne fun c hc => digit?_of_digitsValue? hvalue hc, hvalue,
      Option.bind_some, word?_eq_some_iff]

/-- The largest word behind a mark, a sign and zeros, the next number, which is refused with zeros
as well, and a base in which the mark is digits. -/
theorem readWord?_outermost :
    readWord? .hexadecimal "\u3000 0X+00FFffFFFFffffFFFF\r\n".toList = some 18446744073709551615 ∧
      readWord? .decimal "00018446744073709551616".toList = none ∧
      readWord? Radix.largest "0xZ".toList = some 1223 := by
  obtain ⟨-, -, hzeros, -⟩ := readWord?_grammar .decimal
  refine ⟨?_, ?_, ?_⟩
  · obtain ⟨-, -, -, hread⟩ := readWord?_grammar .hexadecimal
    let frame : Frame .hexadecimal :=
      { left := "\u3000 ".toList, mark := ['0', 'X'], sign := ['+'], right := "\r\n".toList }
    exact hread frame 2 "00FFffFFFFffffFFFF".toList 18446744073709551615 (by decide +kernel)
  · have hdigits : ∀ c ∈ "18446744073709551616".toList, ∃ d, Radix.decimal.IsDigit c d := by
      intro c hc
      have hvalue : digitsValue? .decimal "18446744073709551616".toList =
          some 18446744073709551616 := by decide +kernel
      obtain ⟨d, hd⟩ := Option.ne_none_iff_exists'.mp (digit?_of_digitsValue? hvalue hc)
      exact ⟨d, Radix.digit?_eq_some_iff.mp hd⟩
    have hnone : readWord? .decimal "18446744073709551616".toList = none := by decide +kernel
    exact (hzeros {} 3 "18446744073709551616".toList (by decide) hdigits).trans hnone
  · decide +kernel

end Text
end SimReport
